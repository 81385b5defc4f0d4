/-
Module: Parley.Proofs.Transcript.Written
Layer: Proofs
Purpose: What was written is read back as it was: a turn, a transcript line by line, and a list of
  system messages, whatever characters they hold.
Main exports: Turn.ofText?_text, Transcript.ofLines_lines, Json.decode?_prettyTexts
-/
import Parley.Proofs.Json.Written
import Parley.Transcript.Written

namespace Parley

open Json (Document Writes WrittenMember Decoder)

/-- A decoder that takes the document of each item to the item takes the list to the list. -/
theorem Json.list_document {α : Type} {decoder : Decoder α} {document : α → Document}
    {depth : Nat} {items : List α}
    (each : ∀ item ∈ items, decoder depth (document item) = some item) :
    Decoder.list decoder (depth + 1) (.list (items.map document)) = some items := by
  have read : (items.map document).mapM (decoder depth) = some items := by
    induction items with
    | nil => rfl
    | cons item items ih =>
        have others := ih fun other member => each other (List.mem_cons_of_mem _ member)
        simp [each item List.mem_cons_self, others]
  exact read

/-- Texts one a line are read back as the texts. -/
theorem Json.decode?_prettyTexts (texts : List String) :
    Json.decode? (Decoder.list Decoder.text) (String.ofList (Json.prettyTexts texts)) =
      some texts := by
  rw [Json.decode?, (Json.writes_prettyTexts texts).parse?]
  exact Json.list_document fun _ _ => rfl

/-! ### Members -/

namespace Json.Members

variable {α : Type} {members : Json.Members} {name : String}

/-- A member that is given is read. -/
theorem withDefault_of_lookup {document : Document}
    (found : members.given.lookup name = some document) (default : α) (decoder : Decoder α) :
    members.withDefault name default decoder = decoder members.depth document := by
  simp [withDefault, found]

/-- A member that is written only if it is there is read as it was. -/
theorem withDefault_option {value? : Option String}
    (found : members.given.lookup name = value?.map fun value => .text (some value)) :
    members.withDefault name none (Decoder.optional Decoder.text) = some value? := by
  cases value? with
  | none => simp [withDefault, found]
  | some value => exact withDefault_of_lookup found none _

end Json.Members

/-- Members with some of the declared names, in their order, are all taken. -/
theorem Json.members?_written {names : List String} {members : List WrittenMember}
    (declared : (members.map (·.1)).Sublist names) (distinct : names.Nodup) (depth : Nat) :
    Json.members? .json names (depth + 1)
        (.record (members.map fun member => (some member.1, member.2.2))) =
      some ⟨depth, members.map fun member => (member.1, member.2.2)⟩ := by
  have named : ∀ members : List WrittenMember,
      (members.map fun member => (some member.1, member.2.2)).mapM
          (fun member : Option String × Document => member.1.map fun name => (name, member.2)) =
        some (members.map fun member => (member.1, member.2.2)) := by
    intro members
    induction members with
    | nil => rfl
    | cons member members ih => simp [ih]
  have known : (members.map fun member => (member.1, member.2.2)).filter
      (fun member => names.contains member.1) =
        members.map fun member => (member.1, member.2.2) := by
    apply List.filter_eq_self.2
    intro given isGiven
    obtain ⟨member, isMember, rfl⟩ := List.mem_map.1 isGiven
    simpa using declared.subset (List.mem_map_of_mem isMember)
  simp only [Json.members?, named, Option.bind_eq_bind, Option.bind_some, known]
  rw [if_pos (by simpa [Function.comp_def] using declared.nodup distinct)]

/-! ### Requests -/

namespace ToolRequest

/-- The members of a request. -/
def written (request : ToolRequest) : List WrittenMember :=
  [("id", Json.quoted request.id, .text (some request.id)),
    ("function_name", Json.quoted request.tool, .text (some request.tool)),
    ("raw_arguments", Json.quoted request.arguments, .text (some request.arguments))]

/-- The document of a request. -/
def document (request : ToolRequest) : Document :=
  .record (request.written.map fun member => (some member.1, member.2.2))

theorem writes_chars (request : ToolRequest) : Writes request.chars request.document := by
  refine Json.writes_recordChars request.written ?_
  simp only [written, List.mem_cons, List.not_mem_nil, or_false]
  rintro member (rfl | rfl | rfl)
  · exact Json.writes_quoted _
  · exact Json.writes_quoted _
  · exact Json.writes_quoted _

theorem decoder_document (request : ToolRequest) (depth : Nat) :
    decoder (depth + 1) request.document = some request := rfl

end ToolRequest

/-! ### Turns -/

namespace Turn

/-- The member for an optional text. -/
def writtenOption (name : String) : Option String → List WrittenMember
  | none => []
  | some value => [(name, Json.quoted value, .text (some value))]

/-- The member for the requests. -/
def writtenRequests (requests : List ToolRequest) : List WrittenMember :=
  if requests.isEmpty then []
  else [("tool_calls", Json.listChars (requests.map ToolRequest.chars),
    .list (requests.map ToolRequest.document))]

/-- The members of a turn. -/
def written (turn : Turn) : List WrittenMember :=
  [("id", Json.natChars turn.id.toNat, .number (some (.int turn.id.toNat))),
      ("role", Json.quoted turn.role.name, .text (some turn.role.name)),
      ("content", Json.quoted turn.content, .text (some turn.content))] ++
    writtenOption "name" turn.name ++ writtenRequests turn.requests ++
    writtenOption "tool_call_id" turn.answers

/-- The document of a turn. -/
def document (turn : Turn) : Document :=
  .record (turn.written.map fun member => (some member.1, member.2.2))

theorem map_writtenOption (name : String) (value? : Option String) :
    (writtenOption name value?).map (fun member => (member.1, member.2.1)) =
      optionalMember name value? := by
  cases value? with
  | none => rfl
  | some value => rfl

theorem chars_eq (turn : Turn) :
    turn.chars = Json.recordChars (turn.written.map fun member => (member.1, member.2.1)) := by
  unfold chars written writtenRequests
  cases empty : turn.requests.isEmpty with
  | true => simp [map_writtenOption]
  | false => simp [map_writtenOption]

theorem writes_chars (turn : Turn) : Writes turn.chars turn.document := by
  rw [chars_eq]
  refine Json.writes_recordChars turn.written ?_
  have option : ∀ (name : String) (value? : Option String),
      ∀ member ∈ writtenOption name value?, Writes member.2.1 member.2.2 := by
    intro name value? member isMember
    cases value? with
    | none => cases isMember
    | some value =>
        cases List.mem_singleton.1 isMember
        exact Json.writes_quoted value
  have requests : ∀ member ∈ writtenRequests turn.requests, Writes member.2.1 member.2.2 := by
    intro member isMember
    unfold writtenRequests at isMember
    split at isMember
    · cases isMember
    · cases List.mem_singleton.1 isMember
      exact Json.writes_listChars turn.requests fun request _ => request.writes_chars
  intro member isMember
  simp only [written, List.mem_append, List.mem_cons, List.not_mem_nil, or_false] at isMember
  rcases isMember with (((rfl | rfl | rfl) | isName) | isRequests) | isAnswer
  · exact Json.writes_natChars (Nat.le_pred_of_lt turn.id.toNat_lt)
  · exact Json.writes_quoted _
  · exact Json.writes_quoted _
  · exact option _ _ member isName
  · exact requests member isRequests
  · exact option _ _ member isAnswer

theorem role_name (role : Role) (depth : Nat) :
    Decoder.choice .json Role.names depth (.text (some role.name)) = some role := by
  cases role with
  | system => rfl
  | user => rfl
  | assistant => rfl
  | tool => rfl

theorem natural_toNat (id : UInt64) (depth : Nat) :
    Decoder.natural depth (.number (some (.int id.toNat))) = some id.toNat := by
  have fits : (id.toNat : Int) < Int.pow 2 64 := Int.ofNat_lt.2 id.toNat_lt
  rw [Decoder.natural, if_pos ⟨Int.natCast_nonneg _, fits⟩, Int.toNat_natCast]

/-- What the members of a turn hold, by name. -/
def given (turn : Turn) : List (String × Document) :=
  turn.written.map fun member => (member.1, member.2.2)

theorem lookup_writtenOption (name other : String) (value? : Option String) :
    ((writtenOption name value?).map fun member => (member.1, member.2.2)).lookup other =
      if other = name then value?.map fun value => .text (some value) else none := by
  cases value? with
  | none => simp [writtenOption]
  | some value =>
      by_cases same : other = name
      · simp [writtenOption, same]
      · simp [writtenOption, List.lookup_cons, beq_false_of_ne same, same]

theorem lookup_writtenRequests (requests : List ToolRequest) (other : String) :
    ((writtenRequests requests).map fun member => (member.1, member.2.2)).lookup other =
      if other = "tool_calls" ∧ requests ≠ [] then some (.list (requests.map ToolRequest.document))
      else none := by
  cases requests with
  | nil => simp [writtenRequests]
  | cons request requests =>
      by_cases same : other = "tool_calls"
      · simp [writtenRequests, same]
      · simp [writtenRequests, List.lookup_cons, beq_false_of_ne same, same]

theorem members?_document (turn : Turn) (depth : Nat) :
    Json.members? .json ["id", "role", "content", "name", "tool_calls", "tool_call_id"] (depth + 1)
      turn.document = some ⟨depth, turn.given⟩ := by
  refine Json.members?_written ?_ (by decide) depth
  have option : ∀ (name : String) (value? : Option String),
      ((writtenOption name value?).map (·.1)).Sublist [name] := by
    intro name value?
    cases value? with
    | none => exact List.nil_sublist _
    | some value => exact List.Sublist.refl _
  have requests : ((writtenRequests turn.requests).map (·.1)).Sublist ["tool_calls"] := by
    unfold writtenRequests
    split
    · exact List.nil_sublist _
    · exact List.Sublist.refl _
  rw [written, List.map_append, List.map_append, List.map_append]
  exact (((List.Sublist.refl ["id", "role", "content"]).append
    (option "name" turn.name)).append requests).append (option "tool_call_id" turn.answers)

/-- A turn is read off its members one by one. -/
theorem decoder_of_members {document : Document} {depth : Nat} {members : Json.Members}
    {turn : Turn}
    (found : Json.members? .json
      ["id", "role", "content", "name", "tool_calls", "tool_call_id"] depth document = some members)
    (id : members.withDefault "id" 0 Decoder.natural = some turn.id.toNat)
    (role : members.required "role" (Decoder.choice .json Role.names) = some turn.role)
    (content : members.withDefault "content" "" Decoder.text = some turn.content)
    (name : members.withDefault "name" none (Decoder.optional Decoder.text) = some turn.name)
    (requests : members.withDefault "tool_calls" [] (Decoder.list ToolRequest.decoder) =
      some turn.requests)
    (answers : members.withDefault "tool_call_id" none (Decoder.optional Decoder.text) =
      some turn.answers) : decoder depth document = some turn := by
  simp [decoder, found, id, role, content, name, requests, answers]

/-- A turn is read off its document. -/
theorem decoder_document (turn : Turn) (depth : Nat) :
    decoder (depth + 3) turn.document = some turn := by
  have name : turn.given.lookup "name" = turn.name.map fun value => .text (some value) := by
    simp [given, written, List.lookup_append, List.lookup_cons, lookup_writtenOption,
      lookup_writtenRequests]
  have answers : turn.given.lookup "tool_call_id" =
      turn.answers.map fun value => .text (some value) := by
    simp [given, written, List.lookup_append, List.lookup_cons, lookup_writtenOption,
      lookup_writtenRequests]
  have lookupRequests : turn.given.lookup "tool_calls" = if turn.requests = [] then none
      else some (.list (turn.requests.map ToolRequest.document)) := by
    simp [given, written, List.lookup_append, List.lookup_cons, lookup_writtenOption,
      lookup_writtenRequests]
  have requests : Json.Members.withDefault ⟨depth + 2, turn.given⟩ "tool_calls" []
      (Decoder.list ToolRequest.decoder) = some turn.requests := by
    by_cases empty : turn.requests = []
    · simp [Json.Members.withDefault, lookupRequests, empty]
    · rw [Json.Members.withDefault_of_lookup (lookupRequests.trans (if_neg empty))]
      exact Json.list_document fun request _ => request.decoder_document depth
  have role : Json.Members.required ⟨depth + 2, turn.given⟩ "role"
      (Decoder.choice .json Role.names) = some turn.role := role_name turn.role (depth + 2)
  have id : Json.Members.withDefault ⟨depth + 2, turn.given⟩ "id" 0 Decoder.natural =
      some turn.id.toNat := natural_toNat turn.id (depth + 2)
  have content : Json.Members.withDefault ⟨depth + 2, turn.given⟩ "content" "" Decoder.text =
      some turn.content := rfl
  exact decoder_of_members (members?_document turn (depth + 2)) id role content
    (Json.Members.withDefault_option name) requests (Json.Members.withDefault_option answers)

/-- A turn comes back from its written form. -/
theorem ofText?_text (turn : Turn) : ofText? turn.text = some turn := by
  rw [ofText?, Json.decode?, text, turn.writes_chars.parse?]
  exact turn.decoder_document 124

/-! The written form of a turn fits on a line. -/

theorem visible_chars (turn : Turn) : Json.Visible turn.chars := by
  have option : ∀ (name : String) (value? : Option String),
      ∀ field ∈ optionalMember name value?, Json.Visible field.2 := by
    intro name value? field isField
    cases value? with
    | none => cases isField
    | some value =>
        cases List.mem_singleton.1 isField
        exact Json.visible_quoted value
  have request : ∀ request : ToolRequest, Json.Visible request.chars := by
    intro request
    apply Json.visible_recordChars
    simp only [List.mem_cons, List.not_mem_nil, or_false]
    rintro field (rfl | rfl | rfl)
    · exact Json.visible_quoted _
    · exact Json.visible_quoted _
    · exact Json.visible_quoted _
  have requests : ∀ requests : List ToolRequest,
      Json.Visible (Json.listChars (requests.map ToolRequest.chars)) := by
    intro requests
    apply Json.visible_listChars
    simp only [List.mem_map]
    rintro _ ⟨one, -, rfl⟩
    exact request one
  apply Json.visible_recordChars
  intro field isField
  simp only [List.mem_append, List.mem_cons, List.not_mem_nil, or_false] at isField
  rcases isField with (((rfl | rfl | rfl) | isName) | isRequests) | isAnswer
  · exact Json.visible_natChars _
  · exact Json.visible_quoted _
  · exact Json.visible_quoted _
  · exact option _ _ field isName
  · split at isRequests
    · cases isRequests
    · cases List.mem_singleton.1 isRequests
      exact requests _
  · exact option _ _ field isAnswer

end Turn

/-! ### Transcripts -/

namespace Transcript

/-- Reading a text line by line, one character: the line so far and the lines before it, both in
reverse. -/
def readChar (state : List Char × List (List Char)) (c : Char) : List Char × List (List Char) :=
  if c = '\n' then ([], endLine state.1 :: state.2) else (c :: state.1, state.2)

theorem foldl_readChar (line current : List Char) (done : List (List Char))
    (noEnd : '\n' ∉ line) :
    line.foldl readChar (current, done) = (line.reverse ++ current, done) := by
  induction line generalizing current with
  | nil => rfl
  | cons c line ih =>
      obtain ⟨notEnd, noEnd⟩ := not_or.1 (mt List.mem_cons.2 noEnd)
      simp [readChar, Ne.symm notEnd, ih (c :: current) noEnd]

theorem endLine_reverse {line : List Char} (noReturn : '\r' ∉ line) :
    endLine line.reverse = line := by
  unfold endLine
  split
  · next rest same =>
      have member : '\r' ∈ line.reverse := by simp [same]
      exact absurd (List.mem_reverse.1 member) noReturn
  · exact List.reverse_reverse line

/-- Lines that are ended one by one are the lines of the text. -/
theorem splitLines_flatMap (lines : List (List Char))
    (plain : ∀ line ∈ lines, '\n' ∉ line ∧ '\r' ∉ line) :
    splitLines (lines.flatMap fun line => line ++ ['\n']) = lines := by
  have read : ∀ done, (lines.flatMap fun line => line ++ ['\n']).foldl readChar ([], done) =
      ([], lines.reverse ++ done) := by
    induction lines with
    | nil => exact fun _ => rfl
    | cons line lines ih =>
        intro done
        obtain ⟨noEnd, noReturn⟩ := plain line List.mem_cons_self
        have others := ih (fun other member => plain other (List.mem_cons_of_mem _ member))
          (line :: done)
        rw [List.flatMap_cons, List.foldl_append, List.foldl_append, foldl_readChar line _ _ noEnd,
          List.append_nil, List.foldl_cons, List.foldl_nil, readChar, if_pos rfl,
          endLine_reverse noReturn, others]
        simp
  have split : splitLines (lines.flatMap fun line => line ++ ['\n']) =
      (lines.reverse ++ []).reverse :=
    congrArg (fun state : List Char × List (List Char) =>
      (if state.1.isEmpty then state.2 else state.1.reverse :: state.2).reverse) (read [])
  rw [split, List.append_nil, List.reverse_reverse]

theorem turnOnLine?_chars (turn : Turn) : turnOnLine? turn.chars = some turn := by
  have notBlank : turn.chars.all Text.isSpace = false := by
    apply List.all_eq_false.2
    exact ⟨'{', List.mem_cons_self, by decide⟩
  rw [turnOnLine?, notBlank]
  exact turn.ofText?_text

/-- A transcript comes back from its written form. -/
theorem ofLines_lines (turns : Transcript) : ofLines turns.lines = turns := by
  have split : splitLines turns.lines.toList = turns.map Turn.chars := by
    have flat : turns.lines.toList = (turns.map Turn.chars).flatMap fun line => line ++ ['\n'] := by
      simp [lines, List.flatMap_map]
    rw [flat]
    apply splitLines_flatMap
    intro line member
    obtain ⟨turn, -, rfl⟩ := List.mem_map.1 member
    constructor
    · intro isEnd
      exact absurd (turn.visible_chars _ isEnd) (by decide)
    · intro isReturn
      exact absurd (turn.visible_chars _ isReturn) (by decide)
  rw [ofLines, split]
  clear split
  induction turns with
  | nil => rfl
  | cons turn turns ih => simp [turnOnLine?_chars, ih]

end Transcript

end Parley
