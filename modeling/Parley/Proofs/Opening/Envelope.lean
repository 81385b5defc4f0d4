/-
Module: Parley.Proofs.Opening.Envelope
Layer: Proofs
Purpose: The text that an opening result leaves in the transcript.  Its bytes are bounded by the
  limits, it says where the result is from as the whole envelope does, and it can be read as JSON
  whatever the result was.
Main exports: Envelope.ofOutcome, Envelope.stubBytes, Envelope.Carries, Envelope.stub_bytes_le,
  Envelope.fit_bounded
-/
import Mathlib.Data.String.Basic
import Parley.Intent.Context
import Parley.Opening.Envelope
import Parley.Proofs.Opening.Compaction

namespace Parley

/-! ### Bytes of escaped text -/

namespace Json

/-- Visible characters have at most four bytes inside quotes: those that are escaped have two. -/
theorem utf8Len_escaped_le {c : Char} (visible : 32 ≤ c.toNat) :
    String.utf8Len (escaped c) ≤ 4 := by
  have letters : ∀ letter ∈ ['"', '\\', 'n', 'r', 't', 'b', 'f'],
      String.utf8Len ['\\', letter] ≤ 4 := by
    simp [Char.utf8Size]
  have plain : String.utf8Len [c] ≤ 4 := by
    simpa using c.utf8Size_le_four
  rw [escaped, if_neg (Nat.not_lt.2 visible)]
  repeat' split
  all_goals first | exact plain | exact letters _ (by simp)

theorem utf8Len_flatMap_escaped_le {text : List Char} (visible : Visible text) :
    String.utf8Len (text.flatMap escaped) ≤ 4 * text.length := by
  induction text with
  | nil => simp
  | cons c text ih =>
      obtain ⟨first, others⟩ := visible_cons.1 visible
      have here := utf8Len_escaped_le first
      have there := ih others
      rw [List.flatMap_cons, String.utf8Len_append, List.length_cons]
      omega

theorem utf8ByteSize_render (value : Json) :
    value.render.utf8ByteSize = String.utf8Len value.chars := by
  rw [render, String.utf8ByteSize_ofList]

end Json

namespace Envelope

open Json

/-! ### The size of a stub -/

/-- The characters of a stub before its preview. -/
def stubBefore (envelope : Json) : List Char :=
  '{' :: (quoted "intentCode" ++ ':' :: (fieldOrNull envelope "intentCode").chars ++
    ',' :: (quoted "preview" ++ [':', '"']))

/-- The characters of a stub after its preview. -/
def stubAfter (envelope : Json) : List Char :=
  '"' :: ',' :: (separated (fieldChars
    [("reason", .str "PAYLOAD_TOO_LARGE"), ("source", fieldOrNull envelope "source"),
      ("status", fieldOrNull envelope "status")]) ++ ['}'])

theorem chars_stub (limits : Limits) (envelope : Json) :
    (stub limits envelope).chars = stubBefore envelope ++
      ((envelope.chars.take limits.previewChars).flatMap escaped ++ stubAfter envelope) := by
  simp [stub, chars, fieldChars, separated, quoted, stubBefore, stubAfter, Text.firstChars, render]

/-- The bytes of what stands for an envelope that is too long, without a preview. -/
def stubBytes (envelope : Json) : Nat :=
  (stub { Limits.standard with previewChars := 0 } envelope).render.utf8ByteSize

/-- A preview is cut out of written JSON, which has no control characters.  So every character of it
has at most four bytes, although some are escaped again. -/
theorem stub_bytes_le (limits : Limits) (envelope : Json) :
    (stub limits envelope).render.utf8ByteSize ≤
      stubBytes envelope + 4 * limits.previewChars := by
  have visible : Visible (envelope.chars.take limits.previewChars) :=
    fun c member => visible_chars envelope c (List.mem_of_mem_take member)
  have preview := utf8Len_flatMap_escaped_le visible
  have short : (envelope.chars.take limits.previewChars).length ≤ limits.previewChars :=
    List.length_take_le _ _
  simp only [stubBytes, utf8ByteSize_render, chars_stub, String.utf8Len_append, List.take_zero,
    List.flatMap_nil, String.utf8Len_nil]
  omega

theorem fit_bytes_le (limits : Limits) (envelope : Json) :
    (fit limits envelope).utf8ByteSize ≤
      max limits.payloadBytes (stubBytes envelope + 4 * limits.previewChars) := by
  rw [fit]
  split
  · next fits => exact Nat.le_trans fits (Nat.le_max_left _ _)
  · exact Nat.le_trans (stub_bytes_le limits envelope) (Nat.le_max_right _ _)

/-! ### Records of texts -/

/-- The fields of a record whose values are texts. -/
def texts (entries : Dictionary String) : Json.Object :=
  entries.map fun (key, text) => (key, .str text)

section Texts

variable {entries : Dictionary String}

theorem find?_texts (key : String) :
    Dictionary.find? (texts entries) key = (Dictionary.find? entries key).map .str :=
  Dictionary.find?_map_values _ entries key

theorem regular_of_mem_texts {field : String × Json} (member : field ∈ texts entries) :
    Throughout Regular field.2 := by
  obtain ⟨entry, -, rfl⟩ := List.mem_map.1 member
  exact regular_str entry.2

theorem nests_of_mem_texts {field : String × Json} (member : field ∈ texts entries) (depth : Nat) :
    Nests depth field.2 := by
  obtain ⟨entry, -, rfl⟩ := List.mem_map.1 member
  exact .leaf (by simp) (by simp)

end Texts

/-! ### The forms of an envelope -/

/-- The envelope of what a call returned. -/
def ofOutcome (intent : String) : Outcome → Json
  | .ok data => success intent data
  | .error error => failure intent error

/-- The payload of an envelope: what was returned, or the error by its code and message. -/
def payload : Outcome → Json
  | .ok data => data
  | .error error => .obj (texts [("code", error.code), ("message", error.message)])

/-- What an envelope says beside its payload. -/
def metadata (intent status summary : String) : Dictionary String :=
  [("intentCode", intent), ("source", source), ("status", status), ("summary", summary)]

/-- An envelope around a payload. -/
def around (key : String) (payload : Json) (said : Dictionary String) : Json :=
  .obj ((key, payload) :: texts said)

/-- What a stub says. -/
def stubSaid (intent status preview : String) : Dictionary String :=
  [("intentCode", intent), ("preview", preview), ("reason", "PAYLOAD_TOO_LARGE"),
    ("source", source), ("status", status)]

/-- The envelopes of data and of errors differ in the key of the payload and in what is said beside
it. -/
theorem ofOutcome_eq (intent : String) (outcome : Outcome) :
    ∃ key ∈ payloadKeys, ∃ status summary,
      ofOutcome intent outcome = around key (payload outcome) (metadata intent status summary) := by
  cases outcome with
  | ok data => exact ⟨"data", by decide, _, _, rfl⟩
  | error error => exact ⟨"error", by decide, _, _, rfl⟩

/-- The fields that every form of an envelope has. -/
def lastingKeys : List String := ["intentCode", "source", "status"]

/-- A value has the lasting fields of an envelope, which are texts. -/
def Carries (envelope value : Json) : Prop :=
  ∀ key ∈ lastingKeys, ∃ text,
    envelope.field? key = some (.str text) ∧ value.field? key = some (.str text)

section Around

variable {key intent status summary : String} {payload other : Json}

/-- A payload hides none of the lasting fields. -/
theorem field?_around (isPayload : key ∈ payloadKeys) {name : String} (lasting : name ∈ lastingKeys)
    (said : Dictionary String) :
    (around key payload said).field? name = (Dictionary.find? said name).map .str := by
  have apart : ∀ key ∈ payloadKeys, ∀ name ∈ lastingKeys, key ≠ name := by decide
  rw [around, field?, Dictionary.find?, if_neg (apart key isPayload name lasting), find?_texts]

theorem carries_around (isPayload : key ∈ payloadKeys) :
    Carries (around key payload (metadata intent status summary))
      (around key other (metadata intent status summary)) := by
  intro name lasting
  rw [field?_around isPayload lasting, field?_around isPayload lasting]
  simp only [lastingKeys, List.mem_cons, List.not_mem_nil, or_false] at lasting
  rcases lasting with rfl | rfl | rfl
  all_goals exact ⟨_, rfl, rfl⟩

theorem carries_stubSaid (isPayload : key ∈ payloadKeys) (preview : String) :
    Carries (around key payload (metadata intent status summary))
      (.obj (texts (stubSaid intent status preview))) := by
  intro name lasting
  rw [field?_around isPayload lasting, field?, find?_texts]
  simp only [lastingKeys, List.mem_cons, List.not_mem_nil, or_false] at lasting
  rcases lasting with rfl | rfl | rfl
  all_goals exact ⟨_, rfl, rfl⟩

/-- Compaction goes into the payload and leaves the rest. -/
theorem compacted_around (limits : Limits) (isPayload : key ∈ payloadKeys) :
    compacted limits (around key payload (metadata intent status summary)) =
      around key (payload.compacted limits) (metadata intent status summary) := by
  have found : payloadKeys.contains key = true := List.contains_iff_mem.2 isPayload
  simp only [compacted, around, List.map_cons, found, if_true]
  rfl

/-- The lasting fields of an envelope are those that its stub asks for. -/
theorem stub_around (limits : Limits) (isPayload : key ∈ payloadKeys) :
    ∃ preview, stub limits (around key payload (metadata intent status summary)) =
      .obj (texts (stubSaid intent status preview)) := by
  have found : ∀ name ∈ lastingKeys,
      (around key payload (metadata intent status summary)).field? name =
        (Dictionary.find? (metadata intent status summary) name).map .str :=
    fun _ lasting => field?_around isPayload lasting _
  simp only [stub, fieldOrNull, found "intentCode" (by decide), found "source" (by decide),
    found "status" (by decide)]
  exact ⟨_, rfl⟩

theorem regular_around (isPayload : key ∈ payloadKeys) (regular : Throughout Regular payload) :
    Throughout Regular (around key payload (metadata intent status summary)) := by
  have keys : ∀ key ∈ payloadKeys,
      (key :: ["intentCode", "source", "status", "summary"]).Pairwise (· < ·) := by decide
  have sorted : Dictionary.Sorted ((key, payload) :: texts (metadata intent status summary)) :=
    List.pairwise_map.1 (keys key isPayload)
  refine regular_record sorted fun field member => ?_
  rcases List.mem_cons.1 member with rfl | text
  · exact regular
  · exact regular_of_mem_texts text

theorem nests_around {depth : Nat} {said : Dictionary String} (nests : Nests depth payload) :
    Nests (depth + 1) (around key payload said) := by
  refine .obj fun field member => ?_
  rcases List.mem_cons.1 member with rfl | text
  · exact nests
  · exact nests_of_mem_texts text depth

end Around

theorem regular_stubSaid (intent status preview : String) :
    Throughout Regular (.obj (texts (stubSaid intent status preview))) := by
  have keys : ["intentCode", "preview", "reason", "source", "status"].Pairwise (· < ·) := by decide
  exact regular_record (List.pairwise_map.1 keys) fun _ => regular_of_mem_texts

/-! ### What is written -/

theorem stored_payload {outcome : Outcome}
    (stored : ∀ data, outcome = .ok data → Throughout Stored data) :
    Throughout Stored (payload outcome) := by
  cases outcome with
  | ok data => exact stored data rfl
  | error error =>
      have text (content : String) : Throughout Stored (.str content) :=
        .intro ⟨(regular_str content).here, by simp [parts]⟩ (by simp [parts])
      have keys : ["code", "message"].Pairwise (· < ·) := by decide
      have sorted : Dictionary.Sorted (texts [("code", error.code), ("message", error.message)]) :=
        List.pairwise_map.1 keys
      refine .intro ⟨⟨by simp [payload], ?_⟩, by simp [payload, texts, parts]⟩ ?_
      · exact fun fields same => Json.obj.inj same ▸ sorted
      · simp [payload, texts, parts, text]

/-- Whichever form of an envelope is written carries its lasting fields, and can be read if it is
not too deep. -/
theorem fit_written (limits : Limits) (intent : String) (outcome : Outcome) :
    ∃ written ∈ [compacted limits (ofOutcome intent outcome),
        stub limits (ofOutcome intent outcome)],
      fit limits (ofOutcome intent outcome) = written.render ∧
      Carries (ofOutcome intent outcome) written ∧
      (Throughout Stored (payload outcome) → Throughout Regular written) ∧
      Nests (limits.depth + 2) written := by
  obtain ⟨key, isPayload, status, summary, same⟩ := ofOutcome_eq intent outcome
  rw [same, fit]
  split
  · refine ⟨_, List.mem_cons_self, rfl, ?_⟩
    rw [compacted_around limits isPayload]
    exact ⟨carries_around isPayload,
      fun stored => regular_around isPayload (regular_bounded limits 0 stored),
      nests_around (nests_bounded limits 0 (payload outcome))⟩
  · refine ⟨_, List.mem_cons_of_mem _ (List.mem_singleton_self _), rfl, ?_⟩
    obtain ⟨preview, isStub⟩ := stub_around limits isPayload
    rw [isStub]
    refine ⟨carries_stubSaid isPayload preview,
      fun _ => regular_stubSaid intent status preview, ?_⟩
    exact .obj fun _ member => nests_of_mem_texts member _

theorem Carries.reread {envelope value : Json} (carries : Carries envelope value) :
    Carries envelope value.reread := by
  intro key lasting
  obtain ⟨text, whole, here⟩ := carries key lasting
  cases value with
  | obj fields =>
      refine ⟨text, whole, ?_⟩
      rw [field?] at here
      rw [Json.reread, field?, rereadFields_eq, Dictionary.find?_map_values, here]
      rfl
  | _ => cases here

/-- The text that an opening result leaves in the transcript.  Its size is within the limit for
payloads or else that of a stub; so it is always within that limit if the limit leaves room for the
stub.  Both forms carry the source, the intent and the status that the envelope has.  If results are
cut at no more than 125 lists and records inside one another, the text is JSON that is read as what
was written, however deep the result was: two more levels are the record that counts what was cut
and the envelope. -/
theorem fit_bounded (limits : Limits) (intent : String) (outcome : Outcome) :
    (fit limits (ofOutcome intent outcome)).utf8ByteSize ≤
        max limits.payloadBytes
          (stubBytes (ofOutcome intent outcome) + 4 * limits.previewChars) ∧
      (stubBytes (ofOutcome intent outcome) + 4 * limits.previewChars ≤ limits.payloadBytes →
        (fit limits (ofOutcome intent outcome)).utf8ByteSize ≤ limits.payloadBytes) ∧
      ∃ written ∈ [compacted limits (ofOutcome intent outcome),
          stub limits (ofOutcome intent outcome)],
        fit limits (ofOutcome intent outcome) = written.render ∧
        Carries (ofOutcome intent outcome) written ∧
        (limits.depth ≤ 125 → (∀ data, outcome = .ok data → Throughout Stored data) →
          parse? (fit limits (ofOutcome intent outcome)) = some written.reread ∧
            Carries (ofOutcome intent outcome) written.reread) := by
  obtain ⟨written, form, isWritten, carries, regular, nests⟩ := fit_written limits intent outcome
  have bounded := fit_bytes_le limits (ofOutcome intent outcome)
  refine ⟨bounded, fun room => ?_, written, form, isWritten, carries, fun shallow stored => ?_⟩
  · rwa [Nat.max_eq_left room] at bounded
  · have deepest : limits.depth + 2 ≤ Document.greatestDepth := Nat.add_le_add_right shallow 2
    rw [isWritten, parse?_render (regular (stored_payload stored)) (nests.mono deepest)]
    exact ⟨rfl, carries.reread⟩

/-- A list that is deeper than its limit, with room for a stub in 135 bytes. -/
theorem fit_bounded_stub :
    let limits : Limits := ⟨1, 2, 2, 10, 135, 5⟩
    let outcome : Outcome := .ok (.arr [.arr [.int 7]])
    (fit limits (ofOutcome "lamp" outcome)).utf8ByteSize ≤ 135 ∧
      ∃ read, parse? (fit limits (ofOutcome "lamp" outcome)) = some read ∧
        Carries (ofOutcome "lamp" outcome) read := by
  intro limits outcome
  obtain ⟨-, within, written, -, -, -, accepted⟩ := fit_bounded limits "lamp" outcome
  have room : stubBytes (ofOutcome "lamp" outcome) + 4 * limits.previewChars ≤
      limits.payloadBytes := by
    decide +kernel
  have number : Throughout Stored (.int 7) :=
    .intro ⟨⟨by simp [Fits64], by simp⟩, by decide⟩ (by simp [parts])
  have inner : Throughout Stored (.arr [.int 7]) :=
    .intro ⟨⟨by simp, by simp⟩, by decide⟩ (by simpa [parts] using number)
  have whole : Throughout Stored (.arr [.arr [.int 7]]) :=
    .intro ⟨⟨by simp, by simp⟩, by decide⟩ (by simpa [parts] using inner)
  exact ⟨within room, written.reread,
    accepted (by decide) fun _ same => Except.ok.inj same ▸ whole⟩

end Envelope

end Parley
