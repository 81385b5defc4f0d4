/-
Module: Parley.Proofs.Exchange.Dialogue
Layer: Proofs
Purpose: What an exchange calls and what it shows, as far as this depends on what it has asked before.
  Calls are made for requests of the model or of the opening and for nothing else.  Every request to
  the model describes the tools of the exchange and names them in a system line, and in every
  transcript that is shown or saved the answer to a request tells how a call for the same tool ended.
Main exports: Exchange.Dialogue, Exchange.Answers, Exchange.Shown, Exchange.Wanted, Exchange.Shows,
  Exchange.Tells, Exchange.tells_runWith, Exchange.shows_of_runs
-/
import Parley.Proofs.Exchange.Calls
import Parley.Proofs.Transcript.Protocol

namespace Parley.Exchange

open Program (Asked Runs keeps_run_bind)

variable {η α β : Type}

/-! ### Transcripts -/

/-- A round as it stands in a transcript: a turn of the assistant, and the texts that answer its
requests. -/
structure Spoken where
  said : Turn
  answers : List (ToolRequest × String)

/-- The turns of a round. -/
def Spoken.turns (spoken : Spoken) : Transcript :=
  { spoken.said with requests := spoken.answers.map (·.1) } ::
    spoken.answers.map fun answer => Turn.response answer.1 answer.2

/-- Some rounds, in which each request is answered by a text that fits it. -/
def Dialogue (fits : ToolRequest → String → Prop) (turns : Transcript) : Prop :=
  ∃ rounds : List Spoken, turns = rounds.flatMap Spoken.turns ∧
    ∀ round ∈ rounds, round.said.role = .assistant ∧
      ∀ answer ∈ round.answers, fits answer.1 answer.2

/-- The text by which a tool round tells the outcome of a call, where the tools have some names. -/
def told (names : List String) (request : ToolRequest) : Outcome → String
  | .ok value => value.render
  | .error error => (error.payload request.tool names).render

/-- The text by which an opening tells the outcome of a call. -/
def enveloped (limits : Limits) (request : ToolRequest) : Outcome → String
  | .ok value => Envelope.fit limits (Envelope.success request.tool value)
  | .error error => Envelope.fit limits (Envelope.failure request.tool error)

/-- A text tells how a call ended that was made for a tool, with the arguments of a request. -/
def Answers (text : ToolRequest → Outcome → String) (log : Log) (request : ToolRequest)
    (content : String) : Prop :=
  ∃ call outcome, (⟨.call call, outcome⟩ : Asked (exchangeInterface wholeCalls)) ∈ log ∧
    call.tool = request.tool ∧ call.arguments = request.arguments ∧ content = text request outcome

section Dialogue

variable {fits weaker : ToolRequest → String → Prop} {turns more : Transcript} {log after : Log}
  {text : ToolRequest → Outcome → String} {request : ToolRequest} {content : String}

theorem Dialogue.nil : Dialogue fits [] :=
  ⟨[], rfl, by simp⟩

theorem Dialogue.append (first : Dialogue fits turns) (second : Dialogue fits more) :
    Dialogue fits (turns ++ more) := by
  obtain ⟨rounds, rfl, fit⟩ := first
  obtain ⟨others, rfl, fitToo⟩ := second
  refine ⟨rounds ++ others, List.flatMap_append.symm, ?_⟩
  intro round member
  rcases List.mem_append.1 member with early | late
  · exact fit round early
  · exact fitToo round late

theorem Dialogue.single {spoken : Spoken} (speaks : spoken.said.role = .assistant)
    (fit : ∀ answer ∈ spoken.answers, fits answer.1 answer.2) : Dialogue fits spoken.turns := by
  refine ⟨[spoken], by simp, ?_⟩
  intro round member
  rw [List.mem_singleton.1 member]
  exact ⟨speaks, fit⟩

/-- A turn of the assistant without requests is a round. -/
theorem Dialogue.plain {turn : Turn} (speaks : turn.role = .assistant)
    (asksNot : turn.requests = []) : Dialogue fits [turn] := by
  have isRound : Dialogue fits (Spoken.turns ⟨turn, []⟩) := .single speaks (by simp)
  have same : Spoken.turns ⟨turn, []⟩ = [turn] := by
    rw [Spoken.turns, List.map_nil, List.map_nil, ← asksNot]
  rwa [same] at isRound

theorem Dialogue.mono (dialogue : Dialogue fits turns)
    (implies : ∀ request content, fits request content → weaker request content) :
    Dialogue weaker turns := by
  obtain ⟨rounds, rfl, fit⟩ := dialogue
  refine ⟨rounds, rfl, ?_⟩
  intro round member
  exact ⟨(fit round member).1, fun answer isAnswer =>
    implies _ _ ((fit round member).2 answer isAnswer)⟩

theorem Answers.mono (answers : Answers text log request content) (grows : log ⊆ after) :
    Answers text after request content := by
  obtain ⟨call, outcome, member, rest⟩ := answers
  exact ⟨call, outcome, grows member, rest⟩

end Dialogue

/-! ### What may be asked -/

section Shows

variable (plan : Plan η) (input : Input)

/-- The tools of an exchange. -/
abbrev toolsOf : Toolset η := plan.catalog.toolset input.subset

/-- The turns of an opening, if there is one, tell what its calls returned. -/
def Introduced (log : Log) (added : Transcript) : Prop :=
  added = [] ∨ ∃ opening, plan.opening = some opening ∧
    Dialogue (Answers (enveloped opening.limits) log) added

/-- A transcript is what is stored and the turns of the opening. -/
def Readied (log : Log) (turns : Transcript) : Prop :=
  ∃ stored added, turns = stored ++ added ∧
    (⟨.load input.session, .ok stored⟩ : Asked (exchangeInterface wholeCalls)) ∈ log ∧
    Introduced plan log added

/-- A transcript goes on from there with the message of the user and the rounds of the exchange, in
which each request is answered by a text that fits it. -/
def ShownWith (fits : ToolRequest → String → Prop) (log : Log) (turns : Transcript) : Prop :=
  ∃ first dialogue, turns = first ++ Turn.plain .user input.message :: dialogue ∧
    Readied plan input log first ∧ Dialogue fits dialogue

/-- The answers in these rounds tell how calls of the exchange ended. -/
def Shown (log : Log) (turns : Transcript) : Prop :=
  ShownWith plan input (Answers (told (toolsOf plan input).names) log) log turns

/-- A call of the session is one that the opening makes, or the model has asked for it. -/
def Wanted (log : Log) (call : Call) : Prop :=
  call.session = input.session ∧
  ((∃ opening, plan.opening = some opening ∧
    ∃ request ∈ Opening.requests opening (toolsOf plan input),
      wanted request = (call.tool, call.arguments)) ∨
  ∃ (request : ModelRequest) (said : Turn),
    (⟨.complete request, .ok said⟩ : Asked (exchangeInterface wholeCalls)) ∈ log ∧
      (call.tool, call.arguments) ∈ said.requests.map wanted)

/-- What an exchange may ask after all that it has asked so far. -/
def Shows (log : Log) : ExchangeQuestion wholeCalls → Prop
  | .load session => session = input.session
  | .loadNotes session => session = input.session
  | .call call => Wanted plan input log call
  | .complete request =>
      request.tools = (toolsOf plan input).definitions ∧
        toolsLine (toolsOf plan input).names ∈ request.systemLines ∧
        Shown plan input log request.transcript
  | .save session turns => session = input.session ∧
      ∃ earlier : Transcript, turns = earlier.numbered ∧
        (Readied plan input log earlier ∨ Shown plan input log earlier)
  | _ => True

variable {plan input} {log after : Log} {turns : Transcript} (grows : log ⊆ after)
include grows

theorem Introduced.mono (introduced : Introduced plan log turns) : Introduced plan after turns := by
  rcases introduced with none | ⟨opening, isOpening, dialogue⟩
  · exact .inl none
  · exact .inr ⟨opening, isOpening, dialogue.mono fun _ _ answers => answers.mono grows⟩

theorem Readied.mono (readied : Readied plan input log turns) : Readied plan input after turns := by
  obtain ⟨stored, added, same, loaded, introduced⟩ := readied
  exact ⟨stored, added, same, grows loaded, introduced.mono grows⟩

theorem Shown.mono (shown : Shown plan input log turns) : Shown plan input after turns := by
  obtain ⟨first, dialogue, same, readied, isDialogue⟩ := shown
  exact ⟨first, dialogue, same, readied.mono grows,
    isDialogue.mono fun _ _ answers => answers.mono grows⟩

theorem Wanted.mono {call : Call} (isWanted : Wanted plan input log call) :
    Wanted plan input after call := by
  obtain ⟨isSession, opens | ⟨request, said, member, asks⟩⟩ := isWanted
  · exact ⟨isSession, .inl opens⟩
  · exact ⟨isSession, .inr ⟨request, said, grows member, asks⟩⟩

theorem Shows.mono {question : ExchangeQuestion wholeCalls} (shows : Shows plan input log question) :
    Shows plan input after question := by
  cases question with
  | call call => exact Wanted.mono grows shows
  | complete request => exact ⟨shows.1, shows.2.1, shows.2.2.mono grows⟩
  | save session turns =>
      obtain ⟨isSession, earlier, same, readied | shown⟩ := shows
      · exact ⟨isSession, earlier, same, .inl (readied.mono grows)⟩
      · exact ⟨isSession, earlier, same, .inr (shown.mono grows)⟩
  | load => exact shows
  | loadNotes => exact shows
  | _ => exact trivial

end Shows

/-- The rounds may go on. -/
theorem Shown.concat {plan : Plan η} {input : Input} {log : Log} {turns more : Transcript}
    (shown : Shown plan input log turns)
    (dialogue : Dialogue (Answers (told (toolsOf plan input).names) log) more) :
    Shown plan input log (turns ++ more) := by
  obtain ⟨first, earlier, rfl, readied, isDialogue⟩ := shown
  refine ⟨first, earlier ++ more, ?_, readied, isDialogue.append dialogue⟩
  rw [List.append_assoc, List.cons_append]

/-! ### Programs that keep to it -/

/-- From a log on, a program asks only what may be asked, and with its result, if there is one, the
log then satisfies `holds`. -/
def Tells (plan : Plan η) (input : Input) (before : Log) (program : ExchangeProgram wholeCalls α)
    (holds : Log → α → Prop) : Prop :=
  program.run.Keeps (Program.remembering (Shows plan input))
    (fun result after => before ⊆ after ∧ ∀ value, result = .ok value → holds after value) before

section Tells

variable {plan : Plan η} {input : Input} {before : Log} {holds : Log → α → Prop}

theorem Tells.pure {value : α} (isSo : holds before value) :
    Tells plan input before (pure value) holds := by
  refine ⟨List.Subset.refl _, ?_⟩
  intro other same
  cases same
  exact isSo

theorem Tells.throw (fault : Fault) : Tells plan input before (throw fault) holds := by
  refine ⟨List.Subset.refl _, ?_⟩
  intro other same
  contradiction

/-- A fault ends a sequence, and nothing more is asked. -/
theorem Tells.bind {program : ExchangeProgram wholeCalls α}
    {next : α → ExchangeProgram wholeCalls β} {last : Log → β → Prop}
    (first : Tells plan input before program holds)
    (rest : ∀ after value, before ⊆ after → holds after value →
      Tells plan input after (next value) last) :
    Tells plan input before (program >>= next) last := by
  rw [Tells, keeps_run_bind]
  apply Program.Keeps.mono first
  rintro result after ⟨grows, ended⟩
  cases result with
  | ok value =>
      apply (rest after value grows (ended value rfl)).mono
      rintro result final ⟨growsOn, isLast⟩
      exact ⟨List.Subset.trans grows growsOn, isLast⟩
  | error fault => exact ⟨grows, fun _ same => nomatch same⟩

/-- Nothing is required. -/
def anyhow : Log → α → Prop := fun _ _ => True

end Tells

section Single

variable {plan : Plan η} {input : Input} {before : Log}

theorem tells_report (event : Event) : Tells plan input before (report event) anyhow := by
  refine keeps_report.2 ⟨trivial, ?_⟩
  rintro answer after rfl
  exact ⟨List.subset_append_left _ _, fun _ _ => trivial⟩

theorem tells_today : Tells plan input before today anyhow := by
  refine keeps_today.2 ⟨trivial, ?_⟩
  rintro answer after rfl
  exact ⟨List.subset_append_left _ _, fun _ _ => trivial⟩

theorem tells_checkCancelled : Tells plan input before checkCancelled anyhow := by
  refine keeps_checkCancelled.2 ⟨trivial, ?_⟩
  rintro answer after rfl
  exact ⟨List.subset_append_left _ _, fun _ _ => trivial⟩

theorem tells_secure (user : Option String) (session message : String) :
    Tells plan input before (secure user session message) anyhow := by
  refine keeps_secure.2 ⟨trivial, ?_⟩
  rintro answer after rfl
  exact ⟨List.subset_append_left _ _, fun _ _ => trivial⟩

theorem tells_loadNotes : Tells plan input before (loadNotes input.session) anyhow := by
  refine keeps_loadNotes.2 ⟨rfl, ?_⟩
  rintro answer after rfl
  exact ⟨List.subset_append_left _ _, fun _ _ => trivial⟩

/-- What is loaded is in the log. -/
theorem tells_load :
    Tells plan input before (load input.session) fun after stored =>
      (⟨.load input.session, .ok stored⟩ : Asked (exchangeInterface wholeCalls)) ∈ after := by
  refine keeps_load.2 ⟨rfl, ?_⟩
  rintro answer after rfl
  refine ⟨List.subset_append_left _ _, ?_⟩
  rintro stored rfl
  exact List.mem_append_right _ (List.mem_singleton_self _)

/-- The outcome of a call is in the log. -/
theorem tells_runCall {call : Call} (isWanted : Wanted plan input before call) :
    Tells plan input before (runCall call) fun after outcome =>
      (⟨.call call, outcome⟩ : Asked (exchangeInterface wholeCalls)) ∈ after := by
  refine keeps_runCall.2 ⟨isWanted, ?_⟩
  rintro outcome after rfl
  refine ⟨List.subset_append_left _ _, ?_⟩
  intro other same
  cases same
  exact List.mem_append_right _ (List.mem_singleton_self _)

/-- What the model said is in the log. -/
theorem tells_complete {request : ModelRequest}
    (shows : Shows plan input before (.complete request)) :
    Tells plan input before (complete request) fun after reply =>
      ∃ said, (⟨.complete request, .ok said⟩ : Asked (exchangeInterface wholeCalls)) ∈ after ∧
        reply = adopted said := by
  refine keeps_complete.2 ⟨shows, ?_⟩
  rintro answer after rfl
  refine ⟨List.subset_append_left _ _, ?_⟩
  intro reply same
  cases answer with
  | error fault => contradiction
  | ok said =>
      cases same
      exact ⟨said, List.mem_append_right _ (List.mem_singleton_self _), rfl⟩

theorem tells_saveTurns {turns : Transcript}
    (kept : Readied plan input before turns ∨ Shown plan input before turns) :
    Tells plan input before (saveTurns input.session turns) anyhow := by
  have saves : Tells plan input before (save input.session turns.numbered) anyhow := by
    refine keeps_save.2 ⟨⟨rfl, turns, rfl, kept⟩, ?_⟩
    rintro answer after rfl
    exact ⟨List.subset_append_left _ _, fun _ _ => trivial⟩
  apply saves.bind
  intro _ _ _ _
  exact tells_report _

end Single

/-! ### Rounds -/

section Rounds

variable {plan : Plan η} {input : Input} {before after : Log} {desk : Desk η} {progress : Progress}
  {request : ToolRequest}

/-- Each stored result is that of a call for the same tool with the same arguments. -/
def Recalls (desk : Desk η) (log : Log) (progress : Progress) : Prop :=
  ∀ request content, progress.cache.find? (cacheKey desk request) = some content →
    ∃ call value, (⟨.call call, .ok value⟩ : Asked (exchangeInterface wholeCalls)) ∈ log ∧
      call.tool = request.tool ∧ call.arguments = request.arguments ∧ content = value.render

theorem recalls_start : Recalls desk before .start :=
  fun _ _ found => nomatch found

theorem Recalls.mono (recalls : Recalls desk before progress) (grows : before ⊆ after) :
    Recalls desk after progress := by
  intro request content found
  obtain ⟨call, value, member, rest⟩ := recalls request content found
  exact ⟨call, value, grows member, rest⟩

/-- The result of a call is stored for its request. -/
theorem Recalls.insert (recalls : Recalls desk before progress) {call : Call} {value : Json}
    (called : (⟨.call call, .ok value⟩ : Asked (exchangeInterface wholeCalls)) ∈ before)
    (tool : call.tool = request.tool) (arguments : call.arguments = request.arguments)
    (results : List Json) (invalid succeeded : Nat) :
    Recalls desk before
      { cache := progress.cache.insert (cacheKey desk request) value.render
        results := results, invalid := invalid, succeeded := succeeded } := by
  intro other content found
  by_cases same : cacheKey desk request = cacheKey desk other
  · rw [← same, ResultCache.find?_insert_self] at found
    cases found
    obtain ⟨sameTool, sameArguments⟩ := cacheKey_eq_iff.1 same
    exact ⟨call, value, called, tool.trans sameTool, arguments.trans sameArguments, rfl⟩
  · rw [ResultCache.find?_insert_of_ne _ _ same] at found
    exact recalls other content found

/-- A request that is wanted is answered by what a call for it returned, now or earlier. -/
theorem tells_resolve (names : desk.tools.names = (toolsOf plan input).names)
    (recalls : Recalls desk before progress)
    (isWanted : ∀ earlier, Wanted plan input before
      { session := desk.session, message := desk.message, tool := request.tool
        arguments := request.arguments, earlier := earlier }) :
    Tells plan input before (resolve desk progress request) fun after resolved =>
      (∃ content, resolved.1 = Turn.response request content ∧
        Answers (told (toolsOf plan input).names) after request content) ∧
      Recalls desk after resolved.2 := by
  apply tells_checkCancelled.bind
  intro checked _ growsChecked _
  have recallsChecked := recalls.mono growsChecked
  split
  · next content found =>
      apply (tells_report _).bind
      intro reported _ growsReported _
      have recallsReported := recallsChecked.mono growsReported
      have stored : progress.cache.find? (cacheKey desk request) = some content := by
        rw [stored?] at found
        split at found
        · exact found
        · contradiction
      obtain ⟨call, value, called, tool, arguments, rfl⟩ := recallsReported request content stored
      exact .pure ⟨⟨_, rfl, call, .ok value, called, tool, arguments, rfl⟩, recallsReported⟩
  · apply (tells_runCall ((isWanted _).mono growsChecked)).bind
    intro calledLog outcome growsCalled called
    have recallsCalled := recallsChecked.mono growsCalled
    cases outcome with
    | ok value =>
        exact .pure ⟨⟨_, rfl, _, _, called, rfl, rfl, rfl⟩,
          recallsCalled.insert called rfl rfl _ _ _⟩
    | error error =>
        dsimp only
        split
        · refine .pure ⟨⟨_, rfl, _, _, called, rfl, rfl, ?_⟩, recallsCalled⟩
          rw [told, names]
        · exact .throw _

/-- Texts that answer some requests, one each and in order, among turns. -/
def InTurn (fits : ToolRequest → String → Prop) (requests : List ToolRequest) (turns : Transcript) :
    Prop :=
  ∃ answers : List (ToolRequest × String), answers.map (·.1) = requests ∧
    turns = (answers.map fun answer => Turn.response answer.1 answer.2) ∧
    ∀ answer ∈ answers, fits answer.1 answer.2

section InTurn

variable {fits weaker : ToolRequest → String → Prop} {requests : List ToolRequest}
  {turns : Transcript}

theorem InTurn.nil : InTurn fits [] [] := ⟨[], rfl, rfl, by simp⟩

theorem InTurn.cons {request : ToolRequest} {content : String} (fit : fits request content)
    (rest : InTurn fits requests turns) :
    InTurn fits (request :: requests) (Turn.response request content :: turns) := by
  obtain ⟨answers, rfl, rfl, fitRest⟩ := rest
  refine ⟨(request, content) :: answers, rfl, rfl, ?_⟩
  intro answer member
  rcases List.mem_cons.1 member with here | there
  · rw [here]
    exact fit
  · exact fitRest answer there

/-- With the turn that asked, they are a round. -/
theorem InTurn.dialogue {said : Turn} (inTurn : InTurn fits requests turns)
    (speaks : said.role = .assistant) : Dialogue fits ({ said with requests := requests } :: turns) := by
  obtain ⟨answers, rfl, rfl, fit⟩ := inTurn
  have isRound : Dialogue fits (Spoken.turns ⟨said, answers⟩) := .single speaks fit
  exact isRound

/-- Such turns are left as they are when responses are put in order. -/
theorem InTurn.inOrder (inTurn : InTurn fits requests turns) (available : List String) :
    Responses.inOrder available requests turns = turns := by
  obtain ⟨answers, rfl, rfl, -⟩ := inTurn
  induction answers with
  | nil => rfl
  | cons answer answers ih =>
      have isFirst : (Turn.response answer.1 answer.2).answers = some answer.1.id := rfl
      simp only [List.map_cons, Responses.inOrder, Responses.take?, if_pos isFirst, ih]

end InTurn

/-- All requests of a round are answered in turn. -/
theorem tells_resolveAll {requests : List ToolRequest}
    (names : desk.tools.names = (toolsOf plan input).names)
    (recalls : Recalls desk before progress)
    (areWanted : ∀ request ∈ requests, ∀ earlier, Wanted plan input before
      { session := desk.session, message := desk.message, tool := request.tool
        arguments := request.arguments, earlier := earlier }) :
    Tells plan input before (resolveAll desk progress requests) fun after resolved =>
      InTurn (Answers (told (toolsOf plan input).names) after) requests resolved.1 ∧
        Recalls desk after resolved.2 := by
  induction requests generalizing before progress with
  | nil => exact .pure ⟨.nil, recalls⟩
  | cons request requests ih =>
      apply (tells_resolve names recalls (areWanted request List.mem_cons_self)).bind
      rintro first ⟨turn, known⟩ grows ⟨⟨content, rfl, answers⟩, recallsFirst⟩
      apply (ih recallsFirst fun other member earlier =>
        (areWanted other (List.mem_cons_of_mem _ member) earlier).mono grows).bind
      rintro last ⟨turns, ended⟩ growsOn ⟨inTurn, recallsLast⟩
      exact .pure ⟨.cons (answers.mono growsOn) inTurn, recallsLast⟩

end Rounds

section Loop

variable {plan : Plan η} {input : Input} {before : Log} {notes : List String} {date : CivilDate}
  {reuses : Bool} {turns : Transcript} {progress : Progress} {reply : Turn}

/-- What the model said in a round is followed by an answer to each of its requests. -/
theorem tells_runRound {request : ModelRequest} {said : Turn} (rounds : Nat)
    (recalls : Recalls (plan.frame reuses input notes date).desk before progress)
    (isSaid : (⟨.complete request, .ok said⟩ : Asked (exchangeInterface wholeCalls)) ∈ before) :
    Tells plan input before
      (runRound (plan.frame reuses input notes date) rounds progress (adopted said))
      fun after added =>
        Dialogue (Answers (told (toolsOf plan input).names) after) added.1 ∧
          Recalls (plan.frame reuses input notes date).desk after added.2 := by
  have areWanted : ∀ one ∈ RequestIds.distinct rounds said.requests, ∀ earlier,
      Wanted plan input before
        { session := input.session, message := input.message, tool := one.tool
          arguments := one.arguments, earlier := earlier } := by
    intro one member earlier
    refine ⟨rfl, .inr ⟨request, said, isSaid, ?_⟩⟩
    rw [← wanted_distinct rounds said.requests]
    exact List.mem_map.2 ⟨one, member, rfl⟩
  apply (tells_resolveAll rfl recalls areWanted).bind
  rintro resolvedLog ⟨responses, known⟩ grows ⟨inTurn, recallsThen⟩
  apply (tells_report _).bind
  intro reported _ growsOn _
  refine .pure ⟨?_, recallsThen.mono growsOn⟩
  have ordered : Responses.inOrder (plan.frame reuses input notes date).desk.tools.names
      (RequestIds.distinct rounds (adopted said).requests) responses = responses :=
    inTurn.inOrder _
  dsimp only
  rw [ordered]
  exact (inTurn.dialogue rfl).mono fun _ _ answers => answers.mono growsOn

theorem tells_finish (shown : Shown plan input before turns) (text : String) (rounds : Nat)
    (fallback : Bool) :
    Tells plan input before
      (finish (plan.frame reuses input notes date) turns text rounds fallback) anyhow := by
  apply (tells_saveTurns (.inr shown)).bind
  intro _ _ _ _
  exact .pure trivial

/-- What the model is shown describes and names the tools of the exchange. -/
theorem shows_request (shown : Shown plan input before turns) (more : List String) :
    Shows plan input before
      (.complete ((plan.frame reuses input notes date).request turns more)) := by
  refine ⟨rfl, ?_, shown⟩
  apply List.mem_append_left
  simp [Plan.frame, systemLines]

/-- An answer of the model that does not ask for tools has no requests. -/
theorem requests_of_not_asking {said : Turn} (asks : ¬(adopted said).asksForTools = true) :
    (adopted said).requests = [] := by
  rw [Turn.asksForTools_iff] at asks
  exact Classical.not_not.1 fun requests => asks ⟨rfl, requests⟩

theorem tells_inFormat (shown : Shown plan input before turns) (speaks : reply.role = .assistant)
    (asksNot : reply.requests = []) :
    Tells plan input before (inFormat (plan.frame reuses input notes date) turns reply)
      fun _ final => final.role = .assistant ∧ final.requests = [] := by
  rw [inFormat]
  split
  · exact .pure ⟨speaks, asksNot⟩
  · apply (tells_report _).bind
    intro reported _ growsReported _
    apply tells_checkCancelled.bind
    intro checked _ growsChecked _
    have shownThen := (shown.mono growsReported).mono growsChecked
    apply (tells_complete (shows_request (shownThen.concat (.plain speaks asksNot)) _)).bind
    rintro after retry _ ⟨said, -, rfl⟩
    refine .pure ?_
    cases asks : (adopted said).asksForTools with
    | true => exact ⟨speaks, asksNot⟩
    | false => exact ⟨rfl, requests_of_not_asking (by simp [asks])⟩

theorem tells_answer (shown : Shown plan input before turns) (rounds : Nat)
    (speaks : reply.role = .assistant) (asksNot : reply.requests = []) :
    Tells plan input before (answer (plan.frame reuses input notes date) rounds turns reply)
      anyhow := by
  apply (tells_inFormat shown speaks asksNot).bind
  rintro after final grows ⟨finalSpeaks, finalAsksNot⟩
  exact tells_finish ((shown.mono grows).concat (.plain finalSpeaks finalAsksNot)) _ _ _

/-- However many rounds there are, what the model is shown before and after each of them keeps to
the tools. -/
theorem tells_loop (shown : Shown plan input before turns)
    (recalls : Recalls (plan.frame reuses input notes date).desk before progress) (rounds left : Nat) :
    Tells plan input before (loop (plan.frame reuses input notes date) rounds turns progress left)
      anyhow := by
  -- the log only grows, so what has been shown or recalled once stays so in later rounds
  induction left generalizing before rounds turns progress with
  | zero =>
      apply tells_checkCancelled.bind
      intro checked _ growsChecked _
      have shownThen := shown.mono growsChecked
      apply (tells_complete (shows_request shownThen [])).bind
      rintro after reply grows ⟨said, isSaid, rfl⟩
      split
      · apply (tells_report _).bind
        intro _ _ _ _
        exact .throw _
      · next asks =>
          exact tells_answer (shownThen.mono grows) rounds rfl (requests_of_not_asking asks)
  | succ left ih =>
      apply tells_checkCancelled.bind
      intro checked _ growsChecked _
      have shownThen := shown.mono growsChecked
      apply (tells_complete (shows_request shownThen [])).bind
      rintro after reply grows ⟨said, isSaid, rfl⟩
      split
      · have recallsThen := (recalls.mono growsChecked).mono grows
        apply (tells_runRound (rounds + 1) recallsThen isSaid).bind
        rintro ran ⟨added, known⟩ growsRound ⟨dialogue, recallsRound⟩
        have grown := ((shownThen.mono grows).mono growsRound).concat dialogue
        dsimp only
        split
        · apply (tells_report _).bind
          intro reported _ growsReported _
          exact tells_finish ((grown.mono growsReported).concat (.plain rfl rfl)) _ _ _
        · exact ih grown recallsRound (rounds + 1)
      · next asks =>
          exact tells_answer (shownThen.mono grows) rounds rfl (requests_of_not_asking asks)

end Loop

/-! ### The opening and the whole exchange -/

section Whole

variable {plan : Plan η} {input : Input} {before : Log}

theorem tells_runCalls {opening : OpeningPlan} (isOpening : plan.opening = some opening)
    (earlier : List Json) {requests : List ToolRequest}
    (planned : ∀ request ∈ requests, request ∈ Opening.requests opening (toolsOf plan input)) :
    Tells plan input before (Opening.runCalls opening input.session earlier requests)
      fun after made => InTurn (Answers (enveloped opening.limits) after) requests made.1 := by
  induction requests generalizing before earlier with
  | nil => exact .pure .nil
  | cons request requests ih =>
      have plannedRest : ∀ other ∈ requests,
          other ∈ Opening.requests opening (toolsOf plan input) :=
        fun other member => planned other (List.mem_cons_of_mem _ member)
      have isWanted : ∀ log, Wanted plan input log
          (Opening.callFor input.session earlier request) := fun log =>
        ⟨rfl, .inl ⟨opening, isOpening, request, planned request List.mem_cons_self, rfl⟩⟩
      apply tells_checkCancelled.bind
      intro checked _ growsChecked _
      apply (tells_runCall (isWanted checked)).bind
      intro calledLog outcome growsCalled called
      cases outcome with
      | ok value =>
          apply (ih (earlier ++ [value]) plannedRest).bind
          rintro after ⟨turns, failures⟩ grows inTurn
          have answers : Answers (enveloped opening.limits) calledLog request
              (Envelope.fit opening.limits (Envelope.success request.tool value)) :=
            ⟨_, _, called, rfl, rfl, rfl⟩
          exact .pure (.cons (answers.mono grows) inTurn)
      | error error =>
          dsimp only
          split
          · exact .throw _
          · apply (ih earlier plannedRest).bind
            rintro after ⟨turns, failures⟩ grows inTurn
            have answers : Answers (enveloped opening.limits) calledLog request
                (Envelope.fit opening.limits (Envelope.failure request.tool error)) :=
              ⟨_, _, called, rfl, rfl, rfl⟩
            exact .pure (.cons (answers.mono grows) inTurn)

theorem tells_opening {opening : OpeningPlan} (isOpening : plan.opening = some opening) :
    Tells plan input before (Opening.run opening (toolsOf plan input) input.session)
      (Introduced plan) := by
  rw [Opening.run]
  dsimp only
  split
  · exact .pure (.inl rfl)
  · apply (tells_runCalls isOpening [] fun _ member => member).bind
    rintro made ⟨turns, failures⟩ growsMade inTurn
    apply (tells_report _).bind
    intro after _ grows _
    refine .pure (.inr ⟨opening, isOpening, ?_⟩)
    exact (inTurn.dialogue rfl).mono fun _ _ answers => answers.mono grows

theorem tells_openSession {stored : Transcript}
    (loaded : (⟨.load input.session, .ok stored⟩ : Asked (exchangeInterface wholeCalls)) ∈ before) :
    Tells plan input before (openSession plan (toolsOf plan input) input.session stored)
      (Readied plan input) := by
  have unopened : ∀ log, before ⊆ log → Readied plan input log stored := fun log grows =>
    ⟨stored, [], (List.append_nil _).symm, grows loaded, .inl rfl⟩
  rw [openSession]
  split
  · exact .pure (unopened before (List.Subset.refl _))
  · next opening isOpening =>
      split
      · apply (tells_opening isOpening).bind
        intro opened added growsOpened introduced
        split
        · exact .pure (unopened opened growsOpened)
        · have readied : Readied plan input opened (stored ++ added) :=
            ⟨stored, added, rfl, growsOpened loaded, introduced⟩
          apply (tells_saveTurns (.inl readied)).bind
          intro after _ grows _
          exact .pure (readied.mono grows)
      · exact .pure (unopened before (List.Subset.refl _))

theorem tells_runWith (reuses : Bool) :
    Tells plan input before (runWith reuses plan input) anyhow := by
  apply (tells_secure _ _ _).bind
  intro passed _ _ _
  apply tells_load.bind
  intro loadedLog stored _ loaded
  apply (tells_openSession loaded).bind
  intro opened turns _ readied
  apply tells_loadNotes.bind
  intro noted notes growsNoted _
  apply tells_today.bind
  intro dated date growsDated _
  have shown : Shown plan input dated (turns ++ [Turn.plain .user input.message]) :=
    ⟨turns, [], rfl, (readied.mono growsNoted).mono growsDated, .nil⟩
  have recalls : Recalls (plan.frame reuses input notes date).desk dated .start := recalls_start
  exact tells_loop shown recalls 0 _

/-- All that is asked in an exchange may be asked after all of it. -/
theorem shows_of_runs {reuses : Bool} {log : Log} {result : Except Fault Reply}
    (runs : Runs (runWith reuses plan input).run log result) :
    ∀ asked ∈ log, Shows plan input log asked.question := by
  have tells : Tells plan input [] (runWith reuses plan input) anyhow := tells_runWith reuses
  obtain ⟨shows, -⟩ := tells.remembered runs
  intro asked member
  obtain ⟨early, late, rfl⟩ := List.append_of_mem member
  have isShown := shows early asked late rfl
  rw [List.nil_append] at isShown
  exact isShown.mono (List.subset_append_left _ _)

end Whole

end Parley.Exchange
