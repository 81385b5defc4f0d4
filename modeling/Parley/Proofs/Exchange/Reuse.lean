/-
Module: Parley.Proofs.Exchange.Reuse
Layer: Proofs
Purpose: Where the outcome of a tool call depends on nothing but the session, the message, the intent
  and the accepted arguments, nobody outside can tell whether an exchange reuses results or makes
  every call anew.  Both exchanges are run side by side in one scene.  The invariant is that the two
  are the same to those outside and that whatever is stored for reuse is what the call would result
  in; one request keeps it, hence a round does, and by induction on the rounds left the exchange.
Main exports: Exchange.Scene, Exchange.Scene.Depends, Exchange.isOutward, Exchange.Faithful,
  Exchange.agree_resolve, Exchange.agree_loop, Exchange.reuse_unnoticed
-/
import Parley.Proofs.Exchange.Calls
import Parley.Proofs.Program.Agreement

namespace Parley.Exchange

open Program (Asked Agree agree_pure agree_throw agree_ite agree_self matches_eq_iff run_embed
  recording)

variable {η : Type} {H : Interface} {σ τ : Type}

/-! ### Scenes -/

/-- Who answers an exchange: a world outside its tool calls, which may change whenever it is asked,
and what the calls themselves leave behind, which the world does not see. -/
structure Scene (η : Type) (H : Interface) (σ τ : Type) where
  secure : Option String → String → String → StateM σ (Except Fault Unit)
  load : String → StateM σ (Except Fault Transcript)
  save : String → Transcript → StateM σ (Except Fault Unit)
  loadNotes : String → StateM σ (Except Fault (List String))
  isCancelled : StateM σ Bool
  today : StateM σ CivilDate
  complete : ModelRequest → StateM σ (Except Fault Turn)
  /-- The answers to the questions of calls, which may look at the world. -/
  inCall : σ → (question : CallQuestion η H) → StateM τ question.Answer

namespace Scene

/-- What the world answers, whatever calls have left behind. -/
def outside {α : Type} (ask : StateM σ α) : StateM (σ × τ) α := fun (world, inner) =>
  let (given, after) := ask world
  (given, after, inner)

/-- The answers of a scene. -/
def answer (scene : Scene η H σ τ) :
    (question : ExchangeQuestion (callInterface η H)) → StateM (σ × τ) question.Answer
  | .secure user session message => outside (scene.secure user session message)
  | .load session => outside (scene.load session)
  | .save session turns => outside (scene.save session turns)
  | .loadNotes session => outside (scene.loadNotes session)
  | .report _ => pure ()
  | .isCancelled => outside scene.isCancelled
  | .today => outside scene.today
  | .complete request => outside (scene.complete request)
  | .call question => fun (world, inner) =>
      let (given, after) := scene.inCall world question inner
      (given, world, after)

/-- The outcome of a call depends on the session, the message, the intent and the accepted arguments
only: neither on the results of earlier calls nor on what those left behind. -/
def Depends (scene : Scene η H σ τ) (details : String → String) (tools : Toolset η)
    (chain : Chain η H) (results : (session message intent : String) → Json.Object → Outcome) : Prop :=
  ∀ (call : Call) (intent : Intent η) (arguments : Json.Object) (world : σ) (inner : τ),
    tools.find? call.tool = some intent →
    intent.shape.accept details intent.code call.arguments = .ok arguments →
    (Program.run (I := callInterface η H) (scene.inCall world) (Call.run details tools chain call)
        inner).1 =
      results call.session call.message intent.code arguments

end Scene

/-- What an exchange has asked so far, and the world and what is inside its calls by now. -/
abbrev Stage (η : Type) (H : Interface) (σ τ : Type) : Type :=
  (σ × τ) × List (Asked (unfolded η H))

/-- Whether a question goes to somebody outside, other than to say that a result is reused. -/
def isOutward : ExchangeQuestion (callInterface η H) → Bool
  | .call _ => false
  | .report (.toolCacheHit _ _ _) => false
  | _ => true

/-- What was asked of those outside. -/
def outward (log : List (Asked (unfolded η H))) : List (Asked (unfolded η H)) :=
  log.filter fun asked => isOutward asked.question

/-- An exchange in a scene, with calls unfolded: its result and the stage it leaves. -/
def perform (scene : Scene η H σ τ) (chain : Chain η H) (reuses : Bool) (plan : Plan η)
    (input : Input) (world : σ) (inner : τ) : Except Fault Reply × Stage η H σ τ :=
  Program.run (I := unfolded η H) (recording scene.answer)
    (unfold plan.syntaxDetails (plan.catalog.toolset input.subset) chain
      (runWith reuses plan input)).run
    ((world, inner), [])

/-- Two stages that look the same from outside. -/
structure Same (stage other : Stage η H σ τ) : Prop where
  world : stage.1.1 = other.1.1
  outward : outward stage.2 = outward other.2

theorem outward_append (log more : List (Asked (unfolded η H))) :
    outward (log ++ more) = outward log ++ outward more := List.filter_append ..

theorem outward_concat {log other : List (Asked (unfolded η H))}
    (same : outward log = outward other) (asked : Asked (unfolded η H)) :
    outward (log ++ [asked]) = outward (other ++ [asked]) := by
  rw [outward_append, outward_append, same]

namespace Same

variable {stage other third : Stage η H σ τ}

theorem symm (same : Same stage other) : Same other stage := ⟨same.world.symm, same.outward.symm⟩

theorem trans (same : Same stage other) (sameToo : Same other third) : Same stage third :=
  ⟨same.world.trans sameToo.world, same.outward.trans sameToo.outward⟩

end Same

/-! ### Whole calls in a scene -/

/-- What the scene answers to a question whose calls are whole. -/
def wholeAnswer (scene : Scene η H σ τ) (details : String → String) (tools : Toolset η)
    (chain : Chain η H) (question : ExchangeQuestion wholeCalls) :
    StateM (Stage η H σ τ) question.Answer :=
  Program.run (I := unfolded η H) (recording scene.answer)
    (unfoldQuestion details tools chain question)

/-- The outcome that is to be expected of a call. -/
def foreseen (details : String → String) (tools : Toolset η)
    (results : (session message intent : String) → Json.Object → Outcome)
    (session message tool arguments : String) : Outcome :=
  match tools.find? tool with
  | none => .error (.toolNotFound tool)
  | some intent =>
      match intent.shape.accept details intent.code arguments with
      | .error error => .error error
      | .ok accepted => results session message intent.code accepted

section Whole

variable {scene : Scene η H σ τ} {details : String → String} {tools : Toolset η} {chain : Chain η H}
  {results : (session message intent : String) → Json.Object → Outcome}

theorem outcome_eq_foreseen (depends : scene.Depends details tools chain results) (call : Call)
    (world : σ) (inner : τ) :
    (Program.run (I := callInterface η H) (scene.inCall world) (Call.run details tools chain call)
        inner).1 =
      foreseen details tools results call.session call.message call.tool call.arguments := by
  rw [foreseen]
  cases found : tools.find? call.tool with
  | none =>
      rw [Call.run, found]
      rfl
  | some intent =>
      cases accepted : intent.shape.accept details intent.code call.arguments with
      | error error =>
          simp only [Call.run, found, accepted]
          rfl
      | ok arguments =>
          simp only [accepted]
          exact depends call intent arguments world inner found accepted

/-- The questions of a call leave the world as it is, and none of them goes to anybody outside. -/
theorem run_embedCall {α : Type} (scene : Scene η H σ τ) (program : CallProgram η H α)
    (world : σ) (inner : τ) (log : List (Asked (unfolded η H))) :
    let ended := Program.run (I := unfolded η H) (recording scene.answer) (embedCall program)
      ((world, inner), log)
    ended.1 = (Program.run (I := callInterface η H) (scene.inCall world) program inner).1 ∧
      ended.2.1.1 = world ∧ outward ended.2.2 = outward log := by
  induction program generalizing inner log with
  | done result => exact ⟨rfl, rfl, rfl⟩
  | ask question next ih =>
      let given := (scene.inCall world question inner).1
      obtain ⟨sameResult, sameWorld, sameLog⟩ := ih given (scene.inCall world question inner).2
        (log ++ [⟨.call question, given⟩])
      refine ⟨sameResult, sameWorld, sameLog.trans ?_⟩
      rw [outward_append]
      exact List.append_nil _

theorem wholeAnswer_call (depends : scene.Depends details tools chain results) (call : Call)
    (stage : Stage η H σ τ) :
    let ended := wholeAnswer scene details tools chain (.call call) stage
    ended.1 = foreseen details tools results call.session call.message call.tool call.arguments ∧
      Same ended.2 stage := by
  obtain ⟨⟨world, inner⟩, log⟩ := stage
  obtain ⟨isOutcome, sameWorld, sameLog⟩ :=
    run_embedCall scene (Call.run details tools chain call) world inner log
  exact ⟨isOutcome.trans (outcome_eq_foreseen depends call world inner), sameWorld, sameLog⟩

/-- In stages that look the same from outside, every question is answered alike, and they look the
same again. -/
theorem wholeAnswer_steady (depends : scene.Depends details tools chain results)
    (question : ExchangeQuestion wholeCalls) (stage other : Stage η H σ τ)
    (same : Same stage other) :
    (wholeAnswer scene details tools chain question stage).1 =
        (wholeAnswer scene details tools chain question other).1 ∧
      Same (wholeAnswer scene details tools chain question stage).2
        (wholeAnswer scene details tools chain question other).2 := by
  obtain ⟨⟨world, inner⟩, log⟩ := stage
  obtain ⟨⟨worldToo, innerToo⟩, logToo⟩ := other
  obtain ⟨rfl, sameLog⟩ : world = worldToo ∧ outward log = outward logToo :=
    ⟨same.world, same.outward⟩
  cases question with
  | call call =>
      obtain ⟨outcome, still⟩ := wholeAnswer_call depends call ((world, inner), log)
      obtain ⟨outcomeToo, stillToo⟩ := wholeAnswer_call depends call ((world, innerToo), logToo)
      exact ⟨outcome.trans outcomeToo.symm, still.trans (same.trans stillToo.symm)⟩
  | secure => exact ⟨rfl, rfl, outward_concat sameLog _⟩
  | load => exact ⟨rfl, rfl, outward_concat sameLog _⟩
  | save => exact ⟨rfl, rfl, outward_concat sameLog _⟩
  | loadNotes => exact ⟨rfl, rfl, outward_concat sameLog _⟩
  | report => exact ⟨rfl, rfl, outward_concat sameLog _⟩
  | isCancelled => exact ⟨rfl, rfl, outward_concat sameLog _⟩
  | today => exact ⟨rfl, rfl, outward_concat sameLog _⟩
  | complete => exact ⟨rfl, rfl, outward_concat sameLog _⟩

/-! ### Requests -/

/-- What is stored for reuse is what the calls would result in. -/
def Faithful (details : String → String) (tools : Toolset η)
    (results : (session message intent : String) → Json.Object → Outcome)
    (session message : String) (cache : ResultCache) : Prop :=
  ∀ (key : CacheKey) (content : String), cache.find? key = some content →
    ∃ value, foreseen details tools results session message key.tool key.arguments = .ok value ∧
      content = value.render

theorem Faithful.insert {session message : String} {cache : ResultCache} {key : CacheKey}
    {value : Json} (faithful : Faithful details tools results session message cache)
    (expected : foreseen details tools results session message key.tool key.arguments = .ok value) :
    Faithful details tools results session message (cache.insert key value.render) := by
  intro other content found
  by_cases isKey : key = other
  · subst isKey
    rw [ResultCache.find?_insert_self] at found
    exact ⟨value, expected, (Option.some.inj found).symm⟩
  · rw [ResultCache.find?_insert_of_ne cache _ isKey] at found
    exact faithful other content found

/-- The progress of an exchange that reuses results, and of one that does not. -/
structure Alongside (details : String → String) (desk : Desk η)
    (results : (session message intent : String) → Json.Object → Outcome)
    (one two : Progress) : Prop where
  faithful : Faithful details desk.tools results desk.session desk.message one.cache
  invalid : one.invalid = two.invalid
  succeeded : one.succeeded = two.succeeded

/-- The same was made of the requests so far, with such progress. -/
inductive Likewise {α : Type} (details : String → String) (desk : Desk η)
    (results : (session message intent : String) → Json.Object → Outcome) :
    α × Progress → α × Progress → Prop where
  | intro (made : α) (one two : Progress) (alongside : Alongside details desk results one two) :
      Likewise details desk results (made, one) (made, two)

/-- The same desk, where every call is made anew. -/
def anew (desk : Desk η) : Desk η := { desk with reuses := false }

variable {desk : Desk η} {one two : Progress}

/-- Two calls that differ in the results of earlier calls at most. -/
theorem agree_runCall (depends : scene.Depends details tools chain results)
    (session message tool arguments : String) (earlier earlierToo : List Json) :
    Agree (wholeAnswer scene details tools chain) Same
      (fun first second => first = foreseen details tools results session message tool arguments ∧
        second = foreseen details tools results session message tool arguments)
      (runCall { session, message, tool, arguments, earlier })
      (runCall { session, message, tool, arguments, earlier := earlierToo }) := by
  intro stage other same
  obtain ⟨outcome, still⟩ :=
    wholeAnswer_call depends { session, message, tool, arguments, earlier } stage
  obtain ⟨outcomeToo, stillToo⟩ :=
    wholeAnswer_call depends { session, message, tool, arguments, earlier := earlierToo } other
  exact ⟨⟨outcome, outcomeToo⟩, still.trans (same.trans stillToo.symm)⟩

/-- One reports that a result is reused where the other makes the call. -/
theorem agree_report_runCall (depends : scene.Depends details tools chain results) (call : Call)
    (session tool id : String) :
    Agree (wholeAnswer scene details tools chain) Same
      (fun (_ : Unit) second =>
        second = foreseen details tools results call.session call.message call.tool call.arguments)
      (report (.toolCacheHit session tool id)) (runCall call) := by
  intro stage other same
  obtain ⟨outcome, still⟩ := wholeAnswer_call depends call other
  have unseen : Same (wholeAnswer scene details tools chain
      (.report (.toolCacheHit session tool id)) stage).2 stage :=
    ⟨rfl, (outward_append ..).trans (List.append_nil _)⟩
  exact ⟨outcome, unseen.trans (same.trans still.symm)⟩

theorem agree_resolveNew (depends : scene.Depends details desk.tools chain results)
    (alongside : Alongside details desk results one two) (request : ToolRequest) :
    Agree (wholeAnswer scene details desk.tools chain) Same (Likewise details desk results)
      (resolveNew desk one request) (resolveNew (anew desk) two request) := by
  refine (agree_runCall depends desk.session desk.message request.tool request.arguments one.results
    two.results).bind ?_
  rintro first second ⟨rfl, rfl⟩
  cases expected : foreseen details desk.tools results desk.session desk.message request.tool
      request.arguments with
  | ok value =>
      refine agree_pure (.intro _ _ _ ⟨?_, alongside.invalid, ?_⟩)
      · exact alongside.faithful.insert expected
      · exact congrArg (· + 1) alongside.succeeded
  | error error =>
      simp only
      split
      · exact agree_pure (.intro _ _ _ ⟨alongside.faithful, congrArg (· + 1) alongside.invalid,
          alongside.succeeded⟩)
      · exact agree_throw _

/-- A request is answered alike by a stored result and by the call. -/
theorem agree_resolve (depends : scene.Depends details desk.tools chain results)
    (alongside : Alongside details desk results one two) (request : ToolRequest) :
    Agree (wholeAnswer scene details desk.tools chain) Same (Likewise details desk results)
      (resolve desk one request) (resolve (anew desk) two request) := by
  refine (agree_self (wholeAnswer_steady depends) checkCancelled).bind fun _ _ _ => ?_
  have none : stored? (anew desk) two request = none := rfl
  rw [none]
  cases found : stored? desk one request with
  | none => exact agree_resolveNew depends alongside request
  | some content =>
      rw [stored?] at found
      split at found
      · -- One finds what the other is about to get from the call.
        obtain ⟨value, expected, rfl⟩ := alongside.faithful _ _ found
        refine (agree_report_runCall depends (callFor (anew desk) two request) _ _ _).bind ?_
        rintro _ second isExpected
        rw [isExpected.trans expected]
        exact agree_pure (.intro _ _ _ ⟨alongside.faithful, alongside.invalid,
          congrArg (· + 1) alongside.succeeded⟩)
      · contradiction

theorem agree_resolveAll (depends : scene.Depends details desk.tools chain results)
    (alongside : Alongside details desk results one two) (requests : List ToolRequest) :
    Agree (wholeAnswer scene details desk.tools chain) Same (Likewise details desk results)
      (resolveAll desk one requests) (resolveAll (anew desk) two requests) := by
  induction requests generalizing one two with
  | nil => exact agree_pure (.intro _ _ _ alongside)
  | cons request requests ih =>
      refine (agree_resolve depends alongside request).bind ?_
      rintro _ _ ⟨turn, after, afterToo, alongside⟩
      refine (ih alongside).bind ?_
      rintro _ _ ⟨turns, ended, endedToo, alongside⟩
      exact agree_pure (.intro _ _ _ alongside)

/-! ### Rounds -/

variable {frame : Frame η}

/-- The same frame, where every call is made anew. -/
def Frame.anew (frame : Frame η) : Frame η := { frame with desk := Exchange.anew frame.desk }

theorem agree_runRound (depends : scene.Depends details frame.desk.tools chain results)
    (alongside : Alongside details frame.desk results one two) (number : Nat) (reply : Turn) :
    Agree (wholeAnswer scene details frame.desk.tools chain) Same (Likewise details frame.desk results)
      (runRound frame number one reply) (runRound frame.anew number two reply) := by
  refine (agree_resolveAll depends alongside (RequestIds.distinct number reply.requests)).bind ?_
  rintro _ _ ⟨responses, after, afterToo, alongside⟩
  simp only [alongside.invalid, alongside.succeeded]
  refine (agree_self (wholeAnswer_steady depends) (report _)).bind ?_
  exact fun _ _ _ => agree_pure (.intro _ _ _ alongside)

theorem givesUp_eq (settings : ExchangeSettings)
    (alongside : Alongside details desk results one two) :
    givesUp settings one = givesUp settings two := by
  rw [givesUp, givesUp, alongside.invalid, alongside.succeeded]

/-- After rounds that went alike, the rest of an exchange goes alike, though calls are told of more
results where none is reused. -/
theorem agree_loop (frame : Frame η) (depends : scene.Depends details frame.desk.tools chain results)
    (alongside : Alongside details frame.desk results one two) (number : Nat) (turns : Transcript)
    (left : Nat) :
    Agree (wholeAnswer scene details frame.desk.tools chain) Same Eq
      (loop frame number turns one left) (loop frame.anew number turns two left) := by
  have steady := wholeAnswer_steady depends
  induction left generalizing number turns one two with
  | zero =>
      -- No round is run any more, so the desk is only asked for the session and the tools.
      exact agree_self steady _
  | succ left ih =>
      refine (agree_self steady checkCancelled).bind fun _ _ _ => ?_
      refine (agree_self steady (complete (frame.request turns []))).bind ?_
      rintro reply _ rfl
      split
      · refine (agree_runRound depends alongside (number + 1) reply).bind ?_
        rintro _ _ ⟨added, after, afterToo, alongside⟩
        refine agree_ite (by rw [givesUp_eq frame.settings alongside]; exact Iff.rfl) ?_ ?_
        · intro _
          simp only [alongside.invalid]
          exact agree_self steady _
        · exact fun _ => ih alongside _ _
      · exact agree_self steady (answer frame number turns reply)

theorem alongside_start (desk : Desk η)
    (results : (session message intent : String) → Json.Object → Outcome) :
    Alongside details desk results .start .start := by
  refine ⟨?_, rfl, rfl⟩
  intro key content found
  contradiction

/-! ### Exchanges -/

/-- An exchange that reuses results goes like one that does not. -/
theorem agree_runWith {plan : Plan η} {input : Input}
    (depends : scene.Depends plan.syntaxDetails (plan.catalog.toolset input.subset) chain results) :
    Agree (wholeAnswer scene plan.syntaxDetails (plan.catalog.toolset input.subset) chain) Same Eq
      (runWith true plan input) (runWith false plan input) := by
  have steady := wholeAnswer_steady depends
  refine (agree_self steady (secure input.user input.session input.message)).bind fun _ _ _ => ?_
  refine (agree_self steady (load input.session)).bind ?_
  rintro stored _ rfl
  refine (agree_self steady
    (openSession plan (plan.catalog.toolset input.subset) input.session stored)).bind ?_
  rintro turns _ rfl
  refine (agree_self steady (loadNotes input.session)).bind ?_
  rintro notes _ rfl
  refine (agree_self steady today).bind ?_
  rintro date _ rfl
  exact agree_loop (plan.frame true input notes date) depends (alongside_start _ results) 0 _ _

/-- An exchange is performed by answering its whole calls. -/
theorem perform_eq (reuses : Bool) (plan : Plan η) (input : Input) (world : σ) (inner : τ) :
    perform scene chain reuses plan input world inner =
      Program.run (I := exchangeInterface wholeCalls)
        (wholeAnswer scene plan.syntaxDetails (plan.catalog.toolset input.subset) chain)
        (runWith reuses plan input).run ((world, inner), []) :=
  run_embed ..

end Whole

/-- Whether an exchange reuses results makes no difference to its result, to the world, and to what
the world is asked, told and made to save, other than to be told of the reuse. -/
theorem reuse_unnoticed {scene : Scene η H σ τ} {chain : Chain η H} {plan : Plan η} {input : Input}
    {results : (session message intent : String) → Json.Object → Outcome}
    (depends : scene.Depends plan.syntaxDetails (plan.catalog.toolset input.subset) chain results)
    (world : σ) (inner : τ) :
    let reusing := perform scene chain true plan input world inner
    let anew := perform scene chain false plan input world inner
    reusing.1 = anew.1 ∧ Same reusing.2 anew.2 := by
  simp only [perform_eq]
  obtain ⟨sameResult, same⟩ := agree_runWith depends ((world, inner), []) ((world, inner), [])
    ⟨rfl, rfl⟩
  exact ⟨matches_eq_iff.1 sameResult, same⟩

/-! ### A lantern that repeats what it is told -/

/-- The model asks twice for the lantern as long as the transcript is short, and then answers; the
lantern says the message of the user.  The world is what is saved, and inside it is counted how often
the lantern is lit. -/
def echoing : Scene Unit ⟨Unit, fun _ => Unit⟩ Transcript Nat where
  secure _ _ _ := pure (.ok ())
  load _ := fun saved => (.ok saved, saved)
  save _ turns := fun _ => (.ok (), turns)
  loadNotes _ := pure (.ok [])
  isCancelled := pure false
  today := pure (CivilDate.ofEpochSeconds 0)
  complete request :=
    let light : ToolRequest := { id := "", tool := "lantern", arguments := "\x7b\x7d" }
    let short : Bool := request.transcript.length < 5
    pure (.ok (if short then Turn.asking "" [light, light] else Turn.plain .assistant "done"))
  inCall _
    | .handle _ context => fun lit => (.ok (.str context.message), lit + 1)
    | .grant _ _ => pure true
    | .clock => pure (0 : Int)
    | .host _ => pure ()

/-- Reused or not, the lantern is answered four times; it is lit once or four times. -/
theorem reuse_unnoticed_echoing :
    echoing.Depends id (lanternPlan.catalog.toolset asking.subset) [Layer.logging]
        (fun _ message _ _ => .ok (.str message)) ∧
      let reusing := perform echoing [Layer.logging] true lanternPlan asking [] 0
      let anew := perform echoing [Layer.logging] false lanternPlan asking [] 0
      reusing.2.1.2 = 1 ∧ anew.2.1.2 = 4 ∧ reusing.1 = anew.1 ∧ Same reusing.2 anew.2 := by
  have depends : echoing.Depends id (lanternPlan.catalog.toolset asking.subset) [Layer.logging]
      (fun _ message _ _ => .ok (.str message)) := by
    intro call intent arguments world inner found accepted
    simp only [Call.run, found, accepted]
    rfl
  exact ⟨depends, by decide +kernel, by decide +kernel, reuse_unnoticed depends [] 0⟩

end Parley.Exchange
