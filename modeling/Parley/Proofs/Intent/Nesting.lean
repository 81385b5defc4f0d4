/-
Module: Parley.Proofs.Intent.Nesting
Layer: Proofs
Purpose: How the layers of a chain are nested.  All that a layer can do with the rest of the chain
  is to run it, so a layer is written as a program that may ask for that among its own questions (a
  wrapper).  A call then enters and leaves wrappers, and runs the last step.  If each wrapper runs
  the rest once, they are entered in the order of the chain, and left in the opposite order.  A
  wrapper that does not run the rest is left at once, and nothing further in is run.
Main exports: Wrapper, Wrapper.layer, Visit, Visits, runs_around_iff, Nested, Completes, Breaks,
  Visits.nested, Visits.yields, Chain.nested_run
-/
import Parley.Proofs.Intent.Agreement
import Parley.Proofs.Intent.Order
import Parley.Proofs.Program.Runs
import Parley.Rehearsal.Script

namespace Parley

open Program (Asked Runs Expands runs_bind_iff runs_embed_iff)

variable {η : Type} {H : Interface}

/-! ### Wrappers -/

/-- What a wrapper asks. -/
inductive WrapperQuestion (η : Type) (H : Interface) where
  /-- A question of its own. -/
  | own (question : CallQuestion η H)
  /-- Run the rest of the chain. -/
  | rest (context : Context)

/-- The type of the answer to a question of a wrapper. -/
def WrapperQuestion.Answer : WrapperQuestion η H → Type
  | .own question => question.Answer
  | .rest _ => Outcome × Context

/-- The questions of a wrapper. -/
def wrapperInterface (η : Type) (H : Interface) : Interface :=
  ⟨WrapperQuestion η H, WrapperQuestion.Answer⟩

/-- What a question of a wrapper means where the rest of the chain is given. -/
def WrapperQuestion.meaning (next : Step η H) :
    (question : WrapperQuestion η H) → CallProgram η H question.Answer
  | .own question => CallProgram.ask question
  | .rest context => next context

/-- A layer, by what it does. -/
structure Wrapper (η : Type) (H : Interface) where
  name : String
  priority : Int
  targets : List String
  body : Context → Program (wrapperInterface η H) (Outcome × Context)

namespace Wrapper

/-- The layer that a wrapper is. -/
def layer (wrapper : Wrapper η H) : Layer η H where
  name := wrapper.name
  priority := wrapper.priority
  targets := wrapper.targets
  handle := fun next context => (wrapper.body context).embed (WrapperQuestion.meaning next)

/-- A question of a wrapper's own. -/
def ask (question : CallQuestion η H) : Program (wrapperInterface η H) question.Answer :=
  Program.query (I := wrapperInterface η H) (.own question)

/-- Run the rest of the chain. -/
def next (context : Context) : Program (wrapperInterface η H) (Outcome × Context) :=
  Program.query (I := wrapperInterface η H) (.rest context)

/-- The wrapper that notes the duration of each call. -/
def logging : Wrapper η H where
  name := Layer.logging (η := η) (H := H).name
  priority := Layer.logging (η := η) (H := H).priority
  targets := Layer.logging (η := η) (H := H).targets
  body := fun context => do
    let (outcome, after) ← next context
    let now : Int ← ask .clock
    let duration := Json.int ((now - after.startedAt).tdiv 1000000)
    pure (outcome,
      { after with notes := Dictionary.insert Layer.durationNote duration after.notes })

theorem layer_logging : (logging : Wrapper η H).layer = Layer.logging :=
  rfl

/-- The wrapper that turns calls away which a rate limit does not admit. -/
def rateLimit (limit : RateLimit) : Wrapper η H where
  name := (Layer.rateLimit limit : Layer η H).name
  priority := (Layer.rateLimit limit : Layer η H).priority
  targets := limit.targets
  body := fun context => do
    let granted : Bool ← ask (.grant limit context.session)
    if granted then next context
    else
      let reason := "more than " ++ limit.maxCalls.repr ++ " calls within " ++
        limit.window.wholeSeconds.repr ++ "s"
      pure (.error (.rejected "rate_limit" context.intent reason), context)

theorem layer_rateLimit (limit : RateLimit) :
    (rateLimit limit : Wrapper η H).layer = Layer.rateLimit limit := by
  have same : (rateLimit limit : Wrapper η H).layer.handle = (Layer.rateLimit limit).handle := by
    funext step context
    apply congrArg (Program.ask (I := callInterface η H) (.grant limit context.session))
    funext granted
    cases (granted : Bool) with
    | true => exact Program.bind_done (step context)
    | false => rfl
  exact congrArg (Layer.mk "rate_limit" 10 limit.targets) same

/-- The runs of the rest of the chain in a log, with their results. -/
def rests : List (Asked (wrapperInterface η H)) → List (Context × Outcome × Context)
  | [] => []
  | ⟨.own _, _⟩ :: more => rests more
  | ⟨.rest context, ended⟩ :: more => (context, ended) :: rests more

end Wrapper

/-! ### Visits -/

/-- What happens in a call. -/
inductive Visit (η : Type) (H : Interface) where
  /-- A wrapper is entered with a context. -/
  | enter (wrapper : Wrapper η H) (found : Context)
  /-- The last step is run. -/
  | last (found : Context) (ended : Outcome × Context)
  /-- A wrapper that has asked something is left with a result. -/
  | leave (wrapper : Wrapper η H) (own : List (Asked (wrapperInterface η H)))
      (ended : Outcome × Context)

/-- What happens while a wrapper asks something, given what may happen whenever it runs the rest of
the chain.  What all of them ask of their surroundings is put together. -/
inductive Within (rest : Context → List (Visit η H) → List (Asked (callInterface η H)) →
    Outcome × Context → Prop) : List (Asked (wrapperInterface η H)) → List (Visit η H) →
    List (Asked (callInterface η H)) → Prop where
  | nil : Within rest [] [] []
  | own {question : CallQuestion η H} {answer : question.Answer}
      {more : List (Asked (wrapperInterface η H))} {visits : List (Visit η H)}
      {log : List (Asked (callInterface η H))} :
      Within rest more visits log →
        Within rest (⟨.own question, answer⟩ :: more) visits (⟨question, answer⟩ :: log)
  | rest {given : Context} {received : Outcome × Context}
      {more : List (Asked (wrapperInterface η H))} {inside visits : List (Visit η H)}
      {part log : List (Asked (callInterface η H))} :
      rest given inside part received → Within rest more visits log →
        Within rest (⟨.rest given, received⟩ :: more) (inside ++ visits) (part ++ log)

/-- What happens when wrappers around a last step are run. -/
def Visits (last : Step η H) : List (Wrapper η H) → Context → List (Visit η H) →
    List (Asked (callInterface η H)) → Outcome × Context → Prop
  | [], context, visits, log, ended =>
      Runs (last context) log ended ∧ visits = [.last context ended]
  | wrapper :: inner, context, visits, log, ended =>
      ∃ own within, Runs (wrapper.body context) own ended ∧
        Within (Visits last inner) own within log ∧
        visits = .enter wrapper context :: within ++ [.leave wrapper own ended]

section Within

variable {rest : Context → List (Visit η H) → List (Asked (callInterface η H)) →
  Outcome × Context → Prop} {own : List (Asked (wrapperInterface η H))} {visits : List (Visit η H)}
  {log : List (Asked (callInterface η H))} {given : Context} {received : Outcome × Context}

theorem Within.of_never (within : Within rest own visits log) (never : Wrapper.rests own = []) :
    visits = [] := by
  induction within with
  | nil => rfl
  | own _ ih => exact ih never
  | rest _ _ _ => contradiction

theorem Within.of_once (within : Within rest own visits log)
    (once : Wrapper.rests own = [(given, received)]) : ∃ part, rest given visits part received := by
  induction within with
  | nil => contradiction
  | own _ ih => exact ih once
  | rest ran after _ =>
      obtain ⟨same, never⟩ := List.cons.inj once
      cases same
      rw [after.of_never never, List.append_nil]
      exact ⟨_, ran⟩

/-- What a wrapper asks is answered in the way the rest of the chain allows exactly if something
happens in which it is. -/
theorem expands_meaning_iff {next : Step η H}
    (runs : ∀ context log ended,
      Runs (next context) log ended ↔ ∃ visits, rest context visits log ended)
    {whole : List (Asked (callInterface η H))} :
    Expands (WrapperQuestion.meaning next) own whole ↔ ∃ visits, Within rest own visits whole := by
  constructor
  · intro expands
    induction expands with
    | nil => exact ⟨[], .nil⟩
    | @cons question answer part log more ran _ ih =>
        obtain ⟨visits, within⟩ := ih
        cases question with
        | own question =>
            obtain rfl := Program.runs_query_iff.1 ran
            exact ⟨visits, .own within⟩
        | rest given =>
            obtain ⟨inside, happens⟩ := (runs given part answer).1 ran
            exact ⟨inside ++ visits, .rest happens within⟩
  · rintro ⟨visits, within⟩
    induction within with
    | nil => exact .nil
    | @own question answer _ _ _ _ ih =>
        have asked :
            Runs (WrapperQuestion.meaning next (.own question)) [⟨question, answer⟩] answer :=
          Program.runs_query_iff.2 rfl
        exact .cons asked ih
    | rest happens _ ih => exact .cons ((runs _ _ _).2 ⟨_, happens⟩) ih

end Within

/-- The runs of wrappers around a last step are those in which something happens. -/
theorem runs_around_iff {last : Step η H} {wrappers : List (Wrapper η H)} {context : Context}
    {log : List (Asked (callInterface η H))} {ended : Outcome × Context} :
    Runs (Chain.around (wrappers.map Wrapper.layer) last context) log ended ↔
      ∃ visits, Visits last wrappers context visits log ended := by
  induction wrappers generalizing context log ended with
  | nil =>
      constructor
      · intro runs
        exact ⟨_, runs, rfl⟩
      · rintro ⟨visits, runs, -⟩
        exact runs
  | cons wrapper inner ih =>
      have around :
          Runs (Chain.around ((wrapper :: inner).map Wrapper.layer) last context) log ended ↔
          ∃ own, Runs (wrapper.body context) own ended ∧ Expands
            (WrapperQuestion.meaning (Chain.around (inner.map Wrapper.layer) last)) own log :=
        runs_embed_iff
      rw [around]
      constructor
      · rintro ⟨own, body, expands⟩
        obtain ⟨within, happens⟩ := (expands_meaning_iff fun _ _ _ => ih).1 expands
        exact ⟨_, own, within, body, happens, rfl⟩
      · rintro ⟨visits, own, within, body, happens, -⟩
        exact ⟨own, body, (expands_meaning_iff fun _ _ _ => ih).2 ⟨within, happens⟩⟩

/-! ### Nested wrappers -/

namespace Visit

/-- A wrapper that is left has run the rest of the chain once. -/
def RunsOnce : Visit η H → Prop
  | .leave _ own _ => ∃ given received, Wrapper.rests own = [(given, received)]
  | _ => True

/-- A wrapper is left that has not run the rest of the chain. -/
def Stops : Visit η H → Prop
  | .leave _ own _ => Wrapper.rests own = []
  | _ => False

/-- A wrapper that is left returns what it has received from the rest of the chain. -/
def Returns : Visit η H → Prop
  | .leave _ own ended => ∀ given received, (given, received) ∈ Wrapper.rests own →
      ended.1 = received.1
  | _ => True

/-- What is left has a certain outcome. -/
def Yields (outcome : Outcome) : Visit η H → Prop
  | .leave _ _ ended => ended.1 = outcome
  | .last _ ended => ended.1 = outcome
  | .enter _ _ => True

end Visit

/-- One passage through a wrapper. -/
structure Passage (η : Type) (H : Interface) where
  wrapper : Wrapper η H
  found : Context
  own : List (Asked (wrapperInterface η H))
  ended : Outcome × Context

namespace Passage

/-- The wrapper does this. -/
def Runs (passage : Passage η H) : Prop :=
  Program.Runs (passage.wrapper.body passage.found) passage.own passage.ended

def enter (passage : Passage η H) : Visit η H :=
  .enter passage.wrapper passage.found

def leave (passage : Passage η H) : Visit η H :=
  .leave passage.wrapper passage.own passage.ended

end Passage

/-- Passages from the outside in: each runs the rest once, with the context in which the next one
begins, and receives the result with which that one ends. -/
inductive Nested : List (Passage η H) → Context → Outcome × Context → Context →
    Outcome × Context → Prop where
  | nil (context : Context) (ended : Outcome × Context) : Nested [] context ended context ended
  | cons (passage : Passage η H) {passages : List (Passage η H)} {given reached : Context}
      {received core : Outcome × Context} :
      passage.Runs → Wrapper.rests passage.own = [(given, received)] →
      Nested passages given received reached core →
      Nested (passage :: passages) passage.found passage.ended reached core

theorem Nested.runsOnce {passages : List (Passage η H)} {found reached : Context}
    {ended core : Outcome × Context} (nested : Nested passages found ended reached core)
    {passage : Passage η H} (member : passage ∈ passages) : passage.leave.RunsOnce := by
  induction nested with
  | nil => contradiction
  | cons outer _ once _ ih =>
      rcases List.mem_cons.1 member with rfl | isInner
      · exact ⟨_, _, once⟩
      · exact ih isInner

/-- All wrappers are entered in order, the last step is run, and they are left in the opposite
order. -/
inductive Completes (last : Step η H) (context : Context) (ended : Outcome × Context) :
    List (Wrapper η H) → List (Visit η H) → Prop where
  | intro (passages : List (Passage η H)) {reached : Context} {core : Outcome × Context}
      {log : List (Asked (callInterface η H))} :
      Nested passages context ended reached core → Runs (last reached) log core →
      Completes last context ended (passages.map (·.wrapper))
        (passages.map (·.enter) ++ .last reached core :: (passages.map (·.leave)).reverse)

/-- One wrapper is left without having run the rest of the chain: only those outside it are entered,
and they are left in the opposite order. -/
inductive Breaks (context : Context) (ended : Outcome × Context) :
    List (Wrapper η H) → List (Visit η H) → Prop where
  | intro (passages : List (Passage η H)) (stop : Passage η H) (inner : List (Wrapper η H)) :
      Nested passages context ended stop.found stop.ended → stop.Runs →
      Wrapper.rests stop.own = [] →
      Breaks context ended (passages.map (·.wrapper) ++ stop.wrapper :: inner)
        (passages.map (·.enter) ++ stop.enter :: stop.leave :: (passages.map (·.leave)).reverse)

section Visits

variable {last : Step η H} {wrappers : List (Wrapper η H)} {context : Context}
  {visits : List (Visit η H)} {log : List (Asked (callInterface η H))} {ended : Outcome × Context}

theorem Completes.not_stops (completes : Completes last context ended wrappers visits)
    {visit : Visit η H} (member : visit ∈ visits) : ¬ visit.Stops := by
  obtain ⟨passages, nested, -⟩ := completes
  intro stops
  simp only [List.mem_append, List.mem_cons, List.mem_reverse, List.mem_map] at member
  rcases member with ⟨passage, -, rfl⟩ | rfl | ⟨passage, isPassed, rfl⟩
  · exact stops
  · exact stops
  · obtain ⟨given, received, once⟩ := nested.runsOnce isPassed
    exact absurd (stops.symm.trans once) (by simp)

theorem Breaks.stops (breaks : Breaks context ended wrappers visits) :
    ∃ visit ∈ visits, visit.Stops ∧ ¬ visit.RunsOnce := by
  obtain ⟨passages, stop, inner, -, -, never⟩ := breaks
  refine ⟨stop.leave, by simp, never, ?_⟩
  rintro ⟨given, received, once⟩
  exact absurd (never.symm.trans once) (by simp)

/-- Wrappers that run the rest at most once are nested. -/
theorem Visits.nested (happens : Visits last wrappers context visits log ended)
    (once : ∀ visit ∈ visits, visit.RunsOnce ∨ visit.Stops) :
    Completes last context ended wrappers visits ∨ Breaks context ended wrappers visits := by
  induction wrappers generalizing context visits log ended with
  | nil =>
      obtain ⟨runs, rfl⟩ := happens
      exact .inl (.intro [] (.nil context ended) runs)
  | cons wrapper inner ih =>
      obtain ⟨own, within, body, ran, rfl⟩ := happens
      rcases once (.leave wrapper own ended) (by simp) with ⟨given, received, isOnce⟩ | never
      · obtain ⟨part, inside⟩ := ran.of_once isOnce
        have others : ∀ visit ∈ within, visit.RunsOnce ∨ visit.Stops :=
          fun visit member => once visit (by simp [member])
        rcases ih inside others with
          ⟨passages, nested, runs⟩ | ⟨passages, stop, inner, nested, runs, never⟩
        · have completes := Completes.intro (⟨wrapper, context, own, ended⟩ :: passages)
            (.cons _ body isOnce nested) runs
          simpa [Passage.enter, Passage.leave] using Or.inl completes
        · have breaks := Breaks.intro (⟨wrapper, context, own, ended⟩ :: passages) stop inner
            (.cons _ body isOnce nested) runs never
          simpa [Passage.enter, Passage.leave] using Or.inr breaks
      · rw [ran.of_never never]
        exact .inr (.intro [] ⟨wrapper, context, own, ended⟩ inner (.nil _ _) body never)

/-- If they also return what they receive, the outcome is the same all the way out. -/
theorem Visits.yields (happens : Visits last wrappers context visits log ended)
    (once : ∀ visit ∈ visits, visit.RunsOnce ∨ visit.Stops)
    (returns : ∀ visit ∈ visits, visit.Returns) : ∀ visit ∈ visits, visit.Yields ended.1 := by
  induction wrappers generalizing context visits log ended with
  | nil =>
      obtain ⟨-, rfl⟩ := happens
      exact List.forall_mem_singleton.2 rfl
  | cons wrapper inner ih =>
      obtain ⟨own, within, -, ran, rfl⟩ := happens
      have inside : ∀ visit ∈ within, visit.Yields ended.1 := by
        rcases once (.leave wrapper own ended) (by simp) with ⟨given, received, isOnce⟩ | never
        · obtain ⟨part, inside⟩ := ran.of_once isOnce
          have same : ended.1 = received.1 :=
            returns (.leave wrapper own ended) (by simp) given received (by simp [isOnce])
          rw [same]
          exact ih inside (fun visit member => once visit (by simp [member]))
            fun visit member => returns visit (by simp [member])
        · rw [ran.of_never never]
          exact List.forall_mem_nil _
      intro visit member
      simp only [List.cons_append, List.mem_cons, List.mem_append, List.not_mem_nil,
        or_false] at member
      rcases member with rfl | isInside | rfl
      · trivial
      · exact inside visit isInside
      · rfl

end Visits

/-- A wrapper that asks for the rest only, once, is entered before all that happens in it, and left
after that. -/
theorem Visits.around {last : Step η H} {inner : List (Wrapper η H)} {given context : Context}
    {visits : List (Visit η H)} {log : List (Asked (callInterface η H))}
    {received ended : Outcome × Context} (wrapper : Wrapper η H)
    (runs : Runs (wrapper.body context) [⟨.rest given, received⟩] ended)
    (happens : Visits last inner given visits log received) :
    Visits last (wrapper :: inner) context
      (.enter wrapper context :: visits ++ [.leave wrapper [⟨.rest given, received⟩] ended]) log
      ended := by
  have within : Within (Visits last inner) [⟨.rest given, received⟩] (visits ++ []) (log ++ []) :=
    .rest happens .nil
  rw [List.append_nil, List.append_nil] at within
  exact ⟨_, _, runs, within, rfl⟩

/-! ### Whole chains -/

namespace Wrapper

/-- Wrappers in order of priority, those of one priority in the order in which they were added. -/
def inOrder (wrappers : List (Wrapper η H)) : List (Wrapper η H) :=
  wrappers.mergeSort fun outer inner => outer.priority ≤ inner.priority

/-- The wrappers whose targets are empty or contain the code of an intent. -/
def meantFor (intent : String) (wrappers : List (Wrapper η H)) : List (Wrapper η H) :=
  wrappers.filter fun wrapper => wrapper.targets = [] ∨ intent ∈ wrapper.targets

theorem ofLayers_map_layer (wrappers : List (Wrapper η H)) :
    Chain.ofLayers (wrappers.map layer) = (inOrder wrappers).map layer := by
  have sorts : (inOrder wrappers).map layer = (wrappers.map layer).mergeSort Chain.mayPrecede :=
    List.map_mergeSort fun _ _ _ _ => rfl
  rw [Chain.ofLayers_eq_mergeSort, sorts]

theorem filter_map_layer (intent : String) (wrappers : List (Wrapper η H)) :
    (wrappers.map layer).filter (fun layer => layer.appliesTo intent) =
      (meantFor intent wrappers).map layer := by
  rw [List.filter_map, meantFor]
  congr 2
  funext wrapper
  rw [Bool.eq_iff_iff]
  simp only [Function.comp_apply, Layer.appliesTo, layer, Bool.or_eq_true, List.isEmpty_iff,
    List.contains_iff_mem, decide_eq_true_iff]

end Wrapper

/-- The layers of a chain are the stable sort by priority of those that were added, and the place of
each may be looked for by halving.  A call enters only the layers that are meant for the intent with
which it begins, in that order, whatever they make of the context.  If each runs the rest once, the
last step is run once, and the layers are left in the opposite order; if one does not run the rest,
that is where the call turns back.  What the rest returns is what the next layer outside receives,
so that an outcome which layers return as they receive it is the outcome of the call. -/
theorem Chain.nested_run (wrappers : List (Wrapper η H)) (last : Step η H) (context : Context) :
    (∀ layers : List (Layer η H),
      Chain.ofLayers layers =
          layers.mergeSort (fun outer inner => outer.priority ≤ inner.priority) ∧
        layers.foldl (fun chain layer => chain.insertIdx (Chain.place layer chain) layer) [] =
          Chain.ofLayers layers) ∧
    (∀ (log : List (Asked (callInterface η H))) (ended : Outcome × Context),
      Runs ((Chain.ofLayers (wrappers.map Wrapper.layer)).run last context) log ended ↔
        ∃ visits, Visits last (Wrapper.meantFor context.intent (Wrapper.inOrder wrappers)) context
          visits log ended) ∧
    ∀ (visits : List (Visit η H)) (log : List (Asked (callInterface η H)))
      (ended : Outcome × Context),
      Visits last (Wrapper.meantFor context.intent (Wrapper.inOrder wrappers)) context visits log
          ended →
        ((∀ visit ∈ visits, visit.RunsOnce) → Completes last context ended
          (Wrapper.meantFor context.intent (Wrapper.inOrder wrappers)) visits) ∧
        ((∀ visit ∈ visits, visit.RunsOnce ∨ visit.Stops) → (∃ visit ∈ visits, visit.Stops) →
          Breaks context ended
            (Wrapper.meantFor context.intent (Wrapper.inOrder wrappers)) visits) ∧
        ((∀ visit ∈ visits, visit.RunsOnce ∨ visit.Stops) → (∀ visit ∈ visits, visit.Returns) →
          ∀ visit ∈ visits, visit.Yields ended.1) := by
  refine ⟨?sorted, ?happens, ?nested⟩
  case sorted =>
    intro layers
    exact ⟨Chain.ofLayers_eq_mergeSort layers, Chain.foldl_insertIdx_place layers⟩
  case happens =>
    intro log ended
    rw [Chain.run, Wrapper.ofLayers_map_layer, Wrapper.filter_map_layer]
    exact runs_around_iff
  case nested =>
    intro visits log ended happens
    refine ⟨?completes, ?breaks, ?yields⟩
    case completes =>
      intro once
      rcases happens.nested fun visit member => .inl (once visit member) with completes | breaks
      · exact completes
      · obtain ⟨visit, member, -, never⟩ := breaks.stops
        exact absurd (once visit member) never
    case breaks =>
      intro once stopped
      rcases happens.nested once with completes | breaks
      · obtain ⟨visit, member, stops⟩ := stopped
        exact absurd stops (completes.not_stops member)
      · exact breaks
    case yields =>
      intro once returns
      exact happens.yields once returns

/-! ### Rehearsed layers -/

namespace Rehearsal

/-- A list of actions as the program of a wrapper. -/
def performance (name : String) : List Action → Outcome → Context →
    Program (wrapperInterface Part stageInterface) (Outcome × Context)
  | [], kept, context => pure (kept, context)
  | .note text :: actions, kept, context => do
      let _ ← Wrapper.ask (.host (H := stageInterface) text)
      performance name actions kept context
  | .setArgument key value :: actions, kept, context =>
      performance name actions kept
        { context with arguments := Dictionary.insert key value context.arguments }
  | .dropArgument key :: actions, kept, context =>
      performance name actions kept
        { context with arguments := Dictionary.erase context.arguments key }
  | .setNote key value :: actions, kept, context =>
      performance name actions kept
        { context with notes := Dictionary.insert key value context.notes }
  | .setIntent code :: actions, kept, context =>
      performance name actions kept { context with intent := code }
  | .next :: actions, _, context => do
      let (kept, after) ← Wrapper.next context
      performance name actions kept after
  | .deny reason :: _, _, context =>
      pure (.error (.rejected name context.intent reason), context)
  | .raiseNotFound :: _, _, context => pure (.error (.toolNotFound context.intent), context)
  | .give value :: _, _, context => pure (.ok value, context)
  | .wrap key :: actions, kept, context =>
      performance name actions (kept.map fun value => .obj [(key, value)]) context
  | .recover value :: actions, kept, context =>
      performance name actions
        (match kept with
          | .ok result => .ok result
          | .error _ => .ok value) context

/-- The wrapper that does a list of actions. -/
def wrapper (name : String) (priority : Int) (targets : List String) (actions : List Action) :
    Wrapper Part stageInterface where
  name := name
  priority := priority
  targets := targets
  body := performance name actions (.ok .null)

theorem embed_performance (name : String) (next : StageStep) (actions : List Action)
    (kept : Outcome) (context : Context) :
    (performance name actions kept context).embed (WrapperQuestion.meaning next) =
      perform name next actions kept context := by
  induction actions generalizing kept context with
  | nil => rfl
  | cons action actions ih =>
      cases action with
      | note text =>
          apply congrArg (Program.ask (I := callInterface Part stageInterface) (.host text))
          funext answer
          exact ih kept context
      | next =>
          apply congrArg (next context >>= ·)
          funext received
          exact ih received.1 received.2
      | deny _ => rfl
      | raiseNotFound => rfl
      | give _ => rfl
      | _ => exact ih _ _

/-- Every layer of a rehearsal is a wrapper. -/
theorem layer_wrapper (name : String) (priority : Int) (targets : List String)
    (actions : List Action) :
    (wrapper name priority targets actions).layer = layer name priority targets actions := by
  have same : (wrapper name priority targets actions).layer.handle =
      (layer name priority targets actions).handle := by
    funext next context
    exact embed_performance name next actions (.ok .null) context
  exact congrArg (Layer.mk name priority targets) same

/-- Layers as they are added: one changes the intent of the context, and one is meant for that
intent only. -/
def switching : List (Wrapper Part stageInterface) :=
  [wrapper "b" 20 [] [.next], wrapper "a" 10 ["lookup"] [.setIntent "other", .next],
    wrapper "c" 20 ["lookup"] [.next], wrapper "d" 0 ["other"] [.next]]

/-- The same with one more, which turns every call away. -/
def gated : List (Wrapper Part stageInterface) :=
  switching ++ [wrapper "gate" 15 [] [.deny "closed"]]

/-- The context in which an enquiry begins, and the one in which its intent has been changed. -/
def begun : Context := enquiry.context lookup (reference "X1") 0

def renamed : Context := { begun with intent := "other" }

/-- Runs of wrappers that only run the rest, and of the one that changes the intent before that. -/
theorem runs_passing (name : String) (priority : Int) (targets : List String)
    (ended : Outcome × Context) :
    Runs ((wrapper name priority targets [.next]).body renamed) [⟨.rest renamed, ended⟩] ended :=
  .ask (.done _)

theorem runs_renaming (ended : Outcome × Context) :
    Runs ((wrapper "a" 10 ["lookup"] [.setIntent "other", .next]).body begun)
      [⟨.rest renamed, ended⟩] ended :=
  .ask (.done _)

/-- The layer that is meant for the new intent only is not entered. -/
theorem meantFor_switching : Wrapper.meantFor begun.intent (Wrapper.inOrder switching) =
    [wrapper "a" 10 ["lookup"] [.setIntent "other", .next], wrapper "b" 20 [] [.next],
      wrapper "c" 20 ["lookup"] [.next]] := by
  simp [Wrapper.meantFor, Wrapper.inOrder, switching, wrapper, List.mergeSort,
    List.MergeSort.Internal.splitInTwo, begun, Call.context, lookup]

theorem meantFor_gated : Wrapper.meantFor begun.intent (Wrapper.inOrder gated) =
    [wrapper "a" 10 ["lookup"] [.setIntent "other", .next], wrapper "gate" 15 [] [.deny "closed"],
      wrapper "b" 20 [] [.next], wrapper "c" 20 ["lookup"] [.next]] := by
  simp [Wrapper.meantFor, Wrapper.inOrder, gated, switching, wrapper, List.mergeSort,
    List.MergeSort.Internal.splitInTwo, begun, Call.context, lookup]

/-- An enquiry is handled within three layers. -/
theorem visits_switching : ∃ visits log ended,
    Visits (Call.handlerStep lookup)
      (Wrapper.meantFor begun.intent (Wrapper.inOrder switching)) begun visits log ended ∧
    (∀ visit ∈ visits, visit.RunsOnce) ∧ visits.length = 7 := by
  have handles : Runs (Call.handlerStep lookup renamed : CallProgram Part stageInterface _)
      [⟨.handle lookup renamed, .ok (.obj (reference "X2"))⟩]
      (.ok (.obj (reference "X2")), renamed) :=
    .ask (.done _)
  have innermost : Visits (Call.handlerStep lookup) [] renamed _ _ _ := ⟨handles, rfl⟩
  rw [meantFor_switching]
  refine ⟨_, _, _, ((innermost.around _ (runs_passing _ _ _ _)).around _
    (runs_passing _ _ _ _)).around _ (runs_renaming _), ?_, rfl⟩
  simp [Visit.RunsOnce, Wrapper.rests]

/-- It is turned away within one layer. -/
theorem visits_gated : ∃ visits log ended,
    Visits (Call.handlerStep lookup)
      (Wrapper.meantFor begun.intent (Wrapper.inOrder gated)) begun visits log ended ∧
    (∀ visit ∈ visits, visit.RunsOnce ∨ visit.Stops) ∧ (∃ visit ∈ visits, visit.Stops) ∧
    visits.length = 4 := by
  have turned : Visits (Call.handlerStep lookup)
      [wrapper "gate" 15 [] [.deny "closed"], wrapper "b" 20 [] [.next],
        wrapper "c" 20 ["lookup"] [.next]] renamed
      [.enter _ renamed, .leave _ [] (.error (.rejected "gate" "other" "closed"), renamed)] []
      (.error (.rejected "gate" "other" "closed"), renamed) :=
    ⟨[], [], .done _, .nil, rfl⟩
  rw [meantFor_gated]
  refine ⟨_, _, _, turned.around _ (runs_renaming _), ?_, ?_, rfl⟩
  · simp [Visit.RunsOnce, Visit.Stops, Wrapper.rests]
  · simp [Visit.Stops, Wrapper.rests]

theorem nested_run_renamed :
    (∃ visits log ended, Visits (Call.handlerStep lookup)
        (Wrapper.meantFor begun.intent (Wrapper.inOrder switching)) begun visits log ended ∧
      (∀ visit ∈ visits, visit.RunsOnce) ∧ visits.length = 7 ∧
      Completes (Call.handlerStep lookup) begun ended
        (Wrapper.meantFor begun.intent (Wrapper.inOrder switching)) visits) ∧
    ∃ visits log ended, Visits (Call.handlerStep lookup)
        (Wrapper.meantFor begun.intent (Wrapper.inOrder gated)) begun visits log ended ∧
      (∀ visit ∈ visits, visit.RunsOnce ∨ visit.Stops) ∧ (∃ visit ∈ visits, visit.Stops) ∧
      visits.length = 4 ∧
      Breaks begun ended (Wrapper.meantFor begun.intent (Wrapper.inOrder gated)) visits := by
  obtain ⟨visits, log, ended, happens, once, length⟩ := visits_switching
  obtain ⟨turned, asked, refused, happened, atMostOnce, stops, count⟩ := visits_gated
  obtain ⟨-, -, nested⟩ := Chain.nested_run switching (Call.handlerStep lookup) begun
  obtain ⟨-, -, nestedGated⟩ := Chain.nested_run gated (Call.handlerStep lookup) begun
  exact ⟨⟨visits, log, ended, happens, once, length, (nested _ _ _ happens).1 once⟩,
    ⟨turned, asked, refused, happened, atMostOnce, stops, count,
      (nestedGated _ _ _ happened).2.1 atMostOnce stops⟩⟩

end Rehearsal

end Parley
