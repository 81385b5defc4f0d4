/-
Module: Parley.Proofs.Exchange.Committed
Layer: Proofs
Purpose: What an exchange leaves behind that ends with a reply.  It saves once at its end: what was
  stored, the turns of an opening if one was run, the message of the user, one block for each tool
  round, and the answer.  Where nothing expires, that is what is stored then.
Main exports: Exchange.ToolRound, Exchange.Closes.replied, Exchange.StoreChanges,
  Exchange.storeChanges_of_expands, Exchange.OpenedWith, Exchange.Commits, Exchange.commits_of_runs
-/
import Parley.Proofs.Exchange.Endings
import Parley.Proofs.Exchange.Failure
import Parley.Proofs.Transcript.Protocol

namespace Parley

open Program (Asked Runs Changes Expands runs_bind_iff runs_done_iff runs_query_iff)

variable {C H : Interface} {η α : Type}

namespace Exchange

/-! ### The last transcript -/

/-- A tool round in a transcript: an assistant turn that asks for tools, and one tool turn for each of
its requests, in order, that answers it. -/
inductive ToolRound : Transcript → Prop where
  | intro {turn : Turn} {contents : List String} :
      turn.asksForTools = true → contents.length = turn.requests.length →
      ToolRound (turn :: List.zipWith Turn.response turn.requests contents)

theorem Round.Complete.toolRound {number : Nat} {round : Round} (complete : round.Complete number)
    (names : List String) : ToolRound (round.turns names) := by
  have turns : round.turns names =
      { adopted round.said with requests := round.resolved.map (·.request) } ::
        List.zipWith Turn.response (round.resolved.map (·.request))
          (round.resolved.map (·.content names)) := by
    rw [Round.turns, List.zipWith_map, List.zipWith_self]
    rfl
  rw [turns]
  apply ToolRound.intro
  · rw [complete.requests]
    exact RequestIds.asksForTools_distinct complete.asks number
  · simp

/-- A turn is an answer: it is the assistant's, and asks for nothing. -/
structure IsAnswer (turn : Turn) : Prop where
  role : turn.role = .assistant
  requests : turn.requests = []

theorem isAnswer_adopted {said : Turn} (isFinal : (adopted said).asksForTools = false) :
    IsAnswer (adopted said) where
  role := rfl
  requests := by simpa [Turn.asksForTools, adopted] using isFinal

section Replies

variable {frame : Frame η} {left number : Nat} {turns : Transcript} {history : List Resolved}
  {log ending : Log} {reply : Reply}

theorem Formatted.isAnswer {said final : Turn} (isFinal : (adopted said).asksForTools = false)
    (formatted : Formatted frame turns (adopted said) log (.ok final)) : IsAnswer final := by
  cases formatted with
  | accepted => exact isAnswer_adopted isFinal
  | retried again =>
      split
      · exact isAnswer_adopted isFinal
      · next notAsking => exact isAnswer_adopted (by simpa using notAsking)

/-- With a reply, the transcript so far is saved at last, with an answer that the reply tells. -/
theorem Closes.replied (closes : Closes frame left number turns history ending (.ok reply)) :
    ∃ before final, ending = before ++ savedLog frame.desk.session (turns ++ [final]) ∧
      IsAnswer final ∧ final.content = reply.text ∧ reply.rounds = number ∧
      reply.length = (turns ++ [final]).length := by
  cases closes with
  | givenUp _ _ runs =>
      rcases runs_finish runs with ⟨fault, -, same⟩ | ⟨rfl, same⟩
      · contradiction
      · cases same
        exact ⟨[_], _, rfl, ⟨rfl, rfl⟩, rfl, rfl, rfl⟩
  | ends _ ends =>
      cases ends with
      | answered isFinal runs =>
          rcases runs_answer runs with ⟨fault, -, same⟩ | ⟨final, before, after, rfl, formatted, ends⟩
          · contradiction
          · rcases runs_finish ends with ⟨fault, -, same⟩ | ⟨rfl, same⟩
            · contradiction
            · cases same
              exact ⟨_ :: _ :: before, final, rfl, formatted.isAnswer isFinal, rfl, rfl, rfl⟩

end Replies

/-! ### What is stored -/

section Stores

variable {ttl : Option Duration} {details : String → String} {tools : Toolset η}
  {chain : Chain η H} {before after : Backend}

/-- What the answers of a log do to the store. -/
abbrev StoreChanges (ttl : Option Duration) :
    Backend → List (Asked (exchangeInterface C)) → Backend → Prop :=
  Changes (I := exchangeInterface C) (StoreEffect ttl)

/-- The log and the store of a track change together. -/
theorem storeChanges_of_changes {first last : Track η H} {log : List (Asked (unfolded η H))}
    (changes : Changes (answers ttl) first log last) :
    last.log = first.log ++ log ∧ StoreChanges ttl first.backend log last.backend := by
  induction changes with
  | nil => exact ⟨(List.append_nil _).symm, .nil _⟩
  | cons answered _ ih =>
      obtain ⟨effect, written⟩ := answered
      obtain ⟨rest, changesRest⟩ := ih
      exact ⟨by rw [rest, written, List.append_assoc, List.singleton_append], .cons effect changesRest⟩

theorem storeEffect_of_changes {question : ExchangeQuestion C} {answer : question.Answer}
    (changes : StoreChanges ttl before [⟨question, answer⟩] after) :
    StoreEffect ttl question before answer after := by
  cases changes with
  | cons effect rest =>
      cases rest
      exact effect

/-- The questions of a call change nothing that is stored. -/
theorem storeChanges_embedCall {program : CallProgram η H α} {part : List (Asked (unfolded η H))}
    {result : α} (runs : Runs (embedCall program) part result)
    (changes : StoreChanges ttl before part after) : after = before := by
  induction program generalizing before part with
  | done value =>
      obtain ⟨rfl, -⟩ := runs_done_iff.1 runs
      cases changes
      rfl
  | ask question next ih =>
      obtain ⟨asked, answer, rest, rfl, asks, runsOn⟩ := runs_bind_iff.1 runs
      obtain rfl := runs_query_iff.1 asks
      cases changes with
      | cons effect changes =>
          rw [ih answer runsOn changes]
          exact effect

/-- Where calls are unfolded, the store changes as it does where each is one question. -/
theorem storeChanges_of_expands {log : Log} {whole : List (Asked (unfolded η H))}
    (expands : Expands (unfoldQuestion details tools chain) log whole)
    (changes : StoreChanges ttl before whole after) : StoreChanges ttl before log after := by
  induction expands generalizing before with
  | nil =>
      cases changes
      exact .nil _
  | @cons question answer part log rest runs _ ih =>
      obtain ⟨between, changesPart, changesRest⟩ := changes.split
      refine .cons ?_ (ih changesRest)
      cases question with
      | call call => exact storeChanges_embedCall runs changesPart
      | _ =>
          obtain rfl := runs_query_iff.1 runs
          have effect := storeEffect_of_changes changesPart
          exact effect

/-- What never expires does not after the answers of a log. -/
theorem lasting_of_storeChanges {log : List (Asked (exchangeInterface C))}
    (lasting : before.WithoutExpiry ttl) (changes : StoreChanges ttl before log after) :
    after.WithoutExpiry ttl := by
  induction changes with
  | nil => exact lasting
  | @cons question answer log before between after effect _ ih =>
      apply ih
      cases question with
      | save session turns =>
          obtain ⟨now, may⟩ := effect
          exact (Backend.kept_of_maySave lasting may).1
      | _ => exact (same_of_effect lasting effect rfl).2

/-- What is saved at the end is stored. -/
theorem has_of_savedLog {session : String} {turns : Transcript} {log : Log}
    (lasting : before.WithoutExpiry ttl)
    (changes : StoreChanges ttl before (log ++ savedLog session turns) after) :
    after.Has session turns.numbered := by
  obtain ⟨between, changesBefore, changesLast⟩ := changes.split
  cases changesLast with
  | cons effect rest =>
      obtain ⟨now, may⟩ := effect
      obtain ⟨-, -, has⟩ := Backend.kept_of_maySave (lasting_of_storeChanges lasting changesBefore) may
      have same : after = _ := storeEffect_of_changes rest
      exact same ▸ has

/-- What is loaded at the start is what was stored. -/
theorem loaded_of_storeChanges {input : Input} {stored : Transcript} {log : Log}
    (lasting : before.WithoutExpiry ttl)
    (changes : StoreChanges ttl before
      (⟨.secure input.user input.session input.message, .ok ()⟩ ::
        ⟨.load input.session, .ok stored⟩ :: log) after) :
    stored = before.stored input.session := by
  cases changes with
  | cons still rest =>
      cases rest with
      | cons effect _ =>
          obtain ⟨now, may⟩ := effect
          have same : _ = before := still
          rw [same] at may
          exact (Backend.kept_of_mayLoad lasting may).2.2 stored rfl

end Stores

/-! ### A whole exchange -/

section Whole

variable {ttl : Option Duration} {plan : Plan η} {chain : Chain η H} {input : Input}
  {whole : List (Asked (unfolded η H))} {reply : Reply}

/-- What opened a session: nothing, as no call is to be made before this message, or the turns of an
opening that was run. -/
inductive OpenedWith (plan : Plan η) (chain : Chain η H) (input : Input) (stored : Transcript)
    (whole : List (Asked (unfolded η H))) : Transcript → Prop where
  | nothing :
      (∀ opening, plan.opening = some opening → opening.applies stored input.session = true →
        Opening.requests opening (plan.catalog.toolset input.subset) = []) →
      OpenedWith plan chain input stored whole []
  | ran {opening : OpeningPlan} {added : Transcript}
      (before part after : List (Asked (unfolded η H))) :
      plan.opening = some opening → opening.applies stored input.session = true → added ≠ [] →
      Runs (unfold plan.syntaxDetails (plan.catalog.toolset input.subset) chain
        (Opening.run opening (plan.catalog.toolset input.subset) input.session)).run part
        (.ok added) →
      whole = before ++ part ++ after → OpenedWith plan chain input stored whole added

theorem Opened.openedWith {stored added : Transcript} {opened before after : Log}
    (isOpened : Opened plan (plan.catalog.toolset input.subset) input.session stored added opened)
    (expands : Expands (unfoldQuestion plan.syntaxDetails (plan.catalog.toolset input.subset) chain)
      (before ++ opened ++ after) whole) :
    OpenedWith plan chain input stored whole added := by
  cases isOpened with
  | without none => exact .nothing none
  | saved isPlanned applies runs full =>
      obtain ⟨first, last, rfl, expandsFirst, -⟩ := expands.split
      obtain ⟨start, opening, rfl, -, expandsOpening⟩ := expandsFirst.split
      obtain ⟨part, saving, rfl, expandsPart, -⟩ := expandsOpening.split
      have runsWhole := Program.runs_embed_iff.2 ⟨_, runs, expandsPart⟩
      refine .ran start part (saving ++ last) isPlanned applies full runsWhole ?_
      simp

/-- What is to be stored after an exchange. -/
def committed (stored opening : Transcript) (message : String) (rounds : List Transcript)
    (final : Turn) : Transcript :=
  stored ++ opening ++ [Turn.plain .user message] ++ rounds.flatten ++ [final]

/-- What an exchange with a reply leaves behind: the turns stored before it, those of an opening, the
message of the user, so many tool rounds as the reply tells, and the answer, whose text it tells; all
of them numbered. -/
structure Commits (plan : Plan η) (chain : Chain η H) (input : Input) (stored : Transcript)
    (reply : Reply) (whole : List (Asked (unfolded η H))) (after : Backend) (opening : Transcript)
    (rounds : List Transcript) (final : Turn) : Prop where
  opened : OpenedWith plan chain input stored whole opening
  toolRounds : ∀ round ∈ rounds, ToolRound round
  count : rounds.length = reply.rounds
  answer : IsAnswer final
  text : final.content = reply.text
  length : reply.length = (committed stored opening input.message rounds final).length
  has : after.Has input.session (committed stored opening input.message rounds final).numbered

/-- An exchange with a reply commits itself to the store. -/
theorem commits_of_runs {before after : Backend} (lasting : before.WithoutExpiry ttl)
    (runs : Runs
      (unfold plan.syntaxDetails (plan.catalog.toolset input.subset) chain (run plan input)).run
      whole (.ok reply))
    (changes : StoreChanges ttl before whole after) :
    ∃ opening rounds final,
      Commits plan chain input (before.stored input.session) reply whole after opening rounds
        final := by
  obtain ⟨log, runsLog, expands⟩ := Program.runs_embed_iff.1 runs
  have changesLog := storeChanges_of_expands expands changes
  rcases runs_runWith runsLog with
    ⟨fault, same, -⟩ | ⟨stored, added, opened, notes, date, rounds, ending, rfl, isOpened, course⟩
  · contradiction
  · have loaded : stored = before.stored input.session := loaded_of_storeChanges lasting changesLog
    subst loaded
    obtain ⟨last, final, rfl, isAnswer, text, count, length⟩ := course.closes.replied
    have turns : before.stored input.session ++ added ++ [Turn.plain .user input.message] ++
        turnsOf (plan.catalog.toolset input.subset).names rounds ++ [final] =
        committed (before.stored input.session) added input.message
          (rounds.map (·.turns (plan.catalog.toolset input.subset).names)) final := by
      rw [committed, turnsOf, List.flatMap_def]
    refine ⟨added, rounds.map (·.turns (plan.catalog.toolset input.subset).names), final, ?_⟩
    constructor
    · rw [preparation, List.append_assoc] at expands
      exact isOpened.openedWith expands
    · intro block member
      obtain ⟨round, isRound, rfl⟩ := List.mem_map.1 member
      obtain ⟨index, found⟩ := List.getElem?_of_mem isRound
      exact (course.complete index round found).toolRound _
    · rw [List.length_map, count, Nat.zero_add]
    · exact isAnswer
    · exact text
    · rw [length, ← turns]
      rfl
    · rw [← turns]
      rw [← List.append_assoc, ← List.append_assoc] at changesLog
      exact has_of_savedLog lasting changesLog

end Whole

end Exchange

end Parley
