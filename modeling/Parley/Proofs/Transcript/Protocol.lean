/-
Module: Parley.Proofs.Transcript.Protocol
Layer: Proofs
Purpose: The check of a transcript accepts exactly the sequences of blocks, and what the library does
  to transcripts gives sequences of blocks again: appending a block, numbering the turns, cutting at
  a position and answering requests in order.
Main exports: Transcript.WellFormed.checkFrom_append, Transcript.check_eq_ok_iff,
  Transcript.WellFormed.concat, Transcript.Numbered, Transcript.check_numbered,
  Transcript.WellFormed.dropDangling, Transcript.WellFormed.cutAt, Responses.answered_inOrder
-/
import Parley.Exchange.RequestIds
import Parley.Exchange.Responses
import Parley.Transcript.Cut

namespace Parley

namespace Turn

theorem asksForTools_iff {turn : Turn} :
    turn.asksForTools = true ↔ turn.role = .assistant ∧ turn.requests ≠ [] := by
  simp [asksForTools]

theorem notTool_of_asks {turn : Turn} (asks : turn.asksForTools = true) : turn.role ≠ .tool := by
  rw [(asksForTools_iff.1 asks).1]
  decide

end Turn

namespace Transcript

/-! ### The check -/

theorem Answered.role {requests : List ToolRequest} {responses : Transcript}
    (answered : Answered requests responses) : ∀ turn ∈ responses, turn.role = .tool := by
  induction answered with
  | nil => simp
  | cons isTool _ _ ih =>
      intro turn member
      rcases List.mem_cons.1 member with here | there
      · exact here ▸ isTool
      · exact ih turn there

/-- Answers to the first of what is pending are passed over. -/
theorem checkFrom_answered {requests : List ToolRequest} {responses : Transcript}
    (answered : Answered requests responses) (index asker : Nat) (later : List ToolRequest)
    (rest : Transcript) :
    checkFrom index asker (requests ++ later) (responses ++ rest) =
      checkFrom (index + responses.length) asker later rest := by
  induction answered generalizing index with
  | nil => rfl
  | @cons request requests turn responses isTool answers _ ih =>
      rw [List.cons_append, List.cons_append, checkFrom, if_pos isTool, if_pos answers, ih]
      congr 1
      simp only [List.length_cons]
      omega

/-- Answers to all that is pending are passed over. -/
theorem checkFrom_append {requests : List ToolRequest} {responses : Transcript}
    (answered : Answered requests responses) (index asker : Nat) (rest : Transcript) :
    checkFrom index asker requests (responses ++ rest) =
      checkFrom (index + responses.length) asker [] rest := by
  have passed := checkFrom_answered answered index asker [] rest
  rwa [List.append_nil] at passed

/-- With nothing pending it does not matter which turn asked last. -/
theorem checkFrom_asker (index asker other : Nat) (turns : Transcript) :
    checkFrom index asker [] turns = checkFrom index other [] turns := by
  cases turns <;> rfl

/-- Blocks are passed over. -/
theorem WellFormed.checkFrom_append {before : Transcript} (wellFormed : WellFormed before)
    (index asker : Nat) (rest : Transcript) :
    checkFrom index asker [] (before ++ rest) =
      checkFrom (index + before.length) asker [] rest := by
  induction wellFormed generalizing index with
  | nil => rfl
  | @append block before isBlock _ ih =>
      cases isBlock with
      | @single turn notTool asks =>
          rw [List.append_assoc, List.singleton_append, checkFrom, if_neg notTool, pendingAfter,
            if_neg (by simp [asks]), checkFrom_asker _ index asker, ih, List.length_append,
            List.length_singleton, Nat.add_assoc]
      | @round turn responses asks answered =>
          rw [List.append_assoc, List.cons_append, checkFrom, if_neg (Turn.notTool_of_asks asks),
            pendingAfter, if_pos asks, Transcript.checkFrom_append answered,
            checkFrom_asker _ index asker, ih]
          congr 1
          simp only [List.length_append, List.length_cons]
          omega

/-- A transcript passes the check while requests are pending exactly if it begins with their answers
and goes on with blocks. -/
theorem checkFrom_eq_ok_iff {index asker : Nat} {pending : List ToolRequest} {turns : Transcript} :
    checkFrom index asker pending turns = .ok () ↔
      ∃ responses rest, turns = responses ++ rest ∧ Answered pending responses ∧
        WellFormed rest := by
  constructor
  · intro passes
    induction turns generalizing index asker pending with
    | nil =>
        cases pending with
        | nil => exact ⟨[], [], rfl, .nil, .nil⟩
        | cons request requests => simp [checkFrom] at passes
    | cons turn turns ih =>
        cases pending with
        | nil =>
            rw [checkFrom] at passes
            split at passes
            · contradiction
            · next notTool =>
                obtain ⟨responses, rest, split, answered, wellFormed⟩ := ih passes
                refine ⟨[], turn :: turns, rfl, .nil, ?_⟩
                cases asks : turn.asksForTools with
                | true =>
                    rw [pendingAfter, if_pos asks] at answered
                    rw [split]
                    exact .append (.round asks answered) wellFormed
                | false =>
                    rw [pendingAfter, asks] at answered
                    cases answered
                    rw [split]
                    exact .append (.single notTool asks) wellFormed
        | cons request requests =>
            rw [checkFrom] at passes
            split at passes
            · next isTool =>
                split at passes
                · next answers =>
                    obtain ⟨responses, rest, split, answered, wellFormed⟩ := ih passes
                    exact ⟨turn :: responses, rest, by rw [split]; rfl,
                      .cons isTool answers answered, wellFormed⟩
                · contradiction
            · contradiction
  · rintro ⟨responses, rest, rfl, answered, wellFormed⟩
    have passed := wellFormed.checkFrom_append (index + responses.length) asker []
    rw [List.append_nil] at passed
    rw [checkFrom_append answered, passed]
    rfl

/-- The check accepts exactly the sequences of blocks. -/
theorem check_eq_ok_iff {turns : Transcript} : turns.check = .ok () ↔ WellFormed turns := by
  rw [check, checkFrom_eq_ok_iff]
  constructor
  · rintro ⟨responses, rest, rfl, answered, wellFormed⟩
    cases answered
    exact wellFormed
  · intro wellFormed
    exact ⟨[], turns, rfl, .nil, wellFormed⟩

/-! ### Longer transcripts -/

theorem WellFormed.concat {turns more : Transcript} (wellFormed : WellFormed turns)
    (moreWellFormed : WellFormed more) : WellFormed (turns ++ more) := by
  induction wellFormed with
  | nil => exact moreWellFormed
  | append isBlock _ ih =>
      rw [List.append_assoc]
      exact .append isBlock ih

theorem Block.wellFormed {block : Transcript} (isBlock : Block block) : WellFormed block := by
  simpa using WellFormed.append isBlock .nil

theorem WellFormed.single {turns : Transcript} {turn : Turn} (wellFormed : WellFormed turns)
    (notTool : turn.role ≠ .tool) (asks : turn.asksForTools = false) :
    WellFormed (turns ++ [turn]) :=
  wellFormed.concat (Block.single notTool asks).wellFormed

/-- An assistant turn without requests can end a transcript. -/
theorem WellFormed.spoken {turns : Transcript} {reply : Turn} (wellFormed : WellFormed turns)
    (speaks : reply.role = .assistant) (asks : reply.asksForTools = false) :
    WellFormed (turns ++ [reply]) :=
  wellFormed.single (by rw [speaks]; decide) asks

/-! ### Numbering -/

/-- Each turn has its position, counted from one, as its id. -/
def Numbered (turns : Transcript) : Prop :=
  ∀ (index : Nat) (bound : index < turns.length), turns[index].id = UInt64.ofNat (index + 1)

theorem numbered_numbered (turns : Transcript) : Numbered turns.numbered := by
  intro index bound
  simp [numbered]

/-- The check reads the roles, requests and answers of turns and nothing else. -/
theorem checkFrom_map {index asker : Nat} {pending : List ToolRequest}
    (renumber : Turn × Nat → UInt64) (start : Nat) (turns : Transcript) :
    checkFrom index asker pending
        ((turns.zipIdx start).map fun entry => { entry.1 with id := renumber entry }) =
      checkFrom index asker pending turns := by
  induction turns generalizing index asker pending start with
  | nil => rfl
  | cons turn turns ih =>
      simp only [List.zipIdx_cons, List.map_cons]
      cases pending with
      | nil =>
          simp only [checkFrom, pendingAfter, Turn.asksForTools, ih]
          rfl
      | cons request requests => simp only [checkFrom, ih]

theorem check_numbered (turns : Transcript) : turns.numbered.check = turns.check :=
  checkFrom_map (fun entry => UInt64.ofNat (entry.2 + 1)) 0 turns

/-! ### Cutting -/

/-- A cut that does not end in a turn that needs another after it falls between blocks. -/
theorem WellFormed.of_part {turns part : Transcript} (wellFormed : WellFormed turns)
    (isPart : part <+: turns) (ends : ∀ last ∈ part.getLast?, isDangling last = false) :
    WellFormed part := by
  induction wellFormed generalizing part with
  | nil => rw [List.prefix_nil.1 isPart]; exact .nil
  | @append block rest isBlock _ ih =>
      rcases List.prefix_or_prefix_of_prefix isPart (List.prefix_append block rest) with
        within | ⟨more, rfl⟩
      · -- A proper part of a block is empty, or a turn that asks and some of its answers.
        cases part with
        | nil => exact .nil
        | cons first others =>
            cases isBlock with
            | @single turn notTool asks =>
                obtain ⟨same, rfl⟩ : first = turn ∧ others = [] := by
                  simpa [List.cons_prefix_cons] using within
                exact same ▸ (Block.single notTool asks).wellFormed
            | @round turn responses asks answered =>
                have dangling : ∀ last ∈ first :: others, isDangling last = true := by
                  intro last member
                  rcases List.mem_cons.1 (within.subset member) with here | there
                  · simp [isDangling, here, asks]
                  · simp [isDangling, answered.role last there]
                have last := List.getLast?_eq_some_getLast (List.cons_ne_nil first others)
                have clear := ends _ last
                rw [dangling _ (List.getLast_mem _)] at clear
                contradiction
      · refine .append isBlock (ih ((List.prefix_append_right_inj block).1 isPart) ?_)
        intro last isLast
        apply ends last
        rw [List.getLast?_append, isLast]
        rfl

theorem dropDangling_isPart (turns : Transcript) : dropDangling turns <+: turns := by
  rw [dropDangling, ← List.reverse_suffix, List.reverse_reverse]
  exact List.dropWhile_suffix _

theorem dropDangling_ends (turns : Transcript) :
    ∀ last ∈ (dropDangling turns).getLast?, isDangling last = false := by
  intro last isLast
  rw [dropDangling, List.getLast?_reverse] at isLast
  have stops := List.head?_dropWhile_not isDangling turns.reverse
  rw [isLast] at stops
  exact stops

/-- What is left of a transcript that was cut and stripped of what dangles is well formed. -/
theorem WellFormed.dropDangling {turns : Transcript} (wellFormed : WellFormed turns)
    (count : Nat) : WellFormed (Transcript.dropDangling (turns.take count)) :=
  wellFormed.of_part ((dropDangling_isPart _).trans (List.take_prefix count turns))
    (dropDangling_ends _)

theorem WellFormed.cutAt {turns kept : Transcript} {position removed : Nat}
    (wellFormed : WellFormed turns) (cut : turns.cutAt position = .ok (kept, removed)) :
    WellFormed kept := by
  rw [Transcript.cutAt] at cut
  split at cut
  · contradiction
  · cases cut
    exact wellFormed.dropDangling _

end Transcript

/-! ### Requests and responses -/

namespace RequestIds

theorem length_distinctFrom (supplied seen : List String) (round index : Nat)
    (requests : List ToolRequest) :
    (distinctFrom supplied round seen index requests).length = requests.length := by
  induction requests generalizing seen index with
  | nil => rfl
  | cons request requests ih => simp [distinctFrom, ih]

@[simp] theorem length_distinct (round : Nat) (requests : List ToolRequest) :
    (distinct round requests).length = requests.length :=
  length_distinctFrom _ _ _ _ _

/-- A turn that asks for tools still does with the ids of its requests replaced. -/
theorem asksForTools_distinct {turn : Turn} (asks : turn.asksForTools = true) (round : Nat) :
    { turn with requests := distinct round turn.requests }.asksForTools = true := by
  obtain ⟨isAssistant, nonempty⟩ := Turn.asksForTools_iff.1 asks
  refine Turn.asksForTools_iff.2 ⟨isAssistant, ?_⟩
  have long : (distinct round turn.requests).length ≠ 0 := by
    rw [length_distinct]
    exact fun zero => nonempty (List.eq_nil_of_length_eq_zero zero)
  exact fun isEmpty => long (congrArg List.length isEmpty)

end RequestIds

namespace Responses

open Transcript (Answered)

theorem take?_eq_some {id : String} {responses others : Transcript} {turn : Turn}
    (taken : take? id responses = some (turn, others)) :
    turn ∈ responses ∧ turn.answers = some id ∧ ∀ other ∈ others, other ∈ responses := by
  induction responses generalizing turn others with
  | nil => simp [take?] at taken
  | cons first rest ih =>
      rw [take?] at taken
      split at taken
      · next answers =>
          cases taken
          exact ⟨List.mem_cons_self, answers, fun other => List.mem_cons_of_mem _⟩
      · cases found : take? id rest with
        | none => simp [found] at taken
        | some pair =>
            obtain ⟨response, left⟩ := pair
            obtain ⟨member, answers, kept⟩ := ih found
            simp only [found, Option.map_some, Option.some.injEq, Prod.mk.injEq] at taken
            obtain ⟨rfl, rfl⟩ := taken
            refine ⟨List.mem_cons_of_mem _ member, answers, ?_⟩
            intro other otherMember
            rcases List.mem_cons.1 otherMember with here | there
            · exact here ▸ List.mem_cons_self
            · exact List.mem_cons_of_mem _ (kept other there)

/-- Responses put in order answer the requests, whichever responses there are. -/
theorem answered_inOrder (available : List String) {requests : List ToolRequest}
    {responses : Transcript} (areTools : ∀ turn ∈ responses, turn.role = .tool) :
    Answered requests (inOrder available requests responses) := by
  induction requests generalizing responses with
  | nil => exact .nil
  | cons request requests ih =>
      rw [inOrder]
      split
      · next found others taken =>
          obtain ⟨member, answers, kept⟩ := take?_eq_some taken
          exact .cons (areTools found member) answers
            (ih fun turn turnMember => areTools turn (kept turn turnMember))
      · exact .cons rfl rfl (ih areTools)

end Responses

end Parley
