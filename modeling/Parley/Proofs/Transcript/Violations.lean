/-
Module: Parley.Proofs.Transcript.Violations
Layer: Proofs
Purpose: What the check of a transcript reports.  A transcript that is no sequence of blocks has a
  longest beginning that is one; the turn after it is a tool turn, or it asks for tools and a first
  one of its requests is not answered in its place.  The check names that turn and that request.
Main exports: Transcript.wellFormed_iff_flatten, Transcript.Unmet, Transcript.FirstViolation,
  Transcript.wellFormed_or_breaks, Transcript.check_decides
-/
import Parley.Proofs.Transcript.Protocol

namespace Parley.Transcript

/-! ### Blocks in a row -/

theorem wellFormed_iff_flatten {turns : Transcript} :
    WellFormed turns ↔ ∃ blocks : List Transcript, turns = blocks.flatten ∧
      ∀ block ∈ blocks, Block block := by
  constructor
  · intro wellFormed
    induction wellFormed with
    | nil => exact ⟨[], rfl, by simp⟩
    | @append block rest isBlock _ ih =>
        obtain ⟨blocks, rfl, areBlocks⟩ := ih
        exact ⟨block :: blocks, rfl, List.forall_mem_cons.2 ⟨isBlock, areBlocks⟩⟩
  · rintro ⟨blocks, rfl, areBlocks⟩
    induction blocks with
    | nil => exact .nil
    | cons block blocks ih =>
        have ⟨isBlock, others⟩ := List.forall_mem_cons.1 areBlocks
        exact .append isBlock (ih others)

/-! ### Requests without their answer -/

/-- Of the requests of the turn at `asker` some are answered by the turns from `index` on, and then
one is not: the transcript ends or goes on with a turn that is no tool turn, or the tool turn in that
place answers something else. -/
inductive Unmet (asker index : Nat) : List ToolRequest → Transcript → LedgerFault → Prop where
  | missing {answered later : List ToolRequest} {request : ToolRequest}
      {responses rest : Transcript} :
      Answered answered responses → (∀ next ∈ rest.head?, next.role ≠ .tool) →
      Unmet asker index (answered ++ request :: later) (responses ++ rest)
        (.missingResponse asker request.id)
  | mismatched {answered later : List ToolRequest} {request : ToolRequest}
      {responses rest : Transcript} {turn : Turn} :
      Answered answered responses → turn.role = .tool → turn.answers ≠ some request.id →
      Unmet asker index (answered ++ request :: later) (responses ++ turn :: rest)
        (.mismatchedResponse (index + responses.length) request.id turn.answers)

theorem Unmet.checkFrom {asker index : Nat} {pending : List ToolRequest} {turns : Transcript}
    {fault : LedgerFault} (unmet : Unmet asker index pending turns fault) :
    checkFrom index asker pending turns = .error fault := by
  cases unmet with
  | @missing _ _ _ _ rest answered notTool =>
      rw [checkFrom_answered answered]
      cases rest with
      | nil => rfl
      | cons next rest => rw [Transcript.checkFrom, if_neg (notTool next rfl)]
  | mismatched answered isTool different =>
      rw [checkFrom_answered answered, Transcript.checkFrom, if_pos isTool, if_neg different]

/-- One more answered request in front changes where the answers stand, and nothing else. -/
theorem Unmet.cons {asker index : Nat} {request : ToolRequest} {pending : List ToolRequest}
    {turn : Turn} {turns : Transcript} {fault : LedgerFault} (isTool : turn.role = .tool)
    (answers : turn.answers = some request.id) (unmet : Unmet asker (index + 1) pending turns fault) :
    Unmet asker index (request :: pending) (turn :: turns) fault := by
  cases unmet with
  | missing answered notTool => exact .missing (.cons isTool answers answered) notTool
  | @mismatched _ _ _ responses _ _ answered isTool' different =>
      have place : index + 1 + responses.length = index + (turn :: responses).length := by
        simp only [List.length_cons]
        omega
      rw [place]
      exact .mismatched (.cons isTool answers answered) isTool' different

/-- Either the turns begin with an answer to each request, or a first request has none. -/
theorem answered_or_unmet (asker index : Nat) (pending : List ToolRequest) (turns : Transcript) :
    (∃ responses rest, turns = responses ++ rest ∧ Answered pending responses) ∨
      ∃ fault, Unmet asker index pending turns fault := by
  induction pending generalizing index turns with
  | nil => exact .inl ⟨[], turns, rfl, .nil⟩
  | cons request pending ih =>
      cases turns with
      | nil =>
          have unmet : Unmet asker index ([] ++ request :: pending) ([] ++ []) _ :=
            .missing .nil (by simp)
          exact .inr ⟨_, unmet⟩
      | cons turn turns =>
          by_cases isTool : turn.role = .tool
          · by_cases answers : turn.answers = some request.id
            · rcases ih (index + 1) turns with ⟨responses, rest, rfl, answered⟩ | ⟨fault, unmet⟩
              · exact .inl ⟨turn :: responses, rest, rfl, .cons isTool answers answered⟩
              · exact .inr ⟨fault, unmet.cons isTool answers⟩
            · exact .inr ⟨_, .mismatched .nil isTool answers⟩
          · have unmet : Unmet asker index ([] ++ request :: pending) ([] ++ turn :: turns) _ :=
              .missing .nil (by simpa using isTool)
            exact .inr ⟨_, unmet⟩

/-! ### The first violation -/

/-- The first turn of a transcript that belongs to no block, and what is wrong about it.  What stands
before it is a sequence of blocks. -/
inductive FirstViolation : Transcript → LedgerFault → Prop where
  | orphan {before after : Transcript} {turn : Turn} :
      WellFormed before → turn.role = .tool →
      FirstViolation (before ++ turn :: after) (.orphanTool before.length)
  | unmet {before after : Transcript} {asker : Turn} {fault : LedgerFault} :
      WellFormed before → asker.asksForTools = true →
      Unmet before.length (before.length + 1) asker.requests after fault →
      FirstViolation (before ++ asker :: after) fault

theorem FirstViolation.check {turns : Transcript} {fault : LedgerFault}
    (violation : FirstViolation turns fault) : turns.check = .error fault := by
  cases violation with
  | orphan wellFormed isTool =>
      rw [Transcript.check, wellFormed.checkFrom_append, checkFrom, if_pos isTool, Nat.zero_add]
  | unmet wellFormed asks unmet =>
      rw [Transcript.check, wellFormed.checkFrom_append, checkFrom,
        if_neg (Turn.notTool_of_asks asks), pendingAfter, if_pos asks, Nat.zero_add,
        unmet.checkFrom]

/-- No block begins with the turn where `after` follows it. -/
def Breaks (turn : Turn) (after : Transcript) : Prop :=
  turn.role = .tool ∨ turn.asksForTools = true ∧
    ¬∃ responses rest, after = responses ++ rest ∧ Answered turn.requests responses

/-- A turn breaks the order, or the transcript it begins has a first block. -/
theorem breaks_or_block (turn : Turn) (after : Transcript) :
    Breaks turn after ∨ ∃ block rest, turn :: after = block ++ rest ∧ Block block ∧
      rest.length ≤ after.length := by
  by_cases isTool : turn.role = .tool
  · exact .inl (.inl isTool)
  · cases asks : turn.asksForTools with
    | false => exact .inr ⟨[turn], after, rfl, .single isTool asks, Nat.le_refl _⟩
    | true =>
        by_cases met : ∃ responses rest, after = responses ++ rest ∧
            Answered turn.requests responses
        · obtain ⟨responses, rest, rfl, answered⟩ := met
          exact .inr ⟨turn :: responses, rest, rfl, .round asks answered, by simp⟩
        · exact .inl (.inr ⟨asks, met⟩)

/-- What is left of a transcript when no more blocks can be taken from its front is empty or begins
with a turn that breaks the order. -/
theorem wellFormed_or_breaks (turns : Transcript) :
    WellFormed turns ∨ ∃ before turn after, turns = before ++ turn :: after ∧ WellFormed before ∧
      Breaks turn after := by
  induction long : turns.length using Nat.strongRecOn generalizing turns with
  | ind length ih =>
      cases turns with
      | nil => exact .inl .nil
      | cons turn turns =>
          rcases breaks_or_block turn turns with breaks | ⟨block, rest, split, isBlock, shorter⟩
          · exact .inr ⟨[], turn, turns, rfl, .nil, breaks⟩
          · rw [split]
            rw [List.length_cons] at long
            rcases ih rest.length (by omega) rest rfl with wellFormed |
              ⟨before, other, after, rfl, wellFormed, breaks⟩
            · exact .inl (.append isBlock wellFormed)
            · exact .inr ⟨block ++ before, other, after, (List.append_assoc ..).symm,
                .append isBlock wellFormed, breaks⟩

theorem wellFormed_or_violation (turns : Transcript) :
    WellFormed turns ∨ ∃ fault, FirstViolation turns fault := by
  rcases wellFormed_or_breaks turns with wellFormed |
    ⟨before, turn, after, rfl, wellFormed, isTool | ⟨asks, notAnswered⟩⟩
  · exact .inl wellFormed
  · exact .inr ⟨_, .orphan wellFormed isTool⟩
  · rcases answered_or_unmet before.length (before.length + 1) turn.requests after with
      answered | ⟨fault, unmet⟩
    · exact absurd answered notAnswered
    · exact .inr ⟨fault, .unmet wellFormed asks unmet⟩

/-- The check accepts exactly the blocks in a row, and what it reports of any other transcript is the
first violation. -/
theorem check_decides (turns : Transcript) :
    (turns.check = .ok () ↔ ∃ blocks : List Transcript, turns = blocks.flatten ∧
      ∀ block ∈ blocks, Block block) ∧
    ∀ fault, turns.check = .error fault ↔ FirstViolation turns fault := by
  refine ⟨check_eq_ok_iff.trans wellFormed_iff_flatten, fun fault => ⟨?_, fun first => first.check⟩⟩
  intro fails
  rcases wellFormed_or_violation turns with wellFormed | ⟨first, violation⟩
  · rw [check_eq_ok_iff.2 wellFormed] at fails
    contradiction
  · have same := violation.check
    rw [fails] at same
    cases same
    exact violation

example :
    check [.plain .user "hello", .asking "" [⟨"a", "lamp", ""⟩, ⟨"b", "bell", ""⟩],
      .response ⟨"a", "lamp", ""⟩ "on", .plain .assistant "done"] =
        .error (.missingResponse 1 "b") :=
  rfl

end Parley.Transcript
