/-
Module: Parley.Proofs.Exchange.Deletion
Layer: Proofs
Purpose: What deleting a message leaves.  A cut keeps the longest beginning of what stands before the
  position that can end a transcript, and it is refused for positions outside the transcript only.
  Deleting saves what the cut keeps; where the cut is refused nothing is asked after the transcript
  was loaded, and of every session the same can be read as before.
Main exports: Transcript.CanEnd, Transcript.LongestEnding, Transcript.longestEnding_dropDangling,
  Transcript.cutAt_eq_error_iff, Transcript.cutAt_eq_ok_iff, Exchange.runs_delete,
  Exchange.deletes_from
-/
import Mathlib.Data.List.DropRight
import Parley.Proofs.Exchange.Committed
import Parley.Proofs.Session.Reads

namespace Parley

namespace Transcript

/-! ### Cutting -/

/-- The turns are none, or their last is neither a tool turn nor an assistant turn with requests. -/
def CanEnd (turns : Transcript) : Prop :=
  ∀ last ∈ turns.getLast?, last.role ≠ .tool ∧ ¬(last.role = .assistant ∧ last.requests ≠ [])

/-- The longest beginning of a transcript that can end one. -/
structure LongestEnding (turns kept : Transcript) : Prop where
  isPart : kept <+: turns
  canEnd : CanEnd kept
  longest : ∀ other, other <+: turns → CanEnd other → other.length ≤ kept.length

theorem isDangling_eq_false_iff {turn : Turn} :
    isDangling turn = false ↔
      turn.role ≠ .tool ∧ ¬(turn.role = .assistant ∧ turn.requests ≠ []) := by
  rw [isDangling, Bool.or_eq_false_iff, decide_eq_false_iff_not, ← Bool.not_eq_true,
    Turn.asksForTools_iff]

/-- There is one longest beginning only. -/
theorem LongestEnding.unique {turns one two : Transcript} (first : LongestEnding turns one)
    (second : LongestEnding turns two) : one = two := by
  have sameLength : one.length = two.length :=
    Nat.le_antisymm (second.longest one first.isPart first.canEnd)
      (first.longest two second.isPart second.canEnd)
  exact (List.prefix_of_prefix_length_le first.isPart second.isPart sameLength.le).eq_of_length
    sameLength

/-- All turns that are dropped dangle. -/
theorem dropDangling_split (turns : Transcript) :
    ∃ dropped, turns = dropDangling turns ++ dropped ∧
      ∀ turn ∈ dropped, isDangling turn = true :=
  ⟨turns.rtakeWhile isDangling, List.rdropWhile_append_rtakeWhile.symm,
    fun _ => List.mem_rtakeWhile_imp⟩

/-- A beginning that is longer than what is left ends in a turn that was dropped. -/
theorem longestEnding_dropDangling (turns : Transcript) :
    LongestEnding turns (dropDangling turns) where
  isPart := dropDangling_isPart turns
  canEnd last isLast := isDangling_eq_false_iff.1 (dropDangling_ends turns last isLast)
  longest := by
    intro other isPart canEnd
    obtain ⟨dropped, split, dangling⟩ := dropDangling_split turns
    generalize dropDangling turns = kept at split ⊢
    subst split
    rcases List.prefix_or_prefix_of_prefix isPart (List.prefix_append kept dropped) with
      shorter | ⟨more, rfl⟩
    · exact shorter.length_le
    · cases more using List.reverseRecOn with
      | nil => rw [List.append_nil]
      | append_singleton more last =>
          rw [List.prefix_append_right_inj] at isPart
          have dangles := dangling last (isPart.subset (by simp))
          rw [isDangling_eq_false_iff.2 (canEnd last (by simp))] at dangles
          contradiction

/-- A cut is refused exactly at the positions outside the transcript. -/
theorem cutAt_eq_error_iff {turns : Transcript} {position : Nat} {fault : LedgerFault} :
    turns.cutAt position = .error fault ↔
      (position = 0 ∨ turns.length < position) ∧ fault = .outside position turns.length := by
  rw [cutAt]
  split
  · next outside => simp [outside, eq_comm]
  · next inside => simp [inside]

theorem cutAt_eq_ok_iff {turns kept : Transcript} {position removed : Nat} :
    turns.cutAt position = .ok (kept, removed) ↔
      (0 < position ∧ position ≤ turns.length) ∧
        LongestEnding (turns.take (position - 1)) kept ∧ kept.length + removed = turns.length := by
  have isLongest := longestEnding_dropDangling (turns.take (position - 1))
  have within := isLongest.isPart.length_le.trans (List.length_take_le' ..)
  rw [cutAt]
  split
  · next outside =>
      constructor
      · intro refused
        contradiction
      · rintro ⟨inside, -⟩
        omega
  · next inside =>
      rw [Except.ok.injEq, Prod.mk.injEq]
      constructor
      · rintro ⟨rfl, rfl⟩
        exact ⟨by omega, isLongest, by omega⟩
      · rintro ⟨-, longest, count⟩
        obtain rfl := longest.unique isLongest
        exact ⟨rfl, by omega⟩

example :
    cutAt [.plain .user "hello", .asking "" [⟨"a", "lamp", ""⟩, ⟨"b", "bell", ""⟩],
      .response ⟨"a", "lamp", ""⟩ "on", .response ⟨"b", "bell", ""⟩ "rang",
      .plain .assistant "done"] 4 = .ok ([.plain .user "hello"], 4) :=
  rfl

end Transcript

/-! ### Deleting -/

namespace Exchange

open Program (Asked Runs runs_query_iff runs_run_bind runs_run_throw)

variable {C : Interface} {session : String} {position : Nat} {turns : Transcript}
  {rest : List (Asked (exchangeInterface C))} {result : Except Fault Transcript}

/-- Once the transcript is loaded, either the cut is refused and nothing more is asked, or what it
keeps is to be saved next. -/
theorem runs_delete
    (runs : Runs (delete session position).run (⟨.load session, .ok turns⟩ :: rest) result) :
    (∃ fault, turns.cutAt position = .error fault ∧ rest = [] ∧
      result = .error (Fault.ofLedger fault)) ∨
    ∃ kept removed saved more, turns.cutAt position = .ok (kept, removed) ∧
      rest = ⟨.save session kept.numbered, saved⟩ :: more := by
  rw [delete] at runs
  rcases runs_run_bind runs with ⟨fault, rfl, failed⟩ | ⟨before, loaded, after, log, loads, goesOn⟩
  · cases runs_query_iff.1 failed
  · rw [runs_query_iff.1 loads, List.singleton_append, List.cons.injEq] at log
    obtain ⟨same, rfl⟩ := log
    cases same
    cases cut : turns.cutAt position with
    | error fault =>
        simp only [cut] at goesOn
        obtain ⟨rfl, rfl⟩ := runs_run_throw goesOn
        exact .inl ⟨fault, rfl, rfl, rfl⟩
    | ok left =>
        obtain ⟨kept, removed⟩ := left
        simp only [cut, saveTurns, bind_assoc] at goesOn
        rcases runs_run_bind goesOn with ⟨fault, -, failed⟩ | ⟨_, _, more, rfl, saves, -⟩
        · exact .inr ⟨kept, removed, .error fault, [], rfl, runs_query_iff.1 failed⟩
        · rw [runs_query_iff.1 saves]
          exact .inr ⟨kept, removed, _, more, rfl, rfl⟩

/-- What a deletion from a position on does to a transcript, and to the session it is stored for. -/
structure DeletesFrom (turns : Transcript) (position : Nat) : Prop where
  refused : ∀ fault, turns.cutAt position = .error fault ↔
    (position = 0 ∨ turns.length < position) ∧ fault = .outside position turns.length
  cut : ∀ kept removed, turns.cutAt position = .ok (kept, removed) ↔
    (0 < position ∧ position ≤ turns.length) ∧
      Transcript.LongestEnding (turns.take (position - 1)) kept ∧
      kept.length + removed = turns.length
  valid : ∀ kept removed, turns.cutAt position = .ok (kept, removed) →
    turns.check = .ok () → kept.check = .ok ()
  /-- If the position is outside the transcript that was loaded, that is the fault, and the store has
  only loaded: no transcript file is changed, and from then on all is read as if nothing had been
  asked. -/
  untouched : ∀ (C : Interface) session (rest : List (Asked (exchangeInterface C))) result,
    Runs (delete session position).run (⟨.load session, .ok turns⟩ :: rest) result →
    position = 0 ∨ turns.length < position →
    rest = [] ∧ result = .error (Fault.ofLedger (.outside position turns.length)) ∧
      ∀ ttl before after,
        StoreChanges ttl before (⟨.load session, .ok turns⟩ :: rest) after →
        (∀ other, after.file? other = before.file? other) ∧
        ∃ now, (before.load session now).1 = .ok turns ∧
          ∀ other later, now ≤ later ∨ other ≠ session →
            after.reads other later = before.reads other later
  /-- Otherwise the store is next asked to save what the cut keeps, with the turns numbered. -/
  saved : ∀ (C : Interface) session (rest : List (Asked (exchangeInterface C))) result,
    Runs (delete session position).run (⟨.load session, .ok turns⟩ :: rest) result →
    0 < position → position ≤ turns.length →
    ∃ kept removed answer more, turns.cutAt position = .ok (kept, removed) ∧
      rest = ⟨.save session kept.numbered, answer⟩ :: more

/-- So it is for every transcript and every position. -/
theorem deletes_from (turns : Transcript) (position : Nat) : DeletesFrom turns position where
  refused _ := Transcript.cutAt_eq_error_iff
  cut _ _ := Transcript.cutAt_eq_ok_iff
  valid kept removed cut passes := by
    rw [Transcript.check_eq_ok_iff] at passes ⊢
    exact passes.cutAt cut
  untouched := by
    intro C session rest result runs outside
    have isRefused := Transcript.cutAt_eq_error_iff.2 ⟨outside, rfl⟩
    rcases runs_delete runs with ⟨fault, refused, rfl, rfl⟩ | ⟨kept, removed, _, _, cut, -⟩
    · rw [isRefused] at refused
      cases refused
      refine ⟨rfl, rfl, ?_⟩
      intro ttl before after changes
      obtain ⟨now, may⟩ := storeEffect_of_changes changes
      exact ⟨Backend.file?_of_mayLoad may, now, Backend.reads_of_mayLoad may⟩
    · rw [isRefused] at cut
      contradiction
  saved := by
    intro C session rest result runs positive within
    rcases runs_delete runs with ⟨fault, refused, -, -⟩ | saved
    · have outside := (Transcript.cutAt_eq_error_iff.1 refused).1
      omega
    · exact saved

/-- A store with one session, which holds a message. -/
def greeted : Backend :=
  .memory (MemoryStore.empty.save "s1" [.plain .user "hello"] none 0)

theorem deletes_from_greeted :
    let log : List (Asked (exchangeInterface wholeCalls)) :=
      [⟨.load "s1", .ok [.plain .user "hello"]⟩]
    let result : Except Fault Transcript := .error (Fault.ofLedger (.outside 2 1))
    Runs (delete "s1" 2).run log result ∧ StoreChanges none greeted log greeted ∧
      ∃ now, (greeted.load "s1" now).1 = .ok [.plain .user "hello"] := by
  intro log result
  have runs : Runs (delete "s1" 2).run log result := .ask (.done _)
  have changes : StoreChanges none greeted log greeted := .cons ⟨0, .memory _⟩ (.nil _)
  obtain ⟨-, -, untouched⟩ :=
    (deletes_from [.plain .user "hello"] 2).untouched wholeCalls "s1" [] result runs (.inr (by decide))
  obtain ⟨-, now, loaded, -⟩ := untouched none greeted greeted changes
  exact ⟨runs, changes, now, loaded⟩

end Exchange

end Parley
