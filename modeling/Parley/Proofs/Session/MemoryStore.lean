/-
Module: Parley.Proofs.Session.MemoryStore
Layer: Proofs
Purpose: What is read from the memory store after reading and writing.  A read finds a value that has
  not ended, and drops one that has.
Main exports: Lasting.read_fst, Lasting.find?_read, MemoryStore.load_load,
  MemoryStore.load_save_self, MemoryStore.load_save_of_ne
-/
import Parley.Proofs.Dictionary
import Parley.Session.MemoryStore

namespace Parley

open Dictionary (find?)

namespace Lasting

variable {α : Type}

/-- The value of an entry at a time, if it has not ended. -/
def current (now : Int) (entry : Lasting α) : Option α :=
  if entry.isOver now then none else some entry.value

theorem read_fst (table : Dictionary (Lasting α)) (session : String) (now : Int) :
    (read table session now).1 = (find? table session).bind (current now) := by
  rw [read]
  cases found : find? table session with
  | none => rfl
  | some entry => by_cases ended : entry.isOver now <;> simp [current, ended]

/-- A read drops the entry it finds ended, and leaves all others alone. -/
theorem find?_read (table : Dictionary (Lasting α)) (session other : String) (now : Int) :
    find? (read table session now).2 other =
      if other = session then (find? table session).filter fun entry => !entry.isOver now
      else find? table other := by
  rw [read]
  cases found : find? table session with
  | none =>
      by_cases same : other = session
      · simp [same, found]
      · simp [same]
  | some entry =>
      by_cases ended : entry.isOver now
      · by_cases same : other = session
        · simp [ended, same, Option.filter]
        · simp [ended, same, Dictionary.find?_erase_of_ne _ (Ne.symm same)]
      · by_cases same : other = session
        · simp [ended, same, found, Option.filter]
        · simp [ended, same]

end Lasting

namespace MemoryStore

variable {store : MemoryStore} {session other : String} {turns : Transcript} {now later : Int}
  {ttl : Option Duration}

theorem load_fst (store : MemoryStore) (session : String) (now : Int) :
    (store.load session now).1 =
      ((find? store.transcripts session).bind (Lasting.current now)).getD [] := by
  simp only [load, Lasting.read_fst]

/-- After a load, every transcript reads as it did, or as empty. -/
theorem load_load (store : MemoryStore) (session other : String) (now later : Int) :
    ((store.load session now).2.load other later).1 = (store.load other later).1 ∨
      ((store.load session now).2.load other later).1 = [] := by
  have found := Lasting.find?_read store.transcripts session other now
  have transcriptsEq : (store.load session now).2.transcripts =
      (Lasting.read store.transcripts session now).2 := rfl
  rw [load_fst, load_fst, transcriptsEq, found]
  split
  · next same =>
      subst same
      cases find? store.transcripts other with
      | none => exact .inl rfl
      | some entry =>
          by_cases ended : entry.isOver now
          · exact .inr (by simp [Option.filter, ended])
          · exact .inl (by simp [Option.filter, ended])
  · exact .inl rfl

theorem load_save_of_ne (different : session ≠ other) :
    ((store.save session turns ttl now).load other later).1 = (store.load other later).1 := by
  rw [load_fst, load_fst]
  simp only [save, Dictionary.find?_insert_of_ne _ _ different]

theorem load_save_self (store : MemoryStore) (session : String) (turns : Transcript)
    (ttl : Option Duration) (now later : Int) :
    ((store.save session turns ttl now).load session later).1 = turns ∨
      ((store.save session turns ttl now).load session later).1 = [] := by
  rw [load_fst]
  simp only [save, Dictionary.find?_insert_self, Option.bind_some, Lasting.current]
  split
  · exact .inr rfl
  · exact .inl rfl

end MemoryStore

end Parley
