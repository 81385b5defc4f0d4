/-
Module: Parley.Session.MemoryStore
Layer: Session
Purpose: Transcripts and system messages kept in memory.  A value may have a time to live; once that
  is over the value reads as empty, and the first read that finds it so drops it.
Main exports: Lasting, MemoryStore, MemoryStore.load, MemoryStore.save, MemoryStore.delete
-/
import Parley.Calendar.Duration
import Parley.Dictionary
import Parley.Transcript.Turn

namespace Parley

/-- A value and the time in nanoseconds at which it ends, if it does. -/
structure Lasting (α : Type) where
  value : α
  ends : Option Int
deriving DecidableEq, Inhabited

namespace Lasting

variable {α : Type}

/-- The longest time to live that is counted; a longer one never ends. -/
def longest : Duration := .ofMilliseconds 9223372036854775807

/-- A value stored now with a time to live. -/
def store (value : α) (ttl : Option Duration) (now : Int) : Lasting α :=
  { value := value
    ends := (ttl.filter fun span => span ≤ longest).map fun span => now + span.nanoseconds }

/-- Whether a value has ended. -/
def isOver (entry : Lasting α) (now : Int) : Bool :=
  match entry.ends with
  | none => false
  | some moment => moment ≤ now

/-- Read a value; one that has ended is dropped. -/
def read (table : Dictionary (Lasting α)) (session : String) (now : Int) :
    Option α × Dictionary (Lasting α) :=
  match Dictionary.find? table session with
  | none => (none, table)
  | some entry =>
      if entry.isOver now then (none, Dictionary.erase table session) else (some entry.value, table)

end Lasting

/-- The transcripts and system messages of all sessions. -/
structure MemoryStore where
  transcripts : Dictionary (Lasting Transcript)
  notes : Dictionary (Lasting (List String))
deriving DecidableEq, Inhabited

namespace MemoryStore

/-- Nothing is stored. -/
def empty : MemoryStore := ⟨[], []⟩

/-- The transcript of a session. -/
def load (store : MemoryStore) (session : String) (now : Int) : Transcript × MemoryStore :=
  let (found, transcripts) := Lasting.read store.transcripts session now
  (found.getD [], { store with transcripts := transcripts })

/-- Replace the transcript of a session. -/
def save (store : MemoryStore) (session : String) (turns : Transcript) (ttl : Option Duration)
    (now : Int) : MemoryStore :=
  { store with
    transcripts := Dictionary.insert session (Lasting.store turns ttl now) store.transcripts }

/-- Forget a session. -/
def delete (store : MemoryStore) (session : String) : MemoryStore :=
  { transcripts := Dictionary.erase store.transcripts session
    notes := Dictionary.erase store.notes session }

/-- The system messages of a session. -/
def loadNotes (store : MemoryStore) (session : String) (now : Int) :
    List String × MemoryStore :=
  let (found, notes) := Lasting.read store.notes session now
  (found.getD [], { store with notes := notes })

/-- Replace the system messages of a session. -/
def saveNotes (store : MemoryStore) (session : String) (messages : List String)
    (ttl : Option Duration) (now : Int) : MemoryStore :=
  { store with notes := Dictionary.insert session (Lasting.store messages ttl now) store.notes }

/-- The number of sessions with a transcript that has not ended. -/
def count (store : MemoryStore) (now : Int) : Nat :=
  (store.transcripts.filter fun entry => !entry.2.isOver now).length

end MemoryStore

end Parley
