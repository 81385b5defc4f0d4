/-
Module: Parley.Session.Backend
Layer: Session
Purpose: The two places in which sessions can be kept, behind one set of operations.  In memory a
  time to live counts; files do not expire.
Main exports: Backend, Backend.load, Backend.save, Backend.delete, Backend.loadNotes,
  Backend.saveNotes
-/
import Parley.Session.FileStore
import Parley.Session.MemoryStore

namespace Parley

/-- Where sessions are kept. -/
inductive Backend where
  | memory (store : MemoryStore)
  | files (directory : Directory)
deriving Inhabited

namespace Backend

/-- Run an operation on the directory. -/
def onFiles {α : Type} (directory : Directory) (operation : FileStore.FileProgram α) :
    Except Fault α × Backend :=
  let (result, after) := directory.run operation
  (result, .files after)

/-- The transcript of a session. -/
def load (session : String) (now : Int) : Backend → Except Fault Transcript × Backend
  | .memory store =>
      let (turns, after) := store.load session now
      (.ok turns, .memory after)
  | .files directory => onFiles directory (FileStore.load session)

/-- Replace the transcript of a session. -/
def save (session : String) (turns : Transcript) (ttl : Option Duration) (now : Int) :
    Backend → Except Fault Unit × Backend
  | .memory store => (.ok (), .memory (store.save session turns ttl now))
  | .files directory => onFiles directory (FileStore.save session turns)

/-- Forget a session. -/
def delete (session : String) : Backend → Except Fault Unit × Backend
  | .memory store => (.ok (), .memory (store.delete session))
  | .files directory => onFiles directory (FileStore.delete session)

/-- The system messages of a session. -/
def loadNotes (session : String) (now : Int) : Backend → Except Fault (List String) × Backend
  | .memory store =>
      let (messages, after) := store.loadNotes session now
      (.ok messages, .memory after)
  | .files directory => onFiles directory (FileStore.loadNotes session)

/-- Replace the system messages of a session. -/
def saveNotes (session : String) (messages : List String) (ttl : Option Duration) (now : Int) :
    Backend → Except Fault Unit × Backend
  | .memory store => (.ok (), .memory (store.saveNotes session messages ttl now))
  | .files directory => onFiles directory (FileStore.saveNotes session messages)

end Backend

end Parley
