import AppCatalog.FileTree
import AppCatalog.Network.Exchange

/-!
# The world around the catalog

The catalog reads and writes files, requests addresses, and logs what it does. `World` is the state
of all that, and `Run` is an operation on a state that gives a value or a failure; what it did to
the state before it failed stays done.
-/

namespace AppCatalog

/-- How grave a log line is. -/
inductive Level where
  | info
  | warning
  | error
  deriving DecidableEq, Repr

def Level.word : Level → String
  | info => "INFO"
  | warning => "WARNING"
  | error => "ERROR"

/-- A line of the log. -/
structure LogLine where
  level : Level
  text : String
  deriving DecidableEq, Repr

/-- The files, the network, and what has been requested and logged, oldest first. -/
structure World where
  disk : FileTree
  network : Network
  requested : List String
  log : List LogLine
  deriving Repr

/-- An operation on a state that gives a value or a failure. -/
abbrev Run (σ α : Type) := ExceptT Failure (StateM σ) α

namespace Run

/-- The outcome and the state after an operation. -/
def on {σ α : Type} (m : Run σ α) (s : σ) : Except Failure α × σ := m.run.run s

/-- An operation on a part of a state. -/
def within {σ τ α : Type} (get : τ → σ) (set : σ → τ → τ) (m : Run σ α) : Run τ α :=
  ExceptT.mk do
    let t ← StateT.get
    let (result, s) := m.on (get t)
    StateT.set (set s t)
    pure result

/-- The outcome of an operation as a value. -/
def outcome {σ α : Type} (m : Run σ α) : Run σ (Except Failure α) :=
  ExceptT.mk do
    let result ← m.run
    pure (.ok result)

def breakdown {σ α : Type} (b : Breakdown) : Run σ α := throw (.breakdown b)

def ofExcept {σ α : Type} : Except Failure α → Run σ α
  | .ok a => pure a
  | .error f => throw f

/-- The outcome of a step on files; a fault is a breakdown. -/
def ofDisk {σ α : Type} : Except OsFault α → Run σ α
  | .ok a => pure a
  | .error f => breakdown (.os f)

end Run

namespace World

/-- A working folder with nothing in it, and a network that does not answer. -/
def empty : World := ⟨.empty, ([] : Replies), [], []⟩

def note (level : Level) (text : String) : Run World Unit :=
  modify fun w => { w with log := w.log ++ [⟨level, text⟩] }

def fetch (url : Points) : Run World (Except NetworkFault Download) := do
  let (urls, result) := (← get).network.fetch url
  modify fun w => { w with requested := w.requested ++ urls }
  Run.ofExcept result

end World

end AppCatalog
