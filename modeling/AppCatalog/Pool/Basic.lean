import AppCatalog.Failure

/-!
# Worker pools

A pool takes tasks and hands them to a crew of workers. It has a crew from the start until a
shutdown drops it, and while a shutdown waits for the tasks that are left, the pool is closing and
takes tasks from its own workers alone. Each definition here is what one holder of the pool's lock
does: `Pool.start`, `Pool.accept`, `Pool.taskDone`, `Pool.isIdle`, and the two ends of a shutdown,
`Pool.close` and `Pool.dropCrew`. What happens between them is for `Workshop` to say.
-/

namespace AppCatalog

/-- A worker pool. -/
structure Pool where
  name : String
  workers : Int
  /-- The crew that takes tasks, by number, if there is one. -/
  crew : Option Nat
  /-- How many crews there have been. -/
  crews : Nat
  isClosing : Bool
  /-- How many accepted tasks have not been reported as done. -/
  pending : Int
  deriving DecidableEq, Repr, Inhabited

namespace Pool

def ofName (name : String) (workers : Int) : Pool := ⟨name, workers, none, 0, false, 0⟩

/-- How many workers a pool has when nothing is said. -/
def standardWorkers : Int := 4

/-- The name that the threads of a crew share; without a name of its own the pool gives them a
number. -/
def threadStem (name : String) (crew : Nat) : String :=
  if name = "" then "ThreadPoolExecutor-" ++ toString crew else name

def threadName (name : String) (crew worker : Nat) : String :=
  threadStem name crew ++ "_" ++ toString worker

/-- Whether a thread counts as one of the pool's workers: its name begins with the pool's. -/
def ownsThread (p : Pool) (thread : String) : Bool :=
  (p.name.toList ++ ['_']).isPrefixOf thread.toList

/-- Whether the pool takes tasks from everybody. -/
def isRunning (p : Pool) : Bool := p.crew.isSome && !p.isClosing

/-- Gives the pool a crew, unless it has one. A crew has at least one worker. -/
def start (p : Pool) : Except Failure Pool :=
  match p.crew with
  | some _ => .ok p
  | none =>
    if p.workers ≤ 0 then .error (.breakdown .badValue)
    else .ok { p with crew := some p.crews, crews := p.crews + 1, isClosing := false }

/-- Accepts a task from a thread: the crew that takes it, and the pool with one more task
pending. -/
def accept (p : Pool) (thread : String) : Except Breakdown (Nat × Pool) :=
  match p.crew with
  | none => .error (.poolNotRunning p.name)
  | some crew =>
    if p.isClosing && !p.ownsThread thread then .error (.poolShuttingDown p.name)
    else .ok (crew, { p with pending := p.pending + 1 })

def taskDone (p : Pool) : Pool := { p with pending := p.pending - 1 }

/-- Whether no task is pending, which is what those who wait for the pool wait for. -/
def isIdle (p : Pool) : Bool := p.pending == 0

/-- Begins a shutdown; without a crew there is nothing to shut down. -/
def close (p : Pool) : Option Pool :=
  if p.crew.isSome then some { p with isClosing := true } else none

/-- Drops the crew and says which one it was. -/
def dropCrew (p : Pool) : Option Nat × Pool := (p.crew, { p with crew := none })

end Pool

end AppCatalog
