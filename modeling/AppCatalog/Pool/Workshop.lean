import AppCatalog.Pool.Basic

/-!
# Tasks at work

A workshop is a pool with the tasks that it has accepted and the shutdowns that are under way, over
a state that the tasks share. Everything happens in single steps, and any order of steps is a run of
the workshop: a worker begins a queued task, a task makes its next move, a finished task is
reported, a shutdown goes on. What a task does is a plan that gives its next move; a task may change
the shared state, submit another task, or wait for one. `Workshop.step` takes one step and
`Workshop.settle` takes steps in order of age until none is left.
-/

namespace AppCatalog

/-- What a task does next. -/
inductive Move (σ τ ρ : Type) where
  /-- It ends with a result and leaves the shared state so. -/
  | finish (result : ρ) (shared : σ)
  /-- It leaves the shared state so and goes on. -/
  | note (next : τ) (shared : σ)
  /-- It submits a task and goes on; the number of the accepted task or the refusal decides how. -/
  | submit (task : τ) (next : Except Breakdown Nat → τ)
  /-- It waits for the result of a task. -/
  | await (job : Nat) (next : ρ → τ)
  /-- It cannot go on yet. -/
  | blocked

/-- How tasks behave over a shared state. -/
abbrev Plan (σ τ ρ : Type) := τ → σ → Move σ τ ρ

/-- How far an accepted task has come. -/
inductive Phase (τ ρ : Type) where
  | queued (task : τ)
  | running (worker : Nat) (task : τ)
  /-- Finished, but not reported to the pool. -/
  | finished (result : ρ)
  | reported (result : ρ)
  deriving DecidableEq, Repr

namespace Phase

/-- The result of a task that has finished. -/
def result? {τ ρ : Type} : Phase τ ρ → Option ρ
  | finished r | reported r => some r
  | _ => none

/-- The worker that is busy with a task. -/
def worker? {τ ρ : Type} : Phase τ ρ → Option Nat
  | running w _ => some w
  | _ => none

end Phase

/-- A task that has been accepted, and the crew that took it. -/
structure Job (τ ρ : Type) where
  crew : Nat
  phase : Phase τ ρ
  deriving DecidableEq, Repr

/-- How far a shutdown has come. -/
inductive Closer where
  /-- It waits until no task is pending. -/
  | draining
  /-- It is about to drop the crew, and to wait for its workers if asked to. -/
  | dropping (waits : Bool)
  /-- It waits for the workers of a crew. -/
  | leaving (crew : Nat)
  | returned
  deriving DecidableEq, Repr

/-- A pool at work. -/
structure Workshop (σ τ ρ : Type) where
  pool : Pool
  shared : σ
  jobs : List (Job τ ρ)
  closers : List Closer

/-- What can happen in a workshop. -/
inductive Event (τ : Type) where
  | start
  /-- A thread that is no worker of the pool submits a task. -/
  | submit (thread : String) (task : τ)
  /-- A worker begins a queued task. -/
  | begin (job worker : Nat)
  /-- A running task makes its next move. -/
  | advance (job : Nat)
  /-- A finished task is reported. -/
  | report (job : Nat)
  /-- Somebody begins a shutdown. -/
  | close (waits : Bool)
  /-- A shutdown goes on. -/
  | proceed (closer : Nat)
  deriving DecidableEq, Repr

namespace Workshop

variable {σ τ ρ : Type}

/-- A workshop in which nothing has happened. -/
def ofPool (p : Pool) (shared : σ) : Workshop σ τ ρ := ⟨p, shared, [], []⟩

def setPhase (w : Workshop σ τ ρ) (job : Nat) (phase : Phase τ ρ) : Workshop σ τ ρ :=
  { w with jobs := w.jobs.modify job fun j => { j with phase } }

/-- The result of a job that has finished. -/
def result? (w : Workshop σ τ ρ) (job : Nat) : Option ρ :=
  (w.jobs[job]?).bind fun j => j.phase.result?

/-- The workers of a crew that are busy. -/
def busyWorkers (w : Workshop σ τ ρ) (crew : Nat) : List Nat :=
  (w.jobs.filter fun j => j.crew == crew).filterMap fun j => j.phase.worker?

/-- Whether the workers of a crew have nothing left to do. -/
def isCrewDone (w : Workshop σ τ ρ) (crew : Nat) : Bool :=
  w.jobs.all fun j => j.crew != crew || j.phase.result?.isSome

/-- Submits a task from a thread: the outcome, and the workshop after it. -/
def submit (w : Workshop σ τ ρ) (thread : String) (task : τ) :
    Except Breakdown Nat × Workshop σ τ ρ :=
  match w.pool.accept thread with
  | .error b => (.error b, w)
  | .ok (crew, pool) =>
    (.ok w.jobs.length, { w with pool, jobs := w.jobs ++ [⟨crew, .queued task⟩] })

/-- A running task of a worker makes its next move. -/
def move (plan : Plan σ τ ρ) (w : Workshop σ τ ρ) (job crew worker : Nat) (task : τ) :
    Option (Workshop σ τ ρ) :=
  match plan task w.shared with
  | .finish result shared => some ({ w with shared }.setPhase job (.finished result))
  | .note next shared => some ({ w with shared }.setPhase job (.running worker next))
  | .submit inner next =>
    let (outcome, w) := w.submit (Pool.threadName w.pool.name crew worker) inner
    some (w.setPhase job (.running worker (next outcome)))
  | .await other next =>
    (w.result? other).map fun r => w.setPhase job (.running worker (next r))
  | .blocked => none

def proceed (w : Workshop σ τ ρ) (closer : Nat) : Option (Workshop σ τ ρ) :=
  let become := fun (w : Workshop σ τ ρ) (c : Closer) =>
    some { w with closers := w.closers.set closer c }
  match w.closers[closer]? with
  | some .draining => if w.pool.isIdle then become w (.dropping true) else none
  | some (.dropping waits) =>
    let (crew, pool) := w.pool.dropCrew
    match crew with
    | some crew => become { w with pool } (if waits then .leaving crew else .returned)
    | none => become { w with pool } .returned
  | some (.leaving crew) => if w.isCrewDone crew then become w .returned else none
  | _ => none

/-- Takes a step, if it can be taken. -/
def step (plan : Plan σ τ ρ) (w : Workshop σ τ ρ) : Event τ → Option (Workshop σ τ ρ)
  | .start =>
    match w.pool.start with
    | .ok pool => some { w with pool }
    | .error _ => none
  | .submit thread task => some (w.submit thread task).2
  | .begin job worker =>
    match w.jobs[job]? with
    | some ⟨crew, .queued task⟩ =>
      if (worker : Int) < w.pool.workers && !(w.busyWorkers crew).contains worker then
        some (w.setPhase job (.running worker task))
      else none
    | _ => none
  | .advance job =>
    match w.jobs[job]? with
    | some ⟨crew, .running worker task⟩ => w.move plan job crew worker task
    | _ => none
  | .report job =>
    match w.jobs[job]? with
    | some ⟨_, .finished result⟩ =>
      some ({ w with pool := w.pool.taskDone }.setPhase job (.reported result))
    | _ => none
  | .close waits =>
    match w.pool.close with
    | none => some { w with closers := w.closers ++ [.returned] }
    | some pool =>
      some { w with
        pool
        closers := w.closers ++ [if waits then .draining else .dropping false] }
  | .proceed closer => w.proceed closer

/-- A workshop that can be reached from another one by steps. -/
inductive Reaches (plan : Plan σ τ ρ) (w : Workshop σ τ ρ) : Workshop σ τ ρ → Prop where
  | refl : Reaches plan w w
  | step {v u : Workshop σ τ ρ} (e : Event τ) :
    Reaches plan w v → v.step plan e = some u → Reaches plan w u

/-- The least worker of a crew that is free. -/
def freeWorker (w : Workshop σ τ ρ) (crew : Nat) : Nat :=
  let busy := w.busyWorkers crew
  ((List.range (busy.length + 1)).find? fun i => !busy.contains i).getD busy.length

/-- The steps that go on with what is under way, the oldest job first. -/
def openEvents (w : Workshop σ τ ρ) : List (Event τ) :=
  ((List.range w.jobs.length).flatMap fun i =>
    [.report i, .advance i, .begin i (((w.jobs[i]?).map fun j => w.freeWorker j.crew).getD 0)]) ++
    (List.range w.closers.length).map .proceed

/-- Takes one of the steps that go on, if there is one. -/
def next? (plan : Plan σ τ ρ) (w : Workshop σ τ ρ) : Option (Workshop σ τ ρ) :=
  w.openEvents.findSome? fun e => w.step plan e

/-- Takes steps until none is left, `fuel` of them at most. -/
def settle (plan : Plan σ τ ρ) : Nat → Workshop σ τ ρ → Workshop σ τ ρ
  | 0, w => w
  | fuel + 1, w =>
    match w.next? plan with
    | some v => settle plan fuel v
    | none => w

end Workshop

end AppCatalog
