import AppCatalog.Pool.Workshop

/-!
# Drills

A drill is a task to try a pool with: it gives a number, or fails, or submits a drill of its own and
passes on what that gives. A drill may first wait for a gate, which is the state that all drills of
a workshop share.
-/

namespace AppCatalog

/-- A task to try a pool with. -/
inductive Drill where
  | value (n : Int)
  | fail
  /-- Submits a drill that gives the next number. -/
  | nested (n : Int)
  /-- Waits for a job and passes on its result. -/
  | awaiting (job : Nat)
  /-- Passes on a refusal. -/
  | refused (cause : Breakdown)
  /-- Waits for the gate and goes on. -/
  | gated (inner : Drill)
  /-- Passes on a result. -/
  | passing (result : Except Failure Int)

namespace Drill

/-- How drills behave; the gate is open or not. -/
def plan : Plan Bool Drill (Except Failure Int)
  | value n, gate => .finish (.ok n) gate
  | fail, gate => .finish (.error (.breakdown .missingKey)) gate
  | nested n, _ =>
    .submit (value (n + 1)) fun
      | .ok job => awaiting job
      | .error cause => refused cause
  | awaiting job, _ => .await job passing
  | refused cause, gate => .finish (.error (.breakdown cause)) gate
  | gated inner, gate => if gate then .note inner gate else .blocked
  | passing result, gate => .finish result gate

end Drill

end AppCatalog
