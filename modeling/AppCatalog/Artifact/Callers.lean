import AppCatalog.Artifact.Cache

/-!
# Loading at the same time

Several calls may load through one loader at the same time. A call for a resource that is kept takes
the lock of its URI, looks for the file, downloads it if it is not there, and gives the lock back
whatever came of it, so that of two calls for one URI the second finds what the first has downloaded.
Everything happens in single steps: a call begins, a call goes on, the network changes.
`Callers.step` takes one step and `Callers.run` takes many, in any order in which they can be taken.
-/

namespace AppCatalog

/-- How far a call of the loader has come. -/
inductive CallPhase where
  /-- It waits for the lock. -/
  | waiting
  /-- It has the lock and has not looked yet. -/
  | looking
  /-- It has the lock and found no file. -/
  | starting
  /-- It has the lock and downloads. -/
  | receiving (r : Reception)
  /-- It has the lock and knows what it gives. -/
  | leaving (result : Except Failure Resource)
  | returned (result : Except Failure Resource)

namespace CallPhase

def hasLock : CallPhase → Bool
  | waiting | returned _ => false
  | _ => true

/-- What the call gives, once it is known. -/
def result? : CallPhase → Option (Except Failure Resource)
  | leaving result | returned result => some result
  | _ => none

/-- The download of the call, while it is under way. -/
def reception? : CallPhase → Option Reception
  | receiving r => some r
  | _ => none

end CallPhase

/-- A call for the resource that is kept of a URI. -/
structure LoadCall where
  uri : String
  url : String
  target : Path
  phase : CallPhase

/-- A loader's calls over the world. -/
structure Callers where
  world : World
  calls : List LoadCall

namespace Callers

/-- What can happen. -/
inductive Event where
  /-- Somebody asks for the resource of a URI. -/
  | call (uri : String)
  /-- A call goes on. -/
  | advance (i : Nat)
  /-- The network answers otherwise from now on. -/
  | turn (net : Network)

def setPhase (s : Callers) (i : Nat) (phase : CallPhase) : Callers :=
  { s with calls := s.calls.modify i fun c => { c with phase } }

def isLocked (s : Callers) (lock : Nat) : Bool :=
  s.calls.any fun c => c.phase.hasLock && CacheLayout.lockOf c.uri == lock

/-- The call takes a step in the world, which decides its next phase; after a failure it only has
to give the lock back. -/
def perform (s : Callers) (i : Nat) (m : Run World CallPhase) : Callers :=
  let (result, world) := m.on s.world
  let phase := match result with
    | .ok phase => phase
    | .error f => .leaving (.error f)
  { s with world }.setPhase i phase

/-- A call looks whether its file is there. -/
def look (c : LoadCall) : Run World CallPhase := do
  if ← Loader.isKept c.target then pure (.leaving (.ok (.ofPath c.target c.uri)))
  else pure .starting

/-- A call begins to download. -/
def start (c : LoadCall) : Run World CallPhase := .receiving <$> Reception.opened c.target

/-- A call brings its download to the end. -/
def land (c : LoadCall) (r : Reception) : Run World CallPhase := do
  r.finish c.url
  pure (.leaving (.ok (.ofPath c.target c.uri)))

def advance (s : Callers) (i : Nat) (c : LoadCall) : Option Callers :=
  match c.phase with
  | .waiting =>
    if s.isLocked (CacheLayout.lockOf c.uri) then none else some (s.setPhase i .looking)
  | .looking => some (s.perform i (look c))
  | .starting => some (s.perform i (start c))
  | .receiving r => some (s.perform i (land c r))
  | .leaving result => some (s.setPhase i (.returned result))
  | .returned _ => none

/-- Takes a step, if it can be taken. A URI that leads to no kept resource needs no call. -/
def step (l : Loader) (s : Callers) : Event → Option Callers
  | .call uri =>
    match l.lead uri with
    | .ok (.kept url target) => some { s with calls := s.calls ++ [⟨uri, url, target, .waiting⟩] }
    | _ => none
  | .advance i => (s.calls[i]?).bind fun c => s.advance i c
  | .turn net => some { s with world := { s.world with network := net } }

/-- Takes steps one after another, if they can all be taken. -/
def run (l : Loader) : List Event → Callers → Option Callers
  | [], s => some s
  | e :: es, s => (s.step l e).bind (run l es)

end Callers

end AppCatalog
