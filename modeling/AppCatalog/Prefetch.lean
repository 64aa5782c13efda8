import AppCatalog.Pool.Workshop
import AppCatalog.World

/-!
# Fetching metadata in advance

After registrations are made, the metadata of those that name a metadata URI is fetched by a pool of
workers, so that it is in the cache when it is asked for. A batch is one task, which submits a task
for each member. Nobody waits for it and nothing fails because of it: what goes wrong is logged.
-/

namespace AppCatalog.Prefetch

/-- Where metadata is fetched from, and where it is noted. -/
structure Source (σ : Type) where
  fetch : Registration → Run σ Unit
  note : Level → String → σ → σ

/-- What became of a fetch. -/
structure Outcome where
  uri : Option String
  fault : Option Failure
  deriving DecidableEq, Repr

/-- A task of the pool. -/
inductive Task where
  /-- Submits a fetch for each of the registrations that are left. -/
  | dispatch (left : List Registration)
  /-- Notes that a fetch has been refused, and goes on with what is left. -/
  | refused (r : Registration) (cause : Breakdown) (left : List Registration)
  | fetch (r : Registration)
  deriving DecidableEq, Repr

variable {σ : Type}

/-- The registrations of a batch whose metadata is fetched. -/
def wanted (rs : List Registration) : List Registration := rs.filter fun r => r.metadataUri.isSome

/-- A metadata URI as it shows in the log. -/
def shownUri (r : Registration) : String := r.metadataUri.getD "None"

def refusalText (cause : Breakdown) : String := cause.message?.getD ""

/-- Notes a fetch and fetches. A failure is part of the outcome. -/
def fetch (source : Source σ) (r : Registration) (s : σ) : Outcome × σ :=
  let s := source.note .info ("Eagerly fetching " ++ shownUri r) s
  match (source.fetch r).on s with
  | (.ok (), s) => (⟨r.metadataUri, none⟩, s)
  | (.error failure, s) => (⟨r.metadataUri, some failure⟩, s)

def fetchAndNote (source : Source σ) (r : Registration) (s : σ) : Outcome × σ :=
  let (outcome, s) := fetch source r s
  match outcome.fault with
  | none => (outcome, s)
  | some _ => (outcome, source.note .warning ("Could not fetch " ++ shownUri r) s)

def plan (source : Source σ) : Plan σ Task (Option Outcome)
  | .dispatch [], s => .finish none s
  | .dispatch (r :: rs), _ =>
    .submit (.fetch r) fun
      | .ok _ => .dispatch rs
      | .error cause => .refused r cause rs
  | .refused r cause rs, s =>
    .note (.dispatch rs) (source.note .warning
      ("Could not schedule fetch of " ++ shownUri r ++ ": " ++ refusalText cause) s)
  | .fetch r, s =>
    let (outcome, s) := fetchAndNote source r s
    .finish (some outcome) s

/-- Hands a batch to the pool, unless there is nothing to fetch. A refusal is noted for the whole
batch. -/
def submit (source : Source σ) (thread : String) (rs : List Registration)
    (w : Workshop σ Task (Option Outcome)) : Workshop σ Task (Option Outcome) :=
  if (wanted rs).isEmpty then w
  else
    match w.submit thread (.dispatch (wanted rs)) with
    | (.ok _, w) => w
    | (.error cause, w) =>
      { w with
        shared := source.note .warning
          ("Skipping metadata prefetch of " ++ toString (wanted rs).length ++ " apps: " ++
            refusalText cause) w.shared }

end AppCatalog.Prefetch
