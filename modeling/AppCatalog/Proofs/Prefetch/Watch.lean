import AppCatalog.Prefetch
import AppCatalog.Proofs.Pool.Image
import AppCatalog.Proofs.Run

/-!
# Watching what is fetched

A run of a shared pool is a sequence of deeds: batches are handed over, tasks go on, the pool is
started and shut down. To tell what becomes of a batch, a run is watched: every task carries the
number of the deed that its batch was handed over with, and every fetch and every line of the log is
recorded under that number. Watching changes nothing: what is watched is the run itself
(`run_eq_map_watchedRun`).
-/

namespace AppCatalog.Prefetch

variable {σ : Type}

/-- A pool with batches at work. -/
abbrev Shop (σ : Type) := Workshop σ Task (Option Outcome)

/-- What somebody does with a shared pool: hand over a batch, or anything but submit a task. -/
inductive Deed where
  | prefetch (thread : String) (rs : List Registration)
  | other (e : Event Empty)

def act (source : Source σ) : Deed → Shop σ → Option (Shop σ)
  | .prefetch thread rs, w => some (submit source thread rs w)
  | .other e, w => w.step (plan source) (e.map Empty.elim)

/-- What is left of a pool after deeds, if they can be done one after another. -/
def run (source : Source σ) : List Deed → Shop σ → Option (Shop σ)
  | [], w => some w
  | d :: ds, w => (act source d w).bind (run source ds)

/-! ## What happens -/

/-- What can be seen of a pool that fetches metadata. -/
inductive Happening where
  | fetched (r : Registration) (fault : Option Failure)
  | noted (level : Level) (text : String)

/-- What becomes of a registration whose metadata is wanted. -/
inductive Fate where
  | fetched (fault : Option Failure)
  | refused (cause : Breakdown)

/-- What is seen of a registration on its way. A fetch is announced, and a failed one is followed by a
warning; a fetch that is refused is not begun, and leaves a warning alone. -/
def Fate.happenings (r : Registration) : Fate → List Happening
  | fetched none => [.noted .info ("Eagerly fetching " ++ shownUri r), .fetched r none]
  | fetched (some fault) =>
    [.noted .info ("Eagerly fetching " ++ shownUri r), .fetched r (some fault),
      .noted .warning ("Could not fetch " ++ shownUri r)]
  | refused cause =>
    [.noted .warning ("Could not schedule fetch of " ++ shownUri r ++ ": " ++ refusalText cause)]

/-- What is seen of a batch that is refused. -/
def skipped (batch : List Registration) (cause : Breakdown) : Happening :=
  .noted .warning ("Skipping metadata prefetch of " ++ toString batch.length ++ " apps: " ++
    refusalText cause)

/-! ## Watched runs -/

/-- What has happened, with the numbers of the deeds that it goes back to. -/
abbrev Record := List (Nat × Happening)

def faultOf : Except Failure Unit → Option Failure
  | .ok _ => none
  | .error fault => some fault

/-- A source that records what is done with it under a number. -/
def Source.watched (source : Source σ) (k : Nat) : Source (σ × Record) where
  fetch r := do
    let outcome ← ((source.fetch r).within Prod.fst fun s p => (s, p.2)).outcome
    modify fun p => (p.1, p.2 ++ [(k, .fetched r (faultOf outcome))])
    Run.ofExcept outcome
  note level text p := (source.note level text p.1, p.2 ++ [(k, .noted level text)])

/-- The plan of tasks that carry a number and pass it on. -/
def watchedPlan (source : Source σ) : Plan (σ × Record) (Nat × Task) (Option Outcome) :=
  fun x p => (plan (source.watched x.1) x.2 p).map id (Prod.mk x.1)

/-- A pool that is watched. -/
abbrev WatchedShop (σ : Type) := Workshop (σ × Record) (Nat × Task) (Option Outcome)

def watchedSubmit (source : Source σ) (k : Nat) (thread : String) (rs : List Registration)
    (t : WatchedShop σ) : WatchedShop σ :=
  if (wanted rs).isEmpty then t
  else
    match t.submit thread (k, .dispatch (wanted rs)) with
    | (.ok _, t) => t
    | (.error cause, t) =>
      { t with
        shared := (source.watched k).note .warning
          ("Skipping metadata prefetch of " ++ toString (wanted rs).length ++ " apps: " ++
            refusalText cause) t.shared }

def watchedAct (source : Source σ) (k : Nat) : Deed → WatchedShop σ → Option (WatchedShop σ)
  | .prefetch thread rs, t => some (watchedSubmit source k thread rs t)
  | .other e, t => t.step (watchedPlan source) (e.map Empty.elim)

/-- What is left of a watched pool after deeds, the first of which has the number `k`. -/
def watchedRun (source : Source σ) : Nat → List Deed → WatchedShop σ → Option (WatchedShop σ)
  | _, [], t => some t
  | k, d :: ds, t => (watchedAct source k d t).bind (watchedRun source (k + 1) ds)

/-- A watched pool as it is without the record and the numbers. -/
def unwatched (t : WatchedShop σ) : Shop σ := t.map Prod.fst Prod.snd

section Watched

variable (source : Source σ) (k : Nat) (p : σ × Record)

theorem watched_fetch_on (r : Registration) :
    ((source.watched k).fetch r).on p = (((source.fetch r).on p.1).1, ((source.fetch r).on p.1).2,
      p.2 ++ [(k, .fetched r (faultOf ((source.fetch r).on p.1).1))]) := by
  rw [Source.watched, Run.on_bind, Run.on_outcome, Run.on_within]
  exact Run.on_bind_ok (Run.on_modify _ _) |>.trans (Run.on_ofExcept _ _)

/-- A fetch under watch does what it does without, and records its fate. -/
theorem fetchAndNote_watched (r : Registration) :
    fetchAndNote (source.watched k) r p = ((fetchAndNote source r p.1).1,
      (fetchAndNote source r p.1).2,
      p.2 ++ ((Fate.fetched (fetchAndNote source r p.1).1.fault).happenings r).map (Prod.mk k)) := by
  have hnote : ∀ level text q, (source.watched k).note level text q =
      (source.note level text q.1, q.2 ++ [(k, .noted level text)]) := fun _ _ _ => rfl
  rw [fetchAndNote, fetch, hnote, watched_fetch_on, fetchAndNote, fetch]
  rcases (source.fetch r).on (source.note .info ("Eagerly fetching " ++ shownUri r) p.1) with
    ⟨fault | u, s⟩
  · simp only [hnote, faultOf, Fate.happenings, List.append_assoc]
    rfl
  · simp only [faultOf, Fate.happenings, List.append_assoc]
    rfl

theorem plan_unwatched (x : Nat × Task) :
    plan source x.2 p.1 = (watchedPlan source x p).map Prod.fst Prod.snd := by
  obtain ⟨k, task⟩ := x
  rcases task with (_ | ⟨r, rs⟩) | ⟨r, cause, left⟩ | r
  · rfl
  · simp only [plan, watchedPlan, Move.map]
  · rfl
  · simp only [plan, watchedPlan, fetchAndNote_watched]
    rfl

theorem submit_unwatched (thread : String) (rs : List Registration) (t : WatchedShop σ) :
    submit source thread rs (unwatched t) = unwatched (watchedSubmit source k thread rs t) := by
  rw [submit, watchedSubmit]
  cases (wanted rs).isEmpty with
  | true => rfl
  | false =>
      have hs := Workshop.submit_map Prod.fst Prod.snd t thread (k, .dispatch (wanted rs))
      rw [if_neg Bool.false_ne_true, if_neg Bool.false_ne_true, unwatched, hs]
      rcases t.submit thread (k, .dispatch (wanted rs)) with ⟨cause | job, t⟩ <;> rfl

theorem act_unwatched (d : Deed) (t : WatchedShop σ) :
    act source d (unwatched t) = (watchedAct source k d t).map unwatched := by
  cases d with
  | prefetch thread rs => exact congrArg some (submit_unwatched source k thread rs t)
  | other e =>
      have he : (e.map Empty.elim : Event Task) =
          Event.map Prod.snd (e.map Empty.elim : Event (Nat × Task)) := by
        cases e with
        | submit _ task => cases task
        | _ => rfl
      rw [act, he]
      exact Workshop.step_map Prod.fst Prod.snd t (fun x p => plan_unwatched source p x) _

/-- What is watched is the run itself. -/
theorem run_eq_map_watchedRun (ds : List Deed) (t : WatchedShop σ) :
    run source ds (unwatched t) = (watchedRun source k ds t).map unwatched := by
  induction ds generalizing k t with
  | nil => rfl
  | cons d ds ih =>
      rw [run, watchedRun, act_unwatched source k]
      rcases watchedAct source k d t with _ | t'
      · rfl
      · exact ih (k + 1) t'

end Watched

end AppCatalog.Prefetch
