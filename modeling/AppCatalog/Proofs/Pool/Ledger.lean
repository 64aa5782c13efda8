import AppCatalog.Pool.Drill
import AppCatalog.Proofs.Pool.Accounting

/-!
# The ledger of a pool

A pool hears of a task twice, when the task is submitted and when it is reported as done. A run of a
workshop has a ledger of what its pool has heard, from threads outside and from tasks alike (`Runs`),
and every workshop that can be reached has come there by such a run (`reaches_iff_exists_runs`). The
count of pending tasks is the number of those that the ledger has as accepted and not as reported.
Somebody who joins the pool looks at this count, now or after a while (`Joins`), and is told that the
pool is idle only at a moment when nothing in the ledger is outstanding
(`Runs.pending_eq_outstanding`).
-/

namespace AppCatalog

/-- What a pool hears of. -/
inductive Notice where
  /-- A submit has been answered with the number of the task. -/
  | accepted (job : Nat)
  | refused (cause : Breakdown)
  /-- A task that was accepted is done. -/
  | reported (job : Nat)
  deriving DecidableEq, Repr

namespace Notice

def ofAnswer : Except Breakdown Nat → Notice
  | .ok job => accepted job
  | .error cause => refused cause

@[simp] def accepted? : Notice → Option Nat
  | accepted job => some job
  | _ => none

@[simp] def reported? : Notice → Option Nat
  | reported job => some job
  | _ => none

end Notice

/-- What a pool has heard, the oldest first. -/
abbrev Ledger := List Notice

namespace Ledger

variable {l l' : Ledger} {job : Nat}

/-- The tasks that have been accepted. -/
def accepted (l : Ledger) : List Nat := l.filterMap Notice.accepted?

/-- The tasks that have been reported. -/
def reported (l : Ledger) : List Nat := l.filterMap Notice.reported?

/-- The tasks that have been accepted and not been reported. -/
def outstanding (l : Ledger) : List Nat := (accepted l).filter (· ∉ reported l)

@[simp] theorem accepted_concat (l : Ledger) (notice : Notice) :
    accepted (l ++ [notice]) = accepted l ++ notice.accepted?.toList := by
  rw [accepted, List.filterMap_append]
  cases notice <;> rfl

@[simp] theorem reported_concat (l : Ledger) (notice : Notice) :
    reported (l ++ [notice]) = reported l ++ notice.reported?.toList := by
  rw [reported, List.filterMap_append]
  cases notice <;> rfl

theorem outstanding_accepted (h : job ∉ reported l) :
    outstanding (l ++ [.accepted job]) = outstanding l ++ [job] := by
  simp [outstanding, h]

theorem outstanding_refused (l : Ledger) (cause : Breakdown) :
    outstanding (l ++ [.refused cause]) = outstanding l := by
  simp [outstanding]

theorem outstanding_reported (h : (accepted l).Nodup) (job : Nat) :
    outstanding (l ++ [.reported job]) = (outstanding l).erase job := by
  have hnodup : (outstanding l).Nodup := h.filter _
  rw [hnodup.erase_eq_filter, outstanding, outstanding, List.filter_filter, accepted_concat]
  simp only [Notice.accepted?, Option.toList_none, List.append_nil]
  refine List.filter_congr fun other _ => ?_
  rw [Bool.eq_iff_iff]
  simp [and_comm]

theorem outstanding_eq_nil_iff : outstanding l = [] ↔ accepted l ⊆ reported l := by
  simp [outstanding, List.filter_eq_nil_iff, List.subset_def]

end Ledger

namespace Workshop

variable {σ τ ρ : Type} {plan : Plan σ τ ρ} {w v u : Workshop σ τ ρ} {l l' : Ledger}

/-- Whether a job has been reported. -/
def isReported (w : Workshop σ τ ρ) (job : Nat) : Bool :=
  (w.jobs[job]?).any fun j => j.phase.isReported

theorem isReported_iff {job : Nat} :
    w.isReported job = true ↔ ∃ j, w.jobs[job]? = some j ∧ j.phase.isReported = true := by
  rw [isReported]
  cases w.jobs[job]? <;> simp

theorem isReported_setPhase {job : Nat} {j : Job τ ρ} (h : w.jobs[job]? = some j)
    (phase : Phase τ ρ) (other : Nat) : (w.setPhase job phase).isReported other =
      if job = other then phase.isReported else w.isReported other := by
  rw [isReported, setPhase, List.getElem?_modify, isReported]
  by_cases ho : job = other
  · subst ho
    simp [h]
  · simp [ho]

/-- A job that comes from one phase to another without being reported changes nothing. -/
theorem isReported_setPhase_open {job : Nat} {j : Job τ ρ} (h : w.jobs[job]? = some j)
    (hj : j.phase.isReported = false) {phase : Phase τ ρ} (hp : phase.isReported = false) :
    (w.setPhase job phase).isReported = w.isReported := by
  funext other
  rw [isReported_setPhase h]
  split
  · next ho =>
      subst ho
      simp [isReported, h, hj, hp]
  · rfl

theorem isReported_queue (w : Workshop σ τ ρ) (pool : Pool) (crew : Nat) (task : τ) :
    isReported { w with pool, jobs := w.jobs ++ [⟨crew, .queued task⟩] } = w.isReported := by
  funext job
  simp only [isReported, List.getElem?_append, List.getElem?_singleton]
  split
  · rfl
  · next hlt =>
      rw [List.getElem?_eq_none (Nat.not_lt.1 hlt)]
      split <;> rfl

/-! ## What a pool hears of -/

/-- What the pool hears of when something happens, if it is spoken to at all. -/
def notice? (plan : Plan σ τ ρ) (w : Workshop σ τ ρ) : Event τ → Option Notice
  | .submit thread task => some (.ofAnswer (w.submit thread task).1)
  | .advance job =>
    match w.jobs[job]? with
    | some ⟨crew, .running worker task⟩ =>
      match plan task w.shared with
      | .submit inner _ =>
        some (.ofAnswer (w.submit (Pool.threadName w.pool.name crew worker) inner).1)
      | _ => none
    | _ => none
  | .report job => some (.reported job)
  | _ => none

/-- How a workshop has changed when its pool has heard of something, or of nothing. -/
inductive Hears (w v : Workshop σ τ ρ) : Option Notice → Prop
  | nothing (hp : v.pool.pending = w.pool.pending) (hl : v.jobs.length = w.jobs.length)
    (hr : v.isReported = w.isReported) : Hears w v none
  | accepted (hp : v.pool.pending = w.pool.pending + 1) (hl : v.jobs.length = w.jobs.length + 1)
    (hr : v.isReported = w.isReported) : Hears w v (some (.accepted w.jobs.length))
  | refused {cause : Breakdown} (hp : v.pool = w.pool) (hl : v.jobs.length = w.jobs.length)
    (hr : v.isReported = w.isReported) : Hears w v (some (.refused cause))
  | reported {job : Nat} (hjob : job < w.jobs.length) (hopen : w.isReported job = false)
    (hp : v.pool.pending = w.pool.pending - 1) (hl : v.jobs.length = w.jobs.length)
    (hr : ∀ other, v.isReported other = true ↔ w.isReported other = true ∨ other = job) :
    Hears w v (some (.reported job))

theorem hears_submit (w : Workshop σ τ ρ) (thread : String) (task : τ) :
    Hears w (w.submit thread task).2 (some (.ofAnswer (w.submit thread task).1)) := by
  rcases w.submit_cases thread task with ⟨b, -, hs⟩ | ⟨crew, -, hs⟩
  · rw [hs]
    exact .refused rfl rfl rfl
  · rw [hs]
    exact .accepted rfl (by simp) (isReported_queue ..)

/-- The pool does not hear of a job that comes from one phase to another without being reported. -/
theorem Hears.setPhase {notice : Option Notice} (h : Hears w v notice) {job : Nat} {j : Job τ ρ}
    (hj : v.jobs[job]? = some j) (hopen : j.phase.isReported = false) (phase : Phase τ ρ)
    (hp : phase.isReported = false) : Hears w (v.setPhase job phase) notice := by
  have hlength : (v.setPhase job phase).jobs.length = v.jobs.length := List.length_modify ..
  have hr := isReported_setPhase_open hj hopen hp
  cases h with
  | nothing hpending hl hsame => exact .nothing hpending (hlength.trans hl) (hr.trans hsame)
  | accepted hpending hl hsame => exact .accepted hpending (hlength.trans hl) (hr.trans hsame)
  | refused hpool hl hsame => exact .refused hpool (hlength.trans hl) (hr.trans hsame)
  | reported hjob hwas hpending hl hsame =>
      exact .reported hjob hwas hpending (hlength.trans hl) fun other => by rw [hr, hsame]

/-- The pool does not hear of what becomes of the shared state. -/
theorem Hears.shared (w : Workshop σ τ ρ) (shared : σ) : Hears w { w with shared } none :=
  .nothing rfl rfl rfl

/-- What a step changes is what the pool hears of. -/
theorem Takes.hears {e : Event τ} (h : Takes plan w e v) : Hears w v (w.notice? plan e) := by
  cases h with
  | start hp => exact .nothing (Pool.start_eq_ok hp).2.2 rfl rfl
  | submit thread task => exact hears_submit w thread task
  | begin hj => exact (Hears.shared w w.shared).setPhase hj rfl _ rfl
  | @finish _ _ _ _ result shared hj hp =>
      rw [notice?, hj]
      simp only [hp]
      exact (Hears.shared w shared).setPhase hj rfl (.finished result) rfl
  | @note _ worker _ _ next shared hj hp =>
      rw [notice?, hj]
      simp only [hp]
      exact (Hears.shared w shared).setPhase hj rfl (.running worker next) rfl
  | nested hj hp =>
      rw [notice?, hj]
      simp only [hp]
      exact (hears_submit w _ _).setPhase (getElem?_submit hj _ _) rfl _ rfl
  | await hj hp =>
      rw [notice?, hj]
      simp only [hp]
      exact (Hears.shared w w.shared).setPhase hj rfl _ rfl
  | @report job crew result hj =>
      have hopen : w.isReported job = false := by simp [isReported, hj, Phase.isReported]
      refine .reported (List.getElem?_eq_some_iff.1 hj).1 hopen rfl (List.length_modify ..) ?_
      intro other
      change (w.setPhase job (.reported result)).isReported other = true ↔ _
      rw [isReported_setPhase hj]
      split
      · next ho => exact iff_of_true rfl (Or.inr ho.symm)
      · next ho => exact (or_iff_left (Ne.symm ho)).symm
  | _ => exact .nothing rfl rfl rfl

/-! ## Runs -/

/-- A run of a workshop, with the ledger of what its pool hears on the way. -/
inductive Runs (plan : Plan σ τ ρ) (w : Workshop σ τ ρ) : Ledger → Workshop σ τ ρ → Prop
  | refl : Runs plan w [] w
  | step (e : Event τ) {l : Ledger} {v u : Workshop σ τ ρ} :
    Runs plan w l v → v.step plan e = some u → Runs plan w (l ++ (v.notice? plan e).toList) u

/-- A workshop is reached by the runs that lead to it. -/
theorem reaches_iff_exists_runs : Reaches plan w v ↔ ∃ l, Runs plan w l v := by
  constructor
  · intro h
    induction h with
    | refl => exact ⟨[], .refl⟩
    | step e _ hs ih =>
        obtain ⟨l, hl⟩ := ih
        exact ⟨_, hl.step e hs⟩
  · rintro ⟨l, h⟩
    induction h with
    | refl => exact .refl
    | step e _ hs ih => exact ih.step e hs

theorem Runs.trans (h : Runs plan w l v) (h' : Runs plan v l' u) : Runs plan w (l ++ l') u := by
  induction h' with
  | refl => rwa [List.append_nil]
  | step e _ hs ih =>
      rw [← List.append_assoc]
      exact ih.step e hs

/-- A ledger has the tasks of a workshop as accepted, in the order of their numbers, and those that
have been reported as reported, each of them once; and the count of the pool is the number of those
that are outstanding. -/
structure Records (l : Ledger) (w : Workshop σ τ ρ) : Prop where
  accepted : Ledger.accepted l = List.range w.jobs.length
  mem_reported : ∀ job, job ∈ Ledger.reported l ↔ w.isReported job = true
  nodup : (Ledger.reported l).Nodup
  pending : w.pool.pending = (Ledger.outstanding l).length

namespace Records

open Ledger

theorem reported_subset (h : Records l w) : reported l ⊆ Ledger.accepted l := by
  intro job hjob
  obtain ⟨j, hj, -⟩ := isReported_iff.1 ((h.mem_reported job).1 hjob)
  rw [h.accepted, List.mem_range]
  exact (List.getElem?_eq_some_iff.1 hj).1

/-- A ledger that is kept up with what the pool hears goes on recording. -/
theorem hear {notice : Option Notice} (h : Records l w) (hn : Hears w v notice) :
    Records (l ++ notice.toList) v := by
  cases hn with
  | nothing hp hl hr =>
      rw [Option.toList_none, List.append_nil]
      exact ⟨by rw [hl, h.accepted], by rw [hr]; exact h.mem_reported, h.nodup, hp.trans h.pending⟩
  | accepted hp hl hr =>
      -- A new task has the number behind all others, so no report of it can have come before.
      have hnew : w.jobs.length ∉ reported l := fun hmem =>
        List.not_mem_range_self (h.accepted ▸ h.reported_subset hmem)
      refine ⟨?_, ?_, ?_, ?_⟩
      · simp [h.accepted, hl, List.range_succ]
      · simpa [hr] using h.mem_reported
      · simpa using h.nodup
      · simp [outstanding_accepted hnew, hp, h.pending]
  | refused hp hl hr =>
      refine ⟨?_, ?_, ?_, ?_⟩
      · simp [h.accepted, hl]
      · simpa [hr] using h.mem_reported
      · simpa using h.nodup
      · simp [outstanding_refused, hp, h.pending]
  | @reported job hjob hopen hp hl hr =>
      -- The task is in the ledger once and has not been reported, so exactly one entry goes.
      have hnew : job ∉ reported l := by
        rw [h.mem_reported, hopen]
        exact Bool.false_ne_true
      have hdue : job ∈ outstanding l := by
        simp [outstanding, h.accepted, hjob, hnew]
      have haccepted : (Ledger.accepted l).Nodup := by
        rw [h.accepted]
        exact List.nodup_range
      refine ⟨?_, ?_, ?_, ?_⟩
      · simp [h.accepted, hl]
      · simp [hr, h.mem_reported]
      · simpa [List.nodup_append, h.nodup] using fun other hother => ne_of_mem_of_not_mem hother hnew
      · have hpos : 0 < (outstanding l).length := List.length_pos_of_mem hdue
        simp only [Option.toList_some]
        rw [hp, h.pending, outstanding_reported haccepted, List.length_erase_of_mem hdue]
        omega

/-- When nothing is outstanding, every task that has been accepted is done and reported. -/
theorem phase_of_outstanding_eq_nil (h : Records l w) (ho : outstanding l = []) {j : Job τ ρ}
    (hj : j ∈ w.jobs) : ∃ result, j.phase = .reported result := by
  obtain ⟨job, hj⟩ := List.mem_iff_getElem?.1 hj
  have hmem : job ∈ Ledger.accepted l := by
    rw [h.accepted, List.mem_range]
    exact (List.getElem?_eq_some_iff.1 hj).1
  have hreported := (h.mem_reported job).1 (outstanding_eq_nil_iff.1 ho hmem)
  obtain ⟨j', hj', hphase⟩ := isReported_iff.1 hreported
  cases hj.symm.trans hj'
  exact Phase.exists_of_isReported hphase

end Records

/-- The ledger of a run from a new pool records what has happened. -/
theorem Runs.records {p : Pool} {shared : σ} (hp : p.pending = 0)
    (h : Runs plan (ofPool p shared) l w) : Records l w := by
  induction h with
  | refl => exact ⟨rfl, by simp [Ledger.reported, isReported, ofPool], List.nodup_nil, hp⟩
  | step e _ hs ih => exact ih.hear (Takes.of_step hs).hears

/-! ## Joining -/

/-- Somebody waits until no task is pending, for a limited time or for as long as it takes. The
waiting ends when a look at the pool shows that it is idle, or with a last look when the time is
up. -/
inductive Joins (plan : Plan σ τ ρ) (limited : Bool) :
    Workshop σ τ ρ → Ledger → Bool → Workshop σ τ ρ → Prop
  | idle {w : Workshop σ τ ρ} (hi : w.pool.isIdle = true) : Joins plan limited w [] true w
  | timeUp {w : Workshop σ τ ρ} (hl : limited = true) (hi : w.pool.isIdle = false) :
    Joins plan limited w [] false w
  | wait {w v u : Workshop σ τ ρ} {l l' : Ledger} {answer : Bool} (hi : w.pool.isIdle = false)
    (hr : Runs plan w l v) (hj : Joins plan limited v l' answer u) :
    Joins plan limited w (l ++ l') answer u

namespace Joins

variable {limited answer : Bool}

theorem runs (h : Joins plan limited w l answer v) : Runs plan w l v := by
  induction h with
  | idle | timeUp => exact .refl
  | wait _ hr _ ih => exact hr.trans ih

/-- The answer is what the last look at the pool showed. -/
theorem answer_eq (h : Joins plan limited w l answer v) : answer = v.pool.isIdle := by
  induction h with
  | idle hi | timeUp _ hi => exact hi.symm
  | wait _ _ _ ih => exact ih

theorem limited_of_not (h : Joins plan limited w l false v) : limited = true := by
  generalize ha : false = answer at h
  induction h with
  | idle => cases ha
  | timeUp hl => exact hl
  | wait _ _ _ ih => exact ih ha

end Joins

/-- The count of a pool is exact. In a run of a new pool the ledger has every task that has been
accepted, whatever crew took it, and every one that has been reported, each once; and the count is
the number of those that are outstanding. A submit that is refused leaves the pool as it was.
Somebody who joins the pool is told that it is idle exactly if at that moment every task that has been
accepted is reported, and is told otherwise only when the time is up. -/
theorem Runs.pending_eq_outstanding {name : String} {workers : Int} {shared : σ}
    (h : Runs plan (ofPool (.ofName name workers) shared) l w) :
    (Ledger.accepted l = List.range w.jobs.length ∧ (Ledger.reported l).Nodup ∧
      Ledger.reported l ⊆ Ledger.accepted l) ∧
    w.pool.pending = (Ledger.outstanding l).length ∧ 0 ≤ w.pool.pending ∧
    (∀ e cause v, w.step plan e = some v → w.notice? plan e = some (.refused cause) →
      v.pool = w.pool) ∧
    ∀ limited l' answer v, Joins plan limited w l' answer v →
      (answer = true ↔ Ledger.outstanding (l ++ l') = []) ∧
      (answer = true → ∀ j ∈ v.jobs, ∃ result, j.phase = .reported result) ∧
      (answer = false → limited = true) := by
  have hrecords := h.records rfl
  refine ⟨⟨hrecords.accepted, hrecords.nodup, hrecords.reported_subset⟩, hrecords.pending, ?_, ?_, ?_⟩
  · rw [hrecords.pending]
    exact Int.natCast_nonneg _
  · intro e cause v hs hn
    have hhears := (Takes.of_step hs).hears
    rw [hn] at hhears
    cases hhears with
    | refused hp => exact hp
  · intro limited l' answer v hj
    have hlater : Records (l ++ l') v := (h.trans hj.runs).records rfl
    have hidle : answer = true ↔ Ledger.outstanding (l ++ l') = [] := by
      rw [hj.answer_eq, Pool.isIdle, beq_iff_eq, hlater.pending, Int.natCast_eq_zero,
        List.length_eq_zero_iff]
    refine ⟨hidle, fun ha j hjob => hlater.phase_of_outstanding_eq_nil (hidle.1 ha) hjob, ?_⟩
    rintro rfl
    exact hj.limited_of_not

/-- A task of the first crew submits another one, the pool is shut down without waiting and started
again, and the second crew is given a task while the first is still at work. Both are counted, and
joining the pool takes until both crews are done. -/
theorem Runs.pending_eq_outstanding_restarted :
    let new : Workshop Bool Drill (Except Failure Int) := ofPool (.ofName "p" 2) true
    let restarted : Workshop Bool Drill (Except Failure Int) :=
      ⟨⟨"p", 2, some 1, 2, false, 2⟩, true,
        [⟨0, .running 0 (.awaiting 1)⟩, ⟨0, .reported (.ok 2)⟩, ⟨1, .queued (.value 7)⟩],
        [.returned]⟩
    let idle : Workshop Bool Drill (Except Failure Int) :=
      ⟨⟨"p", 2, some 1, 2, false, 0⟩, true,
        [⟨0, .reported (.ok 2)⟩, ⟨0, .reported (.ok 2)⟩, ⟨1, .reported (.ok 7)⟩], [.returned]⟩
    let ledger : Ledger :=
      [.accepted 0, .accepted 1, .refused (.poolShuttingDown "p"), .accepted 2, .reported 1]
    Runs Drill.plan new ledger restarted ∧ Ledger.outstanding ledger = [0, 2] ∧
      restarted.pool.pending = 2 ∧
      Joins Drill.plan true restarted [] false restarted ∧
      Joins Drill.plan false restarted [.reported 0, .reported 2] true idle ∧
      ∀ j ∈ idle.jobs, ∃ result, j.phase = .reported result := by
  intro new restarted idle ledger
  let closing : Workshop Bool Drill (Except Failure Int) :=
    ⟨⟨"p", 2, some 0, 1, true, 2⟩, true,
      [⟨0, .running 0 (.awaiting 1)⟩, ⟨0, .queued (.value 2)⟩], [.dropping false]⟩
  have hclosing : Runs Drill.plan new [.accepted 0, .accepted 1] closing :=
    (Runs.refl : Runs Drill.plan new [] new)
      |>.step .start rfl
      |>.step (.submit "main" (Drill.nested 1)) rfl
      |>.step (.begin 0 0) rfl
      |>.step (.advance 0) rfl
      |>.step (.close false) rfl
  have hrefused : Runs Drill.plan new
      [.accepted 0, .accepted 1, .refused (.poolShuttingDown "p")] closing := by
    have haccept : closing.pool.accept "main" = .error (.poolShuttingDown "p") :=
      Pool.accept_eq_error_iff.2 (Or.inr ⟨rfl, ⟨rfl, by decide⟩, rfl⟩)
    have hstep := hclosing.step (.submit "main" Drill.fail) rfl
    rwa [notice?, submit, haccept] at hstep
  have hruns : Runs Drill.plan new ledger restarted :=
    hrefused
      |>.step (.proceed 0) rfl
      |>.step .start rfl
      |>.step (.submit "main" (Drill.value 7)) rfl
      |>.step (.begin 1 1) rfl
      |>.step (.advance 1) rfl
      |>.step (.report 1) rfl
  have hrest : Runs Drill.plan restarted [.reported 0, .reported 2] idle :=
    (Runs.refl : Runs Drill.plan restarted [] restarted)
      |>.step (.advance 0) rfl
      |>.step (.advance 0) rfl
      |>.step (.report 0) rfl
      |>.step (.begin 2 0) rfl
      |>.step (.advance 2) rfl
      |>.step (.report 2) rfl
  have hjoins : Joins Drill.plan false restarted [.reported 0, .reported 2] true idle :=
    .wait rfl hrest (.idle rfl)
  obtain ⟨-, hpending, -, -, hjoin⟩ := hruns.pending_eq_outstanding
  exact ⟨hruns, rfl, hpending, .timeUp rfl rfl, hjoins, (hjoin _ _ _ _ hjoins).2.1 rfl⟩

end Workshop

end AppCatalog
