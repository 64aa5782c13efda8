import AppCatalog.Pool.Drill
import AppCatalog.Proofs.Pool.Accounting

/-!
# Shutdowns that wait

From the moment a started pool is shut down it is open to its own tasks alone, until there are none.
The count of pending tasks carries the argument. As long as a task runs the count is positive, so no
shutdown gets past its wait and the crew is there to take what the task submits; once the count is
zero nobody can submit, so it stays zero while the crew is dropped (`Settling`). Hence nothing is left
to do when a shutdown returns (`shutdown_drains`).
-/

namespace AppCatalog

namespace Pool

/-- The threads of a pool carry its name, unless it has none. -/
theorem ownsThread_threadName_iff {p : Pool} :
    (∀ crew worker, p.ownsThread (threadName p.name crew worker) = true) ↔ p.name ≠ "" := by
  constructor
  · intro h hname
    have howns := h 0 0
    rw [hname, ownsThread, hname] at howns
    exact absurd howns (by decide)
  · intro hname crew worker
    rw [threadName, threadStem, if_neg hname, ownsThread, List.isPrefixOf_iff_prefix,
      String.toList_append, String.toList_append]
    exact List.prefix_append _ _

theorem start_of_crew {p : Pool} {crew : Nat} (h : p.crew = some crew) : p.start = .ok p := by
  rw [start, h]

end Pool

namespace Workshop

variable {σ τ ρ : Type} {plan : Plan σ τ ρ} {w₀ w v : Workshop σ τ ρ}

/-- What happens in a workshop where shutdowns wait: the pool is not started again once a shutdown
has begun, that is when there are more than `n` of them, and only the pool's own threads carry its
name. -/
def IsOrderly (n : Nat) (w : Workshop σ τ ρ) : Event τ → Prop
  | .start => w.closers.length = n
  | .submit thread _ => w.pool.ownsThread thread = false
  | .close waits => waits = true
  | _ => True

/-- A workshop that can be reached from another one in which nothing is being shut down. -/
inductive OrderlyRun (plan : Plan σ τ ρ) (w₀ : Workshop σ τ ρ) : Workshop σ τ ρ → Prop
  | refl : OrderlyRun plan w₀ w₀
  | step {w v : Workshop σ τ ρ} (e : Event τ) (h : OrderlyRun plan w₀ w)
    (ho : w.IsOrderly w₀.closers.length e) (hs : w.step plan e = some v) : OrderlyRun plan w₀ v

theorem OrderlyRun.reaches (h : OrderlyRun plan w₀ w) : Reaches plan w₀ w := by
  induction h with
  | refl => exact .refl
  | step e _ _ hs ih => exact .step e ih hs

/-- What holds in a run with shutdowns `new` since a time when all others, `old`, had returned. -/
structure Settling (old new : List Closer) (w : Workshop σ τ ρ) : Prop where
  closers : w.closers = old ++ new
  pending : w.pool.pending = w.unreported
  closing : w.pool.isClosing = true ↔ new ≠ []
  /-- The crew is only dropped in a shutdown, when nothing is left to do. -/
  stopped : w.pool.crew = none → new ≠ [] ∧ w.unreported = 0
  /-- No shutdown gets past its wait as long as there is something to do. -/
  past : ∀ c ∈ new, c ≠ .draining → w.unreported = 0

namespace Settling

variable {old new : List Closer}

theorem of_eq (h : Settling old new w) (hc : v.closers = w.closers) (hp : v.pool = w.pool)
    (hu : v.unreported = w.unreported) : Settling old new v :=
  ⟨hc.trans h.closers, by rw [hp, hu]; exact h.pending, by rw [hp]; exact h.closing,
    by rw [hp, hu]; exact h.stopped, by rw [hu]; exact h.past⟩

/-- A submitted task is counted, if the pool takes it while no shutdown is past its wait. -/
theorem submit (h : Settling old new w) (thread : String) (task : τ)
    (hd : ∀ crew pool, w.pool.accept thread = .ok (crew, pool) → ∀ c ∈ new, c = .draining) :
    Settling old new (w.submit thread task).2 := by
  have hpending := pending_submit h.pending thread task
  rcases w.submit_cases thread task with ⟨b, -, hs⟩ | ⟨crew, ha, hs⟩
  · rw [hs]
    exact h
  · rw [hs] at hpending ⊢
    refine ⟨h.closers, hpending, h.closing, ?_, ?_⟩
    · intro hnone
      rw [(Pool.accept_eq_ok_iff.1 ha).1] at hnone
      cases hnone
    · intro c hc hne
      exact absurd (hd crew _ ha c hc) hne

/-- As long as there is something to do, every shutdown waits. -/
theorem draining_of_open (h : Settling old new w) {job : Nat} {j : Job τ ρ}
    (hj : w.jobs[job]? = some j) (hr : j.phase.isReported = false) : ∀ c ∈ new, c = .draining := by
  intro c hc
  refine Decidable.byContradiction fun hne => ?_
  exact absurd (h.past c hc hne) (Nat.ne_of_gt (unreported_pos hj hr))

/-- As long as there is something to do, there is a crew. -/
theorem crew_ne_none (h : Settling old new w) {job : Nat} {j : Job τ ρ}
    (hj : w.jobs[job]? = some j) (hr : j.phase.isReported = false) : w.pool.crew ≠ none := by
  intro hnone
  exact absurd (h.stopped hnone).2 (Nat.ne_of_gt (unreported_pos hj hr))

/-- A shutdown that has not returned is one of the new ones. -/
theorem mem_new (h : Settling old new w) (hold : ∀ c ∈ old, c = .returned) {closer : Nat}
    {c : Closer} (hc : w.closers[closer]? = some c) (hne : c ≠ .returned) :
    old.length ≤ closer ∧ c ∈ new := by
  rw [h.closers] at hc
  rcases Nat.lt_or_ge closer old.length with hlt | hge
  · rw [List.getElem?_append_left hlt] at hc
    exact absurd (hold c (List.mem_of_getElem? hc)) hne
  · rw [List.getElem?_append_right hge] at hc
    exact ⟨hge, List.mem_of_getElem? hc⟩

/-- A shutdown goes on from its wait or after it when nothing is left to do. -/
theorem proceed (h : Settling old new w) (hold : ∀ c ∈ old, c = .returned) {closer : Nat}
    {c : Closer} (hc : w.closers[closer]? = some c) (hne : c ≠ .returned) (hzero : w.unreported = 0)
    (pool : Pool) (hpending : pool.pending = w.pool.pending)
    (hclosing : pool.isClosing = w.pool.isClosing) (c' : Closer) :
    ∃ new', Settling old new' { w with pool, closers := w.closers.set closer c' } := by
  obtain ⟨hge, hmem⟩ := h.mem_new hold hc hne
  have hset : w.closers.set closer c' = old ++ new.set (closer - old.length) c' := by
    rw [h.closers, List.set_append_right _ _ hge]
  have hnew : new.set (closer - old.length) c' ≠ [] := by
    rw [Ne, List.set_eq_nil_iff]
    exact List.ne_nil_of_mem hmem
  refine ⟨_, hset, hpending.trans h.pending, ?_, fun _ => ⟨hnew, hzero⟩, fun _ _ _ => hzero⟩
  exact iff_of_true (hclosing.trans (h.closing.2 (List.ne_nil_of_mem hmem))) hnew

/-- What holds before a step of an orderly run holds after it. -/
theorem step {e : Event τ} (h : Settling old new w) (hold : ∀ c ∈ old, c = .returned)
    (ho : w.IsOrderly old.length e) (ht : Takes plan w e v) : ∃ new', Settling old new' v := by
  cases ht with
  | start hp =>
      -- No shutdown has begun, so there is a crew and nothing to start.
      have hnil : new = [] := by
        have hlength : w.closers.length = old.length := ho
        rw [h.closers, List.length_append] at hlength
        exact List.eq_nil_of_length_eq_zero (by omega)
      rcases hc : w.pool.crew with _ | crew
      · exact absurd hnil (h.stopped hc).1
      · rw [Pool.start_of_crew hc] at hp
        cases hp
        exact ⟨new, h⟩
  | submit thread task =>
      refine ⟨new, h.submit thread task ?_⟩
      intro crew pool ha c hc
      have hthread : w.pool.ownsThread thread = false := ho
      have hclosing := h.closing.2 (List.ne_nil_of_mem hc)
      have howns := (Pool.accept_eq_ok_iff.1 ha).2.1 hclosing
      rw [hthread] at howns
      cases howns
  | begin hj => exact ⟨new, h.of_eq rfl rfl (unreported_setPhase_open hj rfl rfl)⟩
  | finish hj => exact ⟨new, h.of_eq rfl rfl (unreported_setPhase_open hj rfl rfl)⟩
  | note hj => exact ⟨new, h.of_eq rfl rfl (unreported_setPhase_open hj rfl rfl)⟩
  | @nested _ worker crew _ inner _ hj =>
      have hs := h.submit (Pool.threadName w.pool.name crew worker) inner
        fun _ _ _ => h.draining_of_open hj rfl
      exact ⟨new, hs.of_eq rfl rfl (unreported_setPhase_open (getElem?_submit hj _ _) rfl rfl)⟩
  | await hj => exact ⟨new, h.of_eq rfl rfl (unreported_setPhase_open hj rfl rfl)⟩
  | report hj =>
      have hpending := (Takes.report hj : Takes plan w _ _).pending_eq h.pending
      refine ⟨new, h.closers, hpending, h.closing, ?_, ?_⟩
      · exact fun hnone => absurd hnone (h.crew_ne_none hj rfl)
      · exact fun c hc hne => absurd (h.draining_of_open hj rfl c hc) hne
  | closeStopped hc =>
      obtain ⟨hnew, hzero⟩ := h.stopped hc
      refine ⟨new ++ [.returned], ?_, h.pending, ?_, ?_, fun _ _ _ => hzero⟩
      · rw [← List.append_assoc, ← h.closers]
      · exact iff_of_true (h.closing.2 hnew) (List.append_ne_nil_of_left_ne_nil hnew _)
      · exact fun _ => ⟨List.append_ne_nil_of_left_ne_nil hnew _, hzero⟩
  | close hc =>
      -- The new shutdown begins to wait; one that does not would be past its wait at once.
      cases ho
      have hnew : new ++ [Closer.draining] ≠ [] := by simp
      refine ⟨new ++ [.draining], ?_, h.pending, iff_of_true rfl hnew, ?_, ?_⟩
      · rw [← List.append_assoc, ← h.closers]
        rfl
      · exact fun hnone => ⟨hnew, (h.stopped hnone).2⟩
      · intro c hc' hne
        rcases List.mem_append.1 hc' with hc' | hc'
        · exact h.past c hc' hne
        · exact absurd (List.mem_singleton.1 hc') hne
  | drained hc hi =>
      -- What lets a shutdown go on is the count, and the count is exact.
      have hzero : w.unreported = 0 := by
        rw [h.pending] at hi
        exact Int.ofNat_eq_zero.1 hi
      exact h.proceed hold hc nofun hzero w.pool rfl rfl _
  | drop hc =>
      have hzero := h.past _ (h.mem_new hold hc nofun).2 nofun
      exact h.proceed hold hc nofun hzero { w.pool with crew := none } rfl rfl _
  | dropNone hc hcrew =>
      exact h.proceed hold hc nofun (h.stopped hcrew).2 { w.pool with crew := none } rfl rfl _
  | left hc =>
      have hzero := h.past _ (h.mem_new hold hc nofun).2 nofun
      exact h.proceed hold hc nofun hzero w.pool rfl rfl _

end Settling

/-- A workshop whose pool has been started, whatever it has been through, and in which nothing is
being shut down. -/
structure Started (plan : Plan σ τ ρ) (w : Workshop σ τ ρ) : Prop where
  reached : ∃ name workers shared, Reaches plan (ofPool (Pool.ofName name workers) shared) w
  running : w.pool.isRunning = true
  returned : ∀ c ∈ w.closers, c = .returned

theorem Started.settling (h : Started plan w₀) : Settling w₀.closers [] w₀ := by
  obtain ⟨name, workers, shared, hr⟩ := h.reached
  have hrunning := h.running
  rw [Pool.isRunning, Bool.and_eq_true, Bool.not_eq_true'] at hrunning
  refine ⟨(List.append_nil _).symm, hr.pending_eq rfl, ?_, ?_, nofun⟩
  · rw [hrunning.2]
    exact iff_of_false Bool.false_ne_true (not_not_intro rfl)
  · intro hnone
    rw [hnone] at hrunning
    cases hrunning.1

theorem OrderlyRun.settling (h₀ : Started plan w₀) (h : OrderlyRun plan w₀ w) :
    ∃ new, Settling w₀.closers new w := by
  induction h with
  | refl => exact ⟨[], h₀.settling⟩
  | step e _ ho hs ih =>
      obtain ⟨new, hw⟩ := ih
      exact hw.step h₀.returned ho (Takes.of_step hs)

/-- Shutdowns that wait leave nothing behind. In every run of a started pool a task that runs can
submit another one, if the threads of the pool carry its name; once a shutdown has begun nobody else
can; and once a shutdown has returned, every task that has ever been accepted has been done and
reported. No task that has been accepted is ever lost. -/
theorem shutdown_drains (h₀ : Started plan w₀) (h : OrderlyRun plan w₀ w) :
    ((∀ crew worker, w.pool.ownsThread (Pool.threadName w.pool.name crew worker) = true) →
      ∀ (job crew worker : Nat) (task inner : τ),
        w.jobs[job]? = some ⟨crew, .running worker task⟩ →
        ∃ crew', w.submit (Pool.threadName w.pool.name crew worker) inner =
          (.ok w.jobs.length, { w with
            pool := { w.pool with pending := w.pool.pending + 1 }
            jobs := w.jobs ++ [⟨crew', .queued inner⟩] })) ∧
    (w₀.closers.length < w.closers.length →
      ∀ thread task, w.pool.ownsThread thread = false →
        w.submit thread task = (.error (.poolNotRunning w.pool.name), w) ∨
        w.submit thread task = (.error (.poolShuttingDown w.pool.name), w)) ∧
    (.returned ∈ w.closers.drop w₀.closers.length →
      ∀ j ∈ w.jobs, ∃ result, j.phase = .reported result) ∧
    ∀ v, OrderlyRun plan w v → Keeps w v := by
  obtain ⟨new, hw⟩ := h.settling h₀
  refine ⟨?_, ?_, ?_, fun v hv => hv.reaches.keeps⟩
  · intro hown job crew worker task inner hj
    rcases w.submit_cases (Pool.threadName w.pool.name crew worker) inner with
      ⟨b, ha, -⟩ | ⟨crew', -, hs⟩
    · exfalso
      rcases Pool.accept_eq_error_iff.1 ha with ⟨hnone, -⟩ | ⟨-, ⟨-, hthread⟩, -⟩
      · exact hw.crew_ne_none hj rfl hnone
      · rw [hown crew worker] at hthread
        cases hthread
    · exact ⟨crew', hs⟩
  · intro hbegun thread task hthread
    have hnew : new ≠ [] := by
      rintro rfl
      rw [hw.closers, List.append_nil] at hbegun
      exact absurd hbegun (Nat.lt_irrefl _)
    rcases w.submit_cases thread task with ⟨b, ha, hs⟩ | ⟨crew, ha, -⟩
    · rcases Pool.accept_eq_error_iff.1 ha with ⟨-, rfl⟩ | ⟨-, -, rfl⟩
      · exact Or.inl hs
      · exact Or.inr hs
    · have howns := (Pool.accept_eq_ok_iff.1 ha).2.1 (hw.closing.2 hnew)
      rw [hthread] at howns
      cases howns
  · rw [hw.closers, List.drop_left]
    intro hmem j hj
    have hzero := hw.past _ hmem nofun
    rw [unreported, List.countP_eq_zero] at hzero
    have hreported := hzero j hj
    rw [Bool.not_eq_true, Bool.not_eq_false'] at hreported
    exact Phase.exists_of_isReported hreported

/-- A pool is shut down while a task waits for one that it has submitted. -/
theorem shutdown_drains_nested :
    let w₀ : Workshop Bool Drill (Except Failure Int) :=
      { ofPool (Pool.ofName "p" 2) true with pool := ⟨"p", 2, some 0, 1, false, 0⟩ }
    let waiting : Workshop Bool Drill (Except Failure Int) :=
      ⟨⟨"p", 2, some 0, 1, true, 2⟩, true,
        [⟨0, .running 0 (.awaiting 1)⟩, ⟨0, .queued (.value 2)⟩], [.draining]⟩
    let after : Workshop Bool Drill (Except Failure Int) :=
      ⟨⟨"p", 2, none, 1, true, 0⟩, true,
        [⟨0, .reported (.ok 2)⟩, ⟨0, .reported (.ok 2)⟩], [.returned]⟩
    Started Drill.plan w₀ ∧
    OrderlyRun Drill.plan w₀ waiting ∧
    (waiting.submit (Pool.threadName "p" 0 0) .fail).1 = .ok 2 ∧
    OrderlyRun Drill.plan w₀ after ∧ ∀ j ∈ after.jobs, ∃ result, j.phase = .reported result := by
  intro w₀ waiting after
  have h₀ : Started Drill.plan w₀ := ⟨⟨"p", 2, true, .step .start .refl rfl⟩, rfl, nofun⟩
  have hthread : w₀.pool.ownsThread "main" = false := by decide
  have hwaiting : OrderlyRun Drill.plan w₀ waiting :=
    (OrderlyRun.refl : OrderlyRun Drill.plan w₀ w₀)
      |>.step (.submit "main" (.nested 1)) hthread rfl
      |>.step (.begin 0 0) trivial rfl
      |>.step (.advance 0) trivial rfl
      |>.step (.close true) rfl rfl
  have hafter : OrderlyRun Drill.plan w₀ after :=
    hwaiting
      |>.step (.begin 1 1) trivial rfl
      |>.step (.advance 1) trivial rfl
      |>.step (.report 1) trivial rfl
      |>.step (.advance 0) trivial rfl
      |>.step (.advance 0) trivial rfl
      |>.step (.report 0) trivial rfl
      |>.step (.proceed 0) trivial rfl
      |>.step (.proceed 0) trivial rfl
      |>.step (.proceed 0) trivial rfl
  have hown : ∀ crew worker, waiting.pool.ownsThread
      (Pool.threadName waiting.pool.name crew worker) = true :=
    Pool.ownsThread_threadName_iff.2 (by decide)
  obtain ⟨crew, hs⟩ := (shutdown_drains h₀ hwaiting).1 hown 0 0 0 (.awaiting 1) .fail rfl
  refine ⟨h₀, hwaiting, congrArg Prod.fst hs, hafter, ?_⟩
  exact (shutdown_drains h₀ hafter).2.2.1 List.mem_cons_self

end Workshop

end AppCatalog
