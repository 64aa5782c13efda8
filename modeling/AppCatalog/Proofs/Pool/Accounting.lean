import AppCatalog.Proofs.Pool.Step

/-!
# The count of pending tasks

A pool counts a task when it takes it and uncounts it when the task is reported as done. In a
workshop that has come from a new pool by any steps, the count is the number of the jobs that have
not been reported (`Reaches.pending_eq`), whatever crews took them.
-/

namespace AppCatalog

namespace Phase

variable {τ ρ : Type}

/-- Whether the pool has been told that a task is done. -/
def isReported : Phase τ ρ → Bool
  | reported _ => true
  | _ => false

theorem exists_of_isReported {phase : Phase τ ρ} (h : phase.isReported = true) :
    ∃ result, phase = .reported result := by
  cases phase with
  | reported result => exact ⟨result, rfl⟩
  | _ => cases h

end Phase

namespace Pool

theorem start_eq_ok {p p' : Pool} (h : p.start = .ok p') :
    p'.crew.isSome = true ∧ p'.name = p.name ∧ p'.pending = p.pending := by
  rw [start] at h
  split at h
  · next hc =>
      cases h
      rw [hc]
      exact ⟨rfl, rfl, rfl⟩
  · split at h
    · cases h
    · cases h
      exact ⟨rfl, rfl, rfl⟩

end Pool

namespace Workshop

variable {σ τ ρ : Type} {plan : Plan σ τ ρ} {w v : Workshop σ τ ρ}

/-- How many jobs have not been reported. -/
def unreported (w : Workshop σ τ ρ) : Nat := w.jobs.countP fun j => !j.phase.isReported

theorem unreported_setPhase {job : Nat} {j : Job τ ρ} (h : w.jobs[job]? = some j)
    (phase : Phase τ ρ) :
    (w.setPhase job phase).unreported + (!j.phase.isReported).toNat =
      w.unreported + (!phase.isReported).toNat := by
  obtain ⟨front, back, hw, hv⟩ := jobs_setPhase h phase
  have hcons : ∀ a : Job τ ρ, List.countP (fun j => !j.phase.isReported) (a :: back) =
      List.countP (fun j => !j.phase.isReported) back + (!a.phase.isReported).toNat := by
    intro a
    rw [List.countP_cons]
    cases a.phase.isReported <;> rfl
  rw [unreported, unreported, hw, hv, List.countP_append, List.countP_append, hcons, hcons]
  dsimp only
  omega

/-- A job that comes from one phase to another without being reported is counted as before. -/
theorem unreported_setPhase_open {job : Nat} {j : Job τ ρ} (h : w.jobs[job]? = some j)
    (hj : j.phase.isReported = false) {phase : Phase τ ρ} (hp : phase.isReported = false) :
    (w.setPhase job phase).unreported = w.unreported := by
  have hsum := unreported_setPhase h phase
  rw [hj, hp] at hsum
  exact Nat.add_right_cancel hsum

theorem unreported_pos {job : Nat} {j : Job τ ρ} (h : w.jobs[job]? = some j)
    (hj : j.phase.isReported = false) : 0 < w.unreported := by
  rw [unreported, List.countP_pos_iff]
  exact ⟨j, List.mem_of_getElem? h, by rw [hj]; rfl⟩

/-- A submitted task is refused, and nothing has changed, or it is queued and counted. -/
theorem submit_cases (w : Workshop σ τ ρ) (thread : String) (task : τ) :
    (∃ b, w.pool.accept thread = .error b ∧ w.submit thread task = (.error b, w)) ∨
      ∃ crew, w.pool.accept thread = .ok (crew, { w.pool with pending := w.pool.pending + 1 }) ∧
        w.submit thread task = (.ok w.jobs.length, { w with
          pool := { w.pool with pending := w.pool.pending + 1 }
          jobs := w.jobs ++ [⟨crew, .queued task⟩] }) := by
  rcases h : w.pool.accept thread with b | ⟨crew, pool⟩
  · exact Or.inl ⟨b, rfl, by rw [submit, h]⟩
  · obtain ⟨-, -, rfl⟩ := Pool.accept_eq_ok_iff.1 h
    exact Or.inr ⟨crew, rfl, by rw [submit, h]⟩

theorem unreported_queue (w : Workshop σ τ ρ) (pool : Pool) (crew : Nat) (task : τ) :
    unreported { w with pool, jobs := w.jobs ++ [⟨crew, .queued task⟩] } = w.unreported + 1 := by
  rw [unreported, List.countP_append]
  rfl

theorem pending_submit (h : w.pool.pending = w.unreported) (thread : String) (task : τ) :
    (w.submit thread task).2.pool.pending = (w.submit thread task).2.unreported := by
  rcases w.submit_cases thread task with ⟨b, -, hs⟩ | ⟨crew, -, hs⟩
  · rw [hs]
    exact h
  · rw [hs, unreported_queue, Int.natCast_add, ← h]
    rfl

/-- A step keeps the count exact. -/
theorem Takes.pending_eq {e : Event τ} (h : Takes plan w e v) (hw : w.pool.pending = w.unreported) :
    v.pool.pending = v.unreported := by
  cases h with
  | start hp => exact (Pool.start_eq_ok hp).2.2.trans hw
  | submit thread task => exact pending_submit hw thread task
  | begin hj => rw [unreported_setPhase_open hj rfl rfl]; exact hw
  | finish hj => exact hw.trans (congrArg _ (unreported_setPhase_open hj rfl rfl).symm)
  | note hj => exact hw.trans (congrArg _ (unreported_setPhase_open hj rfl rfl).symm)
  | @nested _ worker crew _ inner _ hj =>
      have hs := pending_submit hw (Pool.threadName w.pool.name crew worker) inner
      rw [unreported_setPhase_open (getElem?_submit hj _ _) rfl rfl]
      exact hs
  | await hj => exact hw.trans (congrArg _ (unreported_setPhase_open hj rfl rfl).symm)
  | @report job _ result hj =>
      have hsum : (w.setPhase job (.reported result)).unreported + 1 = w.unreported :=
        unreported_setPhase hj _
      change w.pool.pending - 1 = ((w.setPhase job (.reported result)).unreported : Int)
      rw [hw, ← hsum]
      omega
  | _ => exact hw

/-- The count of a pool is the number of the jobs that have not been reported. -/
theorem Reaches.pending_eq {p : Pool} {shared : σ} (hp : p.pending = 0)
    (h : Reaches plan (ofPool p shared) w) : w.pool.pending = w.unreported := by
  induction h with
  | refl => exact hp
  | step e _ hs ih => exact (Takes.of_step hs).pending_eq ih

end Workshop

end AppCatalog
