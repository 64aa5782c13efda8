import AppCatalog.Pool.Workshop

/-!
# What a step does

`Takes` lists the ways in which a workshop takes a step, each with what has to hold before and with
the workshop after it, and `step_eq_some_iff` says that these are the steps that `Workshop.step`
takes. A job that is there stays there under its number, and a result that it has come to stays its
result (`Reaches.keeps`).
-/

namespace AppCatalog

namespace Pool

variable {p : Pool} {thread : String}

/-- A pool takes a task from anybody unless it is closing, and then from its own threads alone. -/
theorem accept_eq_ok_iff {crew : Nat} {p' : Pool} : p.accept thread = .ok (crew, p') ↔
    p.crew = some crew ∧ (p.isClosing = true → p.ownsThread thread = true) ∧
      p' = { p with pending := p.pending + 1 } := by
  have hopen : (p.isClosing && !p.ownsThread thread) = false ↔
      (p.isClosing = true → p.ownsThread thread = true) := by
    cases p.isClosing <;> cases p.ownsThread thread <;> decide
  rw [accept, ← hopen]
  rcases p.crew with _ | crew'
  · exact ⟨nofun, nofun⟩
  · cases p.isClosing && !p.ownsThread thread with
    | true => exact ⟨nofun, nofun⟩
    | false =>
        constructor
        · rintro ⟨⟩
          exact ⟨rfl, rfl, rfl⟩
        · rintro ⟨⟨⟩, -, rfl⟩
          rfl

/-- Without a crew a pool refuses a task, and so it does to others than its own threads while it is
closing. -/
theorem accept_eq_error_iff {b : Breakdown} : p.accept thread = .error b ↔
    p.crew = none ∧ b = .poolNotRunning p.name ∨
      p.crew.isSome = true ∧ (p.isClosing = true ∧ p.ownsThread thread = false) ∧
        b = .poolShuttingDown p.name := by
  have hclosed : (p.isClosing && !p.ownsThread thread) = true ↔
      p.isClosing = true ∧ p.ownsThread thread = false := by
    rw [Bool.and_eq_true, Bool.not_eq_true']
  rw [accept, ← hclosed]
  rcases p.crew with _ | crew
  · constructor
    · rintro ⟨⟩
      exact Or.inl ⟨rfl, rfl⟩
    · rintro (⟨-, rfl⟩ | ⟨⟨⟩, -⟩)
      rfl
  · cases p.isClosing && !p.ownsThread thread with
    | true =>
        constructor
        · rintro ⟨⟩
          exact Or.inr ⟨rfl, rfl, rfl⟩
        · rintro (⟨⟨⟩, -⟩ | ⟨-, -, rfl⟩)
          rfl
    | false =>
        constructor
        · rintro ⟨⟩
        · rintro (⟨⟨⟩, -⟩ | ⟨-, ⟨⟩, -⟩)

end Pool

namespace Workshop

variable {σ τ ρ : Type} {plan : Plan σ τ ρ} {w v u : Workshop σ τ ρ}

/-- The ways in which a workshop takes a step. -/
inductive Takes (plan : Plan σ τ ρ) (w : Workshop σ τ ρ) : Event τ → Workshop σ τ ρ → Prop
  | start {pool : Pool} (h : w.pool.start = .ok pool) : Takes plan w .start { w with pool }
  | submit (thread : String) (task : τ) : Takes plan w (.submit thread task) (w.submit thread task).2
  | begin {job worker crew : Nat} {task : τ} (hj : w.jobs[job]? = some ⟨crew, .queued task⟩)
    (hw : (worker : Int) < w.pool.workers) (hf : worker ∉ w.busyWorkers crew) :
    Takes plan w (.begin job worker) (w.setPhase job (.running worker task))
  | finish {job worker crew : Nat} {task : τ} {result : ρ} {shared : σ}
    (hj : w.jobs[job]? = some ⟨crew, .running worker task⟩)
    (hp : plan task w.shared = .finish result shared) :
    Takes plan w (.advance job) { w.setPhase job (.finished result) with shared }
  | note {job worker crew : Nat} {task next : τ} {shared : σ}
    (hj : w.jobs[job]? = some ⟨crew, .running worker task⟩)
    (hp : plan task w.shared = .note next shared) :
    Takes plan w (.advance job) { w.setPhase job (.running worker next) with shared }
  | nested {job worker crew : Nat} {task inner : τ} {next : Except Breakdown Nat → τ}
    (hj : w.jobs[job]? = some ⟨crew, .running worker task⟩)
    (hp : plan task w.shared = .submit inner next) :
    Takes plan w (.advance job)
      ((w.submit (Pool.threadName w.pool.name crew worker) inner).2.setPhase job
        (.running worker (next (w.submit (Pool.threadName w.pool.name crew worker) inner).1)))
  | await {job worker crew other : Nat} {task : τ} {next : ρ → τ} {result : ρ}
    (hj : w.jobs[job]? = some ⟨crew, .running worker task⟩)
    (hp : plan task w.shared = .await other next) (hr : w.result? other = some result) :
    Takes plan w (.advance job) (w.setPhase job (.running worker (next result)))
  | report {job crew : Nat} {result : ρ} (hj : w.jobs[job]? = some ⟨crew, .finished result⟩) :
    Takes plan w (.report job) { w.setPhase job (.reported result) with pool := w.pool.taskDone }
  | closeStopped {waits : Bool} (hc : w.pool.crew = none) :
    Takes plan w (.close waits) { w with closers := w.closers ++ [.returned] }
  | close {waits : Bool} (hc : w.pool.crew.isSome) :
    Takes plan w (.close waits) { w with
      pool := { w.pool with isClosing := true }
      closers := w.closers ++ [if waits then .draining else .dropping false] }
  | drained {closer : Nat} (hc : w.closers[closer]? = some .draining) (hi : w.pool.pending = 0) :
    Takes plan w (.proceed closer) { w with closers := w.closers.set closer (.dropping true) }
  | drop {closer crew : Nat} {waits : Bool} (hc : w.closers[closer]? = some (.dropping waits))
    (hcrew : w.pool.crew = some crew) :
    Takes plan w (.proceed closer) { w with
      pool := { w.pool with crew := none }
      closers := w.closers.set closer (if waits then .leaving crew else .returned) }
  | dropNone {closer : Nat} {waits : Bool} (hc : w.closers[closer]? = some (.dropping waits))
    (hcrew : w.pool.crew = none) :
    Takes plan w (.proceed closer) { w with
      pool := { w.pool with crew := none }
      closers := w.closers.set closer .returned }
  | left {closer crew : Nat} (hc : w.closers[closer]? = some (.leaving crew))
    (hd : w.isCrewDone crew = true) :
    Takes plan w (.proceed closer) { w with closers := w.closers.set closer .returned }

theorem Takes.of_step {e : Event τ} (h : w.step plan e = some v) : Takes plan w e v := by
  cases e with
  | start =>
      rw [step] at h
      split at h
      · next hp =>
          cases h
          exact .start hp
      · cases h
  | submit thread task =>
      cases h
      exact .submit thread task
  | begin job worker =>
      rw [step] at h
      split at h
      · next hj =>
          split at h
          · next hw =>
              cases h
              rw [Bool.and_eq_true, decide_eq_true_eq, Bool.not_eq_true', List.contains_eq_mem,
                decide_eq_false_iff_not] at hw
              exact .begin hj hw.1 hw.2
          · cases h
      · cases h
  | advance job =>
      rw [step] at h
      split at h
      · next crew worker task hj =>
          rw [move] at h
          split at h
          · next hp =>
              cases h
              exact .finish hj hp
          · next hp =>
              cases h
              exact .note hj hp
          · next hp =>
              cases h
              exact .nested hj hp
          · next hp =>
              obtain ⟨result, hr, rfl⟩ := Option.map_eq_some_iff.1 h
              exact .await hj hp hr
          · cases h
      · cases h
  | report job =>
      rw [step] at h
      split at h
      · next hj =>
          cases h
          exact .report hj
      · cases h
  | close waits =>
      rw [step, Pool.close] at h
      by_cases hc : w.pool.crew.isSome = true
      · rw [if_pos hc] at h
        cases h
        exact .close hc
      · rw [if_neg hc] at h
        cases h
        exact .closeStopped (Option.not_isSome_iff_eq_none.1 hc)
  | proceed closer =>
      rw [step, proceed] at h
      split at h
      · next hc =>
          split at h
          · next hi =>
              cases h
              exact .drained hc (beq_iff_eq.1 hi)
          · cases h
      · next waits hc =>
          simp only [Pool.dropCrew] at h
          split at h
          · next crew hcrew =>
              cases h
              exact .drop hc hcrew
          · next hcrew =>
              cases h
              exact .dropNone hc hcrew
      · next crew hc =>
          split at h
          · next hd =>
              cases h
              exact .left hc hd
          · cases h
      · cases h

theorem Takes.step_eq {e : Event τ} (h : Takes plan w e v) : w.step plan e = some v := by
  cases h with
  | start h => rw [step, h]
  | submit => rfl
  | @begin _ worker crew _ hj hw hf =>
      have hfree : (!(w.busyWorkers crew).contains worker) = true := by
        rw [Bool.not_eq_true', List.contains_eq_mem, decide_eq_false_iff_not]
        exact hf
      rw [step, hj]
      simp only [hw, hfree, decide_true, Bool.and_true, if_true]
  | finish hj hp =>
      rw [step, hj]
      simp only [move, hp]
      rfl
  | note hj hp =>
      rw [step, hj]
      simp only [move, hp]
      rfl
  | nested hj hp =>
      rw [step, hj]
      simp only [move, hp]
  | await hj hp hr =>
      rw [step, hj]
      simp only [move, hp, hr, Option.map_some]
  | report hj =>
      rw [step, hj]
      rfl
  | closeStopped hc =>
      rw [step, Pool.close, hc]
      rfl
  | close hc => rw [step, Pool.close, if_pos hc]
  | drained hc hi =>
      have hidle : w.pool.isIdle = true := beq_iff_eq.2 hi
      rw [step, proceed, hc]
      simp only [hidle, if_true]
  | drop hc hcrew =>
      rw [step, proceed, hc]
      simp only [Pool.dropCrew, hcrew]
  | dropNone hc hcrew =>
      rw [step, proceed, hc]
      simp only [Pool.dropCrew, hcrew]
  | left hc hd =>
      rw [step, proceed, hc]
      simp only [hd, if_true]

/-- A workshop takes a step exactly in one of these ways. -/
theorem step_eq_some_iff {e : Event τ} : w.step plan e = some v ↔ Takes plan w e v :=
  ⟨Takes.of_step, Takes.step_eq⟩

/-! ## Jobs -/

/-- To set the phase of a job changes the job in its place and no other. -/
theorem jobs_setPhase {job : Nat} {j : Job τ ρ} (h : w.jobs[job]? = some j) (phase : Phase τ ρ) :
    ∃ front back, w.jobs = front ++ j :: back ∧
      (w.setPhase job phase).jobs = front ++ { j with phase } :: back := by
  obtain ⟨hlt, -⟩ := List.getElem?_eq_some_iff.1 h
  obtain ⟨front, j', back, hw, hl, hset⟩ :=
    List.exists_of_modify (fun j : Job τ ρ => { j with phase }) hlt
  rw [hw, ← hl, List.getElem?_append_right (Nat.le_refl _), Nat.sub_self] at h
  cases h
  exact ⟨front, back, hw, hset⟩

theorem getElem?_submit {job : Nat} {j : Job τ ρ} (h : w.jobs[job]? = some j) (thread : String)
    (task : τ) : (w.submit thread task).2.jobs[job]? = some j := by
  rw [submit]
  split
  · exact h
  · rw [List.getElem?_append_left (List.getElem?_eq_some_iff.1 h).1, h]

/-- What is there in one workshop and still there in another: the jobs, under their numbers, and the
results that they have come to. -/
structure Keeps (w v : Workshop σ τ ρ) : Prop where
  length_le : w.jobs.length ≤ v.jobs.length
  result : ∀ job r, w.result? job = some r → v.result? job = some r

namespace Keeps

theorem refl (w : Workshop σ τ ρ) : Keeps w w := ⟨Nat.le_refl _, fun _ _ h => h⟩

theorem trans (h : Keeps w v) (h' : Keeps v u) : Keeps w u :=
  ⟨Nat.le_trans h.length_le h'.length_le, fun job r hr => h'.result job r (h.result job r hr)⟩

theorem of_jobs_eq (h : v.jobs = w.jobs) : Keeps w v := by
  refine ⟨Nat.le_of_eq (congrArg List.length h.symm), ?_⟩
  intro job r hr
  rwa [result?, h]

/-- A job may come to any phase, but keeps a result. -/
theorem setPhase {job : Nat} {j : Job τ ρ} (hj : w.jobs[job]? = some j) (phase : Phase τ ρ)
    (h : ∀ r, j.phase.result? = some r → phase.result? = some r) : Keeps w (w.setPhase job phase) := by
  refine ⟨Nat.le_of_eq (List.length_modify _ _ _).symm, ?_⟩
  intro other r hr
  obtain ⟨j', hj', hr⟩ := Option.bind_eq_some_iff.1 hr
  rw [result?, Workshop.setPhase, List.getElem?_modify, hj']
  by_cases ho : job = other
  · subst ho
    cases hj.symm.trans hj'
    simp only [if_true]
    exact h r hr
  · simp only [ho, if_false]
    exact hr

theorem submit (w : Workshop σ τ ρ) (thread : String) (task : τ) :
    Keeps w (w.submit thread task).2 := by
  rw [Workshop.submit]
  split
  · exact refl w
  · refine ⟨?_, ?_⟩
    · rw [List.length_append]
      exact Nat.le_add_right _ _
    · intro job r hr
      obtain ⟨j, hj, hr⟩ := Option.bind_eq_some_iff.1 hr
      rw [result?, List.getElem?_append_left (List.getElem?_eq_some_iff.1 hj).1, hj]
      exact hr

end Keeps

/-- No step takes a job away or changes its result. -/
theorem Takes.keeps {e : Event τ} (h : Takes plan w e v) : Keeps w v := by
  cases h with
  | submit thread task => exact .submit w thread task
  | begin hj => exact .setPhase hj _ nofun
  | finish hj => exact (Keeps.setPhase hj _ nofun).trans (.of_jobs_eq rfl)
  | note hj => exact (Keeps.setPhase hj _ nofun).trans (.of_jobs_eq rfl)
  | nested hj => exact (Keeps.submit w _ _).trans (.setPhase (getElem?_submit hj _ _) _ nofun)
  | await hj => exact .setPhase hj _ nofun
  | @report _ _ result hj =>
      have hkeeps := Keeps.setPhase hj (.reported result) fun _ hr => hr
      exact hkeeps.trans (.of_jobs_eq rfl)
  | _ => exact .of_jobs_eq rfl

theorem Reaches.keeps (h : Reaches plan w v) : Keeps w v := by
  induction h with
  | refl => exact .refl w
  | step e _ hs ih => exact ih.trans (Takes.of_step hs).keeps

end Workshop

end AppCatalog
