import AppCatalog.Pool.Workshop

/-!
# Images of workshops

Tasks and the state that they share may carry more than their plan reads: a mark that tells where a
task comes from, or a record of what has been done. Forgetting it gives the image of a workshop, and
if the plans agree up to what is forgotten then a workshop takes a step exactly if its image does
(`step_map`). So a record can be kept of any run without disturbing it.
-/

namespace AppCatalog

variable {σ σ' τ τ' ρ : Type}

def Phase.map (f : τ → τ') : Phase τ ρ → Phase τ' ρ
  | queued task => queued (f task)
  | running worker task => running worker (f task)
  | finished result => finished result
  | reported result => reported result

def Job.map (f : τ → τ') (j : Job τ ρ) : Job τ' ρ := ⟨j.crew, j.phase.map f⟩

def Move.map (g : σ → σ') (f : τ → τ') : Move σ τ ρ → Move σ' τ' ρ
  | finish result shared => finish result (g shared)
  | note next shared => note (f next) (g shared)
  | submit task next => submit (f task) fun outcome => f (next outcome)
  | await job next => await job fun result => f (next result)
  | blocked => blocked

def Event.map (f : τ → τ') : Event τ → Event τ'
  | start => start
  | submit thread task => submit thread (f task)
  | begin job worker => begin job worker
  | advance job => advance job
  | report job => report job
  | close waits => close waits
  | proceed closer => proceed closer

theorem Phase.result?_map (f : τ → τ') (phase : Phase τ ρ) :
    (phase.map f).result? = phase.result? := by
  cases phase <;> rfl

theorem Phase.worker?_map (f : τ → τ') (phase : Phase τ ρ) :
    (phase.map f).worker? = phase.worker? := by
  cases phase <;> rfl

namespace Workshop

/-- A workshop with its shared state and its tasks replaced by their images. -/
def map (g : σ → σ') (f : τ → τ') (w : Workshop σ τ ρ) : Workshop σ' τ' ρ :=
  ⟨w.pool, g w.shared, w.jobs.map (Job.map f), w.closers⟩

section Map

variable (g : σ → σ') (f : τ → τ') (w : Workshop σ τ ρ)

theorem getElem?_jobs_map (job : Nat) : (w.map g f).jobs[job]? = (w.jobs[job]?).map (Job.map f) :=
  List.getElem?_map

theorem result?_map (job : Nat) : (w.map g f).result? job = w.result? job := by
  rw [result?, getElem?_jobs_map, result?]
  cases w.jobs[job]? with
  | none => rfl
  | some j => exact Phase.result?_map f j.phase

theorem busyWorkers_map (crew : Nat) : (w.map g f).busyWorkers crew = w.busyWorkers crew := by
  rw [busyWorkers, map, List.filter_map, List.filterMap_map, busyWorkers]
  congr
  funext j
  exact Phase.worker?_map f j.phase

theorem isCrewDone_map (crew : Nat) : (w.map g f).isCrewDone crew = w.isCrewDone crew := by
  rw [isCrewDone, map, List.all_map, isCrewDone]
  congr
  funext j
  simp only [Function.comp_apply, Job.map, Phase.result?_map]

theorem setPhase_map (job : Nat) (phase : Phase τ ρ) :
    (w.map g f).setPhase job (phase.map f) = (w.setPhase job phase).map g f := by
  have hjobs : (w.jobs.map (Job.map f)).modify job (fun j => { j with phase := phase.map f }) =
      (w.jobs.modify job fun j => { j with phase }).map (Job.map f) := by
    apply List.ext_getElem?
    intro i
    simp only [List.getElem?_modify, List.getElem?_map]
    cases w.jobs[i]? with
    | none => rfl
    | some j => by_cases h : job = i <;> simp only [h, if_true, if_false] <;> rfl
  rw [setPhase, map, hjobs]
  rfl

theorem submit_map (thread : String) (task : τ) :
    (w.map g f).submit thread (f task) =
      ((w.submit thread task).1, (w.submit thread task).2.map g f) := by
  have hpool : (w.map g f).pool = w.pool := rfl
  rw [submit, hpool, submit]
  rcases w.pool.accept thread with b | ⟨crew, pool⟩
  · rfl
  · simp only [map, List.length_map, List.map_append]
    rfl

variable {plan : Plan σ τ ρ} {plan' : Plan σ' τ' ρ}

theorem move_map (h : ∀ task shared, plan' (f task) (g shared) = (plan task shared).map g f)
    (job crew worker : Nat) (task : τ) :
    (w.map g f).move plan' job crew worker (f task) =
      (w.move plan job crew worker task).map (map g f) := by
  have hshared : (w.map g f).shared = g w.shared := rfl
  rw [move, hshared, h, move]
  rcases plan task w.shared with
    ⟨result, shared⟩ | ⟨next, shared⟩ | ⟨inner, next⟩ | ⟨other, next⟩ | _
  · exact congrArg some (setPhase_map g f { w with shared } job (.finished result))
  · exact congrArg some (setPhase_map g f { w with shared } job (.running worker next))
  · have hpool : (w.map g f).pool = w.pool := rfl
    simp only [Move.map, submit_map, hpool, Option.map_some]
    exact congrArg some (setPhase_map g f _ job (.running worker (next _)))
  · simp only [Move.map, result?_map, Option.map_map]
    congr
    funext result
    exact setPhase_map g f w job (.running worker (next result))
  · rfl

/-- A workshop takes a step exactly if its image does, and then to the image of where it gets. -/
theorem step_map (h : ∀ task shared, plan' (f task) (g shared) = (plan task shared).map g f)
    (e : Event τ) : (w.map g f).step plan' (e.map f) = (w.step plan e).map (map g f) := by
  cases e with
  | start =>
      have hpool : (w.map g f).pool = w.pool := rfl
      rw [Event.map, step, hpool, step]
      rcases w.pool.start with b | pool <;> rfl
  | submit thread task =>
      rw [Event.map, step, submit_map, step]
      rfl
  | begin job worker =>
      have hpool : (w.map g f).pool = w.pool := rfl
      rw [Event.map, step, getElem?_jobs_map, step]
      rcases w.jobs[job]? with _ | ⟨crew, task | _ | _ | _⟩
      · rfl
      · simp only [Option.map_some, Job.map, Phase.map, busyWorkers_map, hpool]
        split
        · exact congrArg some (setPhase_map g f w job (.running worker task))
        · rfl
      all_goals rfl
  | advance job =>
      rw [Event.map, step, getElem?_jobs_map, step]
      rcases w.jobs[job]? with _ | ⟨crew, _ | ⟨worker, task⟩ | _ | _⟩
      · rfl
      · rfl
      · exact move_map g f w h job crew worker task
      all_goals rfl
  | report job =>
      rw [Event.map, step, getElem?_jobs_map, step]
      rcases w.jobs[job]? with _ | ⟨crew, _ | _ | result | _⟩
      · rfl
      · rfl
      · rfl
      · exact congrArg some (setPhase_map g f { w with pool := w.pool.taskDone } job (.reported result))
      · rfl
  | close waits =>
      have hpool : (w.map g f).pool = w.pool := rfl
      rw [Event.map, step, hpool, step]
      rcases w.pool.close with _ | pool <;> rfl
  | proceed closer =>
      have hclosers : (w.map g f).closers = w.closers := rfl
      have hpool : (w.map g f).pool = w.pool := rfl
      rw [Event.map, step, proceed, step, proceed, hclosers, hpool]
      rcases w.closers[closer]? with _ | _ | waits | crew | _
      · rfl
      · simp only
        cases w.pool.isIdle <;> rfl
      · simp only [Pool.dropCrew]
        rcases w.pool.crew with _ | crew <;> rfl
      · simp only [isCrewDone_map]
        cases w.isCrewDone crew <;> rfl
      · rfl

end Map

end Workshop

end AppCatalog
