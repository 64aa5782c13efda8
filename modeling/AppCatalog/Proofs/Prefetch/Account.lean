import AppCatalog.Proofs.Pool.Accounting
import AppCatalog.Proofs.Prefetch.Watch

/-!
# What becomes of a batch

A batch is skipped as a whole, or every member whose metadata is wanted meets one fate: its metadata
is fetched, or the fetch is refused. While tasks are under way, some members are still due; a task
that submits a fetch only hands a member on, so that at every moment the due members and those that
have met their fate make up the batch (`Balanced`). In the end nothing is due, and the record of the
batch is what the fates of its members leave, in some order (`prefetch_accounts`).
-/

namespace AppCatalog.Prefetch

variable {σ : Type}

/-! ## Due members -/

/-- The registrations that a task has to see to. -/
def Task.members : Task → List Registration
  | dispatch left => left
  | refused r _ left => r :: left
  | fetch r => [r]

/-- What is due to the batch with the number `k` from a task that carries a number. -/
def due (k : Nat) (x : Nat × Task) : List Registration := if x.1 = k then x.2.members else []

def dueIn (k : Nat) : Phase (Nat × Task) (Option Outcome) → List Registration
  | .queued x => due k x
  | .running _ x => due k x
  | _ => []

/-- The members of a batch that are still due. -/
def outstanding (k : Nat) (t : WatchedShop σ) : List Registration :=
  t.jobs.flatMap fun j => dueIn k j.phase

/-- What has been seen of a batch. -/
def seen (k : Nat) (record : Record) : List Happening :=
  record.filterMap fun h => if h.1 = k then some h.2 else none

theorem seen_append (k : Nat) (record record' : Record) :
    seen k (record ++ record') = seen k record ++ seen k record' := List.filterMap_append

theorem seen_map_mk (k j : Nat) (hs : List Happening) :
    seen k (hs.map (Prod.mk j)) = if j = k then hs else [] := by
  rw [seen, List.filterMap_map]
  by_cases h : j = k
  · rw [if_pos h]
    simp only [Function.comp_def, h, if_true, List.filterMap_some]
  · rw [if_neg h, List.filterMap_eq_nil_iff]
    intro x _
    exact if_neg h

/-- What the fates of registrations leave. -/
def traces (fates : List (Registration × Fate)) : List Happening :=
  fates.flatMap fun f => f.2.happenings f.1

theorem traces_append (fates fates' : List (Registration × Fate)) :
    traces (fates ++ fates') = traces fates ++ traces fates' := List.flatMap_append

/-- How a batch stands, of which some members are still due and some happenings have been seen. -/
inductive Balanced (batch due : List Registration) (seen : List Happening) : Prop
  | skipped (cause : Breakdown) (hb : batch ≠ []) (hd : due = [])
    (hs : seen = [Prefetch.skipped batch cause])
  | settled (fates : List (Registration × Fate)) (hd : (due ++ fates.map Prod.fst).Perm batch)
    (hs : seen.Perm (traces fates))

namespace Balanced

variable {batch out out' : List Registration} {hs : List Happening}

theorem nil : Balanced [] [] [] := .settled [] (.refl _) (.refl _)

theorem eq_nil (h : Balanced [] out hs) : out = [] ∧ hs = [] := by
  cases h with
  | skipped _ hb => exact absurd rfl hb
  | settled fates hd hs =>
      obtain ⟨hout, hfates⟩ := List.append_eq_nil_iff.1 hd.eq_nil
      rw [List.map_eq_nil_iff] at hfates
      subst hfates
      exact ⟨hout, hs.eq_nil⟩

/-- Members that were due meet their fates. -/
theorem settle (h : Balanced batch out hs) {new : List (Registration × Fate)}
    (hd : out.Perm (out' ++ new.map Prod.fst)) : Balanced batch out' (hs ++ traces new) := by
  cases h with
  | skipped cause hb hout hseen =>
      subst hout
      obtain ⟨hout', hnew⟩ := List.append_eq_nil_iff.1 hd.symm.eq_nil
      rw [List.map_eq_nil_iff] at hnew
      subst hnew
      exact .skipped cause hb hout' ((List.append_nil _).trans hseen)
  | settled fates hfates hseen =>
      refine .settled (new ++ fates) ?_ ?_
      · rw [List.map_append, ← List.append_assoc]
        exact (hd.symm.append_right _).trans hfates
      · rw [traces_append]
        exact (hseen.append_right _).trans List.perm_append_comm

end Balanced

/-! ## What a task does -/

section Task

variable {source : Source σ} {k j : Nat} {x y : Nat × Task} {p p' : σ × Record}
  {result : Option Outcome}

theorem due_mk (k j : Nat) (task : Task) :
    due k (j, task) = if j = k then task.members else [] := rfl

theorem seen_traces (record : Record) (r : Registration) (fate : Fate) :
    seen k (record ++ (fate.happenings r).map (Prod.mk j)) =
      seen k record ++ traces (if j = k then [(r, fate)] else []) := by
  rw [seen_append, seen_map_mk]
  by_cases hk : j = k
  · rw [if_pos hk, if_pos hk, traces, List.flatMap_singleton]
  · rw [if_neg hk, if_neg hk]
    rfl

/-- A task that ends has settled what was due from it. -/
theorem settles_of_finish (h : watchedPlan source x p = .finish result p') (k : Nat) :
    ∃ new : List (Registration × Fate), (due k x).Perm (new.map Prod.fst) ∧
      seen k p'.2 = seen k p.2 ++ traces new := by
  obtain ⟨j, (_ | ⟨r, left⟩) | ⟨r, cause, left⟩ | r⟩ := x
  · cases h
    refine ⟨[], ?_, (List.append_nil _).symm⟩
    rw [due_mk, Task.members, ite_self]
    exact .refl _
  · cases h
  · cases h
  · simp only [watchedPlan, plan, fetchAndNote_watched] at h
    cases h
    refine ⟨if j = k then [(r, .fetched _)] else [], ?_, seen_traces ..⟩
    rw [due_mk, apply_ite (List.map Prod.fst)]
    exact .refl _

/-- A task that goes on has settled what is no longer due from it. -/
theorem settles_of_note (h : watchedPlan source x p = .note y p') (k : Nat) :
    ∃ new : List (Registration × Fate), (due k x).Perm (due k y ++ new.map Prod.fst) ∧
      seen k p'.2 = seen k p.2 ++ traces new := by
  obtain ⟨j, (_ | ⟨r, left⟩) | ⟨r, cause, left⟩ | r⟩ := x
  · cases h
  · cases h
  · cases h
    refine ⟨if j = k then [(r, .refused cause)] else [], ?_, seen_traces p.2 r (.refused cause)⟩
    rw [due_mk, due_mk]
    by_cases hk : j = k
    · rw [if_pos hk, if_pos hk, if_pos hk]
      exact (List.perm_append_singleton r left).symm
    · rw [if_neg hk, if_neg hk, if_neg hk]
      exact .refl _
  · simp only [watchedPlan, plan] at h
    cases h

theorem eq_of_submit {next : Except Breakdown Nat → Nat × Task}
    (h : watchedPlan source x p = .submit y next) :
    ∃ j r left, x = (j, .dispatch (r :: left)) ∧ y = (j, .fetch r) ∧ ∀ outcome, next outcome =
      match outcome with
      | .ok _ => (j, .dispatch left)
      | .error cause => (j, .refused r cause left) := by
  obtain ⟨j, (_ | ⟨r, left⟩) | ⟨r, cause, left⟩ | r⟩ := x
  · cases h
  · cases h
    refine ⟨j, r, left, rfl, rfl, ?_⟩
    intro outcome
    cases outcome <;> rfl
  · cases h
  · simp only [watchedPlan, plan] at h
    cases h

theorem not_await {job : Nat} {next : Option Outcome → Nat × Task} :
    watchedPlan source x p ≠ .await job next := by
  intro h
  obtain ⟨j, (_ | ⟨r, left⟩) | ⟨r, cause, left⟩ | r⟩ := x
  · cases h
  · cases h
  · cases h
  · simp only [watchedPlan, plan] at h
    cases h

end Task

/-! ## Steps -/

/-- Between two states some members of a batch meet their fates, and no others are dealt with. -/
structure Settles (k : Nat) (t t' : WatchedShop σ) (new : List (Registration × Fate)) : Prop where
  outstanding : (outstanding k t).Perm (Prefetch.outstanding k t' ++ new.map Prod.fst)
  seen : seen k t'.shared.2 = Prefetch.seen k t.shared.2 ++ traces new

section Settles

open scoped List

variable {source : Source σ} {k : Nat} {t t' : WatchedShop σ}

theorem settles_of_eq (hj : t'.jobs = t.jobs) (hs : t'.shared = t.shared) : Settles k t t' [] := by
  refine ⟨?_, ?_⟩
  · rw [outstanding, outstanding, hj, List.map_nil, List.append_nil]
  · rw [hs]
    exact (List.append_nil _).symm

theorem outstanding_queue (k : Nat) (t : WatchedShop σ) (pool : Pool) (crew : Nat)
    (x : Nat × Task) :
    outstanding k { t with pool, jobs := t.jobs ++ [⟨crew, .queued x⟩] } =
      outstanding k t ++ due k x := by
  rw [outstanding, outstanding, List.flatMap_append, List.flatMap_singleton]
  rfl

theorem outstanding_setPhase {job : Nat} {j : Job (Nat × Task) (Option Outcome)}
    (h : t.jobs[job]? = some j) (phase : Phase (Nat × Task) (Option Outcome)) :
    ∃ rest, (outstanding k t).Perm (dueIn k j.phase ++ rest) ∧
      (outstanding k (t.setPhase job phase)).Perm (dueIn k phase ++ rest) := by
  obtain ⟨front, back, ht, ht'⟩ := Workshop.jobs_setPhase h phase
  refine ⟨front.flatMap (fun j => dueIn k j.phase) ++ back.flatMap fun j => dueIn k j.phase, ?_, ?_⟩
  · rw [outstanding, ht, List.flatMap_append, List.flatMap_cons]
    exact List.perm_append_comm_assoc _ _ _
  · rw [outstanding, ht', List.flatMap_append, List.flatMap_cons]
    exact List.perm_append_comm_assoc _ _ _

/-- What a job settles when it comes to another phase. -/
theorem settles_setPhase {job : Nat} {j : Job (Nat × Task) (Option Outcome)}
    (h : t.jobs[job]? = some j) (phase : Phase (Nat × Task) (Option Outcome))
    (shared : σ × Record) {new : List (Registration × Fate)}
    (hd : (dueIn k j.phase).Perm (dueIn k phase ++ new.map Prod.fst))
    (hs : seen k shared.2 = seen k t.shared.2 ++ traces new) :
    Settles k t { t.setPhase job phase with shared } new := by
  obtain ⟨rest, hrest, hrest'⟩ := outstanding_setPhase (k := k) h phase
  refine ⟨?_, hs⟩
  calc
    outstanding k t ~ dueIn k j.phase ++ rest := hrest
    _ ~ dueIn k phase ++ new.map Prod.fst ++ rest := hd.append_right rest
    _ ~ dueIn k phase ++ rest ++ new.map Prod.fst := by
      rw [List.append_assoc, List.append_assoc]
      exact List.perm_append_comm.append_left _
    _ ~ outstanding k (t.setPhase job phase) ++ new.map Prod.fst := hrest'.symm.append_right _

/-- A task hands a member on to the pool: it is due from the new task if the pool takes it, and from
the old one otherwise. -/
theorem settles_nested {job worker crew j : Nat} {r : Registration} {left : List Registration}
    (h : t.jobs[job]? = some ⟨crew, .running worker (j, .dispatch (r :: left))⟩) (thread : String) :
    Settles k t ((t.submit thread (j, .fetch r)).2.setPhase job
      (.running worker (match (t.submit thread (j, .fetch r)).1 with
        | .ok _ => (j, .dispatch left)
        | .error cause => (j, .refused r cause left)))) [] := by
  rcases t.submit_cases thread (j, .fetch r) with ⟨b, -, hs⟩ | ⟨crew', -, hs⟩
  · rw [hs]
    refine settles_setPhase h _ t.shared ?_ (List.append_nil _).symm
    rw [List.map_nil, List.append_nil]
    exact List.Perm.refl _
  · -- The member is counted twice once it is queued, until the old task lets go of it.
    have hj := Workshop.getElem?_submit h thread (j, .fetch r)
    rw [hs] at hj ⊢
    obtain ⟨rest, hrest, hrest'⟩ :=
      outstanding_setPhase (k := k) hj (.running worker (j, .dispatch left))
    have hqueue :
        outstanding k t ++ due k (j, .fetch r) ~ due k (j, .dispatch (r :: left)) ++ rest := by
      rw [outstanding_queue] at hrest
      exact hrest
    have hsplit : due k (j, .dispatch (r :: left)) =
        due k (j, .fetch r) ++ due k (j, .dispatch left) := by
      by_cases hk : j = k
      · rw [due, due, due, if_pos hk, if_pos hk, if_pos hk]
        rfl
      · rw [due, due, due, if_neg hk, if_neg hk, if_neg hk]
        rfl
    rw [hsplit, List.append_assoc] at hqueue
    refine ⟨?_, (List.append_nil _).symm⟩
    rw [List.map_nil, List.append_nil]
    exact ((List.perm_append_left_iff _).1 (List.perm_append_comm.trans hqueue)).trans hrest'.symm

/-- A step settles for each batch some of its members, if any. -/
theorem settles_of_takes {e : Event Empty} (h : Workshop.Takes (watchedPlan source) t
    (e.map Empty.elim) t') (k : Nat) : ∃ new, Settles k t t' new := by
  generalize he : (e.map Empty.elim : Event (Nat × Task)) = e' at h
  cases h with
  | submit thread task =>
      cases e with
      | submit _ task => cases task
      | _ => cases he
  | begin hj =>
      refine ⟨[], settles_setPhase hj _ t.shared ?_ (List.append_nil _).symm⟩
      rw [List.map_nil, List.append_nil]
      exact .refl _
  | finish hj hp =>
      obtain ⟨new, hd, hs⟩ := settles_of_finish hp k
      exact ⟨new, settles_setPhase hj _ _ hd hs⟩
  | note hj hp =>
      obtain ⟨new, hd, hs⟩ := settles_of_note hp k
      exact ⟨new, settles_setPhase hj _ _ hd hs⟩
  | nested hj hp =>
      obtain ⟨j, r, left, rfl, rfl, hnext⟩ := eq_of_submit hp
      rw [hnext]
      exact ⟨[], settles_nested hj _⟩
  | await hj hp => exact absurd hp not_await
  | @report job _ result hj =>
      have hs : Settles k t (t.setPhase job (.reported result)) [] :=
        settles_setPhase hj _ t.shared (.refl _) (List.append_nil _).symm
      exact ⟨[], hs.outstanding, hs.seen⟩
  | _ => exact ⟨[], settles_of_eq rfl rfl⟩

end Settles

/-! ## Runs -/

/-- The members of the batch that was handed over with a deed. -/
def batchAt (ds : List Deed) (k : Nat) : List Registration :=
  match ds[k]? with
  | some (.prefetch _ rs) => wanted rs
  | _ => []

/-- Every batch that has been handed over stands in balance. -/
def InBalance (past : List Deed) (t : WatchedShop σ) : Prop :=
  ∀ k, Balanced (batchAt past k) (outstanding k t) (seen k t.shared.2)

section Runs

variable {source : Source σ} {past : List Deed} {t t' : WatchedShop σ}

theorem batchAt_concat (past : List Deed) (d : Deed) (k : Nat) :
    batchAt (past ++ [d]) k = if k = past.length then batchAt [d] 0 else batchAt past k := by
  by_cases hk : k = past.length
  · subst hk
    rw [if_pos rfl, batchAt, List.getElem?_append_right (Nat.le_refl _), Nat.sub_self, batchAt]
  · rw [if_neg hk, batchAt, batchAt]
    rcases Nat.lt_or_gt_of_ne hk with hlt | hgt
    · rw [List.getElem?_append_left hlt]
    · rw [List.getElem?_eq_none (by rw [List.length_append, List.length_singleton]; omega),
        List.getElem?_eq_none (by omega)]

theorem batchAt_length (past : List Deed) : batchAt past past.length = [] := by
  rw [batchAt, List.getElem?_eq_none (Nat.le_refl _)]

/-- A batch that is handed over is empty, or refused, or queued as one task. -/
theorem watchedSubmit_cases (source : Source σ) (k : Nat) (thread : String) (rs : List Registration)
    (t : WatchedShop σ) :
    wanted rs = [] ∧ watchedSubmit source k thread rs t = t ∨
    wanted rs ≠ [] ∧
      ((∃ cause s, watchedSubmit source k thread rs t =
          { t with shared := (s, t.shared.2 ++ [skipped (wanted rs) cause].map (Prod.mk k)) }) ∨
        ∃ crew pool, watchedSubmit source k thread rs t = { t with
          pool
          jobs := t.jobs ++ [⟨crew, .queued (k, .dispatch (wanted rs))⟩] }) := by
  rw [watchedSubmit]
  cases hw : (wanted rs).isEmpty with
  | true => exact Or.inl ⟨List.isEmpty_iff.1 hw, rfl⟩
  | false =>
      refine Or.inr ⟨List.isEmpty_eq_false_iff.1 hw, ?_⟩
      rw [if_neg Bool.false_ne_true]
      rcases t.submit_cases thread (k, .dispatch (wanted rs)) with ⟨b, -, hs⟩ | ⟨crew, -, hs⟩
      · rw [hs]
        exact Or.inl ⟨b, _, rfl⟩
      · rw [hs]
        exact Or.inr ⟨crew, _, rfl⟩

theorem InBalance.submit (h : InBalance past t) (thread : String) (rs : List Registration) :
    InBalance (past ++ [.prefetch thread rs]) (watchedSubmit source past.length thread rs t) := by
  intro k
  rw [batchAt_concat]
  by_cases hk : k = past.length
  · -- Nothing is known of the batch before it is handed over.
    obtain ⟨hout, hseen⟩ : outstanding k t = [] ∧ seen k t.shared.2 = [] := by
      have hold := h k
      rw [hk, batchAt_length] at hold
      rw [hk]
      exact hold.eq_nil
    rw [if_pos hk, batchAt]
    rcases watchedSubmit_cases source past.length thread rs t with
      ⟨hw, ht⟩ | ⟨hw, ⟨cause, s, ht⟩ | ⟨crew, pool, ht⟩⟩
    · rw [ht, hout, hseen]
      simp only [List.getElem?_cons_zero, hw]
      exact .nil
    · rw [ht]
      refine .skipped cause hw hout ?_
      rw [seen_append, hseen, seen_map_mk, if_pos hk.symm]
      rfl
    · rw [ht]
      refine .settled [] ?_ (List.Perm.of_eq hseen)
      rw [outstanding_queue, hout, due_mk, if_pos hk.symm, List.map_nil, List.append_nil]
      exact .refl _
  · rw [if_neg hk]
    rcases watchedSubmit_cases source past.length thread rs t with
      ⟨-, ht⟩ | ⟨-, ⟨cause, s, ht⟩ | ⟨crew, pool, ht⟩⟩
    · rw [ht]
      exact h k
    · have hseen : seen k (t.shared.2 ++ [skipped (wanted rs) cause].map (Prod.mk past.length)) =
          seen k t.shared.2 := by
        rw [seen_append, seen_map_mk, if_neg (Ne.symm hk), List.append_nil]
      rw [ht, hseen]
      exact h k
    · rw [ht, outstanding_queue, due_mk, if_neg (Ne.symm hk), List.append_nil]
      exact h k

theorem InBalance.step (h : InBalance past t) {e : Event Empty}
    (ht : t.step (watchedPlan source) (e.map Empty.elim) = some t') :
    InBalance (past ++ [.other e]) t' := by
  intro k
  have hbatch : batchAt (past ++ [.other e]) k = batchAt past k := by
    rw [batchAt_concat]
    split
    · next hk => rw [hk, batchAt_length]; rfl
    · rfl
  obtain ⟨new, hs⟩ := settles_of_takes (Workshop.Takes.of_step ht) k
  rw [hbatch, hs.seen]
  exact (h k).settle hs.outstanding

theorem InBalance.run (h : InBalance past t) {ds : List Deed}
    (ht : watchedRun source past.length ds t = some t') : InBalance (past ++ ds) t' := by
  induction ds generalizing past t with
  | nil =>
      cases ht
      rwa [List.append_nil]
  | cons d ds ih =>
      obtain ⟨t₁, h₁, ht⟩ := Option.bind_eq_some_iff.1 ht
      have hd : InBalance (past ++ [d]) t₁ := by
        cases d with
        | prefetch thread rs =>
            cases h₁
            exact h.submit thread rs
        | other e => exact h.step h₁
      rw [← List.length_singleton (a := d), ← List.length_append] at ht
      rw [List.append_cons]
      exact ih hd ht

end Runs

/-- When no task is queued or running, nothing is due. -/
theorem outstanding_eq_nil {t : WatchedShop σ}
    (h : ∀ j ∈ (unwatched t).jobs, j.phase.result?.isSome = true) (k : Nat) :
    outstanding k t = [] := by
  rw [outstanding, List.flatMap_eq_nil_iff]
  intro j hj
  have hresult : j.phase.result?.isSome = true := by
    have hmap := h (j.map Prod.snd) (List.mem_map_of_mem hj)
    rwa [Job.map, Phase.result?_map] at hmap
  rcases hp : j.phase with x | ⟨worker, x⟩ | result | result
  · rw [hp] at hresult
    cases hresult
  · rw [hp] at hresult
    cases hresult
  · rfl
  · rfl

theorem metadataUri_of_mem_batchAt {ds : List Deed} {k : Nat} {r : Registration}
    (h : r ∈ batchAt ds k) : r.metadataUri = some (shownUri r) := by
  rw [batchAt] at h
  split at h
  · obtain ⟨-, hr⟩ := List.mem_filter.1 h
    obtain ⟨uri, huri⟩ := Option.isSome_iff_exists.1 hr
    rw [shownUri, huri]
    rfl
  · cases h

/-- No batch is lost and nothing is done twice. Whatever is done with a shared pool, it refuses tasks
only because it is not running or is shutting down, which those who hand over batches make a warning
of. Once no task is queued or running, the record of each batch is one warning that the batch of so
many members was skipped, or it is what the fates of its members leave: each of them, and nothing
else, has been fetched once, with a warning that names its URI if that failed, or has been refused
with one warning. A batch without wanted members leaves nothing. -/
theorem prefetch_accounts {source : Source σ} {name : String} {workers : Int} {shared : σ}
    {ds : List Deed} {w : Shop σ}
    (h : run source ds (.ofPool (Pool.ofName name workers) shared) = some w) :
    (∀ thread task cause, (w.submit thread task).1 = .error cause →
      cause = .poolNotRunning w.pool.name ∨ cause = .poolShuttingDown w.pool.name) ∧
    ∃ t, watchedRun source 0 ds (.ofPool (Pool.ofName name workers) (shared, [])) = some t ∧
      unwatched t = w ∧
      ((∀ j ∈ w.jobs, j.phase.result?.isSome = true) → ∀ k,
        (∀ r ∈ batchAt ds k, r.metadataUri = some (shownUri r)) ∧
        (batchAt ds k ≠ [] ∧
            (∃ cause, seen k t.shared.2 = [skipped (batchAt ds k) cause]) ∨
          ∃ fates, (fates.map Prod.fst).Perm (batchAt ds k) ∧
            (seen k t.shared.2).Perm (traces fates))) := by
  refine ⟨?_, ?_⟩
  · intro thread task cause hc
    rcases w.submit_cases thread task with ⟨b, ha, hs⟩ | ⟨crew, -, hs⟩
    · rw [hs] at hc
      cases hc
      rcases Pool.accept_eq_error_iff.1 ha with ⟨-, hb⟩ | ⟨-, -, hb⟩
      · exact Or.inl hb
      · exact Or.inr hb
    · rw [hs] at hc
      cases hc
  · have hrun := run_eq_map_watchedRun source 0 ds
      (.ofPool (Pool.ofName name workers) (shared, []))
    obtain ⟨t, ht, rfl⟩ := Option.map_eq_some_iff.1 (hrun.symm.trans h)
    refine ⟨t, ht, rfl, ?_⟩
    intro hdone k
    refine ⟨fun r hr => metadataUri_of_mem_batchAt hr, ?_⟩
    have hstart : InBalance [] (.ofPool (Pool.ofName name workers) (shared, []) : WatchedShop σ) :=
      fun _ => .nil
    have hk := hstart.run ht k
    rw [outstanding_eq_nil hdone] at hk
    cases hk with
    | skipped cause hb _ hs => exact Or.inl ⟨hb, cause, hs⟩
    | settled fates hd hs => exact Or.inr ⟨fates, hd, hs⟩

/-- A pool is shut down without waiting while a batch is being dispatched: one member is fetched,
which fails, and the other is refused. -/
theorem prefetch_accounts_cut_short :
    let source : Source Unit := ⟨fun _ => throw (.breakdown .badValue), fun _ _ s => s⟩
    let plain : Registration := ⟨.app, "plain", "http://p", none⟩
    let one : Registration := ⟨.app, "one", "http://1", some "http://m1"⟩
    let two : Registration := ⟨.app, "two", "http://2", some "http://m2"⟩
    let ds : List Deed := [.other .start, .prefetch "main" [plain, one, two], .other (.begin 0 0),
      .other (.advance 0), .other (.close false), .other (.proceed 0), .other (.advance 0),
      .other (.advance 0), .other (.advance 0), .other (.report 0), .other (.begin 1 0),
      .other (.advance 1), .other (.report 1)]
    ∃ w t, run source ds (.ofPool (Pool.ofName "prefetch" 1) ()) = some w ∧
      (∀ j ∈ w.jobs, j.phase.result?.isSome = true) ∧
      watchedRun source 0 ds (.ofPool (Pool.ofName "prefetch" 1) ((), [])) = some t ∧
      ∃ fates, (fates.map Prod.fst).Perm [one, two] ∧ (seen 1 t.shared.2).Perm (traces fates) := by
  intro source plain one two ds
  obtain ⟨w, h, hdone⟩ : ∃ w, run source ds (.ofPool (Pool.ofName "prefetch" 1) ()) = some w ∧
      ∀ j ∈ w.jobs, j.phase.result?.isSome = true := ⟨_, rfl, by decide⟩
  obtain ⟨-, t, ht, -, hfates⟩ := prefetch_accounts h
  refine ⟨w, t, h, hdone, ht, ?_⟩
  rcases (hfates hdone 1).2 with ⟨-, cause, hs⟩ | hfates
  · have hseen : (watchedRun source 0 ds (.ofPool (Pool.ofName "prefetch" 1) ((), []))).map
        (fun t => (seen 1 t.shared.2).length) = some 4 := rfl
    rw [ht, Option.map_some, hs] at hseen
    cases hseen
  · exact hfates

end AppCatalog.Prefetch
