import AppCatalog.Proofs.Store.Reached

/-!
# Importing at once and saving one by one

An import puts registrations into memory one after another and writes the index once; a client that
saves them one by one writes it after each. Both put the same registrations (`runCalls_saves_store`),
and where everything is written both leave the same file: the one that was there if nothing was put,
and the index of all entries otherwise (`KeptOrWritten`). What is put is known in advance
(`putAll_fst`), and putting it again changes nothing (`putAll_again`).
-/

namespace AppCatalog

open AppCatalog.Registration

theorem Assoc.insert_eq_self {κ α : Type} [DecidableEq κ] {k : κ} {a : α} {m : Assoc κ α}
    (h : get? k m = some a) : insert k a m = m := by
  induction m with
  | nil => cases h
  | cons p m ih =>
      obtain ⟨j, b⟩ := p
      rw [get?] at h
      rw [insert]
      split at h
      · next hj =>
          cases h
          rw [if_pos hj]
      · next hj => rw [if_neg hj, ih h]

namespace Entries

variable {es : Entries} {force : Bool} {r : Registration} {rs : List Registration}

theorem putAll_cons (force : Bool) (r : Registration) (rs : List Registration) (es : Entries) :
    putAll force (r :: rs) es =
      if !force && Assoc.contains r.key es then putAll force rs es
      else (r :: (putAll force rs (es.put r)).1, (putAll force rs (es.put r)).2) := rfl

theorem get?_put (r : Registration) (es : Entries) (k : AppType × String) :
    Assoc.get? k (es.put r) = if r.key = k then some r.place else Assoc.get? k es :=
  Assoc.get?_insert r.key k r.place es

/-- Registrations under distinct keys are put unless they are taken in advance. -/
theorem putAll_fst (h : (rs.map key).Nodup) :
    (putAll force rs es).1 = rs.filter fun r => force || !Assoc.contains r.key es := by
  induction rs generalizing es with
  | nil => rfl
  | cons r rs ih =>
      rw [List.map_cons, List.nodup_cons] at h
      have hrest : (rs.filter fun r' => force || !Assoc.contains r'.key (es.put r)) =
          rs.filter fun r' => force || !Assoc.contains r'.key es := by
        apply List.filter_congr
        intro r' hr'
        have hne : r.key ≠ r'.key := fun he => h.1 (he ▸ List.mem_map_of_mem hr')
        rw [Assoc.contains, get?_put, if_neg hne, Assoc.contains]
      have hfirst : (force || !Assoc.contains r.key es) = !(!force && Assoc.contains r.key es) := by
        rw [Bool.not_and, Bool.not_not]
      rw [putAll_cons, List.filter_cons, hfirst]
      cases !force && Assoc.contains r.key es with
      | true => exact ih h.2
      | false =>
          rw [if_neg Bool.false_ne_true, ih h.2, hrest]
          rfl

/-- Under a key that nothing is put under, the entries are as before. -/
theorem get?_putAll_of_notMem {k : AppType × String} (h : k ∉ (putAll force rs es).1.map key) :
    Assoc.get? k (putAll force rs es).2 = Assoc.get? k es := by
  induction rs generalizing es with
  | nil => rfl
  | cons r rs ih =>
      rw [putAll_cons] at h ⊢
      split at h
      · next ht =>
          rw [if_pos ht]
          exact ih h
      · next ht =>
          rw [List.map_cons, List.mem_cons, not_or] at h
          rw [if_neg ht, ih h.2, get?_put, if_neg (Ne.symm h.1)]

/-- A registration that is put is there afterwards. -/
theorem get?_putAll (h : (rs.map key).Nodup) (hr : r ∈ (putAll force rs es).1) :
    Assoc.get? r.key (putAll force rs es).2 = some r.place := by
  induction rs generalizing es with
  | nil => cases hr
  | cons r' rs ih =>
      rw [List.map_cons, List.nodup_cons] at h
      rw [putAll_cons] at hr ⊢
      split at hr
      · next ht =>
          rw [if_pos ht]
          exact ih h.2 hr
      · next ht =>
          rw [if_neg ht]
          rcases List.mem_cons.1 hr with rfl | hr
          · have hlater : r.key ∉ (putAll force rs (es.put r)).1.map key := by
              rw [putAll_fst h.2]
              exact fun hm => h.1 (List.map_subset key (List.filter_subset_self _) hm)
            rw [get?_putAll_of_notMem hlater, get?_put, if_pos rfl]
          · exact ih h.2 hr

theorem putAll_true_of_present (h : ∀ r ∈ rs, Assoc.get? r.key es = some r.place) :
    putAll true rs es = (rs, es) := by
  induction rs with
  | nil => rfl
  | cons r rs ih =>
      obtain ⟨hr, hrs⟩ := List.forall_mem_cons.1 h
      have hput : es.put r = es := Assoc.insert_eq_self hr
      have hcons : putAll true (r :: rs) es =
          (r :: (putAll true rs (es.put r)).1, (putAll true rs (es.put r)).2) := rfl
      rw [hcons, hput, ih hrs]

theorem putAll_false_of_contains (h : ∀ r ∈ rs, Assoc.contains r.key es = true) :
    putAll false rs es = ([], es) := by
  induction rs with
  | nil => rfl
  | cons r rs ih =>
      obtain ⟨hr, hrs⟩ := List.forall_mem_cons.1 h
      rw [putAll_cons, hr]
      exact ih hrs

/-- Putting the same registrations again changes nothing; those that may replace what is there are
put again, and no others. -/
theorem putAll_again (h : (rs.map key).Nodup) (force : Bool) (es : Entries) :
    putAll force rs (putAll force rs es).2 =
      (if force then (putAll force rs es).1 else [], (putAll force rs es).2) := by
  cases force with
  | true =>
      have hall : (putAll true rs es).1 = rs := by
        rw [putAll_fst h]
        exact List.filter_true rs
      rw [if_pos rfl, hall]
      apply putAll_true_of_present
      intro r hr
      exact get?_putAll h (hall.symm ▸ hr)
  | false =>
      rw [if_neg Bool.false_ne_true]
      apply putAll_false_of_contains
      intro r hr
      -- A key that nothing was put under was taken already.
      by_cases hk : r.key ∈ (putAll false rs es).1.map key
      · obtain ⟨r', hr', hk⟩ := List.mem_map.1 hk
        rw [Assoc.contains, ← hk, get?_putAll h hr']
        rfl
      · rw [Assoc.contains, get?_putAll_of_notMem hk]
        by_contra hc
        apply hk
        rw [putAll_fst h]
        refine List.mem_map_of_mem (List.mem_filter.2 ⟨hr, ?_⟩)
        rw [Assoc.contains, Bool.not_eq_true] at *
        rw [hc]
        rfl

end Entries

namespace Store

/-- What a disk holds after registrations have been put: the same as before if there were none, and
otherwise a file of all entries. -/
structure KeptOrWritten (file : Path) (put : List Registration) (es : Entries)
    (t t' : FileTree) : Prop where
  kept : put = [] → t' = t
  written : put ≠ [] → t'.read file = .ok (indexBytes (.ofEntries es))

theorem KeptOrWritten.read_eq {file : Path} {put : List Registration} {es : Entries}
    {t t' t'' : FileTree} (h : KeptOrWritten file put es t t')
    (h' : KeptOrWritten file put es t t'') : t'.read file = t''.read file := by
  by_cases hput : put = []
  · rw [h.kept hput, h'.kept hput]
  · rw [h.written hput, h'.written hput]

section Saves

variable {file : Path} {es : Entries} {w : World} {force : Bool} {rs : List Registration}

/-- A save under a key that is taken fails, and any other one writes. -/
theorem perform_save_on (file : Path) (es : Entries) (w : World) (force : Bool) (r : Registration) :
    if !force && Assoc.contains r.key es then
      ∃ previous, (Call.save r force).perform.on (ofEntries file es, w) =
        (.error (.alreadyRegistered previous), (ofEntries file es, w))
    else
      ∃ answer, (Call.save r force).perform.on (ofEntries file es, w) =
        ((written file (es.put r) w).1.map fun _ => answer, (written file (es.put r) w).2) := by
  have hput : (force = true ∨ Assoc.get? r.key es = none) →
      ∃ answer, (Call.save r force).perform.on (ofEntries file es, w) =
        ((written file (es.put r) w).1.map fun _ => answer, (written file (es.put r) w).2) := by
    intro h
    refine ⟨.registration ((Assoc.get? r.key es).map fun p => ofEntry (r.key, p)), ?_⟩
    rw [Call.perform, Run.on_map, save_on file es w h]
    rcases (written file (es.put r) w).1 with f | u <;> rfl
  rw [Assoc.contains]
  cases force with
  | true => exact hput (Or.inl rfl)
  | false =>
      rcases hg : Assoc.get? r.key es with _ | place
      · exact hput (Or.inr hg)
      · refine ⟨ofEntry (r.key, place), ?_⟩
        rw [Call.perform, Run.on_map, save_on_taken file es w hg]
        rfl

/-- Saved one by one, whether or not they are all written, registrations get into memory as they do
in an import. -/
theorem runCalls_saves_store :
    (runCalls (rs.map fun r => .save r force) (ofEntries file es, w)).2.1 =
      ofEntries file (es.putAll force rs).2 := by
  induction rs generalizing es w with
  | nil => rfl
  | cons r rs ih =>
      have hr := perform_save_on file es w force r
      rw [List.map_cons, runCalls, Entries.putAll_cons]
      split at hr
      · next ht =>
          obtain ⟨previous, hr⟩ := hr
          rw [hr, if_pos ht]
          exact ih
      · next ht =>
          obtain ⟨answer, hr⟩ := hr
          have hs : (written file (es.put r) w).2 =
              (ofEntries file (es.put r), (written file (es.put r) w).2.2) :=
            Prod.ext (written_store file _ w) rfl
          rw [hr, if_neg ht, hs]
          exact ih

/-- Where all is written, saves fail only for what is registered already, and leave a file of all
entries. -/
theorem runCalls_saves (hw : WritesThrough (rs.map fun r => .save r force) (ofEntries file es, w)) :
    let result := runCalls (rs.map fun r => .save r force) (ofEntries file es, w)
    (∀ f, .error f ∈ result.1 → ∃ previous, f = .alreadyRegistered previous) ∧
      KeptOrWritten file (es.putAll force rs).1 (es.putAll force rs).2 w.disk result.2.2.disk := by
  induction rs generalizing es w with
  | nil => exact ⟨fun _ h => absurd h List.not_mem_nil, fun _ => rfl, fun h => absurd rfl h⟩
  | cons r rs ih =>
      have hr := perform_save_on file es w force r
      rw [List.map_cons, writesThrough_cons] at hw
      obtain ⟨hfirst, hrest⟩ := hw
      simp only [List.map_cons, runCalls, Entries.putAll_cons, List.mem_cons]
      split at hr
      · next ht =>
          obtain ⟨previous, hr⟩ := hr
          rw [hr] at hrest ⊢
          obtain ⟨herrors, hdisk⟩ := ih hrest
          rw [if_pos ht]
          refine ⟨?_, hdisk⟩
          rintro f (hf | hf)
          · cases hf
            exact ⟨previous, rfl⟩
          · exact herrors f hf
      · next ht =>
          obtain ⟨answer, hr⟩ := hr
          rcases written_cases file (es.put r) w with ⟨t, hwrite, he⟩ | ⟨g, t, -, he⟩
          · rw [he] at hr
            rw [hr] at hrest ⊢
            obtain ⟨herrors, hdisk⟩ := ih hrest
            rw [if_neg ht]
            refine ⟨?_, fun h => absurd h (List.cons_ne_nil _ _), ?_⟩
            · rintro f (hf | hf)
              · cases hf
              · exact herrors f hf
            · -- What was written last holds all entries: this save, or one of those that follow.
              intro _
              by_cases hnone : ((es.put r).putAll force rs).1 = []
              · rw [hdisk.kept hnone, Entries.putAll_eq_self_of_nil hnone]
                exact FileTree.read_of_write hwrite
              · exact hdisk.written hnone
          · rw [hr, he] at hfirst
            cases hfirst _ rfl

/-- An import that is written leaves a file of all entries as well. -/
theorem importRegistrations_written
    (hw : ∀ f, ((importRegistrations force rs).on (ofEntries file es, w)).1 = .error f →
      f.isOsFault = false) :
    ((importRegistrations force rs).on (ofEntries file es, w)).1 = .ok (es.putAll force rs).1 ∧
      KeptOrWritten file (es.putAll force rs).1 (es.putAll force rs).2 w.disk
        ((importRegistrations force rs).on (ofEntries file es, w)).2.2.disk := by
  by_cases hs : (es.putAll force rs).1 = []
  · obtain ⟨lines, hl⟩ := importRegistrations_on_nothing file es w hs
    rw [hl, hs]
    exact ⟨rfl, fun _ => rfl, fun h => absurd rfl h⟩
  · obtain ⟨lines, hl⟩ := importRegistrations_on file es w hs
    rw [hl] at hw ⊢
    rcases written_cases file (es.putAll force rs).2 { w with log := w.log ++ lines } with
      ⟨t, hwrite, he⟩ | ⟨f, t, -, he⟩
    · rw [he]
      exact ⟨rfl, fun h => absurd h hs, fun _ => FileTree.read_of_write hwrite⟩
    · rw [he] at hw
      cases hw _ rfl

/-- What an import does when its resource asks for registrations and all is written. -/
theorem importAll_written {resource : Resource} {w' : World}
    (ha : (asked resource).on w = (.ok rs, w'))
    (hw : WritesThrough [.importAll force resource] (ofEntries file es, w)) :
    let result := (importAll force resource).on (ofEntries file es, w)
    result.1 = .ok (es.putAll force rs).1 ∧ result.2.1 = ofEntries file (es.putAll force rs).2 ∧
      KeptOrWritten file (es.putAll force rs).1 (es.putAll force rs).2 w.disk result.2.2.disk := by
  intro result
  obtain ⟨houtcome, hstore, hdisk⟩ := importAll_outcome (ofEntries file es, w) force ha
  have hkeeps : w'.disk = w.disk := by
    obtain ⟨urls, hu⟩ := asked_keeps w resource
    rw [ha] at hu
    change w' = _ at hu
    rw [hu]
  have hfault : ∀ f, ((importRegistrations force rs).on (ofEntries file es, w')).1 = .error f →
      f.isOsFault = false := by
    intro f hf
    refine hw f (List.mem_singleton.2 ?_)
    rw [Call.perform, Run.on_map, houtcome.trans hf]
    rfl
  obtain ⟨hok, hleft⟩ := importRegistrations_written hfault
  rw [hkeeps] at hleft
  exact ⟨houtcome.trans hok, hstore.trans (importRegistrations_on_store file es w' force rs),
    hdisk ▸ hleft⟩

end Saves

end Store

end AppCatalog
