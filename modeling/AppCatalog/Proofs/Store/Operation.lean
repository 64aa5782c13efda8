import AppCatalog.Proofs.Resource
import AppCatalog.Proofs.Store.Entries
import AppCatalog.Proofs.Store.Plan

/-!
# What the operations of a store do

For each operation that changes a store, what it answers and the state it leaves, when the store
holds a map of entries. An operation either leaves everything as it is, or puts the index of new
entries in memory and writes it: `written` is the outcome and the state of that, and whether the
write goes through is up to the disk. Importing reads a resource first, which touches neither the
disk nor the store. Of a store whose file somebody else has written it is only said what may fail.
-/

namespace AppCatalog

open AppCatalog.Registration

/-- Puts registrations into a map one after another, those that are taken only if that is forced,
and gives those that were put. -/
def putAll {μ : Type} (taken : AppType × String → μ → Bool) (put : Registration → μ → μ)
    (force : Bool) : List Registration → μ → List Registration × μ
  | [], m => ([], m)
  | r :: rs, m =>
    if !force && taken r.key m then putAll taken put force rs m
    else (r :: (putAll taken put force rs (put r m)).1, (putAll taken put force rs (put r m)).2)

/-- Where nothing is put nothing changes. -/
theorem putAll_eq_self_of_nil {μ : Type} {taken : AppType × String → μ → Bool}
    {put : Registration → μ → μ} {force : Bool} {rs : List Registration} {m : μ}
    (h : (putAll taken put force rs m).1 = []) : (putAll taken put force rs m).2 = m := by
  induction rs generalizing m with
  | nil => rfl
  | cons r rs ih =>
      rw [putAll] at h ⊢
      split at h
      · next ht =>
          rw [if_pos ht]
          exact ih h
      · exact absurd h (List.cons_ne_nil _ _)

namespace Entries

/-- The entries with a registration under its key. -/
def put (r : Registration) (es : Entries) : Entries := Assoc.insert r.key r.place es

/-- Puts registrations among entries, and gives those that were put. -/
def putAll (force : Bool) (rs : List Registration) (es : Entries) : List Registration × Entries :=
  AppCatalog.putAll Assoc.contains put force rs es

theorem putAll_eq_self_of_nil {force : Bool} {rs : List Registration} {es : Entries}
    (h : (putAll force rs es).1 = []) : (putAll force rs es).2 = es :=
  AppCatalog.putAll_eq_self_of_nil h

theorem nodup_keys_putAll {es : Entries} (h : (Assoc.keys es).Nodup) (force : Bool)
    (rs : List Registration) : (Assoc.keys (putAll force rs es).2).Nodup := by
  induction rs generalizing es with
  | nil => exact h
  | cons r rs ih =>
      rw [putAll, AppCatalog.putAll]
      split
      · exact ih h
      · exact ih (Assoc.nodup_keys_insert h)

theorem mem_keys_putAll_true {k : AppType × String} {rs : List Registration} {es : Entries} :
    k ∈ Assoc.keys (putAll true rs es).2 ↔ k ∈ Assoc.keys es ∨ k ∈ rs.map key := by
  induction rs generalizing es with
  | nil =>
      rw [List.map_nil, or_iff_left List.not_mem_nil]
      exact Iff.rfl
  | cons r rs ih =>
      have hput : (putAll true (r :: rs) es).2 = (putAll true rs (es.put r)).2 := rfl
      rw [hput, ih, put, Assoc.mem_keys_insert, List.map_cons, List.mem_cons, or_assoc]

end Entries

namespace Store

/-- The store of some entries. -/
def ofEntries (file : Path) (es : Entries) : Store := ⟨file, .ofEntries es⟩

theorem find_ofEntries (file : Path) (es : Entries) (type : AppType) (name : String) :
    (ofEntries file es).find type name =
      .ok ((Assoc.get? (type, name) es).map fun p => ofEntry ((type, name), p)) :=
  Index.find_ofEntries es (type, name)

/-- The outcome and the state after the index of some entries has been put in memory and written. -/
def written (file : Path) (es : Entries) (w : World) : Except Failure Unit × (Store × World) :=
  writeIndex.on (ofEntries file es, w)

theorem ask_on {α : Type} (question : Store → Except Failure α) (p : Store × World) :
    (ask question).on p = (question p.1, p) := by
  rw [ask, Run.on_bind_ok (Run.on_get p), Run.on_ofExcept]

theorem setIndex_on (i : Index) (p : Store × World) :
    (setIndex i).on p = (.ok (), (⟨p.1.file, i⟩, p.2)) := rfl

theorem inWorld_on {α : Type} (m : Run World α) (p : Store × World) :
    (inWorld m).on p = ((m.on p.2).1, (p.1, (m.on p.2).2)) := rfl

theorem writeIndex_on (p : Store × World) :
    writeIndex.on p =
      ((p.2.disk.write p.1.file (indexBytes p.1.index)).1.mapError fun f => .breakdown (.os f),
        (p.1, { p.2 with disk := (p.2.disk.write p.1.file (indexBytes p.1.index)).2 })) := by
  rw [writeIndex, Run.on_bind_ok (Run.on_get p)]
  rw [Run.on_bind_ok (Run.on_set _ _), Run.on_ofDisk]

/-- Writing an index goes through or ends in a fault of the disk; memory is as it is. -/
theorem written_cases (file : Path) (es : Entries) (w : World) :
    (∃ t, w.disk.write file (indexBytes (.ofEntries es)) = (.ok (), t) ∧
        written file es w = (.ok (), (ofEntries file es, { w with disk := t }))) ∨
      ∃ f t, w.disk.write file (indexBytes (.ofEntries es)) = (.error f, t) ∧
        written file es w =
          (.error (.breakdown (.os f)), (ofEntries file es, { w with disk := t })) := by
  rw [written, writeIndex_on, ofEntries]
  rcases hd : w.disk.write file (indexBytes (.ofEntries es)) with ⟨f | u, t⟩
  · exact Or.inr ⟨f, t, rfl, rfl⟩
  · exact Or.inl ⟨t, rfl, rfl⟩

theorem loadIndex_on (file : Path) (w : World) :
    (loadIndex file).on w = match w.disk.isThere file with
      | .ok true => match w.disk.read file with
        | .ok bytes => (readIndex bytes, w)
        | .error f => (.error (.breakdown (.os f)), w)
      | .ok false => (.ok .empty, w)
      | .error f => (.error (.breakdown (.os f)), w) := by
  rw [loadIndex, Run.on_bind_ok (Run.on_get w)]
  rw [Run.on_bind, Run.on_ofDisk]
  rcases w.disk.isThere file with f | b
  · rfl
  · cases b with
    | false => rfl
    | true =>
        change (Run.ofDisk (w.disk.read file) >>= fun bytes =>
          Run.ofExcept (readIndex bytes)).on w = _
        rw [Run.on_bind, Run.on_ofDisk]
        rcases w.disk.read file with f | bytes
        · rfl
        · exact Run.on_ofExcept _ _

theorem loadIndex_on_snd (file : Path) (w : World) : ((loadIndex file).on w).2 = w := by
  rw [loadIndex_on]
  rcases w.disk.isThere file with f | b
  · rfl
  · cases b with
    | false => rfl
    | true => rcases w.disk.read file with f | bytes <;> rfl

/-- A store is opened once its folders are made and its index is loaded; the files stay as they are. -/
theorem opened_on (folder : Path) (w : World) {t : FileTree} {i : Index}
    (ht : w.disk.makeFolders folder = .ok t)
    (hi : ((loadIndex (folder.child fileName.toList)).on { w with disk := t }).1 = .ok i) :
    (opened folder).on w = (.ok ⟨folder.child fileName.toList, i⟩, { w with disk := t }) := by
  have hl : (loadIndex (folder.child fileName.toList)).on { w with disk := t } =
      (.ok i, { w with disk := t }) := Prod.ext hi (loadIndex_on_snd _ _)
  rw [opened, Run.on_bind_ok (Run.on_get w), ht]
  refine (Run.on_bind_ok (Run.on_pure t w)).trans ?_
  refine (Run.on_bind_ok (Run.on_modify _ w)).trans ?_
  exact (Run.on_bind_ok hl).trans (Run.on_pure _ _)

theorem of_opened_on {folder : Path} {w w' : World} {s : Store}
    (h : (opened folder).on w = (.ok s, w')) :
    s.file = folder.child fileName.toList ∧ w.disk.makeFolders folder = .ok w'.disk ∧
      w' = { w with disk := w'.disk } ∧ ((loadIndex s.file).on w').1 = .ok s.index := by
  rw [opened, Run.on_bind_ok (Run.on_get w)] at h
  rcases ht : w.disk.makeFolders folder with f | t
  · rw [ht] at h
    cases h
  · rw [ht] at h
    have hopen := (Run.on_bind_ok (Run.on_pure t w)).symm.trans h
    replace hopen := (Run.on_bind_ok (Run.on_modify _ w)).symm.trans hopen
    rw [Run.on_bind] at hopen
    have hw := loadIndex_on_snd (folder.child fileName.toList) { w with disk := t }
    rcases hl : (loadIndex (folder.child fileName.toList)).on { w with disk := t } with ⟨f | i, v⟩
    · rw [hl] at hopen
      cases hopen
    · rw [hl] at hopen hw
      change v = _ at hw
      subst hw
      cases hopen
      exact ⟨rfl, rfl, rfl, congrArg Prod.fst hl⟩

/-- Whether an import passes over a registration. -/
def passesOver (force : Bool) (r : Registration) (i : Index) : Except Failure Bool :=
  if force then .ok false else i.mentions r.id

/-- The world once it is noted that a registration is passed over. -/
def passedOver (r : Registration) (w : World) : World :=
  { w with log := w.log ++ [⟨.info, "Skipping existing registration " ++ r.id⟩] }

theorem addAll_cons_on (force : Bool) (r : Registration) (rs : List Registration) (s : Store)
    (w : World) : (addAll force (r :: rs)).on (s, w) =
      match passesOver force r s.index with
      | .error f => (.error f, (s, w))
      | .ok true => (addAll force rs).on (s, passedOver r w)
      | .ok false => match s.index.insert r with
        | .error f => (.error f, (s, w))
        | .ok i => (((addAll force rs).on (⟨s.file, i⟩, w)).1.map (r :: ·),
            ((addAll force rs).on (⟨s.file, i⟩, w)).2) := by
  have hinsert : (do
      setIndex (← ask fun s => s.index.insert r)
      let saved ← addAll force rs
      pure (r :: saved) : Action (List Registration)).on (s, w) =
        match s.index.insert r with
        | .error f => (.error f, (s, w))
        | .ok i => (((addAll force rs).on (⟨s.file, i⟩, w)).1.map (r :: ·),
            ((addAll force rs).on (⟨s.file, i⟩, w)).2) := by
    rw [Run.on_bind, ask_on]
    rcases s.index.insert r with f | i
    · rfl
    · simp only
      rw [Run.on_bind_ok (setIndex_on _ _)]
      exact Run.on_bind_of_ok (fun _ _ => rfl) _
  cases force with
  | true => exact hinsert
  | false =>
      rw [addAll, if_neg Bool.false_ne_true, Run.on_bind, ask_on, passesOver,
        if_neg Bool.false_ne_true]
      rcases s.index.mentions r.id with f | b
      · rfl
      · cases b with
        | true => exact Run.on_bind_ok (inWorld_on _ _)
        | false => exact hinsert

section Operations

variable (file : Path) (es : Entries) (w : World)

theorem ask_entry_on (r : Registration) :
    (ask fun s => s.index.entry? r.id).on (ofEntries file es, w) =
      (.ok (((Assoc.get? r.key es).map fun p => ofEntry (r.key, p)).map Index.encode),
        (ofEntries file es, w)) := by
  rw [ask_on, Option.map_map]
  exact congrArg (·, _) (Index.entry?_ofEntries es r.key)

theorem ask_insert_on (r : Registration) :
    (ask fun s => s.index.insert r).on (ofEntries file es, w) =
      (.ok (.ofEntries (es.put r)), (ofEntries file es, w)) := by
  rw [ask_on]
  exact congrArg (·, _) (Index.insert_ofEntries es r)

/-- Saving under a key that is taken, without overwriting, fails and changes nothing. -/
theorem save_on_taken {r : Registration} {p : String × Option String}
    (h : Assoc.get? r.key es = some p) :
    (save r false).on (ofEntries file es, w) =
      (.error (.alreadyRegistered (ofEntry (r.key, p))), (ofEntries file es, w)) := by
  rw [save, Run.on_bind_ok (ask_entry_on file es w r), h]
  simp only [Bool.not_false, if_true, Option.map_some, Index.decode_encode]
  rfl

/-- Saving otherwise puts the registration and gives the one that it replaces. -/
theorem save_on {r : Registration} {overwrite : Bool}
    (h : overwrite = true ∨ Assoc.get? r.key es = none) :
    (save r overwrite).on (ofEntries file es, w) =
      ((written file (es.put r) w).1.map fun _ =>
          (Assoc.get? r.key es).map fun p => ofEntry (r.key, p),
        (written file (es.put r) w).2) := by
  have hrest : (do
      setIndex (← ask fun s => s.index.insert r)
      writeIndex
      Run.ofExcept (Index.decodeGiven (((Assoc.get? r.key es).map fun p =>
        ofEntry (r.key, p)).map Index.encode)) : Action (Option Registration)).on
        (ofEntries file es, w) =
      ((written file (es.put r) w).1.map fun _ =>
          (Assoc.get? r.key es).map fun p => ofEntry (r.key, p),
        (written file (es.put r) w).2) := by
    rw [Run.on_bind_ok (ask_insert_on file es w r), Run.on_bind_ok (setIndex_on _ _)]
    refine Run.on_bind_of_ok ?_ _
    intro _ q
    rw [Run.on_ofExcept, Index.decodeGiven_encode]
  rw [save, Run.on_bind_ok (ask_entry_on file es w r)]
  rcases h with h | h
  · subst h
    exact hrest
  · rw [h] at hrest ⊢
    cases overwrite <;> exact hrest

theorem ask_erase_on (type : AppType) (name : String) :
    (ask fun s => s.index.erase (idOf type name)).on (ofEntries file es, w) =
      (.ok (.ofEntries (Assoc.erase (type, name) es), Assoc.contains (type, name) es),
        (ofEntries file es, w)) := by
  rw [ask_on]
  exact congrArg (·, _) (Index.erase_ofEntries es (type, name))

/-- Deleting what is not there changes nothing. -/
theorem delete_on_absent {type : AppType} {name : String}
    (h : Assoc.contains (type, name) es = false) :
    (delete type name).on (ofEntries file es, w) = (.ok false, (ofEntries file es, w)) := by
  have hk : (type, name) ∉ Assoc.keys es := by
    rw [← Assoc.contains_eq_true_iff, h]
    exact Bool.false_ne_true
  rw [delete, Run.on_bind_ok (ask_erase_on file es w type name), h, Assoc.erase_of_notMem hk]
  rfl

theorem delete_on {type : AppType} {name : String}
    (h : Assoc.contains (type, name) es = true) :
    (delete type name).on (ofEntries file es, w) =
      ((written file (Assoc.erase (type, name) es) w).1.map fun _ => true,
        (written file (Assoc.erase (type, name) es) w).2) := by
  rw [delete, Run.on_bind_ok (ask_erase_on file es w type name), h]
  simp only
  rw [Run.on_bind_ok (setIndex_on _ _)]
  exact Run.on_bind_of_ok (fun _ _ => rfl) _

theorem written_store : (written file es w).2.1 = ofEntries file es := by
  rw [written, writeIndex_on]

/-- A save changes the same entries in memory, whether or not the write goes through. -/
theorem save_on_store (r : Registration) (overwrite : Bool) :
    ((save r overwrite).on (ofEntries file es, w)).2.1 =
      ofEntries file (if !overwrite && Assoc.contains r.key es then es else es.put r) := by
  rcases hp : Assoc.get? r.key es with _ | place
  · rw [save_on file es w (Or.inr hp), written_store, Assoc.contains, hp, Option.isSome_none,
      Bool.and_false, if_neg Bool.false_ne_true]
  · cases overwrite with
    | true => rw [save_on file es w (Or.inl rfl), written_store]; rfl
    | false =>
        rw [save_on_taken file es w hp, Assoc.contains, hp]
        rfl

/-- So does a deletion. -/
theorem delete_on_store (type : AppType) (name : String) :
    ((delete type name).on (ofEntries file es, w)).2.1 =
      ofEntries file (Assoc.erase (type, name) es) := by
  rcases hc : Assoc.contains (type, name) es
  · rw [delete_on_absent file es w hc, Assoc.erase_of_notMem]
    rw [← Assoc.contains_eq_true_iff, hc]
    exact Bool.false_ne_true
  · rw [delete_on file es w hc, written_store]

/-- What is inserted into memory is what is put among the entries; beyond that only the log grows. -/
theorem addAll_on (force : Bool) (rs : List Registration) :
    ∃ lines, (addAll force rs).on (ofEntries file es, w) =
      (.ok (es.putAll force rs).1,
        (ofEntries file (es.putAll force rs).2, { w with log := w.log ++ lines })) := by
  induction rs generalizing es w with
  | nil =>
      refine ⟨[], ?_⟩
      rw [List.append_nil]
      rfl
  | cons r rs ih =>
      have hp : passesOver force r (ofEntries file es).index =
          .ok (!force && Assoc.contains r.key es) := by
        cases force with
        | true => rfl
        | false => exact Index.mentions_ofEntries es r.key
      have hi : (ofEntries file es).index.insert r = .ok (.ofEntries (es.put r)) :=
        Index.insert_ofEntries es r
      have hput : ∃ lines, (((addAll force rs).on (ofEntries file (es.put r), w)).1.map (r :: ·),
          ((addAll force rs).on (ofEntries file (es.put r), w)).2) =
            (.ok (r :: ((es.put r).putAll force rs).1),
              (ofEntries file ((es.put r).putAll force rs).2, { w with log := w.log ++ lines })) := by
        obtain ⟨lines, hl⟩ := ih (es.put r) w
        exact ⟨lines, by rw [hl]; rfl⟩
      rw [addAll_cons_on, hp, hi, Entries.putAll, AppCatalog.putAll]
      cases !force && Assoc.contains r.key es with
      | false => exact hput
      | true =>
          obtain ⟨lines, hl⟩ := ih es (passedOver r w)
          refine ⟨[⟨.info, "Skipping existing registration " ++ r.id⟩] ++ lines, ?_⟩
          rw [← List.append_assoc]
          exact hl

/-- The registrations that a resource asks for when it is read. -/
def asked (resource : Resource) : Run World (List Registration) := do
  let data ← resource.read
  Run.ofExcept (ImportPlan.ofListing (Listing.parse (Latin1.decode data)))

theorem asked_on (resource : Resource) :
    (asked resource).on w = match resource.read.on w with
      | (.ok data, w') => (ImportPlan.ofListing (Listing.parse (Latin1.decode data)), w')
      | (.error f, w') => (.error f, w') := by
  rw [asked, Run.on_bind]
  rcases resource.read.on w with ⟨_ | data, w'⟩
  · rfl
  · exact Run.on_ofExcept _ _

/-- Finding out what a resource asks for requests addresses and does nothing else to the world. -/
theorem asked_keeps (resource : Resource) :
    ∃ urls, ((asked resource).on w).2 = { w with requested := w.requested ++ urls } := by
  obtain ⟨urls, hu⟩ := resource.read_on w
  refine ⟨urls, ?_⟩
  rw [asked_on, ← hu]
  rcases resource.read.on w with ⟨_ | data, v⟩
  · rfl
  · rfl

theorem asked_not_osFault {resource : Resource} {f : Failure} {w : World}
    (h : ((asked resource).on w).1 = .error f) : f.isOsFault = false := by
  rw [asked_on] at h
  rcases hr : resource.read.on w with ⟨g | data, v⟩
  · rw [hr] at h
    cases h
    exact Resource.read_not_osFault (congrArg Prod.fst hr)
  · rw [hr] at h
    exact ImportPlan.ofListing_not_osFault h

/-- An import that is refused, because its resource cannot be read or its listing is not in order,
leaves the store as it is. -/
theorem importAll_on_refused (p : Store × World) {force : Bool} {resource : Resource} {f : Failure}
    {w' : World} (h : (asked resource).on p.2 = (.error f, w')) :
    (importAll force resource).on p = (.error f, (p.1, w')) := by
  rw [asked_on] at h
  rw [importAll, Run.on_bind, inWorld_on]
  rcases hr : resource.read.on p.2 with ⟨_ | data, v⟩
  · rw [hr] at h
    cases h
    rfl
  · rw [hr] at h
    obtain ⟨ho, rfl⟩ := Prod.mk.inj h
    refine Run.on_bind_error ?_
    rw [Run.on_ofExcept, ho]

theorem importAll_on_asked (p : Store × World) {force : Bool} {resource : Resource}
    {rs : List Registration} {w' : World} (h : (asked resource).on p.2 = (.ok rs, w')) :
    (importAll force resource).on p = (do
      let saved ← importRegistrations force rs
      inWorld (World.note .info ("Imported " ++ toString saved.length ++ " registrations from " ++
        resource.description))
      pure saved).on (p.1, w') := by
  rw [asked_on] at h
  rw [importAll, Run.on_bind, inWorld_on]
  rcases hr : resource.read.on p.2 with ⟨_ | data, v⟩
  · rw [hr] at h
    cases h
  · rw [hr] at h
    obtain ⟨ho, rfl⟩ := Prod.mk.inj h
    refine Run.on_bind_ok ?_
    rw [Run.on_ofExcept, ho]

/-- An import of registrations that are all there already writes nothing. -/
theorem importRegistrations_on_nothing {force : Bool} {rs : List Registration}
    (h : (es.putAll force rs).1 = []) :
    ∃ lines, (importRegistrations force rs).on (ofEntries file es, w) =
      (.ok [], (ofEntries file es, { w with log := w.log ++ lines })) := by
  obtain ⟨lines, hl⟩ := addAll_on file es w force rs
  rw [h, Entries.putAll_eq_self_of_nil h] at hl
  exact ⟨lines, by rw [importRegistrations, Run.on_bind_ok hl]; rfl⟩

/-- An import of registrations puts them and writes once. -/
theorem importRegistrations_on {force : Bool} {rs : List Registration}
    (h : (es.putAll force rs).1 ≠ []) :
    ∃ lines, (importRegistrations force rs).on (ofEntries file es, w) =
      ((written file (es.putAll force rs).2 { w with log := w.log ++ lines }).1.map fun _ =>
          (es.putAll force rs).1,
        (written file (es.putAll force rs).2 { w with log := w.log ++ lines }).2) := by
  obtain ⟨lines, hl⟩ := addAll_on file es w force rs
  refine ⟨lines, ?_⟩
  have hs : (!(es.putAll force rs).1.isEmpty) = true := by
    rw [Bool.not_eq_true', List.isEmpty_eq_false_iff]
    exact h
  rw [importRegistrations, Run.on_bind_ok hl]
  simp only [hs, if_true]
  exact Run.on_bind_of_ok (fun _ _ => rfl) _

/-- An import changes the same entries in memory, whether or not the write goes through. -/
theorem importRegistrations_on_store (force : Bool) (rs : List Registration) :
    ((importRegistrations force rs).on (ofEntries file es, w)).2.1 =
      ofEntries file (es.putAll force rs).2 := by
  by_cases hs : (es.putAll force rs).1 = []
  · obtain ⟨lines, hl⟩ := importRegistrations_on_nothing file es w hs
    rw [hl, Entries.putAll_eq_self_of_nil hs]
  · obtain ⟨lines, hl⟩ := importRegistrations_on file es w hs
    rw [hl, written_store]

end Operations

/-! ## Stores of any origin -/

/-- Into an index that is an object, registrations go without fail. -/
theorem addAll_entries (force : Bool) (rs : List Registration) (file : Path) (m : Assoc String Json)
    (w : World) : ∃ saved m' w',
      (addAll force rs).on (⟨file, .entries m⟩, w) = (.ok saved, (⟨file, .entries m'⟩, w')) := by
  induction rs generalizing m w with
  | nil => exact ⟨[], m, w, rfl⟩
  | cons r rs ih =>
      obtain ⟨saved, m', w', hr⟩ := ih (Assoc.insert r.id (Index.encode r) m) w
      have hput : ∃ saved m' w', (((addAll force rs).on
            (⟨file, .entries (Assoc.insert r.id (Index.encode r) m)⟩, w)).1.map (r :: ·),
          ((addAll force rs).on
            (⟨file, .entries (Assoc.insert r.id (Index.encode r) m)⟩, w)).2) =
            (.ok saved, (⟨file, .entries m'⟩, w')) := ⟨r :: saved, m', w', by rw [hr]; rfl⟩
      have hp : passesOver force r (.entries m) = .ok (!force && Assoc.contains r.id m) := by
        cases force <;> rfl
      rw [addAll_cons_on, hp]
      cases !force && Assoc.contains r.id m with
      | false => exact hput
      | true => exact ih m (passedOver r w)

/-- Into anything else nothing goes. -/
theorem addAll_other (force : Bool) (rs : List Registration) (file : Path) (v : Json) (w : World) :
    ∃ x lines, (addAll force rs).on (⟨file, .other v⟩, w) =
        (x, (⟨file, .other v⟩, { w with log := w.log ++ lines })) ∧
      ∀ saved, x = .ok saved → saved = [] := by
  induction rs generalizing w with
  | nil =>
      refine ⟨.ok [], [], ?_, fun _ h => (Except.ok.inj h).symm⟩
      rw [List.append_nil]
      rfl
  | cons r rs ih =>
      have hstop : ∀ f : Failure, ∃ (x : Except Failure (List Registration)) (lines : List LogLine),
          ((.error f, (⟨file, .other v⟩, w)) : Except Failure (List Registration) × (Store × World)) =
            (x, (⟨file, .other v⟩, { w with log := w.log ++ lines })) ∧
          ∀ saved, x = .ok saved → saved = [] := by
        intro f
        refine ⟨.error f, [], ?_, fun _ h => by cases h⟩
        rw [List.append_nil]
      rw [addAll_cons_on]
      rcases passesOver force r (Store.mk file (.other v)).index with f | b
      · exact hstop f
      · cases b with
        | false => exact hstop _
        | true =>
            obtain ⟨x, lines, hr, hx⟩ := ih (passedOver r w)
            refine ⟨x, [⟨.info, "Skipping existing registration " ++ r.id⟩] ++ lines, ?_, hx⟩
            rw [← List.append_assoc]
            exact hr

/-- After an import the index is an object and only a write can have failed, or nothing has come of
it. -/
theorem importRegistrations_cases_any (force : Bool) (rs : List Registration) (p : Store × World) :
    (∃ m, ((importRegistrations force rs).on p).2.1.index = .entries m ∧
      ∀ f, ((importRegistrations force rs).on p).1 = .error f → f.isOsFault = true) ∨
    ((importRegistrations force rs).on p).2.1 = p.1 ∧
      ((importRegistrations force rs).on p).2.2.disk = p.2.disk := by
  obtain ⟨⟨file, index⟩, w⟩ := p
  cases index with
  | entries m =>
      obtain ⟨saved, m', w', hr⟩ := addAll_entries force rs file m w
      rw [importRegistrations, Run.on_bind_ok hr]
      cases saved with
      | nil => exact Or.inl ⟨m', rfl, fun f hf => by cases hf⟩
      | cons r saved =>
          refine Or.inl ⟨m', ?_⟩
          change ((writeIndex >>= fun _ => pure (r :: saved)).on _).2.1.index = _ ∧
            ∀ f, ((writeIndex >>= fun _ => pure (r :: saved)).on _).1 = .error f → _
          rw [Run.on_bind, writeIndex_on]
          rcases (w'.disk.write file (indexBytes (.entries m'))).1 with g | u
          · refine ⟨rfl, ?_⟩
            intro f hf
            cases hf
            rfl
          · refine ⟨rfl, ?_⟩
            intro f hf
            cases hf
  | other v =>
      obtain ⟨x, lines, hr, hx⟩ := addAll_other force rs file v w
      refine Or.inr ?_
      rcases x with f | saved
      · rw [importRegistrations, Run.on_bind_error hr]
        exact ⟨rfl, rfl⟩
      · rw [importRegistrations, Run.on_bind_ok hr, hx saved rfl]
        exact ⟨rfl, rfl⟩

end Store

end AppCatalog
