import AppCatalog.Proofs.Store.FailedWrite

/-!
# Clients that share a folder

Several clients have stores of their own on one folder. Each reads the file once, when it opens its
store, and writes the whole of its memory over it after every change; what the others have written in
the meantime it does not see. So the file holds what the client that wrote last has in memory, and a
change that this client has not read is gone, though it was acknowledged. If only clients change
anything that are up to date, nothing is lost (`opened_after_clients`).
-/

namespace AppCatalog

open AppCatalog.Registration

namespace RegistrationMap

open AppCatalog.Store (Call Asked)

/-- A call that has nothing to write changes nothing. -/
theorem after_of_not_hasToWrite {c : Call Asked} {m : RegistrationMap}
    (h : m.hasToWrite c = false) : m.after c = m := by
  cases c with
  | save r overwrite =>
      rw [hasToWrite] at h
      rw [after, h]
      rfl
  | delete type name =>
      rw [hasToWrite, Option.isSome_eq_false_iff, Option.isNone_iff_eq_none] at h
      apply Finmap.ext_lookup
      intro k
      by_cases hk : k = (type, name)
      · rw [hk, after, Finmap.lookup_erase, h]
      · exact Finmap.lookup_erase_ne hk
  | importAll force asked =>
      cases asked with
      | error f => rfl
      | ok rs =>
          rw [hasToWrite, Bool.not_eq_false', List.isEmpty_iff] at h
          exact putAll_eq_self_of_nil h
  | _ => rfl

end RegistrationMap

namespace Store

/-! ## What a call writes -/

/-- Whether a call may change what is registered. -/
def Call.isChange {σ : Type} : Call σ → Bool
  | save _ _ | delete _ _ | importAll _ _ => true
  | _ => false

/-- Whether a call that is answered has written the file. -/
def Call.writes {σ : Type} : Call σ → Answer → Bool
  | save _ _, _ => true
  | delete _ _, .flag found => found
  | importAll _ _, .registrations saved => !saved.isEmpty
  | _, _ => false

theorem Call.writes_eq_hasToWrite {c : Call Asked} {m : RegistrationMap} {a : Answer}
    (h : m.answer c = .ok a) : c.writes a = m.hasToWrite c := by
  cases c with
  | save r overwrite =>
      rw [RegistrationMap.answer, RegistrationMap.registration?] at h
      rw [writes, RegistrationMap.hasToWrite]
      rcases hr : m.lookup r.key with _ | place
      · rw [Option.isNone_none, Bool.or_true]
      · rw [hr] at h
        cases overwrite with
        | true => rfl
        | false => cases h
  | delete type name =>
      cases h
      rfl
  | importAll force asked =>
      cases asked with
      | error f => cases h
      | ok rs =>
          cases h
          rfl
  | _ =>
      cases h
      rfl

theorem Call.not_hasToWrite_of_error {c : Call Asked} {m : RegistrationMap} {f : Failure}
    (h : m.answer c = .error f) : m.hasToWrite c = false := by
  cases c with
  | save r overwrite =>
      rw [RegistrationMap.answer, RegistrationMap.registration?] at h
      rcases hr : m.lookup r.key with _ | place
      · rw [hr] at h
        cases h
      · rw [hr] at h
        cases overwrite with
        | true => cases h
        | false =>
            rw [RegistrationMap.hasToWrite, hr]
            rfl
  | importAll force asked =>
      cases asked with
      | error g => rfl
      | ok rs => cases h
  | _ => cases h

section Calls

variable {file : Path} {es : Entries} {w : World} {m : RegistrationMap}

/-- A call that has nothing to write leaves memory and disk as they are. -/
theorem perform_keeps (file : Path) (h : es.Represents m) {c : Call Resource}
    (hc : m.hasToWrite (c.resolve w) = false) :
    (c.perform.on (ofEntries file es, w)).2.1 = ofEntries file es ∧
      (c.perform.on (ofEntries file es, w)).2.2.disk = w.disk := by
  cases c with
  | save r overwrite =>
      rw [Call.resolve, RegistrationMap.hasToWrite, Bool.or_eq_false_iff, h.lookup,
        Option.isNone_eq_false_iff, Option.isSome_iff_exists] at hc
      obtain ⟨rfl, place, hp⟩ := hc
      rw [Call.perform, Run.on_map, save_on_taken file es w hp]
      exact ⟨rfl, rfl⟩
  | delete type name =>
      rw [Call.resolve, RegistrationMap.hasToWrite, ← h.contains] at hc
      rw [Call.perform, Run.on_map, delete_on_absent file es w hc]
      exact ⟨rfl, rfl⟩
  | importAll force resource =>
      have hd : ((asked resource).on w).2.disk = w.disk := by
        obtain ⟨urls, hu⟩ := asked_keeps w resource
        rw [hu]
      rw [Call.perform, Run.on_map]
      rw [Call.resolve] at hc
      rcases ha : (asked resource).on w with ⟨f | rs, v⟩
      · rw [ha] at hd
        rw [importAll_on_refused (ofEntries file es, w) ha]
        exact ⟨rfl, hd⟩
      · rw [ha] at hc hd
        rw [RegistrationMap.hasToWrite, Bool.not_eq_false', List.isEmpty_iff,
          ← (h.putAll force rs).1] at hc
        obtain ⟨lines, hl⟩ := importRegistrations_on_nothing file es v hc
        obtain ⟨-, hstore, hdisk⟩ := importAll_outcome (ofEntries file es, w) force ha
        rw [hl] at hstore hdisk
        exact ⟨hstore, hdisk.trans hd⟩
  | _ =>
      rw [Call.perform, Run.on_map, ask_on]
      exact ⟨rfl, rfl⟩

/-- What a call does to memory and to the disk when its write goes through. -/
theorem perform_effect (h : es.Represents m) {c : Call Resource}
    (hw : ∀ f, (c.perform.on (ofEntries file es, w)).1 = .error f → f.isOsFault = false) :
    let result := c.perform.on (ofEntries file es, w)
    result.1 = m.answer (c.resolve w) ∧
      ∃ es', result.2.1 = ofEntries file es' ∧ es'.Represents (m.after (c.resolve w)) ∧
        if m.hasToWrite (c.resolve w) then
          w.disk.write file (indexBytes (.ofEntries es')) = (.ok (), result.2.2.disk)
        else result.2.2.disk = w.disk := by
  intro result
  have hanswer : result.1 = m.answer (c.resolve w) := by
    obtain ⟨es', w', hr, -, -⟩ := perform_refines h c hw
    exact congrArg Prod.fst hr
  refine ⟨hanswer, ?_⟩
  cases hc : m.hasToWrite (c.resolve w) with
  | true =>
      obtain ⟨es', hm, hout⟩ := perform_writesOut file h hc
      refine ⟨es', hout.store, hm, ?_⟩
      rw [if_pos rfl]
      rcases hwrite : (w.disk.write file (indexBytes (.ofEntries es'))).1 with fault | u
      · cases hw _ (hout.fails fault hwrite)
      · exact Prod.ext hwrite hout.disk.symm
  | false =>
      obtain ⟨hstore, hdisk⟩ := perform_keeps file h hc
      rw [RegistrationMap.after_of_not_hasToWrite hc]
      exact ⟨es, hstore, h, by rw [if_neg Bool.false_ne_true]; exact hdisk⟩

end Calls

/-! ## Clients -/

/-- The stores that clients have open, and the world that they share. -/
structure Clients (ι : Type) where
  stores : ι → Option Store
  world : World

namespace Clients

variable {ι : Type} [DecidableEq ι]

/-- The clients after a turn of one of them, which leaves a store and the world. -/
def turn (s : Clients ι) (i : ι) (p : Store × World) : Clients ι :=
  ⟨Function.update s.stores i (some p.1), p.2⟩

theorem isSome_turn {s : Clients ι} {i j : ι} (h : j = i ∨ (s.stores j).isSome = true)
    (p : Store × World) : ((s.turn i p).stores j).isSome = true := by
  rw [turn]
  by_cases he : j = i
  · subst he
    simp only [Function.update_self, Option.isSome_some]
  · simp only [Function.update_of_ne he]
    exact h.resolve_left he

end Clients

/-- A line in the journal of what clients do: one opens a store of its own, or a call of one is
answered without a failure. What an import asked for stands in the place of its resource. -/
inductive Note (ι : Type) where
  | opened (i : ι)
  | acknowledged (i : ι) (c : Call Asked) (a : Answer)

namespace Note

variable {ι : Type}

/-- Whether a client has written the file. -/
def writes : Note ι → Bool
  | opened _ => false
  | acknowledged _ c a => c.writes a

/-- The calls of a journal. -/
def calls : List (Note ι) → List (Call Asked)
  | [] => []
  | opened _ :: ns => calls ns
  | acknowledged _ c _ :: ns => c :: calls ns

/-- The calls of one client. -/
def callsOf [DecidableEq ι] (i : ι) : List (Note ι) → List (Call Asked)
  | [] => []
  | opened _ :: ns => callsOf i ns
  | acknowledged j c _ :: ns => if j = i then c :: callsOf i ns else callsOf i ns

end Note

/-- What is in the file, and what each client has in memory. -/
structure Copies (ι : Type) where
  file : RegistrationMap
  copy : ι → RegistrationMap

namespace Copies

variable {ι : Type} [DecidableEq ι]

/-- A client that opens a store has what is in the file. Its calls are made on what it has, and if one
writes, the file has that as well. -/
def after (k : Copies ι) : Note ι → Copies ι
  | .opened i => ⟨k.file, Function.update k.copy i k.file⟩
  | .acknowledged i c a =>
    ⟨if c.writes a then (k.copy i).after c else k.file,
      Function.update k.copy i ((k.copy i).after c)⟩

theorem copy_opened (k : Copies ι) (i : ι) : (k.after (.opened i)).copy i = k.file :=
  Function.update_self i _ k.copy

theorem copy_opened_of_ne {i j : ι} (h : i ≠ j) (k : Copies ι) :
    (k.after (.opened j)).copy i = k.copy i :=
  Function.update_of_ne h _ k.copy

theorem copy_acknowledged (k : Copies ι) (i : ι) (c : Call Asked) (a : Answer) :
    (k.after (.acknowledged i c a)).copy i = (k.copy i).after c :=
  Function.update_self i _ k.copy

theorem copy_acknowledged_of_ne {i j : ι} (h : i ≠ j) (k : Copies ι) (c : Call Asked)
    (a : Answer) : (k.after (.acknowledged j c a)).copy i = k.copy i :=
  Function.update_of_ne h _ k.copy

theorem file_acknowledged {c : Call Asked} {a : Answer} (h : c.writes a = true) (k : Copies ι)
    (i : ι) : (k.after (.acknowledged i c a)).file = (k.copy i).after c :=
  if_pos h

/-- What the notes of a journal lead to in a folder whose file held a map. -/
def run (m : RegistrationMap) (ns : List (Note ι)) : Copies ι :=
  ns.foldl after ⟨m, fun _ => ∅⟩

/-- A client that may change something has in memory what is in the file. -/
def UpToDate (k : Copies ι) : Note ι → Prop
  | .opened _ => True
  | .acknowledged i c _ => c.isChange = true → k.copy i = k.file

/-- A call that does not write does not change memory either. -/
def Quiet (k : Copies ι) : Note ι → Prop
  | .opened _ => True
  | .acknowledged i c a => c.writes a = false → (k.copy i).after c = k.copy i

/-- Each note of a journal is as it should be at its time. -/
def Along (P : Copies ι → Note ι → Prop) : Copies ι → List (Note ι) → Prop
  | _, [] => True
  | k, n :: ns => P k n ∧ Along P (k.after n) ns

theorem along_append {P : Copies ι → Note ι → Prop} {k : Copies ι} {ns ns' : List (Note ι)} :
    Along P k (ns ++ ns') ↔ Along P k ns ∧ Along P (ns.foldl after k) ns' := by
  induction ns generalizing k with
  | nil => exact (and_iff_right trivial).symm
  | cons n ns ih => rw [List.cons_append, Along, ih, Along, and_assoc, List.foldl_cons]

variable {i : ι} {k : Copies ι} {ns : List (Note ι)}

/-- Where only clients change anything that are up to date, the file holds what all calls lead to. -/
theorem file_foldl (hq : Along Quiet k ns) (hu : Along UpToDate k ns) :
    (ns.foldl after k).file = (RegistrationMap.run (Note.calls ns) k.file).2 := by
  induction ns generalizing k with
  | nil => rfl
  | cons n ns ih =>
      rw [List.foldl_cons, ih hq.2 hu.2]
      cases n with
      | opened i => rfl
      | acknowledged i c a =>
          have hfile : (k.after (.acknowledged i c a)).file = k.file.after c := by
            rw [after]
            cases hc : c.isChange with
            | true =>
                rw [← hu.1 hc]
                split
                · rfl
                · next ha => exact (hq.1 (Bool.eq_false_iff.2 ha)).symm
            | false =>
                cases c with
                | save _ _ => cases hc
                | delete _ _ => cases hc
                | importAll _ _ => cases hc
                | _ => cases a <;> rfl
          rw [hfile]
          rfl

/-- What a client has in memory is what its own calls make of what it had before. -/
theorem copy_foldl (ho : .opened i ∉ ns) :
    (ns.foldl after k).copy i = (RegistrationMap.run (Note.callsOf i ns) (k.copy i)).2 := by
  induction ns generalizing k with
  | nil => rfl
  | cons n ns ih =>
      rw [List.mem_cons, not_or] at ho
      rw [List.foldl_cons, ih ho.2]
      cases n with
      | opened j =>
          have hj : i ≠ j := fun h => ho.1 (congrArg Note.opened h)
          rw [copy_opened_of_ne hj, Note.callsOf]
      | acknowledged j c a =>
          by_cases hj : j = i
          · subst hj
            rw [copy_acknowledged, Note.callsOf, if_pos rfl]
            rfl
          · rw [copy_acknowledged_of_ne (Ne.symm hj), Note.callsOf, if_neg hj]

/-- While no client writes, the file stays as it is. -/
theorem file_foldl_of_not_writes (hw : ∀ n ∈ ns, n.writes = false) :
    (ns.foldl after k).file = k.file := by
  induction ns generalizing k with
  | nil => rfl
  | cons n ns ih =>
      obtain ⟨hn, hns⟩ := List.forall_mem_cons.1 hw
      rw [List.foldl_cons, ih hns]
      cases n with
      | opened j => rfl
      | acknowledged j c a => exact if_neg (Bool.eq_false_iff.1 hn)

/-- The file holds what the client had in memory that wrote last. -/
theorem file_foldl_of_last_write {c : Call Asked} {a : Answer} {back : List (Note ι)}
    (ho : .opened i ∉ ns) (ha : c.writes a = true) (hw : ∀ n ∈ back, n.writes = false) :
    ((.opened i :: (ns ++ .acknowledged i c a :: back)).foldl after k).file =
      (RegistrationMap.run (Note.callsOf i ns) k.file).2.after c := by
  rw [List.foldl_cons, List.foldl_append, List.foldl_cons, file_foldl_of_not_writes hw,
    file_acknowledged ha, copy_foldl ho, copy_opened]

end Copies

/-- Clients that share a folder whose file held a map, with the journal of what they have done so far.
Each takes its turns when it likes, and all writes go through. -/
inductive Share {ι : Type} [DecidableEq ι] (folder : Path) (m : RegistrationMap) :
    Clients ι → List (Note ι) → Prop
  | first {es : Entries} {before w : World} (i : ι) (hm : es.Represents m)
    (ho : (opened folder).on before = (.ok (ofEntries (folder.child fileName.toList) es), w)) :
    Share folder m
      (.turn ⟨fun _ => none, before⟩ i (ofEntries (folder.child fileName.toList) es, w)) [.opened i]
  | opened {s : Clients ι} {ns : List (Note ι)} (h : Share folder m s ns) (i : ι) {store : Store}
    {w : World} (ho : (opened folder).on s.world = (.ok store, w)) :
    Share folder m (s.turn i (store, w)) (ns ++ [.opened i])
  | acknowledged {s : Clients ι} {ns : List (Note ι)} (h : Share folder m s ns) {i : ι}
    {store : Store} (hs : s.stores i = some store) {c : Call Resource} {a : Answer}
    {p : Store × World} (hc : c.perform.on (store, s.world) = (.ok a, p)) :
    Share folder m (s.turn i p) (ns ++ [.acknowledged i (c.resolve s.world) a])
  | refused {s : Clients ι} {ns : List (Note ι)} (h : Share folder m s ns) {i : ι}
    {store : Store} (hs : s.stores i = some store) {c : Call Resource} {f : Failure}
    {p : Store × World} (hc : c.perform.on (store, s.world) = (.error f, p))
    (hf : f.isOsFault = false) : Share folder m (s.turn i p) ns
  /-- The world turns into another one; what is in the folder stays there. -/
  | elsewhere {s : Clients ι} {ns : List (Note ι)} (h : Share folder m s ns) (w : World)
    (hf : w.disk.HasFolders folder)
    (hl : ((loadIndex (folder.child fileName.toList)).on w).1 =
      ((loadIndex (folder.child fileName.toList)).on s.world).1) : Share folder m ⟨s.stores, w⟩ ns

theorem loadIndex_of_disk_eq {w w' : World} (h : w'.disk = w.disk) (file : Path) :
    ((loadIndex file).on w').1 = ((loadIndex file).on w).1 := by
  rw [loadIndex_on, loadIndex_on, h]
  rcases w.disk.isThere file with f | b
  · rfl
  · cases b with
    | false => rfl
    | true => rcases w.disk.read file with f | bytes <;> rfl

theorem loadIndex_of_write {file : Path} {es : Entries} {t : FileTree} {w : World}
    (hn : (Assoc.keys es).Nodup) (h : t.write file (indexBytes (.ofEntries es)) = (.ok (), w.disk)) :
    ((loadIndex file).on w).1 = .ok (.ofEntries es) := by
  rw [loadIndex_on, FileTree.isThere_of_write h, FileTree.read_of_write h]
  exact readIndex_indexBytes hn

/-- The stores that clients have open hold what they have in memory. -/
def Remember {ι : Type} (file : Path) (stores : ι → Option Store) (copy : ι → RegistrationMap) :
    Prop :=
  ∀ i store, stores i = some store → ∃ es : Entries, es.Represents (copy i) ∧
    store = ofEntries file es

/-- A folder stands and its file loads as a map. -/
structure Holds (folder : Path) (w : World) (m : RegistrationMap) : Prop where
  folders : w.disk.HasFolders folder
  file : ∃ es : Entries, es.Represents m ∧
    ((loadIndex (folder.child fileName.toList)).on w).1 = .ok (.ofEntries es)

section Tracks

variable {ι : Type} [DecidableEq ι] {folder file : Path} {stores : ι → Option Store}
  {copy copy' : ι → RegistrationMap} {i : ι} {es : Entries} {w w' : World} {m m' : RegistrationMap}

/-- A client takes a turn, and the others do not notice. -/
theorem Remember.update (h : Remember file stores copy) {store : Store}
    (hs : store = ofEntries file es) (hm : es.Represents (copy' i))
    (ho : ∀ j ≠ i, copy' j = copy j) :
    Remember file (Function.update stores i (some store)) copy' := by
  subst hs
  intro j store hj
  by_cases he : j = i
  · subst he
    rw [Function.update_self] at hj
    exact ⟨es, hm, (Option.some.inj hj).symm⟩
  · rw [Function.update_of_ne he] at hj
    rw [ho j he]
    exact h j store hj

theorem Holds.of_disk_eq (h : Holds folder w m) (hd : w'.disk = w.disk) : Holds folder w' m := by
  obtain ⟨es, hm, hl⟩ := h.file
  refine ⟨hd ▸ h.folders, es, hm, ?_⟩
  rw [loadIndex_of_disk_eq hd, hl]

theorem Holds.write (h : Holds folder w m) (hm : es.Represents m')
    (hw : w.disk.write (folder.child fileName.toList) (indexBytes (.ofEntries es)) =
      (.ok (), w'.disk)) : Holds folder w' m' :=
  ⟨h.folders.write hw, es, hm, loadIndex_of_write hm.nodup hw⟩

/-- A store that is opened has what the file of its folder holds, and changes nothing. -/
theorem Holds.opened (h : Holds folder w m) : ∃ es : Entries, es.Represents m ∧
    (opened folder).on w = (.ok (ofEntries (folder.child fileName.toList) es), w) := by
  obtain ⟨es, hm, hl⟩ := h.file
  exact ⟨es, hm, opened_on folder w (FileTree.makeFolders_eq_self h.folders) hl⟩

/-- Whatever clients do, the file holds and they remember what the journal leads to. -/
theorem Share.tracks {m : RegistrationMap} {s : Clients ι} {ns : List (Note ι)}
    (h : Share folder m s ns) :
    Holds folder s.world (Copies.run m ns).file ∧
      Remember (folder.child fileName.toList) s.stores (Copies.run m ns).copy ∧
      Copies.Along Copies.Quiet ⟨m, fun _ => ∅⟩ ns := by
  induction h with
  | @first es before w i hm ho =>
      obtain ⟨-, hfolders, -, hl⟩ := of_opened_on ho
      have hnone : Remember (folder.child fileName.toList) (fun _ : ι => none) fun _ => ∅ := nofun
      refine ⟨⟨(FileTree.hasFolders_of_makeFolders hfolders).2, es, hm, hl⟩, hnone.update rfl ?_ ?_,
        trivial, trivial⟩
      · rw [Copies.run, List.foldl_cons, List.foldl_nil, Copies.copy_opened]
        exact hm
      · intro j hj
        exact Copies.copy_opened_of_ne hj _
  | @opened s ns _ i store w ho ih =>
      obtain ⟨hfile, hstores, hquiet⟩ := ih
      obtain ⟨es, hm, hopen⟩ := hfile.opened
      cases hopen.symm.trans ho
      rw [Copies.run, List.foldl_concat]
      refine ⟨hfile, hstores.update rfl ?_ ?_, Copies.along_append.2 ⟨hquiet, trivial, trivial⟩⟩
      · rw [Copies.copy_opened]
        exact hm
      · intro j hj
        exact Copies.copy_opened_of_ne hj _
  | @acknowledged s ns _ i store hs c a p hc ih =>
      obtain ⟨hfile, hstores, hquiet⟩ := ih
      obtain ⟨es, hm, rfl⟩ := hstores i store hs
      obtain ⟨hanswer, es', hstore, hm', hdisk⟩ := perform_effect hm (c := c) (w := s.world)
        fun f hf => by cases (congrArg Prod.fst hc).symm.trans hf
      rw [hc] at hanswer hstore hdisk
      have hwrites := Call.writes_eq_hasToWrite hanswer.symm
      rw [Copies.run, List.foldl_concat]
      refine ⟨?_, ?_, Copies.along_append.2 ⟨hquiet, ?_, trivial⟩⟩
      · rw [← hwrites] at hdisk
        rw [Copies.after]
        split at hdisk
        · next ha =>
            rw [if_pos ha]
            exact hfile.write hm' hdisk
        · next ha =>
            rw [if_neg ha]
            exact hfile.of_disk_eq hdisk
      · refine hstores.update hstore ?_ ?_
        · rw [Copies.copy_acknowledged]
          exact hm'
        · intro j hj
          exact Copies.copy_acknowledged_of_ne hj _ _ _
      · intro ha
        exact RegistrationMap.after_of_not_hasToWrite (hwrites.symm.trans ha)
  | @refused s ns _ i store hs c f p hc hf ih =>
      obtain ⟨hfile, hstores, hquiet⟩ := ih
      obtain ⟨es, hm, rfl⟩ := hstores i store hs
      obtain ⟨hanswer, es', hstore, hm', hdisk⟩ := perform_effect hm (c := c) (w := s.world)
        fun g hg => by
          cases (congrArg Prod.fst hc).symm.trans hg
          exact hf
      rw [hc] at hanswer hstore hdisk
      have hnone := Call.not_hasToWrite_of_error hanswer.symm
      rw [hnone, if_neg Bool.false_ne_true] at hdisk
      rw [RegistrationMap.after_of_not_hasToWrite hnone] at hm'
      exact ⟨hfile.of_disk_eq hdisk, hstores.update hstore hm' fun _ _ => rfl, hquiet⟩
  | @elsewhere s ns _ w hf hl ih =>
      obtain ⟨⟨-, es, hm, hload⟩, hstores, hquiet⟩ := ih
      exact ⟨⟨hf, es, hm, hl.trans hload⟩, hstores, hquiet⟩

/-- Clients that can come to a journal, and can go on from there since the file can be written. -/
def CanShare (folder : Path) (m : RegistrationMap) (ns : List (Note ι)) : Prop :=
  ∃ s, Share folder m s ns ∧ s.world.disk.IsWritable (folder.child fileName.toList) ∧
    ∀ i, .opened i ∈ ns → (s.stores i).isSome = true

theorem CanShare.opened {ns : List (Note ι)} (h : CanShare folder m ns) (i : ι) :
    CanShare folder m (ns ++ [.opened i]) := by
  obtain ⟨s, hs, hd, hopen⟩ := h
  obtain ⟨es, -, ho⟩ := hs.tracks.1.opened
  refine ⟨_, hs.opened i ho, hd, ?_⟩
  intro j hj
  rw [List.mem_append, List.mem_singleton, Note.opened.injEq] at hj
  exact Clients.isSome_turn (hj.symm.imp_right (hopen j)) _

/-- A client that has opened a store is answered by what it has in memory. -/
theorem CanShare.acknowledged {ns : List (Note ι)} (h : CanShare folder m ns)
    (hi : .opened i ∈ ns) {c : Call Resource} {c' : Call Asked} (hc : ∀ w, c.resolve w = c')
    {a : Answer} (ha : ((Copies.run m ns).copy i).answer c' = .ok a) :
    CanShare folder m (ns ++ [.acknowledged i c' a]) := by
  obtain ⟨s, hs, hd, hopen⟩ := h
  obtain ⟨store, hstore⟩ := Option.isSome_iff_exists.1 (hopen i hi)
  obtain ⟨es, hm, rfl⟩ := hs.tracks.2.1 i store hstore
  obtain ⟨hanswer, es', -, -, hdisk⟩ := perform_effect hm (c := c) (w := s.world)
    (writesThrough_cons.1 (writesThrough_of_isWritable hm hd [c])).1
  rw [hc] at hanswer hdisk
  have hnext := hs.acknowledged hstore (Prod.ext (hanswer.trans ha) rfl)
  rw [hc] at hnext
  refine ⟨_, hnext, ?_, ?_⟩
  · split at hdisk
    · obtain ⟨t, ht, hd'⟩ := hd.write (indexBytes (.ofEntries es'))
      rw [ht] at hdisk
      cases hdisk
      exact hd'
    · rw [← hdisk] at hd
      exact hd
  · intro j hj
    rw [List.mem_append, List.mem_singleton, or_iff_left (fun h => nomatch h)] at hj
    exact Clients.isSome_turn (Or.inr (hopen j hj)) _

theorem canShare_fresh (i : ι) : CanShare ⟨.relative, ["registry".toList]⟩ ∅ [.opened i] := by
  have hopen : (Store.opened ⟨.relative, ["registry".toList]⟩).on World.empty =
      (.ok (ofEntries ((⟨.relative, ["registry".toList]⟩ : Path).child fileName.toList) []),
        freshStart.2) := rfl
  refine ⟨_, .first i .nil hopen, ⟨_, rfl, rfl, rfl, rfl⟩, ?_⟩
  intro j hj
  cases List.mem_singleton.1 hj
  exact Clients.isSome_turn (Or.inl rfl) _

/-- Another store that is opened on a folder which clients share. It has what the client that wrote
last had in memory then: what the file held when that client opened its store, and what its own calls
have made of it. If each change was made by a client that was up to date, this is what all
acknowledged calls lead to, in the order in which they were acknowledged. -/
theorem opened_after_clients {m : RegistrationMap} {s : Clients ι} {ns : List (Note ι)}
    (h : Share folder m s ns) :
    ∃ store, (opened folder).on s.world = (.ok store, s.world) ∧
      ((∀ n ∈ ns, n.writes = false) → store.AnswersAs m) ∧
      (∀ front i between c a back,
        ns = front ++ .opened i :: (between ++ .acknowledged i c a :: back) →
        .opened i ∉ between → c.writes a = true → (∀ n ∈ back, n.writes = false) →
        store.AnswersAs
          ((RegistrationMap.run (Note.callsOf i between) (Copies.run m front).file).2.after c)) ∧
      (Copies.Along Copies.UpToDate ⟨m, fun _ => ∅⟩ ns →
        store.AnswersAs (RegistrationMap.run (Note.calls ns) m).2) := by
  obtain ⟨hfile, -, hquiet⟩ := h.tracks
  obtain ⟨es, hm, hopen⟩ := hfile.opened
  have hanswers := answersAs_ofEntries (folder.child fileName.toList) hm
  refine ⟨_, hopen, ?_, ?_, ?_⟩
  · intro hnone
    rw [Copies.run, Copies.file_foldl_of_not_writes hnone] at hanswers
    exact hanswers
  · rintro front i between c a back rfl ho ha hback
    rw [Copies.run, List.foldl_append, Copies.file_foldl_of_last_write ho ha hback] at hanswers
    exact hanswers
  · intro hu
    rw [Copies.run, Copies.file_foldl hquiet hu] at hanswers
    exact hanswers

/-- Two clients save one registration each. When the second opens its store after the first has saved,
a third store has both. -/
theorem opened_after_clients_in_turn :
    let one : Registration := ⟨.app, "a", "http://a", none⟩
    let two : Registration := ⟨.app, "b", "http://b", none⟩
    let folder : Path := ⟨.relative, ["registry".toList]⟩
    let ns : List (Note Bool) :=
      [.opened false, .acknowledged false (.save one false) (.registration none),
        .opened true, .acknowledged true (.save two false) (.registration none)]
    ∃ s, Share folder ∅ s ns ∧ Copies.Along Copies.UpToDate ⟨∅, fun _ => ∅⟩ ns ∧
      ∃ store, (opened folder).on s.world = (.ok store, s.world) ∧
        store.find .app "a" = .ok (some one) ∧ store.find .app "b" = .ok (some two) := by
  intro one two folder ns
  have hcan : CanShare folder ∅ ns :=
    (((canShare_fresh false).acknowledged (c := .save one false) List.mem_cons_self (fun _ => rfl)
      rfl).opened true).acknowledged (c := .save two false) (by simp) (fun _ => rfl) rfl
  obtain ⟨s, hs, -, -⟩ := hcan
  have hu : Copies.Along Copies.UpToDate ⟨∅, fun _ => ∅⟩ ns :=
    ⟨trivial, fun _ => rfl, trivial, fun _ => rfl, trivial⟩
  obtain ⟨store, hopen, -, -, hall⟩ := opened_after_clients hs
  refine ⟨s, hs, hu, store, hopen, ?_, ?_⟩
  · rw [(hall hu).find]
    rfl
  · rw [(hall hu).find]
    rfl

/-- When both open their stores before either saves, the registration that was saved first is gone. -/
theorem save_of_other_client_is_lost :
    let one : Registration := ⟨.app, "a", "http://a", none⟩
    let two : Registration := ⟨.app, "b", "http://b", none⟩
    let folder : Path := ⟨.relative, ["registry".toList]⟩
    let ns : List (Note Bool) :=
      [.opened false, .opened true, .acknowledged false (.save one false) (.registration none),
        .acknowledged true (.save two false) (.registration none)]
    ∃ s, Share folder ∅ s ns ∧ ∃ store, (opened folder).on s.world = (.ok store, s.world) ∧
      store.find .app "a" = .ok none ∧
      ¬ store.AnswersAs (RegistrationMap.run (Note.calls ns) ∅).2 := by
  intro one two folder ns
  have hcan : CanShare folder ∅ ns :=
    (((canShare_fresh false).opened true).acknowledged (c := .save one false) List.mem_cons_self
      (fun _ => rfl) rfl).acknowledged (c := .save two false) (by simp) (fun _ => rfl) rfl
  obtain ⟨s, hs, -, -⟩ := hcan
  obtain ⟨es, hm, hopen⟩ := hs.tracks.1.opened
  have hfind : (ofEntries (folder.child fileName.toList) es).find .app "a" = .ok none := by
    rw [(answersAs_ofEntries _ hm).find]
    rfl
  refine ⟨s, hs, _, hopen, hfind, ?_⟩
  intro hall
  have hlost := (hall.find .app "a").symm.trans hfind
  cases hlost

end Tracks

end Store

end AppCatalog
