import AppCatalog.Proofs.Json.RoundTrip
import AppCatalog.Proofs.Store.Refinement
import AppCatalog.Proofs.Text.Bytes

/-!
# The file mirrors memory

The bytes that a store writes for its index read back as the index (`readIndex_indexBytes`). Since
every call either leaves memory and disk as they are or writes what it leaves in memory, the file
holds the entries at each moment, and as long as there is no file there are no entries (`Mirrored`).
Opening the store again then gives the store that is there, so that a client that does so between its
calls gets the answers of one that never does (`runSteps_eq_runCalls`).
-/

namespace AppCatalog

open AppCatalog.Registration

/-! ## The bytes of an index -/

theorem Json.readsBack_ofOption (l : Limits) (level : Nat) (o : Option String) :
    ReadsBack l level (.ofOption o) := by
  cases o with
  | none => exact readsBack_null l level
  | some s => exact readsBack_str l level s

theorem Json.merged_ofOption (o : Option String) : (ofOption o).merged = ofOption o := by
  cases o <;> rfl

namespace Index

theorem readsBack_encode {l l' : Json.Limits} (hl : l.deeper? = some l') (level : Nat)
    (r : Registration) : (encode r).ReadsBack l level := by
  apply Json.readsBack_obj hl
  intro f hf
  simp only [List.mem_cons, List.not_mem_nil, or_false] at hf
  rcases hf with rfl | rfl | rfl | rfl
  · exact Json.readsBack_str _ _ _
  · exact Json.readsBack_str _ _ _
  · exact Json.readsBack_str _ _ _
  · exact Json.readsBack_ofOption _ _ _

theorem merged_encode (r : Registration) : (encode r).merged = encode r := by
  apply Json.merged_obj
  · change ["name", "type", "uri", "metadata_uri"].Nodup
    decide
  · intro f hf
    simp only [List.mem_cons, List.not_mem_nil, or_false] at hf
    rcases hf with rfl | rfl | rfl | rfl
    · rfl
    · rfl
    · rfl
    · exact Json.merged_ofOption _

theorem readsBack_ofEntries (es : Entries) : (ofEntries es).toJson.ReadsBack .standard 0 := by
  refine Json.readsBack_obj rfl fun f hf => ?_
  obtain ⟨e, -, rfl⟩ := List.mem_map.1 hf
  exact readsBack_encode rfl _ _

theorem merged_ofEntries {es : Entries} (h : (Assoc.keys es).Nodup) :
    (ofEntries es).toJson.merged = (ofEntries es).toJson := by
  refine Json.merged_obj (Assoc.nodup_keys_mapEntries idOf_injective _ h) fun f hf => ?_
  obtain ⟨e, -, rfl⟩ := List.mem_map.1 hf
  exact merged_encode _

end Index

namespace Store

/-- The bytes of an index read back as the index, in keys, order and every field. -/
theorem readIndex_indexBytes {es : Entries} (h : (Assoc.keys es).Nodup) :
    readIndex (indexBytes (.ofEntries es)) = .ok (.ofEntries es) := by
  rw [readIndex, indexBytes, Utf8.decode?_encode]
  simp only [Json.read_pretty (Index.readsBack_ofEntries es) (Index.merged_ofEntries h)]
  rfl

/-! ## Memory and disk -/

/-- A disk on which the folders of a store stand and its file holds some entries. Before the first
write there is no file and nothing has changed since the store was opened. -/
structure Mirrored (folder : Path) (start : FileTree) (es : Entries) (t : FileTree) : Prop where
  folders : t.HasFolders folder
  holds :
    (t.isThere (folder.child fileName.toList) = .ok false ∧ es = [] ∧ t = start) ∨
      (t.isThere (folder.child fileName.toList) = .ok true ∧
        t.read (folder.child fileName.toList) = .ok (indexBytes (.ofEntries es)))

section Mirrored

variable {folder : Path} {start t t' : FileTree} {es es' : Entries}

theorem Mirrored.leaves (h : Mirrored folder start es t)
    (hl : Leaves (folder.child fileName.toList) es t es' t') : Mirrored folder start es' t' := by
  cases hl with
  | same => exact h
  | written ht =>
      refine ⟨h.folders.write ht, Or.inr ⟨?_, ?_⟩⟩
      · exact FileTree.isThere_of_write ht
      · exact FileTree.read_of_write ht

theorem Mirrored.loadIndex_on {w : World} (h : Mirrored folder start es w.disk)
    (hn : (Assoc.keys es).Nodup) :
    (loadIndex (folder.child fileName.toList)).on w = (.ok (.ofEntries es), w) := by
  rw [Store.loadIndex_on]
  rcases h.holds with ⟨ht, rfl, -⟩ | ⟨ht, hr⟩
  · rw [ht]
    rfl
  · rw [ht, hr]
    simp only
    rw [readIndex_indexBytes hn]

/-- Opening a store again where the disk mirrors it gives the store, and changes nothing. -/
theorem Mirrored.opened_on {w : World} (h : Mirrored folder start es w.disk)
    (hn : (Assoc.keys es).Nodup) :
    (opened folder).on w = (.ok (ofEntries (folder.child fileName.toList) es), w) :=
  Store.opened_on folder w (FileTree.makeFolders_eq_self h.folders)
    (congrArg Prod.fst (h.loadIndex_on hn))

end Mirrored

/-- A store that is opened where a file holds the index of some entries holds these entries. -/
theorem eq_ofEntries_of_opened {folder : Path} {w w' : World} {s : Store} {es : Entries}
    (ho : (opened folder).on w = (.ok s, w')) (hn : (Assoc.keys es).Nodup)
    (hr : w'.disk.read s.file = .ok (indexBytes (.ofEntries es))) : s = ofEntries s.file es := by
  obtain ⟨-, -, -, hi⟩ := of_opened_on ho
  rw [Store.loadIndex_on, FileTree.isThere_of_read hr, hr] at hi
  simp only [readIndex_indexBytes hn] at hi
  rw [ofEntries, Except.ok.inj hi]

theorem OpenedEmpty.mirrored {folder : Path} {before : World} {p : Store × World}
    (h : OpenedEmpty folder before p) :
    p = (ofEntries (folder.child fileName.toList) [], p.2) ∧
      Mirrored folder p.2.disk [] p.2.disk := by
  obtain ⟨hfile, hfolders, -, -⟩ := of_opened_on h.opened
  have hnone := h.no_file
  rw [hfile] at hnone
  refine ⟨?_, (FileTree.hasFolders_of_makeFolders hfolders).2, Or.inl ⟨hnone, rfl, rfl⟩⟩
  rw [← hfile]
  exact h.eq_ofEntries

/-! ## Runs with the store opened again -/

/-- A step of a client: a call, or opening the store again. -/
inductive Step where
  | call (c : Call Resource)
  | reopen

/-- The calls of a client. -/
def Step.calls : List Step → List (Call Resource)
  | [] => []
  | call c :: ss => c :: calls ss
  | reopen :: ss => calls ss

/-- Takes steps one after another. When the store cannot be opened again there is nothing more to
call. -/
def runSteps (folder : Path) :
    List Step → Store × World → Except Failure (List (Except Failure Answer) × (Store × World))
  | [], p => .ok ([], p)
  | .call c :: ss, p =>
    (runSteps folder ss (c.perform.on p).2).map fun q => ((c.perform.on p).1 :: q.1, q.2)
  | .reopen :: ss, p =>
    match (opened folder).on p.2 with
    | (.ok s, w) => runSteps folder ss (s, w)
    | (.error f, _) => .error f

section Runs

variable {folder : Path} {start : FileTree} {es : Entries} {w : World} {m : RegistrationMap}

/-- At the end of a run the disk mirrors the entries in memory. -/
theorem runCalls_mirrored (h : es.Represents m) (hd : Mirrored folder start es w.disk)
    {calls : List (Call Resource)}
    (hw : WritesThrough calls (ofEntries (folder.child fileName.toList) es, w)) :
    ∃ es' w', (runCalls calls (ofEntries (folder.child fileName.toList) es, w)).2 =
        (ofEntries (folder.child fileName.toList) es', w') ∧
      (Assoc.keys es').Nodup ∧ Mirrored folder start es' w'.disk := by
  induction calls generalizing es w m with
  | nil => exact ⟨es, w, rfl, h.nodup, hd⟩
  | cons c cs ih =>
      obtain ⟨hc, hcs⟩ := writesThrough_cons.1 hw
      obtain ⟨es', w', hr, hm, hl⟩ := perform_refines h c hc
      rw [hr] at hcs
      rw [runCalls, hr]
      exact ih hm (hd.leaves hl) hcs

/-- Opening the store again in between makes no difference. -/
theorem runSteps_eq_of_mirrored (h : es.Represents m) (hd : Mirrored folder start es w.disk)
    {steps : List Step}
    (hw : WritesThrough (Step.calls steps) (ofEntries (folder.child fileName.toList) es, w)) :
    runSteps folder steps (ofEntries (folder.child fileName.toList) es, w) =
      .ok (runCalls (Step.calls steps) (ofEntries (folder.child fileName.toList) es, w)) := by
  induction steps generalizing es w m with
  | nil => rfl
  | cons step steps ih =>
      cases step with
      | call c =>
          obtain ⟨hc, hcs⟩ := writesThrough_cons.1 hw
          obtain ⟨es', w', hr, hm, hl⟩ := perform_refines h c hc
          rw [hr] at hcs
          rw [runSteps, Step.calls, runCalls, hr, ih hm (hd.leaves hl) hcs]
          rfl
      | reopen =>
          rw [runSteps, hd.opened_on h.nodup]
          exact ih h hd hw

end Runs

/-- The index file mirrors memory. After any run of calls that could write from an empty folder on,
loading the file gives the index in memory; there is no file only if nothing was ever written and
nothing is registered, and otherwise the bytes of the file read back as the index. Opening the store
again, at whatever points of the run, changes no answer and nothing that is left. -/
theorem runSteps_eq_runCalls {folder : Path} {before : World} {p : Store × World}
    (ho : OpenedEmpty folder before p) {steps : List Step}
    (hw : WritesThrough (Step.calls steps) p) :
    let q := (runCalls (Step.calls steps) p).2
    (loadIndex q.1.file).on q.2 = (.ok q.1.index, q.2) ∧
    ((q.2.disk.isThere q.1.file = .ok false ∧ q.1.index = .empty ∧ q.2.disk = p.2.disk) ∨
      ∃ bytes, q.2.disk.isThere q.1.file = .ok true ∧ q.2.disk.read q.1.file = .ok bytes ∧
        readIndex bytes = .ok q.1.index) ∧
    runSteps folder steps p = .ok (runCalls (Step.calls steps) p) := by
  obtain ⟨hp, hd⟩ := ho.mirrored
  intro q
  have hrun := runSteps_eq_of_mirrored (w := p.2) .nil hd (hp ▸ hw)
  rw [← hp] at hrun
  obtain ⟨es, w, hq, hn, hd'⟩ := runCalls_mirrored (w := p.2) .nil hd (hp ▸ hw)
  rw [← hp] at hq
  rw [show q = _ from hq]
  refine ⟨hd'.loadIndex_on hn, ?_, hrun⟩
  rcases hd'.holds with ⟨ht, rfl, hsame⟩ | ⟨ht, hr⟩
  · exact Or.inl ⟨ht, rfl, hsame⟩
  · exact Or.inr ⟨_, ht, hr, readIndex_indexBytes hn⟩

/-- A client that opens its store again after each call. -/
theorem runSteps_reopened :
    let one : Registration := ⟨.app, "a/b", "http://a", some "http://m"⟩
    let two : Registration := ⟨.task, "é\n", "http://b", none⟩
    let steps : List Step :=
      [.call (.save one false), .reopen, .call (.save two false), .reopen, .call .all]
    OpenedEmpty ⟨.relative, ["registry".toList]⟩ World.empty freshStart ∧
    WritesThrough (Step.calls steps) freshStart ∧
    runSteps ⟨.relative, ["registry".toList]⟩ steps freshStart =
      .ok (runCalls [.save one false, .save two false, .all] freshStart) := by
  intro one two steps
  have ho : OpenedEmpty ⟨.relative, ["registry".toList]⟩ World.empty freshStart := ⟨rfl, rfl⟩
  have hw : WritesThrough (Step.calls steps) freshStart :=
    writesThrough_of_isWritable Entries.Represents.nil ⟨_, rfl, rfl, rfl, rfl⟩ _
  exact ⟨ho, hw, (runSteps_eq_runCalls ho hw).2.2⟩

end Store

end AppCatalog
