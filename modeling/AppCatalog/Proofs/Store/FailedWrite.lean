import AppCatalog.Proofs.Json.Cut
import AppCatalog.Proofs.Store.Reached

/-!
# Writes that fail

A call that changes a store changes memory first and writes the file afterwards, straight over what
it holds. If the file cannot be opened it stays as it is; if the room gives out it holds the front
part of the new index, and that is the text of no index (`readIndex_cut`). In either case the call
fails and memory keeps the change, so that the store goes on as if the call had succeeded
(`failedWrite_leaves`).
-/

namespace AppCatalog

open AppCatalog.Registration

namespace FileTree

variable {t t' : FileTree} {p : Path}

theorem resolve_ne_noSpace {fault : OsFault} (h : t.resolve p = .error fault) :
    fault ≠ .noSpace := by
  have hwalk : ∀ (segments : List (List Char)) (k : FileKey),
      segments.foldlM t.descend k = .error fault → fault ≠ .noSpace := by
    intro segments
    induction segments with
    | nil =>
        intro k hk
        cases hk
    | cons segment segments ih =>
        intro k hk
        rw [List.foldlM_cons] at hk
        rcases hd : t.descend k segment with f | k'
        · rw [hd] at hk
          cases hk
          rw [descend] at hd
          split at hd
          · split at hd
            · cases hd
              decide
            · split at hd <;> cases hd
          · split at hd <;> cases hd <;> decide
        · rw [hd] at hk
          exact ih k' hk
  rw [resolve] at h
  split at h
  · cases h
    decide
  · exact hwalk _ _ h

/-- A write that fails has not opened the file and leaves all as it is, or the room has given out
and the file holds the front part of the bytes. -/
theorem write_error {bytes : Bytes} {fault : OsFault} (h : t.write p bytes = (.error fault, t')) :
    (fault ≠ .noSpace ∧ t' = t) ∨
      fault = .noSpace ∧ ∃ n < bytes.length, t'.read p = .ok (bytes.take n) := by
  rw [write] at h
  split at h
  · next hr =>
      cases h
      exact Or.inl ⟨resolve_ne_noSpace hr, rfl⟩
  · next k hr =>
      split at h
      · cases h
        exact Or.inl ⟨by decide, rfl⟩
      split at h
      · cases h
        exact Or.inl ⟨by decide, rfl⟩
      split at h
      · cases h
      · next room _ =>
          split at h
          · cases h
          · next hroom =>
              cases h
              refine Or.inr ⟨rfl, room, Nat.lt_of_not_le hroom, ?_⟩
              have hkeeps : KeepsFolders t { t.put k (bytes.take room) with room := some 0 } :=
                keepsFolders_of_eq rfl
              have hk : bytesAt? { t.put k (bytes.take room) with room := some 0 } k =
                  some (bytes.take room) := by
                rw [bytesAt?, put, Assoc.get?_insert_self]
              simp only [read, resolve_of_keepsFolders hkeeps hr, bind, Except.bind, hk]

end FileTree

/-! ## What is left of an index -/

theorem Json.unfinished_ofOption (l : Limits) (level : Nat) (o : Option String) :
    Unfinished l level (.ofOption o) := by
  cases o with
  | none => exact unfinished_null l level
  | some s => exact unfinished_str l level s

theorem Index.unfinished_encode {l l' : Json.Limits} (hl : l.deeper? = some l') (level : Nat)
    (r : Registration) : (encode r).Unfinished l level := by
  apply Json.unfinished_obj hl
  intro f hf
  simp only [List.mem_cons, List.not_mem_nil, or_false] at hf
  rcases hf with rfl | rfl | rfl | rfl
  · exact ⟨Json.readsBack_str _ _ _, Json.unfinished_str _ _ _⟩
  · exact ⟨Json.readsBack_str _ _ _, Json.unfinished_str _ _ _⟩
  · exact ⟨Json.readsBack_str _ _ _, Json.unfinished_str _ _ _⟩
  · exact ⟨Json.readsBack_ofOption _ _ _, Json.unfinished_ofOption _ _ _⟩

theorem Index.unfinished_ofEntries (es : Entries) :
    (ofEntries es).toJson.Unfinished .standard 0 := by
  refine Json.unfinished_obj rfl fun f hf => ?_
  obtain ⟨e, -, rfl⟩ := List.mem_map.1 hf
  exact ⟨readsBack_encode rfl _ _, unfinished_encode rfl _ _⟩

namespace Store

/-- The front part of the bytes of an index is no index. -/
theorem readIndex_cut {es : Entries} {n : Nat}
    (hn : n < (indexBytes (.ofEntries es)).length) :
    readIndex ((indexBytes (.ofEntries es)).take n) = .error (.breakdown .malformedJson) := by
  have hu := Index.unfinished_ofEntries es
  have hascii : ∀ c ∈ (Index.ofEntries es).toJson.pretty, c.toNat < 0x80 := hu.ascii
  have hn' : n < (Index.ofEntries es).toJson.pretty.length := by
    rw [indexBytes, Utf8.encode_ascii hascii, List.length_map] at hn
    exact hn
  have hread := Json.read_cut_pretty (Index.readsBack_ofEntries es) hu (IsCut.take hn')
  rw [indexBytes, Utf8.take_encode hascii, readIndex, Utf8.decode?_encode]
  simp only [hread]

end Store

/-! ## Calls -/

namespace RegistrationMap

open AppCatalog.Store (Call Asked)

/-- Whether a call has a change to write. -/
def hasToWrite : Call Asked → RegistrationMap → Bool
  | .save r overwrite, m => overwrite || (m.lookup r.key).isNone
  | .delete type name, m => (m.lookup (type, name)).isSome
  | .importAll force (.ok rs), m => !(m.putAll force rs).1.isEmpty
  | _, _ => false

end RegistrationMap

namespace Store

/-- The result of an operation that puts the index of some entries in memory and then writes it: it
fails if the write does. -/
structure WritesOut {α : Type} (file : Path) (es : Entries) (w : World)
    (result : Except Failure α × (Store × World)) : Prop where
  store : result.2.1 = ofEntries file es
  disk : result.2.2.disk = (w.disk.write file (indexBytes (.ofEntries es))).2
  fails : ∀ fault, (w.disk.write file (indexBytes (.ofEntries es))).1 = .error fault →
    result.1 = .error (.breakdown (.os fault))

section Calls

variable {α β : Type} {file : Path} {es es' : Entries} {w v : World} {m : RegistrationMap}

theorem writesOut_written (hd : v.disk = w.disk) (a : α) :
    WritesOut file es w ((written file es v).1.map fun _ => a, (written file es v).2) := by
  rw [written, writeIndex_on, hd]
  refine ⟨rfl, rfl, ?_⟩
  intro fault hf
  change ((w.disk.write file (indexBytes (.ofEntries es))).1.mapError _).map _ = _
  rw [hf]
  rfl

theorem WritesOut.map {change : Action α} {p : Store × World}
    (h : WritesOut file es w (change.on p)) (answer : α → β) :
    WritesOut file es w ((answer <$> change).on p) := by
  rw [Run.on_map]
  refine ⟨h.store, h.disk, ?_⟩
  intro fault hf
  rw [h.fails fault hf]
  rfl

/-- An import puts its registrations and writes, whatever it notes in the log. -/
theorem importAll_writesOut {force : Bool} {resource : Resource} {rs : List Registration}
    (ha : (asked resource).on w = (.ok rs, v)) (hs : (es.putAll force rs).1 ≠ []) :
    WritesOut file (es.putAll force rs).2 w
      ((importAll force resource).on (ofEntries file es, w)) := by
  have hv : v.disk = w.disk := by
    obtain ⟨urls, hu⟩ := asked_keeps w resource
    rw [ha] at hu
    rw [show v = _ from hu]
  obtain ⟨lines, hl⟩ := importRegistrations_on file es v hs
  have hw : WritesOut file (es.putAll force rs).2 w
      ((importRegistrations force rs).on (ofEntries file es, v)) := by
    rw [hl]
    exact writesOut_written (v := { v with log := v.log ++ lines }) hv _
  obtain ⟨hresult, hstore, hdisk⟩ := importAll_outcome (ofEntries file es, w) force ha
  refine ⟨hstore.trans hw.store, hdisk.trans hw.disk, ?_⟩
  intro fault hf
  exact hresult.trans (hw.fails fault hf)

/-- A call that has a change to write puts it in memory and then writes it. -/
theorem perform_writesOut (file : Path) (h : es.Represents m) {c : Call Resource}
    (hc : m.hasToWrite (c.resolve w) = true) :
    ∃ es', es'.Represents (m.after (c.resolve w)) ∧
      WritesOut file es' w (c.perform.on (ofEntries file es, w)) := by
  cases c with
  | save r overwrite =>
      rw [Call.resolve, RegistrationMap.hasToWrite] at hc
      have hr : overwrite = true ∨ Assoc.get? r.key es = none := by
        rw [Bool.or_eq_true, Option.isNone_iff_eq_none, h.lookup] at hc
        exact hc
      refine ⟨es.put r, ?_, ?_⟩
      · rw [Call.resolve, RegistrationMap.after, if_pos hc]
        exact h.put r
      · refine WritesOut.map ?_ Answer.registration
        rw [save_on file es w hr]
        exact writesOut_written rfl _
  | delete type name =>
      rw [Call.resolve, RegistrationMap.hasToWrite, ← h.contains] at hc
      refine ⟨_, h.erase (type, name), ?_⟩
      refine WritesOut.map ?_ Answer.flag
      rw [delete_on file es w hc]
      exact writesOut_written rfl _
  | importAll force resource =>
      rw [Call.resolve] at hc ⊢
      rcases ha : (asked resource).on w with ⟨f | rs, v⟩
      · rw [ha] at hc
        cases hc
      · rw [ha] at hc
        obtain ⟨hsaved, hafter⟩ := h.putAll force rs
        refine ⟨_, hafter, WritesOut.map (importAll_writesOut ha ?_) Answer.registrations⟩
        rw [RegistrationMap.hasToWrite, ← hsaved, Bool.not_eq_true',
          List.isEmpty_eq_false_iff] at hc
        exact hc
  | _ => cases hc

/-- The index that is loaded after a write that failed: the one before, or none. -/
theorem loadIndex_write_error {fault : OsFault}
    (hf : (w.disk.write file (indexBytes (.ofEntries es))).1 = .error fault)
    (hv : v.disk = (w.disk.write file (indexBytes (.ofEntries es))).2) :
    (fault ≠ .noSpace → v.disk = w.disk) ∧
    ((loadIndex file).on v).1 =
      if fault = .noSpace then .error (.breakdown .malformedJson)
      else ((loadIndex file).on w).1 := by
  have hwrite : w.disk.write file (indexBytes (.ofEntries es)) = (.error fault, v.disk) :=
    Prod.ext hf hv.symm
  rcases FileTree.write_error hwrite with ⟨hne, hsame⟩ | ⟨rfl, n, hlt, hread⟩
  · refine ⟨fun _ => hsame, ?_⟩
    rw [if_neg hne, loadIndex_on, loadIndex_on, hsame]
    rcases w.disk.isThere file with f | _ | _
    · rfl
    · rfl
    · rcases w.disk.read file with f | bytes <;> rfl
  · refine ⟨fun hne => absurd rfl hne, ?_⟩
    rw [if_pos rfl, loadIndex_on, FileTree.isThere_of_read hread, hread]
    exact readIndex_cut hlt

end Calls

theorem ofEntry_injective (k : AppType × String) :
    Function.Injective fun p : String × Option String => ofEntry (k, p) := by
  intro p p' h
  exact congrArg Registration.place h

/-- The entries of a store that answers as a map does say what the map says. -/
theorem AnswersAs.represents {file : Path} {es : Entries} {m : RegistrationMap}
    (h : (ofEntries file es).AnswersAs m) (hn : (Assoc.keys es).Nodup) :
    Entries.Represents es m := by
  refine ⟨hn, ?_⟩
  intro k
  have hk : (Index.ofEntries es).find k.1 k.2 = .ok (m.registration? k) := h.find k.1 k.2
  rw [Index.find_ofEntries] at hk
  exact Option.map_injective (ofEntry_injective k) (Except.ok.inj hk).symm

/-- Stores with the same registrations answer as the same map. -/
theorem AnswersAs.eq_of_find {s s' : Store} {m m' : RegistrationMap} (h : s.AnswersAs m)
    (h' : s'.AnswersAs m') (hf : s'.find = s.find) : m' = m := by
  refine Finmap.ext_lookup fun k => ?_
  have hk : s.find k.1 k.2 = .ok (m'.registration? k) := hf ▸ h'.find k.1 k.2
  rw [h.find] at hk
  exact Option.map_injective (ofEntry_injective k) (Except.ok.inj hk).symm

/-- A call whose write fails ends in the fault of the disk, but memory keeps what it has changed:
the store answers as after a call that succeeds. The file loads as before if it could not be opened,
and not at all if the write broke off. So all is as before the call exactly if the file could not be
opened and the call had nothing new to say. -/
theorem failedWrite_leaves {s : Store} (hs : s.Reached) {m : RegistrationMap} (hm : s.AnswersAs m)
    {w : World} {c : Call Resource} (hc : m.hasToWrite (c.resolve w) = true) {fault : OsFault}
    (hf : (w.disk.write s.file (indexBytes (c.perform.on (s, w)).2.1.index)).1 = .error fault) :
    let q := (c.perform.on (s, w)).2
    let m' := m.after (c.resolve w)
    (c.perform.on (s, w)).1 = .error (.breakdown (.os fault)) ∧
    q.1.AnswersAs m' ∧
    (fault ≠ .noSpace → q.2.disk = w.disk) ∧
    ((loadIndex q.1.file).on q.2).1 =
      (if fault = .noSpace then .error (.breakdown .malformedJson)
        else ((loadIndex s.file).on w).1) ∧
    ∀ i, ((loadIndex s.file).on w).1 = .ok i →
      ((q.1.find = s.find ∧ q.1.all = s.all ∧ q.1.count = s.count ∧
          ((loadIndex q.1.file).on q.2).1 = .ok i) ↔
        fault ≠ .noSpace ∧ m' = m) := by
  intro q m'
  obtain ⟨es, hn, hes⟩ := hs.exists_entries
  have hrep : Entries.Represents es m := AnswersAs.represents (hes ▸ hm) hn
  obtain ⟨es', hrep', hw⟩ := perform_writesOut s.file hrep hc
  rw [← hes] at hw
  rw [hw.store] at hf
  have hstore : q.1 = ofEntries s.file es' := hw.store
  have hq : q.1.AnswersAs m' := by
    rw [hstore]
    exact answersAs_ofEntries s.file hrep'
  have hfile : q.1.file = s.file := by
    rw [hstore]
    rfl
  obtain ⟨hdisk, hload⟩ := loadIndex_write_error hf hw.disk
  rw [hfile]
  refine ⟨hw.fails fault hf, hq, hdisk, hload, ?_⟩
  intro i hi
  rw [show ((loadIndex s.file).on q.2).1 = _ from hload, hi]
  constructor
  · rintro ⟨hfind, -, -, hsame⟩
    refine ⟨?_, hm.eq_of_find hq hfind⟩
    rintro rfl
    cases hsame
  · rintro ⟨hne, hsame⟩
    rw [show m' = m from hsame] at hq
    refine ⟨?_, ?_, ?_, if_neg hne⟩
    · funext type name
      rw [hq.find, hm.find]
    · rw [hq.all, hm.all]
    · rw [hq.count, hm.count]

/-- On a disk with room for ten more bytes a registration is refused, found, and lost. -/
theorem failedWrite_full_disk :
    let r : Registration := ⟨.app, "a", "http://a", none⟩
    let c : Call Resource := .save r false
    let w : World := { freshStart.2 with disk := { freshStart.2.disk with room := some 10 } }
    let q := (c.perform.on (freshStart.1, w)).2
    freshStart.1.Reached ∧ freshStart.1.AnswersAs ∅ ∧
    RegistrationMap.hasToWrite (c.resolve w) ∅ = true ∧
    (w.disk.write freshStart.1.file (indexBytes q.1.index)).1 = .error .noSpace ∧
    (c.perform.on (freshStart.1, w)).1 = .error (.breakdown (.os .noSpace)) ∧
    freshStart.1.find .app "a" = .ok none ∧ q.1.find .app "a" = .ok (some r) ∧
    ((loadIndex freshStart.1.file).on w).1 = .ok .empty ∧
    ((loadIndex q.1.file).on q.2).1 = .error (.breakdown .malformedJson) := by
  intro r c w
  dsimp only
  have ho : OpenedEmpty ⟨.relative, ["registry".toList]⟩ World.empty freshStart := ⟨rfl, rfl⟩
  have hm : freshStart.1.AnswersAs ∅ := answersAs_ofEntries _ .nil
  have hc : RegistrationMap.hasToWrite (c.resolve w) ∅ = true := rfl
  have hf : (w.disk.write freshStart.1.file
      (indexBytes (c.perform.on (freshStart.1, w)).2.1.index)).1 = .error .noSpace := by
    decide +kernel
  have hnone : w.disk.isThere freshStart.1.file = .ok false := rfl
  have hbefore : ((loadIndex freshStart.1.file).on w).1 = .ok .empty := by
    rw [loadIndex_on, hnone]
  obtain ⟨hfails, hq, -, hload, -⟩ := failedWrite_leaves (.opened ho) hm hc hf
  have hlisted : RegistrationMap.registration? (RegistrationMap.after (c.resolve w) ∅) (.app, "a") =
      some r := rfl
  rw [if_pos rfl] at hload
  exact ⟨.opened ho, hm, hc, hf, hfails, rfl, (hq.find .app "a").trans (congrArg _ hlisted),
    hbefore, hload⟩

end Store

end AppCatalog
