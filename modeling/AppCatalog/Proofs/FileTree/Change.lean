import AppCatalog.Proofs.Assoc
import AppCatalog.Proofs.FileTree

/-!
# What a change of the tree leaves alone

Folders stay when others are made and when files come and go, so a path that leads somewhere goes on
leading there (`KeepsFolders`). A file that is put under a new key stands there once, and goes when
it is removed (`HoldsOnce`). A path below another one leads to a key below the other's
(`resolve_child`).
-/

namespace AppCatalog

theorem Utf8.length_encode_append (cs ds : List Char) :
    (Utf8.encode (cs ++ ds)).length = (Utf8.encode cs).length + (Utf8.encode ds).length := by
  rw [Utf8.encode, List.flatMap_append, List.length_append]
  rfl

/-- The text of a path goes on where a segment stands behind it. -/
theorem Path.text_child (p : Path) (s : List Char) :
    p = ⟨.relative, []⟩ ∨ ∃ rest, (p.child s).text = p.text ++ rest := by
  obtain ⟨anchor, segments⟩ := p
  rcases segments with _ | ⟨first, others⟩
  · cases anchor with
    | relative => exact Or.inl rfl
    | root => exact Or.inr ⟨s, by simp [text, child, Anchor.text, List.intercalate]⟩
    | doubleRoot => exact Or.inr ⟨s, by simp [text, child, Anchor.text, List.intercalate]⟩
  · right
    have hlist : ∀ (x : List Char) (xs : List (List Char)),
        ∃ rest, List.intercalate ['/'] (x :: xs ++ [s]) =
          List.intercalate ['/'] (x :: xs) ++ rest := by
      intro x xs
      induction xs generalizing x with
      | nil => exact ⟨'/' :: s, by simp [List.intercalate, List.intersperse]⟩
      | cons y ys ih =>
          obtain ⟨rest, h⟩ := ih y
          refine ⟨rest, ?_⟩
          simp only [List.intercalate, List.cons_append, List.intersperse_cons_cons,
            List.flatten_cons, List.nil_append, List.append_assoc] at h ⊢
          rw [h]
    obtain ⟨rest, h⟩ := hlist first others
    refine ⟨rest, ?_⟩
    simp only [Path.text, Path.child, List.cons_append, reduceCtorEq, decide_false,
      Bool.and_false, Bool.false_eq_true, if_false, List.append_assoc]
    rw [← List.cons_append, h]

namespace FileTree

variable {t t' t'' : FileTree} {p : Path} {k j : FileKey}

/-! ## Folders -/

theorem KeepsFolders.refl (t : FileTree) : KeepsFolders t t := fun _ h => h

theorem KeepsFolders.trans (h : KeepsFolders t t') (h' : KeepsFolders t' t'') :
    KeepsFolders t t'' := fun k hk => h' k (h k hk)

theorem keepsFolders_of_makeFolders (h : t.makeFolders p = .ok t') : KeepsFolders t t' := by
  have hmade : ∀ (is : List Nat) (t : FileTree), is.foldlM (makeFolder p) t = .ok t' →
      KeepsFolders t t' := by
    intro is
    induction is with
    | nil =>
        intro t h
        cases h
        exact .refl _
    | cons i is ih =>
        intro t h
        rw [List.foldlM_cons] at h
        rcases hi : makeFolder p t i with f | u
        · rw [hi] at h
          cases h
        · rw [hi] at h
          exact (makeFolder_ok hi).2.1.trans (ih u h)
  exact hmade _ t h

/-- A path that leads to a key leads to no other while folders stay. -/
theorem resolve_unique (h : KeepsFolders t t') (hk : t.resolve p = .ok k)
    (hj : t'.resolve p = .ok j) : k = j :=
  Except.ok.inj ((resolve_of_keepsFolders h hk).symm.trans hj)

/-- Where a path leads is up to the folders alone. -/
theorem resolve_eq_ok_iff (h : t'.folders = t.folders) :
    t'.resolve p = .ok k ↔ t.resolve p = .ok k :=
  ⟨resolve_of_keepsFolders (keepsFolders_of_eq h.symm),
    resolve_of_keepsFolders (keepsFolders_of_eq h)⟩

/-! ## Paths below others -/

/-- The key below another one that a segment leads to. -/
theorem descend_ok {segment : List Char} (h : t.descend k segment = .ok j) :
    t.isFolder k = true ∧ (Utf8.encode segment).length ≤ maxName ∧
      j = if segment = up then parentKey k else k ++ [segment] := by
  rw [descend] at h
  split at h
  · next hk =>
      split at h
      · cases h
      · next hl =>
          refine ⟨hk, Nat.le_of_not_lt hl, ?_⟩
          split at h
          · next hs =>
              cases h
              rw [if_pos hs]
          · next hs =>
              cases h
              rw [if_neg hs]
  · split at h <;> cases h

/-- A path is short enough where one below it is. -/
theorem length_lt_of_child {s : List Char} (h : (Utf8.encode (p.child s).text).length < maxPath) :
    (Utf8.encode p.text).length < maxPath := by
  rcases p.text_child s with rfl | ⟨rest, hrest⟩
  · decide
  · rw [hrest, Utf8.length_encode_append] at h
    omega

/-- A path below another one leads below it. -/
theorem resolve_child {s : List Char} (h : t.resolve (p.child s) = .ok k) :
    ∃ j, t.resolve p = .ok j ∧ t.descend j s = .ok k := by
  rw [resolve] at h
  split at h
  · cases h
  · next hl =>
      have hshort := length_lt_of_child (Nat.lt_of_not_le hl)
      rw [Path.child, List.foldlM_append] at h
      rw [resolve, if_neg (Nat.not_le.2 hshort)]
      rcases hj : p.segments.foldlM t.descend (startKey p.anchor) with f | j
      · rw [hj] at h
        cases h
      · rw [hj] at h
        refine ⟨j, rfl, ?_⟩
        change [s].foldlM t.descend j = _ at h
        rw [List.foldlM_cons] at h
        rcases hd : t.descend j s with f | k'
        · rw [hd] at h
          cases h
        · rw [hd] at h
          exact h

/-- A path leads to where its last segment leads from its folder. -/
theorem resolve_child_eq {s : List Char} (hl : (Utf8.encode (p.child s).text).length < maxPath)
    (hj : t.resolve p = .ok j) : t.resolve (p.child s) = t.descend j s := by
  rw [resolve] at hj
  split at hj
  · cases hj
  · rw [resolve, if_neg (Nat.not_le.2 hl), Path.child, List.foldlM_append, hj]
    change [s].foldlM t.descend j = _
    rw [List.foldlM_cons]
    rcases t.descend j s with f | k
    · rfl
    · rfl

theorem length_lt_of_resolve (h : t.resolve p = .ok k) :
    (Utf8.encode p.text).length < maxPath := by
  rw [resolve] at h
  split at h
  · cases h
  · next hl => exact Nat.lt_of_not_le hl

/-- A path that leads somewhere once more folders stand leads there already, if the folder that it
ends in is there. -/
theorem resolve_child_of_folder {s : List Char} (h : t'.resolve (p.child s) = .ok k)
    (hk : KeepsFolders t t') (hj : t.resolve p = .ok j) (hf : t.isFolder j = true) :
    t.resolve (p.child s) = .ok k := by
  obtain ⟨j', hj', hd⟩ := resolve_child h
  obtain rfl := resolve_unique hk hj hj'
  rw [descend, if_pos (hk j hf)] at hd
  rw [resolve_child_eq (length_lt_of_resolve h) hj, descend, if_pos hf]
  exact hd

/-- Where folders have been made, one stands at the end of the path. -/
theorem exists_folder_of_makeFolders (h : t.makeFolders p = .ok t') :
    ∃ k, t'.resolve p = .ok k ∧ t'.isFolder k = true := by
  rcases hs : p.segments.length with _ | n
  · obtain ⟨anchor, segments⟩ := p
    obtain rfl := List.length_eq_zero_iff.1 hs
    cases anchor with
    | relative => exact ⟨[], rfl, rfl⟩
    | root => exact ⟨rootKey, rfl, rfl⟩
    | doubleRoot => exact ⟨rootKey, rfl, rfl⟩
  · obtain ⟨k, hr, hf, -⟩ := (hasFolders_of_makeFolders h).2 n (hs ▸ Nat.lt_succ_self n)
    rw [wayTo, ← hs, List.take_length] at hr
    exact ⟨k, hr, hf⟩

/-- A key that stands in a folder or in one below it. -/
def LiesIn (folder k : FileKey) : Prop :=
  ∃ rest, rest ≠ [] ∧ isInside rest = true ∧ k = folder ++ rest

/-! ## Files that come and go -/

/-- A file stands at a key, and no second time. -/
def HoldsOnce (t : FileTree) (k : FileKey) : Prop := Assoc.HasOnce k t.files

theorem bytesAt?_eq_none_iff : t.bytesAt? k = none ↔ k ∉ Assoc.keys t.files :=
  Assoc.get?_eq_none_iff

theorem bytesAt?_put (t : FileTree) (k j : FileKey) (bytes : Bytes) :
    (t.put k bytes).bytesAt? j = if k = j then some bytes else t.bytesAt? j :=
  Assoc.get?_insert k j bytes t.files

theorem bytesAt?_remove_of_ne (h : k ≠ j) : (t.remove k).bytesAt? j = t.bytesAt? j :=
  Assoc.get?_erase_of_ne h t.files

/-- A new file that is removed again leaves the tree as it was. -/
theorem remove_put (h : t.bytesAt? k = none) (bytes : Bytes) : (t.put k bytes).remove k = t := by
  rw [remove, put, Assoc.erase_insert_of_notMem (bytesAt?_eq_none_iff.1 h)]

theorem holdsOnce_put (h : t.bytesAt? k = none) (bytes : Bytes) : (t.put k bytes).HoldsOnce k :=
  Assoc.hasOnce_insert_of_notMem (bytesAt?_eq_none_iff.1 h) bytes

/-- A file that stands once is gone when it is removed. -/
theorem HoldsOnce.bytesAt?_remove (h : t.HoldsOnce k) : (t.remove k).bytesAt? k = none :=
  Assoc.HasOnce.get?_erase_self h

theorem mem_keys_of_remove (h : (t.remove j).bytesAt? k ≠ none) : t.bytesAt? k ≠ none := by
  rw [Ne, bytesAt?_eq_none_iff, not_not] at h ⊢
  exact ((Assoc.erase_sublist j t.files).map Prod.fst).subset h

/-- Every file stands in a folder. -/
def Grounded (t : FileTree) : Prop :=
  ∀ k segment, t.bytesAt? (k ++ [segment]) ≠ none → t.isFolder k = true

theorem Grounded.keepsFolders (h : t.Grounded) (hk : KeepsFolders t t')
    (hf : ∀ k, t'.bytesAt? k ≠ none → t.bytesAt? k ≠ none) : t'.Grounded :=
  fun k segment hb => hk k (h k segment (hf _ hb))

theorem Grounded.put (h : t.Grounded) (hk : t.isFolder k = true) (segment : List Char)
    (bytes : Bytes) : (t.put (k ++ [segment]) bytes).Grounded := by
  intro j segment' hb
  rw [bytesAt?_put] at hb
  split at hb
  · next heq =>
      obtain ⟨rfl, -⟩ := List.append_inj' heq rfl
      exact hk
  · exact h j segment' hb

/-- A write changes what stands at one key at most, the key that its path leads to. -/
theorem write_effect (t : FileTree) (p : Path) (bytes : Bytes) :
    (t.write p bytes).2.folders = t.folders ∧ ∀ j, t.resolve p ≠ .ok j →
      (t.write p bytes).2.bytesAt? j = t.bytesAt? j := by
  have hput : ∀ k held, t.resolve p = .ok k → ∀ j, t.resolve p ≠ .ok j →
      (t.put k held).bytesAt? j = t.bytesAt? j := by
    intro k held hk j hj
    rw [bytesAt?_put, if_neg]
    rintro rfl
    exact hj hk
  rw [write]
  split
  · exact ⟨rfl, fun _ _ => rfl⟩
  · next k hk =>
      split
      · exact ⟨rfl, fun _ _ => rfl⟩
      · split
        · exact ⟨rfl, fun _ _ => rfl⟩
        · split
          · exact ⟨rfl, hput k bytes hk⟩
          · split
            · exact ⟨rfl, hput k bytes hk⟩
            · exact ⟨rfl, hput k _ hk⟩

/-! ## Files that can be read -/

/-- A path leads to a file with some bytes, and can be read. -/
def Holds (t : FileTree) (p : Path) (bytes : Bytes) : Prop :=
  ∃ k, t.resolve p = .ok k ∧ t.bytesAt? k = some bytes

theorem Holds.read {bytes : Bytes} (h : t.Holds p bytes) : t.read p = .ok bytes := by
  obtain ⟨k, hr, hb⟩ := h
  simp only [FileTree.read, hr, bind, Except.bind, hb]

theorem isFile_iff_holds : t.isFile p = .ok true ↔ ∃ bytes, t.Holds p bytes := by
  rw [isFile]
  rcases hr : t.resolve p with fault | k
  · refine iff_of_false ?_ ?_
    · cases fault <;> simp
    · rintro ⟨bytes, k, hk, -⟩
      cases hr.symm.trans hk
  · simp only [Except.ok.injEq, Option.isSome_iff_exists]
    constructor
    · rintro ⟨bytes, hb⟩
      exact ⟨bytes, k, hr, hb⟩
    · rintro ⟨bytes, k', hk, hb⟩
      cases hr.symm.trans hk
      exact ⟨bytes, hb⟩

/-- A file goes on being there while folders stay and its own key is left alone. -/
theorem Holds.keepsFolders {bytes : Bytes} (h : t.Holds p bytes) (hk : KeepsFolders t t')
    (hf : ∀ k, t.resolve p = .ok k → t.bytesAt? k = some bytes → t'.bytesAt? k = some bytes) :
    t'.Holds p bytes := by
  obtain ⟨k, hr, hb⟩ := h
  exact ⟨k, resolve_of_keepsFolders hk hr, hf k hr hb⟩

end FileTree

end AppCatalog
