import AppCatalog.Proofs.FileTree.Change

/-!
# Trees that are the same outside a folder

Two trees may differ in one folder only. A path that passes nothing in this folder leads to the same
in both, and what is read and written there is the same (`SameOutside.resolve`, `SameOutside.write`).
A folder is made below another one without any other change (`makeFolders_child`).
-/

namespace AppCatalog

namespace FileTree

variable {t u u' : FileTree} {p : Path} {folder k j : FileKey}

/-! ## The way of a path -/

/-- The key that a segment leads to from another one. -/
def below (k : FileKey) (segment : List Char) : FileKey :=
  if segment = up then parentKey k else k ++ [segment]

/-- The keys that a path passes, from the one it begins at to the one it names. -/
def keysOf (p : Path) : List FileKey := p.segments.scanl below (startKey p.anchor)

/-- A path passes nothing that lies in a folder. -/
def StaysOut (folder : FileKey) (p : Path) : Prop := ∀ k ∈ keysOf p, ¬ LiesIn folder k

theorem mem_keysOf_of_resolve (h : t.resolve p = .ok k) : k ∈ keysOf p := by
  have hwalk : ∀ (segments : List (List Char)) (j : FileKey),
      segments.foldlM t.descend j = .ok k → k ∈ segments.scanl below j := by
    intro segments
    induction segments with
    | nil =>
        rintro j ⟨⟩
        exact List.mem_singleton_self k
    | cons segment segments ih =>
        intro j hj
        rw [List.foldlM_cons] at hj
        rcases hd : t.descend j segment with f | j'
        · rw [hd] at hj
          cases hj
        · rw [hd] at hj
          obtain ⟨-, -, rfl⟩ := descend_ok hd
          rw [List.scanl_cons]
          exact List.mem_cons_of_mem j (ih _ hj)
  rw [resolve] at h
  split at h
  · cases h
  · exact hwalk _ _ h

/-! ## Two trees -/

/-- Two trees that differ in one folder at most. -/
structure SameOutside (folder : FileKey) (t u : FileTree) : Prop where
  files : ∀ k, ¬ LiesIn folder k → u.bytesAt? k = t.bytesAt? k
  folders : ∀ k, ¬ LiesIn folder k → u.isFolder k = t.isFolder k
  sealedFiles : u.sealedFiles = t.sealedFiles
  room : u.room = t.room

namespace SameOutside

theorem refl (folder : FileKey) (t : FileTree) : SameOutside folder t t :=
  ⟨fun _ _ => rfl, fun _ _ => rfl, rfl, rfl⟩

theorem trans (h : SameOutside folder t u) (h' : SameOutside folder u u') :
    SameOutside folder t u' where
  files k hk := (h'.files k hk).trans (h.files k hk)
  folders k hk := (h'.folders k hk).trans (h.folders k hk)
  sealedFiles := h'.sealedFiles.trans h.sealedFiles
  room := h'.room.trans h.room

/-- A file that is put into both trees leaves them the same. -/
theorem put (h : SameOutside folder t u) (k : FileKey) (bytes : Bytes) :
    SameOutside folder (t.put k bytes) (u.put k bytes) where
  files j hj := by
    rw [bytesAt?_put, bytesAt?_put, h.files j hj]
  folders := h.folders
  sealedFiles := h.sealedFiles
  room := h.room

/-- A file that is put into the folder makes no difference outside. -/
theorem of_put (hk : LiesIn folder k) (t : FileTree) (bytes : Bytes) :
    SameOutside folder t (t.put k bytes) where
  files j hj := by
    rw [bytesAt?_put, if_neg]
    rintro rfl
    exact hj hk
  folders _ _ := rfl
  sealedFiles := rfl
  room := rfl

/-- A path that stays out of the folder leads to the same in both trees. -/
theorem resolve (h : SameOutside folder t u) (hp : StaysOut folder p) :
    u.resolve p = t.resolve p := by
  have hwalk : ∀ (segments : List (List Char)) (j : FileKey),
      (∀ k ∈ segments.scanl below j, ¬ LiesIn folder k) →
        segments.foldlM u.descend j = segments.foldlM t.descend j := by
    intro segments
    induction segments with
    | nil =>
        intro j _
        rfl
    | cons segment segments ih =>
        intro j hj
        rw [List.scanl_cons, List.forall_mem_cons] at hj
        have hstep : u.descend j segment = t.descend j segment := by
          rw [descend, descend, h.folders j hj.1, h.files j hj.1]
        rw [List.foldlM_cons, List.foldlM_cons, hstep]
        rcases hd : t.descend j segment with f | j'
        · rfl
        · obtain ⟨-, -, rfl⟩ := descend_ok hd
          exact ih _ hj.2
  rw [FileTree.resolve, FileTree.resolve, hwalk _ _ hp]

theorem read (h : SameOutside folder t u) (hp : StaysOut folder p) : u.read p = t.read p := by
  rw [FileTree.read, FileTree.read, h.resolve hp]
  rcases hr : t.resolve p with fault | k
  · rfl
  · have hk := hp k (mem_keysOf_of_resolve hr)
    simp only [bind, Except.bind, h.files k hk, h.folders k hk]

/-- A write outside the folder fares the same in both trees: it changes neither, or puts one file
into both. -/
theorem write (h : SameOutside folder t u) (hp : StaysOut folder p) (hroom : t.room = none)
    (bytes : Bytes) :
    (u.write p bytes).1 = (t.write p bytes).1 ∧
      ((t.write p bytes).2 = t ∧ (u.write p bytes).2 = u ∨
        ∃ k, ¬ LiesIn folder k ∧ u.isFolder k = false ∧ (t.write p bytes).2 = t.put k bytes ∧
          (u.write p bytes).2 = u.put k bytes) := by
  rw [FileTree.write, FileTree.write, h.resolve hp]
  rcases hr : t.resolve p with fault | k
  · exact ⟨rfl, Or.inl ⟨rfl, rfl⟩⟩
  · have hk := hp k (mem_keysOf_of_resolve hr)
    simp only [h.folders k hk, h.sealedFiles, h.room, hroom]
    cases hf : t.isFolder k with
    | true => exact ⟨rfl, Or.inl ⟨rfl, rfl⟩⟩
    | false =>
        cases t.sealedFiles.contains k with
        | true => exact ⟨rfl, Or.inl ⟨rfl, rfl⟩⟩
        | false => exact ⟨rfl, Or.inr ⟨k, hk, (h.folders k hk).trans hf, rfl, rfl⟩⟩

end SameOutside

/-! ## A folder below another -/

theorem folder_child (p : Path) (s : List Char) : (p.child s).folder = p := by
  rw [Path.child, Path.folder, List.dropLast_concat]

theorem descend_of_isFolder {s : List Char} (hk : t.isFolder k = true) (hs : s ≠ up)
    (hl : (Utf8.encode s).length ≤ maxName) : t.descend k s = .ok (k ++ [s]) := by
  rw [descend, if_pos hk, if_neg (Nat.not_lt.2 hl), if_neg hs]

/-- Where all folders of a path are there, it leads to a folder. -/
theorem HasFolders.isFolder (h : t.HasFolders p) (hr : t.resolve p = .ok k) :
    t.isFolder k = true := by
  obtain ⟨j, hj, hf⟩ := exists_folder_of_makeFolders (makeFolders_eq_self h)
  cases hr.symm.trans hj
  exact hf

/-- The tree with a folder at a key where no file stands. -/
def withFolderAt (t : FileTree) (k : FileKey) : FileTree :=
  if t.isFolder k then t else { t with folders := t.folders ++ [k] }

theorem addFolder_of_bytesAt? (h : t.bytesAt? k = none) : t.addFolder k = .ok (t.withFolderAt k) := by
  rw [addFolder, h, Option.isSome_none, if_neg Bool.false_ne_true, withFolderAt]
  split
  · rfl
  · rfl

theorem isFolder_withFolderAt (t : FileTree) (k j : FileKey) :
    (t.withFolderAt k).isFolder j = (t.isFolder j || j == k) := by
  rw [withFolderAt]
  cases hk : t.isFolder k with
  | true =>
      rw [if_pos rfl]
      by_cases hj : j = k
      · rw [hj, hk, Bool.true_or]
      · rw [beq_eq_false_iff_ne.2 hj, Bool.or_false]
  | false =>
      rw [if_neg Bool.false_ne_true]
      simp only [isFolder, List.contains_append, Bool.or_assoc, List.contains_cons,
        List.contains_nil, Bool.or_false]

theorem withFolderAt_eq (t : FileTree) (k : FileKey) :
    ∃ folders, t.withFolderAt k = { t with folders := folders } := by
  rw [withFolderAt]
  split
  · exact ⟨t.folders, rfl⟩
  · exact ⟨_, rfl⟩

theorem keepsFolders_withFolderAt (t : FileTree) (k : FileKey) :
    KeepsFolders t (t.withFolderAt k) := by
  intro j hj
  rw [isFolder_withFolderAt, hj, Bool.true_or]

theorem SameOutside.withFolderAt (hk : LiesIn folder k) (t : FileTree) :
    SameOutside folder t (t.withFolderAt k) := by
  obtain ⟨folders, h⟩ := t.withFolderAt_eq k
  refine ⟨fun _ _ => ?_, fun j hj => ?_, ?_, ?_⟩
  · rw [h]
    rfl
  · rw [isFolder_withFolderAt, beq_eq_false_iff_ne.2, Bool.or_false]
    rintro rfl
    exact hj hk
  · rw [h]
  · rw [h]

/-- Making the folders of a path below a folder makes one folder at most. -/
theorem makeFolders_child {s : List Char} (hp : t.HasFolders p) (hr : t.resolve p = .ok k)
    (hd : t.descend k s = .ok j) (hl : (Utf8.encode (p.child s).text).length < maxPath)
    (hb : t.bytesAt? j = none) : t.makeFolders (p.child s) = .ok (t.withFolderAt j) := by
  have hway : ∀ i < p.segments.length, wayTo (p.child s) i = wayTo p i := by
    intro i hi
    rw [wayTo, wayTo, Path.child, List.take_append_of_le_length hi]
  have hall : wayTo (p.child s) p.segments.length = p.child s := by
    rw [wayTo, Path.child, List.take_of_length_le (by simp)]
  have hlength : (p.child s).segments.length = p.segments.length + 1 := by simp [Path.child]
  rw [makeFolders_eq, hlength, List.range_succ, List.foldlM_append,
    foldlM_makeFolder_eq_self (List.range p.segments.length) fun i hi => ?_]
  · have hlast : makeFolder (p.child s) t p.segments.length = .ok (t.withFolderAt j) := by
      rw [makeFolder, hall, resolve_child_eq hl hr, hd]
      simp only [bind, Except.bind, addFolder_of_bytesAt? hb]
    change [p.segments.length].foldlM (makeFolder (p.child s)) t = _
    rw [List.foldlM_cons, hlast]
    rfl
  · rw [hway i (List.mem_range.1 hi)]
    exact hp i (List.mem_range.1 hi)

end FileTree

end AppCatalog
