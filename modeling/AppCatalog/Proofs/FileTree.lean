import AppCatalog.FileTree

/-!
# Making folders and writing files

Once the folders of a path have been made they stay: making them again changes nothing, also after
files have been written (`makeFolders_eq_self`, `HasFolders.write`). A file that has been written is
there and holds what was written (`read_of_write`); bytes can be written behind it as long as there is
room for them (`append_of_hasRoom`).
-/

namespace AppCatalog

namespace FileTree

variable {t t' : FileTree} {p : Path}

/-- A tree in which every folder of another one stands. -/
def KeepsFolders (t t' : FileTree) : Prop := ∀ k, t.isFolder k = true → t'.isFolder k = true

theorem isFolder_congr (h : t'.folders = t.folders) (k : FileKey) :
    t'.isFolder k = t.isFolder k := by
  rw [isFolder, isFolder, h]

theorem keepsFolders_of_eq (h : t'.folders = t.folders) : KeepsFolders t t' := by
  intro k hk
  rw [isFolder_congr h]
  exact hk

theorem descend_of_keepsFolders (h : KeepsFolders t t') {k k' : FileKey} {segment : List Char}
    (hd : t.descend k segment = .ok k') : t'.descend k segment = .ok k' := by
  rw [descend] at hd ⊢
  split at hd
  · next hk =>
      rw [if_pos (h k hk)]
      exact hd
  · split at hd <;> cases hd

/-- A path that leads somewhere leads there as long as the folders on the way stand. -/
theorem resolve_of_keepsFolders (h : KeepsFolders t t') {k : FileKey}
    (hr : t.resolve p = .ok k) : t'.resolve p = .ok k := by
  have hwalk : ∀ (segments : List (List Char)) (j : FileKey),
      segments.foldlM t.descend j = .ok k → segments.foldlM t'.descend j = .ok k := by
    intro segments
    induction segments with
    | nil =>
        intro j hj
        exact hj
    | cons segment segments ih =>
        intro j hj
        rw [List.foldlM_cons] at hj ⊢
        rcases hd : t.descend j segment with f | j'
        · rw [hd] at hj
          cases hj
        · rw [hd] at hj
          rw [descend_of_keepsFolders h hd]
          exact ih j' hj
  rw [resolve] at hr ⊢
  split at hr
  · cases hr
  · next hl =>
      rw [if_neg hl]
      exact hwalk _ _ hr

/-! ## Folders -/

/-- The way to a path, up to a segment. -/
def wayTo (p : Path) (i : Nat) : Path := ⟨p.anchor, p.segments.take (i + 1)⟩

/-- A path leads to a folder. -/
def HasFolder (t : FileTree) (p : Path) : Prop :=
  ∃ k, t.resolve p = .ok k ∧ t.isFolder k = true ∧ t.bytesAt? k = none

/-- A path leads to a folder, and so does every path on the way. -/
def HasFolders (t : FileTree) (p : Path) : Prop :=
  ∀ i < p.segments.length, t.HasFolder (wayTo p i)

theorem HasFolder.keepsFolders (h : t.HasFolder p) (hk : KeepsFolders t t')
    (hf : t'.files = t.files) : t'.HasFolder p := by
  obtain ⟨k, hr, hfolder, hbytes⟩ := h
  refine ⟨k, resolve_of_keepsFolders hk hr, hk k hfolder, ?_⟩
  rw [bytesAt?, hf]
  exact hbytes

theorem addFolder_ok {k : FileKey} (h : t.addFolder k = .ok t') :
    t'.files = t.files ∧ KeepsFolders t t' ∧ t'.isFolder k = true ∧ t'.bytesAt? k = none := by
  rw [addFolder] at h
  split at h
  · cases h
  · next hb =>
      rw [Bool.not_eq_true, Option.isSome_eq_false_iff, Option.isNone_iff_eq_none] at hb
      split at h
      · next hk =>
          cases h
          exact ⟨rfl, fun _ hj => hj, hk, hb⟩
      · cases h
        refine ⟨rfl, ?_, ?_, hb⟩
        · intro j hj
          simp only [isFolder, Bool.or_eq_true, List.contains_eq_mem, decide_eq_true_eq,
            List.mem_append] at hj ⊢
          exact hj.imp_right Or.inl
        · simp only [isFolder, Bool.or_eq_true, List.contains_eq_mem, decide_eq_true_eq,
            List.mem_append, List.mem_singleton]
          exact Or.inr (Or.inr trivial)

/-- One folder on the way to a path is made. -/
def makeFolder (p : Path) (t : FileTree) (i : Nat) : Except OsFault FileTree := do
  let k ← t.resolve (wayTo p i)
  match t.addFolder k with
  | .error .alreadyThere =>
    if i + 1 = p.segments.length then .error .alreadyThere else .error .notFolder
  | result => result

theorem makeFolders_eq (t : FileTree) (p : Path) :
    t.makeFolders p = (List.range p.segments.length).foldlM (makeFolder p) t := rfl

theorem makeFolder_ok {i : Nat} (h : makeFolder p t i = .ok t') :
    t'.files = t.files ∧ KeepsFolders t t' ∧ t'.HasFolder (wayTo p i) := by
  rw [makeFolder] at h
  rcases hr : t.resolve (wayTo p i) with f | k
  · rw [hr] at h
    cases h
  · rw [hr] at h
    have ha : t.addFolder k = .ok t' := by
      change (match t.addFolder k with
        | .error .alreadyThere => _
        | result => result) = _ at h
      split at h
      · split at h <;> cases h
      · exact h
    obtain ⟨hfiles, hkeeps, hfolder, hbytes⟩ := addFolder_ok ha
    exact ⟨hfiles, hkeeps, k, resolve_of_keepsFolders hkeeps hr, hfolder, hbytes⟩

theorem makeFolder_eq_self {i : Nat} (h : t.HasFolder (wayTo p i)) :
    makeFolder p t i = .ok t := by
  obtain ⟨k, hr, hfolder, hbytes⟩ := h
  rw [makeFolder, hr]
  change (match t.addFolder k with
    | .error .alreadyThere => _
    | result => result) = _
  rw [addFolder, hbytes, Option.isSome_none, if_neg Bool.false_ne_true, if_pos hfolder]

/-- Making the folders of a path makes them all, and touches no file. -/
theorem hasFolders_of_makeFolders (h : t.makeFolders p = .ok t') :
    t'.files = t.files ∧ t'.HasFolders p := by
  have hmade : ∀ (n : Nat) (t' : FileTree), (List.range n).foldlM (makeFolder p) t = .ok t' →
      t'.files = t.files ∧ ∀ i < n, t'.HasFolder (wayTo p i) := by
    intro n
    induction n with
    | zero =>
        intro t' h
        cases h
        exact ⟨rfl, fun i hi => absurd hi (Nat.not_lt_zero i)⟩
    | succ n ih =>
        intro t' h
        rw [List.range_succ, List.foldlM_append] at h
        rcases hn : (List.range n).foldlM (makeFolder p) t with f | u
        · rw [hn] at h
          cases h
        · rw [hn] at h
          have hlast : makeFolder p u n = .ok t' := by
            rw [← h]
            change _ = [n].foldlM (makeFolder p) u
            rw [List.foldlM_cons]
            cases makeFolder p u n <;> rfl
          obtain ⟨hfiles, hall⟩ := ih u hn
          obtain ⟨hfiles', hkeeps, hfolder⟩ := makeFolder_ok hlast
          refine ⟨hfiles'.trans hfiles, ?_⟩
          intro i hi
          rcases Nat.lt_succ_iff_lt_or_eq.1 hi with hi | rfl
          · exact (hall i hi).keepsFolders hkeeps hfiles'
          · exact hfolder
  exact hmade _ _ h

theorem foldlM_makeFolder_eq_self (is : List Nat) (h : ∀ i ∈ is, t.HasFolder (wayTo p i)) :
    is.foldlM (makeFolder p) t = .ok t := by
  induction is with
  | nil => rfl
  | cons i is ih =>
      rw [List.foldlM_cons, makeFolder_eq_self (h i List.mem_cons_self)]
      exact ih fun j hj => h j (List.mem_cons_of_mem i hj)

theorem makeFolders_eq_self (h : t.HasFolders p) : t.makeFolders p = .ok t := by
  rw [makeFolders_eq]
  exact foldlM_makeFolder_eq_self _ fun i hi => h i (List.mem_range.1 hi)

/-! ## Files -/

/-- What a write that goes through does: it opens a file where no folder stands and puts the bytes
there. -/
theorem write_ok {bytes : Bytes} (h : t.write p bytes = (.ok (), t')) :
    ∃ k, t.resolve p = .ok k ∧ t.isFolder k = false ∧ t'.folders = t.folders ∧
      t'.files = Assoc.insert k bytes t.files := by
  rw [write] at h
  split at h
  · cases h
  · next k hr =>
      split at h
      · cases h
      · next hk =>
          rw [Bool.not_eq_true] at hk
          refine ⟨k, hr, hk, ?_⟩
          split at h
          · cases h
          · split at h
            · cases h
              exact ⟨rfl, rfl⟩
            · split at h
              · cases h
                exact ⟨rfl, rfl⟩
              · cases h

/-- A file that can be read is there. -/
theorem isThere_of_read {bytes : Bytes} (h : t.read p = .ok bytes) : t.isThere p = .ok true := by
  rw [read] at h
  rcases hr : t.resolve p with f | k
  · rw [hr] at h
    cases h
  · rw [hr] at h
    rcases hb : t.bytesAt? k with _ | bytes'
    · simp only [bind, Except.bind, hb] at h
      split at h <;> cases h
    · rw [isThere, hr]
      simp only [hb, Option.isSome_some, Bool.true_or]

/-- A file that has been written holds what was written. -/
theorem read_of_write {bytes : Bytes} (h : t.write p bytes = (.ok (), t')) :
    t'.read p = .ok bytes := by
  obtain ⟨k, hr, -, hfolders, hfiles⟩ := write_ok h
  have hbytes : t'.bytesAt? k = some bytes := by
    rw [bytesAt?, hfiles, Assoc.get?_insert_self]
  simp only [read, resolve_of_keepsFolders (keepsFolders_of_eq hfolders) hr, bind, Except.bind,
    hbytes]

theorem isThere_of_write {bytes : Bytes} (h : t.write p bytes = (.ok (), t')) :
    t'.isThere p = .ok true :=
  isThere_of_read (read_of_write h)

/-- Two trees with the same folders, and files at the same places. -/
structure SamePlaces (t t' : FileTree) : Prop where
  folders : t'.folders = t.folders
  files : ∀ k, (t'.bytesAt? k).isSome = (t.bytesAt? k).isSome

theorem SamePlaces.trans {t'' : FileTree} (h : SamePlaces t t') (h' : SamePlaces t' t'') :
    SamePlaces t t'' :=
  ⟨h'.folders.trans h.folders, fun k => (h'.files k).trans (h.files k)⟩

/-- Where a path leads is up to the places. -/
theorem SamePlaces.resolve (h : SamePlaces t t') (p : Path) : t'.resolve p = t.resolve p := by
  have hstep : t'.descend = t.descend := by
    funext k segment
    rw [descend, descend, isFolder_congr h.folders, h.files]
  rw [FileTree.resolve, FileTree.resolve, hstep]

/-- There is room for so many more bytes. -/
def HasRoom (t : FileTree) (n : Nat) : Prop := ∀ room, t.room = some room → n ≤ room

/-- Bytes that there is room for are written behind those that a file holds. -/
theorem append_of_hasRoom {k : FileKey} {held bytes : Bytes} (hk : t.bytesAt? k = some held)
    (h : t.HasRoom bytes.length) :
    ∃ t', t.append k bytes = (.ok (), t') ∧ t'.bytesAt? k = some (held ++ bytes) ∧
      SamePlaces t t' ∧ ∀ n, t'.HasRoom n ↔ t.HasRoom (bytes.length + n) := by
  have hput : ∀ u : FileTree, u.files = Assoc.insert k (held ++ bytes) t.files →
      u.folders = t.folders → u.bytesAt? k = some (held ++ bytes) ∧ SamePlaces t u := by
    intro u hfiles hfolders
    refine ⟨by rw [bytesAt?, hfiles, Assoc.get?_insert_self], hfolders, ?_⟩
    intro j
    rw [bytesAt?, hfiles, Assoc.get?_insert]
    by_cases hj : k = j
    · rw [if_pos hj, ← hj, hk, Option.isSome_some, Option.isSome_some]
    · rw [if_neg hj]
      rfl
  rw [append, hk, Option.getD_some]
  rcases hroom : t.room with _ | room
  · obtain ⟨hbytes, hplaces⟩ := hput (t.put k (held ++ bytes)) rfl rfl
    refine ⟨_, rfl, hbytes, hplaces, ?_⟩
    intro n
    have hfree : ∀ m, t.HasRoom m := by
      intro m r hr
      rw [hroom] at hr
      cases hr
    exact iff_of_true (hfree n) (hfree _)
  · have hlen : bytes.length ≤ room := h room hroom
    obtain ⟨hbytes, hplaces⟩ :=
      hput { t.put k (held ++ bytes) with room := some (room - bytes.length) } rfl rfl
    refine ⟨_, if_pos hlen, hbytes, hplaces, ?_⟩
    intro n
    simp only [HasRoom, hroom, Option.some.injEq, forall_eq']
    omega

theorem append_of_not_hasRoom {k : FileKey} {bytes : Bytes} (h : ¬ t.HasRoom bytes.length) :
    (t.append k bytes).1 = .error .noSpace := by
  rw [append]
  split
  · next hroom =>
      refine absurd ?_ h
      intro room hr
      rw [hroom] at hr
      cases hr
  · next room hroom =>
      rw [if_neg]
      intro hlen
      refine h ?_
      intro r hr
      rw [hroom] at hr
      cases hr
      exact hlen

/-- A path that can be written whatever the bytes: it leads to a place where no folder stands and
nothing is sealed, and there is room without end. -/
def IsWritable (t : FileTree) (p : Path) : Prop :=
  ∃ k, t.resolve p = .ok k ∧ t.isFolder k = false ∧ t.sealedFiles.contains k = false ∧
    t.room = none

theorem IsWritable.write (h : t.IsWritable p) (bytes : Bytes) :
    ∃ t', t.write p bytes = (.ok (), t') ∧ t'.IsWritable p := by
  obtain ⟨k, hr, hk, hs, hroom⟩ := h
  have hkeeps : KeepsFolders t (t.put k bytes) := keepsFolders_of_eq rfl
  refine ⟨t.put k bytes, ?_, k, resolve_of_keepsFolders hkeeps hr, hk, hs, hroom⟩
  simp only [FileTree.write, hr, hk, hs, hroom, Bool.false_eq_true, if_false]

/-- Folders that have been made stay when a file is written. -/
theorem HasFolders.write {file : Path} {bytes : Bytes} (hp : t.HasFolders p)
    (h : t.write file bytes = (.ok (), t')) : t'.HasFolders p := by
  obtain ⟨k, -, hk, hfolders, hfiles⟩ := write_ok h
  intro i hi
  obtain ⟨j, hr, hfolder, hbytes⟩ := hp i hi
  have hne : k ≠ j := by
    rintro rfl
    rw [hfolder] at hk
    cases hk
  refine ⟨j, resolve_of_keepsFolders (keepsFolders_of_eq hfolders) hr, ?_, ?_⟩
  · rw [isFolder_congr hfolders]
    exact hfolder
  · rw [bytesAt?, hfiles, Assoc.get?_insert, if_neg hne]
    exact hbytes

end FileTree

end AppCatalog
