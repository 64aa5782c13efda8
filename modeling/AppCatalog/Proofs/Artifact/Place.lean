import AppCatalog.Artifact.Cache
import AppCatalog.Proofs.FileTree.Change
import AppCatalog.Proofs.Text.Units
import Mathlib.Data.List.Perm.Subperm

/-!
# Where downloads are kept

A download is kept in the cache folder, two levels down: the name of its file begins with the digest
of its URI and goes on with a hyphen. So the place tells the digest (`digestOf_eq_of_pathOf`), two
places that lead to one key are the same (`IsPlace.eq_of_resolve`), and no place is taken for a
temporary file, whose name begins with a dot and which is new where it is opened
(`bytesAt?_temporaryKey`).
-/

namespace AppCatalog

open FileTree

namespace CacheLayout

variable {cache target target' : Path} {uri uri' : String} {t : FileTree} {folder k : FileKey}

/-- A path that some resource is kept at. -/
def IsPlace (cache target : Path) : Prop := ∃ uri, pathOf cache uri = .ok target

/-- The characters that digests are written in. -/
def digestCharacters : List Char :=
  ['0', '1', '2', '3', '4', '5', '6', '7', '8', '9', 'a', 'b', 'c', 'd', 'e', 'f']

theorem mem_digestCharacters {c : Char} (h : c ∈ digestOf uri) : c ∈ digestCharacters := by
  rw [digestOf, Sha256.hexDigest, List.mem_flatMap] at h
  obtain ⟨word, -, h⟩ := h
  obtain ⟨n, hn, rfl⟩ := Text.mem_hexDigits h
  have hall : ∀ m < 16, Text.hexDigit m ∈ digestCharacters := by decide
  exact hall n hn

theorem notMem_digestOf {c : Char} (hc : c ∈ ['-', '.', '/']) : c ∉ digestOf uri := by
  have hall : ∀ d ∈ ['-', '.', '/'], d ∉ digestCharacters := by simp [digestCharacters]
  exact fun h => hall c hc (mem_digestCharacters h)

/-- The first digits of a digest are those of its first word. -/
theorem take_digestOf (uri : String) : (digestOf uri).take 8 =
    Text.hexDigits 8 ((Sha256.digest (Utf8.ofString uri)).headD 0).toNat := by
  rw [digestOf, Sha256.hexDigest, Sha256.digest, List.flatMap_cons, List.take_left' (by simp)]
  rfl

/-- URIs with one digest share a lock. -/
theorem lockOf_eq_of_digestOf (h : digestOf uri = digestOf uri') : lockOf uri = lockOf uri' := by
  have hfirst := congrArg (List.take 8) h
  rw [take_digestOf, take_digestOf] at hfirst
  rw [lockOf, lockOf, Text.hexDigits_inj (UInt32.toNat_lt _) (UInt32.toNat_lt _) hfirst]

/-- The key of the folder that a place stands in, below the key of the cache folder. -/
def groupKey (folder : FileKey) (uri : String) : FileKey := folder ++ [(digestOf uri).take 2]

/-- The key of a place below the key of the cache folder. -/
def placeKey (folder : FileKey) (uri : String) (name : List Char) : FileKey :=
  folder ++ [(digestOf uri).take 2, digestOf uri ++ '-' :: name]

theorem placeKey_eq (folder : FileKey) (uri : String) (name : List Char) :
    placeKey folder uri name = groupKey folder uri ++ [digestOf uri ++ '-' :: name] := by
  rw [placeKey, groupKey, List.append_assoc]
  rfl

theorem getLast?_placeKey (folder : FileKey) (uri : String) (name : List Char) :
    (placeKey folder uri name).getLast? = some (digestOf uri ++ '-' :: name) := by
  rw [placeKey_eq, List.getLast?_concat]

/-- The place of a URI, by the name that stands behind its digest. -/
def placePath (cache : Path) (uri : String) (name : List Char) : Path :=
  (cache.child ((digestOf uri).take 2)).child (digestOf uri ++ '-' :: name)

theorem pathOf_ok (h : pathOf cache uri = .ok target) :
    ∃ name, target = placePath cache uri name := by
  rw [pathOf] at h
  split at h
  · cases h
  · cases h
    exact ⟨_, rfl⟩

theorem group_ne_up : (digestOf uri).take 2 ≠ up := by
  intro h
  have hdot : '.' ∉ digestOf uri := notMem_digestOf (by decide)
  exact hdot (List.mem_of_mem_take (h ▸ (by decide : '.' ∈ up)))

theorem name_ne_up (name : List Char) : digestOf uri ++ '-' :: name ≠ up := by
  intro h
  have : '-' ∈ up := h ▸ List.mem_append_right _ List.mem_cons_self
  revert this
  decide

/-- A place leads below the cache folder. -/
theorem resolve_place (h : pathOf cache uri = .ok target) (hr : t.resolve target = .ok k) :
    ∃ folder name, t.resolve cache = .ok folder ∧ k = placeKey folder uri name ∧
      target = placePath cache uri name := by
  obtain ⟨name, rfl⟩ := pathOf_ok h
  obtain ⟨j, hj, hd⟩ := resolve_child hr
  obtain ⟨folder, hf, hd'⟩ := resolve_child hj
  obtain ⟨-, -, hj'⟩ := descend_ok hd'
  obtain ⟨-, -, hk⟩ := descend_ok hd
  rw [if_neg group_ne_up] at hj'
  rw [if_neg (name_ne_up name)] at hk
  refine ⟨folder, name, hf, ?_, rfl⟩
  rw [hk, hj', List.append_assoc]
  rfl

/-- A place that leads to a file once more folders stand leads there already, in a cache folder
that is there. -/
theorem IsPlace.resolve_of_grounded {t' : FileTree} (h : IsPlace cache target)
    (hr : t'.resolve target = .ok k) (hk : KeepsFolders t t') (hc : t.resolve cache = .ok folder)
    (hf : t.isFolder folder = true) (hg : t.Grounded) (hb : t.bytesAt? k ≠ none) :
    t.resolve target = .ok k := by
  obtain ⟨uri, h⟩ := h
  obtain ⟨folder', name, hf', rfl, rfl⟩ := resolve_place h hr
  obtain rfl := resolve_unique hk hc hf'
  obtain ⟨j, hj, hd⟩ := resolve_child hr
  obtain ⟨-, -, hlast⟩ := descend_ok hd
  rw [if_neg (name_ne_up name), placeKey_eq] at hlast
  obtain ⟨rfl, -⟩ := List.append_inj' hlast rfl
  rw [placeKey_eq] at hb hr ⊢
  exact resolve_child_of_folder hr hk (resolve_child_of_folder hj hk hc hf) (hg _ _ hb)

/-- A path whose last segment has no hyphen leads to no place. -/
theorem IsPlace.ne_of_notMem {u : FileTree} {j : FileKey} {p : Path} {s : List Char}
    (h : IsPlace cache target) (hr : t.resolve target = .ok k) (hs : '-' ∉ s) (hne : s ≠ up)
    (hj : u.resolve (p.child s) = .ok j) : j ≠ k := by
  obtain ⟨uri, h⟩ := h
  obtain ⟨folder, name, -, rfl, -⟩ := resolve_place h hr
  obtain ⟨i, -, hd⟩ := resolve_child hj
  obtain ⟨-, -, hlast⟩ := descend_ok hd
  rw [if_neg hne] at hlast
  rw [hlast]
  intro heq
  have heq' := congrArg List.getLast? heq
  rw [List.getLast?_concat, getLast?_placeKey, Option.some.injEq] at heq'
  exact hs (heq' ▸ List.mem_append_right _ List.mem_cons_self)

/-- What is put at a place stands in a folder. -/
theorem IsPlace.grounded_put (h : IsPlace cache target) (hr : t.resolve target = .ok k)
    (hg : t.Grounded) (bytes : Bytes) : (t.put k bytes).Grounded := by
  obtain ⟨uri, h⟩ := h
  obtain ⟨name, rfl⟩ := pathOf_ok h
  obtain ⟨j, -, hd⟩ := resolve_child hr
  obtain ⟨hf, -, hk⟩ := descend_ok hd
  rw [if_neg (name_ne_up name)] at hk
  rw [hk]
  exact hg.put hf _ bytes

theorem placeKey_inj {name name' : List Char}
    (h : placeKey folder uri name = placeKey folder uri' name') :
    (digestOf uri).take 2 = (digestOf uri').take 2 ∧
      digestOf uri ++ '-' :: name = digestOf uri' ++ '-' :: name' := by
  have h' := List.append_cancel_left h
  rw [List.cons.injEq, List.cons.injEq] at h'
  exact ⟨h'.1, h'.2.1⟩

/-- Two places that lead to one key are the same. -/
theorem IsPlace.eq_of_resolve (h : IsPlace cache target) (h' : IsPlace cache target')
    (hr : t.resolve target = .ok k) (hr' : t.resolve target' = .ok k) : target = target' := by
  obtain ⟨uri, h⟩ := h
  obtain ⟨uri', h'⟩ := h'
  obtain ⟨folder, name, hf, hk, rfl⟩ := resolve_place h hr
  obtain ⟨folder', name', hf', hk', rfl⟩ := resolve_place h' hr'
  cases hf.symm.trans hf'
  obtain ⟨hgroup, hname⟩ := placeKey_inj (hk.symm.trans hk')
  rw [placePath, placePath, hgroup, hname]

theorem takeWhile_name (name : List Char) :
    (digestOf uri ++ '-' :: name).takeWhile (· != '-') = digestOf uri := by
  rw [List.takeWhile_append_of_pos, List.takeWhile_cons_of_neg (by decide), List.append_nil]
  intro c hc
  rw [bne_iff_ne]
  rintro rfl
  exact notMem_digestOf (by decide) hc

/-- Two URIs have one place if their digests are the same and their paths end alike. -/
theorem placePath_inj {name name' : List Char} :
    placePath cache uri' name' = placePath cache uri name ↔
      digestOf uri' = digestOf uri ∧ name' = name := by
  constructor
  · intro h
    have hfile := congrArg Path.name? h
    simp only [placePath, Path.name?, Path.child, List.getLast?_concat, Option.some.injEq] at hfile
    have hdigest : digestOf uri' = digestOf uri := by
      rw [← takeWhile_name name', hfile, takeWhile_name]
    rw [hdigest, List.append_cancel_left_eq, List.cons.injEq] at hfile
    exact ⟨hdigest, hfile.2⟩
  · rintro ⟨hdigest, rfl⟩
    rw [placePath, hdigest, placePath]

/-- The path that a resource is kept at tells the digest of its URI. -/
theorem digestOf_eq_of_pathOf (h : pathOf cache uri = .ok target)
    (h' : pathOf cache uri' = .ok target) : digestOf uri = digestOf uri' := by
  obtain ⟨name, rfl⟩ := pathOf_ok h
  obtain ⟨name', ht⟩ := pathOf_ok h'
  exact (placePath_inj.1 ht).1

theorem isInside_group (rest : FileKey) : isInside ((digestOf uri).take 2 :: rest) = true := by
  have hslash : '/' ∉ digestOf uri := notMem_digestOf (by decide)
  have hroot : (digestOf uri).take 2 ≠ ['/'] := fun h =>
    hslash (List.mem_of_mem_take (h ▸ List.mem_singleton_self '/'))
  simp only [isInside, List.head?_cons, Bool.and_eq_true, bne_iff_ne, ne_eq, Option.some.injEq]
  exact ⟨group_ne_up, hroot⟩

theorem liesIn_groupKey (folder : FileKey) (uri : String) : LiesIn folder (groupKey folder uri) :=
  ⟨_, List.cons_ne_nil _ _, isInside_group _, rfl⟩

theorem liesIn_placeKey (folder : FileKey) (uri : String) (name : List Char) :
    LiesIn folder (placeKey folder uri name) :=
  ⟨_, List.cons_ne_nil _ _, isInside_group _, rfl⟩

end CacheLayout

/-! ## Temporary files -/

namespace Reception

variable {t : FileTree} {folder k : FileKey}

def temporaryName (n : Nat) : List Char := ".download-".toList ++ Nat.toDigits 10 n

theorem temporaryName_injective : Function.Injective temporaryName := by
  intro n m h
  have hdigits := congrArg (Nat.ofDigitChars 10 · 0) (List.append_cancel_left h)
  simpa only [Nat.ofDigitChars_ten_toDigits] using hdigits

theorem exists_temporaryKey (t : FileTree) (folder : FileKey) :
    ∃ n, temporaryKey t folder = folder ++ [temporaryName n] := ⟨_, rfl⟩

/-- A temporary name is new: there are more names to choose from than files. -/
theorem bytesAt?_temporaryKey (t : FileTree) (folder : FileKey) :
    t.bytesAt? (temporaryKey t folder) = none := by
  have hfree : ∃ n ∈ List.range (t.files.length + 1),
      (t.bytesAt? (folder ++ [temporaryName n])).isNone = true := by
    by_contra hall
    have hsub : (List.range (t.files.length + 1)).map (fun n => folder ++ [temporaryName n]) ⊆
        Assoc.keys t.files := by
      intro j hj
      obtain ⟨n, hn, rfl⟩ := List.mem_map.1 hj
      by_contra hk
      refine hall ⟨n, hn, ?_⟩
      rw [bytesAt?_eq_none_iff.2 hk, Option.isNone_none]
    have hnodup : ((List.range (t.files.length + 1)).map
        fun n => folder ++ [temporaryName n]).Nodup := by
      refine List.nodup_range.map ?_
      intro n m h
      exact temporaryName_injective (List.singleton_inj.1 (List.append_cancel_left h))
    have hlength := (List.subperm_of_subset hnodup hsub).length_le
    rw [List.length_map, List.length_range, Assoc.keys, List.length_map] at hlength
    omega
  obtain ⟨n, hn, hnone⟩ := hfree
  rcases hfind : (List.range (t.files.length + 1)).find? fun n =>
      (t.bytesAt? (folder ++ [temporaryName n])).isNone with _ | m
  · exact absurd hnone (by simpa using List.find?_eq_none.1 hfind n hn)
  · have hm := List.find?_some hfind
    have hkey : temporaryKey t folder = folder ++ [temporaryName m] := by
      change folder ++ [temporaryName (((List.range (t.files.length + 1)).find? fun n =>
        (t.bytesAt? (folder ++ [temporaryName n])).isNone).getD t.files.length)] = _
      rw [hfind, Option.getD_some]
    rw [hkey]
    exact Option.isNone_iff_eq_none.1 hm

/-- A key that a temporary file may stand at. -/
def IsTemporary (k : FileKey) : Prop := ∃ folder n, k = folder ++ [temporaryName n]

theorem isTemporary_temporaryKey (t : FileTree) (folder : FileKey) :
    IsTemporary (temporaryKey t folder) := ⟨folder, exists_temporaryKey t folder⟩

/-- A temporary file never stands at a place of the cache. -/
theorem IsTemporary.ne_place {cache target : Path} {j : FileKey} (hj : IsTemporary j)
    (h : CacheLayout.IsPlace cache target) (hr : t.resolve target = .ok k) : j ≠ k := by
  obtain ⟨uri, h⟩ := h
  obtain ⟨cacheKey, name, -, rfl, -⟩ := CacheLayout.resolve_place h hr
  obtain ⟨folder, n, rfl⟩ := hj
  intro heq
  have hlast := congrArg List.getLast? heq
  rw [List.getLast?_concat, CacheLayout.getLast?_placeKey, Option.some.injEq] at hlast
  have hdot : '.' ∈ CacheLayout.digestOf uri := by
    rw [← CacheLayout.takeWhile_name name, ← hlast]
    exact List.mem_cons_self
  exact CacheLayout.notMem_digestOf (by decide) hdot

end Reception

end AppCatalog
