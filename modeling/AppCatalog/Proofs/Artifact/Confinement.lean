import AppCatalog.Proofs.Artifact.Place
import AppCatalog.Proofs.Artifact.Points
import AppCatalog.Proofs.Path

/-!
# Places stay inside the cache

The name of a kept file ends in the last segment of a URI's path, and anybody may have written the
URI. The digest in front of it makes one plain segment of whatever it is: the segment is not empty
and leads neither to its own folder nor out of it, and there is no slash in it, for a last segment
has none. So a place stands two levels below the cache folder (`StandsBelow`), whatever the URI, and
the digest tells the places of different URIs apart. Only a URI that is no text has no digest, and so
it has no place, even where it can be cut into parts (`placeOf_confined`).
-/

namespace AppCatalog

namespace Sha256

theorem flatMap_hexDigits_inj {ws ws' : List UInt32} (hl : ws.length = ws'.length)
    (h : (ws.flatMap fun w => Text.hexDigits 8 w.toNat) =
      ws'.flatMap fun w => Text.hexDigits 8 w.toNat) : ws = ws' := by
  induction ws generalizing ws' with
  | nil => exact (List.eq_nil_of_length_eq_zero hl.symm).symm
  | cons w ws ih =>
      rcases ws' with _ | ⟨w', ws'⟩
      · cases hl
      · rw [List.flatMap_cons, List.flatMap_cons] at h
        obtain ⟨hdigits, hrest⟩ := List.append_inj h (by simp)
        have hword : w = w' := UInt32.toNat_inj.1
          (Text.hexDigits_inj (UInt32.toNat_lt w) (UInt32.toNat_lt w') hdigits)
        rw [hword, ih (Nat.succ.inj hl) hrest]

/-- The written digest tells the words of the digest. -/
theorem hexDigest_inj {m m' : Bytes} : hexDigest m = hexDigest m' ↔ digest m = digest m' := by
  constructor
  · exact flatMap_hexDigits_inj rfl
  · intro h
    rw [hexDigest, h, hexDigest]

end Sha256

namespace CacheLayout

variable {cache : Path} {uri : String} {parts : UriParts} {name : List Char}

/-- A path two levels below a folder: a group that is called by two digits, and in it a file whose
name is one segment, and not one that stands for the group itself or for the folder above it. -/
structure StandsBelow (cache target : Path) (group file : List Char) : Prop where
  eq : target = ⟨cache.anchor, cache.segments ++ [group, file]⟩
  joined : target = (cache.join (.ofText group)).join (.ofText file)
  length_group : group.length = 2
  digits : ∀ c ∈ group, c ∈ digestCharacters
  ne_nil : file ≠ []
  slash_notMem : '/' ∉ file
  ne_dot : file ≠ ['.']
  ne_up : file ≠ ['.', '.']

theorem length_digestOf (uri : String) : (digestOf uri).length = 64 := by
  simp [digestOf, Sha256.hexDigest, Sha256.digest]

/-- The last segment of a path holds no slash. -/
theorem slash_notMem_nameOf (parts : UriParts) : '/' ∉ nameOf parts := by
  rw [nameOf]
  rcases hname : (Path.ofText (Uri.barePath parts)).name? with _ | s
  · decide
  · exact (Path.isPlain_ofText _ s (List.mem_of_getLast? hname)).notMem

theorem pathOf_of_split? (cache : Path) (h : Uri.split? uri.toList = some parts) :
    pathOf cache uri = .ok (placePath cache uri (nameOf parts)) := by
  rw [pathOf, h]
  rfl

theorem length_group (uri : String) : ((digestOf uri).take 2).length = 2 := by
  simp [length_digestOf]

theorem isPlainSegment_group (uri : String) : Path.IsPlainSegment ((digestOf uri).take 2) := by
  have hlength := length_group uri
  have hsegment : (digestOf uri).take 2 ≠ [] ∧ (digestOf uri).take 2 ≠ ['.'] := by
    constructor <;> intro h <;> simp [h] at hlength
  have hslash : '/' ∉ digestOf uri := notMem_digestOf (by decide)
  exact ⟨Path.isSegment_iff.2 hsegment, fun h => hslash (List.mem_of_mem_take h)⟩

/-- What a digest and a hyphen stand in front of is one segment, unless it holds a slash. -/
theorem isPlainSegment_file (uri : String) (h : '/' ∉ name) :
    Path.IsPlainSegment (digestOf uri ++ '-' :: name) := by
  have hhyphen : '-' ∈ digestOf uri ++ '-' :: name := List.mem_append_right _ List.mem_cons_self
  have hsegment : digestOf uri ++ '-' :: name ≠ [] ∧ digestOf uri ++ '-' :: name ≠ ['.'] := by
    constructor <;> intro heq <;> simp [heq] at hhyphen
  have hslash : '/' ∉ digestOf uri := notMem_digestOf (by decide)
  refine ⟨Path.isSegment_iff.2 hsegment, ?_⟩
  simp [hslash, h]

theorem standsBelow_placePath (cache : Path) (uri : String) (h : '/' ∉ name) :
    StandsBelow cache (placePath cache uri name) ((digestOf uri).take 2)
      (digestOf uri ++ '-' :: name) := by
  have hgroup := isPlainSegment_group uri
  have hfile := isPlainSegment_file uri h
  obtain ⟨hnil, hdot⟩ := Path.isSegment_iff.1 hfile.isSegment
  refine ⟨?_, ?_, length_group uri, ?_, hnil, hfile.notMem, hdot, name_ne_up name⟩
  · simp [placePath, Path.child]
  · rw [Path.join_ofText hgroup, Path.join_ofText hfile]
    rfl
  · exact fun c hc => mem_digestCharacters (List.mem_of_mem_take hc)

/-- The first eight digits of the digest choose the lock. -/
theorem lockOf_eq_mod (uri : String) : ∃ n : ℕ,
    Text.readInteger? 16 ((digestOf uri).take 8) = some (n : ℤ) ∧ lockOf uri = n % lockCount := by
  refine ⟨_, ?_, rfl⟩
  rw [take_digestOf]
  exact Text.readInteger?_hexDigits (by decide) (UInt32.toNat_lt _)

theorem placeOf_of_text? {points : Points} (h : points.text? = some uri) (cache : Path) :
    placeOf cache points = pathOf cache uri := by
  rw [placeOf, h]

theorem lockFor_of_text? {points : Points} (h : points.text? = some uri) :
    lockFor points = .ok (lockOf uri) := by
  rw [lockFor, h]

theorem placeOf_of_none {points : Points} (h : points.text? = none) (cache : Path) :
    placeOf cache points = .error (.breakdown .unencodable) := by
  rw [placeOf, h]

/-- A URI has a place exactly if it is a text and can be cut into parts. -/
theorem exists_placeOf_iff {points : Points} {cache : Path} :
    (∃ target, placeOf cache points = .ok target) ↔
      points.text? ≠ none ∧ Uri.split? points.marked ≠ none := by
  rcases htext : points.text? with _ | uri
  · refine iff_of_false ?_ fun h => h.1 rfl
    rintro ⟨target, h⟩
    cases (placeOf_of_none htext cache).symm.trans h
  · rw [placeOf_of_text? htext, Points.marked_of_text? htext]
    rcases hsplit : Uri.split? uri.toList with _ | parts
    · refine iff_of_false ?_ fun h => h.2 rfl
      rintro ⟨target, h⟩
      rw [pathOf, hsplit] at h
      cases h
    · exact iff_of_true ⟨_, pathOf_of_split? cache hsplit⟩
        ⟨Option.some_ne_none _, Option.some_ne_none _⟩

/-- A URI has a place exactly if it is a text and can be cut into parts; of one that is no text there
is no digest to choose a place or a lock. The place is two levels below the cache folder, and wherever
it leads is inside the folder. It is the place of another URI exactly if both have the same digest and
their paths end in the same name. The lock of a URI is chosen by the first eight digits of its digest,
so URIs with the same digest share it. -/
theorem placeOf_confined (cache : Path) (points : Points) :
    ((∃ target, placeOf cache points = .ok target) ↔
      points.text? ≠ none ∧ Uri.split? points.marked ≠ none) ∧
    (points.text? = none → placeOf cache points = .error (.breakdown .unencodable) ∧
      lockFor points = .error (.breakdown .unencodable)) ∧
    ∀ uri parts, points.text? = some uri → Uri.split? points.marked = some parts →
      ∃ target, placeOf cache points = .ok target ∧
      (∃ group file, StandsBelow cache target group file) ∧
      (∀ (t : FileTree) (k : FileKey), t.resolve target = .ok k →
        ∃ folder, t.resolve cache = .ok folder ∧ FileTree.LiesIn folder k) ∧
      (∀ (points' : Points) uri' parts', points'.text? = some uri' →
        Uri.split? points'.marked = some parts' →
        (placeOf cache points' = .ok target ↔
          Sha256.digest (Utf8.ofString uri') = Sha256.digest (Utf8.ofString uri) ∧
            nameOf parts' = nameOf parts)) ∧
      (∃ n : ℕ, Text.readInteger? 16 ((digestOf uri).take 8) = some (n : ℤ) ∧
        lockFor points = .ok (n % lockCount)) ∧
      ∀ (points' : Points) uri', points'.text? = some uri' →
        Sha256.digest (Utf8.ofString uri') = Sha256.digest (Utf8.ofString uri) →
          lockFor points' = lockFor points := by
  refine ⟨exists_placeOf_iff, fun hnone => ⟨placeOf_of_none hnone cache, by rw [lockFor, hnone]⟩, ?_⟩
  intro uri parts htext h
  rw [Points.marked_of_text? htext] at h
  have hplace := pathOf_of_split? cache h
  rw [placeOf_of_text? htext, lockFor_of_text? htext]
  refine ⟨_, hplace, ⟨_, _, standsBelow_placePath cache uri (slash_notMem_nameOf parts)⟩, ?_, ?_,
    ?_, ?_⟩
  · intro t k hk
    obtain ⟨folder, name, hfolder, rfl, -⟩ := resolve_place hplace hk
    exact ⟨folder, hfolder, liesIn_placeKey folder uri name⟩
  · intro points' uri' parts' htext' h'
    rw [Points.marked_of_text? htext'] at h'
    rw [placeOf_of_text? htext', pathOf_of_split? cache h', Except.ok.injEq, placePath_inj,
      digestOf, digestOf, Sha256.hexDigest_inj]
  · obtain ⟨n, hn, hlock⟩ := lockOf_eq_mod uri
    exact ⟨n, hn, congrArg Except.ok hlock⟩
  · intro points' uri' htext' hdigest
    rw [lockFor_of_text? htext', lockOf_eq_of_digestOf (Sha256.hexDigest_inj.2 hdigest)]

/-- A URI whose path ends in two dots. -/
theorem placeOf_confined_dots : ∃ parts target group file,
    Uri.split? (Points.marked "http://h/a%2F/..") = some parts ∧ nameOf parts = ['.', '.'] ∧
      placeOf (.ofString "cache") "http://h/a%2F/.." = .ok target ∧
      StandsBelow (.ofString "cache") target group file := by
  have hparts : Uri.split? (Points.marked "http://h/a%2F/..") =
      some ⟨"http".toList, ['h'], "/a%2F/..".toList, [], []⟩ := by decide
  obtain ⟨target, htarget, ⟨group, file, hbelow⟩, -⟩ :=
    (placeOf_confined (.ofString "cache") "http://h/a%2F/..").2.2 "http://h/a%2F/.." _ (by decide)
      hparts
  exact ⟨_, target, group, file, hparts, by decide, htarget, hbelow⟩

/-- A URI with a surrogate can be cut into parts, and has no place under any folder. -/
theorem placeOf_surrogate :
    let points : Points := ⟨"http://h/".toList.map Char.toNat ++ [0xd800]⟩
    (Uri.split? points.marked).isSome = true ∧
      ∀ cache : Path, ¬ ∃ target group file,
        placeOf cache points = .ok target ∧ StandsBelow cache target group file := by
  intro points
  refine ⟨by decide, ?_⟩
  rintro cache ⟨target, group, file, h, -⟩
  cases h

end CacheLayout

end AppCatalog
