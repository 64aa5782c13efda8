import AppCatalog.Artifact
import AppCatalog.Proofs.Text.Split

/-!
# Coordinates and the paths of artifacts

Coordinates are written in three, four or five parts between colons, and they are read back from
each of these forms (`parse_of_spells`). The path of an artifact in a repository is read from its
end. Its last three segments are the artifact, the version and the file name, and what stands before
them is the group with slashes in place of its full stops (`splitAll_repositoryPath`). In the file
name alone nothing parts the artifact from the version or the version from the classifier; the
segments before it do. What is left of the name ends in the extension, behind the last full stop, so
the path tells all five components of coordinates whose extension holds no full stop
(`parse_and_repositoryPath_inj`).
-/

namespace AppCatalog.Coordinates

open AppCatalog.Text

variable {c c' : Coordinates} {body : List Char}

/-- No component of the coordinates holds the character. -/
structure Lacks (c : Coordinates) (x : Char) : Prop where
  group : x ∉ c.group
  artifact : x ∉ c.artifact
  version : x ∉ c.version
  extension : x ∉ c.extension
  classifier : x ∉ c.classifier

instance (c : Coordinates) (x : Char) : Decidable (c.Lacks x) :=
  decidable_of_iff
    (x ∉ c.group ∧ x ∉ c.artifact ∧ x ∉ c.version ∧ x ∉ c.extension ∧ x ∉ c.classifier)
    ⟨fun ⟨hg, ha, hv, he, hk⟩ => ⟨hg, ha, hv, he, hk⟩, fun ⟨hg, ha, hv, he, hk⟩ => ⟨hg, ha, hv, he, hk⟩⟩

/-- The forms that coordinates are written in behind the scheme. What is left out of them is the
extension `jar` and no classifier. -/
inductive Spells : Coordinates → List Char → Prop
  | three (g a v : List Char) :
    Spells ⟨g, a, v, "jar".toList, []⟩ (g ++ ':' :: (a ++ ':' :: v))
  | four (g a e v : List Char) :
    Spells ⟨g, a, v, e, []⟩ (g ++ ':' :: (a ++ ':' :: (e ++ ':' :: v)))
  | five (g a e k v : List Char) :
    Spells ⟨g, a, v, e, k⟩ (g ++ ':' :: (a ++ ':' :: (e ++ ':' :: (k ++ ':' :: v))))

/-- What stands in front of the coordinates in a URI. -/
def leads : List (List Char) := ["maven://".toList, "maven:".toList]

/-! ## Reading coordinates -/

/-- A form of coordinates without a slash has none either. -/
theorem Spells.notMem_slash (h : c.Spells body) (hc : c.Lacks '/') : '/' ∉ body := by
  have hcolon : '/' ≠ ':' := by decide
  obtain ⟨hg, ha, hv, he, hk⟩ := hc
  cases h <;> simp_all

theorem body?_of_mem_leads {lead : List Char} (hl : lead ∈ leads) (h : '/' ∉ body) :
    body? (lead ++ body) = some body := by
  rw [leads, List.mem_cons, List.mem_singleton] at hl
  rcases hl with rfl | rfl
  · rfl
  · have hslash : '/' ∉ "maven:".toList ++ body := by
      rw [List.mem_append, not_or]
      exact ⟨by decide, h⟩
    have hnone : cutAt? [':', '/', '/'] ("maven:".toList ++ body) = none :=
      cutAt?_of_notMem (by simp) hslash
    rw [body?, hnone]
    rfl

theorem ofParts?_of_spells (h : c.Spells body) (hc : c.Lacks ':') :
    ofParts? (splitAll ':' body) = some c := by
  obtain ⟨hg, ha, hv, he, hk⟩ := hc
  cases h with
  | three =>
      rw [splitAll_append_cons hg, splitAll_append_cons ha, splitAll_of_notMem hv]
      rfl
  | four =>
      rw [splitAll_append_cons hg, splitAll_append_cons ha, splitAll_append_cons he,
        splitAll_of_notMem hv]
      rfl
  | five =>
      rw [splitAll_append_cons hg, splitAll_append_cons ha, splitAll_append_cons he,
        splitAll_append_cons hk, splitAll_of_notMem hv]
      rfl

/-- Coordinates are read back from each of their forms. -/
theorem parse_of_spells {lead : List Char} (hl : lead ∈ leads) (h : c.Spells body)
    (hcolon : c.Lacks ':') (hslash : c.Lacks '/') : parse (lead ++ body) = .ok c := by
  rw [parse, body?_of_mem_leads hl (h.notMem_slash hslash)]
  simp only [ofParts?_of_spells h hcolon]

/-! ## Reading paths -/

/-- The classifier as it stands in a file name. -/
def suffix (c : Coordinates) : List Char := if c.classifier = [] then [] else '-' :: c.classifier

theorem classifier_eq_drop_suffix (c : Coordinates) : c.classifier = c.suffix.drop 1 := by
  rw [suffix]
  split
  · next h => rw [h, List.drop_nil]
  · rfl

theorem filename_eq (c : Coordinates) :
    c.filename = (c.artifact ++ '-' :: c.version) ++ (c.suffix ++ '.' :: c.extension) := by
  rw [filename, suffix, List.append_assoc]

theorem Lacks.notMem_filename {x : Char} (h : c.Lacks x) (hx : x ∉ ['-', '.']) :
    x ∉ c.filename := by
  have hsuffix : x ∉ c.suffix := by
    rw [suffix]
    split
    · exact List.not_mem_nil
    · exact fun hmem => (List.mem_cons.1 hmem).elim (fun he => hx (by simp [he])) h.classifier
  simp only [List.mem_cons, List.not_mem_nil, or_false, not_or] at hx
  simp [filename_eq, h.artifact, h.version, h.extension, hsuffix, hx]

/-- The segments of a repository path: those of the group, the artifact, the version and the file
name. -/
theorem splitAll_repositoryPath (h : c.Lacks '/') : splitAll '/' c.repositoryPath =
    splitAll '.' c.group ++ [c.artifact, c.version, c.filename] := by
  have hname : '/' ∉ c.filename := h.notMem_filename (by decide)
  rw [repositoryPath]
  simp only [List.append_assoc, List.cons_append]
  rw [splitAll_append, splitAll_replace h.group, splitAll_append_cons h.artifact,
    splitAll_append_cons h.version, splitAll_of_notMem hname]

/-- A file name tells the classifier and the extension, once the artifact and the version are
known. -/
theorem filename_inj (ha : c.artifact = c'.artifact) (hv : c.version = c'.version)
    (he : '.' ∉ c.extension) (he' : '.' ∉ c'.extension) (h : c.filename = c'.filename) :
    c.classifier = c'.classifier ∧ c.extension = c'.extension := by
  rw [filename_eq, filename_eq, ha, hv, List.append_cancel_left_eq] at h
  have hextension : c.extension = c'.extension := by
    rw [← afterLast_append he c.suffix, h, afterLast_append he']
  rw [hextension, List.append_cancel_right_eq] at h
  rw [classifier_eq_drop_suffix c, h, ← classifier_eq_drop_suffix c']
  exact ⟨rfl, hextension⟩

/-- A repository path tells the coordinates. -/
theorem repositoryPath_inj (h : c.Lacks '/') (h' : c'.Lacks '/') (he : '.' ∉ c.extension)
    (he' : '.' ∉ c'.extension) (hpath : c.repositoryPath = c'.repositoryPath) : c = c' := by
  have hsegments := congrArg (splitAll '/') hpath
  rw [splitAll_repositoryPath h, splitAll_repositoryPath h'] at hsegments
  obtain ⟨hgroup, hlast⟩ := List.append_inj' hsegments rfl
  have hgroup : c.group = c'.group := splitAll_injective '.' hgroup
  simp only [List.cons.injEq, and_true] at hlast
  obtain ⟨hartifact, hversion, hname⟩ := hlast
  obtain ⟨hclassifier, hextension⟩ := filename_inj hartifact hversion he he' hname
  cases c
  cases c'
  simp_all

/-- Coordinates that hold no colon and no slash are read back from each of their forms, behind either
lead; and if their extensions hold no full stop, no two of them have the same path in a repository,
or the same address. -/
theorem parse_and_repositoryPath_inj (hcolon : c.Lacks ':') (hslash : c.Lacks '/') :
    (∀ lead ∈ leads, ∀ body, c.Spells body → parse (lead ++ body) = .ok c) ∧
    ∀ c' : Coordinates, c'.Lacks '/' → '.' ∉ c.extension → '.' ∉ c'.extension →
      (c.repositoryPath = c'.repositoryPath ↔ c = c') ∧
      ∀ l : Locator, l.urlOf c = l.urlOf c' ↔ c = c' := by
  refine ⟨fun lead hl body h => parse_of_spells hl h hcolon hslash, ?_⟩
  intro c' hslash' he he'
  have hpath : c.repositoryPath = c'.repositoryPath ↔ c = c' :=
    ⟨repositoryPath_inj hslash hslash' he he', congrArg repositoryPath⟩
  refine ⟨hpath, fun l => ?_⟩
  rw [Locator.urlOf, Locator.urlOf, String.append_right_inj, String.ofList_inj, hpath]

/-- The hyphen of an artifact's name may be taken for the one in front of a version. Two artifacts
then have the same file name, and different paths. -/
theorem parse_and_repositoryPath_inj_hyphen :
    let c : Coordinates := ⟨"org.acme".toList, "app-1".toList, "2".toList, "jar".toList, []⟩
    let c' : Coordinates := ⟨"org.acme".toList, "app".toList, "1-2".toList, "jar".toList, []⟩
    c.Lacks ':' ∧ c.Lacks '/' ∧ c'.Lacks '/' ∧ '.' ∉ c.extension ∧ '.' ∉ c'.extension ∧
      parse "maven://org.acme:app-1:2".toList = .ok c ∧
      parse "maven:org.acme:app-1:jar:2".toList = .ok c ∧
      c.filename = c'.filename ∧ c.repositoryPath ≠ c'.repositoryPath := by
  intro c c'
  have hcolon : c.Lacks ':' := by decide
  have hslash : c.Lacks '/' := by decide
  have hslash' : c'.Lacks '/' := by decide
  have he : '.' ∉ c.extension := by decide
  obtain ⟨hparse, hpath⟩ := parse_and_repositoryPath_inj hcolon hslash
  refine ⟨hcolon, hslash, hslash', he, he, ?_, ?_, rfl, ?_⟩
  · exact hparse "maven://".toList (by decide) "org.acme:app-1:2".toList (.three ..)
  · exact hparse "maven:".toList (by decide) "org.acme:app-1:jar:2".toList (.four ..)
  · rw [ne_eq, (hpath c' hslash' he he).1]
    decide

/-- With a full stop in an extension, a classifier may end where the extension begins. -/
example : repositoryPath ⟨['g'], ['a'], ['1'], "tar.gz".toList, "src".toList⟩ =
    repositoryPath ⟨['g'], ['a'], ['1'], "gz".toList, "src.tar".toList⟩ := rfl

end AppCatalog.Coordinates
