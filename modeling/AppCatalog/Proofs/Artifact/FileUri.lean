import AppCatalog.Artifact
import AppCatalog.Proofs.Path
import AppCatalog.Proofs.Uri.Authority
import AppCatalog.Proofs.Uri.Percent
import AppCatalog.Uri.Form

/-!
# File URIs

A path that begins with a slash has two file URIs, one that names no host and one that names the
local host. Both hold the path with escapes in place of all but plain characters and slashes, so
nothing in it is taken for a query, a fragment or a host, and both are located at the path
(`Locator.locate_text`). The path itself is located at the same file, unless it begins with two
slashes and what stands behind them would be no host of a URI. Then it is refused
(`Locator.locate_fileUri_iff`).
-/

namespace AppCatalog

open AppCatalog.Text AppCatalog.Uri

variable {p : List Char}

namespace FileUri

/-- A character that stands for itself in a file URI. -/
def isPlain (c : Char) : Bool := Form.isPlain c || c == '/'

/-- A path as it stands in a file URI. -/
def escaped (p : List Char) : List Char := Percent.encode isPlain p

/-- The hosts that are the local one. -/
def localHosts : List (List Char) := [[], "localhost".toList]

/-- The URI of a file on a host. -/
def text (host p : List Char) : List Char := "file://".toList ++ (host ++ escaped p)

/-- A path is refused if it is two slashes, a host that does not fit and a rest, once its tabs and
line ends are left out. -/
def IsRefused (p : List Char) : Prop :=
  ∃ host rest, Divides (p.filter (· ∉ lineControls)) host rest ∧ ¬ Fits host

/-! ## Escaped paths -/

theorem notMem_escaped {c : Char} (hplain : isPlain c = false) (hc : c ≠ '%') : c ∉ escaped p := by
  intro h
  rcases Percent.mem_encode h with h | h | h
  · rw [hplain] at h
    cases h
  · exact hc h
  · simp [isPlain, Form.isPlain, h] at hplain

theorem head?_escaped (hp : p.head? = some '/') : (escaped p).head? = some '/' := by
  obtain ⟨p, rfl⟩ := List.head?_eq_some_iff.1 hp
  rfl

theorem decode_escaped (p : List Char) : Percent.decode (escaped p) = p := by
  have hnil : ∀ c ∈ ([] : List Char), Percent.isAscii c = true := by simp
  exact Percent.decode_append_encode hnil List.not_mem_nil rfl p

theorem fits_of_mem_localHosts {host : List Char} (h : host ∈ localHosts) : Fits host := by
  rw [localHosts, List.mem_cons, List.mem_singleton] at h
  rcases h with rfl | rfl <;> decide

/-- No local host holds a delimiter, a tab or a line end. -/
theorem notMem_of_mem_localHosts {host : List Char} (h : host ∈ localHosts) {c : Char}
    (hc : c ∈ host) : c ∉ delimiters ∧ c ∉ lineControls := by
  have hall : (localHosts.all fun host =>
      host.all fun c => c ∉ delimiters && c ∉ lineControls) = true := by decide
  simpa using List.all_eq_true.1 (List.all_eq_true.1 hall host h) c hc

theorem not_lineControl_of_mem_text {host : List Char} (hhost : host ∈ localHosts) {c : Char}
    (h : c ∈ text host p) : c ∉ lineControls := by
  rcases List.mem_append.1 h with h | h
  · have hlead : ("file://".toList.all (· ∉ lineControls)) = true := by decide
    simpa using List.all_eq_true.1 hlead c h
  rcases List.mem_append.1 h with h | h
  · exact (notMem_of_mem_localHosts hhost h).2
  · intro hc
    have hescaped : (lineControls.all fun c => !isPlain c && c != '%') = true := by decide
    have hplain : isPlain c = false ∧ c ≠ '%' := by
      simpa using List.all_eq_true.1 hescaped c hc
    exact notMem_escaped hplain.1 hplain.2 h

/-- The parts of a file URI are its host and the escaped path. -/
theorem split?_text {host : List Char} (hhost : host ∈ localHosts) (hp : p.head? = some '/') :
    split? (text host p) = some ⟨"file".toList, host, escaped p, [], []⟩ := by
  have hhead : ∀ c ∈ (text host p).head?, 0x20 < c.toNat := by
    rintro c ⟨⟩
    decide
  have hclean : cleaned (text host p) = text host p := by
    rw [cleaned_eq_filter hhead, List.filter_eq_self]
    exact fun c hc => decide_eq_true (not_lineControl_of_mem_text hhost hc)
  have hscheme : cutScheme (text host p) =
      ("file".toList, '/' :: '/' :: (host ++ escaped p)) := rfl
  have hdivides : Divides ('/' :: '/' :: (host ++ escaped p)) host (escaped p) := by
    refine ⟨rfl, fun c hc => (notMem_of_mem_localHosts hhost hc).1, ?_⟩
    rw [head?_escaped hp]
    rintro c ⟨⟩
    exact List.mem_cons_self
  -- Whatever a query or a fragment would begin with is written as an escape.
  exact split?_of_notMem hclean hscheme hdivides (fits_of_mem_localHosts hhost)
    (notMem_escaped rfl (by decide)) (notMem_escaped rfl (by decide))

end FileUri

theorem Resource.ofPath_of_ne_nil {cs : List Char} (h : cs ≠ []) (path : Path) :
    ofPath path (String.ofList cs) = .file path (String.ofList cs) := by
  have hne : String.ofList cs ≠ "" := by simpa using h
  rw [ofPath, if_neg hne]

namespace Locator

open FileUri

/-- A file URI is located at the path that it holds. -/
theorem locate_text (l : Locator) {host : List Char} (hhost : host ∈ localHosts)
    (hp : p.head? = some '/') :
    l.locate (String.ofList (text host p)) =
      .ok (.file (.ofText p) (String.ofList (text host p))) := by
  have hpath : filePath ⟨"file".toList, host, escaped p, [], []⟩ = .ofText p := by
    have hlocal : ∀ host ∈ localHosts, (host = [] || host = "localhost".toList) = true := by decide
    rw [filePath, if_pos (hlocal host hhost), decode_escaped]
  have hne : text host p ≠ [] := List.cons_ne_nil _ _
  rw [locate, String.toList_ofList, split?_text hhost hp]
  simp only [String.ofList_toList, hpath, if_true, Resource.ofPath_of_ne_nil hne]

/-- A path that has parts as a URI is located as it is. -/
theorem locate_of_isSome (l : Locator) (hp : p.head? = some '/') (h : (split? p).isSome = true) :
    l.locate (String.ofList p) = .ok (.file (.ofText p) (String.ofList p)) := by
  obtain ⟨parts, hparts⟩ := Option.isSome_iff_exists.1 h
  have hscheme : parts.scheme = [] := by rw [scheme_of_split? hparts, cutScheme_cleaned hp]
  have hne : p ≠ [] := by
    rintro rfl
    cases hp
  rw [locate, String.toList_ofList, hparts]
  simp [hscheme, Path.ofString, Resource.ofPath_of_ne_nil hne]

/-- A path that has no parts as a URI is refused. -/
theorem locate_of_isRefused (l : Locator) (hp : p.head? = some '/') (h : IsRefused p) :
    l.locate (String.ofList p) = .error (.breakdown .badValue) := by
  obtain ⟨host, rest, hd, hfits⟩ := h
  have hnone : split? p = none := by
    rw [← Option.not_isSome_iff_eq_none, isSome_split?_slash_iff hp]
    exact fun hall => hfits (hall host rest hd)
  rw [locate, String.toList_ofList, hnone]

/-- A path is located at the file that its URIs name, unless what stands behind its two slashes would
be no host. It is then refused, and its URIs still name the file. The file is the path in its plain
form. Both slashes in front are kept, and of the rest slashes and dots are dropped and nothing else. -/
theorem locate_fileUri_iff (l : Locator) (hp : p.head? = some '/') :
    (∀ host ∈ localHosts, l.locate (String.ofList (text host p)) =
      .ok (.file (.ofText p) (String.ofList (text host p)))) ∧
    (l.locate (String.ofList p) = .ok (.file (.ofText p) (String.ofList p)) ↔ ¬ IsRefused p) ∧
    (IsRefused p → l.locate (String.ofList p) = .error (.breakdown .badValue)) ∧
    (Path.ofText p).IsPlain ∧ (∀ q : Path, q.IsPlain → q.text = p → Path.ofText p = q) ∧
    ((Path.ofText p).anchor = .doubleRoot ↔ ['/', '/'] <+: p ∧ ¬ ['/', '/', '/'] <+: p) ∧
    (Path.ofText p).text.filter Path.isSignificant = p.filter Path.isSignificant := by
  refine ⟨fun host hhost => locate_text l hhost hp, ⟨fun hok hrefused => ?_, fun h => ?_⟩,
    locate_of_isRefused l hp, Path.isPlain_ofText p, ?_, Path.anchor_ofText_eq_doubleRoot_iff,
    Path.significant_ofText p⟩
  · rw [locate_of_isRefused l hp hrefused] at hok
    cases hok
  · refine locate_of_isSome l hp ((isSome_split?_slash_iff hp).2 fun host rest hd => ?_)
    by_contra hfits
    exact h ⟨host, rest, hd, hfits⟩
  · rintro q hq rfl
    exact Path.ofText_text hq

/-- A bracket behind two slashes that is not closed. The path is refused, while its URIs name the
file of two slashes and the bracket. -/
theorem locate_fileUri_iff_openBracket :
    let p := "//[x".toList
    let file : Path := ⟨.doubleRoot, ["[x".toList]⟩
    p.head? = some '/' ∧ IsRefused p ∧
      standard.locate "//[x" = .error (.breakdown .badValue) ∧
      standard.locate "file:////%5Bx" = .ok (.file file "file:////%5Bx") ∧
      standard.locate "file://localhost//%5Bx" = .ok (.file file "file://localhost//%5Bx") := by
  intro p file
  have hp : p.head? = some '/' := rfl
  have hrefused : IsRefused p :=
    ⟨['[', 'x'], [], ⟨rfl, by simp [delimiters], by simp⟩, by decide⟩
  obtain ⟨huris, -, hplain, -⟩ := locate_fileUri_iff standard hp
  have hread : Path.ofText p = file := rfl
  rw [hread] at huris
  exact ⟨hp, hrefused, hplain hrefused, huris [] (by decide), huris "localhost".toList (by decide)⟩

end Locator

end AppCatalog
