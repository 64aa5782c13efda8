import AppCatalog.Proofs.Text.Split
import AppCatalog.Uri.Split

/-!
# Authorities

The authority of a URI is what stands between two slashes and the next slash, question mark or
number sign (`Divides`). A text has parts exactly if the authority fits: its brackets come in pairs
and hold an address, and none of its characters looks like a delimiter (`isSome_split?_iff`). A URI
without a query and without a fragment has its parts by `split?_of_notMem`.
-/

namespace AppCatalog.Uri

open AppCatalog.Text

variable {cs authority rest : List Char}

/-- An authority that may stand in a URI. -/
structure Fits (authority : List Char) : Prop where
  paired : '[' ∈ authority ↔ ']' ∈ authority
  holdsAddress : '[' ∈ authority → isBracketedHost (bracketed authority) = true
  noLookalike : ∀ c ∈ authority, c.toNat ∉ lookalikes

theorem bracketsFit_iff : bracketsFit authority = true ↔
    ('[' ∈ authority ↔ ']' ∈ authority) ∧
      ('[' ∈ authority → isBracketedHost (bracketed authority) = true) := by
  rw [bracketsFit]
  by_cases hopen : '[' ∈ authority <;> by_cases hclosed : ']' ∈ authority <;>
    simp [hopen, hclosed]

theorem hasNoLookalike_iff :
    hasNoLookalike authority = true ↔ ∀ c ∈ authority, c.toNat ∉ lookalikes := by
  simp [hasNoLookalike]

theorem fits_iff : Fits authority ↔ (bracketsFit authority && hasNoLookalike authority) = true := by
  rw [Bool.and_eq_true, bracketsFit_iff, hasNoLookalike_iff]
  exact ⟨fun ⟨hp, ha, hl⟩ => ⟨⟨hp, ha⟩, hl⟩, fun ⟨⟨hp, ha⟩, hl⟩ => ⟨hp, ha, hl⟩⟩

instance (authority : List Char) : Decidable (Fits authority) := decidable_of_iff _ fits_iff.symm

/-! ## Where the authority ends -/

/-- The characters that end an authority. -/
def delimiters : List Char := ['/', '?', '#']

/-- A text is two slashes, an authority and a rest that is empty or begins with a delimiter. -/
structure Divides (cs authority rest : List Char) : Prop where
  eq_append : cs = '/' :: '/' :: (authority ++ rest)
  notMem : ∀ c ∈ authority, c ∉ delimiters
  head?_mem : ∀ c ∈ rest.head?, c ∈ delimiters

theorem not_delimiter_iff {c : Char} :
    (!(c == '/' || c == '?' || c == '#')) = true ↔ c ∉ delimiters := by
  simp [delimiters, and_assoc]

theorem cutAuthority_of_divides (h : Divides cs authority rest) :
    cutAuthority cs = (authority, rest) := by
  obtain ⟨rfl, hauthority, hrest⟩ := h
  have hall : ∀ c ∈ authority, (!(c == '/' || c == '?' || c == '#')) = true := fun c hc =>
    not_delimiter_iff.2 (hauthority c hc)
  have hend : rest.takeWhile (fun c => !(c == '/' || c == '?' || c == '#')) = [] ∧
      rest.dropWhile (fun c => !(c == '/' || c == '?' || c == '#')) = rest := by
    rcases rest with _ | ⟨c, rest⟩
    · exact ⟨rfl, rfl⟩
    · have hc : ¬ (!(c == '/' || c == '?' || c == '#')) = true := fun hc =>
        not_delimiter_iff.1 hc (hrest c rfl)
      exact ⟨List.takeWhile_cons_of_neg hc, List.dropWhile_cons_of_neg hc⟩
  simp only [cutAuthority]
  rw [List.takeWhile_append_of_pos hall, List.dropWhile_append_of_pos hall, hend.1, hend.2,
    List.append_nil]

/-- A text that begins with two slashes has an authority. -/
theorem exists_divides (cs : List Char) :
    ∃ authority rest, Divides ('/' :: '/' :: cs) authority rest := by
  refine ⟨cs.takeWhile (· ∉ delimiters), cs.dropWhile (· ∉ delimiters), ?_, ?_, ?_⟩
  · rw [List.takeWhile_append_dropWhile]
  · intro c hc
    simpa using List.all_eq_true.1 List.all_takeWhile c hc
  · intro c hc
    have hhead := List.head?_dropWhile_not (· ∉ delimiters) cs
    rw [Option.mem_def.1 hc] at hhead
    simpa using hhead

/-- A text that does not begin with two slashes has no authority. -/
theorem cutAuthority_of_ne (h : ∀ cs', cs ≠ '/' :: '/' :: cs') : cutAuthority cs = ([], cs) := by
  rw [cutAuthority]
  exact h

theorem fits_cutAuthority_iff (cs : List Char) :
    Fits (cutAuthority cs).1 ↔ ∀ authority rest, Divides cs authority rest → Fits authority := by
  by_cases hslashes : ∃ cs', cs = '/' :: '/' :: cs'
  · obtain ⟨cs', rfl⟩ := hslashes
    obtain ⟨authority, rest, hd⟩ := exists_divides cs'
    have hcut := cutAuthority_of_divides hd
    rw [hcut]
    refine ⟨fun hfits authority' rest' hd' => ?_, fun h => h authority rest hd⟩
    rw [cutAuthority_of_divides hd', Prod.mk.injEq] at hcut
    rwa [hcut.1]
  · have hnone := cutAuthority_of_ne fun cs' hcs => hslashes ⟨cs', hcs⟩
    have hempty : Fits [] := by decide
    rw [hnone, iff_true_left hempty]
    exact fun authority rest hd => (hslashes ⟨_, hd.eq_append⟩).elim

/-! ## The parts of a text -/

theorem isSome_split?_iff (cs : List Char) :
    (split? cs).isSome = true ↔ Fits (cutAuthority (cutScheme (cleaned cs)).2).1 := by
  rw [fits_iff]
  simp only [split?]
  split <;> simp [*]

theorem scheme_of_split? {parts : UriParts} (h : split? cs = some parts) :
    parts.scheme = (cutScheme (cleaned cs)).1 := by
  simp only [split?] at h
  split at h
  · exact (congrArg UriParts.scheme (Option.some.inj h)).symm
  · cases h

/-- The characters that a text is looked at without. -/
def lineControls : List Char := ['\r', '\n', '\t']

theorem not_lineControl_iff {c : Char} :
    (c != '\r' && c != '\n' && c != '\t') = true ↔ c ∉ lineControls := by
  simp [lineControls, and_assoc]

/-- A text that does not begin with a control character or a blank loses its tabs and line ends. -/
theorem cleaned_eq_filter (h : ∀ c ∈ cs.head?, 0x20 < c.toNat) :
    cleaned cs = cs.filter (· ∉ lineControls) := by
  have hdrop : cs.dropWhile (fun c => c.toNat ≤ 0x20) = cs := by
    rcases cs with _ | ⟨c, cs⟩
    · rfl
    · exact List.dropWhile_cons_of_neg (by simpa using h c rfl)
  rw [cleaned, hdrop]
  exact List.filter_congr fun c _ => by rw [Bool.eq_iff_iff, not_lineControl_iff, decide_eq_true_eq]

/-- A text that begins with a slash has no scheme. -/
theorem cutScheme_slash (cs : List Char) : cutScheme ('/' :: cs) = ([], '/' :: cs) := by
  have hno : ∀ front rest, cutAt? [':'] ('/' :: cs) = some (front, rest) →
      front.head? = some '/' := by
    intro front rest h
    simp only [cutAt?, dropLead?] at h
    obtain ⟨a, -, rfl⟩ : ∃ a, cutAt? [':'] cs = some (a, rest) ∧ '/' :: a = front := by
      simpa using h
    rfl
  rw [cutScheme]
  split
  · next c s rest h =>
      obtain rfl : c = '/' := by simpa using hno _ _ h
      rfl
  · rfl

theorem cutScheme_cleaned (h : cs.head? = some '/') :
    cutScheme (cleaned cs) = ([], cs.filter (· ∉ lineControls)) := by
  obtain ⟨cs, rfl⟩ := List.head?_eq_some_iff.1 h
  rw [cleaned_eq_filter (by simp)]
  exact cutScheme_slash _

/-- A text that begins with a slash has parts exactly if its authority fits, if it has one. -/
theorem isSome_split?_slash_iff (h : cs.head? = some '/') : (split? cs).isSome = true ↔
    ∀ authority rest, Divides (cs.filter (· ∉ lineControls)) authority rest → Fits authority := by
  rw [isSome_split?_iff, cutScheme_cleaned h, fits_cutAuthority_iff]

/-- A text without a question mark and a number sign behind its authority has no query and no
fragment. -/
theorem split?_of_notMem {scheme : List Char} (hclean : cleaned cs = cs)
    {text : List Char} (hscheme : cutScheme cs = (scheme, text)) (hd : Divides text authority rest)
    (hfits : Fits authority) (hquery : '?' ∉ rest) (hfragment : '#' ∉ rest) :
    split? cs = some ⟨scheme, authority, rest, [], []⟩ := by
  have hnofragment : cutAt? ['#'] rest = none := cutAt?_of_notMem List.mem_cons_self hfragment
  have hnoquery : cutAt? ['?'] rest = none := cutAt?_of_notMem List.mem_cons_self hquery
  simp only [split?, hclean, hscheme, cutAuthority_of_divides hd]
  rw [if_pos (fits_iff.1 hfits), hnofragment]
  simp only [Option.getD_none, hnoquery]

end AppCatalog.Uri
