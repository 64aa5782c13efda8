import AppCatalog.Catalog
import Mathlib.Data.Bool.AllAny
import Mathlib.Data.List.TakeWhile
import Mathlib.Tactic.Tauto

/-!
# Which URIs are accepted

An absolute URI is a scheme, a colon and something behind it, and none of its characters is a blank
or one of the nine that no URI has. `IsAbsolute` says so without the reader of `Uri.fault?`, which
drops scheme characters up to the first colon and looks at the last character of the text. The
scheme holds no colon (`IsScheme.notMem_colon`), so a text has one such division at most.

The two differ in one respect (`checkUri_isAbsolute_iff`): what comes behind the scheme's colon may
not end in a colon itself. Such a URI is absolute, and it is refused for having nothing after its
scheme.
-/

namespace AppCatalog

namespace Uri

/-- A scheme: an ASCII letter, then ASCII letters, digits, plus signs, full stops and hyphens. -/
inductive IsScheme : List Char → Prop
  | mk {c : Char} {cs : List Char} (hc : c.isAlpha = true)
    (hcs : ∀ d ∈ cs, d.isAlphanum = true ∨ d ∈ ['+', '.', '-']) : IsScheme (c :: cs)

/-- The code points of the blanks: the ASCII spaces and the information separators, then those of
the other Unicode spaces. -/
def blankPoints : List ℕ :=
  [9, 10, 11, 12, 13, 28, 29, 30, 31, 32, 133, 160, 5760, 8192, 8193, 8194, 8195, 8196, 8197, 8198,
    8199, 8200, 8201, 8202, 8232, 8233, 8239, 8287, 12288]

/-- The characters that no URI has, besides the blanks. -/
def forbidden : List Char := ['<', '>', '"', '\x7b', '\x7d', '|', '\\', '^', '\x60']

/-- Every character of the text is one that a URI may have. -/
def IsLegal (cs : List Char) : Prop := ∀ c ∈ cs, c.toNat ∉ blankPoints ∧ c ∉ forbidden

instance (cs : List Char) : Decidable (IsLegal cs) :=
  List.decidableBAll (fun c : Char => c.toNat ∉ blankPoints ∧ c ∉ forbidden) cs

/-- A scheme, a colon and any rest. -/
def HasScheme (cs : List Char) : Prop :=
  ∃ scheme rest, IsScheme scheme ∧ cs = scheme ++ ':' :: rest

/-- A scheme and its colon, with nothing behind it. -/
def IsBare (cs : List Char) : Prop := ∃ scheme, IsScheme scheme ∧ cs = scheme ++ [':']

/-- A scheme, a colon and something behind it, in characters that a URI may have. -/
structure IsAbsolute (cs : List Char) : Prop where
  legal : IsLegal cs
  divided : ∃ scheme rest, IsScheme scheme ∧ rest ≠ [] ∧ cs = scheme ++ ':' :: rest

/-! ## Characters -/

theorem isUpper_iff {c : Char} : c.isUpper = true ↔ 65 ≤ c.toNat ∧ c.toNat ≤ 90 := by
  change decide (c.val ≥ 'A'.val ∧ c.val ≤ 'Z'.val) = true ↔ _
  rw [decide_eq_true_iff]
  exact and_congr UInt32.le_iff_toNat_le UInt32.le_iff_toNat_le

theorem isLower_iff {c : Char} : c.isLower = true ↔ 97 ≤ c.toNat ∧ c.toNat ≤ 122 := by
  change (c.val ≥ 'a'.val && c.val ≤ 'z'.val) = true ↔ _
  rw [Bool.and_eq_true, decide_eq_true_iff, decide_eq_true_iff]
  exact and_congr UInt32.le_iff_toNat_le UInt32.le_iff_toNat_le

theorem isLetter_iff {c : Char} : isLetter c = true ↔ c.isAlpha = true := by
  change _ ↔ (c.isUpper || c.isLower) = true
  simp only [isLetter, Bool.or_eq_true, Bool.and_eq_true, decide_eq_true_eq, isUpper_iff,
    isLower_iff]
  exact or_comm

theorem isSchemeChar_iff {c : Char} :
    isSchemeChar c = true ↔ c.isAlphanum = true ∨ c ∈ ['+', '.', '-'] := by
  have hdigit : (48 ≤ c.toNat ∧ c.toNat ≤ 57) ↔ c.isDigit = true := by
    simp only [Char.isDigit, Bool.and_eq_true, decide_eq_true_eq, ge_iff_le, UInt32.le_iff_toNat_le]
    rfl
  simp only [isSchemeChar, Bool.or_eq_true, Bool.and_eq_true, decide_eq_true_eq, isLetter_iff,
    hdigit, Char.isAlphanum, beq_iff_eq, List.mem_cons, List.not_mem_nil, or_false]
  tauto

theorem isBlank_iff {c : Char} : Text.isBlank c = true ↔ c.toNat ∈ blankPoints := by
  simp only [Text.isBlank, blankPoints, Bool.or_eq_true, Bool.and_eq_true, decide_eq_true_eq,
    beq_iff_eq, List.mem_cons, List.not_mem_nil, or_false]
  omega

theorem isIllegal_iff {c : Char} : isIllegal c = true ↔ c.toNat ∈ blankPoints ∨ c ∈ forbidden := by
  simp only [isIllegal, Bool.or_eq_true, isBlank_iff, beq_iff_eq, forbidden, List.mem_cons,
    List.not_mem_nil, or_false, or_assoc]

theorem any_isIllegal_iff {cs : List Char} : cs.any isIllegal = true ↔ ¬ IsLegal cs := by
  simp only [List.any_eq_true, isIllegal_iff, IsLegal, not_forall, not_and_or, not_not, exists_prop]

/-! ## Schemes -/

namespace IsScheme

variable {scheme scheme' : List Char}

theorem notMem_colon (h : IsScheme scheme) : ':' ∉ scheme := by
  obtain ⟨hc, hcs⟩ := h
  rw [List.mem_cons]
  rintro (rfl | hmem)
  · exact absurd hc (by decide)
  · exact absurd (hcs ':' hmem) (by decide)

/-- A text has one scheme at most, and one rest behind it. -/
theorem append_colon_inj (h : IsScheme scheme) (h' : IsScheme scheme') {rest rest' : List Char}
    (heq : scheme ++ ':' :: rest = scheme' ++ ':' :: rest') : scheme = scheme' ∧ rest = rest' := by
  have htake : ∀ {front : List Char} (tail : List Char), ':' ∉ front →
      (front ++ ':' :: tail).takeWhile (· != ':') = front := by
    intro front tail hfront
    rw [List.takeWhile_append_of_pos, List.takeWhile_cons_of_neg, List.append_nil]
    · decide
    · exact fun c hc => bne_iff_ne.2 (ne_of_mem_of_not_mem hc hfront)
  have hfront : scheme = scheme' := by
    rw [← htake rest h.notMem_colon, heq, htake rest' h'.notMem_colon]
  subst hfront
  exact ⟨rfl, (List.cons.inj (List.append_cancel_left heq)).2⟩

end IsScheme

theorem IsAbsolute.not_isBare {cs : List Char} (h : IsAbsolute cs) : ¬ IsBare cs := by
  obtain ⟨scheme, rest, hs, hrest, rfl⟩ := h.divided
  rintro ⟨scheme', hs', heq⟩
  exact hrest (hs.append_colon_inj hs' heq).2

/-- A URI begins with a scheme and a colon if and only if that is what its reader finds. -/
theorem hasScheme_iff {cs : List Char} : hasScheme cs = true ↔ HasScheme cs := by
  rcases cs with _ | ⟨c, cs⟩
  · refine iff_of_false Bool.false_ne_true ?_
    rintro ⟨scheme, rest, -, heq⟩
    cases scheme <;> cases heq
  · rw [hasScheme, Bool.and_eq_true, beq_iff_eq, isLetter_iff]
    constructor
    · rintro ⟨hc, hcolon⟩
      obtain ⟨rest, hrest⟩ := List.head?_eq_some_iff.1 hcolon
      refine ⟨c :: cs.takeWhile isSchemeChar, rest, ⟨hc, ?_⟩, ?_⟩
      · intro d hd
        exact isSchemeChar_iff.1 (List.mem_takeWhile_imp hd)
      · rw [List.cons_append, ← hrest, List.takeWhile_append_dropWhile]
    · rintro ⟨scheme, rest, ⟨hc, hcs⟩, heq⟩
      rw [List.cons_append] at heq
      obtain ⟨rfl, rfl⟩ := List.cons.inj heq
      refine ⟨hc, ?_⟩
      rw [List.dropWhile_append_of_pos fun d hd => isSchemeChar_iff.2 (hcs d hd)]
      rfl

/-- A legal URI with a scheme is bare or absolute. -/
theorem hasScheme_iff_isBare_or_isAbsolute {cs : List Char} (h : IsLegal cs) :
    HasScheme cs ↔ IsBare cs ∨ IsAbsolute cs := by
  constructor
  · rintro ⟨scheme, rest, hs, rfl⟩
    rcases rest with _ | ⟨c, rest⟩
    · exact Or.inl ⟨scheme, hs, rfl⟩
    · exact Or.inr ⟨h, scheme, c :: rest, hs, List.cons_ne_nil c rest, rfl⟩
  · rintro (⟨scheme, hs, rfl⟩ | ⟨-, scheme, rest, hs, -, rfl⟩)
    · exact ⟨scheme, [], hs, rfl⟩
    · exact ⟨scheme, rest, hs, rfl⟩

theorem IsBare.getLast? {cs : List Char} (h : IsBare cs) : cs.getLast? = some ':' := by
  obtain ⟨scheme, -, rfl⟩ := h
  exact List.getLast?_concat

/-! ## Faults -/

/-- What a URI that is refused with the fault has wrong with it. -/
def HasFault (cs : List Char) : UriFault → Prop
  | .empty => cs = []
  | .illegalCharacter => ¬ IsLegal cs
  | .noScheme => cs ≠ [] ∧ IsLegal cs ∧ ¬ HasScheme cs
  | .nothingAfterScheme => IsLegal cs ∧ IsBare cs ∨ IsAbsolute cs ∧ cs.getLast? = some ':'
  | .unspecified => False
  | .stated _ => False

variable {cs : List Char} {fault : UriFault}

theorem fault?_of_hasScheme (hl : IsLegal cs) (hs : HasScheme cs) :
    fault? cs = if cs.getLast? = some ':' then some .nothingAfterScheme else none := by
  have hne : cs ≠ [] := by
    obtain ⟨scheme, rest, -, rfl⟩ := hs
    exact List.append_ne_nil_of_right_ne_nil scheme (List.cons_ne_nil ':' rest)
  have hfound : ¬ (!hasScheme cs) = true := by
    rw [hasScheme_iff.2 hs]
    exact Bool.false_ne_true
  rw [fault?, if_neg hne, if_neg fun h => any_isIllegal_iff.1 h hl, if_neg hfound]

theorem fault?_of_hasFault (h : HasFault cs fault) : fault? cs = some fault := by
  cases fault with
  | empty =>
      have hempty : cs = [] := h
      rw [fault?, if_pos hempty]
  | illegalCharacter =>
      have hne : cs ≠ [] := by
        rintro rfl
        exact h (by decide)
      rw [fault?, if_neg hne, if_pos (any_isIllegal_iff.2 h)]
  | noScheme =>
      obtain ⟨hne, hl, hs⟩ := h
      have hmissing : (!hasScheme cs) = true := by
        rw [Bool.not_eq_true', ← Bool.not_eq_true, hasScheme_iff]
        exact hs
      rw [fault?, if_neg hne, if_neg fun h => any_isIllegal_iff.1 h hl, if_pos hmissing]
  | nothingAfterScheme =>
      rcases h with ⟨hl, hbare⟩ | ⟨habsolute, hlast⟩
      · rw [fault?_of_hasScheme hl ((hasScheme_iff_isBare_or_isAbsolute hl).2 (Or.inl hbare)),
          if_pos hbare.getLast?]
      · have hl := habsolute.legal
        rw [fault?_of_hasScheme hl ((hasScheme_iff_isBare_or_isAbsolute hl).2 (Or.inr habsolute)),
          if_pos hlast]
  | unspecified => exact h.elim
  | stated reason => exact h.elim

theorem fault?_of_isAbsolute (h : IsAbsolute cs) (hlast : cs.getLast? ≠ some ':') :
    fault? cs = none := by
  have hs := (hasScheme_iff_isBare_or_isAbsolute h.legal).2 (Or.inr h)
  rw [fault?_of_hasScheme h.legal hs, if_neg hlast]

/-- Every text that is no absolute URI, or ends in a colon, has one of the faults. -/
theorem exists_hasFault_or (cs : List Char) :
    (∃ fault, HasFault cs fault) ∨ IsAbsolute cs ∧ cs.getLast? ≠ some ':' := by
  by_cases hne : cs = []
  · exact Or.inl ⟨.empty, hne⟩
  by_cases hl : ¬ IsLegal cs
  · exact Or.inl ⟨.illegalCharacter, hl⟩
  rw [not_not] at hl
  by_cases hs : ¬ HasScheme cs
  · exact Or.inl ⟨.noScheme, hne, hl, hs⟩
  rw [not_not, hasScheme_iff_isBare_or_isAbsolute hl] at hs
  rcases hs with hbare | habsolute
  · exact Or.inl ⟨.nothingAfterScheme, Or.inl ⟨hl, hbare⟩⟩
  · by_cases hlast : cs.getLast? = some ':'
    · exact Or.inl ⟨.nothingAfterScheme, Or.inr ⟨habsolute, hlast⟩⟩
    · exact Or.inr ⟨habsolute, hlast⟩

theorem fault?_eq_none_iff : fault? cs = none ↔ IsAbsolute cs ∧ cs.getLast? ≠ some ':' := by
  constructor
  · intro h
    refine (exists_hasFault_or cs).resolve_left ?_
    rintro ⟨fault, hfault⟩
    exact absurd (h.symm.trans (fault?_of_hasFault hfault)) (Option.some_ne_none fault).symm
  · exact fun h => fault?_of_isAbsolute h.1 h.2

theorem fault?_eq_some_iff : fault? cs = some fault ↔ HasFault cs fault := by
  refine ⟨fun h => ?_, fault?_of_hasFault⟩
  rcases exists_hasFault_or cs with ⟨fault', hfault⟩ | ⟨habsolute, hlast⟩
  · rw [fault?_of_hasFault hfault] at h
    exact Option.some.inj h ▸ hfault
  · rw [fault?_of_isAbsolute habsolute hlast] at h
    cases h

/-- Only one reason reads so. -/
theorem HasFault.message_eq_iff (h : HasFault cs fault) :
    fault.message = "URI has nothing after the scheme" ↔ fault = .nothingAfterScheme := by
  cases fault with
  | unspecified => exact h.elim
  | stated reason => exact h.elim
  | _ => decide

end Uri

namespace Catalog

open Uri

/-- A URI is accepted if and only if it is absolute and does not end in a colon. One that is refused
for having nothing after its scheme is a bare scheme, or it is absolute and ends in a colon, and no
URI is both. -/
theorem checkUri_isAbsolute_iff (uri : String) :
    (checkUri uri = .ok () ↔ IsAbsolute uri.toList ∧ uri.toList.getLast? ≠ some ':') ∧
    (checkUri uri ≠ .ok () → ∃ fault, checkUri uri = .error (.invalidUri uri fault) ∧
      HasFault uri.toList fault ∧
      (fault.message = "URI has nothing after the scheme" ↔
        IsLegal uri.toList ∧ IsBare uri.toList ∨
          IsAbsolute uri.toList ∧ uri.toList.getLast? = some ':')) ∧
    ¬ (IsAbsolute uri.toList ∧ IsBare uri.toList) := by
  have hboth : ¬ (IsAbsolute uri.toList ∧ IsBare uri.toList) := fun h => h.1.not_isBare h.2
  rw [checkUri, ← fault?_eq_none_iff]
  rcases hf : fault? uri.toList with _ | fault
  · exact ⟨iff_of_true rfl rfl, fun h => absurd rfl h, hboth⟩
  · have hfault := fault?_eq_some_iff.1 hf
    refine ⟨iff_of_false (fun h => ?_) (Option.some_ne_none fault), fun _ => ?_, hboth⟩
    · cases h
    · refine ⟨fault, rfl, hfault, hfault.message_eq_iff.trans ⟨?_, fun h => ?_⟩⟩
      · rintro rfl
        exact hfault
      · have hnothing : fault? uri.toList = some .nothingAfterScheme := fault?_eq_some_iff.2 h
        exact Option.some.inj (hf.symm.trans hnothing)

/-- Behind the scheme of `http://h/a:` stands a path that ends in a colon, and it is refused as if
nothing stood there, as the bare `http:` is. -/
theorem checkUri_isAbsolute_iff_colon :
    IsAbsolute "http://h/a:".toList ∧ ¬ IsBare "http://h/a:".toList ∧ IsBare "http:".toList ∧
      checkUri "http://h/a:" = .error (.invalidUri "http://h/a:" .nothingAfterScheme) ∧
      checkUri "http:" = .error (.invalidUri "http:" .nothingAfterScheme) ∧
      checkUri "http://h/a:b" = .ok () := by
  have hhttp : IsScheme "http".toList := ⟨by decide, List.all_iff_forall_prop.1 (by decide)⟩
  have habsolute : IsAbsolute "http://h/a:".toList :=
    ⟨by decide, "http".toList, "//h/a:".toList, hhttp, by decide, by decide⟩
  have hinner : IsAbsolute "http://h/a:b".toList :=
    ⟨by decide, "http".toList, "//h/a:b".toList, hhttp, by decide, by decide⟩
  obtain ⟨-, -, hbare⟩ := checkUri_isAbsolute_iff "http://h/a:"
  exact ⟨habsolute, fun h => hbare ⟨habsolute, h⟩, ⟨_, hhttp, by decide⟩, by decide, by decide,
    (checkUri_isAbsolute_iff "http://h/a:b").1.2 ⟨hinner, by decide⟩⟩

end Catalog

end AppCatalog
