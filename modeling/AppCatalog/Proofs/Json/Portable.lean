import AppCatalog.Json.Reader
import AppCatalog.Proofs.Text.Surrogate
import AppCatalog.Proofs.Text.Units
import AppCatalog.Yaml.Token
import Mathlib.Data.Bool.AllAny

/-!
# JSON text as a document

Most JSON texts are documents that mean the same, and some are not: a document has no tabs between
its tokens, no control characters beyond ASCII, and no lines inside a key; it remembers a possible
key for so many characters only; it takes a number with a power of ten for one only with a point and
a sign in front of the power; it knows `NaN` and `Infinity` as words; and it does not join escapes
that stand for the halves of one character. `Json.isPortable` says of a text that it has nothing of
this. It goes through the text one lexeme at a time, and the lemmas here say what it leaves to know
about the text behind each of them.
-/

namespace AppCatalog.Json

open AppCatalog.Text

/-- A character that a document may hold, and that is neither a tab nor a line end of documents
alone. -/
def isPortableChar (c : Char) : Bool :=
  Yaml.isDocumentChar c && !(['\t', '\x85', '\u2028', '\u2029'].contains c)

/-- Whether each numbered escape up to the closing quotation mark stands for a character of its own
and not for half of a pair. -/
def hasWholeEscapes : List Char → Bool
  | [] => true
  | '"' :: _ => true
  | '\\' :: 'u' :: a :: b :: c :: d :: cs =>
    ((fourHex? a b c d).any fun u => !(isHighSurrogate u || isLowSurrogate u)) &&
      hasWholeEscapes cs
  | '\\' :: _ :: cs => hasWholeEscapes cs
  | _ :: cs => hasWholeEscapes cs

/-- Whether a text behind an opening quotation mark is no key, or a key with nothing but spaces in
front of its colon and the colon within reach. -/
def isNearKey (cs : List Char) : Bool :=
  match readUnits cs with
  | none => false
  | some (_, rest) =>
    match skipSpace rest with
    | ':' :: r =>
      rest.dropWhile (· == ' ') == ':' :: r && cs.length - r.length ≤ Yaml.Scanner.keyReach
    | _ => true

/-- Whether a number behind its sign has no power of ten, or a fraction and a power with a sign. -/
def hasSignedPower (cs : List Char) : Bool :=
  let (fraction, rest) := fractionPart (wholePart cs).2
  match (powerPart rest).1 with
  | [] => true
  | _ :: sign :: _ => fraction ≠ [] && (sign == '+' || sign == '-')
  | _ => false

/-- What follows the first lexeme of a text, or a part of it; nothing if documents read the lexeme
in another way. -/
def portableRest? : List Char → Option (List Char)
  | [] => none
  | c :: cs =>
    if c = '"' then
      match readUnits cs with
      | some (_, rest) => if hasWholeEscapes cs && isNearKey cs then some rest else none
      | none => none
    else if Binary64.isDigit c then
      if hasSignedPower (c :: cs) then
        some (powerPart (fractionPart (wholePart (c :: cs)).2).2).2
      else none
    else if c = 'N' || c = 'I' then none
    else some cs

/-- Whether documents read every lexeme of a text as it is meant. -/
def hasPortableLexemes : Nat → List Char → Bool
  | _, [] => true
  | 0, _ => false
  | fuel + 1, cs => (portableRest? cs).any (hasPortableLexemes fuel)

/-- Whether a JSON text is written in what it has in common with documents. -/
def isPortable (cs : List Char) : Bool :=
  cs.all isPortableChar && hasPortableLexemes cs.length cs

/-! ## Strings -/

theorem fourHex?_lt {a b c d : Char} {u : Nat} (h : fourHex? a b c d = some u) : u < 0x10000 := by
  simp only [fourHex?, Option.bind_eq_bind, Option.bind_eq_some_iff, pure] at h
  obtain ⟨i, hi, j, hj, k, hk, l, hl, hu⟩ := h
  have := hexValue?_lt hi
  have := hexValue?_lt hj
  have := hexValue?_lt hk
  have := hexValue?_lt hl
  rw [← Option.some.inj hu]
  omega

theorem hasWholeEscapes_plain {c : Char} (hq : c ≠ '"') (hb : c ≠ '\\') (cs : List Char) :
    hasWholeEscapes (c :: cs) = hasWholeEscapes cs := by
  rw [hasWholeEscapes]
  · exact hq
  · rintro _ _ _ _ _ rfl _
    exact hb rfl
  · rintro _ _ rfl _
    exact hb rfl

/-- A string whose escapes are whole is read as the code units of a text. -/
theorem exists_toUnits_eq {cs rest : List Char} {us : List Nat} (h : hasWholeEscapes cs = true)
    (hs : readUnits cs = some (us, rest)) : ∃ text, us = toUnits text := by
  have hcons : ∀ (c : Char) {us : List Nat}, (∃ text, us = toUnits text) →
      ∃ text, unitsOf c ++ us = toUnits text := by
    rintro c _ ⟨text, rfl⟩
    exact ⟨c :: text, rfl⟩
  fun_induction readUnits cs generalizing us rest with
  | case1 => cases hs
  | case2 cs =>
      cases hs
      exact ⟨[], rfl⟩
  | case3 a b c d cs u hu ih =>
      obtain ⟨⟨vs, rest'⟩, hvs, he⟩ := Option.map_eq_some_iff.1 hs
      cases he
      rw [hasWholeEscapes, hu, Option.any_some, Bool.and_eq_true, Bool.not_eq_true',
        Bool.or_eq_false_iff] at h
      have hunits := hcons (Char.ofNat u) (ih h.2 hvs)
      rwa [unitsOf_ofNat (fourHex?_lt hu) h.1.1 h.1.2] at hunits
  | case4 => cases hs
  | case5 e cs hu plain c hc =>
      obtain ⟨⟨vs, rest'⟩, hvs, he⟩ := Option.map_eq_some_iff.1 hs
      cases he
      rw [hasWholeEscapes] at h
      · next ih =>
        have hunits := hcons c (ih h hvs)
        have hplain : c.toNat < 0x10000 := by
          simp only [plain] at hc
          split at hc <;> cases hc <;> decide
        rwa [unitsOf, if_pos hplain] at hunits
      · exact hu
  | case6 => cases hs
  | case7 => cases hs
  | case8 c cs hq hu hb =>
      obtain ⟨⟨vs, rest'⟩, hvs, he⟩ := Option.map_eq_some_iff.1 hs
      cases he
      rw [hasWholeEscapes] at h
      · next ih => exact hcons c (ih h hvs)
      · exact hq
      · exact hu
      · exact hb

/-- A text that is portable from its first lexeme on. -/
def IsPortable (cs : List Char) : Prop := ∃ fuel, hasPortableLexemes fuel cs = true

namespace IsPortable

variable {c : Char} {cs : List Char}

theorem of_isPortable (h : isPortable cs = true) :
    IsPortable cs ∧ ∀ c ∈ cs, isPortableChar c = true := by
  rw [isPortable, Bool.and_eq_true, List.all_eq_true] at h
  exact ⟨⟨cs.length, h.2⟩, h.1⟩

theorem exists_rest (h : IsPortable (c :: cs)) :
    ∃ rest, portableRest? (c :: cs) = some rest ∧ IsPortable rest := by
  obtain ⟨fuel, h⟩ := h
  cases fuel with
  | zero => cases h
  | succ fuel =>
      rw [hasPortableLexemes, Option.any_eq_true] at h
      · obtain ⟨rest, hrest, h⟩ := h
        exact ⟨rest, hrest, fuel, h⟩
      · exact List.cons_ne_nil c cs

/-- A character that begins neither a string nor a number is passed over. -/
theorem tail (h : IsPortable (c :: cs)) (hq : c ≠ '"') (hd : Binary64.isDigit c = false) :
    IsPortable cs ∧ c ≠ 'N' ∧ c ≠ 'I' := by
  obtain ⟨rest, hrest, h⟩ := h.exists_rest
  rw [portableRest?, if_neg hq, hd, if_neg Bool.false_ne_true] at hrest
  split at hrest
  · cases hrest
  · next hn =>
      cases hrest
      simp only [Bool.or_eq_true, decide_eq_true_eq, not_or] at hn
      exact ⟨h, hn.1, hn.2⟩

theorem skipSpace (h : IsPortable cs) : IsPortable (skipSpace cs) := by
  induction cs with
  | nil => exact h
  | cons c cs ih =>
      rw [Json.skipSpace, List.dropWhile_cons]
      split
      · next hc =>
          have hspace : c ∈ [' ', '\t', '\n', '\r'] := by
            simpa [or_assoc] using hc
          have hplain : ∀ c ∈ [' ', '\t', '\n', '\r'], c ≠ '"' ∧ Binary64.isDigit c = false :=
            List.all_iff_forall_prop.1 (by decide)
          exact ih (h.tail (hplain c hspace).1 (hplain c hspace).2).1
      · exact h

/-- A string has whole escapes and keeps its colon near if it is a key, and the text behind it is
portable. -/
theorem string {us : List Nat} {rest : List Char} (h : IsPortable ('"' :: cs))
    (hs : readUnits cs = some (us, rest)) :
    hasWholeEscapes cs = true ∧ isNearKey cs = true ∧ IsPortable rest := by
  obtain ⟨rest', hrest, h⟩ := h.exists_rest
  rw [portableRest?, if_pos rfl, hs] at hrest
  simp only at hrest
  split at hrest
  · next hwhole =>
      cases hrest
      rw [Bool.and_eq_true] at hwhole
      exact ⟨hwhole.1, hwhole.2, h⟩
  · cases hrest

theorem readString {τ : Type} [Spelling τ] {s : τ} {rest : List Char} (h : IsPortable ('"' :: cs))
    (hs : readString cs = some (s, rest)) :
    hasWholeEscapes cs = true ∧ isNearKey cs = true ∧ IsPortable rest := by
  rw [Json.readString, Option.map_eq_some_iff] at hs
  obtain ⟨⟨us, rest'⟩, hus, he⟩ := hs
  cases he
  exact h.string hus

/-- A number has no power of ten that documents do not know, and the text behind it is portable. -/
theorem number (h : IsPortable (c :: cs)) (hd : Binary64.isDigit c = true) :
    hasSignedPower (c :: cs) = true ∧
      IsPortable (powerPart (fractionPart (wholePart (c :: cs)).2).2).2 := by
  obtain ⟨rest, hrest, h⟩ := h.exists_rest
  have hq : c ≠ '"' := by
    rintro rfl
    cases hd
  rw [portableRest?, if_neg hq, if_pos hd] at hrest
  split at hrest
  · next hpower =>
      cases hrest
      exact ⟨hpower, h⟩
  · cases hrest

end IsPortable

end AppCatalog.Json
