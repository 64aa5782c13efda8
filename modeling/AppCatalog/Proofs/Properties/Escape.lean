import AppCatalog.Properties.Escape
import AppCatalog.Proofs.Text.Units

/-!
# Escapes read back

`escapeChar` writes a character as it is, as a backslash and a mark, or by its code units
(`escapeChar_cases`). Whichever it is, the reader takes in exactly what was written and gives the
character, so that keys and values read back whatever is in them (`unescape_escapeKey`,
`unescape_escapeValue`).
-/

namespace AppCatalog.Properties

open AppCatalog.Text

/-- What a backslash stands in front of. -/
def marks : List Char := ['\\', 't', 'n', 'r', '=', ':', '#', '!', ' ']

/-- What is never written as it is. -/
def controls : List Char := ['\\', '\t', '\n', '\r']

/-- What is not written as it is in a key, or in front of a value. -/
def guards : List Char := ['=', ':', '#', '!', ' ']

/-- The three ways to write a character. -/
theorem escapeChar_cases (guarded : Bool) (c : Char) :
    (escapeChar guarded c = [c] ∧ c ∉ controls ∧ c.toNat ≤ 0xff ∧ (guarded = true → c ∉ guards)) ∨
      (∃ d ∈ marks, escapeChar guarded c = ['\\', d] ∧ escaped d = c) ∨
      (escapeChar guarded c = unitEscape c ∧ 0xff < c.toNat) := by
  unfold escapeChar
  by_cases hb : c = '\\'
  · subst hb
    exact Or.inr (Or.inl ⟨'\\', by decide, rfl, rfl⟩)
  by_cases ht : c = '\t'
  · subst ht
    exact Or.inr (Or.inl ⟨'t', by decide, rfl, rfl⟩)
  by_cases hn : c = '\n'
  · subst hn
    exact Or.inr (Or.inl ⟨'n', by decide, rfl, rfl⟩)
  by_cases hr : c = '\r'
  · subst hr
    exact Or.inr (Or.inl ⟨'r', by decide, rfl, rfl⟩)
  rw [if_neg hb, if_neg ht, if_neg hn, if_neg hr]
  have hc : c ∉ controls := by simp [controls, hb, ht, hn, hr]
  by_cases hg : c ∈ guards
  · have hd : c ∈ marks ∧ escaped c = c := by
      simp only [guards, List.mem_cons, List.not_mem_nil, or_false] at hg
      rcases hg with rfl | rfl | rfl | rfl | rfl <;> decide
    have hl : c.toNat ≤ 0xff := by
      simp only [guards, List.mem_cons, List.not_mem_nil, or_false] at hg
      rcases hg with rfl | rfl | rfl | rfl | rfl <;> decide
    cases guarded with
    | true =>
        refine Or.inr (Or.inl ⟨c, hd.1, ?_, hd.2⟩)
        rw [if_pos]
        simpa [guards, or_assoc] using hg
    | false =>
        rw [Bool.and_false, if_neg Bool.false_ne_true, if_neg (Nat.not_lt.2 hl)]
        exact Or.inl ⟨rfl, hc, hl, fun h => absurd h Bool.false_ne_true⟩
  · rw [if_neg]
    · by_cases hl : 0xff < c.toNat
      · rw [if_pos hl]
        exact Or.inr (Or.inr ⟨rfl, hl⟩)
      · rw [if_neg hl]
        exact Or.inl ⟨rfl, hc, Nat.not_lt.1 hl, fun _ => hg⟩
    · intro h
      apply hg
      simp only [Bool.and_eq_true, Bool.or_eq_true, decide_eq_true_eq, or_assoc] at h
      simp only [guards, List.mem_cons, List.not_mem_nil, or_false]
      exact h.1

/-! ## Reading -/

theorem unitOf?_eq_some_iff {cs : List Char} {u : Nat} :
    unitOf? cs = some u ↔ readInteger? 16 cs = some (u : Int) := by
  rw [unitOf?]
  split
  · next n h => rw [h, Option.some.injEq, Option.some.injEq, Int.ofNat_eq_natCast, Int.ofNat_inj]
  · next h => exact Iff.intro (fun hn => nomatch hn) fun hu => absurd hu (h u)

theorem unescapeUnits_field {field : List Char} (hl : field.length = 4) {u : Nat}
    (hu : unitOf? field = some u) (rest : List Char) :
    unescapeUnits ('\\' :: 'u' :: (field ++ rest)) = u :: unescapeUnits rest := by
  obtain ⟨a, b, c, d, rfl⟩ := List.length_eq_four.1 hl
  simp only [List.cons_append, List.nil_append]
  rw [unescapeUnits, hu]

theorem unescapeUnits_noField {cs : List Char}
    (h : ∀ field rest, cs = field ++ rest → field.length = 4 → unitOf? field = none) :
    unescapeUnits ('\\' :: 'u' :: cs) = unitsOf 'u' ++ unescapeUnits cs := by
  rw [unescapeUnits.eq_def]
  split
  · next he => cases he
  · next a b c d rest he =>
      cases he
      rw [h [a, b, c, d] rest rfl rfl]
  · next he =>
      cases he
      rfl
  · next hpair he =>
      cases he
      exact (hpair 'u' cs rfl rfl).elim

theorem unescapeUnits_unit {u : Nat} (h : u < 0x10000) (rest : List Char) :
    unescapeUnits ('\\' :: 'u' :: hexDigits 4 u ++ rest) = u :: unescapeUnits rest :=
  unescapeUnits_field (length_hexDigits 4 u)
    (unitOf?_eq_some_iff.2 (readInteger?_hexDigits (by decide) h)) rest

theorem unescapeUnits_units {us : List Nat} (h : ∀ u ∈ us, u < 0x10000) (rest : List Char) :
    unescapeUnits ((us.flatMap fun u => '\\' :: 'u' :: hexDigits 4 u) ++ rest) =
      us ++ unescapeUnits rest := by
  induction us with
  | nil => rfl
  | cons u us ih =>
      rw [List.flatMap_cons, List.append_assoc, unescapeUnits_unit (h u List.mem_cons_self),
        ih fun v hv => h v (List.mem_cons_of_mem u hv), List.cons_append]

theorem unescapeUnits_plain {c : Char} (h : c ≠ '\\') (cs : List Char) :
    unescapeUnits (c :: cs) = unitsOf c ++ unescapeUnits cs := by
  rw [unescapeUnits]
  · rintro _ _ _ _ _ rfl _
    exact h rfl
  · rintro _ _ rfl _
    exact h rfl

theorem unescapeUnits_append {front : List Char} (h : '\\' ∉ front) (cs : List Char) :
    unescapeUnits (front ++ cs) = toUnits front ++ unescapeUnits cs := by
  induction front with
  | nil => rfl
  | cons c front ih =>
      rw [List.mem_cons, not_or] at h
      rw [List.cons_append, unescapeUnits_plain (Ne.symm h.1), ih h.2, ← List.append_assoc]
      rfl

theorem unescapeUnits_mark {d : Char} (h : d ∈ marks) (cs : List Char) :
    unescapeUnits ('\\' :: d :: cs) = unitsOf (escaped d) ++ unescapeUnits cs := by
  apply unescapeUnits_backslash_cons
  rintro rfl
  exact absurd h (by decide)

/-- A character that has been written is read, and nothing behind it. -/
theorem unescapeUnits_escapeChar (guarded : Bool) (c : Char) (rest : List Char) :
    unescapeUnits (escapeChar guarded c ++ rest) = unitsOf c ++ unescapeUnits rest := by
  rcases escapeChar_cases guarded c with ⟨he, hc, -, -⟩ | ⟨d, hd, he, rfl⟩ | ⟨he, -⟩
  · rw [he]
    apply unescapeUnits_plain
    rintro rfl
    exact hc (by decide)
  · rw [he]
    exact unescapeUnits_mark hd rest
  · rw [he, unitEscape]
    exact unescapeUnits_units (fun u hu => unitsOf_lt hu) rest

theorem unescapeUnits_flatMap (guarded : Bool) (cs : List Char) :
    unescapeUnits (cs.flatMap (escapeChar guarded)) = toUnits cs := by
  induction cs with
  | nil => rfl
  | cons c cs ih =>
      rw [List.flatMap_cons, unescapeUnits_escapeChar, ih]
      rfl

theorem unescape_escapeKey (cs : List Char) : unescape (escapeKey cs) = cs := by
  rw [unescape, escapeKey, unescapeUnits_flatMap, decodeUnits_toUnits]

theorem unescape_escapeValue (cs : List Char) : unescape (escapeValue cs) = cs := by
  cases cs with
  | nil => rfl
  | cons c cs =>
      have hu : unitsOf c ++ toUnits cs = toUnits (c :: cs) := rfl
      rw [unescape, escapeValue, unescapeUnits_escapeChar, unescapeUnits_flatMap, hu,
        decodeUnits_toUnits]

end AppCatalog.Properties
