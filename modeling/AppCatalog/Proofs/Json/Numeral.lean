import AppCatalog.Proofs.Json.Portable

/-!
# How numbers are written

A number is a whole part without needless zeros, perhaps a fraction, and perhaps a power of ten.
`readNumber` takes as much of a text as it can, and what it takes is a whole number or a pointed one:
`readNumber_cases` gives the digits of either, for the numbers that have a power only as documents
know it.
-/

namespace AppCatalog

open AppCatalog.Text

/-! ## Digits -/

/-- A text of nothing but decimal digits. -/
def IsDigits (ds : List Char) : Prop := ∀ d ∈ ds, Binary64.isDigit d = true

theorem mem_of_isDigit {c : Char} (h : Binary64.isDigit c = true) :
    c ∈ ['0', '1', '2', '3', '4', '5', '6', '7', '8', '9'] := by
  have hall : ∀ n < 58, 48 ≤ n →
      Char.ofNat n ∈ ['0', '1', '2', '3', '4', '5', '6', '7', '8', '9'] := by decide
  simp only [Binary64.isDigit, Bool.and_eq_true, decide_eq_true_eq] at h
  rw [← Char.ofNat_toNat c]
  exact hall c.toNat (Nat.lt_succ_of_le h.2) h.1

/-- What can be checked of the ten digits holds of every digit. -/
theorem of_isDigit {P : Char → Prop} [DecidablePred P]
    (h : (['0', '1', '2', '3', '4', '5', '6', '7', '8', '9'].all fun c => P c) = true) {c : Char}
    (hc : Binary64.isDigit c = true) : P c :=
  List.all_iff_forall_prop.1 h c (mem_of_isDigit hc)

theorem isDigits_takeWhile (cs : List Char) : IsDigits (cs.takeWhile Binary64.isDigit) :=
  List.all_eq_true.1 List.all_takeWhile

theorem IsDigits.tail {d : Char} {ds : List Char} (h : IsDigits (d :: ds)) : IsDigits ds :=
  fun c hc => h c (List.mem_cons_of_mem d hc)

/-- The digits of a whole number: at least one, and no zero in front of others. -/
structure IsWhole (ds : List Char) : Prop where
  nonempty : ds ≠ []
  digits : IsDigits ds
  lead : ds = ['0'] ∨ ds.head? ≠ some '0'

namespace Json

variable {τ : Type} {l : Limits} {cs : List Char}

/-- A text with a minus sign in front, if it has one. -/
def withSign (negative : Bool) (cs : List Char) : List Char :=
  if negative then '-' :: cs else cs

/-! ## Parts of a number -/

theorem wholePart_cases (cs : List Char) : cs = (wholePart cs).1 ++ (wholePart cs).2 ∧
    ((wholePart cs).1 ≠ [] → IsWhole (wholePart cs).1) := by
  rw [wholePart.eq_def]
  split
  · refine ⟨rfl, fun h => ⟨h, ?_, Or.inl rfl⟩⟩
    intro c hc
    rw [List.mem_singleton.1 hc]
    rfl
  · next hzero =>
      refine ⟨List.takeWhile_append_dropWhile.symm, fun h => ⟨h, isDigits_takeWhile _, ?_⟩⟩
      right
      cases cs with
      | nil => exact absurd rfl h
      | cons c cs =>
          intro hc
          simp only [List.takeWhile_cons] at hc
          split at hc
          · exact hzero cs (by rw [Option.some.inj hc])
          · cases hc

theorem fractionPart_cases (cs : List Char) : cs = (fractionPart cs).1 ++ (fractionPart cs).2 ∧
    ((fractionPart cs).1 ≠ [] →
      ∃ ds, ds ≠ [] ∧ IsDigits ds ∧ (fractionPart cs).1 = '.' :: ds) := by
  rw [fractionPart.eq_def]
  split
  · next d ds =>
      split
      · next hd =>
          refine ⟨congrArg (fun r => '.' :: d :: r) List.takeWhile_append_dropWhile.symm,
            fun _ => ⟨_, List.cons_ne_nil _ _, ?_, rfl⟩⟩
          intro c hc
          rcases List.mem_cons.1 hc with rfl | hc
          · exact hd
          · exact isDigits_takeWhile ds c hc
      · exact ⟨rfl, fun h => absurd rfl h⟩
  · exact ⟨rfl, fun h => absurd rfl h⟩

/-- The sign of a power of ten: none, or a plus or minus. -/
def IsSign (sign : List Char) : Prop := sign = [] ∨ sign = ['+'] ∨ sign = ['-']

/-- Behind an `e` stand a sign and the digits, or what follows is no power. -/
theorem powerPart_eq {e : Char} (he : e = 'e' ∨ e = 'E') (cs : List Char) :
    ∃ sign ds, IsSign sign ∧ cs = sign ++ ds ∧ powerPart (e :: cs) =
      if ds.takeWhile Binary64.isDigit = [] then ([], e :: cs)
      else (e :: sign ++ ds.takeWhile Binary64.isDigit, ds.dropWhile Binary64.isDigit) := by
  have he' : (e = 'e' || e = 'E') = true := by simpa using he
  rw [powerPart.eq_def]
  simp only [he', if_true]
  split
  · exact ⟨['+'], _, Or.inr (Or.inl rfl), rfl, rfl⟩
  · exact ⟨['-'], _, Or.inr (Or.inr rfl), rfl, rfl⟩
  · exact ⟨[], _, Or.inl rfl, rfl, rfl⟩

theorem powerPart_cases (cs : List Char) : cs = (powerPart cs).1 ++ (powerPart cs).2 ∧
    ((powerPart cs).1 ≠ [] → ∃ e sign ds, (e = 'e' ∨ e = 'E') ∧ IsSign sign ∧ ds ≠ [] ∧
      IsDigits ds ∧ (powerPart cs).1 = e :: sign ++ ds) := by
  cases cs with
  | nil => exact ⟨rfl, fun h => absurd rfl h⟩
  | cons e cs =>
      by_cases he : e = 'e' ∨ e = 'E'
      · obtain ⟨sign, ds, hsign, rfl, hpower⟩ := powerPart_eq he cs
        rw [hpower]
        split
        · exact ⟨rfl, fun h => absurd rfl h⟩
        · next hds =>
            refine ⟨?_, fun _ => ⟨e, sign, _, he, hsign, hds, isDigits_takeWhile ds, rfl⟩⟩
            rw [List.append_assoc, List.takeWhile_append_dropWhile]
            rfl
      · have he' : ¬(e = 'e' || e = 'E') = true := by simpa using he
        rw [powerPart.eq_def]
        simp only [he']
        exact ⟨rfl, fun h => absurd rfl h⟩

/-! ## Numbers -/

/-- A power of ten with a sign, as documents know it. -/
def IsSignedPower (power : List Char) : Prop :=
  ∃ e sign ds, (e = 'e' ∨ e = 'E') ∧ (sign = '+' ∨ sign = '-') ∧ ds ≠ [] ∧ IsDigits ds ∧
    power = e :: sign :: ds

/-- The text of a number with a point: digits, a point, digits, and perhaps a power with a sign. -/
structure IsPointed (whole fraction power : List Char) : Prop where
  whole : IsWhole whole
  nonempty : fraction ≠ []
  fraction : IsDigits fraction
  power : power = [] ∨ IsSignedPower power

/-- What a number is written as in front of the rest of a text, within some limits. -/
inductive Numeral (l : Limits) (negative : Bool) (cs rest : List Char) : Json τ → Prop
  | whole {ds : List Char} (hds : IsWhole ds) (hlength : ∀ n ∈ l.digits, ds.length ≤ n)
    (hcs : cs = ds ++ rest) : Numeral l negative cs rest
      (int (if negative then -(Binary64.digitsValue ds : Int) else Binary64.digitsValue ds))
  | pointed {whole fraction power : List Char} {x : Binary64}
    (h : IsPointed whole fraction power)
    (hx : Binary64.readDigits? negative (whole ++ '.' :: fraction ++ power) = some x)
    (hcs : cs = whole ++ '.' :: fraction ++ power ++ rest) : Numeral l negative cs rest (float x)

/-- A number has a digit behind its sign. -/
theorem readNumber_digit {negative : Bool} {v : Json τ} {rest : List Char}
    (h : readNumber l negative cs = .ok (v, rest)) :
    ∃ c ds, cs = c :: ds ∧ Binary64.isDigit c = true := by
  obtain ⟨hcs, hwhole⟩ := wholePart_cases cs
  by_cases hne : (wholePart cs).1 = []
  · simp only [readNumber, if_pos hne] at h
    cases h
  · obtain ⟨c, ds, hds⟩ := List.exists_cons_of_ne_nil hne
    have hdigits := (hwhole hne).digits
    rw [hds] at hcs hdigits
    exact ⟨c, ds ++ (wholePart cs).2, hcs, hdigits c List.mem_cons_self⟩

/-- The power of a portable number has a sign and stands behind a fraction. -/
theorem isSignedPower_of_hasSignedPower (h : hasSignedPower cs = true) :
    (powerPart (fractionPart (wholePart cs).2).2).1 = [] ∨ (fractionPart (wholePart cs).2).1 ≠ [] ∧
      IsSignedPower (powerPart (fractionPart (wholePart cs).2).2).1 := by
  obtain ⟨-, hpower⟩ := powerPart_cases (fractionPart (wholePart cs).2).2
  simp only [hasSignedPower] at h
  generalize (fractionPart (wholePart cs).2).1 = fraction at *
  generalize (powerPart (fractionPart (wholePart cs).2).2).1 = power at *
  by_cases hne : power = []
  · exact Or.inl hne
  · obtain ⟨e, sign, ds, he, hsign, hds, hdigits, rfl⟩ := hpower hne
    rcases hsign with rfl | rfl | rfl
    · obtain ⟨d, ds, rfl⟩ := List.exists_cons_of_ne_nil hds
      have hd := hdigits d List.mem_cons_self
      simp only [List.cons_append, List.nil_append, Bool.and_eq_true, Bool.or_eq_true,
        beq_iff_eq] at h
      rcases h.2 with rfl | rfl <;> cases hd
    · exact Or.inr ⟨by simpa using h, e, '+', ds, he, Or.inl rfl, hds, hdigits, rfl⟩
    · exact Or.inr ⟨by simpa using h, e, '-', ds, he, Or.inr rfl, hds, hdigits, rfl⟩

/-- A number that is portable is whole or pointed. -/
theorem readNumber_cases {negative : Bool} {v : Json τ} {rest : List Char}
    (h : readNumber l negative cs = .ok (v, rest)) (hp : hasSignedPower cs = true) :
    Numeral l negative cs rest v ∧
      rest = (powerPart (fractionPart (wholePart cs).2).2).2 := by
  obtain ⟨hcs, hwhole⟩ := wholePart_cases cs
  obtain ⟨hcs', hfraction⟩ := fractionPart_cases (wholePart cs).2
  obtain ⟨hcs'', -⟩ := powerPart_cases (fractionPart (wholePart cs).2).2
  rw [hcs', hcs''] at hcs
  have hsigned := isSignedPower_of_hasSignedPower hp
  simp only [readNumber] at h
  generalize (wholePart cs).1 = whole at *
  generalize (fractionPart (wholePart cs).2).1 = fraction at *
  generalize (powerPart (fractionPart (wholePart cs).2).2).1 = power at *
  generalize (powerPart (fractionPart (wholePart cs).2).2).2 = after at *
  by_cases hw : whole = []
  · rw [if_pos hw] at h
    cases h
  rw [if_neg hw] at h
  by_cases hf : fraction = []
  · subst hf
    rcases hsigned with rfl | ⟨hne, -⟩
    · rw [if_pos (by simp)] at h
      split at h
      · cases h
      · next hlength =>
          cases h
          refine ⟨.whole (hwhole hw) (fun n hn => ?_) hcs, rfl⟩
          rw [Option.any_eq_true] at hlength
          exact Nat.le_of_not_lt fun hlt => hlength ⟨n, hn, decide_eq_true hlt⟩
    · exact absurd rfl hne
  · obtain ⟨ds, hne, hds, rfl⟩ := hfraction hf
    rw [if_neg (by simp)] at h
    split at h
    · next x hx =>
        cases h
        refine ⟨.pointed ⟨hwhole hw, hne, hds, ?_⟩ hx ?_, rfl⟩
        · exact hsigned.imp_right And.right
        · simpa using hcs
    · cases h

end Json

end AppCatalog
