import AppCatalog.Proofs.Json.Numeral
import AppCatalog.Proofs.Text.Split
import AppCatalog.Proofs.Text.Units
import AppCatalog.Yaml.Document
import Mathlib.Data.List.TakeWhile

/-!
# Numbers of JSON in a document

A document finds out what a plain text is by looking at it. The whole numbers of JSON look like
integers and the pointed ones like floating-point numbers, and they are read as the numbers that
they are in JSON: a document takes the sign off first and gives it back to the number at the end.
-/

namespace AppCatalog.Yaml

open AppCatalog.Text AppCatalog.Json

/-! ## Characters of numbers -/

/-- A character that numbers are written with. -/
def isNumberChar (c : Char) : Bool := Binary64.isDigit c || ['.', 'e', 'E', '+', '-'].contains c

/-- What holds of the fifteen characters that numbers are written with. -/
theorem of_isNumberChar {P : Char → Prop} [DecidablePred P]
    (h : (['0', '1', '2', '3', '4', '5', '6', '7', '8', '9', '.', 'e', 'E', '+', '-'].all
      fun c => P c) = true) {c : Char} (hc : isNumberChar c = true) : P c := by
  rw [List.all_iff_forall_prop] at h
  rw [isNumberChar, Bool.or_eq_true, List.contains_iff_mem] at hc
  rcases hc with hd | hm
  · exact h c (List.mem_append_left _ (mem_of_isDigit hd))
  · exact h c (List.mem_append_right ['0', '1', '2', '3', '4', '5', '6', '7', '8', '9'] hm)

theorem notMem_of_isNumberChar {cs : List Char} (h : ∀ c ∈ cs, isNumberChar c = true) {c : Char}
    (hc : isNumberChar c = false) : c ∉ cs := by
  intro hm
  rw [h c hm] at hc
  cases hc

theorem isNumberChar_of_isDigit {c : Char} (h : Binary64.isDigit c = true) :
    isNumberChar c = true := by
  rw [isNumberChar, h, Bool.true_or]

theorem isNumberChar_whole {ds : List Char} (h : IsWhole ds) : ∀ c ∈ ds, isNumberChar c = true :=
  fun c hc => isNumberChar_of_isDigit (h.digits c hc)

theorem isNumberChar_pointed {whole fraction power : List Char} (h : IsPointed whole fraction power) :
    ∀ c ∈ whole ++ '.' :: fraction ++ power, isNumberChar c = true := by
  intro c hc
  rcases List.mem_append.1 hc with hc | hc
  · rcases List.mem_append.1 hc with hc | hc
    · exact isNumberChar_whole h.whole c hc
    · rcases List.mem_cons.1 hc with rfl | hc
      · decide
      · exact isNumberChar_of_isDigit (h.fraction c hc)
  · rcases h.power with rfl | ⟨e, sign, ds, he, hsign, -, hds, rfl⟩
    · cases hc
    · rcases List.mem_cons.1 hc with rfl | hc
      · rcases he with rfl | rfl <;> decide
      rcases List.mem_cons.1 hc with rfl | hc
      · rcases hsign with rfl | rfl <;> decide
      · exact isNumberChar_of_isDigit (hds c hc)

/-! ## What the texts look like -/

namespace Tag

theorem isDigit_eq (c : Char) : c.isDigit = Binary64.isDigit c := by
  rw [Char.isDigit, Binary64.isDigit]
  congr 1

/-- A text that begins like a number is none of the words that documents know. -/
theorem notMem_words {c : Char} (h : Binary64.isDigit c = true ∨ c = '-') (cs : List Char) :
    String.ofList (c :: cs) ∉ ["yes", "Yes", "YES", "no", "No", "NO", "true", "True", "TRUE",
      "false", "False", "FALSE", "on", "On", "ON", "off", "Off", "OFF"] ∧
    String.ofList (c :: cs) ∉ [".inf", ".Inf", ".INF"] ∧
    String.ofList (c :: cs) ∉ [".nan", ".NaN", ".NAN"] := by
  have hword : ∀ words : List String,
      (words.all fun s => s.toList.head?.all fun d => !(Binary64.isDigit d || d == '-')) = true →
      String.ofList (c :: cs) ∉ words := by
    intro words hwords hm
    have hs := List.all_eq_true.1 hwords _ hm
    rw [String.toList_ofList, List.head?_cons, Option.all_some] at hs
    rcases h with hd | rfl
    · rw [hd] at hs
      cases hs
    · cases hs
  exact ⟨hword _ (by decide), hword _ (by decide), hword _ (by decide)⟩

theorem isDigitOrGap_of_isDigit {c : Char} (h : Binary64.isDigit c = true) :
    isDigitOrGap c = true := by
  rw [isDigitOrGap, isDigit_eq, h, Bool.true_or]

/-- A sign in front of a digit is dropped. -/
theorem dropSign_withSign {c : Char} (h : Binary64.isDigit c = true) (negative : Bool)
    (cs : List Char) : dropSign (withSign negative (c :: cs)) = c :: cs := by
  cases negative with
  | true => rfl
  | false =>
      rw [withSign, if_neg Bool.false_ne_true, dropSign.eq_def]
      split
      · next he =>
          rw [(List.cons.inj he).1] at h
          cases h
      · next he =>
          rw [(List.cons.inj he).1] at h
          cases h
      · rfl

theorem looksInt_whole {ds : List Char} (h : IsWhole ds) (negative : Bool) :
    looksInt (withSign negative ds) = true := by
  obtain ⟨c, cs, rfl⟩ := List.exists_cons_of_ne_nil h.nonempty
  have hc := h.digits c List.mem_cons_self
  rcases h.lead with he | hlead
  · cases he
    cases negative <;> decide
  · rw [looksInt.eq_def]
    simp only [dropSign_withSign hc]
    have hall : cs.all isDigitOrGap = true := by
      rw [List.all_eq_true]
      intro d hd
      exact isDigitOrGap_of_isDigit (h.digits.tail d hd)
    split
    · next he => exact absurd (congrArg List.head? he) hlead
    · next he => exact absurd (congrArg List.head? he) hlead
    · next he => exact absurd (congrArg List.head? he) hlead
    · next he =>
        cases he
        rw [isDigit_eq, hc, hall]
        rfl
    · next he => cases he

theorem looksFloat_whole {ds : List Char} (h : IsWhole ds) (negative : Bool) :
    looksFloat (withSign negative ds) = false := by
  obtain ⟨c, cs, rfl⟩ := List.exists_cons_of_ne_nil h.nonempty
  have hc := h.digits c List.mem_cons_self
  have hdrop : (c :: cs).dropWhile isDigitOrGap = [] :=
    List.dropWhile_eq_nil_iff.2 fun d hd => isDigitOrGap_of_isDigit (h.digits d hd)
  have hpoint : '.' ∉ c :: cs := by
    intro hm
    cases h.digits '.' hm
  have hsixties : isPointedSixties (c :: cs) = false := by
    rw [isPointedSixties, cutAt?_of_notMem List.mem_cons_self hpoint]
  obtain ⟨d, ds, hd, hds⟩ : ∃ d ds, (Binary64.isDigit d = true ∨ d = '-') ∧
      withSign negative (c :: cs) = d :: ds := by
    cases negative with
    | true => exact ⟨'-', c :: cs, Or.inr rfl, rfl⟩
    | false => exact ⟨c, cs, Or.inl hc, rfl⟩
  have hnan : [".nan", ".NaN", ".NAN"].contains (String.ofList (d :: ds)) = false := by
    simpa using (notMem_words hd ds).2.2
  have hinf : [".inf", ".Inf", ".INF"].contains (String.ofList (c :: cs)) = false := by
    simpa using (notMem_words (Or.inl hc) cs).2.1
  have hbody : dropSign (d :: ds) = c :: cs := by rw [← hds, dropSign_withSign hc]
  have hpointed : isPointed (c :: cs) = false := by
    rw [isPointed.eq_def]
    simp only [hdrop, Bool.and_false]
  rw [hds, looksFloat.eq_def]
  simp only [hbody, hpointed, hsixties, hinf, hnan, Bool.false_or, Bool.or_false]
  split
  · next he =>
      cases he
      rcases hd with hd | hd <;> cases hd
  · rfl

theorem looksFloat_pointed {whole fraction power : List Char}
    (h : IsPointed whole fraction power) (negative : Bool) :
    looksFloat (withSign negative (whole ++ '.' :: fraction ++ power)) = true := by
  obtain ⟨c, cs, rfl⟩ := List.exists_cons_of_ne_nil h.whole.nonempty
  have hc := h.whole.digits c List.mem_cons_self
  have hwhole : (c :: cs ++ '.' :: (fraction ++ power)).dropWhile isDigitOrGap =
      '.' :: (fraction ++ power) :=
    List.dropWhile_append_of_pos fun d hd => isDigitOrGap_of_isDigit (h.whole.digits d hd)
  have hfraction : (fraction ++ power).dropWhile isDigitOrGap = power.dropWhile isDigitOrGap :=
    List.dropWhile_append_of_pos fun d hd => isDigitOrGap_of_isDigit (h.fraction d hd)
  have hpower : isPower (power.dropWhile isDigitOrGap) = true := by
    rcases h.power with rfl | ⟨e, sign, ds, he, hsign, hne, hds, rfl⟩
    · rfl
    · obtain ⟨d, ds, rfl⟩ := List.exists_cons_of_ne_nil hne
      have hall : (d :: ds).all isDigit = true := by
        rw [List.all_eq_true]
        intro d hd
        rw [isDigit, isDigit_eq, hds d hd]
      rcases he with rfl | rfl <;> rcases hsign with rfl | rfl <;> exact hall
  have hpointed : isPointed (c :: cs ++ '.' :: (fraction ++ power)) = true := by
    rw [List.cons_append] at hwhole ⊢
    rw [isPointed.eq_def]
    simp only [hwhole, isDigit_eq, hc, hfraction, hpower, Bool.and_self]
  rw [looksFloat.eq_def, List.append_assoc, List.cons_append, List.cons_append]
  rw [List.cons_append] at hpointed
  simp only [dropSign_withSign hc, hpointed, Bool.true_or]

/-- A number is tagged by whether it looks like a floating-point number. -/
theorem ofPlain_withSign {c : Char} {cs : List Char} (hc : Binary64.isDigit c = true)
    (hcs : ∀ d ∈ c :: cs, isNumberChar d = true) (negative : Bool) :
    let number := withSign negative (c :: cs)
    (looksFloat number = true → ofPlain number = .float) ∧
      (looksFloat number = false → looksInt number = true → ofPlain number = .int) := by
  intro number
  obtain ⟨d, ds, hd, hds, hnumber⟩ : ∃ d ds, (Binary64.isDigit d = true ∨ d = '-') ∧
      (∀ c ∈ d :: ds, isNumberChar c = true) ∧ number = d :: ds := by
    cases negative with
    | true =>
        refine ⟨'-', c :: cs, Or.inr rfl, ?_, rfl⟩
        intro d hd
        rcases List.mem_cons.1 hd with rfl | hd
        · decide
        · exact hcs d hd
    | false => exact ⟨c, cs, Or.inl hc, hcs, rfl⟩
  rw [hnumber]
  have hfinal : Tag.dropFinalNewline (d :: ds) = d :: ds := by
    rw [Tag.dropFinalNewline, if_neg]
    exact fun h => notMem_of_isNumberChar hds (by decide) (List.mem_of_getLast? h)
  have hbool := (notMem_words hd ds).1
  rw [← List.contains_iff_mem] at hbool
  constructor
  · intro hfloat
    simp only [ofPlain, hfinal, if_neg (List.cons_ne_nil d ds), if_neg hbool, if_pos hfloat]
  · intro hfloat hint
    simp only [ofPlain, hfinal, if_neg (List.cons_ne_nil d ds), if_neg hbool, hfloat, if_pos hint,
      if_neg Bool.false_ne_true]

theorem ofPlain_whole {ds : List Char} (h : IsWhole ds) (negative : Bool) :
    ofPlain (withSign negative ds) = .int := by
  obtain ⟨c, cs, rfl⟩ := List.exists_cons_of_ne_nil h.nonempty
  exact (ofPlain_withSign (h.digits c List.mem_cons_self) (isNumberChar_whole h) negative).2
    (looksFloat_whole h negative) (looksInt_whole h negative)

theorem ofPlain_pointed {whole fraction power : List Char}
    (h : IsPointed whole fraction power) (negative : Bool) :
    ofPlain (withSign negative (whole ++ '.' :: fraction ++ power)) = .float := by
  have hchars := isNumberChar_pointed h
  have hfloat := looksFloat_pointed h negative
  obtain ⟨c, cs, rfl⟩ := List.exists_cons_of_ne_nil h.whole.nonempty
  exact (ofPlain_withSign (h.whole.digits c List.mem_cons_self) hchars negative).1 hfloat

end Tag

/-! ## What the numbers are -/

theorem digitsValue?_digits {ds : List Char} (hne : ds ≠ []) (h : IsDigits ds) :
    digitsValue? 10 ds = some (Binary64.digitsValue ds) := by
  have hdigit : ∀ {c}, Binary64.isDigit c = true →
      (digitValue? c).filter (· < 10) = some (c.toNat - 48) :=
    of_isDigit (P := fun c => (digitValue? c).filter (· < 10) = some (c.toNat - 48)) (by decide)
  have hfold : ∀ n, ds.foldlM (fun n c => ((digitValue? c).filter (· < 10)).map (n * 10 + ·)) n =
      some (ds.foldl (fun n c => n * 10 + (c.toNat - 48)) n) := by
    induction ds with
    | nil => exact fun n => rfl
    | cons d ds ih =>
        intro n
        rw [List.foldlM_cons, hdigit (h d List.mem_cons_self)]
        by_cases hds : ds = []
        · subst hds
          rfl
        · exact ih hds h.tail (n * 10 + (d.toNat - 48))
  rw [digitsValue?, if_neg hne]
  exact hfold 0

theorem takeSign_digits {c : Char} (h : Binary64.isDigit c = true) (cs : List Char) :
    takeSign (c :: cs) = (false, c :: cs) := by
  rw [takeSign]
  · intro _ he
    rw [(List.cons.inj he).1] at h
    cases h
  · intro _ he
    rw [(List.cons.inj he).1] at h
    cases h

theorem asciiDigits_number {cs : List Char} (h : ∀ c ∈ cs, isNumberChar c = true) :
    asciiDigits cs = cs :=
  asciiDigits_eq_self fun c hc => of_isNumberChar (P := fun c => c.toNat < 127) (by decide) (h c hc)

theorem trimAscii_number {cs : List Char} (h : ∀ c ∈ cs, isNumberChar c = true) :
    trimAscii cs = cs :=
  trimAscii_eq_self fun c hc => of_isNumberChar (P := fun c => isAsciiBlank c = false) (by decide)
    (h c hc)

theorem readInteger?_digits {ds : List Char} (hne : ds ≠ []) (h : IsDigits ds)
    (hlength : ds.length ≤ maxDigits) :
    readInteger? 10 ds = some (Binary64.digitsValue ds : Int) := by
  have hchars : ∀ c ∈ ds, isNumberChar c = true := fun c hc => isNumberChar_of_isDigit (h c hc)
  have hgroup : splitAll '_' ds = [ds] :=
    splitAll_of_notMem (notMem_of_isNumberChar hchars (by decide))
  have hmark : dropBaseMark 10 ds = ds := by
    rw [dropBaseMark.eq_def]
    split
    · rfl
    · rfl
  have hvalue : groupedValue? 10 ds = some (Binary64.digitsValue ds) := by
    rw [groupedValue?, hgroup, ← digitsValue?_digits hne h]
    simp [hne, Nat.not_lt.2 hlength]
  obtain ⟨c, cs, rfl⟩ := List.exists_cons_of_ne_nil hne
  rw [readInteger?, asciiDigits_number hchars, trimAscii_number hchars,
    takeSign_digits (h c List.mem_cons_self)]
  simp only [hmark, hvalue]
  rfl

theorem filter_number {cs : List Char} (h : ∀ c ∈ cs, isNumberChar c = true) (negative : Bool) :
    (withSign negative cs).filter (· != '_') = withSign negative cs := by
  rw [List.filter_eq_self]
  intro c hc
  refine of_isNumberChar (P := fun c => (c != '_') = true) (by decide) ?_
  cases negative with
  | true =>
      rcases List.mem_cons.1 hc with rfl | hc
      · decide
      · exact h c hc
  | false => exact h c hc

/-- The sign of a number is taken off. -/
theorem signed?_withSign {c : Char} (h : Binary64.isDigit c = true) (negative : Bool)
    (cs : List Char) : signed? (withSign negative (c :: cs)) = some (negative, c :: cs) := by
  cases negative with
  | true => rfl
  | false =>
      rw [withSign, if_neg Bool.false_ne_true, signed?.eq_def]
      split
      · next he => cases he
      · next he =>
          rw [(List.cons.inj he).1] at h
          cases h
      · next he =>
          rw [(List.cons.inj he).1] at h
          cases h
      · rfl

theorem wholeNumber_whole {ds : List Char} (h : IsWhole ds) (hlength : ds.length ≤ maxDigits) :
    wholeNumber ds = .ok (Binary64.digitsValue ds : Int) := by
  rcases h.lead with rfl | hlead
  · rfl
  · have hcolon : ds.contains ':' = false := by
      simpa using notMem_of_isNumberChar (isNumberChar_whole h) (c := ':') (by decide)
    rw [wholeNumber.eq_def]
    split
    · exact absurd rfl h.nonempty
    · exact absurd rfl hlead
    · exact absurd rfl hlead
    · exact absurd rfl hlead
    · exact absurd rfl hlead
    · simp only [hcolon, readInteger?_digits h.nonempty h.digits hlength]
      rfl

/-- A whole number is the integer that it is in JSON. -/
theorem intOf_whole {ds : List Char} (h : IsWhole ds) (hlength : ds.length ≤ maxDigits)
    (negative : Bool) : intOf (withSign negative ds) =
      .ok (if negative then -(Binary64.digitsValue ds : Int) else Binary64.digitsValue ds) := by
  rw [intOf, filter_number (isNumberChar_whole h)]
  obtain ⟨c, cs, rfl⟩ := List.exists_cons_of_ne_nil h.nonempty
  rw [signed?_withSign (h.digits c List.mem_cons_self)]
  simp only [wholeNumber_whole h hlength]
  rfl

/-! ### Pointed numbers -/

/-- The power of ten that a text stands for, if any; nothing is the power zero. -/
def powerOf? (power : List Char) : Option Int :=
  match power with
  | [] => some 0
  | _ :: ds => Binary64.readPower? ds

/-- A pointed number is its digits with a power of ten. -/
theorem readDigits?_pointed {whole fraction power : List Char}
    (h : IsPointed whole fraction power) (negative : Bool) :
    Binary64.readDigits? negative (whole ++ '.' :: fraction ++ power) =
      (powerOf? power).map fun p => Binary64.ofDecimal negative
        (Binary64.digitsValue (whole ++ fraction)) (p - (fraction.length : Int)) := by
  have hrun : power.takeWhile Binary64.isDigit = [] ∧ power.dropWhile Binary64.isDigit = power := by
    rcases h.power with rfl | ⟨e, sign, ds, he, -, -, -, rfl⟩
    · exact ⟨rfl, rfl⟩
    · rcases he with rfl | rfl <;> exact ⟨rfl, rfl⟩
  have htake : (whole ++ '.' :: (fraction ++ power)).takeWhile Binary64.isDigit = whole := by
    rw [List.takeWhile_append_of_pos h.whole.digits, List.takeWhile_cons_of_neg (by decide),
      List.append_nil]
  have hdrop : (whole ++ '.' :: (fraction ++ power)).dropWhile Binary64.isDigit =
      '.' :: (fraction ++ power) := by
    rw [List.dropWhile_append_of_pos h.whole.digits, List.dropWhile_cons_of_neg (by decide)]
  have htake' : (fraction ++ power).takeWhile Binary64.isDigit = fraction := by
    rw [List.takeWhile_append_of_pos h.fraction, hrun.1, List.append_nil]
  have hdrop' : (fraction ++ power).dropWhile Binary64.isDigit = power := by
    rw [List.dropWhile_append_of_pos h.fraction, hrun.2]
  rw [List.append_assoc, List.cons_append, Binary64.readDigits?]
  simp only [htake, hdrop, htake', hdrop']
  rw [if_neg (by simp [h.nonempty])]
  rcases h.power with rfl | ⟨e, sign, ds, he, -, -, -, rfl⟩
  · simp only [powerOf?, Option.map_some, Int.zero_sub]
  · rcases he with rfl | rfl <;> rfl

theorem neg_ofDecimal (negative : Bool) (m : Nat) (exponent : Int) :
    (Binary64.ofDecimal negative m exponent).neg = Binary64.ofDecimal (!negative) m exponent := by
  have hround : ∀ num den, (Binary64.round negative num den).neg =
      Binary64.round (!negative) num den := by
    intro num den
    simp only [Binary64.round]
    split
    · rfl
    · rfl
  simp only [Binary64.ofDecimal, Binary64.ofRatio]
  split
  · rfl
  split
  · rfl
  split
  · exact hround _ _
  · exact hround _ _

theorem toLower_digit {c : Char} (h : Binary64.isDigit c = true) : c.toLower = c :=
  of_isDigit (P := fun c => c.toLower = c) (by decide) h

theorem map_toLower_digits {ds : List Char} (h : IsDigits ds) : ds.map Char.toLower = ds :=
  (List.map_congr_left fun c hc => toLower_digit (h c hc)).trans (List.map_id ds)

/-- In lower case a pointed number has the same digits and the same power. -/
theorem exists_toLower_pointed {whole fraction power : List Char}
    (h : IsPointed whole fraction power) : ∃ power', IsPointed whole fraction power' ∧
      powerOf? power' = powerOf? power ∧ (whole ++ '.' :: fraction ++ power).map Char.toLower =
        whole ++ '.' :: fraction ++ power' := by
  have hmap : ∀ power', power.map Char.toLower = power' →
      (whole ++ '.' :: fraction ++ power).map Char.toLower = whole ++ '.' :: fraction ++ power' := by
    intro power' hp
    rw [List.map_append, List.map_append, List.map_cons, map_toLower_digits h.whole.digits,
      map_toLower_digits h.fraction, hp]
    rfl
  rcases h.power with rfl | ⟨e, sign, ds, he, hsign, hne, hds, rfl⟩
  · exact ⟨[], h, rfl, hmap [] rfl⟩
  · refine ⟨'e' :: sign :: ds, { h with power := ?_ }, rfl, hmap _ ?_⟩
    · exact Or.inr ⟨'e', sign, ds, Or.inl rfl, hsign, hne, hds, rfl⟩
    · rw [List.map_cons, List.map_cons, map_toLower_digits hds]
      rcases he with rfl | rfl <;> rcases hsign with rfl | rfl <;> rfl

theorem dropUnderscores?_of_notMem {cs : List Char} (h : '_' ∉ cs) {before : Option Char}
    (hb : before ≠ some '_') : Binary64.dropUnderscores? before cs = some cs := by
  induction cs generalizing before with
  | nil => rw [Binary64.dropUnderscores?, if_neg hb]
  | cons c cs ih =>
      rw [List.mem_cons, not_or] at h
      rw [Binary64.dropUnderscores?, if_neg (Ne.symm h.1), if_neg (by simp [hb]),
        ih h.2 fun hc => h.1 (Option.some.inj hc).symm]
      rfl

/-- A number that a document reads is read by its digits. -/
theorem read?_number {c : Char} {cs : List Char} (hc : Binary64.isDigit c = true)
    (h : ∀ d ∈ c :: cs, isNumberChar d = true) :
    Binary64.read? (c :: cs) = Binary64.readDigits? false (c :: cs) := by
  have hword : ∀ s : String, s.toList.head?.any Binary64.isDigit = false →
      String.ofList ((c :: cs).map Char.toLower) ≠ s := by
    rintro s hs rfl
    rw [String.toList_ofList, List.map_cons, List.head?_cons, Option.any_some, toLower_digit hc,
      hc] at hs
    cases hs
  rw [Binary64.read?, asciiDigits_number h, trimAscii_number h,
    dropUnderscores?_of_notMem (notMem_of_isNumberChar h (by decide)) (Option.some_ne_none '_').symm]
  simp only [Option.bind_eq_bind, Option.bind_some, takeSign_digits hc]
  split
  · next he => exact absurd he (hword _ (by decide))
  · next he => exact absurd he (hword _ (by decide))
  · next he => exact absurd he (hword _ (by decide))
  · rfl

theorem pointedNumber_number {c : Char} {cs : List Char} {x : Binary64}
    (hc : Binary64.isDigit c = true) (h : ∀ d ∈ c :: cs, isNumberChar d = true)
    (hx : Binary64.readDigits? false (c :: cs) = some x) : pointedNumber (c :: cs) = .ok x := by
  have hpoint : c ≠ '.' := by
    rintro rfl
    cases hc
  have hinf : c :: cs ≠ ".inf".toList := fun he => hpoint (List.cons.inj he).1
  have hnan : c :: cs ≠ ".nan".toList := fun he => hpoint (List.cons.inj he).1
  have hcolon : (c :: cs).contains ':' = false := by
    simpa using notMem_of_isNumberChar h (c := ':') (by decide)
  rw [pointedNumber, if_neg hinf, if_neg hnan, hcolon, if_neg Bool.false_ne_true]
  simp only [read?_number hc h, hx]

/-- A pointed number is the floating-point number that it is in JSON. -/
theorem floatOf_pointed {whole fraction power : List Char} {x : Binary64} {negative : Bool}
    (h : IsPointed whole fraction power)
    (hx : Binary64.readDigits? negative (whole ++ '.' :: fraction ++ power) = some x) :
    floatOf (withSign negative (whole ++ '.' :: fraction ++ power)) = .ok x := by
  obtain ⟨power', h', hp, hlower⟩ := exists_toLower_pointed h
  rw [readDigits?_pointed h, ← hp, Option.map_eq_some_iff] at hx
  obtain ⟨p, hp', rfl⟩ := hx
  have hread := readDigits?_pointed h' false
  rw [hp', Option.map_some] at hread
  have hsigned : (withSign negative (whole ++ '.' :: fraction ++ power)).map Char.toLower =
      withSign negative (whole ++ '.' :: fraction ++ power') := by
    cases negative with
    | true => exact congrArg ('-' :: ·) hlower
    | false => exact hlower
  have hchars := isNumberChar_pointed h'
  rw [floatOf, filter_number (isNumberChar_pointed h), hsigned]
  obtain ⟨c, cs, rfl⟩ := List.exists_cons_of_ne_nil h.whole.nonempty
  have hc := h.whole.digits c List.mem_cons_self
  rw [List.cons_append, List.cons_append] at hread hchars ⊢
  rw [signed?_withSign hc]
  simp only [pointedNumber_number hc hchars hread]
  cases negative with
  | true => simp only [Except.map, if_true, neg_ofDecimal, Bool.not_false]
  | false => simp only [Except.map, if_neg Bool.false_ne_true]

end AppCatalog.Yaml
