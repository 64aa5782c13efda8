import AppCatalog.Proofs.Text.Split
import AppCatalog.Text.Integer
import Mathlib.Algebra.Group.Nat.Defs
import Mathlib.Data.Bool.AllAny

/-!
# Integers in base sixteen

More than digits is read as an integer in base sixteen: blanks at both ends, a sign, the announcement
of the base and single underscores between digits are taken as well. `Spells` lists all of it with
the integer that it stands for, and the reader takes neither more nor less
(`readInteger?_eq_some_iff`).
-/

namespace AppCatalog.Text

/-- The hexadecimal digits in either case. -/
def hexCharacters : List Char :=
  ['0', '1', '2', '3', '4', '5', '6', '7', '8', '9', 'a', 'b', 'c', 'd', 'e', 'f',
    'A', 'B', 'C', 'D', 'E', 'F']

/-- The number that hexadecimal digits stand for. -/
def hexNumber (cs : List Char) : Nat := cs.foldl (fun n c => n * 16 + (hexValue? c).getD 0) 0

/-- Runs of hexadecimal digits with single underscores between them. -/
inductive Grouped : List Char → Prop
  | run {g : List Char} (hne : g ≠ []) (h : ∀ c ∈ g, c ∈ hexCharacters) : Grouped g
  | cons {g cs : List Char} (hne : g ≠ []) (h : ∀ c ∈ g, c ∈ hexCharacters) (hc : Grouped cs) :
    Grouped (g ++ '_' :: cs)

def signs : List (List Char) := [[], ['+'], ['-']]

/-- What may announce base sixteen. -/
def hexMarks : List (List Char) := [[], ['0', 'x'], ['0', 'X'], ['0', 'x', '_'], ['0', 'X', '_']]

/-- A text that stands for an integer in base sixteen. -/
inductive Spells : List Char → Int → Prop
  | intro {front sign mark digits back : List Char} {n : Nat}
    (hf : ∀ c ∈ front, isAsciiBlank c = true) (hs : sign ∈ signs) (hm : mark ∈ hexMarks)
    (hd : Grouped digits) (hn : hexNumber (digits.filter (· != '_')) = n)
    (hb : ∀ c ∈ back, isAsciiBlank c = true) :
    Spells (front ++ (sign ++ (mark ++ digits)) ++ back) (if sign = ['-'] then -n else n)

/-! ## Digits -/

/-- What can be checked of the digits holds of every digit. -/
theorem of_mem_hexCharacters {P : Char → Prop} [DecidablePred P]
    (h : (hexCharacters.all fun c => P c) = true) {c : Char} (hc : c ∈ hexCharacters) : P c :=
  List.all_iff_forall_prop.1 h c hc

theorem isSome_hexValue?_iff {c : Char} : (hexValue? c).isSome = true ↔ c ∈ hexCharacters := by
  constructor
  · have hall : ∀ n < 127, (hexValue? (Char.ofNat n)).isSome = true →
        Char.ofNat n ∈ hexCharacters := by decide
    intro h
    have hlt : c.toNat < 127 := by
      by_cases hc : c.toNat ≤ 122
      · omega
      · have hd : digitValue? c = none := by
          rw [digitValue?, if_neg, if_neg, if_neg]
          all_goals simp only [Bool.and_eq_true, decide_eq_true_eq]; omega
        rw [hexValue?, hd] at h
        cases h
    rw [← Char.ofNat_toNat c] at h ⊢
    exact hall c.toNat hlt h
  · exact of_mem_hexCharacters (P := fun c => (hexValue? c).isSome = true) (by decide)

theorem hexNumber_lt (cs : List Char) : hexNumber cs < 16 ^ cs.length := by
  have hdigit : ∀ c, (hexValue? c).getD 0 < 16 := by
    intro c
    cases hc : hexValue? c with
    | none => decide
    | some d => exact of_decide_eq_true (Option.filter_eq_some_iff.1 hc).2
  have hfold : ∀ n, cs.foldl (fun n c => n * 16 + (hexValue? c).getD 0) n <
      (n + 1) * 16 ^ cs.length := by
    induction cs with
    | nil =>
        intro n
        rw [List.foldl_nil, List.length_nil, Nat.pow_zero, Nat.mul_one]
        exact Nat.lt_succ_self n
    | cons c cs ih =>
        intro n
        have hle : n * 16 + (hexValue? c).getD 0 + 1 ≤ (n + 1) * 16 := by
          have := hdigit c
          omega
        rw [List.foldl_cons, List.length_cons, Nat.pow_succ, Nat.mul_comm (16 ^ _), ← Nat.mul_assoc]
        exact Nat.lt_of_lt_of_le (ih _) (Nat.mul_le_mul_right _ hle)
  have hnumber := hfold 0
  rwa [Nat.zero_add, Nat.one_mul] at hnumber

theorem digitsValue?_eq_some_iff {cs : List Char} {n : Nat} :
    digitsValue? 16 cs = some n ↔
      cs ≠ [] ∧ (∀ c ∈ cs, c ∈ hexCharacters) ∧ hexNumber cs = n := by
  have hfold : ∀ m, cs.foldlM (fun m c => (hexValue? c).map (m * 16 + ·)) m = some n ↔
      (∀ c ∈ cs, c ∈ hexCharacters) ∧
        cs.foldl (fun m c => m * 16 + (hexValue? c).getD 0) m = n := by
    induction cs with
    | nil => simp
    | cons c cs ih =>
        intro m
        rw [List.foldlM_cons, List.foldl_cons, List.forall_mem_cons, ← isSome_hexValue?_iff]
        cases hc : hexValue? c with
        | none => simp
        | some d => simp [ih]
  by_cases hcs : cs = []
  · simp [digitsValue?, hcs]
  · rw [digitsValue?, if_neg hcs]
    exact (hfold 0).trans ⟨fun h => ⟨hcs, h⟩, fun h => h.2⟩

theorem notMem_of_hexCharacters {cs : List Char} (h : ∀ c ∈ cs, c ∈ hexCharacters) :
    '_' ∉ cs := by
  intro hc
  exact absurd (h '_' hc) (by decide)

namespace Grouped

variable {cs : List Char} (h : Grouped cs)
include h

theorem mem : ∀ c ∈ cs, c = '_' ∨ c ∈ hexCharacters := by
  induction h with
  | run _ hg => exact fun c hc => Or.inr (hg c hc)
  | cons _ hg _ ih =>
      intro c hc
      rcases List.mem_append.1 hc with hc | hc
      · exact Or.inr (hg c hc)
      · rcases List.mem_cons.1 hc with rfl | hc
        · exact Or.inl rfl
        · exact ih c hc

/-- Digits begin with a digit. -/
theorem exists_cons : ∃ c ds, cs = c :: ds ∧ c ∈ hexCharacters := by
  cases h with
  | run hne hg =>
      obtain ⟨c, ds, rfl⟩ := List.exists_cons_of_ne_nil hne
      exact ⟨c, ds, rfl, hg c List.mem_cons_self⟩
  | cons hne hg _ =>
      obtain ⟨c, ds, rfl⟩ := List.exists_cons_of_ne_nil hne
      exact ⟨c, _, rfl, hg c List.mem_cons_self⟩

end Grouped

theorem grouped_iff {cs : List Char} :
    Grouped cs ↔ ∀ g ∈ splitAll '_' cs, g ≠ [] ∧ ∀ c ∈ g, c ∈ hexCharacters := by
  constructor
  · intro h
    induction h with
    | run hne hg =>
        rw [splitAll_of_notMem (notMem_of_hexCharacters hg), List.forall_mem_singleton]
        exact ⟨hne, hg⟩
    | cons hne hg _ ih =>
        rw [splitAll_append_cons (notMem_of_hexCharacters hg), List.forall_mem_cons]
        exact ⟨⟨hne, hg⟩, ih⟩
  · have hall : ∀ parts : List (List Char), parts ≠ [] →
        (∀ g ∈ parts, g ≠ [] ∧ ∀ c ∈ g, c ∈ hexCharacters) →
        Grouped (List.intercalate ['_'] parts) := by
      intro parts hne hparts
      induction parts with
      | nil => exact absurd rfl hne
      | cons g parts ih =>
          rw [List.forall_mem_cons] at hparts
          by_cases hp : parts = []
          · rw [hp, List.intercalate_singleton]
            exact .run hparts.1.1 hparts.1.2
          · rw [List.intercalate_cons_of_ne_nil hp, List.append_assoc]
            exact .cons hparts.1.1 hparts.1.2 (ih hp hparts.2)
    intro h
    rw [← intercalate_splitAll '_' cs]
    exact hall _ (splitAll_ne_nil '_' cs) h

theorem groupedValue?_eq_some_iff {cs : List Char} {n : Nat} :
    groupedValue? 16 cs = some n ↔ Grouped cs ∧ hexNumber (cs.filter (· != '_')) = n := by
  have hvalue : groupedValue? 16 cs = if ∀ g ∈ splitAll '_' cs, g ≠ [] then
      digitsValue? 16 (splitAll '_' cs).flatten else none := by
    simp [groupedValue?]
  have hchars : (∀ c ∈ (splitAll '_' cs).flatten, c ∈ hexCharacters) ↔
      ∀ g ∈ splitAll '_' cs, ∀ c ∈ g, c ∈ hexCharacters := by
    simp only [List.mem_flatten]
    exact ⟨fun h g hg c hc => h c ⟨g, hg, hc⟩, fun h c ⟨g, hg, hc⟩ => h g hg c hc⟩
  rw [hvalue, grouped_iff, ← flatten_splitAll]
  split
  · next hg =>
      have hne : (splitAll '_' cs).flatten ≠ [] := by
        obtain ⟨g, hmem⟩ := List.exists_mem_of_ne_nil _ (splitAll_ne_nil '_' cs)
        exact fun he => hg g hmem (List.flatten_eq_nil_iff.1 he g hmem)
      rw [digitsValue?_eq_some_iff, hchars]
      exact ⟨fun ⟨_, hc, hn⟩ => ⟨fun g hm => ⟨hg g hm, hc g hm⟩, hn⟩,
        fun ⟨hc, hn⟩ => ⟨hne, fun g hm => (hc g hm).2, hn⟩⟩
  · next hg => exact ⟨fun h => (nomatch h), fun h => absurd (fun g hm => (h.1 g hm).1) hg⟩

/-! ## Blanks, signs and marks -/

theorem asciiDigits_eq_self {cs : List Char} (h : ∀ c ∈ cs, c.toNat < 127) :
    asciiDigits cs = cs := by
  rw [asciiDigits]
  refine (List.map_congr_left ?_).trans (List.map_id cs)
  intro c hc
  rw [if_pos (h c hc), id]

theorem dropWhile_asciiBlank {cs : List Char} (h : ∀ c ∈ cs, isAsciiBlank c = false) :
    cs.dropWhile isAsciiBlank = cs := by
  cases cs with
  | nil => rfl
  | cons c cs => rw [List.dropWhile_cons, h c List.mem_cons_self, if_neg Bool.false_ne_true]

theorem trimAscii_eq_self {cs : List Char} (h : ∀ c ∈ cs, isAsciiBlank c = false) :
    trimAscii cs = cs := by
  rw [trimAscii, dropWhile_asciiBlank h,
    dropWhile_asciiBlank fun c hc => h c (List.mem_reverse.1 hc), List.reverse_reverse]

theorem trimAscii_append {front cs back : List Char} (hf : ∀ c ∈ front, isAsciiBlank c = true)
    (hne : cs ≠ []) (hc : ∀ c ∈ cs, isAsciiBlank c = false)
    (hb : ∀ c ∈ back, isAsciiBlank c = true) : trimAscii (front ++ cs ++ back) = cs := by
  have hstart : (front ++ cs ++ back).dropWhile isAsciiBlank = cs ++ back := by
    rw [List.append_assoc, List.dropWhile_append_of_pos hf, List.dropWhile_append,
      dropWhile_asciiBlank hc, if_neg (by simpa using hne)]
  rw [trimAscii, hstart, List.reverse_append,
    List.dropWhile_append_of_pos fun c h => hb c (List.mem_reverse.1 h),
    dropWhile_asciiBlank fun c h => hc c (List.mem_reverse.1 h), List.reverse_reverse]

theorem exists_trimAscii (cs : List Char) : ∃ front back,
    (∀ c ∈ front, isAsciiBlank c = true) ∧ (∀ c ∈ back, isAsciiBlank c = true) ∧
      cs = front ++ trimAscii cs ++ back := by
  refine ⟨cs.takeWhile isAsciiBlank,
    ((cs.dropWhile isAsciiBlank).reverse.takeWhile isAsciiBlank).reverse,
    List.all_eq_true.1 List.all_takeWhile, ?_, ?_⟩
  · intro c hc
    exact List.all_eq_true.1 List.all_takeWhile c (List.mem_reverse.1 hc)
  · rw [trimAscii, List.append_assoc, ← List.reverse_append, List.takeWhile_append_dropWhile,
      List.reverse_reverse, List.takeWhile_append_dropWhile]

theorem takeSign_append {sign : List Char} (h : sign ∈ signs) {c : Char}
    (hc : c ≠ '+' ∧ c ≠ '-') (cs : List Char) :
    takeSign (sign ++ c :: cs) = (decide (sign = ['-']), c :: cs) := by
  simp only [signs, List.mem_cons, List.not_mem_nil, or_false] at h
  rcases h with rfl | rfl | rfl
  · rw [List.nil_append, takeSign]
    · rfl
    · rintro _ he
      exact hc.1 (List.cons.inj he).1
    · rintro _ he
      exact hc.2 (List.cons.inj he).1
  · rfl
  · rfl

theorem exists_takeSign (cs : List Char) : ∃ sign ∈ signs,
    (takeSign cs).1 = decide (sign = ['-']) ∧ cs = sign ++ (takeSign cs).2 := by
  rw [takeSign.eq_def]
  split
  · exact ⟨['+'], by decide, rfl, rfl⟩
  · exact ⟨['-'], by decide, rfl, rfl⟩
  · exact ⟨[], by decide, rfl, rfl⟩

theorem dropBaseMark_append {mark : List Char} (h : mark ∈ hexMarks) {cs : List Char}
    (hc : Grouped cs) : dropBaseMark 16 (mark ++ cs) = cs := by
  obtain ⟨c, ds, rfl, hd⟩ := hc.exists_cons
  have hu : c ≠ '_' := by
    rintro rfl
    exact absurd hd (by decide)
  simp only [hexMarks, List.mem_cons, List.not_mem_nil, or_false] at h
  rcases h with rfl | rfl | rfl | rfl | rfl
  · rw [List.nil_append, dropBaseMark.eq_def]
    split
    · next m rest he =>
        rw [List.cons.injEq] at he
        obtain ⟨rfl, rfl⟩ := he
        have hx : m ≠ 'x' ∧ m ≠ 'X' := by
          constructor
          all_goals
            rintro rfl
            exact absurd (hc.mem _ (List.mem_cons_of_mem _ List.mem_cons_self)) (by decide)
        rw [if_neg (by simp [hx])]
    · rfl
  all_goals simp [dropBaseMark, hu]

theorem exists_dropBaseMark (cs : List Char) :
    ∃ mark ∈ hexMarks, cs = mark ++ dropBaseMark 16 cs := by
  rw [dropBaseMark.eq_def]
  split
  · next m rest =>
      split
      · next hm =>
          have hx : m = 'x' ∨ m = 'X' := by simpa using hm
          split
          · rcases hx with rfl | rfl
            · exact ⟨['0', 'x', '_'], by decide, rfl⟩
            · exact ⟨['0', 'X', '_'], by decide, rfl⟩
          · rcases hx with rfl | rfl
            · exact ⟨['0', 'x'], by decide, rfl⟩
            · exact ⟨['0', 'X'], by decide, rfl⟩
      · exact ⟨[], by decide, rfl⟩
  · exact ⟨[], by decide, rfl⟩

/-! ## The reader -/

/-- What stands between the blanks holds no other blank, and no backslash either. -/
theorem not_blank_of_grouped {sign mark digits : List Char} (hs : sign ∈ signs)
    (hm : mark ∈ hexMarks) (hd : Grouped digits) :
    ∀ c ∈ sign ++ (mark ++ digits), isAsciiBlank c = false ∧ c ≠ '\\' := by
  have hplain : ∀ ts : List (List Char),
      (ts.flatten.all fun c => isAsciiBlank c = false ∧ c ≠ '\\') = true →
      ∀ t ∈ ts, ∀ c ∈ t, isAsciiBlank c = false ∧ c ≠ '\\' := fun ts h t ht c hc =>
    List.all_iff_forall_prop.1 h c (List.mem_flatten.2 ⟨t, ht, hc⟩)
  intro c hc
  rw [List.mem_append, List.mem_append] at hc
  rcases hc with hc | hc | hc
  · exact hplain signs (by decide) sign hs c hc
  · exact hplain hexMarks (by decide) mark hm c hc
  · rcases hd.mem c hc with rfl | hx
    · decide
    · exact of_mem_hexCharacters (P := fun c => isAsciiBlank c = false ∧ c ≠ '\\') (by decide) hx

theorem exists_cons_of_grouped {mark digits : List Char} (hm : mark ∈ hexMarks)
    (hd : Grouped digits) : ∃ c cs, mark ++ digits = c :: cs ∧ c ≠ '+' ∧ c ≠ '-' := by
  obtain ⟨c, ds, rfl, hc⟩ := hd.exists_cons
  cases mark with
  | nil =>
      exact ⟨c, ds, rfl, of_mem_hexCharacters (P := fun c => c ≠ '+' ∧ c ≠ '-') (by decide) hc⟩
  | cons m mark =>
      have hmarks : (hexMarks.flatten.all fun c => c ≠ '+' ∧ c ≠ '-') = true := by decide
      exact ⟨m, mark ++ c :: ds, rfl, List.all_iff_forall_prop.1 hmarks m
        (List.mem_flatten.2 ⟨_, hm, List.mem_cons_self⟩)⟩

/-- What is read as an integer in base sixteen. -/
theorem readInteger?_eq_some_iff {cs : List Char} {i : Int} :
    readInteger? 16 cs = some i ↔ Spells (asciiDigits cs) i := by
  generalize hds : asciiDigits cs = ds
  have hread : readInteger? 16 cs = (groupedValue? 16
      (dropBaseMark 16 (takeSign (trimAscii ds)).2)).map
        fun n : Nat => if (takeSign (trimAscii ds)).1 then -(n : Int) else n := by
    rw [readInteger?, hds]
    cases hg : groupedValue? 16 (dropBaseMark 16 (takeSign (trimAscii ds)).2) with
    | none => simp only [hg]; rfl
    | some n => simp only [hg]; rfl
  rw [hread, Option.map_eq_some_iff]
  constructor
  · rintro ⟨n, hn, rfl⟩
    obtain ⟨front, back, hf, hb, htrim⟩ := exists_trimAscii ds
    obtain ⟨sign, hs, hminus, hsign⟩ := exists_takeSign (trimAscii ds)
    obtain ⟨mark, hm, hmark⟩ := exists_dropBaseMark (takeSign (trimAscii ds)).2
    obtain ⟨hd, hn⟩ := groupedValue?_eq_some_iff.1 hn
    have hspells := Spells.intro hf hs hm hd hn hb
    rw [← hmark, ← hsign, ← htrim] at hspells
    simpa only [hminus, decide_eq_true_eq] using hspells
  · rintro @⟨front, sign, mark, digits, back, n, hf, hs, hm, hd, hn, hb⟩
    obtain ⟨c, rest, hc, hsign⟩ := exists_cons_of_grouped hm hd
    have htrim : trimAscii (front ++ (sign ++ (mark ++ digits)) ++ back) =
        sign ++ (mark ++ digits) :=
      trimAscii_append hf (by simp [hc]) (fun c hc => (not_blank_of_grouped hs hm hd c hc).1) hb
    refine ⟨n, ?_, ?_⟩
    · rw [htrim, hc, takeSign_append hs hsign, ← hc, dropBaseMark_append hm hd]
      exact groupedValue?_eq_some_iff.2 ⟨hd, hn⟩
    · rw [htrim, hc, takeSign_append hs hsign]
      simp only [decide_eq_true_eq]

/-- Hexadecimal digits are read as their number. -/
theorem readInteger?_hexCharacters {cs : List Char} (hne : cs ≠ [])
    (h : ∀ c ∈ cs, c ∈ hexCharacters) : readInteger? 16 cs = some (hexNumber cs : Int) := by
  have hascii : asciiDigits cs = cs :=
    asciiDigits_eq_self fun c hc =>
      of_mem_hexCharacters (P := fun c => c.toNat < 127) (by decide) (h c hc)
  have hfilter : cs.filter (· != '_') = cs :=
    List.filter_eq_self.2 fun c hc =>
      of_mem_hexCharacters (P := fun c => (c != '_') = true) (by decide) (h c hc)
  have hnone : ∀ c ∈ ([] : List Char), isAsciiBlank c = true := fun _ hc => (nomatch hc)
  have hspells := @Spells.intro [] [] [] cs [] _ hnone (by decide) (by decide) (.run hne h) rfl hnone
  rw [hfilter] at hspells
  rw [readInteger?_eq_some_iff, hascii]
  simpa using hspells

/-- Nothing that is read as an integer holds a backslash. -/
theorem Spells.notMem {cs : List Char} {i : Int} (h : Spells cs i) : '\\' ∉ cs := by
  obtain @⟨front, sign, mark, digits, back, n, hf, hs, hm, hd, hn, hb⟩ := h
  intro hc
  rw [List.mem_append, List.mem_append] at hc
  rcases hc with (hc | hc) | hc
  · exact absurd (hf _ hc) (by decide)
  · exact (not_blank_of_grouped hs hm hd _ hc).2 rfl
  · exact absurd (hb _ hc) (by decide)

/-- An integer is no larger than so many digits can spell. -/
theorem Spells.natAbs_lt {cs : List Char} {i : Int} (h : Spells cs i) :
    i.natAbs < 16 ^ cs.length := by
  obtain @⟨front, sign, mark, digits, back, n, hf, hs, hm, hd, hn, hb⟩ := h
  have habs : (if sign = ['-'] then -(n : Int) else n).natAbs = n := by
    split
    · rw [Int.natAbs_neg, Int.natAbs_natCast]
    · exact Int.natAbs_natCast n
  have hlen : (digits.filter (· != '_')).length ≤
      (front ++ (sign ++ (mark ++ digits)) ++ back).length := by
    have hfilter := List.length_filter_le (· != '_') digits
    simp only [List.length_append]
    omega
  rw [habs, ← hn]
  exact Nat.lt_of_lt_of_le (hexNumber_lt _) (Nat.pow_le_pow_right (by decide) hlen)

end AppCatalog.Text
