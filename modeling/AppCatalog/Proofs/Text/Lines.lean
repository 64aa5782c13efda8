import AppCatalog.Text.Lines

/-!
# Lines of a text

What stands in front of a text and ends no line goes to the front of its first line (`lines_append`).
A text that ends in a line end has its lines in front of those of what follows, unless a carriage
return and a line feed come together at the joint (`lines_append_of_endsLine`).
-/

namespace AppCatalog.Text

theorem lines_cons {c : Char} (h : isLineEnd c = false) (cs : List Char) :
    lines (c :: cs) = match lines cs with
      | [] => [[c]]
      | l :: ls => (c :: l) :: ls := by
  rw [lines]
  · cases lines cs <;> simp only [h, Bool.false_eq_true, if_false]
  · rintro _ rfl _
    exact absurd h (by decide)

/-- A line end leaves nothing in front of it and the lines behind it. -/
theorem mem_lines_cons {c : Char} {cs l : List Char} (h : isLineEnd c = true)
    (hl : l ∈ lines (c :: cs)) : l = [] ∨ l ∈ lines cs := by
  rw [lines.eq_def] at hl
  split at hl
  · next he => cases he
  · next he =>
      cases he
      rw [lines_newline]
      exact Or.inr hl
  · next he =>
      cases he
      rw [if_pos h, List.mem_cons] at hl
      exact hl

theorem lines_append {ts : List Char} (h : ∀ c ∈ ts, isLineEnd c = false) (hne : ts ≠ [])
    (cs : List Char) :
    lines (ts ++ cs) = match lines cs with
      | [] => [ts]
      | l :: ls => (ts ++ l) :: ls := by
  induction ts with
  | nil => exact absurd rfl hne
  | cons t ts ih =>
      rw [List.cons_append, lines_cons (h t List.mem_cons_self)]
      by_cases hts : ts = []
      · subst hts
        rw [List.nil_append]
        cases lines cs <;> rfl
      · rw [ih (fun c hc => h c (List.mem_cons_of_mem t hc)) hts]
        cases lines cs <;> rfl

/-- A text without line ends and a line feed behind it are one line. -/
theorem lines_line {l : List Char} (h : ∀ c ∈ l, isLineEnd c = false) (rest : List Char) :
    lines (l ++ '\n' :: rest) = l :: lines rest := by
  by_cases hl : l = []
  · subst hl
    exact lines_newline rest
  · rw [lines_append h hl, lines_newline]
    simp only [List.append_nil]

theorem lines_lineEnd {c : Char} {cs : List Char} (h : isLineEnd c = true)
    (hc : c = '\r' → ∀ r, cs ≠ '\n' :: r) : lines (c :: cs) = [] :: lines cs := by
  rw [lines]
  · rw [if_pos h]
  · rintro r rfl rfl
    exact hc rfl r rfl

theorem eq_nil_of_lines_eq_nil {cs : List Char} (h : lines cs = []) : cs = [] := by
  revert h
  fun_cases lines cs with
  | case1 => exact fun _ => rfl
  | case2 => exact fun h => absurd h (List.cons_ne_nil _ _)
  | case3 => exact fun h => absurd h (List.cons_ne_nil _ _)
  | case4 => exact fun h => absurd h (List.cons_ne_nil _ _)
  | case5 => exact fun h => absurd h (List.cons_ne_nil _ _)

/-- A text that is empty or ends in a line end. -/
def EndsLine (cs : List Char) : Prop := ∀ c ∈ cs.getLast?, isLineEnd c = true

/-- What can be checked of an optional value holds of the value that is there. -/
theorem forall_mem_of_all {α : Type} {P : α → Prop} [DecidablePred P] {o : Option α}
    (h : (o.all fun a => P a) = true) : ∀ a ∈ o, P a := by
  rintro a rfl
  exact of_decide_eq_true h

theorem EndsLine.of_cons {c : Char} {cs : List Char} (h : EndsLine (c :: cs)) : EndsLine cs := by
  intro d hd
  apply h
  rw [Option.mem_def] at hd ⊢
  rw [List.getLast?_cons, hd]
  rfl

/-- The lines of a text that ends in a line end stand in front of the lines of what follows. Only a
line feed that comes to stand behind a carriage return ends no line of its own. -/
theorem lines_append_of_endsLine {front : List Char} (h : EndsLine front) (rest : List Char) :
    ∃ r, (rest = r ∨ rest = '\n' :: r) ∧ lines (front ++ rest) = lines front ++ lines r := by
  fun_induction lines front with
  | case1 => exact ⟨rest, Or.inl rfl, rfl⟩
  | case2 cs ih =>
      obtain ⟨r, hr, he⟩ := ih h.of_cons.of_cons
      refine ⟨r, hr, ?_⟩
      rw [List.cons_append, List.cons_append, lines, he, List.cons_append]
  | case3 c cs hpair hc ih =>
      rw [List.cons_append]
      by_cases hjoint : c = '\r' ∧ ∃ r, cs ++ rest = '\n' :: r
      · obtain ⟨rfl, r, hr⟩ := hjoint
        -- The pair is made at the joint: there was none in front of it.
        cases cs with
        | nil => exact ⟨r, Or.inr hr, by rw [hr, lines]; rfl⟩
        | cons d cs =>
            rw [List.cons_append, List.cons.injEq] at hr
            exact (hpair cs rfl (hr.1 ▸ rfl)).elim
      · obtain ⟨r, hr, he⟩ := ih h.of_cons
        refine ⟨r, hr, ?_⟩
        rw [lines_lineEnd hc fun he r hr => hjoint ⟨he, r, hr⟩, he, List.cons_append]
  | case4 c cs hpair hc hl ih =>
      rw [eq_nil_of_lines_eq_nil hl] at h
      exact absurd (h c rfl) hc
  | case5 c cs hpair hc l ls hl ih =>
      obtain ⟨r, hr, he⟩ := ih h.of_cons
      rw [Bool.not_eq_true] at hc
      refine ⟨r, hr, ?_⟩
      rw [List.cons_append, lines_cons hc, he, hl]
      rfl

theorem lines_append_of_head {front : List Char} (h : EndsLine front) {rest : List Char}
    (hr : ∀ c ∈ rest.head?, isLineEnd c = false) :
    lines (front ++ rest) = lines front ++ lines rest := by
  obtain ⟨r, rfl | rfl, he⟩ := lines_append_of_endsLine h rest
  · exact he
  · exact absurd (hr '\n' rfl) (by decide)

/-- A line end in front of a text leaves an empty line in front of it. -/
theorem lines_cons_lineEnd {c : Char} (h : isLineEnd c = true) (cs : List Char) :
    lines (c :: cs) = [] :: (lines (c :: cs)).tail := by
  by_cases hpair : c = '\r' ∧ ∃ r, cs = '\n' :: r
  · obtain ⟨rfl, r, rfl⟩ := hpair
    rw [lines, List.tail_cons]
  · rw [lines_lineEnd h fun he r hr => hpair ⟨he, r, hr⟩, List.tail_cons]

/-- What ends no line is a line of its own in front of a line end. -/
theorem lines_append_lineEnd {l : List Char} (hl : ∀ c ∈ l, isLineEnd c = false) (hne : l ≠ [])
    {rest : List Char} (h : ∀ c ∈ rest.head?, isLineEnd c = true) :
    lines (l ++ rest) = l :: (lines rest).tail := by
  rw [lines_append hl hne]
  cases rest with
  | nil => rfl
  | cons c cs =>
      rw [lines_cons_lineEnd (h c rfl)]
      simp only [List.append_nil, List.tail_cons]

end AppCatalog.Text
