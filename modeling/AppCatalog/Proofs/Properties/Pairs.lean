import AppCatalog.Properties.Listing

/-!
# Escape pairs

A backslash belongs to the character behind it, whatever that is. `pieces` cuts a text from its front
into such pairs and the characters between them. A text that goes on is one with a backslash left over
behind its pieces (`lone_mem_pieces_iff`); behind any other a text has the pieces that it has by itself
(`pieces_append`). Hence a line that does not go on is cut into key and value between its pieces
(`dividesPieces_splitKey`), neither of which goes on.
-/

namespace AppCatalog.Properties

open AppCatalog.Text

/-- The escape pairs of a text and the characters between them, in order. -/
def pieces : List Char → List (List Char)
  | [] => []
  | '\\' :: c :: cs => ['\\', c] :: pieces cs
  | c :: cs => [c] :: pieces cs

/-- A line is divided into a key and a value between its pieces. What falls away between the two is
blanks and separators. -/
def DividesPieces (line key value : List Char) : Prop :=
  ∃ gap, (∀ c ∈ gap, isBlank c = true ∨ isSeparator c = true) ∧ line = key ++ gap ++ value ∧
    pieces line = pieces key ++ pieces gap ++ pieces value

/-! ## Left-over backslashes -/

theorem goesOn_concat_backslash (cs : List Char) : goesOn (cs ++ ['\\']) = !goesOn cs := by
  have hlen : trailingBackslashes (cs ++ ['\\']) = trailingBackslashes cs + 1 := by
    rw [trailingBackslashes, List.reverse_append, List.reverse_singleton, List.singleton_append,
      List.takeWhile_cons_of_pos (by decide), List.length_cons, trailingBackslashes]
  rw [goesOn, goesOn, hlen]
  rcases Nat.mod_two_eq_zero_or_one (trailingBackslashes cs) with h | h
  · rw [Nat.add_mod, h]
    rfl
  · rw [Nat.add_mod, h]
    rfl

theorem eq_concat_of_goesOn {cs : List Char} (h : goesOn cs = true) : ∃ ds, cs = ds ++ ['\\'] := by
  rcases cs.eq_nil_or_concat with rfl | ⟨ds, c, rfl⟩
  · cases h
  · by_cases hc : c = '\\'
    · exact ⟨ds, by rw [hc, List.concat_eq_append]⟩
    · rw [List.concat_eq_append, goesOn, trailingBackslashes, List.reverse_append,
        List.reverse_singleton, List.singleton_append,
        List.takeWhile_cons_of_neg (by rw [beq_iff_eq]; exact hc)] at h
      cases h

/-- Without its last backslash, a line that goes on no longer does. -/
theorem goesOn_dropLast {cs : List Char} (h : goesOn cs = true) : goesOn cs.dropLast = false := by
  obtain ⟨ds, rfl⟩ := eq_concat_of_goesOn h
  rw [goesOn_concat_backslash, Bool.not_eq_true'] at h
  rw [List.dropLast_concat]
  exact h

theorem goesOn_singleton {c : Char} (h : c ≠ '\\') : goesOn [c] = false :=
  goesOn_of_notMem (by simpa using Ne.symm h)

theorem goesOn_cons {c : Char} (h : c ≠ '\\') (cs : List Char) : goesOn (c :: cs) = goesOn cs :=
  goesOn_append (goesOn_singleton h) cs

theorem goesOn_pair (c : Char) : goesOn ['\\', c] = false := by
  by_cases hc : c = '\\'
  · subst hc
    rfl
  · rw [goesOn_eq_false_iff, ← List.singleton_append, trailingBackslashes]
    simp [hc]

theorem goesOn_pair_append (c : Char) (cs : List Char) : goesOn ('\\' :: c :: cs) = goesOn cs :=
  goesOn_append (goesOn_pair c) cs

/-- Where no escape pair is in front and no backslash is left over, there is no backslash. -/
theorem ne_backslash_of_not_pair {c : Char} {cs : List Char} (h : goesOn (c :: cs) = false)
    (hpair : ∀ d ds, c = '\\' → cs = d :: ds → False) : c ≠ '\\' := by
  rintro rfl
  cases cs with
  | nil => cases h
  | cons d cs => exact hpair d cs rfl rfl

/-- A text that goes on is one in which a backslash has nothing behind it to stand in front of. -/
theorem lone_mem_pieces_iff (cs : List Char) : ['\\'] ∈ pieces cs ↔ goesOn cs = true := by
  fun_induction pieces cs with
  | case1 => decide
  | case2 c cs ih =>
      rw [goesOn_pair_append, ← ih, List.mem_cons]
      exact or_iff_right (by simp)
  | case3 c cs hpair ih =>
      by_cases hc : c = '\\'
      · subst hc
        cases cs with
        | nil => decide
        | cons d cs => exact (hpair d cs rfl rfl).elim
      · rw [goesOn_cons hc, ← ih, List.mem_cons]
        exact or_iff_right (by simpa using Ne.symm hc)

/-! ## Pieces of a text -/

theorem pieces_cons {c : Char} (h : c ≠ '\\') (cs : List Char) :
    pieces (c :: cs) = [c] :: pieces cs := by
  rw [pieces]
  rintro _ _ rfl _
  exact h rfl

theorem pieces_append {cs : List Char} (h : goesOn cs = false) (ds : List Char) :
    pieces (cs ++ ds) = pieces cs ++ pieces ds := by
  fun_induction pieces cs with
  | case1 => rfl
  | case2 c cs ih =>
      rw [goesOn_pair_append] at h
      rw [List.cons_append, List.cons_append, pieces, ih h, List.cons_append]
  | case3 c cs hpair ih =>
      have hc := ne_backslash_of_not_pair h hpair
      rw [goesOn_cons hc] at h
      rw [List.cons_append, pieces_cons hc, ih h, List.cons_append]

/-! ## Key and value -/

theorem goesOn_splitKey {line : List Char} (h : goesOn line = false) :
    goesOn (splitKey line).1 = false := by
  fun_induction splitKey line with
  | case1 => exact h
  | case2 c cs k r hk ih =>
      rw [goesOn_pair_append] at h ⊢
      rw [hk] at ih
      exact ih h
  | case3 c cs hpair hc => rfl
  | case4 c cs hpair hc k r hk ih =>
      have hne := ne_backslash_of_not_pair h hpair
      rw [goesOn_cons hne] at h ⊢
      rw [hk] at ih
      exact ih h

theorem exists_gap (cs : List Char) :
    ∃ gap, (∀ c ∈ gap, isBlank c = true ∨ isSeparator c = true) ∧ cs = gap ++ valuePart cs := by
  have hblank : ∀ ds : List Char, ∀ c ∈ ds.takeWhile isBlank, isBlank c = true :=
    fun ds => List.all_eq_true.1 List.all_takeWhile
  have htrim : ∀ ds : List Char, ds.takeWhile isBlank ++ trimStart ds = ds :=
    fun ds => List.takeWhile_append_dropWhile
  rcases hcs : trimStart cs with _ | ⟨d, ds⟩
  · have hvalue : valuePart cs = [] := by rw [valuePart, hcs]
    refine ⟨cs.takeWhile isBlank, fun c hc => Or.inl (hblank cs c hc), ?_⟩
    rw [hvalue, ← hcs, htrim]
  · by_cases hd : isSeparator d = true
    · have hvalue : valuePart cs = trimStart ds := by
        rw [valuePart, hcs]
        exact if_pos hd
      refine ⟨cs.takeWhile isBlank ++ d :: ds.takeWhile isBlank, fun c hc => ?_, ?_⟩
      · rcases List.mem_append.1 hc with hc | hc
        · exact Or.inl (hblank cs c hc)
        · rcases List.mem_cons.1 hc with rfl | hc
          · exact Or.inr hd
          · exact Or.inl (hblank ds c hc)
      · rw [hvalue, List.append_assoc, List.cons_append, htrim ds, ← hcs, htrim cs]
    · have hvalue : valuePart cs = d :: ds := by
        rw [valuePart, hcs]
        exact if_neg hd
      refine ⟨cs.takeWhile isBlank, fun c hc => Or.inl (hblank cs c hc), ?_⟩
      rw [hvalue, ← hcs, htrim]

/-- Blanks and separators stand for themselves. -/
theorem goesOn_gap {gap : List Char}
    (h : ∀ c ∈ gap, isBlank c = true ∨ isSeparator c = true) : goesOn gap = false := by
  refine goesOn_of_notMem fun hc => ?_
  exact absurd (h '\\' hc) (by decide)

/-- The value does not go on either. -/
theorem goesOn_valuePart {line : List Char} (h : goesOn line = false) :
    goesOn (valuePart (splitKey line).2) = false := by
  obtain ⟨gap, hgap, he⟩ := exists_gap (splitKey line).2
  have hrest := goesOn_append (goesOn_splitKey h) (splitKey line).2
  have hvalue := goesOn_append (goesOn_gap hgap) (valuePart (splitKey line).2)
  rw [splitKey_append, h] at hrest
  rw [← hvalue, ← he, ← hrest]

/-- No escape pair of a line is cut in two. -/
theorem dividesPieces_splitKey {line : List Char} (h : goesOn line = false) :
    DividesPieces line (splitKey line).1 (valuePart (splitKey line).2) := by
  obtain ⟨gap, hgap, he⟩ := exists_gap (splitKey line).2
  have hline : line = (splitKey line).1 ++ (gap ++ valuePart (splitKey line).2) := by
    rw [← he, splitKey_append]
  refine ⟨gap, hgap, by rwa [List.append_assoc], ?_⟩
  rw [List.append_assoc, ← pieces_append (goesOn_gap hgap),
    ← pieces_append (goesOn_splitKey h), ← hline]

end AppCatalog.Properties
