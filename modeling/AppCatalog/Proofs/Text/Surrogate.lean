import AppCatalog.Text.Utf16

/-!
# Surrogates joined

`Joins` says which text a run of code units is: characters are read off their units, and a surrogate
whose partner is not beside it is replaced. There is one such text for every run, and it is the
decoded one (`joins_iff`). How much of it there is tells runs apart: two runs together never give
more than each by itself (`length_decodeUnits_append_le`), and a character keeps what is on either
side of it apart (`decodeUnits_append_unitsOf`).
-/

namespace AppCatalog.Text

/-- The text of a run of code units. -/
inductive Joins : List Nat → List Char → Prop
  | nil : Joins [] []
  | char (c : Char) {us : List Nat} {cs : List Char} (h : Joins us cs) :
    Joins (unitsOf c ++ us) (c :: cs)
  | high {u : Nat} {us : List Nat} {cs : List Char} (hu : isHighSurrogate u = true)
    (hl : ∀ v ∈ us.head?, isLowSurrogate v = false) (h : Joins us cs) :
    Joins (u :: us) (replacement :: cs)
  | low {u : Nat} {us : List Nat} {cs : List Char} (hu : isLowSurrogate u = true)
    (h : Joins us cs) : Joins (u :: us) (replacement :: cs)

theorem not_high_of_low {u : Nat} (h : isLowSurrogate u = true) : isHighSurrogate u = false := by
  simp only [isLowSurrogate, Bool.and_eq_true, decide_eq_true_eq] at h
  simp only [isHighSurrogate, Bool.and_eq_false_iff, decide_eq_false_iff_not]
  omega

theorem decodeUnits_high {u : Nat} {us : List Nat} (hu : isHighSurrogate u = true)
    (hl : ∀ v ∈ us.head?, isLowSurrogate v = false) :
    decodeUnits (u :: us) = replacement :: decodeUnits us := by
  cases us with
  | nil => simp [decodeUnits, hu]
  | cons v us => simp [decodeUnits, hu, hl v rfl]

theorem decodeUnits_of_not_high {u : Nat} (hu : isHighSurrogate u = false) (us : List Nat) :
    decodeUnits (u :: us) =
      (if isLowSurrogate u then replacement else Char.ofNat u) :: decodeUnits us := by
  cases us with
  | nil => simp [decodeUnits, hu]
  | cons v us => simp [decodeUnits, hu]

theorem decodeUnits_pair {u v : Nat} (hu : isHighSurrogate u = true)
    (hv : isLowSurrogate v = true) (us : List Nat) :
    decodeUnits (u :: v :: us) = joinPair u v :: decodeUnits us := by
  rw [decodeUnits, if_pos hu, if_pos hv]

theorem Joins.decodeUnits_eq {us : List Nat} {cs : List Char} (h : Joins us cs) :
    decodeUnits us = cs := by
  induction h with
  | nil => rfl
  | char c _ ih => rw [decodeUnits_unitsOf_append, ih]
  | high hu hl _ ih => rw [decodeUnits_high hu hl, ih]
  | low hu _ ih => rw [decodeUnits_of_not_high (not_high_of_low hu), if_pos hu, ih]

theorem toNat_ofNat {u : Nat} (h : u < 0xd800 ∨ 0xdfff < u ∧ u < 0x110000) :
    (Char.ofNat u).toNat = u := by
  rw [Char.ofNat, dif_pos (show u.isValidChar from h)]
  rfl

theorem unitsOf_joinPair {u v : Nat} (hu : isHighSurrogate u = true)
    (hv : isLowSurrogate v = true) : unitsOf (joinPair u v) = [u, v] := by
  simp only [isHighSurrogate, isLowSurrogate, Bool.and_eq_true, decide_eq_true_eq] at hu hv
  rw [unitsOf, joinPair, toNat_ofNat (by omega), if_neg (by omega), List.cons.injEq,
    List.cons.injEq]
  refine ⟨?_, ?_, rfl⟩
  · omega
  · omega

/-- A code unit that is no half of a pair is that of a character. -/
theorem toNat_ofNat_unit {u : Nat} (h : u < 0x10000) (hu : isHighSurrogate u = false)
    (hl : isLowSurrogate u = false) : (Char.ofNat u).toNat = u := by
  simp only [isHighSurrogate, isLowSurrogate, Bool.and_eq_false_iff, decide_eq_false_iff_not]
    at hu hl
  exact toNat_ofNat (by omega)

theorem unitsOf_ofNat {u : Nat} (h : u < 0x10000) (hu : isHighSurrogate u = false)
    (hl : isLowSurrogate u = false) : unitsOf (Char.ofNat u) = [u] := by
  rw [unitsOf, toNat_ofNat_unit h hu hl, if_pos h]

theorem joins_of_not_high {u : Nat} {us : List Nat} {cs : List Char} (h : u < 0x10000)
    (hu : isHighSurrogate u = false) (hj : Joins us cs) :
    Joins (u :: us) ((if isLowSurrogate u then replacement else Char.ofNat u) :: cs) := by
  by_cases hl : isLowSurrogate u = true
  · rw [if_pos hl]
    exact .low hl hj
  · have hc := Joins.char (Char.ofNat u) hj
    rw [unitsOf_ofNat h hu (eq_false_of_ne_true hl)] at hc
    rwa [if_neg hl]

theorem joins_decodeUnits {us : List Nat} (h : ∀ u ∈ us, u < 0x10000) :
    Joins us (decodeUnits us) := by
  fun_induction decodeUnits us with
  | case1 => exact .nil
  | case2 u =>
      by_cases hu : isHighSurrogate u = true
      · rw [hu, Bool.true_or, if_pos rfl]
        exact .high hu (fun _ hv => nomatch hv) .nil
      · rw [eq_false_of_ne_true hu, Bool.false_or]
        exact joins_of_not_high (h u List.mem_cons_self) (eq_false_of_ne_true hu) .nil
  | case3 u v us hu hv ih =>
      have hc := Joins.char (joinPair u v)
        (ih fun w hw => h w (List.mem_cons_of_mem u (List.mem_cons_of_mem v hw)))
      rwa [unitsOf_joinPair hu hv] at hc
  | case4 u v us hu hv ih =>
      refine .high hu ?_ (ih fun w hw => h w (List.mem_cons_of_mem u hw))
      rintro _ ⟨⟩
      exact eq_false_of_ne_true hv
  | case5 u v us hu ih =>
      exact joins_of_not_high (h u List.mem_cons_self) (eq_false_of_ne_true hu)
        (ih fun w hw => h w (List.mem_cons_of_mem u hw))

/-- Code units have one text. -/
theorem joins_iff {us : List Nat} (h : ∀ u ∈ us, u < 0x10000) {cs : List Char} :
    Joins us cs ↔ decodeUnits us = cs :=
  ⟨Joins.decodeUnits_eq, fun he => he ▸ joins_decodeUnits h⟩

/-! ## Characters and units -/

/-- A character that is not among the units is beyond the first 256. -/
theorem Joins.mem {us : List Nat} {cs : List Char} (h : Joins us cs) :
    ∀ c ∈ cs, 0x100 ≤ c.toNat ∨ c.toNat ∈ us := by
  induction h with
  | nil => exact fun _ hc => nomatch hc
  | char c _ ih =>
      intro d hd
      rcases List.mem_cons.1 hd with rfl | hd
      · rw [unitsOf]
        split
        · exact Or.inr List.mem_cons_self
        · exact Or.inl (by omega)
      · exact (ih d hd).imp_right (List.mem_append_right _)
  | high _ _ _ ih =>
      intro d hd
      rcases List.mem_cons.1 hd with rfl | hd
      · exact Or.inl (by decide)
      · exact (ih d hd).imp_right (List.mem_cons_of_mem _)
  | low _ _ ih =>
      intro d hd
      rcases List.mem_cons.1 hd with rfl | hd
      · exact Or.inl (by decide)
      · exact (ih d hd).imp_right (List.mem_cons_of_mem _)

theorem Joins.head {us : List Nat} {cs : List Char} (h : Joins us cs) :
    ∀ c ∈ cs.head?, 0x100 ≤ c.toNat ∨ us.head? = some c.toNat := by
  intro d hd
  cases h with
  | nil => cases hd
  | char c _ =>
      cases hd
      rw [unitsOf]
      split
      · exact Or.inr rfl
      · exact Or.inl (by omega)
  | high _ _ _ =>
      cases hd
      exact Or.inl (by decide)
  | low _ _ =>
      cases hd
      exact Or.inl (by decide)

/-! ## How much text -/

theorem length_decodeUnits_cons_le (u : Nat) (us : List Nat) :
    (decodeUnits (u :: us)).length ≤ (decodeUnits us).length + 1 := by
  by_cases hu : isHighSurrogate u = true
  · by_cases hl : ∀ v ∈ us.head?, isLowSurrogate v = false
    · exact Nat.le_of_eq (congrArg List.length (decodeUnits_high hu hl))
    · cases us with
      | nil => exact absurd (fun _ hv => nomatch hv) hl
      | cons v us =>
          have hv : isLowSurrogate v = true := by simpa using hl
          rw [decodeUnits_pair hu hv, decodeUnits_of_not_high (not_high_of_low hv)]
          simp only [List.length_cons]
          omega
  · have hcons := decodeUnits_of_not_high (eq_false_of_ne_true hu) us
    exact Nat.le_of_eq (congrArg List.length hcons)

theorem length_decodeUnits_append_le (us vs : List Nat) :
    (decodeUnits (us ++ vs)).length ≤ (decodeUnits us).length + (decodeUnits vs).length := by
  fun_induction decodeUnits us with
  | case1 => simp
  | case2 u =>
      have hcons := length_decodeUnits_cons_le u vs
      rw [List.length_singleton, Nat.add_comm]
      exact hcons
  | case3 u v us hu hv ih =>
      rw [List.cons_append, List.cons_append, decodeUnits_pair hu hv, List.length_cons,
        List.length_cons]
      omega
  | case4 u v us hu hv ih =>
      have hl : ∀ w ∈ (v :: us ++ vs).head?, isLowSurrogate w = false := by
        rintro _ ⟨⟩
        exact eq_false_of_ne_true hv
      rw [List.cons_append, decodeUnits_high hu hl, List.length_cons, List.length_cons]
      omega
  | case5 u v us hu ih =>
      rw [List.cons_append, decodeUnits_of_not_high (eq_false_of_ne_true hu), List.length_cons,
        List.length_cons]
      omega

/-- No character begins with what closes a pair. -/
theorem not_low_of_head (c : Char) (us : List Nat) :
    ∀ v ∈ (unitsOf c ++ us).head?, isLowSurrogate v = false := by
  intro v hv
  have hc := char_toNat_lt c
  simp only [isLowSurrogate, Bool.and_eq_false_iff, decide_eq_false_iff_not]
  rw [unitsOf] at hv
  split at hv
  · cases hv
    omega
  · cases hv
    omega

theorem decodeUnits_append_unitsOf (us : List Nat) (c : Char) (vs : List Nat) :
    decodeUnits (us ++ (unitsOf c ++ vs)) = decodeUnits us ++ c :: decodeUnits vs := by
  fun_induction decodeUnits us with
  | case1 => exact decodeUnits_unitsOf_append c vs
  | case2 u =>
      have hcons := decodeUnits_unitsOf_append c vs
      by_cases hu : isHighSurrogate u = true
      · rw [List.singleton_append, decodeUnits_high hu (not_low_of_head c vs), hcons, hu]
        rfl
      · rw [List.singleton_append, decodeUnits_of_not_high (eq_false_of_ne_true hu), hcons,
          eq_false_of_ne_true hu]
        rfl
  | case3 u v us hu hv ih =>
      rw [List.cons_append, List.cons_append, decodeUnits_pair hu hv, ih, List.cons_append]
  | case4 u v us hu hv ih =>
      rw [List.cons_append, decodeUnits_high hu, ih, List.cons_append]
      rintro _ ⟨⟩
      exact eq_false_of_ne_true hv
  | case5 u v us hu ih =>
      rw [List.cons_append, decodeUnits_of_not_high (eq_false_of_ne_true hu), ih, List.cons_append]

end AppCatalog.Text
