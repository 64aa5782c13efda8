import AppCatalog.Proofs.Assoc
import AppCatalog.Proofs.Json.Grammar
import Mathlib.Tactic.Ring

/-!
# Readers with limits

A reader with limits reads whatever the limits allow in the way in which a reader without limits does
(`parse_of_allows`). Limits allow a value if no integer in it has more digits and no collection in it
is nested deeper: an integer that is below a power of ten has no more digits than the power, and each
list or object takes one level from what it holds.
-/

namespace AppCatalog.Json

variable {τ : Type}

/-- Limits allow a value: none of its integers has too many digits, and none of its collections is
nested too deep. -/
structure Limits.Allows (l : Limits) (v : Json τ) : Prop where
  digits : ∀ n ∈ l.digits, 0 < n ∧ v.greatest < 10 ^ n
  levels : ∀ n ∈ l.levels, v.depth ≤ n

/-! ## Integers -/

theorem le_foldl_digits (ds : List Char) (n : Nat) :
    n * 10 ^ ds.length ≤ ds.foldl (fun n c => n * 10 + (c.toNat - 48)) n := by
  induction ds generalizing n with
  | nil => exact Nat.le_of_eq (Nat.mul_one n)
  | cons d ds ih =>
      calc n * 10 ^ (ds.length + 1)
          = n * 10 * 10 ^ ds.length := by ring
        _ ≤ (n * 10 + (d.toNat - 48)) * 10 ^ ds.length :=
            Nat.mul_le_mul_right _ (Nat.le_add_right _ _)
        _ ≤ _ := ih _

/-- A number below a power of ten has no more digits than the power. -/
theorem length_le_of_digitsValue_lt {ds : List Char} (h : IsWhole ds) {n : Nat} (hn : 0 < n)
    (hlt : Binary64.digitsValue ds < 10 ^ n) : ds.length ≤ n := by
  rcases h.lead with rfl | hlead
  · exact hn
  · obtain ⟨d, ds, rfl⟩ := List.exists_cons_of_ne_nil h.nonempty
    have hd : 1 ≤ d.toNat - 48 := by
      have hdigit : d = '0' ∨ 1 ≤ d.toNat - 48 :=
        of_isDigit (P := fun d => d = '0' ∨ 1 ≤ d.toNat - 48) (by decide)
          (h.digits d List.mem_cons_self)
      exact hdigit.resolve_left fun hzero => hlead (congrArg some hzero)
    have hle : 10 ^ ds.length ≤ Binary64.digitsValue (d :: ds) :=
      calc 10 ^ ds.length
          = 1 * 10 ^ ds.length := (Nat.one_mul _).symm
        _ ≤ (0 * 10 + (d.toNat - 48)) * 10 ^ ds.length :=
            Nat.mul_le_mul_right _ (by omega)
        _ ≤ Binary64.digitsValue (d :: ds) := le_foldl_digits ds _
    exact (Nat.pow_lt_pow_iff_right (by decide)).1 (Nat.lt_of_le_of_lt hle hlt)

variable {l : Limits} {cs rest : List Char}

theorem readNumber_of_allows {negative : Bool} {v : Json τ}
    (h : readNumber .unbounded negative cs = .ok (v, rest)) (hv : l.Allows v) :
    readNumber l negative cs = .ok (v, rest) := by
  obtain ⟨-, hwhole⟩ := wholePart_cases cs
  simp only [readNumber] at h ⊢
  split at h
  · cases h
  · next hw =>
      rw [if_neg hw]
      split at h
      · next hint =>
          rw [if_pos hint]
          simp only [Limits.unbounded, Option.any_none, Bool.false_eq_true, if_false] at h
          cases h
          rw [if_neg]
          rw [Option.any_eq_true]
          rintro ⟨n, hn, hlt⟩
          obtain ⟨hpos, hlt'⟩ := hv.digits n hn
          have hvalue : Binary64.digitsValue (wholePart cs).1 < 10 ^ n := by
            cases negative <;> simpa [greatest] using hlt'
          have hle := length_le_of_digitsValue_lt (hwhole hw) hpos hvalue
          exact absurd (of_decide_eq_true hlt) (Nat.not_lt.2 hle)
      · next hint =>
          rw [if_neg hint]
          exact h

/-! ## Collections -/

theorem greatest_le_greatestOfItems {v : Json τ} {vs : List (Json τ)} (h : v ∈ vs) :
    v.greatest ≤ greatestOfItems vs := by
  induction h with
  | head => exact Nat.le_max_left _ _
  | tail _ _ ih => exact Nat.le_trans ih (Nat.le_max_right _ _)

theorem depth_le_depthOfItems {v : Json τ} {vs : List (Json τ)} (h : v ∈ vs) :
    v.depth ≤ depthOfItems vs := by
  induction h with
  | head => exact Nat.le_max_left _ _
  | tail _ _ ih => exact Nat.le_trans ih (Nat.le_max_right _ _)

theorem greatest_le_greatestOfFields {f : τ × Json τ} {fs : List (τ × Json τ)} (h : f ∈ fs) :
    f.2.greatest ≤ greatestOfFields fs := by
  induction h with
  | head => exact Nat.le_max_left _ _
  | tail _ _ ih => exact Nat.le_trans ih (Nat.le_max_right _ _)

theorem depth_le_depthOfFields {f : τ × Json τ} {fs : List (τ × Json τ)} (h : f ∈ fs) :
    f.2.depth ≤ depthOfFields fs := by
  induction h with
  | head => exact Nat.le_max_left _ _
  | tail _ _ ih => exact Nat.le_trans ih (Nat.le_max_right _ _)

/-- Limits that allow a collection leave limits that allow whatever stands in it. -/
theorem Limits.Allows.deeper {v : Json τ} {parts : List (Json τ)} (h : l.Allows v)
    (hdepth : ∀ w ∈ parts, w.depth + 1 ≤ v.depth) (hpos : 0 < v.depth)
    (hgreatest : ∀ w ∈ parts, w.greatest ≤ v.greatest) :
    ∃ l', l.deeper? = some l' ∧ ∀ w ∈ parts, l'.Allows w := by
  obtain ⟨digits, levels⟩ := l
  have hdigits : ∀ w ∈ parts, ∀ n ∈ digits, 0 < n ∧ w.greatest < 10 ^ n := by
    intro w hw n hn
    obtain ⟨hzero, hlt⟩ := h.digits n hn
    exact ⟨hzero, Nat.lt_of_le_of_lt (hgreatest w hw) hlt⟩
  rcases levels with _ | _ | n
  · exact ⟨⟨digits, none⟩, rfl, fun w hw => ⟨hdigits w hw, fun n hn => by cases hn⟩⟩
  · exact absurd (h.levels 0 rfl) (Nat.not_le.2 hpos)
  · refine ⟨⟨digits, some n⟩, rfl, fun w hw => ⟨hdigits w hw, fun m hm => ?_⟩⟩
    cases hm
    exact Nat.le_of_succ_le_succ (Nat.le_trans (hdepth w hw) (h.levels _ rfl))

theorem Limits.Allows.items {vs : List (Json τ)} (h : l.Allows (arr vs)) :
    ∃ l', l.deeper? = some l' ∧ ∀ v ∈ vs, l'.Allows v := by
  refine h.deeper (fun v hv => ?_) (Nat.succ_pos _) fun v hv => ?_
  · exact Nat.succ_le_succ (depth_le_depthOfItems hv)
  · exact greatest_le_greatestOfItems hv

theorem Limits.Allows.fields {fs : List (τ × Json τ)} (h : l.Allows (obj fs)) :
    ∃ l', l.deeper? = some l' ∧ ∀ f ∈ fs, l'.Allows f.2 := by
  have hdepth : ∀ v ∈ fs.map Prod.snd, v.depth + 1 ≤ (obj fs).depth := by
    intro v hv
    obtain ⟨f, hf, rfl⟩ := List.mem_map.1 hv
    exact Nat.succ_le_succ (depth_le_depthOfFields hf)
  have hgreatest : ∀ v ∈ fs.map Prod.snd, v.greatest ≤ (obj fs).greatest := by
    intro v hv
    obtain ⟨f, hf, rfl⟩ := List.mem_map.1 hv
    exact greatest_le_greatestOfFields hf
  obtain ⟨l', hl, hall⟩ := h.deeper hdepth (Nat.succ_pos _) hgreatest
  exact ⟨l', hl, fun f hf => hall f.2 (List.mem_map_of_mem hf)⟩

/-! ## Bounds -/

/-- A value whose integers have no more than 4300 digits, and whose collections are nested in no more
than some levels. -/
structure IsWithin (levels : Nat) (v : Json τ) : Prop where
  digits : v.greatest < 10 ^ Text.maxDigits
  depth : v.depth ≤ levels

variable {levels : Nat}

namespace IsWithin

theorem allows {v : Json τ} (h : v.IsWithin levels) {n : Nat} (hn : levels ≤ n) :
    (Limits.mk (some Text.maxDigits) (some n)).Allows v := by
  constructor
  · intro m hm
    cases hm
    exact ⟨by decide, h.digits⟩
  · intro m hm
    cases hm
    exact Nat.le_trans h.depth hn

theorem item {v : Json τ} {vs : List (Json τ)} (h : (arr vs).IsWithin levels) (hv : v ∈ vs) :
    v.IsWithin levels where
  digits := Nat.lt_of_le_of_lt (greatest_le_greatestOfItems hv) h.digits
  depth := Nat.le_trans (depth_le_depthOfItems hv) (Nat.le_of_succ_le h.depth)

theorem field {f : τ × Json τ} {fs : List (τ × Json τ)} (h : (obj fs).IsWithin levels)
    (hf : f ∈ fs) : f.2.IsWithin levels where
  digits := Nat.lt_of_le_of_lt (greatest_le_greatestOfFields hf) h.digits
  depth := Nat.le_trans (depth_le_depthOfFields hf) (Nat.le_of_succ_le h.depth)

end IsWithin

/-- Bounds of the values of fields are bounds of the fields. -/
theorem fields_le {fs : List (τ × Json τ)} {n d : Nat}
    (h : ∀ f ∈ fs, f.2.greatest ≤ n ∧ f.2.depth ≤ d) :
    greatestOfFields fs ≤ n ∧ depthOfFields fs ≤ d := by
  induction fs with
  | nil => exact ⟨Nat.zero_le n, Nat.zero_le d⟩
  | cons f fs ih =>
      obtain ⟨k, v⟩ := f
      have hv := h _ List.mem_cons_self
      have hfs := ih fun g hg => h g (List.mem_cons_of_mem _ hg)
      exact ⟨Nat.max_le.2 ⟨hv.1, hfs.1⟩, Nat.max_le.2 ⟨hv.2, hfs.2⟩⟩

section

variable [DecidableEq τ]

mutual

/-- What a value stands for has nothing in it that is greater or deeper than what is written. -/
theorem merged_le : (v : Json τ) → v.merged.greatest ≤ v.greatest ∧ v.merged.depth ≤ v.depth
  | null => ⟨Nat.le_refl _, Nat.le_refl _⟩
  | bool _ => ⟨Nat.le_refl _, Nat.le_refl _⟩
  | int _ => ⟨Nat.le_refl _, Nat.le_refl _⟩
  | float _ => ⟨Nat.le_refl _, Nat.le_refl _⟩
  | str _ => ⟨Nat.le_refl _, Nat.le_refl _⟩
  | arr items => by
      have h := mergedItems_le items
      rw [merged, greatest, greatest, depth, depth]
      exact ⟨h.1, Nat.succ_le_succ h.2⟩
  | obj fields => by
      have h := mergedFields_le fields
      have hpairs : greatestOfFields (Assoc.ofPairs (mergedFields fields)) ≤
          greatestOfFields (mergedFields fields) ∧
          depthOfFields (Assoc.ofPairs (mergedFields fields)) ≤
            depthOfFields (mergedFields fields) :=
        fields_le fun f hf => ⟨greatest_le_greatestOfFields (Assoc.mem_of_mem_ofPairs hf),
          depth_le_depthOfFields (Assoc.mem_of_mem_ofPairs hf)⟩
      rw [merged, greatest, greatest, depth, depth]
      exact ⟨Nat.le_trans hpairs.1 h.1, Nat.succ_le_succ (Nat.le_trans hpairs.2 h.2)⟩

theorem mergedItems_le : (vs : List (Json τ)) →
    greatestOfItems (mergedItems vs) ≤ greatestOfItems vs ∧
      depthOfItems (mergedItems vs) ≤ depthOfItems vs
  | [] => ⟨Nat.le_refl _, Nat.le_refl _⟩
  | v :: vs => by
      have hv := merged_le v
      have hvs := mergedItems_le vs
      exact ⟨max_le_max hv.1 hvs.1, max_le_max hv.2 hvs.2⟩

theorem mergedFields_le : (fs : List (τ × Json τ)) →
    greatestOfFields (mergedFields fs) ≤ greatestOfFields fs ∧
      depthOfFields (mergedFields fs) ≤ depthOfFields fs
  | [] => ⟨Nat.le_refl _, Nat.le_refl _⟩
  | (k, v) :: fs => by
      have hv := merged_le v
      have hfs := mergedFields_le fs
      exact ⟨max_le_max hv.1 hfs.1, max_le_max hv.2 hfs.2⟩

end

theorem IsWithin.merged {v : Json τ} (h : v.IsWithin levels) : v.merged.IsWithin levels where
  digits := Nat.lt_of_le_of_lt (merged_le v).1 h.digits
  depth := Nat.le_trans (merged_le v).2 h.depth

end

/-! ## Texts -/

section

variable [Spelling τ] {fuel : Nat}

variable (τ) in
/-- What is read with some fuel and no limits is read within all limits that allow it. -/
structure ReadsWithin (fuel : Nat) : Prop where
  value : ∀ {l : Limits} {cs rest} {v : Json τ}, readValue .unbounded fuel cs = .ok (v, rest) →
    l.Allows v → readValue l fuel cs = .ok (v, rest)
  items : ∀ {l : Limits} {cs rest} {vs : List (Json τ)},
    readItems .unbounded fuel cs = .ok (vs, rest) → (∀ v ∈ vs, l.Allows v) →
      readItems l fuel cs = .ok (vs, rest)
  fields : ∀ {l : Limits} {cs rest} {fs : List (τ × Json τ)},
    readFields .unbounded fuel cs = .ok (fs, rest) → (∀ f ∈ fs, l.Allows f.2) →
      readFields l fuel cs = .ok (fs, rest)

theorem ReadsWithin.readValue (ih : ReadsWithin τ fuel) {v : Json τ}
    (h : readValue .unbounded (fuel + 1) cs = .ok (v, rest)) (hv : l.Allows v) :
    readValue l (fuel + 1) cs = .ok (v, rest) := by
  have hdeeper : Limits.unbounded.deeper? = some .unbounded := rfl
  rw [readValue.eq_def] at h
  split at h
  · cases h
  · next he =>
    cases he
    split at h
    · rw [Json.readValue]
      exact h
    · rw [hdeeper] at h
      simp only at h
      split at h
      · next hr =>
        cases h
        obtain ⟨l', hl, -⟩ := hv.fields
        rw [Json.readValue]
        simp only [hl, hr]
      · next r hr =>
        obtain ⟨⟨fs, r⟩, hfs, hobj⟩ := except_bind_ok h
        cases hobj
        obtain ⟨l', hl, hall⟩ := hv.fields
        rw [Json.readValue]
        simp only [hl, ih.fields hfs hall]
        rfl
    · rw [hdeeper] at h
      simp only at h
      split at h
      · next hr =>
        cases h
        obtain ⟨l', hl, -⟩ := hv.items
        rw [Json.readValue]
        simp only [hl, hr]
      · next r hr =>
        obtain ⟨⟨vs, r⟩, hvs, harr⟩ := except_bind_ok h
        cases harr
        obtain ⟨l', hl, hall⟩ := hv.items
        rw [Json.readValue]
        simp only [hl, ih.items hvs hall]
        rfl
    · rw [Json.readValue]
      exact h
    · rw [Json.readValue]
      exact h
    · rw [Json.readValue]
      exact h
    · rw [Json.readValue]
      exact h
    · rw [Json.readValue]
      exact h
    · rw [Json.readValue]
      exact h
    · rw [Json.readValue, readNumber_of_allows h hv]
      assumption
    · rw [Json.readValue, readNumber_of_allows h hv]
      all_goals assumption

/-- The items that are read without limits are read within limits that allow each of them. -/
theorem ReadsWithin.readItems (ih : ReadsWithin τ fuel) {vs : List (Json τ)}
    (h : readItems .unbounded (fuel + 1) cs = .ok (vs, rest)) (hvs : ∀ v ∈ vs, l.Allows v) :
    readItems l (fuel + 1) cs = .ok (vs, rest) := by
  obtain ⟨v, r, hv, hend⟩ := readItems_cases h
  rw [Json.readItems]
  rcases hend with ⟨hr, rfl⟩ | ⟨r', vs', hr, hmore, rfl⟩
  · rw [ih.value hv (hvs v List.mem_cons_self)]
    simp only [bind, Except.bind, hr]
    rfl
  · rw [ih.value hv (hvs v List.mem_cons_self)]
    simp only [bind, Except.bind, hr,
      ih.items hmore fun w hw => hvs w (List.mem_cons_of_mem v hw)]
    rfl

theorem ReadsWithin.readFields (ih : ReadsWithin τ fuel) {fs : List (τ × Json τ)}
    (h : readFields .unbounded (fuel + 1) cs = .ok (fs, rest)) (hfs : ∀ f ∈ fs, l.Allows f.2) :
    readFields l (fuel + 1) cs = .ok (fs, rest) := by
  obtain ⟨r, k, r₁, r₂, v, r₃, rfl, hk, hr₁, hv, hend⟩ := readFields_cases h
  rw [Json.readFields]
  simp only [hk, hr₁]
  rcases hend with ⟨hr₃, rfl⟩ | ⟨r₄, fs', hr₃, hmore, rfl⟩
  · rw [ih.value hv (hfs _ List.mem_cons_self)]
    simp only [bind, Except.bind, hr₃]
    rfl
  · rw [ih.value hv (hfs _ List.mem_cons_self)]
    simp only [bind, Except.bind, hr₃,
      ih.fields hmore fun f hf => hfs f (List.mem_cons_of_mem _ hf)]
    rfl

theorem readsWithin (fuel : Nat) : ReadsWithin τ fuel := by
  induction fuel with
  | zero =>
      refine ⟨fun h => ?_, fun h => ?_, fun h => ?_⟩
      · rw [Json.readValue] at h
        cases h
      · rw [Json.readItems] at h
        cases h
      · rw [Json.readFields] at h
        cases h
  | succ fuel ih => exact ⟨ih.readValue, ih.readItems, ih.readFields⟩

/-- A text is read within all limits that allow the value written in it. -/
theorem parse_of_allows {v : Json τ} (h : parse .unbounded cs = .ok v) (hv : l.Allows v) :
    parse l cs = .ok v := by
  obtain ⟨rest, hread, hrest⟩ := parse_cases h
  rw [parse, (readsWithin _).value hread hv]
  exact if_pos hrest

end

end AppCatalog.Json
