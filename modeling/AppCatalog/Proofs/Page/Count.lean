import AppCatalog.Page
import Mathlib.Algebra.Order.Floor.Div
import Mathlib.Data.Nat.Prime.Basic
import Mathlib.GroupTheory.GroupAction.Ring
import Mathlib.Order.Bounds.Basic
import Mathlib.Tactic.Ring

/-!
# How many pages there are

The number of pages is a quotient that is rounded to 53 bits and then rounded up. Page sizes and
totals up to `2 ^ 53` are whole numbers, so the quotient keeps away from the integers below it by
more than half the distance of its neighbours, and rounding up gives the exact count
(`roundUnits_le_iff`). Only the range of the format gets in the way: a quotient of not more than
half the smallest positive number becomes zero, and then there are no pages
(`Page.totalPages?_isLeast_iff`).
-/

namespace AppCatalog

namespace Binary64

variable {num den j : ℕ}

/-! ## Rounding against multiples -/

theorem roundDiv_le (hd : 0 < den) (h : num ≤ j * den) : roundDiv num den ≤ j := by
  by_contra hlt
  have hnear := roundDiv_mul_le num den
  have hstep : (j + 1) * den ≤ roundDiv num den * den := Nat.mul_le_mul_right den (by omega)
  rw [Nat.add_mul, Nat.one_mul] at hstep
  omega

theorem lt_roundDiv (hd : 0 < den) (h : (2 * j + 1) * den < 2 * num) : j < roundDiv num den := by
  by_contra hle
  have hnear : 2 * num ≤ 2 * (roundDiv num den * den) + den := le_roundDiv_mul hd
  have hstep : roundDiv num den * den ≤ j * den := Nat.mul_le_mul_right den (by omega)
  rw [Nat.add_mul, Nat.mul_assoc, Nat.one_mul] at h
  omega

theorem roundDiv_eq_zero (h : 2 * num ≤ den) : roundDiv num den = 0 := by
  rcases Nat.eq_zero_or_pos num with rfl | hpos
  · rw [roundDiv, Nat.zero_mod, Nat.zero_div, if_neg]
    omega
  · have hlt : num < den := by omega
    rw [roundDiv, Nat.mod_eq_of_lt hlt, Nat.div_eq_of_lt hlt, if_neg]
    omega

theorem spacing_dvd {units e : ℕ} (h : units < 2 ^ (53 + e)) : spacing units ∣ 2 ^ e := by
  rw [spacing]
  apply Nat.pow_dvd_pow
  rcases Nat.eq_zero_or_pos units with rfl | hpos
  · exact Nat.zero_le _
  · have hlog := (Nat.log2_lt hpos.ne').2 h
    omega

theorem spacing_le {units : ℕ} (h : 0 < units) : spacing units ≤ units :=
  (Nat.pow_le_pow_right (by decide) (Nat.sub_le _ _)).trans (Nat.log2_self_le h.ne')

theorem spacing_mul_le {units : ℕ} (h : 2 ^ 52 ≤ units) : spacing units * 2 ^ 52 ≤ units := by
  have hne : units ≠ 0 := by omega
  have hlog : 52 ≤ units.log2 := (Nat.le_log2 hne).2 h
  have hpow : spacing units * 2 ^ 52 = 2 ^ units.log2 := by
    change 2 ^ (units.log2 - 52) * 2 ^ 52 = _
    rw [← Nat.pow_add, Nat.sub_add_cancel hlog]
  rw [hpow]
  exact Nat.log2_self_le hne

section Grid

variable {m : ℕ} (hd : 0 < den) (hdvd : spacing (num / den) ∣ m)
include hd hdvd

theorem roundUnits_le (h : num ≤ j * m * den) : roundUnits num den ≤ j * m := by
  obtain ⟨c, hc⟩ := hdvd
  rw [roundUnits, hc, Nat.mul_comm _ c, ← Nat.mul_assoc]
  refine Nat.mul_le_mul_right _ (roundDiv_le (Nat.mul_pos hd (spacing_pos _)) ?_)
  rw [hc] at h
  calc num ≤ j * (spacing (num / den) * c) * den := h
    _ = j * c * (den * spacing (num / den)) := by ring

theorem lt_roundUnits (h : (2 * (j * m) + spacing (num / den)) * den < 2 * num) :
    j * m < roundUnits num den := by
  obtain ⟨c, hc⟩ := hdvd
  rw [roundUnits, hc, Nat.mul_comm _ c, ← Nat.mul_assoc]
  refine Nat.mul_lt_mul_of_pos_right ?_ (spacing_pos _)
  refine lt_roundDiv (Nat.mul_pos hd (spacing_pos _)) ?_
  rw [hc] at h
  calc (2 * (j * c) + 1) * (den * spacing (num / den))
      = (2 * (j * (spacing (num / den) * c)) + spacing (num / den)) * den := by ring
    _ < 2 * num := h

end Grid

/-- A quotient of not more than half a unit is rounded to zero. -/
theorem roundUnits_eq_zero (h : 2 * num ≤ den) : roundUnits num den = 0 := by
  have hstep : 2 * num ≤ den * spacing (num / den) :=
    h.trans (Nat.le_mul_of_pos_right den (spacing_pos _))
  rw [roundUnits, roundDiv_eq_zero hstep, Nat.zero_mul]

theorem roundUnits_two_pow {k : ℕ} : roundUnits (2 ^ k) 1 = 2 ^ k := by
  obtain ⟨c, hc⟩ : spacing (2 ^ k / 1) ∣ 2 ^ k := by
    rw [spacing, Nat.div_one, Nat.log2_two_pow]
    exact Nat.pow_dvd_pow 2 (Nat.sub_le k 52)
  have hexact : roundDiv (2 ^ k) (1 * spacing (2 ^ k / 1)) = c := by
    conv => lhs; arg 1; rw [hc, Nat.mul_comm]
    rw [Nat.one_mul]
    exact roundDiv_mul_self (spacing_pos _)
  rw [roundUnits, hexact, Nat.mul_comm]
  exact hc.symm

/-! ## Quotients of whole numbers -/

section Quotient

variable {total size e : ℕ} (hs : 0 < size) (ht : total ≤ 2 ^ 53)
include hs ht

theorem spacing_div_dvd (h : size = 1 → total ≠ 2 ^ 53) :
    spacing (total * 2 ^ e / size) ∣ 2 ^ e := by
  apply spacing_dvd
  rw [Nat.div_lt_iff_lt_mul hs, Nat.pow_add, Nat.mul_right_comm]
  refine Nat.mul_lt_mul_of_pos_right ?_ (Nat.two_pow_pos e)
  rcases Nat.lt_or_ge 1 size with hlt | hle
  · omega
  · have hone : size = 1 := by omega
    have hne := h hone
    omega

omit ht in
/-- A total of less than a page is worth more than half the distance of the neighbours. -/
theorem spacing_mul_size_lt_of_range (hrange : size < 2 ^ (e + 1) * total) :
    spacing (total * 2 ^ e / size) * size < 2 * (total * 2 ^ e) := by
  rcases Nat.eq_zero_or_pos (total * 2 ^ e / size) with hu | hu
  · have hunit : spacing 0 = 1 := by decide
    rw [hu, hunit, Nat.one_mul]
    calc size < 2 ^ (e + 1) * total := hrange
      _ = 2 * (total * 2 ^ e) := by ring
  · have hunits : total * 2 ^ e / size * size ≤ total * 2 ^ e := Nat.div_mul_le_self _ _
    have hle := Nat.mul_le_mul_right size (spacing_le hu)
    have hsome : 0 < total * 2 ^ e := (Nat.mul_pos hu hs).trans_le hunits
    omega

variable (he : 52 ≤ e)
include he

omit ht in
theorem spacing_mul_size_le (h : size ≤ total) :
    spacing (total * 2 ^ e / size) * size * 2 ^ 52 ≤ total * 2 ^ e := by
  have hwhole : 2 ^ e ≤ total * 2 ^ e / size := by
    rw [Nat.le_div_iff_mul_le hs, Nat.mul_comm]
    exact Nat.mul_le_mul_right _ h
  have hunits := spacing_mul_le ((Nat.pow_le_pow_right (by decide) he).trans hwhole)
  rw [Nat.mul_right_comm]
  exact (Nat.mul_le_mul_right size hunits).trans (Nat.div_mul_le_self _ _)

/-- One more than whole pages is worth more than half the distance of the neighbours. The bound on
totals gives at least half; only a power of two meets it, and that is no more than whole pages. -/
theorem spacing_mul_size_lt_of_succ {m : ℕ} (hdvd : spacing (total * 2 ^ e / size) ∣ 2 ^ e)
    (hm : 0 < m) (hr : total = m * size + 1) :
    spacing (total * 2 ^ e / size) * size < 2 * 2 ^ e := by
  have hsize : size ≤ total := by
    have := Nat.le_mul_of_pos_left size hm
    omega
  have hle := spacing_mul_size_le hs he hsize
  have htotal : total * 2 ^ e ≤ 2 ^ 53 * 2 ^ e := Nat.mul_le_mul_right _ ht
  by_contra hge
  have heq : spacing (total * 2 ^ e / size) * size = 2 ^ (e + 1) := by
    rw [Nat.pow_succ]
    omega
  have hmax : total = 2 ^ 53 := by
    refine Nat.le_antisymm ht (Nat.le_of_mul_le_mul_right ?_ (Nat.two_pow_pos e))
    rw [heq, Nat.pow_succ] at hle
    omega
  obtain ⟨i, -, hi⟩ := (Nat.dvd_prime_pow Nat.prime_two).1 (Dvd.intro_left _ heq)
  rcases i with _ | i
  · have hstep := Nat.le_of_dvd (Nat.two_pow_pos e) hdvd
    rw [hi, Nat.pow_zero, Nat.mul_one, Nat.pow_succ] at heq
    have := Nat.two_pow_pos e
    rw [hi, Nat.pow_zero] at hstep
    omega
  · have heven : m * size = 2 * (m * 2 ^ i) := by
      rw [hi]
      ring
    omega

/-- What a total is more than whole pages is worth more than half the distance of the neighbours. -/
theorem spacing_mul_size_lt (hrange : size < 2 ^ (e + 1) * total) {m r : ℕ}
    (hdvd : spacing (total * 2 ^ e / size) ∣ 2 ^ e) (hr : total = m * size + r) (hpos : 0 < r) :
    spacing (total * 2 ^ e / size) * size < 2 * (r * 2 ^ e) := by
  rcases Nat.eq_zero_or_pos m with rfl | hm
  · rw [Nat.zero_mul, Nat.zero_add] at hr
    subst hr
    exact spacing_mul_size_lt_of_range hs hrange
  · rcases Nat.lt_or_ge 1 r with hlt | hle
    · have hsize : size ≤ total := by
        have := Nat.le_mul_of_pos_left size hm
        omega
      have hbound := spacing_mul_size_le hs he hsize
      have htotal : total * 2 ^ e ≤ 2 ^ 53 * 2 ^ e := Nat.mul_le_mul_right _ ht
      have htwo : 2 * 2 ^ e ≤ r * 2 ^ e := Nat.mul_le_mul_right _ hlt
      have := Nat.two_pow_pos e
      omega
    · have hone : r = 1 := by omega
      subst hone
      rw [Nat.one_mul]
      exact spacing_mul_size_lt_of_succ hs ht he hdvd hm hr

/-- The rounded quotient of a total and a page size stays above every number of pages that does not
hold the total, and does not get above one that does. -/
theorem roundUnits_le_iff (hrange : size < 2 ^ (e + 1) * total) (m : ℕ) :
    roundUnits (total * 2 ^ e) size ≤ m * 2 ^ e ↔ total ≤ m * size := by
  by_cases hwhole : size = 1 ∧ total = 2 ^ 53
  · obtain ⟨rfl, rfl⟩ := hwhole
    rw [← Nat.pow_add, roundUnits_two_pow, Nat.pow_add, Nat.mul_one,
      Nat.mul_le_mul_right_iff (Nat.two_pow_pos e)]
  · have hdvd := spacing_div_dvd hs ht (e := e) fun h1 h2 => hwhole ⟨h1, h2⟩
    constructor
    · intro h
      by_contra hlt
      obtain ⟨r, hr⟩ := Nat.exists_eq_add_of_lt (Nat.lt_of_not_le hlt)
      have hmore := spacing_mul_size_lt hs ht he hrange hdvd (r := r + 1) hr (Nat.succ_pos r)
      refine absurd (lt_roundUnits hs hdvd ?_) (Nat.not_lt.2 h)
      calc (2 * (m * 2 ^ e) + spacing (total * 2 ^ e / size)) * size
          = 2 * (m * size * 2 ^ e) + spacing (total * 2 ^ e / size) * size := by ring
        _ < 2 * (m * size * 2 ^ e) + 2 * ((r + 1) * 2 ^ e) := Nat.add_lt_add_left hmore _
        _ = 2 * ((m * size + r + 1) * 2 ^ e) := by ring
        _ = 2 * (total * 2 ^ e) := by rw [hr]
    · intro h
      refine roundUnits_le hs hdvd ?_
      calc total * 2 ^ e ≤ m * size * 2 ^ e := Nat.mul_le_mul_right _ h
        _ = m * 2 ^ e * size := by ring

/-- Rounded up, the quotient of a total and a page size is the least number of pages that hold the
total, if it does not get lost below the smallest positive number. -/
theorem roundUnits_ceilDiv (hrange : size < 2 ^ (e + 1) * total) :
    roundUnits (total * 2 ^ e) size ⌈/⌉ 2 ^ e = total ⌈/⌉ size := by
  refine eq_of_forall_ge_iff fun m => ?_
  rw [ceilDiv_le_iff_le_mul (Nat.two_pow_pos e), ceilDiv_le_iff_le_mul hs, Nat.mul_comm _ m,
    Nat.mul_comm _ m]
  exact roundUnits_le_iff hs ht he hrange m

end Quotient

/-! ## The range of the format -/

theorem exists_one_eq : ∃ e ≥ 52, one = 2 ^ e ∧ 2 ^ (53 + e) < limit :=
  ⟨1074, by decide, by decide +kernel, by decide +kernel⟩

theorem one_pos : 0 < one := by
  obtain ⟨e, -, hone, -⟩ := exists_one_eq
  rw [hone]
  exact Nat.two_pow_pos e

theorem two_mul_one : 2 * one = 2 ^ 1075 := by decide +kernel

end Binary64

namespace Page

open Binary64

variable {total size : ℕ}

/-- The least number of pages of a size that hold a total. -/
theorem isLeast_ceilDiv (hs : 0 < size) :
    IsLeast {k : ℤ | (total : ℤ) ≤ k * size} (total ⌈/⌉ size : ℕ) := by
  constructor
  · have hle : total ≤ size * (total ⌈/⌉ size) := (ceilDiv_le_iff_le_mul hs).1 le_rfl
    rw [Nat.mul_comm] at hle
    rw [Set.mem_ofPred_eq]
    exact_mod_cast hle
  · intro k hk
    rw [Set.mem_ofPred_eq] at hk
    have hk0 : 0 ≤ k := by
      by_contra hneg
      have hlt : k * size < 0 := Int.mul_neg_of_neg_of_pos (by omega) (by exact_mod_cast hs)
      omega
    lift k to ℕ using hk0
    have hle : total ≤ k * size := by exact_mod_cast hk
    rw [Nat.mul_comm] at hle
    exact_mod_cast (ceilDiv_le_iff_le_mul hs).2 hle

theorem ceilDiv_eq_one (hpos : 0 < total) (h : total ≤ size) : total ⌈/⌉ size = 1 := by
  have hs : 0 < size := hpos.trans_le h
  refine Nat.le_antisymm ((ceilDiv_le_iff_le_mul hs).2 (by omega)) ?_
  by_contra hlt
  have hzero : total ≤ size * 0 := (ceilDiv_le_iff_le_mul hs).1 (by omega)
  omega

theorem pageCount?_of_lt_limit (hs : 0 < size) (h : roundUnits (total * one) size < limit) :
    pageCount? total size = some ((roundUnits (total * one) size ⌈/⌉ one : ℕ) : ℤ) := by
  have hneg : decide ((total : ℤ) < 0) = false := decide_eq_false (by omega)
  rw [pageCount?, if_neg hs.ne', hneg, Int.natAbs_natCast, ofRatio, Binary64.round]
  simp only [Nat.not_le.2 h, if_false]
  rw [ceil?, Nat.ceilDiv_eq_add_pred_div]

theorem pageCount?_of_range (hs : 0 < size) (ht : total ≤ 2 ^ 53)
    (hrange : size < 2 * one * total) :
    pageCount? total size = some ((total ⌈/⌉ size : ℕ) : ℤ) := by
  obtain ⟨e, he, hone, hlt⟩ := exists_one_eq
  rw [hone, ← Nat.pow_succ'] at hrange
  have hlimit : roundUnits (total * one) size < limit := by
    have hle := (roundUnits_le_iff hs ht he hrange total).2 (Nat.le_mul_of_pos_right total hs)
    rw [hone]
    calc roundUnits (total * 2 ^ e) size ≤ total * 2 ^ e := hle
      _ ≤ 2 ^ 53 * 2 ^ e := Nat.mul_le_mul_right _ ht
      _ = 2 ^ (53 + e) := (Nat.pow_add 2 53 e).symm
      _ < limit := hlt
  rw [pageCount?_of_lt_limit hs hlimit, hone, roundUnits_ceilDiv hs ht he hrange]

theorem pageCount?_beyond (hs : 0 < size) (hrange : 2 * one * total ≤ size) :
    pageCount? total size = some 0 := by
  have hzero : roundUnits (total * one) size = 0 := by
    refine roundUnits_eq_zero ?_
    rw [Nat.mul_comm total, ← Nat.mul_assoc]
    exact hrange
  have hlimit : roundUnits (total * one) size < limit := by
    obtain ⟨e, -, -, hlt⟩ := exists_one_eq
    rw [hzero]
    exact (Nat.zero_le _).trans_lt hlt
  rw [pageCount?_of_lt_limit hs hlimit, hzero, zero_ceilDiv]
  rfl

/-- The number of pages is always given, and it is the least number of pages that hold the total,
exactly if there is nothing to hold or the quotient is above half the smallest positive number of
the format. Otherwise it is zero where one page is needed. The rounding to 53 bits has no part in
that: with a smallest positive number `2 ^ -e` that is small enough, it never changes the count. -/
theorem totalPages?_isLeast_iff (p : Page) (hs : 0 < p.request.size) (h0 : 0 ≤ p.total)
    (ht : p.total ≤ 2 ^ 53) :
    ∃ k : ℤ, p.totalPages? = some k ∧
      (IsLeast {k : ℤ | p.total ≤ k * p.request.size} k ↔
        p.total = 0 ∨ (p.request.size : ℤ) < 2 ^ 1075 * p.total) ∧
      (¬ IsLeast {k : ℤ | p.total ≤ k * p.request.size} k →
        k = 0 ∧ IsLeast {k : ℤ | p.total ≤ k * p.request.size} 1) ∧
      ∀ e ≥ 52, (p.request.size : ℤ) < 2 ^ (e + 1) * p.total →
        IsLeast {k : ℤ | p.total ≤ k * p.request.size}
          (roundUnits (p.total.natAbs * 2 ^ e) p.request.size ⌈/⌉ 2 ^ e : ℕ) := by
  obtain ⟨content, ⟨page, size⟩, total⟩ := p
  lift total to ℕ using h0
  simp only [totalPages?, Int.natAbs_natCast] at ht ⊢
  have ht : total ≤ 2 ^ 53 := by exact_mod_cast ht
  have hleast : IsLeast {k : ℤ | (total : ℤ) ≤ k * size} (total ⌈/⌉ size : ℕ) :=
    isLeast_ceilDiv hs
  have hfiner : ∀ e ≥ 52, (size : ℤ) < 2 ^ (e + 1) * total →
      IsLeast {k : ℤ | (total : ℤ) ≤ k * size}
        (roundUnits (total * 2 ^ e) size ⌈/⌉ 2 ^ e : ℕ) := by
    intro e he hrange
    rw [roundUnits_ceilDiv hs ht he (by exact_mod_cast hrange)]
    exact hleast
  have hcast : (size : ℤ) < 2 ^ 1075 * total ↔ size < 2 * one * total := by
    rw [two_mul_one]
    exact_mod_cast Iff.rfl
  rcases Nat.lt_or_ge size (2 * one * total) with hrange | hrange
  · refine ⟨_, pageCount?_of_range hs ht hrange, ?_, ?_, hfiner⟩
    · exact iff_of_true hleast (Or.inr (hcast.2 hrange))
    · exact fun hnot => absurd hleast hnot
  · have hnot : ¬ (size : ℤ) < 2 ^ 1075 * total := by
      rw [hcast]
      exact Nat.not_lt.2 hrange
    refine ⟨0, pageCount?_beyond hs hrange, ?_⟩
    rw [or_iff_left hnot, Nat.cast_eq_zero]
    rcases Nat.eq_zero_or_pos total with rfl | hpos
    · rw [zero_ceilDiv] at hleast
      exact ⟨iff_of_true hleast rfl, fun h => absurd hleast h, hfiner⟩
    · have hpage : total ≤ size :=
        (Nat.le_mul_of_pos_left total (Nat.mul_pos Nat.two_pos Binary64.one_pos)).trans hrange
      rw [ceilDiv_eq_one hpos hpage] at hleast
      refine ⟨iff_of_false ?_ hpos.ne', fun _ => ⟨rfl, hleast⟩, hfiner⟩
      exact fun h => absurd (h.unique hleast) (by decide)

/-- Seven entries in pages of five need two pages, and one entry in a page of `10 ^ 324` needs one,
but its quotient is lost below the range of the format. -/
theorem totalPages?_isLeast_iff_lost :
    let seven : Page := ⟨[], ⟨1, 5⟩, 7⟩
    let single : Page := ⟨[], ⟨0, 10 ^ 324⟩, 1⟩
    (0 < seven.request.size ∧ 0 ≤ seven.total ∧ seven.total ≤ 2 ^ 53) ∧
    (seven.totalPages? = some 2 ∧ IsLeast {k : ℤ | seven.total ≤ k * seven.request.size} 2) ∧
    (0 < single.request.size ∧ 0 ≤ single.total ∧ single.total ≤ 2 ^ 53) ∧
    single.totalPages? = some 0 ∧ ¬ IsLeast {k : ℤ | single.total ≤ k * single.request.size} 0 ∧
      IsLeast {k : ℤ | single.total ≤ k * single.request.size} 1 := by
  intro seven single
  have hseven : 0 < seven.request.size ∧ 0 ≤ seven.total ∧ seven.total ≤ 2 ^ 53 := by decide
  have hsingle : 0 < single.request.size ∧ 0 ≤ single.total ∧ single.total ≤ 2 ^ 53 := by
    decide +kernel
  obtain ⟨k, hk, hleast, -⟩ := totalPages?_isLeast_iff seven hseven.1 hseven.2.1 hseven.2.2
  obtain ⟨n, hn, hlost, hzero, -⟩ :=
    totalPages?_isLeast_iff single hsingle.1 hsingle.2.1 hsingle.2.2
  have hexact : IsLeast {k : ℤ | seven.total ≤ k * seven.request.size} k :=
    hleast.2 (Or.inr (by decide +kernel))
  have hbeyond : ¬ IsLeast {k : ℤ | single.total ≤ k * single.request.size} n :=
    fun h => absurd (hlost.1 h) (by decide +kernel)
  obtain ⟨rfl, hneeded⟩ := hzero hbeyond
  have htwo : IsLeast {k : ℤ | seven.total ≤ k * seven.request.size} 2 :=
    ⟨by decide, fun m hm => by
      have hle : (7 : ℤ) ≤ m * 5 := hm
      omega⟩
  obtain rfl := hexact.unique htwo
  exact ⟨hseven, ⟨hk, htwo⟩, hsingle, hn, hbeyond, hneeded⟩

end Page

end AppCatalog
