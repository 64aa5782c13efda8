import AppCatalog.Page
import AppCatalog.Proofs.Text.Split
import Mathlib.Algebra.Order.Floor.Div

/-!
# Pages of a query

A query finds the registrations that match it, in the order of the listing. Its pages of one size,
from the first on, hold what it finds, each entry once (`Visits`). A query that narrows nothing cuts
its pages out of the listing, and beyond the last one they are empty; any other query serves the first
page again to who asks for one that begins past the end (`Query.page_beyond`).
-/

namespace AppCatalog

/-! ## Windows -/

namespace Page

variable {α : Type} {xs : List α}

theorem window_of_le {r : PageRequest} (h : xs.length ≤ r.offset) : window xs r = [] := by
  rw [window, List.drop_of_length_le h, List.take_nil]

theorem window_of_size_zero (xs : List α) (k : ℕ) : window xs ⟨k, 0⟩ = [] := List.take_zero

theorem length_window (xs : List α) (r : PageRequest) :
    (window xs r).length = min r.size (xs.length - r.offset) := by
  rw [window, List.length_take, List.length_drop]

/-- The first windows of a size hold the beginning of the list. -/
theorem flatMap_window (xs : List α) (s p : ℕ) :
    (List.range p).flatMap (fun k => window xs ⟨k, s⟩) = xs.take (p * s) := by
  induction p with
  | zero => rw [List.range_zero, List.flatMap_nil, Nat.zero_mul, List.take_zero]
  | succ p ih =>
      rw [List.range_succ, List.flatMap_append, ih, Nat.succ_mul, List.take_add]
      simp only [List.flatMap_cons, List.flatMap_nil, List.append_nil]
      rfl

/-- The pages of a size that show a list once, from the first to the last. -/
structure Visits (found : List Registration) (s : ℕ) (page : ℕ → Page) : Prop where
  joined : (List.range (found.length ⌈/⌉ s)).flatMap (fun k => (page k).content) = found
  request : ∀ k < found.length ⌈/⌉ s, (page k).request = ⟨k, s⟩
  full : ∀ k, k + 1 < found.length ⌈/⌉ s → (page k).content.length = s

variable {found : List Registration} {s k : ℕ}

theorem le_mul_of_ceilDiv_le (hs : 0 < s) (h : found.length ⌈/⌉ s ≤ k) : found.length ≤ k * s := by
  rw [Nat.mul_comm]
  exact (ceilDiv_le_iff_le_mul hs).1 h

theorem mul_lt_of_lt_ceilDiv (hs : 0 < s) (h : k < found.length ⌈/⌉ s) : k * s < found.length := by
  rw [Nat.mul_comm, ← Nat.not_le, ← ceilDiv_le_iff_le_mul hs, Nat.not_le]
  exact h

/-- Windows that are served as they are requested show a list once. -/
theorem Visits.of_cut (hs : 0 < s) {page : ℕ → Page}
    (h : ∀ k < found.length ⌈/⌉ s, page k = cut found ⟨k, s⟩) : Visits found s page where
  joined := by
    have hwindows : (List.range (found.length ⌈/⌉ s)).flatMap (fun k => (page k).content) =
        (List.range (found.length ⌈/⌉ s)).flatMap fun k => window found ⟨k, s⟩ := by
      refine List.flatMap_congr fun k hk => ?_
      rw [h k (List.mem_range.1 hk)]
      rfl
    rw [hwindows, flatMap_window, List.take_of_length_le (le_mul_of_ceilDiv_le hs le_rfl)]
  request k hk := by
    rw [h k hk]
    rfl
  full k hk := by
    have hend : (k + 1) * s < found.length := mul_lt_of_lt_ceilDiv hs hk
    rw [h k (Nat.lt_of_succ_lt hk)]
    change (window found ⟨k, s⟩).length = s
    rw [length_window, min_eq_left]
    rw [Nat.succ_mul] at hend
    exact Nat.le_sub_of_add_le' hend.le

theorem cut_of_le {rs : List Registration} {r : PageRequest} (h : rs.length ≤ r.offset) :
    cut rs r = ⟨[], r, rs.length⟩ := by
  rw [cut, window_of_le h]

theorem served_of_le {n : ℕ} {r : PageRequest} (h : r.offset ≤ n) : served n r = r :=
  if_pos (le_min h (Nat.le_add_right _ _))

theorem served_of_lt {n : ℕ} {r : PageRequest} (h : n < r.offset) : served n r = ⟨0, r.size⟩ := by
  refine if_neg fun hle => ?_
  exact absurd (hle.trans (min_le_left _ _)) (Nat.not_le.2 h)

/-- The first page of a size. -/
theorem cut_first (rs : List Registration) (s : ℕ) :
    cut rs ⟨0, s⟩ = ⟨rs.take s, ⟨0, s⟩, rs.length⟩ := by
  rw [cut, window, PageRequest.offset, Nat.zero_mul, List.drop_zero]

end Page

/-! ## Queries -/

namespace Query

variable {q : Query} {rs : List Registration}

/-- A registration is what a query asks for: it is of the type, and its name contains the text. -/
structure Matches (q : Query) (r : Registration) : Prop where
  type : ∀ t, q.type = some t → r.type = t
  name : ∀ s, q.search = some s → s.toList <:+: r.name.toList

theorem selects_iff {r : Registration} : q.selects r = true ↔ q.Matches r := by
  obtain ⟨type, search⟩ := q
  rw [selects, Bool.and_eq_true, Option.all_eq_true, Option.all_eq_true]
  constructor
  · rintro ⟨ht, hs⟩
    exact ⟨fun t h => (beq_iff_eq.1 (ht t h)).symm, fun s h => Text.isSome_cutAt?_iff.1 (hs s h)⟩
  · rintro ⟨ht, hs⟩
    exact ⟨fun t h => beq_iff_eq.2 (ht t h).symm, fun s h => Text.isSome_cutAt?_iff.2 (hs s h)⟩

instance (q : Query) : DecidablePred q.Matches := fun _ => decidable_of_iff _ selects_iff

/-- What a query finds in a listing. -/
def found (q : Query) (rs : List Registration) : List Registration := rs.filter fun r => q.Matches r

theorem found_eq (q : Query) (rs : List Registration) : q.found rs = rs.filter q.selects := by
  refine List.filter_congr fun r _ => ?_
  rw [Bool.eq_iff_iff, decide_eq_true_iff, selects_iff]

theorem found_of_isEmpty (h : q.isEmpty = true) (rs : List Registration) : q.found rs = rs := by
  rw [isEmpty, Bool.and_eq_true, Option.isNone_iff_eq_none, Option.isNone_iff_eq_none] at h
  rw [found, List.filter_eq_self]
  intro r _
  rw [decide_eq_true_iff]
  exact ⟨fun t ht => by simp [h.1] at ht, fun s hs => by simp [h.2] at hs⟩

theorem page_eq (q : Query) (r : PageRequest) (rs : List Registration) :
    q.page r rs = if q.isEmpty then .cut (q.found rs) r else .slice (q.found rs) r := by
  rw [page]
  split
  · next h => rw [found_of_isEmpty h]
  · rw [found_eq]

/-- A page that begins within what the query finds, or right behind it, is served as it is
requested. -/
theorem page_of_le {r : PageRequest} (h : r.offset ≤ (q.found rs).length) :
    q.page r rs = .cut (q.found rs) r := by
  rw [page_eq, Page.slice, Page.served_of_le h, ite_self]

/-- A page that begins further behind is empty, or the first one if the query narrows anything. -/
theorem page_beyond {r : PageRequest} (h : (q.found rs).length < r.offset) :
    q.page r rs = if q.isEmpty then ⟨[], r, (q.found rs).length⟩
      else ⟨(q.found rs).take r.size, ⟨0, r.size⟩, (q.found rs).length⟩ := by
  rw [page_eq, Page.slice, Page.served_of_lt h, Page.cut_first, Page.cut_of_le h.le]

theorem total_page (q : Query) (r : PageRequest) (rs : List Registration) :
    (q.page r rs).total = (q.found rs).length := by
  rw [page_eq]
  split <;> rfl

/-- The pages of a query show what it finds. -/
theorem visits_pages (q : Query) (rs : List Registration) {s : ℕ} (hs : 0 < s) :
    Page.Visits (q.found rs) s fun k => q.page ⟨k, s⟩ rs :=
  .of_cut hs fun _ hk => page_of_le (Page.mul_lt_of_lt_ceilDiv hs hk).le

end Query

end AppCatalog
