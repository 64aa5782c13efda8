import AppCatalog.Proofs.Catalog.Import
import AppCatalog.Proofs.Page

/-!
# Paging through a catalog

Whoever asks a catalog for one page after another sees every registration that the query finds, once
and in listing order (`Catalog.list_pages`). Searching for the empty text finds everything, and yet
it is not the same as not searching: beyond the end of the listing the one answers with the first
page and the other with an empty one (`Catalog.list_everything_eq_iff`).
-/

namespace AppCatalog

open AppCatalog.Registration

theorem Store.pairwise_of_all {s : Store} {rs : List Registration} (h : s.all = .ok rs) :
    rs.Pairwise fun a b => keyUpTo a.key b.key := by
  rw [all] at h
  rcases hi : s.index with m | v
  · rw [hi, Index.all] at h
    rcases hm : m.mapM (fun p => Index.decode p.2) with f | rs'
    · rw [hm] at h
      cases h
    · rw [hm] at h
      cases h
      exact pairwise_keyUpTo_sort rs'
  · rw [hi] at h
    cases h

theorem Query.found_empty_search (rs : List Registration) : found ⟨none, some ""⟩ rs = rs := by
  rw [found, List.filter_eq_self]
  intro r _
  rw [decide_eq_true_iff]
  constructor
  · intro type htype
    cases htype
  · intro text htext
    cases htext
    exact List.nil_infix

namespace Catalog

variable {c : Catalog} {rs : List Registration}

/-- Page by page, a listing shows what its query finds. -/
theorem list_pages (h : c.store.all = .ok rs) (q : Query) (s : ℕ) :
    let found := q.found rs
    let page := fun k => q.page ⟨k, s⟩ rs
    (∀ k, (list ⟨k, s⟩ q).on c = (.ok (page k), c)) ∧
    (found.Pairwise fun a b => keyUpTo a.key b.key) ∧
    (∀ k, (page k).total = found.length) ∧
    (0 < s → Page.Visits found s page ∧ ∀ k, found.length ⌈/⌉ s ≤ k →
      page k = if q.isEmpty ∨ k * s = found.length then ⟨[], ⟨k, s⟩, found.length⟩
        else ⟨found.take s, ⟨0, s⟩, found.length⟩) ∧
    (s = 0 → ∀ k, page k = ⟨[], ⟨k, 0⟩, found.length⟩) := by
  intro found page
  refine ⟨fun k => by rw [list_on, h]; rfl, (Store.pairwise_of_all h).filter _,
    fun k => Query.total_page q _ rs, fun hs => ⟨Query.visits_pages q rs hs, fun k hk => ?_⟩, ?_⟩
  · rcases (Page.le_mul_of_ceilDiv_le hs hk).lt_or_eq with hlt | heq
    · have hbeyond : page k = _ := Query.page_beyond (q := q) (r := ⟨k, s⟩) hlt
      rw [hbeyond]
      have hne : k * s ≠ found.length := hlt.ne'
      simp only [hne, or_false]
      rfl
    · have hend : page k = .cut found ⟨k, s⟩ := Query.page_of_le (q := q) (r := ⟨k, s⟩) heq.ge
      rw [hend, if_pos (Or.inr heq.symm)]
      exact Page.cut_of_le heq.le
  · rintro rfl k
    have hfirst : page k = .cut found ⟨k, 0⟩ :=
      Query.page_of_le (q := q) (r := ⟨k, 0⟩) (Nat.zero_le _)
    rw [hfirst, Page.cut, Page.window_of_size_zero]

/-- A catalog that holds registrations. -/
def stocked (rs : List Registration) : Catalog :=
  ⟨Store.ofEntries ⟨.relative, [Store.fileName.toList]⟩ (rs.map fun r => (r.key, r.place)),
    ⟨.standard, none⟩, World.empty, []⟩

theorem all_stocked {listed : List Registration} (hperm : listed.Perm rs)
    (hbefore : listed.Pairwise fun a b => a.before b = true) :
    (stocked rs).store.all = .ok listed := by
  have hrs : Entries.registrations (rs.map fun r => (r.key, r.place)) = rs := by
    rw [Entries.registrations, List.map_map]
    exact List.map_id rs
  have hnodup : (listed.map key).Nodup := by
    rw [List.Nodup, List.pairwise_map]
    refine hbefore.imp fun {a b} hab heq => ?_
    rw [before, heq, keyBefore_irrefl] at hab
    exact Bool.false_ne_true hab
  have hsort : sort rs = listed := by
    refine eq_of_pairwise_before (pairwise_before_sort ?_) hbefore fun r => ?_
    · exact (hperm.map key).nodup_iff.1 hnodup
    · rw [(perm_sort rs).mem_iff, hperm.mem_iff]
  have hall := Index.all_ofEntries (rs.map fun r => (r.key, r.place))
  rwa [hrs, hsort] at hall

/-- Three sources and a sink, in pages of two sources: the second page is the last one, and in place of
the third the first is served. -/
theorem list_pages_sources :
    let a : Registration := ⟨.source, "a", "http://a", none⟩
    let b : Registration := ⟨.source, "b", "http://b", none⟩
    let c : Registration := ⟨.source, "c", "http://c", none⟩
    let d : Registration := ⟨.sink, "a", "http://d", none⟩
    let sources : Query := ⟨some .source, none⟩
    let full := stocked [d, c, a, b]
    full.store.all = .ok [a, b, c, d] ∧
      (list ⟨0, 2⟩ sources).on full = (.ok ⟨[a, b], ⟨0, 2⟩, 3⟩, full) ∧
      (list ⟨1, 2⟩ sources).on full = (.ok ⟨[c], ⟨1, 2⟩, 3⟩, full) ∧
      (list ⟨2, 2⟩ sources).on full = (.ok ⟨[a, b], ⟨0, 2⟩, 3⟩, full) := by
  intro a b c d sources full
  have hall : full.store.all = .ok [a, b, c, d] := all_stocked (by decide) (by decide)
  obtain ⟨hlist, -, -, hpages, -⟩ := list_pages hall sources 2
  obtain ⟨-, hbeyond⟩ := hpages (by decide)
  refine ⟨hall, ?_, ?_, ?_⟩
  · rw [hlist]
    rfl
  · rw [hlist]
    rfl
  · rw [hlist, hbeyond 2 (by decide)]
    rfl

/-- Searching for the empty text gives the same page as not searching exactly for the requests that
begin within the listing or right at its end. Beyond that it gives the first page instead of an empty
one; the total is the same. -/
theorem list_everything_eq_iff (h : c.store.all = .ok rs) (request : PageRequest) :
    ∃ searched unsearched : Page,
      (list request ⟨none, some ""⟩).on c = (.ok searched, c) ∧
      (list request ⟨none, none⟩).on c = (.ok unsearched, c) ∧
      (searched = unsearched ↔ request.offset ≤ rs.length) ∧
      searched.total = rs.length ∧ unsearched.total = rs.length ∧
      (rs.length < request.offset → searched = ⟨rs.take request.size, ⟨0, request.size⟩, rs.length⟩ ∧
        unsearched = ⟨[], request, rs.length⟩) := by
  have hfound : Query.found ⟨none, some ""⟩ rs = rs := Query.found_empty_search rs
  have hfound' : Query.found ⟨none, none⟩ rs = rs := Query.found_of_isEmpty rfl rs
  have hbeyond : rs.length < request.offset →
      Query.page ⟨none, some ""⟩ request rs =
        ⟨rs.take request.size, ⟨0, request.size⟩, rs.length⟩ ∧
      Query.page ⟨none, none⟩ request rs = ⟨[], request, rs.length⟩ := by
    intro hlt
    have hs := @Query.page_beyond ⟨none, some ""⟩ rs request
    have hu := @Query.page_beyond ⟨none, none⟩ rs request
    rw [hfound] at hs
    rw [hfound'] at hu
    exact ⟨hs hlt, hu hlt⟩
  refine ⟨Query.page ⟨none, some ""⟩ request rs, Query.page ⟨none, none⟩ request rs,
    by rw [list_on, h]; rfl, by rw [list_on, h]; rfl, ⟨fun heq => ?_, fun hle => ?_⟩, ?_, ?_, hbeyond⟩
  · by_contra hlt
    rw [Nat.not_le] at hlt
    obtain ⟨hs, hu⟩ := hbeyond hlt
    -- the pages are told apart by the request that is served: no first page begins behind the end
    have hpage : 0 = request.page :=
      congrArg (fun p => p.request.page) (hs.symm.trans (heq.trans hu))
    rw [PageRequest.offset, ← hpage, Nat.zero_mul] at hlt
    exact Nat.not_lt_zero _ hlt
  · rw [Query.page_of_le (by rwa [hfound]), Query.page_of_le (by rwa [hfound']), hfound, hfound']
  · rw [Query.total_page, hfound]
  · rw [Query.total_page, hfound']

/-- One registration in pages of one: the second page is empty either way, and the third is not. -/
theorem list_everything_eq_iff_beyond :
    let a : Registration := ⟨.app, "a", "http://a", none⟩
    let c := stocked [a]
    c.store.all = .ok [a] ∧
      (list ⟨1, 1⟩ ⟨none, some ""⟩).on c = (list ⟨1, 1⟩ ⟨none, none⟩).on c ∧
      (list ⟨2, 1⟩ ⟨none, some ""⟩).on c = (.ok ⟨[a], ⟨0, 1⟩, 1⟩, c) ∧
      (list ⟨2, 1⟩ ⟨none, none⟩).on c = (.ok ⟨[], ⟨2, 1⟩, 1⟩, c) := by
  intro a c
  have hall : c.store.all = .ok [a] := all_stocked (.refl _) (List.pairwise_singleton _ a)
  obtain ⟨p, p', hp, hp', heq, -⟩ := list_everything_eq_iff hall ⟨1, 1⟩
  obtain ⟨q, q', hq, hq', -, -, -, hbeyond⟩ := list_everything_eq_iff hall ⟨2, 1⟩
  obtain ⟨rfl, rfl⟩ := hbeyond (by decide)
  refine ⟨hall, ?_, hq, hq'⟩
  rw [hp, hp', heq.2 (by decide)]

end Catalog

end AppCatalog
