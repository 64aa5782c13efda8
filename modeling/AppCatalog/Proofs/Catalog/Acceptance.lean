import AppCatalog.Proofs.Catalog.Import
import AppCatalog.Proofs.Store.Reached

/-!
# Which listings are imported

Whether an import goes through is up to its listing: one that is in order is imported, as long as the
disk takes the index, and any other is refused for its first faulty entry or its least orphan. A
refused import leaves no trace in the store or on the disk, and an import that fails in whatever way
queues nothing to be fetched (`importAll_accepts_iff`).
-/

namespace AppCatalog

open AppCatalog.Registration

namespace Store

/-- An import of registrations into a store of entries fails only where the disk does not take the
index. -/
theorem importAll_cases_asked (file : Path) (es : Entries) (force : Bool) {w w' : World}
    {resource : Resource} {rs : List Registration} (h : (asked resource).on w = (.ok rs, w')) :
    (∃ saved, ((importAll force resource).on (ofEntries file es, w)).1 = .ok saved) ∨
      ∃ fault bytes, (w'.disk.write file bytes).1 = .error fault ∧
        ((importAll force resource).on (ofEntries file es, w)).1 = .error (.breakdown (.os fault)) := by
  have hout := (importAll_outcome (ofEntries file es, w) force h).1
  rw [hout]
  rcases importRegistrations_cases file es w' force rs with ⟨v, hi, -⟩ | ⟨fault, p, hf, hi⟩
  · exact Or.inl ⟨_, congrArg Prod.fst hi⟩
  · exact Or.inr ⟨fault, _, hf, congrArg Prod.fst hi⟩

end Store

namespace Catalog

variable {c : Catalog} {request : PageRequest} {description : String} {force : Bool}
  {asked : Except Failure (List Registration)} {f : Failure}

/-- A failed import of what was asked for queues nothing. -/
theorem imported_waiting {file : Path} {es : Entries} (hc : c.store = Store.ofEntries file es)
    (h : (imported request force description asked c).1 = .error f) :
    (imported request force description asked c).2.waiting = c.waiting := by
  rcases asked with g | rs
  · rfl
  · rw [imported, hc] at h ⊢
    have hs := Store.importRegistrations_on_store file es c.world force rs
    rcases hi : (Store.importRegistrations force rs).on (Store.ofEntries file es, c.world) with
      ⟨g | saved, s, w⟩
    · rfl
    · rw [hi] at h hs
      have hcount : s.count = .ok (es.putAll force rs).2.length := by
        rw [show s = _ from hs]
        exact Index.count_ofEntries _
      simp only [hcount] at h
      cases h

/-- An import that fails, for whatever reason, queues nothing to be fetched. -/
theorem registerAll_waiting (hs : c.store.Reached) {uri : Option String} {inline : Inline}
    (h : ((registerAll request uri inline force).on c).1 = .error f) :
    ((registerAll request uri inline force).on c).2.waiting = c.waiting := by
  obtain ⟨es, -, hes⟩ := hs.exists_entries
  obtain ⟨w, hw⟩ := importSource_keeps uri inline c
  rcases hsource : (importSource uri inline).on c with ⟨g | resource, c'⟩
  · rw [hsource] at hw
    have hrun : (registerAll request uri inline force).on c = (.error g, c') := by
      rw [registerAll, importFrom]
      exact Run.on_bind_error (Run.on_bind_error hsource)
    change c' = _ at hw
    rw [hrun, hw]
  · rw [hsource] at hw
    change c' = _ at hw
    subst hw
    rcases ha : (Store.asked resource).on w with ⟨asked, v⟩
    rw [registerAll_on request force hsource ha] at h ⊢
    exact imported_waiting hes h

/-- An import accepts exactly the listings that are in order, where of a repeated key the first place
and the last value count; only a disk that does not take the index can still keep it from being done.
It refuses any other listing for its first faulty entry, or if all are sound for its least orphan.
Whatever an import is refused for, the store and the disk are as before, and nothing is queued. -/
theorem importAll_accepts_iff {s : Store} (hs : s.Reached) (w : World) (force : Bool)
    {resource : Resource} {data : Bytes} {w' : World}
    (hr : resource.read.on w = (.ok data, w')) :
    let entries := Listing.entries (Latin1.decode data)
    let l := Listing.parse (Latin1.decode data)
    let result := (Store.importAll force resource).on (s, w)
    (Assoc.keys l = (entries.map Prod.fst).eraseDups ∧
      ∀ key, Assoc.get? key l = (entries.filter (·.1 = key)).getLast?.map Prod.snd) ∧
    (l.InOrder ↔ (∃ saved, result.1 = .ok saved) ∨
      ∃ fault bytes, (w.disk.write s.file bytes).1 = .error fault ∧
        result.1 = .error (.breakdown (.os fault))) ∧
    (∀ f, l.RefusedFor f ↔ result.1 = .error f ∧ f.isOsFault = false) ∧
    (∀ f, result.1 = .error f → f.isOsFault = false →
      result.2.1 = s ∧ result.2.2.disk = w.disk) ∧
    ∀ (c : Catalog) (request : PageRequest) (uri : Option String) (inline : Inline) (f : Failure),
      c.store = s → ((registerAll request uri inline force).on c).1 = .error f →
      ((registerAll request uri inline force).on c).2.waiting = c.waiting := by
  intro entries l result
  have hasked : (Store.asked resource).on w = (ImportPlan.ofListing l, w') := by
    rw [Store.asked_on, hr]
  have hdisk : w'.disk = w.disk := by
    obtain ⟨urls, hu⟩ := resource.read_on w
    rw [hr] at hu
    change w' = _ at hu
    rw [hu]
  refine ⟨⟨Assoc.keys_ofPairs entries, fun key => Assoc.get?_ofPairs key entries⟩, ?_⟩
  have hqueue : ∀ (c : Catalog) (request : PageRequest) (uri : Option String) (inline : Inline)
      (f : Failure), c.store = s → ((registerAll request uri inline force).on c).1 = .error f →
      ((registerAll request uri inline force).on c).2.waiting = c.waiting := by
    rintro c request uri inline f rfl hf
    exact registerAll_waiting hs hf
  rcases hl : ImportPlan.ofListing l with f | rs
  · -- The listing is not in order, and the import is refused.
    rw [hl] at hasked
    have hresult : result = (.error f, (s, w')) := Store.importAll_on_refused (s, w) hasked
    have hos := ImportPlan.ofListing_not_osFault hl
    have hnot : ¬ l.InOrder := by
      intro h
      rw [ImportPlan.ofListing_eq_ok_iff.2 ⟨h, rfl⟩] at hl
      cases hl
    rw [hresult]
    refine ⟨iff_of_false hnot ?_, ?_, fun _ _ _ => ⟨rfl, hdisk⟩, hqueue⟩
    · rintro (⟨saved, h⟩ | ⟨fault, bytes, -, h⟩)
      · cases h
      · cases h
        cases hos
    · intro g
      rw [← ImportPlan.ofListing_eq_error_iff, hl]
      constructor
      · rintro ⟨⟩
        exact ⟨rfl, hos⟩
      · rintro ⟨⟨⟩, -⟩
        rfl
  · -- The listing is in order, and only the disk can fail.
    rw [hl] at hasked
    obtain ⟨es, -, hes⟩ := hs.exists_entries
    have hdone := Store.importAll_cases_asked s.file es force hasked
    rw [← hes, hdisk] at hdone
    have hnot : ∀ f, result.1 = .error f → f.isOsFault ≠ false := by
      intro f hf hfalse
      rcases hdone with ⟨saved, h⟩ | ⟨fault, bytes, -, h⟩
      · cases h.symm.trans hf
      · cases h.symm.trans hf
        cases hfalse
    refine ⟨iff_of_true (ImportPlan.ofListing_eq_ok_iff.1 hl).1 hdone, ?_, ?_, hqueue⟩
    · intro f
      rw [← ImportPlan.ofListing_eq_error_iff, hl]
      exact ⟨nofun, fun h => absurd h.2 (hnot f h.1)⟩
    · intro f hf hfalse
      exact absurd hfalse (hnot f hf)

/-- Metadata without its application is refused, although the entry behind it is sound. -/
theorem importAll_refuses_orphan :
    let data : Bytes := "app.x.metadata=http://m\nsink.y=http://y".toList.map fun ch =>
      UInt8.ofNat ch.toNat
    let result := (Store.importAll true (.inline data "a listing")).on Store.freshStart
    Store.freshStart.1.Reached ∧
    (Resource.inline data "a listing").read.on Store.freshStart.2 = (.ok data, Store.freshStart.2) ∧
    result.1 = .error (.invalidEntry "app.x.metadata" .orphanMetadata) ∧
    (Listing.parse (Latin1.decode data)).RefusedFor (.invalidEntry "app.x.metadata" .orphanMetadata) ∧
    result.2.1 = Store.freshStart.1 ∧ result.2.2.disk = Store.freshStart.2.disk := by
  intro data result
  have ho : Store.OpenedEmpty ⟨.relative, ["registry".toList]⟩ World.empty Store.freshStart :=
    ⟨rfl, rfl⟩
  have hr : (Resource.inline data "a listing").read.on Store.freshStart.2 =
      (.ok data, Store.freshStart.2) := rfl
  have hresult : result.1 = .error (.invalidEntry "app.x.metadata" .orphanMetadata) := rfl
  obtain ⟨-, -, hrefused, hkept, -⟩ := importAll_accepts_iff (.opened ho) Store.freshStart.2 true hr
  exact ⟨.opened ho, hr, hresult, (hrefused _).2 ⟨hresult, rfl⟩, hkept _ hresult rfl⟩

end Catalog

end AppCatalog
