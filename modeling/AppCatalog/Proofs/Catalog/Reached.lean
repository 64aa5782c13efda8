import AppCatalog.Proofs.Catalog.Import
import AppCatalog.Proofs.Store.Reached

/-!
# The catalogs that clients come to

A client opens a catalog in an empty folder, registers, unregisters and imports, and opens it again.
Meanwhile the world becomes what it will, and what waits to be fetched is fetched. Whatever is asked
of the catalog, only registrations get into its store whose URIs are accepted (`Reached.accepted`).
-/

namespace AppCatalog

open AppCatalog.Registration

/-- A registration whose URIs are accepted. -/
structure Registration.Accepted (r : Registration) : Prop where
  uri : Uri.fault? r.uri.toList = none
  metadataUri : ∀ uri, r.metadataUri = some uri → Uri.fault? uri.toList = none

instance (r : Registration) : Decidable r.Accepted :=
  decidable_of_iff (Uri.fault? r.uri.toList = none ∧
    ∀ uri ∈ r.metadataUri, Uri.fault? uri.toList = none) ⟨fun h => ⟨h.1, h.2⟩, fun h => ⟨h.1, h.2⟩⟩

/-- Entries of registrations whose URIs are accepted. -/
def Entries.Accepted (es : Entries) : Prop := ∀ e ∈ es, (ofEntry e).Accepted

namespace Entries.Accepted

variable {es : Entries}

theorem put (h : es.Accepted) {r : Registration} (hr : r.Accepted) : (es.put r).Accepted := by
  intro e he
  rcases Assoc.mem_of_mem_insert he with rfl | he
  · exact hr
  · exact h e he

theorem erase (h : es.Accepted) (k : AppType × String) : Accepted (Assoc.erase k es) := by
  intro e he
  exact h e ((Assoc.erase_sublist k es).mem he)

theorem putAll (h : es.Accepted) (force : Bool) {rs : List Registration}
    (hrs : ∀ r ∈ rs, r.Accepted) : (es.putAll force rs).2.Accepted := by
  induction rs generalizing es with
  | nil => exact h
  | cons r rs ih =>
      have hrest : ∀ r ∈ rs, r.Accepted := fun r' hr' => hrs r' (List.mem_cons_of_mem r hr')
      rw [Entries.putAll, AppCatalog.putAll]
      split
      · exact ih h hrest
      · exact ih (h.put (hrs r List.mem_cons_self)) hrest

end Entries.Accepted

/-- An import asks only for registrations whose URIs are accepted. -/
theorem ImportPlan.accepted_of_ofListing {l : Listing} {rs : List Registration}
    (h : ofListing l = .ok rs) : ∀ r ∈ rs, r.Accepted := by
  obtain ⟨horder, rfl⟩ := ofListing_eq_ok_iff.1 h
  have hplaced : ∀ (isMetadata : Bool) (k : AppType × String) (uri : String),
      (k, uri) ∈ Assoc.ofPairs (l.filterMap (placed? isMetadata)) →
        Uri.fault? uri.toList = none := by
    intro isMetadata k uri hmem
    obtain ⟨e, he, -, hu⟩ := mem_filterMap_placed.1 (Assoc.mem_of_mem_ofPairs hmem)
    rw [← hu]
    exact (horder.sound e he).accepted
  intro r hr
  obtain ⟨e, he, rfl⟩ := List.mem_map.1 hr
  refine ⟨hplaced false e.1 e.2 he, ?_⟩
  intro uri hu
  exact hplaced true e.1 uri ((Assoc.mem_iff_get? (Assoc.nodup_keys_ofPairs _) _ _).2 hu)

namespace Store

/-- A store that holds a map of entries whose URIs are accepted. -/
def HoldsAccepted (s : Store) : Prop :=
  ∃ es : Entries, (Assoc.keys es).Nodup ∧ es.Accepted ∧ s = ofEntries s.file es

namespace HoldsAccepted

variable {s : Store}

theorem of_entries {es : Entries} (hn : (Assoc.keys es).Nodup) (ha : es.Accepted) (file : Path) :
    (ofEntries file es).HoldsAccepted := ⟨es, hn, ha, rfl⟩

theorem save (h : s.HoldsAccepted) {r : Registration} (hr : r.Accepted) (w : World)
    (force : Bool) : ((Store.save r force).on (s, w)).2.1.HoldsAccepted := by
  obtain ⟨es, hn, ha, hs⟩ := h
  rw [hs, save_on_store]
  split
  · exact of_entries hn ha s.file
  · exact of_entries (Assoc.nodup_keys_insert hn) (ha.put hr) s.file

theorem delete (h : s.HoldsAccepted) (w : World) (type : AppType) (name : String) :
    ((Store.delete type name).on (s, w)).2.1.HoldsAccepted := by
  obtain ⟨es, hn, ha, hs⟩ := h
  rw [hs, delete_on_store]
  exact of_entries (Assoc.nodup_keys_erase hn) (ha.erase (type, name)) s.file

theorem importRegistrations (h : s.HoldsAccepted) (w : World) (force : Bool)
    {rs : List Registration} (hrs : ∀ r ∈ rs, r.Accepted) :
    ((Store.importRegistrations force rs).on (s, w)).2.1.HoldsAccepted := by
  obtain ⟨es, hn, ha, hs⟩ := h
  rw [hs, importRegistrations_on_store]
  exact of_entries (Entries.nodup_keys_putAll hn force rs) (ha.putAll force hrs) s.file

/-- A store that is opened again where a file holds its index holds the same entries. -/
theorem opened (h : s.HoldsAccepted) {s' : Store} {folder : Path} {w w' : World}
    (ho : (Store.opened folder).on w = (.ok s', w'))
    (hr : w'.disk.read s'.file = .ok (indexBytes s.index)) : s'.HoldsAccepted := by
  obtain ⟨es, hn, ha, hs⟩ := h
  rw [hs] at hr
  exact ⟨es, hn, ha, eq_ofEntries_of_opened ho hn hr⟩

end HoldsAccepted

end Store

namespace Catalog

variable {c c' : Catalog}

/-! ## What operations do to the store -/

theorem checkUri_eq_ok_iff {uri : String} :
    checkUri uri = .ok () ↔ Uri.fault? uri.toList = none := by
  rw [checkUri]
  cases Uri.fault? uri.toList with
  | none => exact iff_of_true rfl rfl
  | some fault =>
      refine iff_of_false ?_ (Option.some_ne_none fault)
      intro h
      cases h

/-- A registration is refused for its URIs, or saved. -/
theorem register_store (r : Registration) (force : Bool) (c : Catalog) :
    ¬ r.Accepted ∧ ((register r force).on c).2.store = c.store ∨
      r.Accepted ∧
        ((register r force).on c).2.store = ((Store.save r force).on (c.store, c.world)).2.1 := by
  have hrest : ((do
      let _ ← inStore (Store.save r force)
      note ("Registered " ++ r.id ++ " as " ++ r.uri)
      prefetch [r]
      pure r : Action Registration).on c).2.store =
        ((Store.save r force).on (c.store, c.world)).2.1 := by
    rw [Run.on_bind, inStore_on]
    rcases (Store.save r force).on (c.store, c.world) with ⟨f | previous, s, w⟩ <;> rfl
  rw [register, Run.on_bind, Run.on_ofExcept]
  rcases hu : checkUri r.uri with f | u
  · refine Or.inl ⟨fun hr => ?_, rfl⟩
    cases hu.symm.trans (checkUri_eq_ok_iff.2 hr.uri)
  · rcases hm : r.metadataUri with _ | uri
    · refine Or.inr ⟨⟨checkUri_eq_ok_iff.1 hu, ?_⟩, hrest⟩
      intro uri huri
      cases hm.symm.trans huri
    · simp only
      rw [Run.on_bind, Run.on_ofExcept]
      rcases hu' : checkUri uri with f | u'
      · refine Or.inl ⟨fun hr => ?_, rfl⟩
        cases hu'.symm.trans (checkUri_eq_ok_iff.2 (hr.metadataUri uri hm))
      · refine Or.inr ⟨⟨checkUri_eq_ok_iff.1 hu, ?_⟩, hrest⟩
        intro uri' huri
        cases hm.symm.trans huri
        exact checkUri_eq_ok_iff.1 hu'

theorem unregister_store (type : AppType) (name : String) (c : Catalog) :
    ((unregister type name).on c).2.store =
      ((Store.delete type name).on (c.store, c.world)).2.1 := by
  rw [unregister, Run.on_bind, inStore_on]
  rcases (Store.delete type name).on (c.store, c.world) with ⟨f | b, s, w⟩
  · rfl
  · cases b <;> rfl

/-- A listing is imported into the store, or leaves it alone. -/
theorem registerAll_store (request : PageRequest) (uri : Option String) (inline : Inline)
    (force : Bool) (c : Catalog) :
    ((registerAll request uri inline force).on c).2.store = c.store ∨
      ∃ l rs w, ImportPlan.ofListing l = .ok rs ∧
        ((registerAll request uri inline force).on c).2.store =
          ((Store.importRegistrations force rs).on (c.store, w)).2.1 := by
  obtain ⟨w, hw⟩ := importSource_keeps uri inline c
  rcases hsource : (importSource uri inline).on c with ⟨f | resource, c'⟩
  · rw [hsource] at hw
    change c' = _ at hw
    refine Or.inl ?_
    rw [registerAll, importFrom, Run.on_bind_error (Run.on_bind_error hsource), hw]
  · rw [hsource] at hw
    change c' = _ at hw
    subst hw
    rcases ha : (Store.asked resource).on w with ⟨f | rs, v⟩
    · rw [registerAll_on request force hsource ha]
      exact Or.inl rfl
    · rw [registerAll_on request force hsource ha, imported_store]
      have hlisting : ∃ l, ImportPlan.ofListing l = .ok rs := by
        rw [Store.asked_on] at ha
        rcases hr : resource.read.on w with ⟨f | data, v'⟩
        · rw [hr] at ha
          cases ha
        · rw [hr] at ha
          exact ⟨_, congrArg Prod.fst ha⟩
      obtain ⟨l, hl⟩ := hlisting
      exact Or.inr ⟨l, rs, v, hl, rfl⟩

theorem of_opened_on {loader : Loader} {folder : Path} {w w' : World}
    (h : (opened loader folder).on w = (.ok c, w')) :
    ∃ v, (Store.opened folder).on v = (.ok c.store, w') := by
  rw [opened, Run.on_bind] at h
  rcases hp : loader.prepare.on w with ⟨f | u, v⟩
  · rw [hp] at h
    cases h
  · rw [hp] at h
    simp only at h
    rw [Run.on_bind] at h
    rcases hs : (Store.opened folder).on v with ⟨f | s, v'⟩
    · rw [hs] at h
      cases h
    · rw [hs] at h
      cases h
      exact ⟨v, hs⟩

theorem of_reopen_on {folder : Path} (h : (reopen folder).on c = (.ok (), c')) :
    ∃ v, (Store.opened folder).on v = (.ok c'.store, c'.world) := by
  rw [reopen, Run.on_bind_ok (Run.on_get c), Run.on_bind, inWorld, Run.on_within] at h
  rcases hp : c.loader.prepare.on c.world with ⟨f | u, v⟩
  · rw [hp] at h
    cases h
  · rw [hp] at h
    simp only at h
    rw [Run.on_bind, inWorld, Run.on_within] at h
    rcases hs : (Store.opened folder).on v with ⟨f | s, v'⟩
    · rw [hs] at h
      cases h
    · rw [hs] at h
      cases h
      exact ⟨v, hs⟩

/-! ## Catalogs -/

/-- A catalog that a client can come to. -/
inductive Reached : Catalog → Prop
  | opened {loader : Loader} {folder : Path} {before w : World} {c : Catalog}
    (h : (Catalog.opened loader folder).on before = (.ok c, w))
    (hf : w.disk.isThere c.store.file = .ok false) : Reached c
  /-- The world turns into another one, and other registrations wait to be fetched. -/
  | elsewhere {c : Catalog} (h : Reached c) (w : World) (waiting : List Registration) :
    Reached { c with world := w, waiting }
  | register {c : Catalog} (h : Reached c) (r : Registration) (force : Bool) :
    Reached ((register r force).on c).2
  | unregister {c : Catalog} (h : Reached c) (type : AppType) (name : String) :
    Reached ((unregister type name).on c).2
  | imported {c : Catalog} (h : Reached c) (request : PageRequest) (uri : Option String)
    (inline : Inline) (force : Bool) : Reached ((registerAll request uri inline force).on c).2
  /-- The catalog is opened again where a file holds its index. -/
  | reopened {c c' : Catalog} {folder : Path} (h : Reached c)
    (ho : (reopen folder).on c = (.ok (), c'))
    (hr : c'.world.disk.read c'.store.file = .ok (Store.indexBytes c.store.index)) : Reached c'

/-- The store of such a catalog holds a map of entries whose URIs are accepted. -/
theorem Reached.holdsAccepted (h : Reached c) : c.store.HoldsAccepted := by
  induction h with
  | @opened loader folder before w c ho hf =>
      obtain ⟨v, hs⟩ := of_opened_on ho
      have hempty : Store.OpenedEmpty folder v (c.store, w) := ⟨hs, hf⟩
      have he : c.store = Store.ofEntries c.store.file [] := congrArg Prod.fst hempty.eq_ofEntries
      exact ⟨[], List.nodup_nil, nofun, he⟩
  | elsewhere _ _ _ ih => exact ih
  | @register c _ r force ih =>
      rcases register_store r force c with ⟨-, hs⟩ | ⟨hr, hs⟩
      · rw [hs]
        exact ih
      · rw [hs]
        exact ih.save hr c.world force
  | @unregister c _ type name ih =>
      rw [unregister_store]
      exact ih.delete c.world type name
  | @imported c _ request uri inline force ih =>
      rcases registerAll_store request uri inline force c with hs | ⟨l, rs, w, hl, hs⟩
      · rw [hs]
        exact ih
      · rw [hs]
        exact ih.importRegistrations w force (ImportPlan.accepted_of_ofListing hl)
  | reopened _ ho hr ih =>
      obtain ⟨v, hs⟩ := of_reopen_on ho
      exact ih.opened hs hr

/-- What is found in such a catalog has URIs that are accepted. -/
theorem Reached.accepted (h : Reached c) {type : AppType} {name : String} {r : Registration}
    (hr : c.store.find type name = .ok (some r)) : r.Accepted := by
  obtain ⟨es, hn, ha, hs⟩ := h.holdsAccepted
  rw [hs] at hr
  have hfind : (Index.ofEntries es).find type name = .ok (some r) := hr
  rw [Index.find_ofEntries es (type, name), Except.ok.injEq, Option.map_eq_some_iff] at hfind
  obtain ⟨place, hplace, rfl⟩ := hfind
  exact ha _ ((Assoc.mem_iff_get? hn _ _).2 hplace)

end Catalog

end AppCatalog
