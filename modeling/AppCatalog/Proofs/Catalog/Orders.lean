import AppCatalog.Proofs.Catalog.Reached

/-!
# What orders leave in a catalog

A registration is well formed if it has a name and its URIs are accepted. URIs are checked wherever a
registration comes from, and an import refuses keys without a name; a single registration is taken
under whatever name it is given. So everything in a catalog is well formed unless its orders leave a
registration without a name behind, and the orders say of which types (`ReachedBy.wellFormed_iff`).
-/

namespace AppCatalog

open AppCatalog.Registration

/-- A registration as it should be: it has a name, and its URIs are accepted. -/
structure Registration.WellFormed (r : Registration) : Prop where
  name : r.name ≠ ""
  accepted : r.Accepted

/-- The key of a registration without a name. -/
def Registration.namelessKey (type : AppType) : AppType × String := (type, "")

theorem Registration.key_eq_namelessKey_iff {r : Registration} {type : AppType} :
    r.key = namelessKey type ↔ r.type = type ∧ r.name = "" := by
  rw [key, namelessKey, Prod.mk.injEq]

/-- An import never asks for a registration without a name. -/
theorem ImportPlan.named_of_ofListing {l : Listing} {rs : List Registration}
    (h : ofListing l = .ok rs) (type : AppType) : namelessKey type ∉ rs.map key := by
  intro hk
  obtain ⟨e, -, hnames⟩ := (mem_map_key_iff h).1 hk
  exact hnames.name_ne rfl

namespace Catalog

/-- An order of a client that may change the store. -/
inductive Order where
  | register (r : Registration) (force : Bool)
  | unregister (type : AppType) (name : String)
  | registerAll (request : PageRequest) (uri : Option String) (inline : Inline) (force : Bool)

/-- The catalog that an order leaves, whether or not it fails. -/
def Order.leaves : Order → Catalog → Catalog
  | register r force, c => ((Catalog.register r force).on c).2
  | unregister type name, c => ((Catalog.unregister type name).on c).2
  | registerAll request uri inline force, c =>
    ((Catalog.registerAll request uri inline force).on c).2

/-- The catalogs that a client can come to, each with the orders behind what is in the store, the last one
first. -/
inductive ReachedBy : List Order → Catalog → Prop
  | opened {loader : Loader} {folder : Path} {before w : World} {c : Catalog}
    (h : (Catalog.opened loader folder).on before = (.ok c, w))
    (hf : w.disk.isThere c.store.file = .ok false) : ReachedBy [] c
  /-- The world turns into another one, and other registrations wait to be fetched. -/
  | elsewhere {os : List Order} {c : Catalog} (h : ReachedBy os c) (w : World)
    (waiting : List Registration) : ReachedBy os { c with world := w, waiting }
  | ordered {os : List Order} {c : Catalog} (h : ReachedBy os c) (o : Order) :
    ReachedBy (o :: os) (o.leaves c)
  /-- The catalog is opened again where a file holds the index of some catalog: of this one, or of an
  earlier one if not everything could be written since. -/
  | reopened {os later : List Order} {c d d' : Catalog} {folder : Path} (hd : ReachedBy later d)
    (hc : ReachedBy os c) (ho : (reopen folder).on d = (.ok (), d'))
    (hr : d'.world.disk.read d'.store.file = .ok (Store.indexBytes c.store.index)) :
    ReachedBy os d'
  /-- The catalog is opened again and nothing was ever written. -/
  | emptied {later : List Order} {d d' : Catalog} {folder : Path} (hd : ReachedBy later d)
    (ho : (reopen folder).on d = (.ok (), d'))
    (hf : d'.world.disk.isThere d'.store.file = .ok false) : ReachedBy [] d'

/-- Orders, the last one first, that leave a registration of a type without a name: one of them gives
it, with URIs that are accepted, and none after it removes it. -/
def LeavesNameless (type : AppType) : List Order → Prop
  | [] => False
  | .register r _ :: os => r.key = namelessKey type ∧ r.Accepted ∨ LeavesNameless type os
  | .unregister t name :: os => (t, name) ≠ namelessKey type ∧ LeavesNameless type os
  | .registerAll _ _ _ _ :: os => LeavesNameless type os

end Catalog

theorem Entries.mem_keys_putAll_of_notMem {k : AppType × String} {rs : List Registration}
    (h : k ∉ rs.map key) {force : Bool} {es : Entries} :
    k ∈ Assoc.keys (putAll force rs es).2 ↔ k ∈ Assoc.keys es := by
  induction rs generalizing es with
  | nil => exact Iff.rfl
  | cons r rs ih =>
      rw [List.map_cons, List.mem_cons, not_or] at h
      rw [putAll, AppCatalog.putAll]
      split
      · exact ih h.2
      · exact (ih h.2).trans (Assoc.mem_keys_insert.trans (or_iff_left h.1))

/-- Entries of registrations whose URIs are accepted, which have no name only where orders leave one
without. -/
structure Entries.LeftBy (os : List Catalog.Order) (es : Entries) : Prop where
  nodup : (Assoc.keys es).Nodup
  accepted : es.Accepted
  nameless : ∀ type, namelessKey type ∈ Assoc.keys es ↔ Catalog.LeavesNameless type os

namespace Entries.LeftBy

variable {os : List Catalog.Order} {es : Entries}

theorem nil : LeftBy [] [] where
  nodup := List.nodup_nil
  accepted := nofun
  nameless _ := iff_of_false List.not_mem_nil id

/-- Of a registration whose URIs are accepted, whether it is put or its key is taken, the key is there
afterwards. -/
theorem registered (h : es.LeftBy os) {r : Registration} (hr : r.Accepted) {force : Bool}
    {es' : Entries} (hn : (Assoc.keys es').Nodup) (ha : es'.Accepted)
    (hk : ∀ k, k ∈ Assoc.keys es' ↔ k ∈ Assoc.keys es ∨ k = r.key) :
    es'.LeftBy (.register r force :: os) where
  nodup := hn
  accepted := ha
  nameless type := by
    rw [hk, h.nameless, Catalog.LeavesNameless, and_iff_left hr, or_comm, eq_comm]

theorem refused (h : es.LeftBy os) {r : Registration} (hr : ¬ r.Accepted) (force : Bool) :
    es.LeftBy (.register r force :: os) where
  nodup := h.nodup
  accepted := h.accepted
  nameless type := by
    rw [h.nameless, Catalog.LeavesNameless, or_iff_right fun hnew => hr hnew.2]

theorem save (h : es.LeftBy os) {r : Registration} (hr : r.Accepted) (force : Bool) (file : Path)
    (w : World) : ∃ es', ((Store.save r force).on (Store.ofEntries file es, w)).2.1 =
      Store.ofEntries file es' ∧ es'.LeftBy (.register r force :: os) := by
  refine ⟨_, Store.save_on_store file es w r force, ?_⟩
  split
  · next htaken =>
      refine h.registered hr h.nodup h.accepted fun k => (or_iff_left_of_imp ?_).symm
      rintro rfl
      exact Assoc.contains_eq_true_iff.1 (Bool.and_eq_true_iff.1 htaken).2
  · exact h.registered hr (Assoc.nodup_keys_insert h.nodup) (h.accepted.put hr) fun k =>
      Assoc.mem_keys_insert

theorem delete (h : es.LeftBy os) (type : AppType) (name : String) (file : Path) (w : World) :
    ∃ es', ((Store.delete type name).on (Store.ofEntries file es, w)).2.1 =
      Store.ofEntries file es' ∧ es'.LeftBy (.unregister type name :: os) := by
  refine ⟨_, Store.delete_on_store file es w type name, Assoc.nodup_keys_erase h.nodup,
    h.accepted.erase (type, name), ?_⟩
  intro t
  rw [Assoc.mem_keys_erase h.nodup, h.nameless, Catalog.LeavesNameless, ne_comm]

theorem imported (h : es.LeftBy os) {l : Listing} {rs : List Registration}
    (hl : ImportPlan.ofListing l = .ok rs) (request : PageRequest) (uri : Option String)
    (inline : Inline) (force : Bool) :
    (es.putAll force rs).2.LeftBy (.registerAll request uri inline force :: os) where
  nodup := Entries.nodup_keys_putAll h.nodup force rs
  accepted := h.accepted.putAll force (ImportPlan.accepted_of_ofListing hl)
  nameless type := by
    rw [Entries.mem_keys_putAll_of_notMem (ImportPlan.named_of_ofListing hl type), h.nameless,
      Catalog.LeavesNameless]

end Entries.LeftBy

namespace Catalog.ReachedBy

variable {os : List Order} {c : Catalog}

theorem exists_leftBy (h : ReachedBy os c) :
    ∃ es : Entries, es.LeftBy os ∧ c.store = Store.ofEntries c.store.file es := by
  induction h with
  | @opened loader folder before w c ho hf =>
      obtain ⟨v, hs⟩ := of_opened_on ho
      have hempty : Store.OpenedEmpty folder v (c.store, w) := ⟨hs, hf⟩
      exact ⟨[], .nil, congrArg Prod.fst hempty.eq_ofEntries⟩
  | elsewhere _ _ _ ih => exact ih
  | @ordered os c _ o ih =>
      obtain ⟨es, hl, hs⟩ := ih
      cases o with
      | register r force =>
          rw [Order.leaves]
          rcases register_store r force c with ⟨hr, he⟩ | ⟨hr, he⟩
          · rw [he]
            exact ⟨es, hl.refused hr force, hs⟩
          · obtain ⟨es', hs', hl'⟩ := hl.save hr force c.store.file c.world
            rw [he, hs, hs']
            exact ⟨es', hl', rfl⟩
      | unregister type name =>
          obtain ⟨es', hs', hl'⟩ := hl.delete type name c.store.file c.world
          rw [Order.leaves, unregister_store, hs, hs']
          exact ⟨es', hl', rfl⟩
      | registerAll request uri inline force =>
          rw [Order.leaves]
          rcases registerAll_store request uri inline force c with he | ⟨l, rs, w, hrs, he⟩
          · rw [he]
            exact ⟨es, ⟨hl.nodup, hl.accepted, hl.nameless⟩, hs⟩
          · rw [he, hs, Store.importRegistrations_on_store]
            exact ⟨_, hl.imported hrs request uri inline force, rfl⟩
  | @reopened os later c d d' folder _ _ ho hr _ ih =>
      obtain ⟨es, hl, hs⟩ := ih
      obtain ⟨v, hopen⟩ := of_reopen_on ho
      rw [hs] at hr
      exact ⟨es, hl, Store.eq_ofEntries_of_opened hopen hl.nodup hr⟩
  | @emptied later d d' folder _ ho hf _ =>
      obtain ⟨v, hopen⟩ := of_reopen_on ho
      have hempty : Store.OpenedEmpty folder v (d'.store, d'.world) := ⟨hopen, hf⟩
      exact ⟨[], .nil, congrArg Prod.fst hempty.eq_ofEntries⟩

/-- Everything in a catalog has URIs that are accepted. There is a registration of a type without a
name exactly if the orders leave one behind, and so everything is well formed exactly if they leave
none. -/
theorem wellFormed_iff (h : ReachedBy os c) :
    ∃ rs, c.store.all = .ok rs ∧ (∀ r ∈ rs, r.Accepted) ∧
      (∀ type, (∃ r ∈ rs, r.type = type ∧ r.name = "") ↔ LeavesNameless type os) ∧
      ((∀ r ∈ rs, r.WellFormed) ↔ ∀ type, ¬ LeavesNameless type os) := by
  obtain ⟨es, hl, hs⟩ := h.exists_leftBy
  have hmem : ∀ r, r ∈ Registration.sort es.registrations ↔ Assoc.get? r.key es = some r.place := by
    intro r
    rw [(perm_sort _).mem_iff, Entries.mem_registrations hl.nodup]
  have haccepted : ∀ r ∈ Registration.sort es.registrations, r.Accepted := by
    intro r hr
    exact hl.accepted (r.key, r.place) ((Assoc.mem_iff_get? hl.nodup _ _).2 ((hmem r).1 hr))
  have hnameless : ∀ type, (∃ r ∈ Registration.sort es.registrations, r.type = type ∧ r.name = "") ↔
      LeavesNameless type os := by
    intro type
    rw [← hl.nameless, ← Entries.map_key_registrations, List.mem_map]
    refine exists_congr fun r => ?_
    rw [(perm_sort _).mem_iff, key_eq_namelessKey_iff]
  refine ⟨_, by rw [hs]; exact Index.all_ofEntries es, haccepted, hnameless, ?_⟩
  constructor
  · intro hall type hn
    obtain ⟨r, hr, -, hname⟩ := (hnameless type).2 hn
    exact (hall r hr).name hname
  · intro hnone r hr
    refine ⟨fun hname => ?_, haccepted r hr⟩
    exact hnone r.type ((hnameless r.type).1 ⟨r, hr, rfl, hname⟩)

/-- A registration without a name is taken like any other. -/
theorem wellFormed_iff_nameless :
    let r : Registration := ⟨.source, "", "http://h/x", none⟩
    let fresh : Catalog := ⟨Store.freshStart.1, ⟨.standard, none⟩, Store.freshStart.2, []⟩
    let c := ((register r false).on fresh).2
    ReachedBy [.register r false] c ∧ ((register r false).on fresh).1 = .ok r ∧
      ∃ rs, c.store.all = .ok rs ∧ ∃ r' ∈ rs, r'.name = "" ∧ ¬ r'.WellFormed := by
  intro r fresh
  dsimp only
  have hfresh : ReachedBy [] fresh := by
    have ho : (Catalog.opened ⟨.standard, none⟩ ⟨.relative, ["registry".toList]⟩).on World.empty =
        (.ok fresh, Store.freshStart.2) := rfl
    exact .opened ho rfl
  have hc := hfresh.ordered (.register r false)
  have hr : r.Accepted := ⟨by decide +kernel, nofun⟩
  obtain ⟨rs, hall, -, hnameless, -⟩ := wellFormed_iff hc
  obtain ⟨r', hr', -, hname⟩ := (hnameless .source).2 (Or.inl ⟨rfl, hr⟩)
  exact ⟨hc, by decide +kernel, rs, hall, r', hr', hname, fun h => h.name hname⟩

end Catalog.ReachedBy

end AppCatalog
