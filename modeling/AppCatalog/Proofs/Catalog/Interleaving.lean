import AppCatalog.Proofs.Catalog.Reached
import AppCatalog.Proofs.Store.OneByOne

/-!
# Imports of clients that share a catalog

What a client does to the store of a shared catalog is done at once, but an import has three parts:
its listing is read, what it asks for is put into the store, and the store is asked how many
registrations there are (`registerAll_eq_parts`). Other clients have their turns in between. So the
total of the page that answers an import is not how many there were right after it: what others have
put since then is counted too, and what they have removed is not (`importTotal_eq`).
-/

namespace AppCatalog

open AppCatalog.Registration

theorem ImportPlan.nodup_map_key_of_ofListing_parse {text : List Char} {rs : List Registration}
    (h : ofListing (.parse text) = .ok rs) : (rs.map key).Nodup := by
  obtain ⟨-, rfl⟩ := ofListing_eq_ok_iff.1 h
  exact nodup_map_key_stated (Listing.nodup_keys_parse text)

theorem Entries.toFinset_keys_put (r : Registration) (es : Entries) :
    (Assoc.keys (es.put r)).toFinset = insert r.key (Assoc.keys es).toFinset := by
  ext k
  rw [List.mem_toFinset, put, Assoc.mem_keys_insert, Finset.mem_insert, List.mem_toFinset, or_comm]

theorem Entries.toFinset_keys_putAll (force : Bool) (rs : List Registration) (es : Entries) :
    (Assoc.keys (putAll force rs es).2).toFinset =
      (Assoc.keys es).toFinset ∪ (rs.map key).toFinset := by
  induction rs generalizing es with
  | nil => rw [List.map_nil, List.toFinset_nil, Finset.union_empty]; rfl
  | cons r rs ih =>
      rw [putAll_cons, List.map_cons, List.toFinset_cons, Finset.union_insert]
      split
      · next ht =>
          rw [Bool.and_eq_true, Assoc.contains_eq_true_iff, ← List.mem_toFinset] at ht
          rw [ih, Finset.insert_eq_of_mem (Finset.mem_union_left _ ht.2)]
      · rw [ih, toFinset_keys_put, Finset.insert_union]

namespace Store

/-- The keys of what a store lists. -/
def keys (s : Store) : Finset (AppType × String) :=
  match s.all with
  | .ok rs => (rs.map key).toFinset
  | .error _ => ∅

theorem keys_of_all {s : Store} {rs : List Registration} (h : s.all = .ok rs) :
    s.keys = (rs.map key).toFinset := by
  rw [keys, h]

theorem keys_ofEntries (file : Path) (es : Entries) :
    (ofEntries file es).keys = (Assoc.keys es).toFinset := by
  have hall : (ofEntries file es).all = .ok (sort es.registrations) := Index.all_ofEntries es
  rw [keys_of_all hall, ← Entries.map_key_registrations]
  exact List.toFinset_eq_of_perm _ _ ((perm_sort _).map key)

namespace HoldsAccepted

variable {s : Store}

/-- Such a store lists and counts the same registrations, which have distinct keys. -/
theorem exists_all (h : s.HoldsAccepted) :
    ∃ rs, s.all = .ok rs ∧ rs.length = s.keys.card ∧ s.count = .ok s.keys.card := by
  obtain ⟨es, hn, -, hs⟩ := h
  have hcard : (ofEntries s.file es).keys.card = es.length := by
    rw [keys_ofEntries, List.toFinset_card_of_nodup hn, Assoc.keys, List.length_map]
  rw [hs, hcard]
  refine ⟨_, Index.all_ofEntries es, ?_, Index.count_ofEntries es⟩
  rw [(perm_sort _).length_eq, Entries.registrations, List.length_map]

theorem keys_save (h : s.HoldsAccepted) (r : Registration) (force : Bool) (w : World) :
    ((Store.save r force).on (s, w)).2.1.keys = insert r.key s.keys := by
  obtain ⟨es, -, -, hs⟩ := h
  rw [hs, save_on_store, keys_ofEntries, keys_ofEntries]
  split
  · next htaken =>
      have hk := Assoc.contains_eq_true_iff.1 (Bool.and_eq_true_iff.1 htaken).2
      rw [Finset.insert_eq_of_mem (List.mem_toFinset.2 hk)]
  · rw [Entries.toFinset_keys_put]

theorem keys_delete (h : s.HoldsAccepted) (type : AppType) (name : String) (w : World) :
    ((Store.delete type name).on (s, w)).2.1.keys = s.keys.erase (type, name) := by
  obtain ⟨es, hn, -, hs⟩ := h
  rw [hs, delete_on_store, keys_ofEntries, keys_ofEntries]
  ext k
  rw [List.mem_toFinset, Assoc.mem_keys_erase hn, Finset.mem_erase, List.mem_toFinset, and_comm]

theorem keys_importRegistrations (h : s.HoldsAccepted) (force : Bool) (rs : List Registration)
    (w : World) :
    ((Store.importRegistrations force rs).on (s, w)).2.1.keys = s.keys ∪ (rs.map key).toFinset := by
  obtain ⟨es, -, -, hs⟩ := h
  rw [hs, importRegistrations_on_store, keys_ofEntries, keys_ofEntries,
    Entries.toFinset_keys_putAll]

/-- What an import has saved is listed right after it. -/
theorem subperm_importRegistrations (h : s.HoldsAccepted) {force : Bool}
    {rs put : List Registration} (hn : (rs.map key).Nodup) {w : World} {p : Store × World}
    (hi : (Store.importRegistrations force rs).on (s, w) = (.ok put, p)) :
    ∃ listed, p.1.all = .ok listed ∧ put.Subperm listed := by
  obtain ⟨es, hnodup, -, hs⟩ := h
  rw [hs] at hi
  rcases importRegistrations_cases s.file es w force rs with ⟨v, ho, -⟩ | ⟨f, q, -, ho⟩
  · cases ho.symm.trans hi
    refine ⟨_, Index.all_ofEntries _, ?_⟩
    have hput : (es.putAll force rs).1.Nodup := by
      rw [Entries.putAll_fst hn]
      exact (hn.of_map key).filter _
    refine hput.subperm fun r hr => ?_
    rw [(perm_sort _).mem_iff,
      Entries.mem_registrations (Entries.nodup_keys_putAll hnodup force rs)]
    exact Entries.get?_putAll hn hr
  · cases ho.symm.trans hi

end HoldsAccepted

end Store

namespace Catalog

/-! ## The parts of an import -/

/-- The first part of an import: how its source is described, and the registrations that it asks
for. -/
def reading (uri : Option String) (inline : Inline) : Action (String × List Registration) := do
  let resource ← importSource uri inline
  let rs ← inWorld (Store.asked resource)
  pure (resource.description, rs)

/-- The second part: what is asked for is put into the store and waits to be fetched. It gives what
was saved. -/
def saving (force : Bool) (description : String) (rs : List Registration) :
    Action (List Registration) := do
  let saved ← inStore (Store.importRegistrations force rs)
  note ("Imported " ++ toString saved.length ++ " registrations from " ++ description)
  prefetch (sort saved)
  pure (sort saved)

theorem saving_on (force : Bool) (description : String) (rs : List Registration) (c : Catalog) :
    (saving force description rs).on c =
      match (Store.importRegistrations force rs).on (c.store, c.world) with
      | (.error f, (s, w)) => (.error f, { c with store := s, world := w })
      | (.ok saved, (s, w)) => (.ok (sort saved),
          { c with
            store := s
            world := { w with log := w.log ++ [⟨.info, "Imported " ++ toString saved.length ++
              " registrations from " ++ description⟩] }
            waiting := c.waiting ++ Prefetch.wanted (sort saved) }) := by
  rw [saving, Run.on_bind, inStore_on]
  rcases (Store.importRegistrations force rs).on (c.store, c.world) with ⟨f | saved, s, w⟩ <;> rfl

/-- The third part is `importPage`. An import is its parts, one right after the other. -/
theorem registerAll_eq_parts (request : PageRequest) (uri : Option String) (inline : Inline)
    (force : Bool) (c : Catalog) :
    (registerAll request uri inline force).on c = (do
      let (description, rs) ← reading uri inline
      let saved ← saving force description rs
      importPage request saved : Action Page).on c := by
  rcases hs : (importSource uri inline).on c with ⟨f | resource, c'⟩
  · rw [registerAll, importFrom, Run.on_bind_error (Run.on_bind_error hs), reading,
      Run.on_bind_error (Run.on_bind_error hs)]
  · rcases ha : (Store.asked resource).on c'.world with ⟨asked, w⟩
    have hin : (inWorld (Store.asked resource)).on c' = (asked, { c' with world := w }) := by
      rw [inWorld, Run.on_within, ha]
    rw [registerAll_on request force hs ha]
    rcases asked with f | rs
    · have hr : (reading uri inline).on c = (.error f, { c' with world := w }) := by
        rw [reading, Run.on_bind_ok hs, Run.on_bind_error hin]
      rw [Run.on_bind_error hr]
      rfl
    · have hr : (reading uri inline).on c =
          (.ok (resource.description, rs), { c' with world := w }) := by
        rw [reading, Run.on_bind_ok hs, Run.on_bind_ok hin]
        rfl
      rw [Run.on_bind_ok hr, imported, Run.on_bind, saving_on]
      rcases (Store.importRegistrations force rs).on (c'.store, w) with ⟨f | saved, s, v⟩
      · rfl
      · simp only
        rw [importPage_on]

/-- Reading touches nothing but the world, and it gives registrations that a listing asks for. -/
theorem reading_keeps (uri : Option String) (inline : Inline) (c : Catalog) :
    ((reading uri inline).on c).2.store = c.store ∧
      ∀ p, ((reading uri inline).on c).1 = .ok p →
        ∃ text, ImportPlan.ofListing (.parse text) = .ok p.2 := by
  obtain ⟨w, hw⟩ := importSource_keeps uri inline c
  have hstore : ((importSource uri inline).on c).2.store = c.store := by rw [hw]
  rcases hs : (importSource uri inline).on c with ⟨f | resource, c'⟩
  · rw [hs] at hstore
    rw [reading, Run.on_bind_error hs]
    exact ⟨hstore, fun p hp => by cases hp⟩
  · rw [hs] at hstore
    have hasked := Store.asked_on c'.world resource
    rw [reading, Run.on_bind_ok hs, Run.on_bind, inWorld, Run.on_within]
    rcases ha : (Store.asked resource).on c'.world with ⟨f | rs, v⟩
    · exact ⟨hstore, fun p hp => by cases hp⟩
    · refine ⟨hstore, ?_⟩
      rintro p ⟨⟩
      rw [ha] at hasked
      rcases hr : resource.read.on c'.world with ⟨g | data, v'⟩
      · rw [hr] at hasked
        cases hasked
      · rw [hr] at hasked
        exact ⟨_, (congrArg Prod.fst hasked).symm⟩

theorem saving_store (force : Bool) (description : String) (rs : List Registration) (c : Catalog) :
    ((saving force description rs).on c).2.store =
      ((Store.importRegistrations force rs).on (c.store, c.world)).2.1 := by
  rw [saving_on]
  rcases (Store.importRegistrations force rs).on (c.store, c.world) with ⟨f | saved, s, w⟩ <;> rfl

/-- What an import has saved is listed right after it was put into the store. -/
theorem subperm_saving {c : Catalog} (h : c.store.HoldsAccepted) {force : Bool}
    {description : String} {rs saved : List Registration} (hn : (rs.map key).Nodup)
    (hs : ((saving force description rs).on c).1 = .ok saved) :
    ∃ listed, ((saving force description rs).on c).2.store.all = .ok listed ∧
      saved.Subperm listed := by
  rw [saving_on] at hs ⊢
  rcases hi : (Store.importRegistrations force rs).on (c.store, c.world) with ⟨f | put, p⟩
  · rw [hi] at hs
    cases hs
  · rw [hi] at hs
    cases hs
    obtain ⟨listed, hall, hsub⟩ := h.subperm_importRegistrations hn hi
    exact ⟨listed, hall, (perm_sort put).subperm.trans hsub⟩

/-! ## How many there are -/

section Number

variable {c : Catalog}

/-- Registering changes the store by one registration at most, whether or not it can be written. -/
theorem register_number (h : c.store.HoldsAccepted) (r : Registration) (force : Bool) :
    let store := ((register r force).on c).2.store
    store.HoldsAccepted ∧ (store.keys.card : ℤ) =
      c.store.keys.card + if r.Accepted ∧ r.key ∉ c.store.keys then 1 else 0 := by
  intro store
  rcases register_store r force c with ⟨hr, hs⟩ | ⟨hr, hs⟩
  · rw [show store = c.store from hs, if_neg fun hnew => hr hnew.1, add_zero]
    exact ⟨h, rfl⟩
  · rw [show store = _ from hs, h.keys_save]
    refine ⟨h.save hr c.world force, ?_⟩
    by_cases hk : r.key ∈ c.store.keys
    · rw [Finset.insert_eq_of_mem hk, if_neg fun hnew => hnew.2 hk, add_zero]
    · rw [Finset.card_insert_of_notMem hk, if_pos ⟨hr, hk⟩, Int.natCast_succ]

theorem unregister_number (h : c.store.HoldsAccepted) (type : AppType) (name : String) :
    let store := ((unregister type name).on c).2.store
    store.HoldsAccepted ∧ (store.keys.card : ℤ) =
      c.store.keys.card + if (type, name) ∈ c.store.keys then -1 else 0 := by
  intro store
  rw [show store = _ from unregister_store type name c, h.keys_delete]
  refine ⟨h.delete c.world type name, ?_⟩
  by_cases hk : (type, name) ∈ c.store.keys
  · rw [if_pos hk, ← Finset.card_erase_add_one hk, Int.natCast_succ, Int.add_neg_cancel_right]
  · rw [if_neg hk, Finset.erase_eq_of_notMem hk, add_zero]

theorem saving_number (h : c.store.HoldsAccepted) (force : Bool) (description : String)
    {rs : List Registration} (hrs : ∀ r ∈ rs, r.Accepted) :
    let store := ((saving force description rs).on c).2.store
    store.HoldsAccepted ∧ (store.keys.card : ℤ) =
      c.store.keys.card + ((rs.map key).toFinset \ c.store.keys).card := by
  intro store
  rw [show store = _ from saving_store force description rs c, h.keys_importRegistrations]
  refine ⟨h.importRegistrations c.world force hrs, ?_⟩
  rw [Finset.union_comm, ← Finset.card_sdiff_add_card, Int.natCast_add, add_comm]

end Number

end Catalog

/-! ## Turns of clients -/

/-- How far a client is with an import. -/
inductive Progress where
  | idle
  /-- The listing has been read. -/
  | read (request : PageRequest) (force : Bool) (description : String) (rs : List Registration)
  /-- What it asks for has been put into the store. -/
  | saved (request : PageRequest) (rs : List Registration)
  | ended (outcome : Except Failure Page)

namespace Progress

/-- Whether no import is under way. -/
def isFree : Progress → Bool
  | idle | ended _ => true
  | _ => false

/-- If a listing has been read, it is one that asks for the registrations at hand. -/
def IsSound : Progress → Prop
  | read _ _ _ rs => ∃ text, ImportPlan.ofListing (.parse text) = .ok rs
  | _ => True

end Progress

/-- What a client of a shared catalog does at once: a registration or a removal, or a part of an
import. Meanwhile the world turns into another one, and other registrations wait to be fetched. -/
inductive Turn (ι : Type) where
  | register (i : ι) (r : Registration) (force : Bool)
  | unregister (i : ι) (type : AppType) (name : String)
  | read (i : ι) (request : PageRequest) (uri : Option String) (inline : Inline) (force : Bool)
  | save (i : ι)
  | answer (i : ι)
  | elsewhere (w : World) (waiting : List Registration)

/-- Whether a turn removes a registration. -/
def Turn.isRemoval {ι : Type} : Turn ι → Bool
  | unregister _ _ _ => true
  | _ => false

/-- A catalog, and how far the clients that share it are with their imports. -/
structure Shared (ι : Type) where
  catalog : Catalog
  progress : ι → Progress

namespace Shared

variable {ι : Type}

/-- A catalog before any client has begun an import. -/
def begun (c : Catalog) : Shared ι := ⟨c, fun _ => .idle⟩

/-- The keys of what is registered. -/
def keys (s : Shared ι) : Finset (AppType × String) := s.catalog.store.keys

section Steps

variable [DecidableEq ι]

/-- A client does something that is done at once. -/
def whole {α : Type} (s : Shared ι) (i : ι) (m : Catalog.Action α) : Option (Shared ι) :=
  if (s.progress i).isFree then some { s with catalog := (m.on s.catalog).2 } else none

/-- A client does a part of an import, which goes on from there unless it fails. -/
def part {α : Type} (s : Shared ι) (i : ι) (next : α → Progress) (m : Catalog.Action α) :
    Shared ι :=
  ⟨(m.on s.catalog).2, Function.update s.progress i <|
    match (m.on s.catalog).1 with
    | .ok a => next a
    | .error f => .ended (.error f)⟩

/-- The state after a turn, if the client can take it. -/
def step (s : Shared ι) : Turn ι → Option (Shared ι)
  | .register i r force => s.whole i (Catalog.register r force)
  | .unregister i type name => s.whole i (Catalog.unregister type name)
  | .read i request uri inline force =>
    if (s.progress i).isFree then
      some (s.part i (fun p => .read request force p.1 p.2) (Catalog.reading uri inline))
    else none
  | .save i =>
    match s.progress i with
    | .read request force description rs =>
      some (s.part i (.saved request) (Catalog.saving force description rs))
    | _ => none
  | .answer i =>
    match s.progress i with
    | .saved request rs =>
      some (s.part i (fun page => .ended (.ok page)) (Catalog.importPage request rs))
    | _ => none
  | .elsewhere w waiting => some { s with catalog := { s.catalog with world := w, waiting } }

/-- The state after one turn after another. -/
def run : List (Turn ι) → Shared ι → Option (Shared ι)
  | [], s => some s
  | t :: ts, s => (s.step t).bind (run ts)

/-- By how many a turn changes the number of registrations: one more if it registers what is not
there and has URIs that are accepted, one less if it removes what is there. An import adds what
it asks for that is not there. -/
def gain (s : Shared ι) : Turn ι → ℤ
  | .register _ r _ => if r.Accepted ∧ r.key ∉ s.keys then 1 else 0
  | .unregister _ type name => if (type, name) ∈ s.keys then -1 else 0
  | .save i =>
    match s.progress i with
    | .read _ _ _ rs => ((rs.map key).toFinset \ s.keys).card
    | _ => 0
  | .read _ _ _ _ _ | .answer _ | .elsewhere _ _ => 0

/-- By how many turns change the number of registrations. -/
def gains : List (Turn ι) → Shared ι → ℤ
  | [], _ => 0
  | t :: ts, s => s.gain t + ((s.step t).map (gains ts)).getD 0

end Steps

/-- What holds of a shared catalog whatever turns its clients take. -/
structure Sound (s : Shared ι) : Prop where
  store : s.catalog.store.HoldsAccepted
  progress : ∀ i, (s.progress i).IsSound

theorem sound_begun {c : Catalog} (h : c.Reached) : (begun c : Shared ι).Sound :=
  ⟨h.holdsAccepted, fun _ => trivial⟩

section Run

variable {s s' : Shared ι} {t : Turn ι} {ts : List (Turn ι)} {i : ι}

theorem of_whole_eq_some {α : Type} {m : Catalog.Action α} (h : s.whole i m = some s') :
    (s.progress i).isFree = true ∧ s' = { s with catalog := (m.on s.catalog).2 } := by
  rw [whole, Option.ite_none_right_eq_some, Option.some_inj] at h
  exact ⟨h.1, h.2.symm⟩

theorem gain_nonneg (s : Shared ι) (ht : t.isRemoval = false) : 0 ≤ s.gain t := by
  cases t with
  | register i r force =>
      rw [gain]
      split <;> decide
  | unregister i type name => cases ht
  | save i =>
      rw [gain]
      split
      · exact Int.natCast_nonneg _
      · exact le_refl 0
  | _ => exact le_refl 0

theorem neg_one_le_gain (s : Shared ι) (t : Turn ι) : -1 ≤ s.gain t := by
  cases t with
  | unregister i type name =>
      rw [gain]
      split <;> decide
  | _ => exact le_trans (by decide) (gain_nonneg s rfl)

variable [DecidableEq ι]

theorem part_progress_of_ne {α : Type} {next : α → Progress} {m : Catalog.Action α} {j : ι}
    (h : j ≠ i) : (s.part i next m).progress j = s.progress j :=
  Function.update_of_ne h _ _

theorem part_progress_self {α : Type} {next : α → Progress} {m : Catalog.Action α} :
    (s.part i next m).progress i = match (m.on s.catalog).1 with
      | .ok a => next a
      | .error f => .ended (.error f) :=
  Function.update_self _ _ _

theorem Sound.part (h : s.Sound) {α : Type} {next : α → Progress} {m : Catalog.Action α}
    (hstore : (m.on s.catalog).2.store.HoldsAccepted)
    (hnext : ∀ a, (m.on s.catalog).1 = .ok a → (next a).IsSound) : (s.part i next m).Sound where
  store := hstore
  progress j := by
    by_cases hj : j = i
    · rw [hj, part_progress_self]
      rcases hm : (m.on s.catalog).1 with f | a
      · trivial
      · exact hnext a hm
    · rw [part_progress_of_ne hj]
      exact h.progress j

/-- A turn keeps a shared catalog sound and changes the number of registrations by its gain. -/
theorem Sound.step (h : s.Sound) (hs : s.step t = some s') :
    s'.Sound ∧ (s'.keys.card : ℤ) = s.keys.card + s.gain t := by
  cases t with
  | register i r force =>
      obtain ⟨-, rfl⟩ := of_whole_eq_some hs
      obtain ⟨hstore, hcard⟩ := Catalog.register_number h.store r force
      exact ⟨⟨hstore, h.progress⟩, hcard⟩
  | unregister i type name =>
      obtain ⟨-, rfl⟩ := of_whole_eq_some hs
      obtain ⟨hstore, hcard⟩ := Catalog.unregister_number h.store type name
      exact ⟨⟨hstore, h.progress⟩, hcard⟩
  | read i request uri inline force =>
      rw [Shared.step, Option.ite_none_right_eq_some, Option.some_inj] at hs
      obtain ⟨-, rfl⟩ := hs
      obtain ⟨hstore, hasks⟩ := Catalog.reading_keeps uri inline s.catalog
      refine ⟨h.part (hstore ▸ h.store) hasks, ?_⟩
      rw [gain, add_zero, keys, Shared.part, hstore, keys]
  | save i =>
      rw [Shared.step] at hs
      rw [gain]
      have hsound := h.progress i
      rcases hp : s.progress i with _ | ⟨request, force, description, rs⟩ | _ | _ <;>
        rw [hp] at hs hsound
      case read =>
        cases hs
        obtain ⟨text, hrs⟩ := hsound
        obtain ⟨hstore, hcard⟩ := Catalog.saving_number h.store force description
          (ImportPlan.accepted_of_ofListing hrs)
        exact ⟨h.part hstore fun _ _ => trivial, hcard⟩
      all_goals cases hs
  | answer i =>
      rw [Shared.step] at hs
      rcases hp : s.progress i with _ | _ | ⟨request, rs⟩ | _ <;> rw [hp] at hs
      case saved =>
        cases hs
        have hkeep := congrArg Prod.snd (Catalog.importPage_on request rs s.catalog)
        refine ⟨h.part (hkeep ▸ h.store) fun _ _ => trivial, ?_⟩
        rw [gain, add_zero, keys, Shared.part, hkeep, keys]
      all_goals cases hs
  | elsewhere w waiting =>
      cases hs
      exact ⟨⟨h.store, h.progress⟩, (add_zero _).symm⟩

/-- An import that has been put into the store stays there until the client answers. -/
theorem progress_step_of_saved {request : PageRequest} {rs : List Registration}
    (h : s.progress i = .saved request rs) (ht : t ≠ .answer i) (hs : s.step t = some s') :
    s'.progress i = .saved request rs := by
  have hpart : ∀ {α : Type} (next : α → Progress) (m : Catalog.Action α) {j : ι}, j ≠ i →
      (s.part j next m).progress i = .saved request rs := by
    intro α next m j hj
    rw [part_progress_of_ne hj.symm, h]
  cases t with
  | register j r force =>
      obtain ⟨-, rfl⟩ := of_whole_eq_some hs
      exact h
  | unregister j type name =>
      obtain ⟨-, rfl⟩ := of_whole_eq_some hs
      exact h
  | read j request' uri inline force =>
      rw [Shared.step, Option.ite_none_right_eq_some, Option.some_inj] at hs
      obtain ⟨hfree, rfl⟩ := hs
      refine hpart _ _ ?_
      rintro rfl
      rw [h] at hfree
      cases hfree
  | save j =>
      rw [Shared.step] at hs
      rcases hp : s.progress j with _ | _ | _ | _ <;> rw [hp] at hs
      case read =>
        cases hs
        refine hpart _ _ ?_
        rintro rfl
        cases h.symm.trans hp
      all_goals cases hs
  | answer j =>
      rw [Shared.step] at hs
      have hj : j ≠ i := fun hji => ht (hji ▸ rfl)
      rcases hp : s.progress j with _ | _ | _ | _ <;> rw [hp] at hs
      case saved =>
        cases hs
        exact hpart _ _ hj
      all_goals cases hs
  | elsewhere w waiting =>
      cases hs
      exact h

theorem Sound.run (h : s.Sound) (hs : run ts s = some s') :
    s'.Sound ∧ (s'.keys.card : ℤ) = s.keys.card + gains ts s := by
  induction ts generalizing s with
  | nil =>
      cases hs
      exact ⟨h, (add_zero _).symm⟩
  | cons t ts ih =>
      obtain ⟨s₁, hstep, hrest⟩ := Option.bind_eq_some_iff.1 hs
      obtain ⟨hsound, hcard⟩ := h.step hstep
      obtain ⟨hsound', hcard'⟩ := ih hsound hrest
      refine ⟨hsound', ?_⟩
      rw [hcard', hcard, gains, hstep, Option.map_some, Option.getD_some, add_assoc]

theorem progress_run_of_saved {request : PageRequest} {rs : List Registration}
    (h : s.progress i = .saved request rs) (ht : .answer i ∉ ts) (hs : run ts s = some s') :
    s'.progress i = .saved request rs := by
  induction ts generalizing s with
  | nil =>
      cases hs
      exact h
  | cons t ts ih =>
      obtain ⟨s₁, hstep, hrest⟩ := Option.bind_eq_some_iff.1 hs
      rw [List.mem_cons, not_or] at ht
      exact ih (progress_step_of_saved h (Ne.symm ht.1) hstep) ht.2 hrest

/-- What an import has put into the store is listed when it has done so. -/
theorem Sound.subperm_of_saved (h : s.Sound) {request : PageRequest} {saved : List Registration}
    (hs : s.step (.save i) = some s') (hp : s'.progress i = .saved request saved) :
    ∃ listed, s'.catalog.store.all = .ok listed ∧ saved.Subperm listed := by
  rw [Shared.step] at hs
  have hsound := h.progress i
  rcases hr : s.progress i with _ | ⟨request', force, description, rs⟩ | _ | _ <;>
    rw [hr] at hs hsound
  case read =>
    cases hs
    obtain ⟨text, hrs⟩ := hsound
    have hn := ImportPlan.nodup_map_key_of_ofListing_parse hrs
    rw [part_progress_self] at hp
    rcases hm : ((Catalog.saving force description rs).on s.catalog).1 with f | saved'
    · rw [hm] at hp
      cases hp
    · rw [hm] at hp
      cases hp
      exact Catalog.subperm_saving h.store hn hm
  all_goals cases hs

/-- Turns make the number of registrations smaller only by removing registrations. -/
theorem neg_removals_le_gains (ts : List (Turn ι)) (s : Shared ι) :
    -(ts.countP Turn.isRemoval : ℤ) ≤ gains ts s := by
  induction ts generalizing s with
  | nil => exact le_refl 0
  | cons t ts ih =>
      have hrest : -(ts.countP Turn.isRemoval : ℤ) ≤ ((s.step t).map (gains ts)).getD 0 := by
        rcases s.step t with _ | s₁
        · exact Int.neg_nonpos_of_nonneg (Int.natCast_nonneg _)
        · exact ih s₁
      rw [gains]
      cases ht : t.isRemoval with
      | false =>
          rw [List.countP_cons_of_neg (by rw [ht]; exact Bool.false_ne_true)]
          have hfirst := gain_nonneg s ht
          omega
      | true =>
          rw [List.countP_cons_of_pos ht]
          have hfirst := neg_one_le_gain s t
          omega

/-- The total of the page that answers an import is the number of registrations at that moment: as
many as there were right after the import, and what the turns between have gained. So it is the
number right after the import exactly if these turns have gained nothing. It may be smaller than the
number of entries on the page, but only if registrations have been removed in between. -/
theorem importTotal_eq {c : Catalog} (hc : c.Reached) {before between : List (Turn ι)}
    {s s₁ s₂ : Shared ι} {request : PageRequest} {saved : List Registration}
    (hbefore : run before (begun c) = some s) (hsave : s.step (.save i) = some s₁)
    (hsaved : s₁.progress i = .saved request saved) (hbetween : run between s₁ = some s₂)
    (hi : .answer i ∉ between) :
    ∃ (listed listed' : List Registration) (s₃ : Shared ι) (total : ℤ),
      s₁.catalog.store.all = .ok listed ∧ saved.Subperm listed ∧
      s₂.catalog.store.all = .ok listed' ∧ s₂.step (.answer i) = some s₃ ∧
      s₃.progress i = .ended (.ok ⟨saved, request, total⟩) ∧
      total = listed'.length ∧ total = listed.length + gains between s₁ ∧
      (total = listed.length ↔ gains between s₁ = 0) ∧
      listed.length ≤ total + between.countP Turn.isRemoval := by
  have hsound := ((sound_begun hc).run hbefore).1
  have hsound₁ := (hsound.step hsave).1
  obtain ⟨hsound₂, hcard⟩ := hsound₁.run hbetween
  obtain ⟨listed, hall, hsub⟩ := hsound.subperm_of_saved hsave hsaved
  obtain ⟨rs, hrs, hlength, -⟩ := hsound₁.store.exists_all
  obtain ⟨listed', hall', hlength', hcount⟩ := hsound₂.store.exists_all
  cases hall.symm.trans hrs
  have hanswer : s₂.step (.answer i) = some (s₂.part i (fun page => .ended (.ok page))
      (Catalog.importPage request saved)) := by
    rw [Shared.step, progress_run_of_saved hsaved hi hbetween]
  have htotal : (listed'.length : ℤ) = listed.length + gains between s₁ := by
    rw [hlength', hlength]
    exact hcard
  have hremovals := neg_removals_le_gains between s₁
  refine ⟨listed, listed', _, listed'.length, hall, hsub, hall', hanswer, ?_, rfl, htotal, ?_, ?_⟩
  · rw [part_progress_self, Catalog.importPage_on, hcount, hlength']
    rfl
  · rw [htotal, add_eq_left]
  · omega

end Run

/-- A client imports one registration, and another one removes it before the first is answered: the
page has one entry, and its total is zero. -/
theorem importTotal_eq_removed :
    let a : Registration := ⟨.app, "a", "http://h/a", none⟩
    let fresh : Catalog := ⟨Store.freshStart.1, ⟨.standard, none⟩, Store.freshStart.2, []⟩
    ∃ s s₁ s₂ s₃ : Shared Bool, fresh.Reached ∧
      run [.read true .standard none (.text "app.a=http://h/a") false] (begun fresh) = some s ∧
      s.step (.save true) = some s₁ ∧ s₁.progress true = .saved .standard [a] ∧
      s₁.catalog.store.all = .ok [a] ∧ run [.unregister false .app "a"] s₁ = some s₂ ∧
      s₂.step (.answer true) = some s₃ ∧ s₃.progress true = .ended (.ok ⟨[a], .standard, 0⟩) := by
  intro a fresh
  have hfresh : fresh.Reached := by
    have ho : (Catalog.opened ⟨.standard, none⟩ ⟨.relative, ["registry".toList]⟩).on World.empty =
        (.ok fresh, Store.freshStart.2) := rfl
    exact .opened ho rfl
  obtain ⟨s, hread⟩ : ∃ s : Shared Bool, run [.read true .standard none
      (.text "app.a=http://h/a") false] (begun fresh) = some s := ⟨_, rfl⟩
  have hs : s.progress true = .read .standard false "Inline properties" [a] := by
    cases hread
    rfl
  have hc : s.catalog = fresh := by
    cases hread
    rfl
  obtain ⟨hsaved, hlisted⟩ : ((Catalog.saving false "Inline properties" [a]).on fresh).1 = .ok [a] ∧
      ((Catalog.saving false "Inline properties" [a]).on fresh).2.store.all = .ok [a] := by
    decide +kernel
  obtain ⟨s₁, hsave⟩ : ∃ s₁, s.step (.save true) = some s₁ := by
    rw [Shared.step, hs]
    exact ⟨_, rfl⟩
  have hs₁ : s₁ = s.part true (.saved .standard)
      (Catalog.saving false "Inline properties" [a]) := by
    rw [Shared.step, hs] at hsave
    exact (Option.some.inj hsave).symm
  have hprogress : s₁.progress true = .saved .standard [a] := by
    rw [hs₁, part_progress_self, hc, hsaved]
  have hall : s₁.catalog.store.all = .ok [a] := by
    rw [hs₁, Shared.part, hc]
    exact hlisted
  have hfree : (s₁.progress false).isFree = true := by
    rw [hs₁, part_progress_of_ne (by decide)]
    cases hread
    rfl
  have hremove : run [.unregister false .app "a"] s₁ =
      some { s₁ with catalog := ((Catalog.unregister .app "a").on s₁.catalog).2 } := by
    rw [run, Shared.step, whole, if_pos hfree]
    rfl
  have hgains : gains [.unregister false .app "a"] s₁ = -1 := by
    rw [gains, gain, keys, Store.keys_of_all hall, if_pos (by decide), Shared.step, whole,
      if_pos hfree]
    rfl
  obtain ⟨listed, -, s₃, total, hall', -, -, hanswer, hended, -, htotal, -⟩ :=
    importTotal_eq hfresh hread hsave hprogress hremove (by rw [List.mem_singleton]; nofun)
  cases hall.symm.trans hall'
  rw [htotal, hgains] at hended
  exact ⟨s, s₁, _, s₃, hfresh, hread, hsave, hprogress, hall, hremove, hanswer, hended⟩

end Shared

end AppCatalog
