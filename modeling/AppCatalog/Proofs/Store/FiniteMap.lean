import AppCatalog.Proofs.Store.Call

/-!
# A store as a finite map

A store answers like a finite map from types and names to places. `RegistrationMap.answer` is what
such a map answers to a call, and `RegistrationMap.after` the map that the call leaves; neither knows
of identifying texts, of the order in which entries came, or of a file. Entries represent a map when
they say the same under every key, and what is done to both alike keeps it so.
-/

namespace AppCatalog

open AppCatalog.Registration

namespace RegistrationMap

open AppCatalog.Store (Call Asked Answer)

/-- The map with a registration under its key. -/
def put (r : Registration) (m : RegistrationMap) : RegistrationMap := m.insert r.key r.place

/-- Puts registrations into a map, those that are taken only if that is forced, and gives those that
were put. -/
def putAll (force : Bool) (rs : List Registration) (m : RegistrationMap) :
    List Registration × RegistrationMap :=
  AppCatalog.putAll (fun k m => (m.lookup k).isSome) put force rs m

/-- What a map answers to a call. -/
def answer : Call Asked → RegistrationMap → Except Failure Answer
  | .save r overwrite, m =>
    match m.registration? r.key with
    | some previous =>
      if overwrite then .ok (.registration (some previous))
      else .error (.alreadyRegistered previous)
    | none => .ok (.registration none)
  | .delete type name, m => .ok (.flag (m.lookup (type, name)).isSome)
  | .importAll force asked, m => asked.map fun rs => .registrations (m.putAll force rs).1
  | .find type name, m => .ok (.registration (m.registration? (type, name)))
  | .all, m => .ok (.registrations m.listing)
  | .page request, m =>
    .ok (.page ⟨(m.listing.drop request.offset).take request.size, request, m.keys.card⟩)
  | .count, m => .ok (.number m.keys.card)

/-- The map that a call leaves. -/
def after : Call Asked → RegistrationMap → RegistrationMap
  | .save r overwrite, m => if overwrite || (m.lookup r.key).isNone then m.put r else m
  | .delete type name, m => m.erase (type, name)
  | .importAll force (.ok rs), m => (m.putAll force rs).2
  | _, m => m

/-- A call that is not about a key leaves what is under it. -/
theorem lookup_after_of_not_touches {c : Call Asked} {k : AppType × String}
    (h : c.touches k = false) (m : RegistrationMap) : (m.after c).lookup k = m.lookup k := by
  cases c with
  | save r overwrite =>
      have hk : k ≠ r.key := Ne.symm (beq_eq_false_iff_ne.1 h)
      rw [after]
      split
      · exact Finmap.lookup_insert_of_ne m hk
      · rfl
  | delete type name =>
      have hk : k ≠ (type, name) := Ne.symm (beq_eq_false_iff_ne.1 h)
      exact Finmap.lookup_erase_ne hk
  | importAll force asked => cases h
  | _ => rfl

/-- The answers to calls made one after another, and the map that they leave. -/
def run : List (Call Asked) → RegistrationMap → List (Except Failure Answer) × RegistrationMap
  | [], m => ([], m)
  | c :: cs, m => (m.answer c :: (run cs (m.after c)).1, (run cs (m.after c)).2)

end RegistrationMap

namespace Entries

/-- Entries with distinct keys that say what a map says. -/
structure Represents (es : Entries) (m : RegistrationMap) : Prop where
  nodup : (Assoc.keys es).Nodup
  lookup : ∀ k, m.lookup k = Assoc.get? k es

namespace Represents

variable {es : Entries} {m : RegistrationMap}

theorem nil : Represents [] ∅ := ⟨List.nodup_nil, fun _ => Finmap.lookup_empty _⟩

theorem put (h : Represents es m) (r : Registration) : Represents (es.put r) (m.put r) := by
  refine ⟨Assoc.nodup_keys_insert h.nodup, ?_⟩
  intro k
  rw [RegistrationMap.put, Entries.put, Assoc.get?_insert, ← h.lookup]
  by_cases hk : r.key = k
  · subst hk
    rw [Finmap.lookup_insert, if_pos rfl]
  · rw [Finmap.lookup_insert_of_ne _ (Ne.symm hk), if_neg hk]

theorem erase (h : Represents es m) (k : AppType × String) :
    Represents (Assoc.erase k es) (m.erase k) := by
  refine ⟨Assoc.nodup_keys_erase h.nodup, ?_⟩
  intro j
  rw [Assoc.get?_erase h.nodup, ← h.lookup]
  by_cases hk : k = j
  · subst hk
    rw [Finmap.lookup_erase, if_pos rfl]
  · rw [Finmap.lookup_erase_ne (Ne.symm hk), if_neg hk]

theorem contains (h : Represents es m) (k : AppType × String) :
    Assoc.contains k es = (m.lookup k).isSome := by
  rw [Assoc.contains, h.lookup]

/-- Putting the same registrations into both puts the same ones and leaves the same. -/
theorem putAll (h : Represents es m) (force : Bool) (rs : List Registration) :
    (es.putAll force rs).1 = (m.putAll force rs).1 ∧
      Represents (es.putAll force rs).2 (m.putAll force rs).2 := by
  induction rs generalizing es m with
  | nil => exact ⟨rfl, h⟩
  | cons r rs ih =>
      rw [Entries.putAll, RegistrationMap.putAll, AppCatalog.putAll, AppCatalog.putAll,
        h.contains]
      by_cases ht : (!force && (m.lookup r.key).isSome) = true
      · rw [if_pos ht, if_pos ht]
        exact ih h
      · rw [if_neg ht, if_neg ht]
        obtain ⟨hsaved, hafter⟩ := ih (h.put r)
        exact ⟨congrArg (r :: ·) hsaved, hafter⟩

theorem registration? (h : Represents es m) (k : AppType × String) :
    m.registration? k = (Assoc.get? k es).map fun p => ofEntry (k, p) := by
  rw [RegistrationMap.registration?, h.lookup]

/-- Sorting the entries gives the listing of the map. -/
theorem sort_registrations (h : Represents es m) : sort es.registrations = m.listing := by
  apply RegistrationMap.sort_eq_listing
  · rw [map_key_registrations]
    exact h.nodup
  · intro r
    rw [mem_registrations h.nodup, h.lookup]

theorem length_eq_card (h : Represents es m) : es.length = m.keys.card := by
  have hk : m.keys = (Assoc.keys es).toFinset := by
    ext k
    rw [Finmap.mem_keys, List.mem_toFinset, ← Finmap.lookup_isSome, h.lookup,
      ← Assoc.contains_eq_true_iff, Assoc.contains]
  rw [hk, List.toFinset_card_of_nodup h.nodup, Assoc.keys, List.length_map]

end Represents

end Entries

end AppCatalog
