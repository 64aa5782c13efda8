import AppCatalog.Proofs.Assoc
import AppCatalog.Proofs.Registration
import AppCatalog.Store.Index

/-!
# Indexes that a store writes itself

A store that nobody else has written to holds an ordered map from types and names to places, each
entry in the form that `Index.encode` gives it. `Index.ofEntries` is that index, and the lemmas here
carry every operation on it over to the ordered map of entries: nothing fails, and the identifying
texts and the JSON objects are out of sight.
-/

namespace AppCatalog

open AppCatalog.Registration

/-- What a store holds: an ordered map from types and names to places. -/
abbrev Entries := Assoc (AppType × String) (String × Option String)

/-- The registrations of a map, in its order. -/
def Entries.registrations (es : Entries) : List Registration := es.map ofEntry

theorem Entries.map_key_registrations (es : Entries) : es.registrations.map key = Assoc.keys es := by
  rw [registrations, List.map_map]
  rfl

theorem Entries.mem_registrations {es : Entries} (h : (Assoc.keys es).Nodup) (r : Registration) :
    r ∈ es.registrations ↔ Assoc.get? r.key es = some r.place := by
  rw [← Assoc.mem_iff_get? h, registrations, List.mem_map]
  constructor
  · rintro ⟨e, he, rfl⟩
    exact he
  · intro he
    exact ⟨(r.key, r.place), he, rfl⟩

namespace Index

/-- The index of a map of entries. -/
def ofEntries (es : Entries) : Index :=
  entries (Assoc.mapEntries (fun k => idOf k.1 k.2) (fun k p => encode (ofEntry (k, p))) es)

theorem decode_encode (r : Registration) : decode (encode r) = .ok r := by
  obtain ⟨type, name, uri, metadataUri⟩ := r
  have hm : ∀ o : Option String, decodeOptional (some (Json.ofOption o)) = .ok o := by
    intro o
    cases o <;> rfl
  have ht : decodeType (.str type.word) = .ok type := by
    rw [decodeType, AppType.ofWord?_word]
  have hb : ∀ {α β : Type} (a : α) (k : α → Except Failure β), (Except.ok a >>= k) = k a :=
    fun _ _ => rfl
  simp only [encode, decode, required, Assoc.get?, String.reduceEq, if_true, if_false, hb, ht, hm,
    decodeText]

theorem decodeGiven_encode (o : Option Registration) : decodeGiven (o.map encode) = .ok o := by
  cases o with
  | none => rfl
  | some r =>
      have he : (encode r).isEmpty = false := rfl
      rw [Option.map_some, decodeGiven, he, decode_encode]
      rfl

section OfEntries

variable (es : Entries) (k : AppType × String)

theorem entry?_ofEntries : entry? (ofEntries es) (idOf k.1 k.2) =
    .ok ((Assoc.get? k es).map fun p => encode (ofEntry (k, p))) := by
  have h := Assoc.get?_mapEntries idOf_injective (fun k p => encode (ofEntry (k, p))) k es
  rw [ofEntries, entry?, h]
  cases Assoc.get? k es <;> rfl

theorem find_ofEntries : (ofEntries es).find k.1 k.2 =
    .ok ((Assoc.get? k es).map fun p => ofEntry (k, p)) := by
  have h := decodeGiven_encode ((Assoc.get? k es).map fun p => ofEntry (k, p))
  rw [Option.map_map] at h
  rw [find, entry?_ofEntries]
  exact h

theorem all_ofEntries : (ofEntries es).all = .ok (Registration.sort es.registrations) := by
  have h : (Assoc.mapEntries (fun k => idOf k.1 k.2) (fun k p => encode (ofEntry (k, p))) es).mapM
      (fun p => decode p.2) = .ok es.registrations := by
    induction es with
    | nil => rfl
    | cons e es ih =>
        rw [Assoc.mapEntries, List.map_cons, List.mapM_cons, decode_encode]
        rw [Assoc.mapEntries] at ih
        rw [ih]
        rfl
  rw [ofEntries, all, h]
  rfl

theorem count_ofEntries : (ofEntries es).count = .ok es.length := by
  rw [ofEntries, count, Assoc.mapEntries, List.length_map]

theorem mentions_ofEntries :
    (ofEntries es).mentions (idOf k.1 k.2) = .ok (Assoc.contains k es) := by
  have h := Assoc.get?_mapEntries idOf_injective (fun k p => encode (ofEntry (k, p))) k es
  rw [ofEntries, mentions, Assoc.contains, h, Option.isSome_map, Assoc.contains]

omit k in
/-- The index of a map of entries has its keys and no others. -/
theorem keys_of_ofEntries_eq {es' : Entries} (h : ofEntries es = ofEntries es')
    (k : AppType × String) : k ∈ Assoc.keys es ↔ k ∈ Assoc.keys es' := by
  have hm := mentions_ofEntries es k
  rw [h, mentions_ofEntries es' k] at hm
  rw [← Assoc.contains_eq_true_iff, ← Assoc.contains_eq_true_iff, Except.ok.inj hm]

theorem insert_ofEntries (r : Registration) :
    (ofEntries es).insert r = .ok (ofEntries (Assoc.insert r.key r.place es)) := by
  have h := Assoc.insert_mapEntries idOf_injective (fun k p => encode (ofEntry (k, p))) r.key
    r.place es
  rw [ofEntries, insert, ofEntries, ← h]
  rfl

theorem erase_ofEntries : (ofEntries es).erase (idOf k.1 k.2) =
    .ok (ofEntries (Assoc.erase k es), Assoc.contains k es) := by
  have h := Assoc.get?_mapEntries idOf_injective (fun k p => encode (ofEntry (k, p))) k es
  have h' := Assoc.erase_mapEntries idOf_injective (fun k p => encode (ofEntry (k, p))) k es
  rw [ofEntries, erase, h, h', ofEntries, Assoc.contains]
  cases Assoc.get? k es <;> rfl

end OfEntries

end Index

end AppCatalog
