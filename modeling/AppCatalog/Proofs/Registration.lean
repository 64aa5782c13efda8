import AppCatalog.Assoc
import AppCatalog.Registration
import Mathlib.Data.Finmap
import Mathlib.Data.Finset.Sort
import Mathlib.Data.String.Basic

/-!
# Registrations under their keys

The identifying text of a registration is its type, a slash and its name. No type has a slash in its
word, so the text determines the type and the name, whatever slashes the name holds
(`idOf_injective`).

Listing order compares types by ordinal and names by code point. It is a strict linear order of the
keys, hence registrations with distinct keys have one listing, in whatever order they are given
(`sort_eq_listing`). `RegistrationMap` is the finite map from keys to what is registered under them;
its `listing` is sorted from the set of keys alone.
-/

namespace AppCatalog

namespace Registration

/-- Where the artifact of a registration is, and its metadata if that is kept apart. -/
def place (r : Registration) : String × Option String := (r.uri, r.metadataUri)

/-- The registration of a key and a place. -/
def ofEntry (e : (AppType × String) × (String × Option String)) : Registration :=
  ⟨e.1.1, e.1.2, e.2.1, e.2.2⟩

@[simp] theorem ofEntry_key_place (r : Registration) : ofEntry (r.key, r.place) = r := rfl

@[simp] theorem place_ofEntry (e : (AppType × String) × (String × Option String)) :
    (ofEntry e).place = e.2 := rfl

/-! ## The identifying text -/

theorem slash_notMem_word (t : AppType) : '/' ∉ t.word.toList := by
  cases t <;> decide

/-- The part of an identifying text in front of its first slash is the word of its type. -/
theorem takeWhile_idOf (t : AppType) (name : String) :
    (idOf t name).toList.takeWhile (· != '/') = t.word.toList := by
  have hid : (idOf t name).toList = t.word.toList ++ '/' :: name.toList := by
    simp [idOf, String.toList_append]
  have hword : ∀ c ∈ t.word.toList, (c != '/') = true := by
    intro c hc
    exact bne_iff_ne.2 fun he => slash_notMem_word t (he ▸ hc)
  rw [hid, List.takeWhile_append_of_pos hword, List.takeWhile_cons_of_neg (by decide),
    List.append_nil]

/-- The identifying text determines the type and the name, also when the name holds slashes. -/
theorem idOf_injective : Function.Injective fun k : AppType × String => idOf k.1 k.2 := by
  rintro ⟨s, m⟩ ⟨t, n⟩ h
  have ht : s = t := by
    apply AppType.word_injective
    apply String.toList_inj.1
    rw [← takeWhile_idOf s m, ← takeWhile_idOf t n]
    exact congrArg (fun i => i.toList.takeWhile (· != '/')) h
  subst ht
  have hn : m = n := by
    have hl := congrArg String.toList h
    simp only [idOf, String.toList_append, List.append_assoc] at hl
    exact String.toList_inj.1 (List.append_cancel_left (List.append_cancel_left hl))
  rw [hn]

/-! ## Listing order -/

theorem keyBefore_iff {a b : AppType × String} :
    keyBefore a b = true ↔
      a.1.ordinal < b.1.ordinal ∨ a.1.ordinal = b.1.ordinal ∧ a.2 < b.2 := by
  simp only [keyBefore, Bool.or_eq_true, Bool.and_eq_true, decide_eq_true_eq, beq_iff_eq]

theorem keyBefore_irrefl (a : AppType × String) : keyBefore a a = false := by
  rw [← Bool.not_eq_true, keyBefore_iff]
  rintro (h | ⟨-, h⟩)
  · exact lt_irrefl _ h
  · exact lt_irrefl _ h

theorem keyBefore_trans {a b c : AppType × String} (hab : keyBefore a b = true)
    (hbc : keyBefore b c = true) : keyBefore a c = true := by
  rw [keyBefore_iff] at *
  rcases hab with hab | ⟨hab, hn⟩
  · rcases hbc with hbc | ⟨hbc, -⟩
    · exact Or.inl (hab.trans hbc)
    · exact Or.inl (hbc ▸ hab)
  · rcases hbc with hbc | ⟨hbc, hn'⟩
    · exact Or.inl (hab ▸ hbc)
    · exact Or.inr ⟨hab.trans hbc, hn.trans hn'⟩

theorem keyBefore_asymm {a b : AppType × String} (h : keyBefore a b = true) :
    keyBefore b a = false := by
  rw [← Bool.not_eq_true]
  intro h'
  have := keyBefore_trans h h'
  rw [keyBefore_irrefl] at this
  exact Bool.false_ne_true this

theorem keyBefore_or_keyBefore {a b : AppType × String} (h : a ≠ b) :
    keyBefore a b = true ∨ keyBefore b a = true := by
  rw [keyBefore_iff, keyBefore_iff]
  rcases lt_trichotomy a.1.ordinal b.1.ordinal with ho | ho | ho
  · exact Or.inl (Or.inl ho)
  · rcases lt_trichotomy a.2 b.2 with hn | hn | hn
    · exact Or.inl (Or.inr ⟨ho, hn⟩)
    · exact absurd (Prod.ext (AppType.ordinal_injective ho) hn) h
    · exact Or.inr (Or.inr ⟨ho.symm, hn⟩)
  · exact Or.inr (Or.inl ho)

/-- Whether a key does not come behind another in listing order. -/
def keyUpTo (a b : AppType × String) : Prop := keyBefore b a = false

instance : DecidableRel keyUpTo := fun a b => inferInstanceAs (Decidable (keyBefore b a = false))

instance : IsTrans (AppType × String) keyUpTo where
  trans a b c hab hbc := by
    rw [keyUpTo, ← Bool.not_eq_true] at *
    intro hca
    by_cases h : b = c
    · exact hab (h ▸ hca)
    · rcases keyBefore_or_keyBefore h with h | h
      · exact hab (keyBefore_trans h hca)
      · exact hbc h

instance : Std.Antisymm keyUpTo where
  antisymm a b hab hba := by
    by_contra h
    rw [keyUpTo, ← Bool.not_eq_true] at *
    exact (keyBefore_or_keyBefore h).elim hba hab

instance : Std.Total keyUpTo where
  total a b := by
    by_contra h
    rw [not_or, keyUpTo, keyUpTo, Bool.not_eq_false, Bool.not_eq_false] at h
    have := keyBefore_asymm h.1
    rw [h.2] at this
    exact Bool.false_ne_true this.symm

/-- Keys that are up to each other and distinct are before each other. -/
theorem keyBefore_of_keyUpTo {a b : AppType × String} (h : keyUpTo a b) (hn : a ≠ b) :
    keyBefore a b = true :=
  (keyBefore_or_keyBefore hn).resolve_right fun hba => by
    rw [keyUpTo, hba] at h
    exact Bool.false_ne_true h.symm

theorem pairwise_keyUpTo_sort (rs : List Registration) :
    (sort rs).Pairwise fun a b => keyUpTo a.key b.key := by
  have h : (sort rs).Pairwise fun a b => (!b.before a) = true := by
    refine List.pairwise_mergeSort ?_ ?_ rs
    · intro a b c hab hbc
      rw [Bool.not_eq_true'] at *
      exact trans_of keyUpTo hab hbc
    · intro a b
      rw [Bool.or_eq_true, Bool.not_eq_true', Bool.not_eq_true']
      exact total_of keyUpTo a.key b.key
  refine h.imp ?_
  intro a b hab
  rwa [Bool.not_eq_true'] at hab

/-- Registrations with distinct keys are listed in strictly increasing order. -/
theorem pairwise_before_sort {rs : List Registration} (h : (rs.map key).Nodup) :
    (sort rs).Pairwise fun a b => a.before b = true := by
  have hk : ((sort rs).map key).Nodup := ((perm_sort rs).map key).nodup_iff.2 h
  rw [List.Nodup, List.pairwise_map] at hk
  exact (pairwise_keyUpTo_sort rs).imp₂ (fun _ _ => keyBefore_of_keyUpTo) hk

/-- Two lists in strictly increasing order that hold the same registrations are equal. -/
theorem eq_of_pairwise_before {rs rs' : List Registration}
    (h : rs.Pairwise fun a b => a.before b = true)
    (h' : rs'.Pairwise fun a b => a.before b = true) (hm : ∀ r, r ∈ rs ↔ r ∈ rs') : rs = rs' := by
  have hne : ∀ {a b : Registration}, a.before b = true → a ≠ b := by
    rintro a b hab rfl
    exact Bool.false_ne_true ((keyBefore_irrefl a.key).symm.trans hab)
  have hp : rs.Perm rs' := (List.perm_ext_iff_of_nodup (h.imp hne) (h'.imp hne)).2 hm
  refine hp.eq_of_pairwise ?_ h h'
  intro a b _ _ hab hba
  exact absurd (hab.symm.trans (keyBefore_asymm hba)) (by decide)

end Registration

/-- A finite map from types and names to where the artifact and its metadata are. -/
abbrev RegistrationMap := Finmap fun _ : AppType × String => String × Option String

namespace RegistrationMap

open AppCatalog.Registration

/-- The registration under a key. -/
def registration? (m : RegistrationMap) (k : AppType × String) : Option Registration :=
  (m.lookup k).map fun p => ofEntry (k, p)

/-- The registrations of a map, by key in listing order. -/
def listing (m : RegistrationMap) : List Registration :=
  (m.keys.sort keyUpTo).filterMap m.registration?

theorem registration?_key {m : RegistrationMap} {k : AppType × String} {r : Registration}
    (h : m.registration? k = some r) : r.key = k := by
  obtain ⟨p, -, rfl⟩ := Option.map_eq_some_iff.1 h
  rfl

theorem registration?_eq_some_iff {m : RegistrationMap} {r : Registration} :
    m.registration? r.key = some r ↔ m.lookup r.key = some r.place := by
  rw [registration?, Option.map_eq_some_iff]
  constructor
  · rintro ⟨p, hp, he⟩
    rw [hp, ← he, place_ofEntry]
  · intro h
    exact ⟨r.place, h, ofEntry_key_place r⟩

/-- A listing holds exactly what is registered. -/
theorem mem_listing {m : RegistrationMap} {r : Registration} :
    r ∈ m.listing ↔ m.lookup r.key = some r.place := by
  rw [listing, List.mem_filterMap, ← registration?_eq_some_iff]
  constructor
  · rintro ⟨k, -, h⟩
    rwa [registration?_key h]
  · intro h
    refine ⟨r.key, ?_, h⟩
    rw [Finset.mem_sort, Finmap.mem_keys]
    exact Finmap.mem_of_lookup_eq_some (registration?_eq_some_iff.1 h)

/-- A listing is in strictly increasing order, so that no key is listed twice. -/
theorem pairwise_listing (m : RegistrationMap) :
    m.listing.Pairwise fun a b => a.before b = true := by
  rw [listing, List.pairwise_filterMap]
  refine (Finset.pairwise_sort m.keys keyUpTo).imp₂ ?_ (Finset.sort_nodup m.keys keyUpTo)
  intro j k hjk hne r hr r' hr'
  rw [Registration.before, registration?_key hr, registration?_key hr']
  exact keyBefore_of_keyUpTo hjk hne

/-- Registrations with distinct keys are sorted into the listing of the map that holds them. -/
theorem sort_eq_listing {m : RegistrationMap} {rs : List Registration} (h : (rs.map key).Nodup)
    (hm : ∀ r, r ∈ rs ↔ m.lookup r.key = some r.place) : sort rs = m.listing := by
  refine eq_of_pairwise_before (pairwise_before_sort h) m.pairwise_listing ?_
  intro r
  rw [(perm_sort rs).mem_iff, hm, mem_listing]

end RegistrationMap

end AppCatalog
