import AppCatalog.Proofs.Text.Split
import AppCatalog.Store.Import
import Mathlib.Data.List.Forall2

/-!
# The grammar of listings

A key names an application by its type and name, or the metadata of one (`ImportPlan.Names`). A listing
is in order when each key is of this kind, each value is a URI, and no metadata is without its
application (`Listing.InOrder`); it asks for the registrations that its entries state
(`Listing.Asks`). A listing that is not in order is refused for its first faulty entry, and for an
orphan only if it has no such entry (`Listing.RefusedFor`). Nothing is said here of how a listing is
read into a plan.
-/

namespace AppCatalog

open AppCatalog.Text

namespace ImportPlan

/-- A key of the form `<word>.<name>` or `<word>.<name>.metadata`; neither part has a dot. -/
structure HasShape (key word name : List Char) (isMetadata : Bool) : Prop where
  eq : key = word ++ '.' :: (name ++ if isMetadata then '.' :: metadataWord else [])
  word_free : '.' ∉ word
  name_free : '.' ∉ name

/-- A key that names an application, or the metadata of one. -/
structure Names (key : List Char) (k : AppType × String) (isMetadata : Bool) : Prop where
  shape : HasShape key k.1.word.toList k.2.toList isMetadata
  name_ne : k.2 ≠ ""

/-- What is wrong with a key. Its form is looked at first, then its type, then its name. -/
inductive FaultyKey (key : List Char) : EntryFault → Prop
  | badShape (h : ∀ word name isMetadata, ¬ HasShape key word name isMetadata) :
    FaultyKey key .badShape
  | unknownType {word name : List Char} {isMetadata : Bool} (h : HasShape key word name isMetadata)
    (hw : ∀ t : AppType, t.word ≠ String.ofList word) :
    FaultyKey key (.unknownType (String.ofList word))
  | emptyName {t : AppType} {isMetadata : Bool} (h : HasShape key t.word.toList [] isMetadata) :
    FaultyKey key .emptyName

/-- An entry with nothing wrong. -/
structure Sound (e : List Char × List Char) : Prop where
  names : ∃ k isMetadata, Names e.1 k isMetadata
  accepted : Uri.fault? e.2 = none

/-- What is wrong with an entry. The value is only looked at if the key is in order. -/
inductive FaultyEntry (e : List Char × List Char) : Failure → Prop
  | key {fault : EntryFault} (h : FaultyKey e.1 fault) :
    FaultyEntry e (.invalidEntry (String.ofList e.1) fault)
  | value {fault : UriFault} (h : ∃ k isMetadata, Names e.1 k isMetadata)
    (hu : Uri.fault? e.2 = some fault) : FaultyEntry e (.invalidUri (String.ofList e.2) fault)

/-! ## Keys -/

variable {key word name : List Char} {isMetadata : Bool}

theorem HasShape.keyParts? (h : HasShape key word name isMetadata) :
    keyParts? key = some (word, name, isMetadata) := by
  rw [ImportPlan.keyParts?, h.eq, splitAll_append_cons h.word_free]
  cases isMetadata with
  | false =>
      rw [if_neg Bool.false_ne_true, List.append_nil, splitAll_of_notMem h.name_free]
  | true =>
      have hlast : splitAll '.' metadataWord = [metadataWord] := rfl
      rw [if_pos rfl, splitAll_append_cons h.name_free, hlast]
      exact if_pos rfl

theorem keyParts?_eq_some_iff :
    keyParts? key = some (word, name, isMetadata) ↔ HasShape key word name isMetadata := by
  refine ⟨?_, HasShape.keyParts?⟩
  intro h
  have hjoin := intercalate_splitAll '.' key
  have hfree : ∀ part ∈ splitAll '.' key, '.' ∉ part := fun _ => notMem_of_mem_splitAll
  rw [keyParts?] at h
  split at h
  · next hs =>
      cases h
      rw [hs] at hjoin hfree
      exact ⟨by simpa [List.intercalate, List.intersperse] using hjoin.symm,
        hfree word (by simp), hfree name (by simp)⟩
  · next hs =>
      split at h
      · next hm =>
          cases h
          rw [hs, hm] at hjoin
          rw [hs] at hfree
          exact ⟨by simpa [List.intercalate, List.intersperse] using hjoin.symm,
            hfree word (by simp), hfree name (by simp)⟩
      · cases h
  · cases h

/-- A key has one shape at most. -/
theorem HasShape.unique {word' name' : List Char} {isMetadata' : Bool}
    (h : HasShape key word name isMetadata) (h' : HasShape key word' name' isMetadata') :
    word = word' ∧ name = name' ∧ isMetadata = isMetadata' := by
  have he := h.keyParts?.symm.trans h'.keyParts?
  rw [Option.some.injEq, Prod.mk.injEq, Prod.mk.injEq] at he
  exact he

theorem Names.unique {k k' : AppType × String} {isMetadata' : Bool} (h : Names key k isMetadata)
    (h' : Names key k' isMetadata') : k = k' ∧ isMetadata = isMetadata' := by
  obtain ⟨hword, hname, hm⟩ := h.shape.unique h'.shape
  refine ⟨Prod.ext (AppType.word_injective (String.toList_inj.1 hword)) ?_, hm⟩
  exact String.toList_inj.1 hname

theorem target_eq_ok_iff {type : AppType} {name : String} :
    target key = .ok (type, name, isMetadata) ↔ Names key (type, name) isMetadata := by
  constructor
  · intro h
    rw [target] at h
    split at h
    · cases h
    · next word n m hp =>
        split at h
        · cases h
        · next t ht =>
            split at h
            · cases h
            · next hn =>
                cases h
                have hw : type.word.toList = word := by
                  rw [← AppType.ofWord?_eq_some_iff.1 ht, String.toList_ofList]
                refine ⟨?_, ?_⟩
                · rw [hw, String.toList_ofList]
                  exact keyParts?_eq_some_iff.1 hp
                · intro he
                  exact hn (by simpa using congrArg String.toList he)
  · intro h
    have hn : name.toList ≠ [] := by
      intro he
      exact h.name_ne (String.toList_inj.1 he)
    rw [target, h.shape.keyParts?]
    simp only [String.ofList_toList, AppType.ofWord?_word, hn, if_false]

theorem target_eq_error_iff {fault : EntryFault} :
    target key = .error fault ↔ FaultyKey key fault := by
  constructor
  · intro h
    rw [target] at h
    split at h
    · next hp =>
        cases h
        refine .badShape ?_
        intro word name isMetadata hs
        rw [hs.keyParts?] at hp
        cases hp
    · next word name isMetadata hp =>
        rw [keyParts?_eq_some_iff] at hp
        split at h
        · next ht =>
            cases h
            refine .unknownType hp ?_
            intro t hw
            rw [← hw, AppType.ofWord?_word] at ht
            cases ht
        · next t ht =>
            split at h
            · next hn =>
                cases h
                have hshape : HasShape key t.word.toList [] isMetadata := by
                  rw [← AppType.ofWord?_eq_some_iff.1 ht, String.toList_ofList, ← hn]
                  exact hp
                exact .emptyName hshape
            · cases h
  · intro h
    cases h with
    | badShape h =>
        rcases hp : keyParts? key with _ | ⟨word, name, isMetadata⟩
        · rw [target, hp]
        · exact absurd (keyParts?_eq_some_iff.1 hp) (h word name isMetadata)
    | @unknownType word name isMetadata h hw =>
        have hnone : AppType.ofWord? (String.ofList word) = none := by
          rw [Option.eq_none_iff_forall_ne_some]
          intro t ht
          exact hw t (AppType.ofWord?_eq_some_iff.1 ht).symm
        rw [target, h.keyParts?]
        simp only [hnone]
    | emptyName h =>
        rw [target, h.keyParts?]
        simp only [String.ofList_toList, AppType.ofWord?_word, if_true]

end ImportPlan

/-! ## Listings -/

namespace Listing

open AppCatalog.ImportPlan

/-- Metadata in a listing whose application is not in it. -/
def Orphan (l : Listing) (k : AppType × String) : Prop :=
  (∃ e ∈ l, Names e.1 k true) ∧ ∀ e ∈ l, ¬ Names e.1 k false

/-- A listing in which every entry is sound and no metadata is an orphan. -/
structure InOrder (l : Listing) : Prop where
  sound : ∀ e ∈ l, Sound e
  metadata : ∀ e ∈ l, ∀ k, Names e.1 k true → ∃ e' ∈ l, Names e'.1 k false

/-- What a listing states about an application: the place that the entry `e` gives, and the metadata
that another entry gives, if there is one. -/
structure States (l : Listing) (e : List Char × List Char) (r : Registration) : Prop where
  names : Names e.1 r.key false
  uri : e.2 = r.uri.toList
  metadataUri : ∀ uri, r.metadataUri = some uri ↔
    ∃ e' ∈ l, Names e'.1 r.key true ∧ e'.2 = uri.toList

/-- The registrations that a listing asks for: one for each of its applications, in its order. -/
structure Asks (l : Listing) (rs : List Registration) : Prop where
  stated : ∃ es, es.Sublist l ∧ List.Forall₂ l.States es rs
  complete : ∀ e ∈ l, ∀ k, Names e.1 k false → k ∈ rs.map Registration.key

/-- What a listing is refused for: its first faulty entry, or else its least orphan. -/
inductive RefusedFor (l : Listing) : Failure → Prop
  | entry {front back : Listing} {e : List Char × List Char} {f : Failure}
    (h : l = front ++ e :: back) (hfront : ∀ e' ∈ front, Sound e') (he : FaultyEntry e f) :
    RefusedFor l f
  | orphan {k : AppType × String} (h : ∀ e ∈ l, Sound e) (hk : l.Orphan k)
    (hleast : ∀ j, l.Orphan j → j ≠ k → Registration.keyBefore k j = true) :
    RefusedFor l (.invalidEntry (metadataKey k) .orphanMetadata)

end Listing

end AppCatalog
