import AppCatalog.Metadata.Artifact

/-!
# How an artifact is described

The words that describe an artifact end up in the failure that leaves its metadata unresolved, and
nowhere else: whatever they are, the same metadata are read or the same fault is found
(`Metadata.sameKind_ofBytes`).
-/

namespace AppCatalog

/-! ## Failures without descriptions -/

/-- A failure without the words that describe what is unresolved. -/
def Failure.undescribed : Failure → Failure
  | .unresolved _ cause => .unresolved "" cause
  | f => f

/-- Two results that differ in what is said to be unresolved at most. -/
def SameKind {α : Type} (x y : Except Failure α) : Prop :=
  x.mapError Failure.undescribed = y.mapError Failure.undescribed

namespace SameKind

variable {α β : Type} {x y : Except Failure α}

theorem refl (x : Except Failure α) : SameKind x x := rfl

theorem bind {k l : α → Except Failure β} (h : SameKind x y) (hk : ∀ a, SameKind (k a) (l a)) :
    SameKind (x >>= k) (y >>= l) := by
  rcases x with f | a
  · rcases y with g | b
    · exact congrArg Except.error (Except.error.inj h)
    · cases h
  · rcases y with g | b
    · cases h
    · cases h
      exact hk a

theorem map (h : SameKind x y) (g : α → β) : SameKind (x.map g) (y.map g) :=
  h.bind fun _ => rfl

theorem ok {a : α} (h : SameKind x y) (hx : x = .ok a) : y = .ok a := by
  subst hx
  rcases y with f | b
  · cases h
  · exact (congrArg Except.ok (Except.ok.inj h)).symm

end SameKind

namespace Metadata

variable (d d' : String) (R : Readers)

theorem sameKind_listOf (key : String) (entries : List (Value × Value)) :
    SameKind (listOf d key entries) (listOf d' key entries) := by
  rw [listOf, listOf]
  split <;> rfl

theorem sameKind_mapError {α : Type} (caught : Breakdown → Option MetadataFault)
    (x : Except Breakdown α) :
    SameKind (x.mapError (failureOf caught d)) (x.mapError (failureOf caught d')) := by
  rcases x with b | a
  · refine congrArg Except.error ?_
    rw [failureOf, failureOf]
    cases caught b <;> rfl
  · rfl

theorem sameKind_propertiesOf (data : Bytes) :
    SameKind (propertiesOf R d data) (propertiesOf R d' data) := by
  rw [propertiesOf, propertiesOf]
  refine SameKind.bind (sameKind_mapError d d' _ _) fun v => ?_
  cases v with
  | obj fields => exact sameKind_listOf d d' _ _
  | _ => rfl

theorem sameKind_memberProperties (members : Members) :
    SameKind (memberProperties R d members) (memberProperties R d' members) := by
  rw [memberProperties, memberProperties]
  refine SameKind.bind (sameKind_mapError d d' _ _) fun member => ?_
  cases member with
  | none => exact .refl _
  | some bytes => exact sameKind_propertiesOf d d' R bytes

theorem sameKind_ofArchive (data : Bytes) :
    SameKind (ofArchive R d data) (ofArchive R d' data) := by
  rw [ofArchive, ofArchive]
  refine SameKind.bind (sameKind_mapError d d' _ _) fun members => ?_
  refine SameKind.bind (sameKind_memberProperties d d' R members) fun properties => ?_
  exact SameKind.bind (sameKind_mapError d d' _ _) fun visible => .refl _

theorem sameKind_ofValue (v : Value) : SameKind (ofValue R d v) (ofValue R d' v) := by
  rw [ofValue.eq_def, ofValue.eq_def]
  split
  · exact .refl _
  · refine SameKind.bind (sameKind_listOf d d' _ _) fun properties => ?_
    refine SameKind.bind (sameKind_listOf d d' _ _) fun names => ?_
    exact .refl _
  · rfl

theorem sameKind_ofDocument (data : Bytes) :
    SameKind (ofDocument R d data) (ofDocument R d' data) := by
  rw [ofDocument, ofDocument]
  exact SameKind.bind (sameKind_mapError d d' _ _) fun v => sameKind_ofValue d d' R v

/-- How an artifact is described shows in no more than the description of a failure. -/
theorem sameKind_contentsOf (data : Bytes) :
    SameKind (contentsOf R d data) (contentsOf R d' data) := by
  rw [contentsOf, contentsOf]
  refine SameKind.bind (.refl _) fun isArchive => ?_
  cases isArchive with
  | false => exact sameKind_ofDocument d d' R data
  | true => exact sameKind_ofArchive d d' R data

theorem sameKind_ofBytes (data : Bytes) : SameKind (ofBytes d data R) (ofBytes d' data R) := by
  rw [ofBytes, ofBytes]
  exact SameKind.bind (sameKind_contentsOf d d' R data) fun contents => .refl _

end Metadata

end AppCatalog
