import AppCatalog.Proofs.Except
import AppCatalog.Proofs.Metadata.Description
import AppCatalog.Proofs.Run
import AppCatalog.Proofs.Text.Bytes
import Mathlib.Control.Monad.Basic

/-!
# What breaks through a metadata artifact

Most artifacts that hold no metadata are blamed for it: the metadata of their resource are
unresolved. Some are not, because a reader of the formats raises what nothing on the way turns into
one of the catalog's own failures. `BreaksThrough` says where that can be: when the bytes are looked
at, where nothing is caught; in the archive, its two members or the JSON text of one of them, and in
the document, where some breakdowns are caught and others are not; and where names and options are
written as texts. Whatever the bytes and the readers are, an artifact gives its options, is
unresolved, or breaks through (`resolve_breaks_iff`).
-/

namespace AppCatalog

/-- A failure that blames what is described. -/
def Failure.Blames (description : String) (f : Failure) : Prop :=
  ∃ cause, f = .unresolved description (some cause)

namespace Metadata

variable {R : Readers} {description : String} {data : Bytes} {b : Breakdown}

/-! ## What is caught -/

variable {caught : Breakdown → Option MetadataFault}

theorem failureOf_of_none (h : caught b = none) (description : String) :
    failureOf caught description b = .breakdown b := by
  rw [failureOf, h]

/-- What is raised is blamed on the artifact if it is caught, and breaks through if not. -/
theorem failureOf_cases (caught : Breakdown → Option MetadataFault) (description : String)
    (b : Breakdown) : (failureOf caught description b).Blames description ∨
      caught b = none ∧ failureOf caught description b = .breakdown b := by
  rcases hb : caught b with _ | fault
  · exact Or.inr ⟨rfl, failureOf_of_none hb description⟩
  · exact Or.inl ⟨fault, by rw [failureOf, hb]⟩

/-! ## Artifacts -/

/-- What an artifact holds, however it is described. -/
def Holds (R : Readers) (data : Bytes) (contents : Contents) : Prop :=
  ∀ description, contentsOf R description data = .ok contents

/-- Bytes that end in a breakdown instead of being blamed: a reader raises it where it is not
caught. -/
inductive BreaksThrough (R : Readers) (data : Bytes) : Breakdown → Prop
  /-- Whether the bytes are an archive is asked where nothing is caught. -/
  | isArchive {b : Breakdown} (h : R.isArchive data = .error b) : BreaksThrough R data b
  | members {b : Breakdown} (ha : R.isArchive data = .ok true) (h : R.members data = .error b)
    (hb : caughtInArchive b = none) : BreaksThrough R data b
  | properties {b : Breakdown} {members : Members} (ha : R.isArchive data = .ok true)
    (hm : R.members data = .ok members) (h : members propertiesMember.toList = .error b)
    (hb : caughtInArchive b = none) : BreaksThrough R data b
  | json {b : Breakdown} {members : Members} {bytes : Bytes} {text : List Char}
    (ha : R.isArchive data = .ok true) (hm : R.members data = .ok members)
    (hp : members propertiesMember.toList = .ok (some bytes))
    (ht : Utf8.decode? bytes = some text) (h : R.json text = .error b)
    (hb : caughtInArchive b = none) : BreaksThrough R data b
  /-- The properties are there, and the member of the visible names is not to be had. -/
  | visible {b : Breakdown} {members : Members} {properties : List Value} {description : String}
    (ha : R.isArchive data = .ok true) (hm : R.members data = .ok members)
    (hp : memberProperties R description members = .ok properties)
    (h : members visibleMember.toList = .error b) (hb : caughtInArchive b = none) :
    BreaksThrough R data b
  | document {b : Breakdown} {text : List Char} (ha : R.isArchive data = .ok false)
    (ht : Utf8.decode? data = some text) (h : R.document text = .error b)
    (hb : caughtInDocument b = none) : BreaksThrough R data b
  /-- A visible name of a document cannot be written. -/
  | name {b : Breakdown} {text : List Char} {entries : List (Value × Value)}
    {properties names : List Value} {description : String} (ha : R.isArchive data = .ok false)
    (ht : Utf8.decode? data = some text) (hd : R.document text = .ok (.map entries))
    (hp : listOf description "properties" entries = .ok properties)
    (hn : listOf description "visible" entries = .ok names)
    (h : names.mapM R.write = .error b) : BreaksThrough R data b
  /-- An option cannot be written. -/
  | option {b : Breakdown} {contents : Contents} (hc : Holds R data contents)
    (h : optionsOf R contents.properties = .error b) : BreaksThrough R data b

/-- A reader behind a decoding raises what the decoding or the reader raises. -/
theorem decode_bind_error {α : Type} {read : List Char → Except Breakdown α}
    (h : (decode data).bind read = .error b) :
    b = .undecodable ∨ ∃ text, Utf8.decode? data = some text ∧ read text = .error b := by
  rw [decode] at h
  split at h
  · next text ht => exact Or.inr ⟨text, ht, h⟩
  · cases h
    exact Or.inl rfl

/-- A failure that is blamed on an artifact, or that breaks through it. -/
def Fails (R : Readers) (description : String) (data : Bytes) (f : Failure) : Prop :=
  f.Blames description ∨ ∃ b, f = .breakdown b ∧ BreaksThrough R data b

theorem fails_failureOf (description : String)
    (h : caught b = none → BreaksThrough R data b) :
    Fails R description data (failureOf caught description b) := by
  rcases failureOf_cases caught description b with hblames | ⟨hb, hf⟩
  · exact Or.inl hblames
  · exact Or.inr ⟨b, hf, h hb⟩

variable {f : Failure}

theorem blames_listOf {key : String} {entries : List (Value × Value)}
    (h : listOf description key entries = .error f) : f.Blames description := by
  rw [listOf] at h
  split at h
  · cases h
  · cases h
  · cases h
  · cases h
    exact ⟨_, rfl⟩

theorem memberProperties_error {members : Members} (ha : R.isArchive data = .ok true)
    (hm : R.members data = .ok members) (h : memberProperties R description members = .error f) :
    Fails R description data f := by
  rw [memberProperties] at h
  rcases except_bind_error h with h | ⟨member, hp, h⟩
  · obtain ⟨b, hp, rfl⟩ := mapError_eq_error.1 h
    exact fails_failureOf description (.properties ha hm hp)
  · have hp := mapError_eq_ok hp
    cases member with
    | none => cases h
    | some bytes =>
        change propertiesOf R description bytes = .error f at h
        rw [propertiesOf] at h
        rcases except_bind_error h with h | ⟨v, -, h⟩
        · obtain ⟨b, hb, rfl⟩ := mapError_eq_error.1 h
          rcases decode_bind_error hb with rfl | ⟨text, ht, hj⟩
          · exact Or.inl ⟨_, rfl⟩
          · exact fails_failureOf description (.json ha hm hp ht hj)
        · cases v with
          | obj fields => exact Or.inl (blames_listOf h)
          | _ =>
              cases h
              exact Or.inl ⟨_, rfl⟩

theorem ofArchive_error (ha : R.isArchive data = .ok true)
    (h : ofArchive R description data = .error f) : Fails R description data f := by
  rw [ofArchive] at h
  rcases except_bind_error h with h | ⟨members, hm, h⟩
  · obtain ⟨b, hm, rfl⟩ := mapError_eq_error.1 h
    exact fails_failureOf description (.members ha hm)
  · have hm := mapError_eq_ok hm
    rcases except_bind_error h with h | ⟨properties, hp, h⟩
    · exact memberProperties_error ha hm h
    · rcases except_bind_error h with h | ⟨visible, -, h⟩
      · obtain ⟨b, hv, rfl⟩ := mapError_eq_error.1 h
        exact fails_failureOf description (.visible ha hm hp hv)
      · cases h

theorem ofValue_error {text : List Char} {v : Value} (ha : R.isArchive data = .ok false)
    (ht : Utf8.decode? data = some text) (hd : R.document text = .ok v)
    (h : ofValue R description v = .error f) : Fails R description data f := by
  rw [ofValue.eq_def] at h
  split at h
  · cases h
  · next entries =>
      rcases except_bind_error h with h | ⟨properties, hp, h⟩
      · exact Or.inl (blames_listOf h)
      · rcases except_bind_error h with h | ⟨names, hn, h⟩
        · exact Or.inl (blames_listOf h)
        · rcases except_bind_error h with h | ⟨visible, -, h⟩
          · obtain ⟨b, hw, rfl⟩ := mapError_eq_error.1 h
            exact Or.inr ⟨b, rfl, .name ha ht hd hp hn hw⟩
          · cases h
  · cases h
    exact Or.inl ⟨_, rfl⟩

theorem ofDocument_error (ha : R.isArchive data = .ok false)
    (h : ofDocument R description data = .error f) : Fails R description data f := by
  rw [ofDocument] at h
  rcases except_bind_error h with h | ⟨v, hv, h⟩
  · obtain ⟨b, hb, rfl⟩ := mapError_eq_error.1 h
    rcases decode_bind_error hb with rfl | ⟨text, ht, hd⟩
    · exact Or.inl ⟨_, rfl⟩
    · exact fails_failureOf description (.document ha ht hd)
  · have hv := mapError_eq_ok hv
    rw [decode] at hv
    split at hv
    · next text ht => exact ofValue_error ha ht hv h
    · cases hv

theorem contentsOf_error (h : contentsOf R description data = .error f) :
    Fails R description data f := by
  rw [contentsOf] at h
  rcases except_bind_error h with h | ⟨isArchive, ha, h⟩
  · obtain ⟨b, ha, rfl⟩ := mapError_eq_error.1 h
    exact Or.inr ⟨b, rfl, .isArchive ha⟩
  · have ha := mapError_eq_ok ha
    cases isArchive with
    | true => exact ofArchive_error ha h
    | false => exact ofDocument_error ha h

theorem holds_of_contentsOf {contents : Contents} (h : contentsOf R description data = .ok contents) :
    Holds R data contents :=
  fun description' => (sameKind_contentsOf description description' R data).ok h

/-- Bytes that hold no metadata are blamed for it, or break through. -/
theorem ofBytes_error (h : ofBytes description data R = .error f) : Fails R description data f := by
  rw [ofBytes] at h
  rcases except_bind_error h with h | ⟨contents, hc, h⟩
  · exact contentsOf_error h
  · rcases except_bind_error h with h | ⟨all, -, h⟩
    · obtain ⟨b, ho, rfl⟩ := mapError_eq_error.1 h
      exact Or.inr ⟨b, rfl, .option (holds_of_contentsOf hc) ho⟩
    · cases h

theorem listOf_ok {key : String} {entries : List (Value × Value)} {items : List Value}
    (h : listOf description key entries = .ok items) (description' : String) :
    listOf description' key entries = .ok items :=
  (sameKind_listOf description description' key entries).ok h

theorem memberProperties_ok {members : Members} {properties : List Value}
    (h : memberProperties R description members = .ok properties) (description' : String) :
    memberProperties R description' members = .ok properties :=
  (sameKind_memberProperties description description' R members).ok h

theorem contentsOf_archive (ha : R.isArchive data = .ok true) (description : String) :
    contentsOf R description data = ofArchive R description data := by
  rw [contentsOf, ha]
  rfl

theorem contentsOf_document (ha : R.isArchive data = .ok false) (description : String) :
    contentsOf R description data = ofDocument R description data := by
  rw [contentsOf, ha]
  rfl

theorem ofArchive_eq {members : Members} (hm : R.members data = .ok members)
    (description : String) : ofArchive R description data =
      (memberProperties R description members).bind fun properties =>
        ((members visibleMember.toList).mapError (failureOf caughtInArchive description)).map
          fun visible => ⟨properties, (visible.map visibleOf).getD []⟩ := by
  rw [ofArchive, hm]
  change (memberProperties R description members).bind _ = _
  refine congrArg _ (funext fun properties => ?_)
  rcases members visibleMember.toList with b | visible <;> rfl

theorem memberProperties_eq {members : Members} {bytes : Bytes} {text : List Char}
    (hp : members propertiesMember.toList = .ok (some bytes))
    (ht : Utf8.decode? bytes = some text) (description : String) :
    memberProperties R description members =
      ((R.json text).mapError (failureOf caughtInArchive description)).bind fun v =>
        match v with
        | .obj fields => listOf description "properties" (Value.ofFields fields)
        | _ => unresolved description (.notObject propertiesMember) := by
  rw [memberProperties, hp]
  change propertiesOf R description bytes = _
  rw [propertiesOf, decode, ht]
  rfl

theorem ofDocument_eq {text : List Char} (ht : Utf8.decode? data = some text)
    (description : String) : ofDocument R description data =
      ((R.document text).mapError (failureOf caughtInDocument description)).bind
        (ofValue R description) := by
  rw [ofDocument, decode, ht]
  rfl

theorem ofValue_map {entries : List (Value × Value)} {properties names : List Value}
    (hp : listOf description "properties" entries = .ok properties)
    (hn : listOf description "visible" entries = .ok names) :
    ofValue R description (.map entries) =
      ((names.mapM R.write).mapError .breakdown).map fun visible =>
        ⟨properties.map (unfold entries), visible⟩ := by
  rw [ofValue, hp, hn]
  change ((names.mapM R.write).mapError Failure.breakdown).bind _ = _
  rcases names.mapM R.write with b | visible <;> rfl

theorem ofBytes_of_contentsOf_error (h : contentsOf R description data = .error f) :
    ofBytes description data R = .error f := by
  rw [ofBytes, h]
  rfl

/-- What breaks through is not looked at any further. -/
theorem BreaksThrough.ofBytes (h : BreaksThrough R data b) (description : String) :
    ofBytes description data R = .error (.breakdown b) := by
  cases h with
  | isArchive h =>
      apply ofBytes_of_contentsOf_error
      rw [contentsOf, h]
      rfl
  | members ha h hb =>
      apply ofBytes_of_contentsOf_error
      rw [contentsOf_archive ha, ofArchive, h, mapError_error, failureOf_of_none hb]
      rfl
  | properties ha hm h hb =>
      apply ofBytes_of_contentsOf_error
      rw [contentsOf_archive ha, ofArchive_eq hm, memberProperties, h, mapError_error,
        failureOf_of_none hb]
      rfl
  | json ha hm hp ht h hb =>
      apply ofBytes_of_contentsOf_error
      rw [contentsOf_archive ha, ofArchive_eq hm, memberProperties_eq hp ht, h, mapError_error,
        failureOf_of_none hb]
      rfl
  | visible ha hm hp h hb =>
      apply ofBytes_of_contentsOf_error
      rw [contentsOf_archive ha, ofArchive_eq hm, memberProperties_ok hp description, h,
        mapError_error, failureOf_of_none hb]
      rfl
  | document ha ht h hb =>
      apply ofBytes_of_contentsOf_error
      rw [contentsOf_document ha, ofDocument_eq ht, h, mapError_error, failureOf_of_none hb]
      rfl
  | name ha ht hd hp hn h =>
      apply ofBytes_of_contentsOf_error
      rw [contentsOf_document ha, ofDocument_eq ht, hd]
      change ofValue R description (.map _) = _
      rw [ofValue_map (listOf_ok hp description) (listOf_ok hn description), h]
      rfl
  | option hc h =>
      rw [Metadata.ofBytes, hc description]
      change ((optionsOf R _).mapError _).bind _ = _
      rw [h]
      rfl

/-! ## Resources -/

theorem resolve_on (r : Resource) (exhaustive : Bool) (R : Readers) (w : World) :
    (resolve r exhaustive R).on w = match r.read.on w with
      | (.ok data, w') => ((ofBytes r.description data R).map fun m => m.options exhaustive, w')
      | (.error (.resource fault), w') =>
        (.error (.unresolved r.description (some (.resource fault))), w')
      | (.error f, w') => (.error f, w') := by
  rw [resolve, Run.on_bind, Run.on_outcome]
  rcases r.read.on w with ⟨f | data, w'⟩
  · cases f <;> rfl
  · change (Run.ofExcept (Metadata.ofBytes r.description data R) >>= fun m =>
      Pure.pure (m.options exhaustive)).on w' = _
    rw [Run.on_bind, Run.on_ofExcept]
    simp only
    rcases Metadata.ofBytes r.description data R with f | m <;> rfl

/-- Whatever bytes a resource holds and whatever the readers of the formats make of them, its
metadata are the options that they describe, or are unresolved with a cause, or end in a breakdown.
They end in a breakdown exactly if a reader raises it where it is not caught. -/
theorem resolve_breaks_iff (R : Readers) {r : Resource} {data : Bytes} {w w' : World}
    (h : r.read.on w = (.ok data, w')) (exhaustive : Bool) :
    ((∃ options, (resolve r exhaustive R).on w = (.ok options, w')) ∨
      (∃ cause, (resolve r exhaustive R).on w =
        (.error (.unresolved r.description (some cause)), w')) ∨
      ∃ b, (resolve r exhaustive R).on w = (.error (.breakdown b), w') ∧
        BreaksThrough R data b) ∧
    ∀ b, ((resolve r exhaustive R).on w).1 = .error (.breakdown b) ↔ BreaksThrough R data b := by
  have hr : (resolve r exhaustive R).on w =
      ((ofBytes r.description data R).map fun m => m.options exhaustive, w') := by
    rw [resolve_on, h]
  rw [hr]
  constructor
  · rcases hb : ofBytes r.description data R with f | m
    · rcases ofBytes_error hb with ⟨cause, rfl⟩ | ⟨b, rfl, hbreaks⟩
      · exact Or.inr (Or.inl ⟨cause, rfl⟩)
      · exact Or.inr (Or.inr ⟨b, rfl, hbreaks⟩)
    · exact Or.inl ⟨m.options exhaustive, rfl⟩
  · intro b
    constructor
    · intro hbreak
      rcases hb : ofBytes r.description data R with f | m
      · rw [hb] at hbreak
        cases hbreak
        rcases ofBytes_error hb with ⟨cause, hc⟩ | ⟨b', hb', hbreaks⟩
        · cases hc
        · cases hb'
          exact hbreaks
      · rw [hb] at hbreak
        cases hbreak
    · intro hbreaks
      rw [hbreaks.ofBytes]
      rfl

/-- A document that gives a date the calendar does not have. -/
theorem resolve_impossible_date :
    let text := "properties:\n  - name: a\n    default_value: 2020-13-45\n".toList
    let r : Resource := .inline (Utf8.encode text) "byte array"
    r.read.on World.empty = (.ok (Utf8.encode text), World.empty) ∧
    BreaksThrough .standard (Utf8.encode text) .badValue ∧
    ((resolve r true).on World.empty).1 = .error (.breakdown .badValue) := by
  intro text r
  have hr : r.read.on World.empty = (.ok (Utf8.encode text), World.empty) := rfl
  have harchive : Readers.standard.isArchive (Utf8.encode text) = .ok false := by decide +kernel
  have hload : (Readers.standard.document text).map (fun _ => ()) = .error .badValue := by
    decide +kernel
  have hbreaks : BreaksThrough .standard (Utf8.encode text) .badValue := by
    refine .document harchive (Utf8.decode?_encode text) ?_ rfl
    rcases hy : Readers.standard.document text with b | v
    · rw [hy] at hload
      cases hload
      rfl
    · rw [hy] at hload
      cases hload
  exact ⟨hr, hbreaks, ((resolve_breaks_iff .standard hr true).2 _).2 hbreaks⟩

end Metadata

end AppCatalog
