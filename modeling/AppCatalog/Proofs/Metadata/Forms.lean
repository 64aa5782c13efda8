import AppCatalog.Archive.Packing
import AppCatalog.Proofs.Json.Document
import AppCatalog.Proofs.Metadata.Breakdown

/-!
# The two forms of an artifact

A JSON text describes the same options whether it stands for itself as a document or is the member
of an archive that holds the properties: `resolve_forms_agree` says so for the texts that are
portable. A document has the visible names in it, too, and is refused if there is something else in
their place, while an archive has them in a member of their own. Which readers are used does not
matter, as long as they can read JSON within some bounds (`Readers.ReadsJson`): integers of no more
digits than can be converted, and collections that are nested in so many levels.
-/

namespace AppCatalog

open AppCatalog.Text

/-- What the readers of the formats do with JSON texts within bounds: whatever a text stands for is
read and can be written, and a text that JSON has in common with documents is loaded as one. -/
structure Readers.ReadsJson (R : Readers) (levels : Nat) : Prop where
  json : ∀ {text : List Char} {v : Json Points}, Json.parse .unbounded text = .ok v →
    v.IsWithin levels → R.json text = .ok v.merged
  document : ∀ {text : List Char} {fields : List (Points × Json Points)},
    Json.parse .unbounded text = .ok (.obj fields) → (Json.obj fields).IsWithin levels →
      Json.isPortable text = true →
      R.document text = (Yaml.load none text).mapError Yaml.Fault.cause
  write : ∀ {v : Json Points}, v.IsWithin levels → ∃ text, R.write (Value.ofJson v) = .ok text

/-- Whether an object has a list under a key, or nothing. -/
def Json.holdsList (key : String) (fields : List (Points × Json Points)) : Bool :=
  match Assoc.get? (key : Points) fields with
  | none | some .null | some (.arr _) => true
  | some _ => false

/-- Whether a value is an object with lists, or nothing, for properties and visible names. -/
def Json.holdsLists : Json Points → Bool
  | .obj fields => holdsList "properties" fields && holdsList "visible" fields
  | _ => false

theorem Value.get?_ofFields (key : String) (fields : List (Points × Json Points)) :
    Value.get? key (Value.ofFields fields) =
      (Assoc.get? (key : Points) fields).map Value.ofJson := by
  induction fields with
  | nil => rfl
  | cons f fields ih =>
      obtain ⟨k, v⟩ := f
      have hfields : ofFields ((k, v) :: fields) = (text k, ofJson v) :: ofFields fields := rfl
      rw [hfields, Value.get?, Assoc.get?, ih]
      by_cases hk : k = key
      · rw [if_pos (beq_iff_eq.2 hk), if_pos hk, Option.map_some]
      · rw [if_neg (by simpa using hk), if_neg hk]

namespace Metadata

variable {R : Readers} {levels : Nat} {description key : String}
  {fields : List (Points × Json Points)} {text : List Char}

/-! ## Lists in an object -/

/-- The items of a list in an object, none if there is nothing. -/
theorem listOf_ofFields (h : Json.holdsList key fields = true)
    (hw : (Json.obj fields).IsWithin levels) : ∃ items : List (Json Points),
      (∀ v ∈ items, v.IsWithin levels) ∧
      ∀ description, listOf description key (Value.ofFields fields) = .ok (Value.ofItems items) := by
  rw [Json.holdsList] at h
  split at h
  · next hnone =>
      refine ⟨[], List.forall_mem_nil _, fun _ => ?_⟩
      rw [listOf, Value.get?_ofFields, hnone]
      rfl
  · next hnull =>
      refine ⟨[], List.forall_mem_nil _, fun _ => ?_⟩
      rw [listOf, Value.get?_ofFields, hnull]
      rfl
  · next items hitems =>
      refine ⟨items, fun v => (hw.field (Assoc.mem_of_get? hitems)).item, fun _ => ?_⟩
      rw [listOf, Value.get?_ofFields, hitems]
      rfl
  · cases h

theorem listOf_notList (h : Json.holdsList key fields = false) (description : String) :
    listOf description key (Value.ofFields fields) = unresolved description (.notList key) := by
  rw [Json.holdsList] at h
  split at h
  · cases h
  · cases h
  · cases h
  · next v hnull hlist hv =>
      rw [listOf, Value.get?_ofFields, hv]
      cases v with
      | null => exact absurd rfl hnull
      | arr items => exact absurd rfl (hlist items)
      | _ => rfl

theorem mem_ofItems {items : List (Json Points)} {v : Value} (h : v ∈ Value.ofItems items) :
    ∃ w ∈ items, v = Value.ofJson w := by
  induction items with
  | nil => cases h
  | cons w items ih =>
      rcases List.mem_cons.1 h with rfl | h
      · exact ⟨w, List.mem_cons_self, rfl⟩
      · obtain ⟨w', hw', rfl⟩ := ih h
        exact ⟨w', List.mem_cons_of_mem w hw', rfl⟩

/-- No value of JSON stands inside of itself. -/
theorem map_unfold_ofItems (entries : List (Value × Value)) (items : List (Json Points)) :
    (Value.ofItems items).map (unfold entries) = Value.ofItems items := by
  induction items with
  | nil => rfl
  | cons v items ih =>
      have hitems : Value.ofItems (v :: items) = Value.ofJson v :: Value.ofItems items := rfl
      rw [hitems, List.map_cons, ih]
      cases v <;> rfl

/-! ## Options -/

/-- The text of a value under a key can be written. -/
theorem textOf_given (hR : R.ReadsJson levels) (hw : (Json.obj fields).IsWithin levels)
    (key : String) : ∃ text,
      ConfigOption.textOf R.write (ConfigOption.given? key (Value.ofFields fields)) = .ok text := by
  rw [ConfigOption.given?, Value.get?_ofFields]
  rcases hv : Assoc.get? (key : Points) fields with _ | v
  · exact ⟨_, rfl⟩
  · rw [Option.map_some, Option.filter_some]
    split
    · exact hR.write (hw.field (Assoc.mem_of_get? hv))
    · exact ⟨_, rfl⟩

theorem ofEntries_ok (hR : R.ReadsJson levels) (hw : (Json.obj fields).IsWithin levels) :
    ∃ o, ConfigOption.ofEntries R.write (Value.ofFields fields) = .ok o := by
  obtain ⟨name, hname⟩ := textOf_given hR hw "name"
  obtain ⟨id, hid⟩ : ∃ id, ConfigOption.textOf R.write
      ((ConfigOption.given? "id" (Value.ofFields fields)).or
        (ConfigOption.given? "name" (Value.ofFields fields))) = .ok id := by
    obtain ⟨id, hid⟩ := textOf_given hR hw "id"
    rcases hgiven : ConfigOption.given? "id" (Value.ofFields fields) with _ | v
    · exact ⟨name, hname⟩
    · rw [hgiven] at hid
      exact ⟨id, hid⟩
  obtain ⟨type, htype⟩ := textOf_given hR hw "type"
  obtain ⟨words, hwords⟩ := textOf_given hR hw "description"
  rw [ConfigOption.ofEntries, hid, htype, hwords]
  exact ⟨_, rfl⟩

/-- The values of a list of JSON values within bounds describe options. -/
theorem optionsOf_ok (hR : R.ReadsJson levels) {items : List (Json Points)}
    (hw : ∀ v ∈ items, v.IsWithin levels) : ∃ all, optionsOf R (Value.ofItems items) = .ok all := by
  suffices h : ∃ os, ((Value.ofItems items).filterMap entries?).mapM
      (ConfigOption.ofEntries R.write) = .ok os by
    obtain ⟨os, hos⟩ := h
    rw [optionsOf, hos]
    exact ⟨_, rfl⟩
  refine mapM_ok fun entries hentries => ?_
  obtain ⟨v, hv, he⟩ := List.mem_filterMap.1 hentries
  obtain ⟨w, hw', rfl⟩ := mem_ofItems hv
  cases w with
  | obj fields =>
      cases he
      exact ofEntries_ok hR (hw _ hw')
  | _ => cases he

/-- Names within bounds can be written. -/
theorem names_ok (hR : R.ReadsJson levels) {items : List (Json Points)}
    (hw : ∀ v ∈ items, v.IsWithin levels) :
    ∃ names, (Value.ofItems items).mapM R.write = .ok names := by
  refine mapM_ok fun v hv => ?_
  obtain ⟨w, hw', rfl⟩ := mem_ofItems hv
  exact hR.write (hw w hw')

/-! ## Forms -/

/-- The bytes of an archive that holds a text as its properties, and whose visible names can be read
if it has any. -/
structure IsArchiveOf (R : Readers) (text : List Char) (data : Bytes) : Prop where
  isArchive : R.isArchive data = .ok true
  members : ∃ members visible, R.members data = .ok members ∧
    members propertiesMember.toList = .ok (some (Utf8.encode text)) ∧
    members visibleMember.toList = .ok visible

/-- An archive is one of a text if its members are the text and no visible names. -/
theorem IsArchiveOf.of_members {data : Bytes} (h : R.isArchive data = .ok true)
    (hmembers : ((R.members data).bind fun members =>
      (members propertiesMember.toList).bind fun properties =>
        (members visibleMember.toList).map fun visible => (properties, visible)) =
      .ok (some (Utf8.encode text), none)) : IsArchiveOf R text data := by
  obtain ⟨members, hm, hmembers⟩ := except_bind_ok hmembers
  obtain ⟨properties, hproperties, hmembers⟩ := except_bind_ok hmembers
  obtain ⟨visible, hvisible, he⟩ := except_map_ok hmembers
  cases he
  exact ⟨h, members, none, hm, hproperties, hvisible⟩

theorem IsArchiveOf.contentsOf {data : Bytes} (h : IsArchiveOf R text data)
    (hjson : R.json text = .ok (.obj fields)) {properties : List Value}
    (hlist : listOf description "properties" (Value.ofFields fields) = .ok properties) :
    ∃ visible, contentsOf R description data = .ok ⟨properties, visible⟩ := by
  obtain ⟨harchive, members, visible, hm, hproperties, hvisible⟩ := h
  refine ⟨(visible.map visibleOf).getD [], ?_⟩
  rw [contentsOf_archive harchive, ofArchive_eq hm,
    memberProperties_eq hproperties (Utf8.decode?_encode text), hjson, hvisible]
  simp only [mapError_ok, Except.bind, hlist]
  rfl

/-- The contents of a document that is the object of some fields with a list of properties. -/
theorem ofDocument_object {entries : List (Value × Value)} {items : List (Json Points)}
    {data : Bytes} (ht : Utf8.decode? data = some text) (hd : R.document text = .ok (.map entries))
    (hp : listOf description "properties" entries = .ok (Value.ofItems items)) :
    ofDocument R description data =
      (listOf description "visible" entries).bind fun names =>
        ((names.mapM R.write).mapError .breakdown).map fun visible =>
          ⟨Value.ofItems items, visible⟩ := by
  rw [ofDocument_eq ht, hd]
  change ofValue R description (.map entries) = _
  rcases hn : listOf description "visible" entries with f | names
  · rw [ofValue, hp, hn]
    rfl
  · rw [ofValue_map hp hn, map_unfold_ofItems]
    rfl

theorem ofBytes_of_contentsOf {data : Bytes} {contents : Contents} {all : List ConfigOption}
    (hc : contentsOf R description data = .ok contents)
    (ho : optionsOf R contents.properties = .ok all) :
    ofBytes description data R = .ok ⟨all, contents.visible⟩ := by
  rw [ofBytes, hc]
  change ((optionsOf R contents.properties).mapError _).bind _ = _
  rw [ho]
  rfl

/-- A JSON object with a list of properties, or none, describes options as the properties of an
archive, and if it is portable it describes the same ones as a document. As a document it is refused
if it has anything but a list of visible names. The integers in it may have up to 4300 digits, and its
collections be nested in as many levels as the readers can follow. -/
theorem resolve_forms_agree (hR : R.ReadsJson levels) {root : Json Points}
    (hparse : Json.parse .unbounded text = .ok root) (hw : root.IsWithin levels)
    (hroot : root.merged = .obj fields) (hlist : Json.holdsList "properties" fields = true)
    {r r' : Resource} {data : Bytes} {w w₁ w' w₁' : World}
    (hr : r.read.on w = (.ok (Utf8.encode text), w₁))
    (harchive : R.isArchive (Utf8.encode text) = .ok false)
    (hr' : r'.read.on w' = (.ok data, w₁')) (hdata : IsArchiveOf R text data) :
    ∃ options, (resolve r' true R).on w' = (.ok options, w₁') ∧
      (Json.isPortable text = true → (resolve r true R).on w =
        (if Json.holdsList "visible" fields then .ok options
          else .error (.unresolved r.description (some (.notList "visible"))), w₁)) := by
  have hfields : (Json.obj fields).IsWithin levels := hroot ▸ hw.merged
  obtain ⟨items, hitems, hproperties⟩ := listOf_ofFields hlist hfields
  obtain ⟨all, hall⟩ := optionsOf_ok hR hitems
  have hjson := hR.json hparse hw
  rw [hroot] at hjson
  obtain ⟨visible, hcontents⟩ := hdata.contentsOf hjson (hproperties r'.description)
  refine ⟨all, ?_, fun hportable => ?_⟩
  · rw [resolve_on, hr']
    simp only [ofBytes_of_contentsOf hcontents hall]
    rfl
  · obtain ⟨raw, rfl⟩ : ∃ raw, root = .obj raw := by
      cases root with
      | obj raw => exact ⟨raw, rfl⟩
      | _ => cases hroot
    have hload := hR.document hparse hw hportable
    rw [Yaml.load_object hparse hw.digits (fun n hn => by cases hn) hportable, hroot] at hload
    have hdocument := ofDocument_object (Utf8.decode?_encode text) hload (hproperties r.description)
    rw [resolve_on, hr]
    simp only
    rcases hv : Json.holdsList "visible" fields with _ | _
    · rw [listOf_notList hv] at hdocument
      rw [ofBytes_of_contentsOf_error ((contentsOf_document harchive _).trans hdocument)]
      rfl
    · obtain ⟨names, hnames, hvisible⟩ := listOf_ofFields hv hfields
      obtain ⟨visible, hwritten⟩ := names_ok hR hnames
      rw [hvisible, Except.bind, hwritten] at hdocument
      rw [ofBytes_of_contentsOf ((contentsOf_document harchive _).trans hdocument) hall]
      rfl

/-! ## The readers that the catalog is run with -/

mutual

/-- The integers of a value are those of JSON. -/
theorem greatest_ofJson : (v : Json Points) → (Value.ofJson v).greatest = v.greatest
  | .null => rfl
  | .bool _ => rfl
  | .int _ => rfl
  | .float _ => rfl
  | .str _ => rfl
  | .arr items => greatest_ofItems items
  | .obj fields => greatest_ofFields fields

theorem greatest_ofItems : (vs : List (Json Points)) →
    Value.greatestOfAll (Value.ofItems vs) = Json.greatestOfItems vs
  | [] => rfl
  | v :: vs => congrArg₂ max (greatest_ofJson v) (greatest_ofItems vs)

theorem greatest_ofFields : (fs : List (Points × Json Points)) →
    Value.greatestOfEntries (Value.ofFields fs) = Json.greatestOfFields fs
  | [] => rfl
  | (_, v) :: fs =>
    congrArg₂ max ((Nat.zero_max _).trans (greatest_ofJson v)) (greatest_ofFields fs)

end

/-- The readers that the catalog is run with can read JSON that is nested almost as deep as documents
may be. -/
theorem readsJson_standard : Readers.standard.ReadsJson (Yaml.maxLevels - 1) where
  json {text v} h hw := by
    have hallows : Json.Limits.standard.Allows v := hw.allows (by decide)
    change ((Json.parse .standard text).map Json.merged).mapError Json.Fault.breakdown = _
    rw [Json.parse_of_allows h hallows]
    rfl
  document {text fields} h hw hp := by
    have hdepth : ∀ n ∈ some Yaml.maxLevels, (Json.obj fields).depth < n := by
      intro n hn
      cases hn
      exact Nat.lt_of_le_of_lt hw.depth (by decide)
    change (Yaml.load (some Yaml.maxLevels) text).mapError Yaml.Fault.cause = _
    rw [Yaml.load_object h hw.digits hdepth hp,
      Yaml.load_object h hw.digits (fun n hn => by cases hn) hp]
  write {v} hw := by
    have hpow : ∀ digits, v.greatest < 10 ^ digits → v.greatest < Nat.pow 10 digits := fun _ h => h
    have hbound : (Value.ofJson v).greatest < Text.integerBound := by
      rw [greatest_ofJson]
      unfold Text.integerBound
      exact hpow maxDigits hw.digits
    refine ⟨(Value.ofJson v).shown, ?_⟩
    simp only [Readers.standard, Value.written, if_pos hbound]

/-- An object with one property, in an archive of nothing else. -/
theorem resolve_forms_agree_port :
    let text := "\x7b\"properties\": [\x7b\"name\": \"port\", \"default_value\": 80\x7d]\x7d".toList
    let data := Archive.pack [⟨propertiesMember.toList, Utf8.encode text⟩]
    ∃ options, (resolve (.inline data "archive") true).on World.empty = (.ok options, World.empty) ∧
      (resolve (.inline (Utf8.encode text) "document") true).on World.empty =
        (.ok options, World.empty) := by
  intro text data
  have hdata : IsArchiveOf .standard text data :=
    .of_members (by decide +kernel) (by decide +kernel)
  have hparsed : (Json.parse .unbounded text).map (fun v : Json Points =>
      (v.merged.holdsLists, decide (v.greatest ≤ 80), v.depth)) = .ok (true, true, 3) := by
    decide +kernel
  have hportable : Json.isPortable text = true := by decide +kernel
  have harchive : Readers.standard.isArchive (Utf8.encode text) = .ok false := by decide +kernel
  have hr : (Resource.inline (Utf8.encode text) "document").read.on World.empty =
      (.ok (Utf8.encode text), World.empty) := rfl
  have hr' : (Resource.inline data "archive").read.on World.empty = (.ok data, World.empty) := rfl
  clear_value text data
  obtain ⟨root, hparse, hlists⟩ := except_map_ok hparsed
  simp only [Prod.mk.injEq, decide_eq_true_eq] at hlists
  obtain ⟨hlists, hgreatest, hdepth⟩ := hlists
  have hw : root.IsWithin (Yaml.maxLevels - 1) := by
    refine ⟨Nat.lt_of_le_of_lt hgreatest ?_, by rw [hdepth]; decide⟩
    calc 80 < 10 ^ 2 := by decide
      _ ≤ 10 ^ maxDigits := Nat.pow_le_pow_right (by decide) (by decide)
  rcases hroot : root.merged with _ | _ | _ | _ | _ | _ | fields
  all_goals rw [hroot] at hlists
  case obj =>
    have hlists := Bool.and_eq_true_iff.1 hlists
    obtain ⟨options, hoptions, hdocument⟩ :=
      resolve_forms_agree readsJson_standard hparse hw hroot hlists.1 hr harchive hr' hdata
    rw [hlists.2, if_pos rfl] at hdocument
    exact ⟨options, hoptions, hdocument hportable⟩
  all_goals cases hlists

/-- A text that means something else as a document, which has its visible names in it. -/
theorem resolve_forms_differ :
    let text := "\x7b\"visible\": 1\x7d".toList
    let document := resolve (.inline (Utf8.encode text) "text") true
    let archive := resolve (.inline
      (Archive.pack [⟨propertiesMember.toList, Utf8.encode text⟩]) "text") true
    Archive.isArchive (Utf8.encode text) = .ok false ∧
    (archive.on World.empty).1.map List.length = .ok 0 ∧
    (document.on World.empty).1.map List.length =
      .error (.unresolved "text" (some (.notList "visible"))) := by
  intro text document archive
  refine ⟨by decide +kernel, by decide +kernel, by decide +kernel⟩

end Metadata

end AppCatalog
