import AppCatalog.Archive.Packing
import AppCatalog.Proofs.Metadata.Breakdown
import AppCatalog.Proofs.Text.Split

/-!
# The options that are shown

The id of an option is a path of segments with dots between them, and a visible name stands for all
options whose segments begin with its own. `Marks` says which names an artifact has visible, as a
document or as an archive. Whether all options are asked for or only the visible ones, the metadata
are read or fail in the same way, and of all options exactly those are shown that a visible name
stands for, or all if there is no such name (`Metadata.resolve_shows`).
-/

namespace AppCatalog

open AppCatalog.Text

namespace ConfigOption

/-- The segments of an id, which dots separate. -/
def segments (id : Points) : List Points := (splitAll dot id.points).map Points.mk

theorem covers_iff {name id : Points} :
    covers name.points id.points = true ↔ segments name <+: segments id := by
  have hinjective : Function.Injective Points.mk := fun _ _ h => congrArg Points.points h
  rw [segments, segments, List.prefix_map_iff_of_injective hinjective, splitAll_prefix_iff, covers,
    Bool.or_eq_true, beq_iff_eq, Option.isSome_iff_exists]
  refine or_congr Iff.rfl (exists_congr fun rest => ?_)
  rw [dropLead?_eq_some_iff, List.append_assoc, List.singleton_append]

/-- A visible name shows an option whose segments begin with its own. -/
def Shows (names : List Points) (o : ConfigOption) : Prop :=
  ∃ name ∈ names, segments name <+: segments o.id

instance (names : List Points) : DecidablePred (Shows names) := fun o =>
  inferInstanceAs (Decidable (∃ name ∈ names, segments name <+: segments o.id))

theorem isVisible_iff {o : ConfigOption} {names : List Points} :
    o.isVisible names = true ↔ Shows names o := by
  rw [isVisible, List.any_eq_true]
  exact exists_congr fun name => and_congr_right fun _ => covers_iff

/-- An option is named by the last segment of its id. -/
theorem getLast?_segments_of_ofEntries {write : Value → Except Breakdown Points}
    {entries : List (Value × Value)} {o : ConfigOption} (h : ofEntries write entries = .ok o) :
    (segments o.id).getLast? = some o.name := by
  rw [ofEntries] at h
  obtain ⟨id, -, h⟩ := except_bind_ok h
  obtain ⟨type, -, h⟩ := except_bind_ok h
  obtain ⟨description, -, h⟩ := except_bind_ok h
  cases h
  rw [segments, List.getLast?_map, getLast?_splitAll]
  rfl

end ConfigOption

namespace Metadata

open ConfigOption

variable {R : Readers} {description : String} {data : Bytes}

/-! ## Options -/

/-- Every option of an artifact has an id and is named by its last segment. -/
theorem mem_optionsOf {properties : List Value} {all : List ConfigOption}
    (h : optionsOf R properties = .ok all) {o : ConfigOption} (ho : o ∈ all) :
    o.id ≠ "" ∧ (segments o.id).getLast? = some o.name := by
  obtain ⟨os, hos, rfl⟩ := except_map_ok h
  obtain ⟨ho, hid⟩ := List.mem_filter.1 ho
  obtain ⟨entries, -, hentries⟩ := mem_mapM_ok hos ho
  refine ⟨?_, getLast?_segments_of_ofEntries hentries⟩
  intro hempty
  rw [hempty] at hid
  cases hid

theorem options_false (m : Metadata) : m.options false =
    if m.visible = [] then m.allOptions else m.allOptions.filter fun o => Shows m.visible o := by
  rw [options, Bool.false_or]
  rcases hv : m.visible with _ | ⟨name, names⟩
  · rfl
  · rw [if_neg (List.cons_ne_nil name names)]
    refine List.filter_congr fun o _ => ?_
    rw [Bool.eq_iff_iff, isVisible_iff, decide_eq_true_iff]

/-! ## Visible names -/

/-- The names that an artifact has visible: those that its document lists, or those that a member of
its archive lists with commas between them. -/
inductive Marks (R : Readers) (data : Bytes) : List Points → Prop
  | blank {text : List Char} (ha : R.isArchive data = .ok false)
    (ht : Utf8.decode? data = some text) (hd : R.document text = .ok .null) : Marks R data []
  | document {text : List Char} {entries : List (Value × Value)}
    (ha : R.isArchive data = .ok false) (ht : Utf8.decode? data = some text)
    (hd : R.document text = .ok (.map entries))
    (hv : ∀ v, Value.get? "visible" entries = some v → v = .null) : Marks R data []
  | documentNames {text : List Char} {entries : List (Value × Value)} {names : List Value}
    {visible : List Points} (ha : R.isArchive data = .ok false)
    (ht : Utf8.decode? data = some text) (hd : R.document text = .ok (.map entries))
    (hv : Value.get? "visible" entries = some (.list names))
    (hw : names.mapM R.write = .ok visible) : Marks R data visible
  | archive {members : Members} (ha : R.isArchive data = .ok true)
    (hm : R.members data = .ok members) (hv : members visibleMember.toList = .ok none) :
    Marks R data []
  | archiveNames {members : Members} {bytes : Bytes} (ha : R.isArchive data = .ok true)
    (hm : R.members data = .ok members)
    (hv : members visibleMember.toList = .ok (some bytes)) : Marks R data (visibleOf bytes)

theorem marks_of_ofDocument (ha : R.isArchive data = .ok false) {contents : Contents}
    (h : ofDocument R description data = .ok contents) : Marks R data contents.visible := by
  rw [ofDocument] at h
  obtain ⟨v, hv, h⟩ := except_bind_ok h
  obtain ⟨text, ht, hd⟩ := except_bind_ok (mapError_eq_ok hv)
  rw [decode] at ht
  split at ht
  · next text ht' =>
      cases ht
      rw [ofValue.eq_def] at h
      split at h
      · cases h
        exact .blank ha ht' hd
      · next entries =>
          obtain ⟨properties, -, h⟩ := except_bind_ok h
          obtain ⟨names, hnames, h⟩ := except_bind_ok h
          obtain ⟨visible, hw, h⟩ := except_bind_ok h
          have hw := mapError_eq_ok hw
          cases h
          rw [listOf] at hnames
          split at hnames
          · next hv =>
              cases hnames
              cases hw
              exact .document ha ht' hd fun v hv' => by rw [hv] at hv'; cases hv'
          · next hv =>
              cases hnames
              cases hw
              exact .document ha ht' hd fun v hv' => by rw [hv] at hv'; cases hv'; rfl
          · next hv =>
              cases hnames
              exact .documentNames ha ht' hd hv hw
          · cases hnames
      · cases h
  · cases ht

theorem marks_of_ofArchive (ha : R.isArchive data = .ok true) {contents : Contents}
    (h : ofArchive R description data = .ok contents) : Marks R data contents.visible := by
  rw [ofArchive] at h
  obtain ⟨members, hm, h⟩ := except_bind_ok h
  obtain ⟨properties, -, h⟩ := except_bind_ok h
  obtain ⟨member, hv, h⟩ := except_bind_ok h
  have hm := mapError_eq_ok hm
  have hv := mapError_eq_ok hv
  cases h
  cases member with
  | none => exact .archive ha hm hv
  | some bytes => exact .archiveNames ha hm hv

/-- The visible names that are read of an artifact are those that it marks. -/
theorem marks_of_contentsOf {contents : Contents}
    (h : contentsOf R description data = .ok contents) : Marks R data contents.visible := by
  rw [contentsOf] at h
  obtain ⟨isArchive, ha, h⟩ := except_bind_ok h
  have ha := mapError_eq_ok ha
  cases isArchive with
  | true => exact marks_of_ofArchive ha h
  | false => exact marks_of_ofDocument ha h

/-- What is read of an artifact: the names that it marks, and options of the kind that is wanted. -/
theorem ofBytes_ok {m : Metadata} (h : ofBytes description data R = .ok m) :
    Marks R data m.visible ∧
      ∀ o ∈ m.allOptions, o.id ≠ "" ∧ (segments o.id).getLast? = some o.name := by
  rw [ofBytes] at h
  obtain ⟨contents, hc, h⟩ := except_bind_ok h
  obtain ⟨all, hall, h⟩ := except_bind_ok h
  cases h
  exact ⟨marks_of_contentsOf hc, fun o => mem_optionsOf (mapError_eq_ok hall)⟩

/-! ## Resources -/

/-- Asked for all options or for the visible ones, the metadata of a resource fail alike or are both
read. Every option then has an id and is named by its last segment, and of all options those are shown
whose segments begin with the segments of a visible name, or all if no name is visible. -/
theorem resolve_shows (R : Readers) (r : Resource) (w : World) : ∃ w',
    (∃ f, ∀ exhaustive, (resolve r exhaustive R).on w = (.error f, w')) ∨
    ∃ data visible all, r.read.on w = (.ok data, w') ∧ Marks R data visible ∧
      (resolve r true R).on w = (.ok all, w') ∧
      (∀ o ∈ all, o.id ≠ "" ∧ (segments o.id).getLast? = some o.name) ∧
      (resolve r false R).on w =
        (.ok (if visible = [] then all else all.filter fun o => Shows visible o), w') := by
  have hresolve := fun exhaustive => resolve_on r exhaustive R w
  rcases hr : r.read.on w with ⟨f | data, w'⟩ <;> simp only [hr] at hresolve
  · refine ⟨w', Or.inl ?_⟩
    cases f <;> exact ⟨_, hresolve⟩
  · refine ⟨w', ?_⟩
    rcases hb : ofBytes r.description data R with f | m <;> rw [hb] at hresolve
    · exact Or.inl ⟨f, hresolve⟩
    · obtain ⟨hmarks, hall⟩ := ofBytes_ok hb
      refine Or.inr ⟨data, m.visible, m.allOptions, rfl, hmarks, hresolve true, hall, ?_⟩
      rw [← options_false]
      exact hresolve false

/-- A visible name shows the options below it and no other option whose id begins with it, in a
document and in an archive. -/
theorem resolve_shows_http :
    let document := Utf8.encode ("visible: [http]\nproperties: [\x7bid: http\x7d, " ++
      "\x7bid: http.port\x7d, \x7bid: https.port\x7d, \x7bid: httpx\x7d]").toList
    let archive := Archive.pack [
      ⟨propertiesMember.toList, Utf8.encode ("\x7b\"properties\":[\x7b\"id\":\"http.port\"\x7d," ++
        "\x7b\"id\":\"httpx\"\x7d]\x7d").toList⟩,
      ⟨visibleMember.toList, Utf8.encode (visibleKey ++ "=http").toList⟩]
    ∀ sample ∈ [(document, ["http", "http.port", "https.port", "httpx"], ["http", "http.port"]),
        (archive, ["http.port", "httpx"], ["http.port"])],
      let r : Resource := .inline sample.1 "metadata"
      ∃ visible all, Marks .standard sample.1 visible ∧
        (resolve r true).on World.empty = (.ok all, World.empty) ∧
        all.map ConfigOption.id = sample.2.1.map Points.ofString ∧
        (resolve r false).on World.empty = (.ok (all.filter fun o => Shows visible o), World.empty) ∧
        (all.filter fun o => Shows visible o).map ConfigOption.id =
          sample.2.2.map Points.ofString := by
  intro document archive sample hsample r
  have hids : ((resolve r true).on World.empty).1.map (·.map ConfigOption.id) =
        .ok (sample.2.1.map Points.ofString) ∧
      ((resolve r false).on World.empty).1.map (·.map ConfigOption.id) =
        .ok (sample.2.2.map Points.ofString) ∧
      sample.2.1.map Points.ofString ≠ sample.2.2.map Points.ofString := by
    simp only [List.mem_cons, List.not_mem_nil, or_false] at hsample
    rcases hsample with rfl | rfl
    · decide +kernel
    · decide +kernel
  obtain ⟨hall, hshown, hne⟩ := hids
  obtain ⟨w, ⟨f, hf⟩ | ⟨data, visible, all, hr, hmarks, htrue, -, hfalse⟩⟩ :=
    resolve_shows .standard r World.empty
  · rw [hf true] at hall
    cases hall
  · cases hr
    rw [htrue] at hall
    rw [hfalse] at hshown
    have hall := Except.ok.inj hall
    have hshown := Except.ok.inj hshown
    split at hshown
    · exact absurd (hall.symm.trans hshown) hne
    · next hvisible =>
        rw [if_neg hvisible] at hfalse
        exact ⟨visible, all, hmarks, htrue, hall, hfalse, hshown⟩

end Metadata

end AppCatalog
