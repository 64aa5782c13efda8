import AppCatalog.Catalog
import AppCatalog.Proofs.Properties.RoundTrip
import AppCatalog.Proofs.Store.Refinement

/-!
# Importing by URI and by text

A listing can be imported from a file that a URI names, or given as a text. The text is read,
written and read again on its way into the store; the file is read once. `registerAll_on` says what
an import does with what its resource asks for, so that the two ways differ only in that. They end
alike for every store exactly if writing and reading again loses nothing, or the listing is refused
either way for the same reason (`registerAll_alike_iff`). That something is lost shows in an empty
store, where an import leaves the names that it registers.
-/

namespace AppCatalog

open AppCatalog.Registration

namespace Catalog

/-- A URI of the scheme `file` that names a file which holds a text in Latin-1. -/
structure HoldsText (c : Catalog) (uri : String) (text : List Char) : Prop where
  accepted : Uri.fault? uri.toList = none
  holds : ∃ parts bytes, Uri.split? uri.toList = some parts ∧ String.ofList parts.scheme = "file" ∧
    (Locator.filePath parts).hasNul = false ∧
    c.world.disk.read (Locator.filePath parts) = .ok bytes ∧ Latin1.encode? text = some bytes

/-- The outcome and the catalog after an import of what a resource asks for. -/
def imported (request : PageRequest) (force : Bool) (description : String)
    (asked : Except Failure (List Registration)) (c : Catalog) : Except Failure Page × Catalog :=
  match asked with
  | .error f => (.error f, c)
  | .ok rs =>
    match (Store.importRegistrations force rs).on (c.store, c.world) with
    | (.error f, (s, w)) => (.error f, { c with store := s, world := w })
    | (.ok saved, (s, w)) =>
      (s.count.map fun n : Nat => ⟨sort saved, request, n⟩,
        { c with
          store := s
          world := { w with log := w.log ++ [⟨.info, "Imported " ++ toString saved.length ++
            " registrations from " ++ description⟩] }
          waiting := c.waiting ++ Prefetch.wanted (sort saved) })

section Run

variable {c : Catalog} {resource : Resource}

theorem inStore_on {α : Type} (m : Store.Action α) (c : Catalog) :
    (inStore m).on c = ((m.on (c.store, c.world)).1,
      { c with store := (m.on (c.store, c.world)).2.1, world := (m.on (c.store, c.world)).2.2 }) :=
  rfl

theorem importPage_on (request : PageRequest) (saved : List Registration) (c : Catalog) :
    (importPage request saved).on c = (c.store.count.map fun n => ⟨saved, request, n⟩, c) := by
  rw [importPage, Run.on_bind, inStore_on, Store.ask_on]
  cases c.store.count <;> rfl

theorem list_on (request : PageRequest) (query : Query) (c : Catalog) :
    (list request query).on c = (c.store.all.map (query.page request), c) := by
  have hpage : (if query.isEmpty then Store.ask fun s => s.page request else do
      let rs ← Store.ask Store.all
      pure (query.page request rs) : Store.Action Page).on (c.store, c.world) =
        (c.store.all.map (query.page request), (c.store, c.world)) := by
    split
    · next hq =>
        have hcut : query.page request = fun rs => .cut rs request :=
          funext fun rs => if_pos hq
        rw [Store.ask_on, hcut]
        rfl
    · rw [Run.on_bind, Store.ask_on]
      cases c.store.all <;> rfl
  rw [list, inStore_on, hpage]

/-- Finding the source of an import touches nothing but the world. -/
theorem importSource_keeps (uri : Option String) (inline : Inline) (c : Catalog) :
    ∃ w, ((importSource uri inline).on c).2 = { c with world := w } := by
  rw [importSource]
  rcases uri.filter (· != "") with _ | uri
  · refine ⟨c.world, ?_⟩
    simp only
    split <;> rfl
  · cases hi : inline.listing.isEmpty with
    | false => exact ⟨c.world, rfl⟩
    | true =>
        simp only [Bool.not_true, Bool.false_eq_true, if_false]
        rw [Run.on_bind, Run.on_ofExcept]
        rcases checkUri uri with f | u
        · exact ⟨c.world, rfl⟩
        · simp only
          rw [Run.on_bind_ok (Run.on_get c)]
          exact ⟨_, rfl⟩

/-- What an import does depends on the listing that is given in line, not on how it is given. -/
theorem registerAll_eq_of_listing {inline inline' : Inline} (h : inline.listing = inline'.listing)
    (request : PageRequest) (uri : Option String) (force : Bool) :
    registerAll request uri inline force = registerAll request uri inline' force := by
  simp only [registerAll, importFrom, importSource, h]

/-- An import does with what its resource asks for what `imported` says. -/
theorem registerAll_on {uri : Option String} {inline : Inline} {c' : Catalog} {w : World}
    {asked : Except Failure (List Registration)} (request : PageRequest) (force : Bool)
    (hs : (importSource uri inline).on c = (.ok resource, c'))
    (ha : (Store.asked resource).on c'.world = (asked, w)) :
    (registerAll request uri inline force).on c =
      imported request force resource.description asked { c' with world := w } := by
  have hfrom : (importFrom uri inline force).on c =
      (inStore (Store.importAll force resource) >>= fun saved => do
        prefetch (sort saved)
        pure (sort saved)).on c' := by
    rw [importFrom]
    exact Run.on_bind_ok hs
  rw [registerAll, Run.on_bind, hfrom, Run.on_bind, inStore_on]
  rcases asked with f | rs
  · rw [Store.importAll_on_refused (c'.store, c'.world) ha]
    rfl
  · rw [Store.importAll_on_asked (c'.store, c'.world) ha, imported]
    simp only
    rcases hi : (Store.importRegistrations force rs).on (c'.store, w) with ⟨f | saved, s, v⟩
    · rw [Run.on_bind_error hi]
    · rw [Run.on_bind_ok hi]
      exact importPage_on request (sort saved) _

/-- The resource of a file URI is read once, and so is the text that the file holds. -/
theorem importSource_uri_on {uri : String} {text : List Char} (h : c.HoldsText uri text) :
    ∃ resource, (importSource (some uri) .none).on c = (.ok resource, c) ∧
      (Store.asked resource).on c.world = (ImportPlan.ofListing (.parse text), c.world) := by
  obtain ⟨haccepted, parts, bytes, hparts, hscheme, hnul, hread, hbytes⟩ := h
  have hne : (uri != "") = true := by
    rw [bne_iff_ne]
    rintro rfl
    cases haccepted
  have hlocate : c.loader.locator.locate uri = .ok (.ofPath (Locator.filePath parts) uri) := by
    rw [Locator.locate, hparts]
    simp only [hscheme, if_true]
  refine ⟨.ofPath (Locator.filePath parts) uri, ?_, ?_⟩
  · have hload : (c.loader.resource uri).on c.world =
        (.ok (.ofPath (Locator.filePath parts) uri), c.world) := by
      have hlead : c.loader.lead uri = .ok (.atHand (.ofPath (Locator.filePath parts) uri)) := by
        rw [Loader.lead, hlocate]
        rfl
      rw [Loader.resource, hlead]
      rfl
    have hcheck : checkUri uri = .ok () := by
      rw [checkUri, haccepted]
    rw [importSource, Option.filter_some, if_pos hne]
    simp only [Inline.listing, List.isEmpty_nil, Bool.not_true, Bool.false_eq_true, if_false,
      hcheck]
    have hin : (inWorld (c.loader.resource uri)).on c =
        (.ok (.ofPath (Locator.filePath parts) uri), c) := by
      rw [inWorld, Run.on_within, hload]
    exact hin
  · have hfile : (Resource.ofPath (Locator.filePath parts) uri).read.on c.world =
        (.ok bytes, c.world) := by
      rw [Resource.ofPath, Resource.read, Resource.readFile_on, hnul, hread]
      rfl
    rw [Store.asked_on, hfile, ← Latin1.decode_of_encode? hbytes]

theorem importSource_text_on {text : String} (h : Listing.parse text.toList ≠ []) :
    ∃ resource, (importSource none (.text text)).on c = (.ok resource, c) ∧
      (Store.asked resource).on c.world =
        (ImportPlan.ofListing (.parse (Listing.parse text.toList).format), c.world) := by
  obtain ⟨bytes, hbytes⟩ := Latin1.exists_encode?
    (Properties.written_format (Listing.parse text.toList)).toNat_le
  refine ⟨.inline bytes inlineDescription, ?_, ?_⟩
  · have hi : (Listing.parse text.toList).isEmpty = false := by
      rw [List.isEmpty_eq_false_iff]
      exact h
    rw [importSource]
    simp only [Inline.listing, Option.filter_none, hi, Bool.false_eq_true, if_false, hbytes,
      Option.getD_some]
    rfl
  · rw [Store.asked_on]
    change (ImportPlan.ofListing (.parse (Latin1.decode bytes)), c.world) = _
    rw [Latin1.decode_of_encode? hbytes]

end Run

/-! ## Ending alike -/

/-- Two ends of an import into the same catalog are alike: the same page, store and disk, or the
same failure. A failure that is no fault of the disk leaves the store and the disk as they were. -/
structure EndAlike (c : Catalog) (p q : Except Failure Page × Catalog) : Prop where
  outcome : p.1 = q.1
  store : p.2.store = q.2.store
  disk : p.2.world.disk = q.2.world.disk
  waiting : p.2.waiting = q.2.waiting
  unchanged : ∀ f, p.1 = .error f → f.isOsFault = false →
    p.2.store = c.store ∧ p.2.world.disk = c.world.disk

theorem endAlike_imported (request : PageRequest) (force : Bool) (description description' : String)
    (asked : Except Failure (List Registration)) (c : Catalog) :
    EndAlike c (imported request force description asked c)
      (imported request force description' asked c) := by
  rcases asked with f | rs
  · exact ⟨rfl, rfl, rfl, rfl, fun _ _ _ => ⟨rfl, rfl⟩⟩
  · have hkept := Store.importRegistrations_cases_any force rs (c.store, c.world)
    rw [imported, imported]
    generalize (Store.importRegistrations force rs).on (c.store, c.world) = result at hkept
    obtain ⟨f | saved, s, w⟩ := result
    · refine ⟨rfl, rfl, rfl, rfl, ?_⟩
      intro g hg hos
      cases hg
      rcases hkept with ⟨m, -, hfault⟩ | hsame
      · rw [hfault f rfl] at hos
        cases hos
      · exact hsame
    · refine ⟨rfl, rfl, rfl, rfl, ?_⟩
      intro g hg hos
      rcases hkept with ⟨m, hm, -⟩ | hsame
      · change s.index = .entries m at hm
        simp only [Store.count, hm, Index.count] at hg
        cases hg
      · exact hsame

/-! ## Readable names -/

theorem not_blank_of_fault?_eq_none {cs : List Char} (h : Uri.fault? cs = none) :
    ∀ c ∈ cs, Text.isBlank c = false := by
  rw [Uri.fault?] at h
  split at h
  · cases h
  · split at h
    · cases h
    · next hi =>
        intro c hc
        rw [← Bool.not_eq_true]
        intro hb
        apply hi
        rw [List.any_eq_true]
        refine ⟨c, hc, ?_⟩
        simp only [Uri.isIllegal, hb, Bool.true_or]

open AppCatalog.Properties in
/-- An accepted listing is readable exactly if the names that it registers are. -/
theorem isReadable_iff_names {l : Listing} {rs : List Registration}
    (h : ImportPlan.ofListing l = .ok rs) :
    l.IsReadable ↔ ∀ r ∈ rs, ∀ c ∈ r.name.toList, c ∉ bareLineEnds ∧ c ∉ bareBlanks := by
  obtain ⟨hl, -⟩ := ImportPlan.ofListing_eq_ok_iff.1 h
  constructor
  · intro hreadable r hr c hc
    obtain ⟨e, he, hn⟩ := (ImportPlan.mem_map_key_iff h).1 (List.mem_map_of_mem hr)
    have hmem : c ∈ e.1 := by
      rw [hn.shape.eq]
      exact List.mem_append_right _ (List.mem_cons_of_mem _ (List.mem_append_left _ hc))
    exact ⟨(hreadable e he).lineEnds c (List.mem_append_left _ hmem),
      (hreadable e he).blanks c hmem⟩
  · intro hnames e he
    obtain ⟨⟨k, isMetadata, hn⟩, hu⟩ := hl.sound e he
    have hk : k ∈ rs.map key := by
      rw [ImportPlan.mem_map_key_iff h]
      cases isMetadata with
      | false => exact ⟨e, he, hn⟩
      | true => exact hl.metadata e he k hn
    obtain ⟨r, hr, rfl⟩ := List.mem_map.1 hk
    have hvalue := not_blank_of_fault?_eq_none hu
    have hkey : ∀ c ∈ e.1, c ∉ bareLineEnds ∧ c ∉ bareBlanks := by
      have hbare : ∀ cs : List Char, cs.any Text.isBlank = false →
          ∀ c ∈ cs, c ∉ bareLineEnds ∧ c ∉ bareBlanks := by
        intro cs hcs c hc
        have hb : Text.isBlank c = false := Bool.eq_false_iff.2 (List.any_eq_false.1 hcs c hc)
        exact ⟨notMem_bareLineEnds_of_not_blank hb, notMem_bareBlanks hb⟩
      intro c hc
      rw [hn.shape.eq] at hc
      rcases List.mem_append.1 hc with hc | hc
      · exact hbare _ (by cases r.key.1 <;> rfl) c hc
      · rcases List.mem_cons.1 hc with rfl | hc
        · exact hbare ['.'] rfl '.' List.mem_cons_self
        · rcases List.mem_append.1 hc with hc | hc
          · exact hnames r hr c hc
          · cases isMetadata with
            | false => cases hc
            | true => exact hbare ('.' :: ImportPlan.metadataWord) rfl c hc
    refine ⟨?_, fun c hc => (hkey c hc).2, ?_⟩
    · intro c hc
      rcases List.mem_append.1 hc with hc | hc
      · exact (hkey c hc).1
      · exact notMem_bareLineEnds_of_not_blank (hvalue c hc)
    · intro c hc
      exact notMem_bareBlanks (hvalue c (List.mem_of_head? hc))

/-! ## The two ways to import a text -/

theorem imported_store (request : PageRequest) (force : Bool) (description : String)
    (rs : List Registration) (c : Catalog) :
    (imported request force description (.ok rs) c).2.store =
      ((Store.importRegistrations force rs).on (c.store, c.world)).2.1 := by
  rw [imported]
  rcases (Store.importRegistrations force rs).on (c.store, c.world) with ⟨f | saved, s, w⟩ <;> rfl

/-- Into an empty store, an import puts exactly what is asked for, whether or not it is written. -/
theorem imported_store_of_empty {request : PageRequest} {description : String}
    {rs : List Registration} {c : Catalog} {file : Path} (hc : c.store = Store.ofEntries file []) :
    (imported request true description (.ok rs) c).2.store =
      Store.ofEntries file (Entries.putAll true rs []).2 := by
  rw [imported_store, hc]
  exact Store.importRegistrations_on_store file [] c.world true rs

theorem imported_not_refused {request : PageRequest} {description : String}
    {rs : List Registration} {c : Catalog} {file : Path} {f : Failure}
    (hc : c.store = Store.ofEntries file [])
    (h : (imported request true description (.ok rs) c).1 = .error f) : f.isOsFault = true := by
  rw [imported, hc] at h
  rcases Store.importRegistrations_cases file [] c.world true rs with ⟨w, hi, -⟩ | ⟨g, p, -, hi⟩
  · have hcount : (Store.ofEntries file (Entries.putAll true rs []).2).count =
        .ok (Entries.putAll true rs []).2.length := Index.count_ofEntries _
    rw [hi] at h
    simp only [hcount] at h
    cases h
  · rw [hi] at h
    cases h
    rfl

/-- From an empty store, imports of a listing and of what is read of it when it has been written end
alike only if the listing is readable, or both are refused for the same reason. -/
theorem isReadable_or_refused {request : PageRequest} {description description' : String}
    {l : Listing} {c : Catalog} {file : Path} (hc : c.store = Store.ofEntries file [])
    (h : EndAlike c (imported request true description (ImportPlan.ofListing (.parse l.format)) c)
      (imported request true description' (ImportPlan.ofListing l) c)) :
    l.IsReadable ∨ ∃ f, ImportPlan.ofListing l = .error f ∧
      ImportPlan.ofListing (.parse l.format) = .error f := by
  have hread := Listing.isReadable_parse_of_written (Properties.written_format l)
  rcases hl : ImportPlan.ofListing l with f | rs
  · rcases hl' : ImportPlan.ofListing (.parse l.format) with g | rs'
    · rw [hl, hl'] at h
      have hfg : g = f := Except.error.inj h.outcome
      exact Or.inr ⟨f, rfl, by rw [hfg]⟩
    · rw [hl, hl'] at h
      have hos := imported_not_refused hc h.outcome
      rw [ImportPlan.ofListing_not_osFault hl] at hos
      cases hos
  · refine Or.inl ((isReadable_iff_names hl).2 ?_)
    intro r hr
    have hstore := h.store
    rw [hl, imported_store_of_empty hc] at hstore
    have hmem : r.key ∈ Assoc.keys (Entries.putAll true rs []).2 :=
      Entries.mem_keys_putAll_true.2 (Or.inr (List.mem_map_of_mem hr))
    rcases hl' : ImportPlan.ofListing (.parse l.format) with g | rs'
    · rw [hl'] at hstore
      have hkeys := Index.keys_of_ofEntries_eq [] (congrArg Store.index (hc.symm.trans hstore))
      exact absurd ((hkeys r.key).2 hmem) List.not_mem_nil
    · rw [hl', imported_store_of_empty hc] at hstore
      have hkeys := Index.keys_of_ofEntries_eq _ (congrArg Store.index hstore)
      have hmem' := Entries.mem_keys_putAll_true.1 ((hkeys r.key).2 hmem)
      obtain ⟨r', hr', hk⟩ := List.mem_map.1 (hmem'.resolve_left List.not_mem_nil)
      have hname : r'.name = r.name := congrArg Prod.snd hk
      rw [← hname]
      exact (isReadable_iff_names hl').1 hread r' hr'

/-- An import of a text does what an import of its listing does if that is read back as it is
written, and else only if both are refused for the same reason. -/
theorem endAlike_text_iff (c : Catalog) {text : String} (hne : Listing.parse text.toList ≠ [])
    (request : PageRequest) :
    (∀ (s : Store) (force : Bool), EndAlike { c with store := s }
      ((registerAll request none (.text text) force).on { c with store := s })
      (imported request force inlineDescription (ImportPlan.ofListing (.parse text.toList))
        { c with store := s })) ↔
    (Listing.parse text.toList).IsReadable ∨
      ∃ f, ImportPlan.ofListing (.parse text.toList) = .error f ∧
        ImportPlan.ofListing (.parse (Listing.parse text.toList).format) = .error f := by
  have hrun : ∀ (s : Store) (force : Bool), ∃ description,
      (registerAll request none (.text text) force).on { c with store := s } =
        imported request force description
          (ImportPlan.ofListing (.parse (Listing.parse text.toList).format))
          { c with store := s } := by
    intro s force
    obtain ⟨resource, hs, ha⟩ := importSource_text_on (c := { c with store := s }) hne
    exact ⟨_, registerAll_on request force hs ha⟩
  constructor
  · intro hall
    obtain ⟨description, hend⟩ := hrun (Store.ofEntries c.store.file []) true
    exact isReadable_or_refused rfl (hend ▸ hall (Store.ofEntries c.store.file []) true)
  · intro hcase s force
    have hsame : ImportPlan.ofListing (.parse (Listing.parse text.toList).format) =
        ImportPlan.ofListing (.parse text.toList) := by
      rcases hcase with hr | ⟨f, hf, hf'⟩
      · rw [Listing.parse_format_of_isReadable (Listing.nodup_keys_parse _) hr]
      · rw [hf, hf']
    obtain ⟨description, hend⟩ := hrun s force
    rw [hend, hsame]
    exact endAlike_imported request force _ _ _ _

/-- Importing a text and importing a file that holds it end alike, whatever the store and whether or
not it is forced, exactly if what the text is read as is readable or the import is refused either
way for the same reason. -/
theorem registerAll_alike_iff {c : Catalog} {uri text : String} (h : c.HoldsText uri text.toList)
    (hne : Listing.parse text.toList ≠ []) (request : PageRequest) :
    (∀ (s : Store) (force : Bool), EndAlike { c with store := s }
      ((registerAll request none (.text text) force).on { c with store := s })
      ((registerAll request (some uri) .none force).on { c with store := s })) ↔
    (Listing.parse text.toList).IsReadable ∨
      ∃ f, ImportPlan.ofListing (.parse text.toList) = .error f ∧
        ImportPlan.ofListing (.parse (Listing.parse text.toList).format) = .error f := by
  have hruns : ∀ (s : Store) (force : Bool), ∃ description description',
      (registerAll request none (.text text) force).on { c with store := s } =
        imported request force description
          (ImportPlan.ofListing (.parse (Listing.parse text.toList).format)) { c with store := s } ∧
      (registerAll request (some uri) .none force).on { c with store := s } =
        imported request force description' (ImportPlan.ofListing (.parse text.toList))
          { c with store := s } := by
    intro s force
    obtain ⟨resource, hs, ha⟩ := importSource_text_on (c := { c with store := s }) hne
    obtain ⟨resource', hs', ha'⟩ :=
      importSource_uri_on (c := { c with store := s }) ⟨h.accepted, h.holds⟩
    exact ⟨_, _, registerAll_on request force hs ha, registerAll_on request force hs' ha'⟩
  constructor
  · intro hall
    obtain ⟨description, description', ht, hu⟩ := hruns (Store.ofEntries c.store.file []) true
    have hend := hall (Store.ofEntries c.store.file []) true
    rw [ht, hu] at hend
    exact isReadable_or_refused rfl hend
  · intro hcase s force
    have hsame : ImportPlan.ofListing (.parse (Listing.parse text.toList).format) =
        ImportPlan.ofListing (.parse text.toList) := by
      rcases hcase with hr | ⟨f, hf, hf'⟩
      · rw [Listing.parse_format_of_isReadable (Listing.nodup_keys_parse _) hr]
      · rw [hf, hf']
    obtain ⟨description, description', ht, hu⟩ := hruns s force
    rw [ht, hu, hsame]
    exact endAlike_imported request force _ _ _ _

/-- A catalog with an empty store, in a world with one file. -/
def besideFile (name : List Char) (bytes : Bytes) : Catalog :=
  ⟨⟨⟨.relative, ["registry".toList, Store.fileName.toList]⟩, .empty⟩, ⟨.standard, none⟩,
    { World.empty with disk := ⟨[(FileTree.rootKey ++ [name], bytes)], [], [], none⟩ }, []⟩

/-- An escaped vertical tab in a value is refused when it is read from a file, and cuts the line in
two when it is given as a text. -/
theorem registerAll_escaped_line_end :
    let text := "app.x=http://a\\u000bapp.y=http://c"
    let c := besideFile ['t'] (text.toList.map fun ch => UInt8.ofNat ch.toNat)
    c.HoldsText "file:///t" text.toList ∧ Listing.parse text.toList ≠ [] ∧
    ¬ ∀ (s : Store) (force : Bool), EndAlike { c with store := s }
      ((registerAll .standard none (.text text) force).on { c with store := s })
      ((registerAll .standard (some "file:///t") .none force).on { c with store := s }) := by
  have hpath : Locator.filePath ⟨"file".toList, [], "/t".toList, [], []⟩ = ⟨.root, [['t']]⟩ := by
    have hdecode : Percent.decode "/t".toList = "/t".toList := by
      simp [Percent.decode, Percent.decodeRuns, Percent.isAscii, Percent.bytes, Utf8.encodeChar,
        Utf8.decodeReplacing, Utf8.nextChar]
    rw [Locator.filePath, hdecode]
    rfl
  have hparse : Listing.parse "app.x=http://a\\u000bapp.y=http://c".toList =
      [("app.x".toList, "http://a\x0bapp.y=http://c".toList)] := by rfl
  have hok : ImportPlan.ofListing (.parse (Listing.format
      [("app.x".toList, "http://a\x0bapp.y=http://c".toList)])) =
        .ok [⟨.app, "x", "http://a", none⟩, ⟨.app, "y", "http://c", none⟩] := by rfl
  have hlatin : Latin1.encode? "app.x=http://a\\u000bapp.y=http://c".toList =
      some ("app.x=http://a\\u000bapp.y=http://c".toList.map fun ch => UInt8.ofNat ch.toNat) := by
    rfl
  intro text c
  have hholds : c.HoldsText "file:///t" text.toList := by
    refine ⟨by decide, ⟨"file".toList, [], "/t".toList, [], []⟩, _, rfl, rfl, ?_, ?_, hlatin⟩
    · rw [hpath]
      rfl
    · rw [hpath]
      rfl
  have hne : Listing.parse text.toList ≠ [] := by
    rw [hparse]
    exact List.cons_ne_nil _ _
  refine ⟨hholds, hne, ?_⟩
  rw [registerAll_alike_iff hholds hne .standard, hparse]
  rintro (hr | ⟨f, -, hf⟩)
  · exact (hr _ List.mem_cons_self).lineEnds '\x0b' (by decide) (by decide)
  · rw [hok] at hf
    cases hf

end Catalog

end AppCatalog
