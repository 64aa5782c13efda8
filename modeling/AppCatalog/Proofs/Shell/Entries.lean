import AppCatalog.Proofs.Catalog.Import
import AppCatalog.Proofs.Properties.Glue
import AppCatalog.Shell.Run

/-!
# Entries on the command line

An import takes its listing from a URI or from entries that are given as options. The entries are
put on lines of their own and read as one text, written, and read again on the way into the store.
So they are imported as the merged listings of the glued entries (`importAll_entries`): an
entry that ends in an odd number of backslashes, and is no comment, swallows the next. As long as
none but the last hangs, they are merged as they stand.
-/

namespace AppCatalog.Shell

open AppCatalog.Catalog AppCatalog.Properties AppCatalog.Text

/-! ## Reading the command -/

/-- The words that ask for an import of entries. -/
def importWords (entries : List String) (force : Bool) : List String :=
  "import" :: (if force then ["--force"] else []) ++ entries.flatMap fun e => ["-a", e]

/-- What they are read as. -/
def importReading (entries : List String) (force : Bool) : Reading Key :=
  ⟨(if force then [(.force, none)] else []) ++ entries.map fun e => (.entry, some e), []⟩

/-- Whatever an entry looks like, it is the value of the option in front of it. -/
theorem read_entries (entries : List String) :
    Verb.importAll.grammar.read (entries.flatMap fun e => ["-a", e]) =
      .ok (importReading entries false) := by
  induction entries with
  | nil => rfl
  | cons e entries ih =>
      have hoption : Verb.importAll.grammar.cluster "-a".toList = .ok ⟨[], some .entry⟩ := by rfl
      have hgives : Grammar.givesOptions "-a".toList = true := by rfl
      rw [List.flatMap_cons, List.cons_append, Grammar.read, if_neg (by decide), if_pos hgives,
        hoption, List.singleton_append]
      simp only [ih]
      rfl

theorem read_options (entries : List String) (force : Bool) :
    Verb.importAll.grammar.read
      ((if force then ["--force"] else []) ++ entries.flatMap fun e => ["-a", e]) =
        .ok (importReading entries force) := by
  cases force with
  | false => exact read_entries entries
  | true =>
      have hoption : Verb.importAll.grammar.cluster "--force".toList =
          .ok ⟨[(.force, none)], none⟩ := by rfl
      have hgives : Grammar.givesOptions "--force".toList = true := by rfl
      rw [if_pos rfl, List.singleton_append, Grammar.read, if_neg (by decide), if_pos hgives,
        hoption, read_entries]
      rfl

section importReading

variable {entries : List String} {force : Bool}

theorem mem_importReading {p : Key × Option String} (h : p ∈ (importReading entries force).given) :
    p.1 = .force ∨ p.1 = .entry := by
  rcases List.mem_append.1 h with h | h
  · split at h
    · exact Or.inl (by rw [List.mem_singleton.1 h])
    · cases h
  · obtain ⟨e, -, rfl⟩ := List.mem_map.1 h
    exact Or.inr rfl

theorem asked?_importReading (usage : String) :
    (asked? usage (importReading entries force) : Option (Asked Command)) = none := by
  rw [asked?, List.find?_eq_none.2, Option.map_none]
  intro p hp
  rcases mem_importReading hp with h | h <;> rw [h] <;> decide

theorem values_uri_importReading : (importReading entries force).values .uri = [] := by
  rw [Reading.values, List.filter_eq_nil_iff.2, List.filterMap_nil]
  intro p hp
  rcases mem_importReading hp with h | h <;> rw [h] <;> decide

theorem values_entry_importReading : (importReading entries force).values .entry = entries := by
  have hforce : (if force then [((.force : Key), (none : Option String))] else []).filter
      (·.1 == .entry) = [] := by
    cases force <;> rfl
  have hentries : (entries.map fun e => ((.entry : Key), some e)).filter (·.1 == .entry) =
      entries.map fun e => (.entry, some e) := by
    refine List.filter_eq_self.2 fun p hp => ?_
    obtain ⟨e, -, rfl⟩ := List.mem_map.1 hp
    rfl
  rw [Reading.values, importReading, List.filter_append, hforce, hentries, List.nil_append,
    List.filterMap_map]
  exact List.filterMap_some

theorem has_force_importReading : (importReading entries force).has .force = force := by
  have hentries : (entries.map fun e => ((.entry : Key), some e)).any (·.1 == .force) = false := by
    refine List.any_eq_false.2 fun p hp => ?_
    obtain ⟨e, -, rfl⟩ := List.mem_map.1 hp
    exact Bool.false_ne_true
  rw [Reading.has, importReading, List.any_append, hentries]
  cases force <;> rfl

end importReading

theorem read_importWords (entries : List String) (force : Bool) :
    Command.read (importWords entries force) = .ok (.call (.importAll none entries force)) := by
  have hgroup : readGroup Command.usage [helpSwitch] (Verb.all.map fun v => (v.word, v))
      (importWords entries force) = .ok (.call (⟨[], importWords entries force⟩, .importAll,
        (if force then ["--force"] else []) ++ entries.flatMap fun e => ["-a", e])) := by rfl
  have hcommand : Command.ofReading .importAll (importReading entries force) =
      .ok (.importAll none entries force) := by
    change Except.ok (Command.importAll ((importReading entries force).values .uri).getLast?
      ((importReading entries force).values .entry) ((importReading entries force).has .force)) = _
    rw [values_uri_importReading, values_entry_importReading, has_force_importReading]
    rfl
  rw [Command.read, hgroup]
  simp only [bind, Except.bind, read_options, asked?_importReading, hcommand]
  rfl

/-- Once the settings can be read, a command line that asks for an import of entries does so. -/
theorem run_importWords (entries : List String) (force : Bool) {homes : Homes}
    {env : Assoc String String} {s : Settings} (hs : Settings.read homes env = .ok s) (w : World) :
    run homes env ("apps" :: importWords entries force) w =
      (Command.importAll none entries force).run s w := by
  have hread : Invocation.read ("apps" :: importWords entries force) =
      .ok (.call ⟨none, importWords entries force⟩) := by rfl
  rw [run, hread]
  simp only [hs, read_importWords]
  rfl

/-! ## What is imported -/

/-- The entries, put into one text, are read as the merged listings of the glued entries. -/
theorem listing_inlineOf {entries : List String}
    (h : ∀ e ∈ entries, ∀ c ∈ e.toList, isLineEnd c = false) :
    (inlineOf entries).listing = Listing.merged (glue (entries.map String.toList)) := by
  rw [inlineOf]
  split
  · next hnil =>
      rw [hnil]
      rfl
  · have hends : ∀ e ∈ entries.map String.toList, ∀ c ∈ e, isLineEnd c = false :=
      List.forall_mem_map.2 h
    rw [← Listing.parse_intercalate hends, Inline.listing, String.toList_intercalate]
    rfl

/-- An entry is imported as it stands, whatever comes next, exactly if it does not hang. -/
theorem listing_inlineOf_pair_iff {e : String} (he : ∀ c ∈ e.toList, isLineEnd c = false) :
    (∀ next : String, (∀ c ∈ next.toList, isLineEnd c = false) →
        (inlineOf [e, next]).listing = Listing.merged [e.toList, next.toList]) ↔
      ¬ Hangs e.toList := by
  rw [← Listing.merged_pair_iff_not_hangs he]
  have hpair : ∀ next : String, (inlineOf [e, next]).listing =
      Listing.parse (List.intercalate ['\n'] [e.toList, next.toList]) := by
    intro next
    rw [inlineOf, if_neg (List.cons_ne_nil e [next]), Inline.listing, String.toList_intercalate]
    rfl
  constructor
  · intro hall next hnext
    have hof : (String.ofList next).toList = next := String.toList_ofList
    have hone := hall (String.ofList next) (by rw [hof]; exact hnext)
    rwa [hpair, hof] at hone
  · intro hall next hnext
    rw [hpair]
    exact hall next.toList hnext

/-- An import of entries that hold something ends like the import of what they hold exactly if that
is read back as it is written, or is refused either way. -/
theorem endAlike_inlineOf_iff {entries : List String} (c : Catalog) (request : PageRequest)
    (hheld : (inlineOf entries).listing ≠ []) :
    (∀ (s : Store) (force : Bool), EndAlike { c with store := s }
        ((registerAll request none (inlineOf entries) force).on { c with store := s })
        (imported request force inlineDescription (ImportPlan.ofListing (inlineOf entries).listing)
          { c with store := s })) ↔
      (inlineOf entries).listing.IsReadable ∨
        ∃ f, ImportPlan.ofListing (inlineOf entries).listing = .error f ∧
          ImportPlan.ofListing (.parse (inlineOf entries).listing.format) = .error f := by
  rw [inlineOf] at hheld ⊢
  split at hheld
  · exact absurd rfl hheld
  · next hne =>
      rw [if_neg hne]
      exact endAlike_text_iff c hheld request

/-- What an import of entries given as options does, none of them with a line end and one at least
with something in it. It is the import of the merged listings of the glued entries. That ends like
the import of what they hold, from every store and forced or not, exactly if the listing is read
back as it is written or refused either way for the same reason. Entries of which none but the last
hangs are imported as they stand, and an entry stands for itself whatever comes next exactly if it
does not hang. -/
theorem importAll_entries {entries : List String}
    (hends : ∀ e ∈ entries, ∀ c ∈ e.toList, isLineEnd c = false)
    (hsome : ∃ e ∈ entries, Listing.parse e.toList ≠ []) :
    let listing := Listing.merged (glue (entries.map String.toList))
    (∀ force,
      (∀ homes env s w, Settings.read homes env = .ok s →
        run homes env ("apps" :: importWords entries force) w =
          (Command.importAll none entries force).run s w) ∧
      (Command.importAll none entries force).blocks =
        importBlocks <$> registerAll .standard none (.map listing) force) ∧
    (∀ c : Catalog, (∀ (s : Store) (force : Bool), EndAlike { c with store := s }
        ((registerAll .standard none (inlineOf entries) force).on { c with store := s })
        (imported .standard force inlineDescription (ImportPlan.ofListing listing)
          { c with store := s })) ↔
      listing.IsReadable ∨ ∃ f, ImportPlan.ofListing listing = .error f ∧
        ImportPlan.ofListing (.parse listing.format) = .error f) ∧
    ((∀ e ∈ entries.dropLast, ¬ Hangs e.toList) →
      listing = Listing.merged (entries.map String.toList)) ∧
    ∀ e ∈ entries, (∀ next : String, (∀ c ∈ next.toList, isLineEnd c = false) →
        (inlineOf [e, next]).listing = Listing.merged [e.toList, next.toList]) ↔
      ¬ Hangs e.toList := by
  intro listing
  have hlisting : (inlineOf entries).listing = listing := listing_inlineOf hends
  refine ⟨fun force => ⟨fun _ _ _ w hs => run_importWords entries force hs w, ?_⟩, ?_, ?_, ?_⟩
  · have hmap : (inlineOf entries).listing = (Inline.map listing).listing := hlisting
    rw [Command.blocks, registerAll_eq_of_listing hmap]
  · have hheld : listing ≠ [] := by
      obtain ⟨e, he, hp⟩ := hsome
      exact Listing.merged_glue_ne_nil (List.forall_mem_map.2 hends)
        ⟨e.toList, List.mem_map_of_mem he, hp⟩
    intro c
    rw [← hlisting] at hheld ⊢
    exact endAlike_inlineOf_iff c .standard hheld
  · intro hhangs
    have hglue : glue (entries.map String.toList) = entries.map String.toList := by
      refine glue_eq_self ?_
      rw [← List.map_dropLast]
      exact List.forall_mem_map.2 hhangs
    exact congrArg Listing.merged hglue
  · exact fun e he => listing_inlineOf_pair_iff (hends e he)

/-- Of two entries the first ends in a backslash, and the second becomes part of its URI. -/
theorem importAll_entries_backslash :
    let entries := ["app.a=http://h/a\\", "app.b=http://h/b"]
    ((∀ e ∈ entries, ∀ c ∈ e.toList, isLineEnd c = false) ∧
      ∃ e ∈ entries, Listing.parse e.toList ≠ []) ∧
    (Command.importAll none entries false).blocks = importBlocks <$> registerAll .standard none
      (.map [("app.a".toList, "http://h/aapp.b=http://h/b".toList)]) false ∧
    Listing.merged (entries.map String.toList) =
      [("app.a".toList, "http://h/a".toList), ("app.b".toList, "http://h/b".toList)] ∧
    ¬ ∀ next : String, (∀ c ∈ next.toList, isLineEnd c = false) →
      (inlineOf ["app.a=http://h/a\\", next]).listing =
        Listing.merged ["app.a=http://h/a\\".toList, next.toList] := by
  intro entries
  have hends : ∀ e ∈ entries, ∀ c ∈ e.toList, isLineEnd c = false :=
    List.forall_mem_cons.2 ⟨List.all_iff_forall_prop.1 (by decide),
      List.forall_mem_singleton.2 (List.all_iff_forall_prop.1 (by decide))⟩
  have hsome : ∃ e ∈ entries, Listing.parse e.toList ≠ [] :=
    ⟨_, List.mem_cons_self, by decide⟩
  obtain ⟨hblocks, -, -, hhangs⟩ := importAll_entries hends hsome
  have hlisting : Listing.merged (glue (entries.map String.toList)) =
      [("app.a".toList, "http://h/aapp.b=http://h/b".toList)] := by decide
  refine ⟨⟨hends, hsome⟩, ?_, by decide, ?_⟩
  · rw [(hblocks false).2, hlisting]
  · rw [hhangs _ List.mem_cons_self]
    decide

end AppCatalog.Shell
