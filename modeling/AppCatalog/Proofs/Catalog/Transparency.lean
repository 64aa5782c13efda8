import AppCatalog.Proofs.Catalog.Twins

/-!
# A cache that nobody notices

A run asks a catalog for one thing after another while what waits is fetched at any time, also while
an operation is under way. Whether the catalog keeps its downloads or not, every step of the run gives
the same, or fails for the same cause, and leaves the same store (`Catalog.account_keepingIn`).
-/

namespace AppCatalog

open FileTree Run

namespace Catalog

variable {s : Scene} {c d : Catalog}

/-! ## While an operation is under way -/

/-- An operation, and then some of what waits is fetched, whether it has succeeded or not. -/
def fetching {α : Type} (is : List Nat) (m : Action α) : Action α := do
  let result ← m.outcome
  modify (fetches is)
  Run.ofExcept result

theorem fetching_on {α : Type} (is : List Nat) (m : Action α) (c : Catalog) :
    (fetching is m).on c = ((m.on c).1, fetches is (m.on c).2) := by
  rw [fetching, on_bind_ok (on_outcome m c), on_bind_ok (on_modify _ _), on_ofExcept]

theorem fetching_nil {α : Type} (m : Action α) : fetching [] m = m :=
  funext fun c => fetching_on [] m c

/-! ## Looking up -/

/-- Looking up, with some of what waits fetched between loading the metadata and reading them. -/
def infoAmid (is : List Nat) (type : AppType) (name : String) (exhaustive : Bool) :
    Action Details := do
  match ← inStore (Store.ask fun st => st.find type name) with
  | none => throw (.notRegistered name (some type))
  | some r => do
    let loader := (← get).loader
    match ← (fetching is (inWorld (loader.metadataResource r))).outcome with
    | .error (.resource fault) => do
      let uri := (r.metadataUri.filter (· != "")).getD r.uri
      throw (.unresolved uri (some (.resource fault)))
    | .error failure => throw failure
    | .ok resource => do
      let options ← inWorld (Metadata.resolve resource exhaustive)
      pure ⟨r, options⟩

theorem infoAmid_nil : infoAmid [] = info := by
  funext type name exhaustive
  simp only [infoAmid, fetching_nil]
  rfl

theorem infoAmid_on {type : AppType} {name : String} {reg : Registration}
    (hr : c.store.find type name = .ok (some reg)) (is : List Nat) (exhaustive : Bool) :
    (infoAmid is type name exhaustive).on c =
      let c' := fetches is
        { c with world := ((c.loader.resource reg.metadataPlace).on c.world).2 }
      match ((c.loader.resource reg.metadataPlace).on c.world).1 with
      | .error (.resource fault) =>
        (.error (.unresolved reg.metadataPlace (some (.resource fault))), c')
      | .error f => (.error f, c')
      | .ok resource =>
        (((Metadata.resolve resource exhaustive).on c'.world).1.map fun options => ⟨reg, options⟩,
          { c' with world := ((Metadata.resolve resource exhaustive).on c'.world).2 }) := by
  rw [infoAmid, on_bind, find_on, hr]
  simp only
  rw [on_bind_ok (on_get c), on_bind, on_outcome, fetching_on, inWorld, on_within,
    Loader.metadataResource_eq]
  rcases ((c.loader.resource reg.metadataPlace).on c.world).1 with f | resource
  · cases f <;> rfl
  · exact on_bind_of_ok (fun _ _ => rfl) _

/-- Both catalogs tell the same options, or fail for the same cause. -/
theorem Twins.infoAmid (h : Twins s c d) (hs : s.Suits) (type : AppType) (name : String)
    (hmem : ∀ reg, c.store.find type name = .ok (some reg) → reg.metadataPlace ∈ s.uris)
    (hwaits : c.WaitsFor s.uris) (is : List Nat) (exhaustive : Bool) :
    SameKind ((infoAmid is type name exhaustive).on c).1
        ((infoAmid is type name exhaustive).on d).1 ∧
      Twins s ((infoAmid is type name exhaustive).on c).2
        ((infoAmid is type name exhaustive).on d).2 := by
  rcases hr : c.store.find type name with f | _ | reg
  · rw [Catalog.infoAmid, on_bind, on_bind, find_on, find_on, h.store, hr]
    exact ⟨rfl, h⟩
  · rw [Catalog.infoAmid, on_bind, on_bind, find_on, find_on, h.store, hr]
    exact ⟨rfl, h⟩
  · obtain ⟨hloaded, hcomes⟩ := h.load hs (hmem reg hr)
    obtain ⟨hfetched, hkeeps⟩ := hloaded.fetches hs hwaits is
    replace hcomes := hcomes.mono hkeeps
    rw [infoAmid_on hr, infoAmid_on (h.store ▸ hr)]
    generalize Catalog.fetches is _ = d' at hcomes hfetched ⊢
    generalize Catalog.fetches is _ = c' at hcomes hfetched ⊢
    generalize ((c.loader.resource reg.metadataPlace).on c.world).1 = x at hcomes ⊢
    generalize ((d.loader.resource reg.metadataPlace).on d.world).1 = y at hcomes ⊢
    -- without a cache a failure of the network shows in reading, with one in loading
    rcases x with f | resource <;> rcases y with f' | resource'
    · cases hcomes
      cases f <;> exact ⟨rfl, hfetched⟩
    · cases hcomes
    · obtain ⟨hread, hworlds⟩ := hcomes.read_failed hfetched.world
      simp only [Metadata.resolve_on]
      rcases hr' : resource.read.on c'.world with ⟨result, w⟩
      rw [hr'] at hread hworlds
      change result = _ at hread
      subst hread
      cases f' <;> exact ⟨rfl, hfetched.withWorlds hworlds⟩
    · obtain ⟨hkind, hworlds⟩ := hcomes.resolve hfetched.world exhaustive
      exact ⟨hkind.map _, hfetched.withWorlds hworlds⟩

/-! ## Importing -/

/-- Importing, with some of what waits fetched between loading the listing and reading it. -/
def registerAllAmid (is : List Nat) (request : PageRequest) (uri : Option String)
    (inline : Inline) (force : Bool) : Action Page := do
  let resource ← fetching is (importSource uri inline)
  let saved ← inStore (Store.importAll force resource)
  prefetch (Registration.sort saved)
  importPage request (Registration.sort saved)

theorem registerAllAmid_nil : registerAllAmid [] = registerAll := by
  funext request uri inline force
  simp only [registerAllAmid, fetching_nil, registerAll, importFrom, bind_assoc, pure_bind]

theorem importSource_on {uri : Option String} {inline : Inline} {place : String}
    (hu : uri.filter (· != "") = some place) (hi : inline.listing.isEmpty = true) (c : Catalog) :
    (importSource uri inline).on c = match checkUri place with
      | .error f => (.error f, c)
      | .ok () => (((c.loader.resource place).on c.world).1,
          { c with world := ((c.loader.resource place).on c.world).2 }) := by
  rw [importSource, hu]
  simp only [hi, Bool.not_true, Bool.false_eq_true, if_false]
  rw [on_bind, on_ofExcept]
  rcases checkUri place with f | u
  · rfl
  · simp only
    rw [on_bind_ok (on_get c)]
    rfl

/-- Both catalogs find the same to import. -/
theorem Twins.source (h : Twins s c d) (hs : s.Suits) {uri : Option String}
    (hmem : ∀ place, uri.filter (· != "") = some place → place ∈ s.uris) (inline : Inline) :
    ∃ place, Twins s ((importSource uri inline).on c).2 ((importSource uri inline).on d).2 ∧
      s.Comes place ((importSource uri inline).on d).2.world.disk
        ((importSource uri inline).on c).1 ((importSource uri inline).on d).1 := by
  rcases hu : uri.filter (· != "") with _ | place
  · refine ⟨"", ?_⟩
    rw [importSource, hu]
    simp only
    split
    · exact ⟨h, .nowhere _⟩
    · exact ⟨h, .inline _ _⟩
  · refine ⟨place, ?_⟩
    cases hi : inline.listing.isEmpty with
    | false =>
        rw [importSource, hu]
        simp only [hi]
        exact ⟨h, .nowhere _⟩
    | true =>
        rw [importSource_on hu hi, importSource_on hu hi]
        rcases checkUri place with f | u
        · exact ⟨h, .nowhere f⟩
        · exact h.load hs (hmem place hu)

/-- Both catalogs import the same, or fail alike. -/
theorem Twins.registerAllAmid (h : Twins s c d) (hs : s.Suits) {uri : Option String}
    (hmem : ∀ place, uri.filter (· != "") = some place → place ∈ s.uris)
    (hwaits : c.WaitsFor s.uris) (is : List Nat) (request : PageRequest) (inline : Inline)
    (force : Bool) : MatchesFrom (Twins s) (registerAllAmid is request uri inline force)
      (registerAllAmid is request uri inline force) c d := by
  obtain ⟨place, hloaded, hcomes⟩ := h.source hs hmem inline
  have hleft : ((importSource uri inline).on c).2.WaitsFor s.uris := by
    obtain ⟨w, hw⟩ := importSource_keeps uri inline c
    rw [hw]
    exact hwaits
  obtain ⟨hfetched, hkeeps⟩ := hloaded.fetches hs hleft is
  replace hcomes := hcomes.mono hkeeps
  rw [MatchesFrom, Catalog.registerAllAmid, on_bind, on_bind, fetching_on, fetching_on]
  generalize Catalog.fetches is _ = d' at hcomes hfetched ⊢
  generalize Catalog.fetches is _ = c' at hcomes hfetched ⊢
  generalize ((importSource uri inline).on c).1 = x at hcomes ⊢
  generalize ((importSource uri inline).on d).1 = y at hcomes ⊢
  rcases x with f | resource <;> rcases y with f' | resource'
  · cases hcomes
    exact ⟨rfl, hfetched⟩
  · cases hcomes
  · obtain ⟨hread, hworlds⟩ := hcomes.read_failed hfetched.world
    have hfails : (inStore (Store.importAll force resource)).on c' =
        (.error f', { c' with world := (resource.read.on c'.world).2 }) := by
      rw [inStore_on, Store.importAll, on_bind, Store.inWorld_on, hread]
    simp only
    rw [on_bind_error hfails]
    exact ⟨rfl, hfetched.withWorlds hworlds⟩
  · have himport : MatchesFrom (Twins s) (inStore (Store.importAll force resource))
        (inStore (Store.importAll force resource')) c' d' :=
      (Store.importAll_matches ⟨hfetched.store, hfetched.file, hfetched.world⟩ hcomes force).within
        fun p q hp =>
          ⟨hp.store, hp.file, hfetched.plain, hfetched.keeping, hfetched.waiting, hp.world⟩
    exact himport.bind fun saved =>
      .bind (respects_prefetch _) fun _ => (plain_importPage request _).respects

/-! ## Runs -/

/-- What a catalog is asked to do, or that some of what waits is fetched. Where an operation loads
something and then reads it, some of what waits may be fetched in between; anywhere else within an
operation a fetch touches nothing that the operation does, and may as well come before or after. -/
inductive Step where
  | register (r : Registration) (force : Bool)
  | unregister (type : AppType) (name : String)
  | registerAll (request : PageRequest) (uri : Option String) (inline : Inline) (force : Bool)
      (amid : List Nat)
  | list (request : PageRequest) (query : Query)
  | info (type : AppType) (name : String) (exhaustive : Bool) (amid : List Nat)
  | fetched (i : Nat)

/-- What a step is answered with. -/
inductive Answer where
  | registration (r : Registration)
  | page (p : Page)
  | details (d : Details)
  | done

namespace Step

def perform : Step → Action Answer
  | register r force => .registration <$> Catalog.register r force
  | unregister type name => (fun _ => .done) <$> Catalog.unregister type name
  | registerAll request uri inline force amid =>
    .page <$> registerAllAmid amid request uri inline force
  | list request query => .page <$> Catalog.list request query
  | info type name exhaustive amid => .details <$> infoAmid amid type name exhaustive
  | fetched i => (fun _ => .done) <$> modify (Catalog.fetchAt i)

/-- The URIs that a step loads from a catalog, and those that wait to be loaded. -/
def uris (step : Step) (c : Catalog) : List String :=
  (match step with
    | registerAll _ uri _ _ _ => (uri.filter (· != "")).toList
    | info type name _ _ =>
      match c.store.find type name with
      | .ok (some r) => [r.metadataPlace]
      | _ => []
    | _ => []) ++ c.waiting.map Registration.metadataPlace

end Step

/-- The URIs that a run loads, and those that wait in it. -/
def urisOf : List Step → Catalog → List String
  | [], _ => []
  | step :: steps, c => step.uris c ++ urisOf steps (step.perform.on c).2

/-- What a run shows, step by step: the answer or the failure, without the words that describe what
is unresolved, the store, and the file of the store. -/
def account : List Step → Catalog → List (Except Failure Answer × Store × Except OsFault Bytes)
  | [], _ => []
  | step :: steps, c =>
    let c' := (step.perform.on c).2
    ((step.perform.on c).1.mapError Failure.undescribed, c'.store,
      c'.world.disk.read c'.store.file) :: account steps c'

/-- A step comes to the same in both catalogs. -/
theorem Twins.perform (h : Twins s c d) (hs : s.Suits) (step : Step)
    (hmem : ∀ uri ∈ step.uris c, uri ∈ s.uris) :
    SameKind (step.perform.on c).1 (step.perform.on d).1 ∧
      Twins s (step.perform.on c).2 (step.perform.on d).2 := by
  have hwaits : c.WaitsFor s.uris := fun r hr =>
    hmem _ (List.mem_append_right _ (List.mem_map_of_mem hr))
  have hmatch : ∀ {α : Type} {m : Action α} (g : α → Answer), MatchesFrom (Twins s) m m c d →
      SameKind ((g <$> m).on c).1 ((g <$> m).on d).1 ∧
        Twins s ((g <$> m).on c).2 ((g <$> m).on d).2 := by
    rintro α m g ⟨hvalue, hrest⟩
    rw [on_map, on_map, hvalue]
    exact ⟨rfl, hrest⟩
  cases step with
  | register r force => exact hmatch _ ((plain_register r force).respects c d h)
  | unregister type name => exact hmatch _ ((plain_unregister type name).respects c d h)
  | list request query => exact hmatch _ ((plain_list request query).respects c d h)
  | registerAll request uri inline force amid =>
      refine hmatch _ (h.registerAllAmid hs ?_ hwaits amid request inline force)
      intro place hplace
      refine hmem _ (List.mem_append_left _ ?_)
      simp only [hplace, Option.toList_some, List.mem_singleton]
  | info type name exhaustive amid =>
      have hinfo := h.infoAmid hs type name ?_ hwaits amid exhaustive
      · rw [Step.perform, on_map, on_map]
        exact ⟨hinfo.1.map _, hinfo.2⟩
      · intro reg hr
        refine hmem _ (List.mem_append_left _ ?_)
        simp only [hr, List.mem_singleton]
  | fetched i => exact hmatch _ ⟨rfl, (h.fetchAt hs hwaits i).1⟩

/-- A run shows the same in both catalogs. -/
theorem Twins.account (h : Twins s c d) (hs : s.Suits) (steps : List Step)
    (hmem : ∀ uri ∈ urisOf steps c, uri ∈ s.uris) : account steps d = account steps c := by
  induction steps generalizing c d with
  | nil => rfl
  | cons step steps ih =>
      rw [urisOf, List.forall_mem_append] at hmem
      obtain ⟨hkind, htwins⟩ := h.perform hs step hmem.1
      simp only [Catalog.account, ih htwins hmem.2, htwins.store,
        htwins.world.2.2.outside.read htwins.file]
      rw [hkind]

/-- A cache folder that is there and has nothing in it. -/
structure IsEmptyCache (cache : Path) (folder : FileKey) (t : FileTree) : Prop where
  leads : t.resolve cache = .ok folder
  made : t.HasFolders cache
  noFile : ∀ k, LiesIn folder k → t.bytesAt? k = none
  noFolder : ∀ k, LiesIn folder k → t.isFolder k = false

/-- A catalog that keeps its downloads. -/
def keepingIn (cache : Path) (c : Catalog) : Catalog :=
  { c with loader := { c.loader with cache := some cache } }

/-- Whatever a catalog is asked to do and whenever it fetches what waits, it shows the same whether it
keeps its downloads in an empty folder or does not keep them, as long as there is room for them and no
two URIs of the run have one place. -/
theorem account_keepingIn {cache : Path} {folder : FileKey} (steps : List Step)
    (hplain : c.loader.cache = none) (hempty : IsEmptyCache cache folder c.world.disk)
    (hroom : c.world.disk.room = none) (hfile : StaysOut folder c.store.file)
    (hs : Scene.Suits ⟨c.loader.locator, c.world.network, cache, folder, urisOf steps c⟩) :
    account steps (c.keepingIn cache) = account steps c := by
  have hcache : IsCacheFolder cache folder c.world.disk := by
    refine ⟨hempty.leads, hempty.made, fun k hk hb => absurd (hempty.noFile k hk) hb,
      fun k hk hf => ?_⟩
    cases (hempty.noFolder k hk).symm.trans hf
  have hserved : Scene.Served ⟨c.loader.locator, c.world.network, cache, folder, urisOf steps c⟩
      c.world.disk := by
    intro uri _ url timeout name bytes _ _ hb
    cases (hempty.noFile _ (CacheLayout.liesIn_placeKey folder uri name)).symm.trans hb
  have htwins : Twins ⟨c.loader.locator, c.world.network, cache, folder, urisOf steps c⟩ c
      (c.keepingIn cache) :=
    ⟨rfl, hfile, congrArg (Loader.mk c.loader.locator) hplain, rfl, rfl, rfl, rfl, .refl _ _, hroom,
      hcache, hserved⟩
  exact htwins.account hs steps fun _ => id

/-- Metadata that have been fetched, metadata that have not come yet, and an answer that is a refusal
show the same with a cache and without one. -/
theorem account_keepingIn_of_refusal :
    let metadata := Utf8.encode "properties: [{id: port}]".toList
    let network : Network := ([("http://h/m", .answer 200 [] [metadata] none),
      ("http://h/b", .answer 404 [] [] none)] : Replies)
    let c : Catalog := ⟨⟨⟨.relative, ["registry".toList, "index.json".toList]⟩, .empty⟩,
      ⟨.standard, none⟩, ⟨⟨[], [["cache".toList], ["registry".toList]], [], none⟩, network, [], []⟩,
      []⟩
    let steps : List Step := [.register ⟨.app, "a", "http://h/a", some "http://h/m"⟩ false,
      .register ⟨.sink, "b", "http://h/b", none⟩ false, .info .sink "b" false [0],
      .info .app "a" false []]
    account steps (c.keepingIn ⟨.relative, ["cache".toList]⟩) = account steps c ∧
      (account steps c).map (fun e => e.1.toOption.isSome) = [true, true, false, true] := by
  intro metadata network c steps
  have huris : ∀ uri ∈ urisOf steps c, uri = "http://h/m" ∨ uri = "http://h/b" := by
    decide +kernel
  have hremote : ∀ uri ∈ urisOf steps c,
      Locator.standard.locate uri = .ok (.remote uri Locator.standardTimeout) := by
    intro uri huri
    rcases huris uri huri with rfl | rfl
    · decide +kernel
    · decide +kernel
  have hnames : ∀ uri ∈ urisOf steps c,
      (CacheLayout.pathOf ⟨.relative, ["cache".toList]⟩ uri).map (fun p => (p.hasNul,
        decide (∀ s ∈ p.segments, (Utf8.encode s).length ≤ maxName),
        decide ((Utf8.encode p.text).length < maxPath))) = .ok (false, true, true) := by
    intro uri huri
    rcases huris uri huri with rfl | rfl
    · decide +kernel
    · decide +kernel
  have hdigests : CacheLayout.digestOf "http://h/m" ≠ CacheLayout.digestOf "http://h/b" := by
    decide +kernel
  refine ⟨account_keepingIn steps rfl ⟨rfl, ?_, fun _ _ => rfl, ?_⟩ rfl ?_
    ⟨?_, ?_, ?_⟩, by decide +kernel⟩
  · intro i hi
    obtain rfl := Nat.lt_one_iff.1 hi
    exact ⟨["cache".toList], rfl, rfl, rfl⟩
  · rintro k ⟨rest, hne, -, rfl⟩
    obtain ⟨x, xs, rfl⟩ := List.exists_cons_of_ne_nil hne
    simp [FileTree.isFolder, FileTree.up, FileTree.rootKey, FileTree.startKey, c]
  · rintro k hk ⟨rest, -, -, rfl⟩
    have hhead : ∀ k ∈ keysOf c.store.file, k.head? ≠ some "cache".toList := by decide
    exact hhead _ hk rfl
  · intro uri huri path description hl
    cases (hremote uri huri).symm.trans hl
  · intro uri huri url timeout target _ hp
    have hname := hnames uri huri
    rw [hp, Except.map, Except.ok.injEq, Prod.mk.injEq, Prod.mk.injEq, decide_eq_true_iff,
      decide_eq_true_iff] at hname
    exact ⟨hname.1, hname.2.1, hname.2.2⟩
  · intro uri huri uri' huri' target hp hp'
    have hsame := CacheLayout.digestOf_eq_of_pathOf hp hp'
    rcases huris uri huri with rfl | rfl <;> rcases huris uri' huri' with rfl | rfl
    · rfl
    · exact absurd hsame hdigests
    · exact absurd hsame.symm hdigests
    · rfl

end Catalog

end AppCatalog
