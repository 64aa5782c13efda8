import AppCatalog.Proofs.Artifact.Alike
import AppCatalog.Proofs.Catalog.Offline
import AppCatalog.Proofs.Metadata.Description

/-!
# Two catalogs of which one keeps its downloads

Two catalogs have the same store and the same loader, only that one loader keeps its downloads, and
live in worlds that are the same outside the cache folder (`Catalog.Twins`). What loads nothing comes
to the same in both (`Catalog.Plain.respects`), what loads something has it in both
or fails in both (`Catalog.Twins.load`), and what waits can be fetched in both at any time
(`Catalog.Twins.fetches`).
-/

namespace AppCatalog

open FileTree Run

/-! ## Worlds and stores -/

variable {s : Scene} {w v : World} {place : String} {r r' : Resource}

theorem Scene.matches_note (level level' : Level) (text text' : String) :
    Matches s.Alike (World.note level text) (World.note level' text') :=
  .modify fun _ _ h => h

/-- What both catalogs have loaded describes the same options. -/
theorem Scene.Comes.resolve (hc : s.Comes place v.disk (.ok r) (.ok r')) (h : s.Alike w v)
    (exhaustive : Bool) :
    SameKind ((Metadata.resolve r exhaustive).on w).1 ((Metadata.resolve r' exhaustive).on v).1 ∧
      s.Alike ((Metadata.resolve r exhaustive).on w).2
        ((Metadata.resolve r' exhaustive).on v).2 := by
  obtain ⟨hvalue, hworlds⟩ := hc.read h
  rw [Metadata.resolve_on, Metadata.resolve_on]
  rcases hr : r.read.on w with ⟨result, w'⟩
  rcases hr' : r'.read.on v with ⟨result', v'⟩
  rw [hr, hr'] at hvalue hworlds
  change result' = result at hvalue
  subst hvalue
  rcases result' with f | data
  · cases f <;> exact ⟨rfl, hworlds⟩
  · exact ⟨(Metadata.sameKind_ofBytes r.description r'.description .standard data).map _, hworlds⟩

namespace Store

/-- The same store in two worlds of which the second one has a cache, with its file outside. -/
structure Twins (s : Scene) (p q : Store × World) : Prop where
  store : q.1 = p.1
  file : StaysOut s.folder p.1.file
  world : s.Alike p.2 q.2

variable {p q : Store × World}

theorem respects_ask {α : Type} (question : Store → Except Failure α) :
    Respects (Twins s) (ask question) := by
  intro p q h
  rw [MatchesFrom, ask_on, ask_on, h.store]
  exact ⟨rfl, h⟩

theorem respects_setIndex (i : Index) : Respects (Twins s) (setIndex i) :=
  .modify fun _ _ h =>
    ⟨congrArg (fun st : Store => { st with index := i }) h.store, h.file, h.world⟩

theorem matches_inWorld {α : Type} {m n : Run World α} (h : Matches s.Alike m n) :
    Matches (Twins s) (inWorld m) (inWorld n) :=
  h.within (fun _ _ hp => hp.world) fun _ _ _ _ hp hw => ⟨hp.store, hp.file, hw⟩

theorem respects_writeIndex : Respects (Twins s) writeIndex := by
  intro p q h
  obtain ⟨hw, hv, htrees⟩ := h.world
  obtain ⟨hvalue, hwritten⟩ := htrees.write h.file (indexBytes p.1.index)
  rw [MatchesFrom, writeIndex_on, writeIndex_on, h.store, hvalue]
  exact ⟨rfl, rfl, h.file, hw, hv, hwritten⟩

theorem Plain.respects {α : Type} {m : Action α} (h : Plain m) : Respects (Twins s) m := by
  induction h with
  | pure a => exact .pure a
  | throw f => exact .throw f
  | ofExcept x => exact .ofExcept x
  | ask question => exact respects_ask question
  | setIndex i => exact respects_setIndex i
  | writeIndex => exact respects_writeIndex
  | note level text => exact matches_inWorld (Scene.matches_note level level text text)
  | bind _ _ ihm ihk => exact .bind ihm ihk

/-- Importing what both catalogs have loaded comes to the same. -/
theorem importAll_matches (h : Twins s p q) (hc : s.Comes place q.2.disk (.ok r) (.ok r'))
    (force : Bool) : MatchesFrom (Twins s) (importAll force r) (importAll force r') p q := by
  have hread : MatchesFrom (Twins s) (inWorld r.read) (inWorld r'.read) p q :=
    (hc.read h.world).within fun _ _ hw => ⟨h.store, h.file, hw⟩
  exact hread.bind fun _ => .bind (.ofExcept _) fun rs =>
    .bind (plain_importRegistrations force rs).respects fun _ =>
      .bind (matches_inWorld (Scene.matches_note _ _ _ _)) fun _ => .pure _

end Store

/-! ## Catalogs -/

namespace Catalog

/-- The same catalog without a cache and with one, in worlds of their own. -/
structure Twins (s : Scene) (c d : Catalog) : Prop where
  store : d.store = c.store
  file : StaysOut s.folder c.store.file
  plain : c.loader = s.plain
  keeping : d.loader = s.keeping
  waiting : d.waiting = c.waiting
  world : s.Alike c.world d.world

variable {c d : Catalog}

theorem Twins.withWorlds (h : Twins s c d) (hw : s.Alike w v) :
    Twins s { c with world := w } { d with world := v } :=
  ⟨h.store, h.file, h.plain, h.keeping, h.waiting, hw⟩

theorem matches_inStore {α : Type} {m n : Store.Action α} (h : Matches (Store.Twins s) m n) :
    Matches (Twins s) (inStore m) (inStore n) :=
  h.within (fun _ _ ht => ⟨ht.store, ht.file, ht.world⟩) fun _ _ _ _ ht hp =>
    ⟨hp.store, hp.file, ht.plain, ht.keeping, ht.waiting, hp.world⟩

theorem respects_note (text : String) : Respects (Twins s) (note text) :=
  (Scene.matches_note _ _ _ _).within (fun _ _ h => h.world) fun _ _ _ _ h hw => h.withWorlds hw

theorem respects_prefetch (rs : List Registration) : Respects (Twins s) (prefetch rs) :=
  .modify fun _ _ h => ⟨h.store, h.file, h.plain, h.keeping,
    congrArg (· ++ Prefetch.wanted rs) h.waiting, h.world⟩

theorem Plain.respects {α : Type} {m : Action α} (h : Plain m) : Respects (Twins s) m := by
  induction h with
  | pure a => exact .pure a
  | throw f => exact .throw f
  | ofExcept x => exact .ofExcept x
  | inStore h => exact matches_inStore h.respects
  | note text => exact respects_note text
  | prefetch rs => exact respects_prefetch rs
  | bind _ _ ihm ihk => exact .bind ihm ihk

/-! ## Loading and fetching -/

/-- Both catalogs come to the same when they load a URI. -/
theorem Twins.load (h : Twins s c d) (hs : s.Suits) {uri : String} (hmem : uri ∈ s.uris) :
    Twins s { c with world := ((c.loader.resource uri).on c.world).2 }
        { d with world := ((d.loader.resource uri).on d.world).2 } ∧
      s.Comes uri ((d.loader.resource uri).on d.world).2.disk
        ((c.loader.resource uri).on c.world).1 ((d.loader.resource uri).on d.world).1 := by
  have hload := Scene.load h.world hs hmem
  rw [← h.plain, ← h.keeping] at hload
  obtain ⟨hw, halike, hcomes⟩ := hload
  exact ⟨h.withWorlds (hw.symm ▸ halike), hcomes⟩

/-- What waits is among the URIs that are loaded. -/
def WaitsFor (c : Catalog) (uris : List String) : Prop :=
  ∀ r ∈ c.waiting, r.metadataPlace ∈ uris

/-- Fetching what waits leaves the catalogs the same, and keeps what is kept. -/
theorem Twins.fetchAt (h : Twins s c d) (hs : s.Suits) (hwaits : c.WaitsFor s.uris) (i : Nat) :
    Twins s (c.fetchAt i) (d.fetchAt i) ∧ (c.fetchAt i).WaitsFor s.uris ∧
      KeepsDownloads s.cache d.world.disk (d.fetchAt i).world.disk := by
  rw [Catalog.fetchAt, Catalog.fetchAt, h.waiting]
  rcases hi : c.waiting[i]? with _ | r
  · exact ⟨h, hwaits, .refl _ _⟩
  · obtain ⟨x, hxdisk, hxnetwork, hxafter, hxnetwork', -⟩ := fetchAndNote_on c.loader r c.world
    obtain ⟨y, hydisk, hynetwork, hyafter, hynetwork', -⟩ := fetchAndNote_on d.loader r d.world
    have halike : s.Alike x y := by
      rw [Scene.Alike, hxdisk, hxnetwork, hydisk, hynetwork]
      exact h.world
    have hload := Scene.load halike hs (hwaits r (List.mem_of_getElem? hi))
    rw [← h.plain, ← h.keeping, ← Loader.metadataResource_eq, ← Loader.metadataResource_eq]
      at hload
    obtain ⟨hx, hafter, -⟩ := hload
    have hkeeps := Loader.stays_metadataResource (congrArg Loader.cache h.keeping) r y
    rw [World.Keeps, hydisk] at hkeeps
    refine ⟨⟨h.store, h.file, h.plain, h.keeping, rfl, ?_⟩, ?_, ?_⟩
    · rw [← hx] at hafter
      rw [Scene.Alike, ← hxafter, ← hxnetwork', ← hyafter, ← hynetwork'] at hafter
      exact hafter
    · intro r' hr'
      exact hwaits r' (List.mem_of_mem_eraseIdx hr')
    · rw [← hyafter] at hkeeps
      exact hkeeps

/-- The catalog after some of what waits has been fetched, one after another. -/
def fetches (is : List Nat) (c : Catalog) : Catalog := is.foldl (fun c i => c.fetchAt i) c

theorem Twins.fetches (h : Twins s c d) (hs : s.Suits) (hwaits : c.WaitsFor s.uris)
    (is : List Nat) : Twins s (fetches is c) (fetches is d) ∧
      KeepsDownloads s.cache d.world.disk (fetches is d).world.disk := by
  induction is generalizing c d with
  | nil => exact ⟨h, .refl _ _⟩
  | cons i is ih =>
      obtain ⟨htwins, hleft, hkeeps⟩ := h.fetchAt hs hwaits i
      obtain ⟨htwins', hkeeps'⟩ := ih htwins hleft
      exact ⟨htwins', hkeeps.trans hkeeps'⟩

end Catalog

end AppCatalog
