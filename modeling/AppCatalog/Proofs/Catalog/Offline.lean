import AppCatalog.Proofs.Artifact.Keeping
import AppCatalog.Proofs.Catalog.Breakdown
import AppCatalog.Proofs.Catalog.Plain
import AppCatalog.Proofs.Run.Stays

/-!
# Looking up what has been fetched in advance

Nothing that the catalog does touches a file that its loader keeps: loading only adds such files, and
the index of the store is none of them. So once the metadata of a registration have been fetched, every
later lookup of an entry with the same metadata URI reads the bytes that came then, asks the network for
nothing, and gives what these bytes say (`info_after_fetch`).
-/

namespace AppCatalog

open FileTree Run

/-! ## The world -/

/-- What is kept in one world is kept in the other. -/
def World.Keeps (cache : Path) (w w' : World) : Prop := KeepsDownloads cache w.disk w'.disk

instance (cache : Path) : IsPreorder World (World.Keeps cache) where
  refl w := .refl cache w.disk
  trans _ _ _ h h' := KeepsDownloads.trans h h'

variable {cache file : Path} {loader : Loader}

theorem World.stays_note (cache : Path) (level : Level) (text : String) :
    Stays (World.Keeps cache) (World.note level text) :=
  .modify fun w => .refl cache w.disk

theorem Resource.stays_read (cache : Path) (r : Resource) :
    Stays (World.Keeps cache) r.read := by
  intro w
  obtain ⟨urls, hw⟩ := r.read_on w
  rw [hw]
  exact .refl cache w.disk

namespace Loader

theorem stays_resource (hc : loader.cache = some cache) (uri : String) :
    Stays (World.Keeps cache) (loader.resource uri) :=
  fun w => (loader.loads uri w).keepsDownloads hc

theorem stays_metadataResource (hc : loader.cache = some cache) (r : Registration) :
    Stays (World.Keeps cache) (loader.metadataResource r) := by
  rw [metadataResource_eq]
  exact stays_resource hc _

theorem stays_prepare (hc : loader.cache = some cache) :
    Stays (World.Keeps cache) loader.prepare := by
  intro w
  rw [prepare_on hc]
  split
  · next t hm => exact keepsDownloads_of_makeFolders hm
  · exact .refl cache w.disk

end Loader

theorem Metadata.stays_resolve (cache : Path) (r : Resource) (exhaustive : Bool) :
    Stays (World.Keeps cache) (Metadata.resolve r exhaustive) := by
  refine .bind (r.stays_read cache).outcome fun result => ?_
  split
  · exact .throw _
  · exact .throw _
  · exact .bind (.ofExcept _) fun m => .pure _

/-! ## The store -/

namespace Store

/-- A store that has its index in some file keeps it there, and what is kept stays kept. -/
def Keeps (file cache : Path) (p p' : Store × World) : Prop :=
  p.1.file = file → p'.1.file = file ∧ KeepsDownloads cache p.2.disk p'.2.disk

instance (file cache : Path) : IsPreorder (Store × World) (Keeps file cache) where
  refl p h := ⟨h, .refl cache p.2.disk⟩
  trans _ _ _ h h' hf := ⟨(h' (h hf).1).1, (h hf).2.trans (h' (h hf).1).2⟩

theorem stays_ask {α : Type} (question : Store → Except Failure α) :
    Stays (Keeps file cache) (ask question) :=
  .get_bind fun p => Stays.ofExcept (question p.1) p

theorem stays_setIndex (i : Index) : Stays (Keeps file cache) (setIndex i) :=
  .modify fun p hf => ⟨hf, .refl cache p.2.disk⟩

theorem stays_inWorld {α : Type} {m : Run World α} (h : Stays (World.Keeps cache) m) :
    Stays (Keeps file cache) (inWorld m) :=
  h.within fun _ _ hw hf => ⟨hf, hw⟩

theorem stays_opened (cache folder : Path) : Stays (World.Keeps cache) (opened folder) := by
  have hload : Stays (World.Keeps cache) (loadIndex (folder.child fileName.toList)) := by
    intro w
    rw [loadIndex_on_snd]
    exact .refl cache w.disk
  refine .get_bind fun w => ?_
  rw [on_bind_ofDisk]
  split
  · next t hm =>
      rw [on_bind_ok (on_modify _ w)]
      have hrest : Stays (World.Keeps cache) (do
          pure (⟨folder.child fileName.toList,
            ← loadIndex (folder.child fileName.toList)⟩ : Store)) :=
        .bind hload fun _ => .pure _
      exact (keepsDownloads_of_makeFolders hm).trans (hrest { w with disk := t })
  · exact .refl cache w.disk

/-- The file of an index is none of those that are kept. -/
theorem keepsDownloads_write (t : FileTree) (folder cache : Path) (bytes : Bytes) :
    KeepsDownloads cache t (t.write (folder.child fileName.toList) bytes).2 := by
  obtain ⟨hfolders, hfiles⟩ := t.write_effect (folder.child fileName.toList) bytes
  intro target held hp hb
  refine hb.keepsFolders (keepsFolders_of_eq hfolders) fun k hk hbytes => ?_
  rw [hfiles k fun hj => hp.ne_of_notMem hk (by decide) (by decide) hj rfl]
  exact hbytes

theorem stays_writeIndex {folder : Path} (hfile : file = folder.child fileName.toList) :
    Stays (Keeps file cache) writeIndex := by
  intro p hf
  rw [writeIndex_on]
  refine ⟨hf, ?_⟩
  rw [hf, hfile]
  exact keepsDownloads_write p.2.disk folder cache _

variable {folder : Path} (hfile : file = folder.child fileName.toList)
include hfile

theorem Plain.stays {α : Type} {m : Action α} (h : Plain m) : Stays (Keeps file cache) m := by
  induction h with
  | pure a => exact .pure a
  | throw f => exact .throw f
  | ofExcept x => exact .ofExcept x
  | ask question => exact stays_ask question
  | setIndex i => exact stays_setIndex i
  | writeIndex => exact stays_writeIndex hfile
  | note level text => exact stays_inWorld (World.stays_note cache level text)
  | bind _ _ ihm ihk => exact .bind ihm ihk

theorem stays_importAll (force : Bool) (resource : Resource) :
    Stays (Keeps file cache) (importAll force resource) :=
  .bind (stays_inWorld (resource.stays_read cache)) fun _ => .bind (.ofExcept _) fun rs =>
    .bind ((plain_importRegistrations force rs).stays hfile) fun _ =>
      .bind (stays_inWorld (World.stays_note cache _ _)) fun _ => .pure _

end Store

/-! ## The catalog -/

namespace Catalog

/-- A catalog with some loader and index file keeps both, and what is kept stays kept. -/
def Keeps (loader : Loader) (file cache : Path) (c c' : Catalog) : Prop :=
  c.loader = loader → c.store.file = file →
    c'.loader = loader ∧ c'.store.file = file ∧ KeepsDownloads cache c.world.disk c'.world.disk

instance (loader : Loader) (file cache : Path) : IsPreorder Catalog (Keeps loader file cache) where
  refl c hl hf := ⟨hl, hf, .refl cache c.world.disk⟩
  trans _ _ _ h h' hl hf :=
    have hc := h hl hf
    have hc' := h' hc.1 hc.2.1
    ⟨hc'.1, hc'.2.1, hc.2.2.trans hc'.2.2⟩

theorem stays_inStore {α : Type} {m : Store.Action α} (h : Stays (Store.Keeps file cache) m) :
    Stays (Keeps loader file cache) (inStore m) :=
  h.within fun _ _ hp hl hf => ⟨hl, (hp hf).1, (hp hf).2⟩

theorem stays_inWorld {α : Type} {m : Run World α} (h : Stays (World.Keeps cache) m) :
    Stays (Keeps loader file cache) (inWorld m) :=
  h.within fun _ _ hw hl hf => ⟨hl, hf, hw⟩

theorem stays_note (text : String) : Stays (Keeps loader file cache) (note text) :=
  stays_inWorld (World.stays_note cache .info text)

theorem stays_prefetch (rs : List Registration) : Stays (Keeps loader file cache) (prefetch rs) :=
  .modify fun c hl hf => ⟨hl, hf, .refl cache c.world.disk⟩

theorem stays_info (hc : loader.cache = some cache) (type : AppType) (name : String)
    (exhaustive : Bool) : Stays (Keeps loader file cache) (info type name exhaustive) := by
  refine .bind (stays_inStore (Store.stays_ask _)) fun found => ?_
  split
  · exact .throw _
  · next r =>
      refine .get_bind fun c hl hf => ?_
      rw [hl]
      have hload : Stays (Keeps loader file cache) (inWorld (loader.metadataResource r)) :=
        stays_inWorld (Loader.stays_metadataResource hc r)
      refine Stays.bind (R := Keeps loader file cache) hload.outcome (fun result => ?_) c hl hf
      split
      · exact .throw _
      · exact .throw _
      · exact .bind (stays_inWorld (Metadata.stays_resolve cache _ _)) fun _ => .pure _

theorem stays_importSource (hc : loader.cache = some cache) (uri : Option String)
    (inline : Inline) : Stays (Keeps loader file cache) (importSource uri inline) := by
  rw [importSource]
  split
  · next uri _ =>
      have hload : Stays (Keeps loader file cache) (do
          Run.ofExcept (checkUri uri)
          let loader := (← get).loader
          inWorld (loader.resource uri)) := by
        refine .bind (.ofExcept _) fun _ => .get_bind fun c hl hf => ?_
        rw [hl]
        exact stays_inWorld (Loader.stays_resource hc uri) c hl hf
      split
      · exact .bind (.throw _) fun _ => hload
      · exact hload
  · split
    · exact .throw _
    · exact .pure _

theorem stays_reopen (hc : loader.cache = some cache) {folder : Path}
    (hfile : file = folder.child Store.fileName.toList) :
    Stays (Keeps loader file cache) (reopen folder) := by
  refine .get_bind fun c hl hf => ?_
  rw [hl]
  have hprepare : Stays (Keeps loader file cache) (inWorld loader.prepare) :=
    stays_inWorld (Loader.stays_prepare hc)
  refine Stays.bind (R := Keeps loader file cache) hprepare (fun _ => ?_) c hl hf
  intro c hl hf
  have hopened := Store.stays_opened cache folder c.world
  rw [on_bind, inWorld, on_within]
  rcases ho : (Store.opened folder).on c.world with ⟨f | s, w⟩
  all_goals rw [ho] at hopened
  · exact ⟨hl, hf, hopened⟩
  · exact ⟨hl, (Store.of_opened_on ho).1.trans hfile.symm, hopened⟩

section

variable {folder : Path} (hfile : file = folder.child Store.fileName.toList)
include hfile

theorem Plain.stays {α : Type} {m : Action α} (h : Plain m) :
    Stays (Keeps loader file cache) m := by
  induction h with
  | pure a => exact .pure a
  | throw f => exact .throw f
  | ofExcept x => exact .ofExcept x
  | inStore h => exact stays_inStore (h.stays hfile)
  | note text => exact stays_note text
  | prefetch rs => exact stays_prefetch rs
  | bind _ _ ihm ihk => exact .bind ihm ihk

theorem stays_registerAll (hc : loader.cache = some cache) (request : PageRequest)
    (uri : Option String) (inline : Inline) (force : Bool) :
    Stays (Keeps loader file cache) (registerAll request uri inline force) := by
  refine .bind ?_ fun saved => (plain_importPage request saved).stays hfile
  exact .bind (stays_importSource hc uri inline) fun resource =>
    .bind (stays_inStore (Store.stays_importAll hfile force resource)) fun _ =>
      .bind (stays_prefetch _) fun _ => .pure _

end

/-! ## Fetching in advance -/

/-- Fetching the metadata of a registration loads them, and beyond that only the log grows. -/
theorem fetchAndNote_on (l : Loader) (r : Registration) (w : World) :
    ∃ v, v.disk = w.disk ∧ v.network = w.network ∧
      (Prefetch.fetchAndNote l.source r w).2.disk = ((l.metadataResource r).on v).2.disk ∧
      (Prefetch.fetchAndNote l.source r w).2.network = ((l.metadataResource r).on v).2.network ∧
      ((Prefetch.fetchAndNote l.source r w).1.fault = none →
        ∃ resource, ((l.metadataResource r).on v).1 = .ok resource) := by
  refine ⟨l.source.note .info ("Eagerly fetching " ++ Prefetch.shownUri r) w, rfl, rfl, ?_⟩
  rw [Prefetch.fetchAndNote, Prefetch.fetch]
  have hfetch := on_map (fun _ => ()) (l.metadataResource r)
    (l.source.note .info ("Eagerly fetching " ++ Prefetch.shownUri r) w)
  rcases hload : (l.metadataResource r).on
    (l.source.note .info ("Eagerly fetching " ++ Prefetch.shownUri r) w) with ⟨f | resource, v⟩
  · rw [hload] at hfetch
    simp only [Loader.source] at hfetch ⊢
    rw [hfetch]
    exact ⟨rfl, rfl, nofun⟩
  · rw [hload] at hfetch
    simp only [Loader.source] at hfetch ⊢
    rw [hfetch]
    exact ⟨rfl, rfl, fun _ => ⟨resource, rfl⟩⟩

theorem keeps_fetchAt (hc : loader.cache = some cache) (i : Nat) (c : Catalog) :
    Keeps loader file cache c (c.fetchAt i) := by
  intro hl hf
  rw [fetchAt]
  split
  · next r _ =>
      refine ⟨hl, hf, ?_⟩
      obtain ⟨v, hdisk, -, hafter, -, -⟩ := fetchAndNote_on c.loader r c.world
      have hkeeps := Loader.stays_metadataResource (hl.symm ▸ hc) r v
      rw [World.Keeps, hdisk, ← hafter] at hkeeps
      exact hkeeps
  · exact ⟨hl, hf, .refl cache c.world.disk⟩

/-! ## Runs -/

/-- What a catalog that settings ask for can become: operations are done, what waits is fetched in
any order, the catalog is opened again, and the world turns into another one. -/
inductive Continues (s : Settings) (turns : World → World → Prop) (c : Catalog) : Catalog → Prop
  | refl : Continues s turns c c
  | listed {c' : Catalog} (h : Continues s turns c c') (request : PageRequest) (query : Query) :
    Continues s turns c ((list request query).on c').2
  | asked {c' : Catalog} (h : Continues s turns c c') (type : AppType) (name : String)
    (exhaustive : Bool) : Continues s turns c ((info type name exhaustive).on c').2
  | register {c' : Catalog} (h : Continues s turns c c') (r : Registration) (force : Bool) :
    Continues s turns c ((register r force).on c').2
  | unregister {c' : Catalog} (h : Continues s turns c c') (type : AppType) (name : String) :
    Continues s turns c ((unregister type name).on c').2
  | imported {c' : Catalog} (h : Continues s turns c c') (request : PageRequest)
    (uri : Option String) (inline : Inline) (force : Bool) :
    Continues s turns c ((registerAll request uri inline force).on c').2
  | fetched {c' : Catalog} (h : Continues s turns c c') (i : Nat) :
    Continues s turns c (c'.fetchAt i)
  | reopened {c' : Catalog} (h : Continues s turns c c') :
    Continues s turns c ((reopen s.registryFolder).on c').2
  | elsewhere {c' : Catalog} (h : Continues s turns c c') (w : World) (ht : turns c'.world w) :
    Continues s turns c { c' with world := w }

/-- What holds from each step to the next holds from the beginning of a run to its end. -/
theorem Continues.along {s : Settings} {turns : World → World → Prop} {c c' : Catalog}
    {R : Catalog → Catalog → Prop} [IsPreorder Catalog R] (h : Continues s turns c c')
    (hc : loader.cache = some cache)
    (hstep : ∀ c c', Keeps loader (s.registryFolder.child Store.fileName.toList) cache c c' →
      R c c')
    (hturn : ∀ (c : Catalog) (w : World), turns c.world w → R c { c with world := w }) :
    R c c' := by
  induction h with
  | refl => exact refl_of R c
  | listed _ request query ih => exact trans_of R ih (hstep _ _ ((plain_list request query).stays rfl _))
  | asked _ type name exhaustive ih =>
      exact trans_of R ih (hstep _ _ (stays_info hc type name exhaustive _))
  | register _ r force ih => exact trans_of R ih (hstep _ _ ((plain_register r force).stays rfl _))
  | unregister _ type name ih => exact trans_of R ih (hstep _ _ ((plain_unregister type name).stays rfl _))
  | imported _ request uri inline force ih =>
      exact trans_of R ih (hstep _ _ (stays_registerAll rfl hc request uri inline force _))
  | fetched _ i ih => exact trans_of R ih (hstep _ _ (keeps_fetchAt hc i _))
  | reopened _ ih => exact trans_of R ih (hstep _ _ (stays_reopen hc rfl _))
  | elsewhere _ w ht ih => exact trans_of R ih (hturn _ w ht)

/-- A catalog has the loader and the index file that settings ask for. -/
structure Wired (s : Settings) (c : Catalog) : Prop where
  loader : c.loader = ⟨s.locator, some s.cacheFolder⟩
  file : c.store.file = s.registryFolder.child Store.fileName.toList

theorem Continues.wired {s : Settings} {turns : World → World → Prop} {c c' : Catalog}
    (h : Continues s turns c c') (hw : Wired s c) : Wired s c' := by
  have hpre : IsPreorder Catalog fun c c' => Wired s c → Wired s c' :=
    { refl := fun _ => id, trans := fun _ _ _ h h' => h' ∘ h }
  refine h.along (R := fun c c' => Wired s c → Wired s c')
    (show (⟨s.locator, some s.cacheFolder⟩ : Loader).cache = some s.cacheFolder from rfl) ?_ ?_ hw
  · intro c c' hk hw
    obtain ⟨hl, hf, -⟩ := hk hw.loader hw.file
    exact ⟨hl, hf⟩
  · intro c w _ hw
    exact ⟨hw.loader, hw.file⟩

/-- Nothing but the world itself takes a kept file away. -/
theorem Continues.keepsDownloads {s : Settings} {c c' : Catalog}
    (h : Continues s (World.Keeps s.cacheFolder) c c') (hw : Wired s c) :
    KeepsDownloads s.cacheFolder c.world.disk c'.world.disk :=
  (h.along (R := Keeps ⟨s.locator, some s.cacheFolder⟩
    (s.registryFolder.child Store.fileName.toList) s.cacheFolder) rfl (fun _ _ hk => hk)
    (fun _ _ ht hl hf => ⟨hl, hf, ht⟩) hw.loader hw.file).2.2

theorem wired_of_ofSettings_on {s : Settings} {before w : World} {c : Catalog}
    (h : (ofSettings s true).on before = (.ok c, w)) : Wired s c := by
  rw [ofSettings, on_bind, on_ofExcept] at h
  rcases hp : (poolOf s).start with f | p
  · rw [hp] at h
    cases h
  · rw [hp] at h
    simp only [if_true] at h
    obtain ⟨v, hs⟩ := of_opened_on h
    refine ⟨?_, (Store.of_opened_on hs).1⟩
    rw [opened, on_bind] at h
    rcases hprepare : Loader.prepare ⟨s.locator, some s.cacheFolder⟩ |>.on before with ⟨f | u, v⟩
    · rw [hprepare] at h
      cases h
    · rw [hprepare] at h
      simp only at h
      rw [on_bind] at h
      rcases hstore : (Store.opened s.registryFolder).on v with ⟨f | store, v'⟩
      · rw [hstore] at h
        cases h
      · rw [hstore] at h
        cases h
        rfl

/-! ## Looking up -/

/-- A registration whose metadata URI is remote has its metadata there. -/
theorem metadataPlace_of_remote {l : Locator} {r : Registration} {uri url : String}
    {timeout : Binary64} (hr : r.metadataUri = some uri)
    (hl : l.locate uri = .ok (.remote url timeout)) : r.metadataPlace = uri := by
  have hne : uri ≠ "" := by
    rintro rfl
    have hempty : l.locate "" = .ok (.ofPath (.ofString "") "") := rfl
    cases hempty.symm.trans hl
  rw [Registration.metadataPlace, hr, Option.filter_some, if_pos (bne_iff_ne.2 hne),
    Option.getD_some]

/-- A fetch that succeeds has the file at its place: one that was kept before, or the whole body of
the network's answer. -/
theorem holds_of_fetched {s : Settings} {c : Catalog} {i : Nat} {r : Registration}
    {uri url : String} {timeout : Binary64} (hw : Wired s c) (hi : c.waiting[i]? = some r)
    (hm : r.metadataUri = some uri) (hl : s.locator.locate uri = .ok (.remote url timeout))
    (hf : (Prefetch.fetchAndNote c.loader.source r c.world).1.fault = none) :
    ∃ target bytes, CacheLayout.pathOf s.cacheFolder uri = .ok target ∧ target.hasNul = false ∧
      (c.fetchAt i).world.disk.Holds target bytes ∧
      (c.world.disk.Holds target bytes ∨
        ∃ d, (c.world.network.fetch url).2 = .ok (.ok d) ∧ d.body = .ok bytes) := by
  obtain ⟨target, hp⟩ := Loader.pathOf_of_locate s.cacheFolder hl
  have hlead : c.loader.lead uri = .ok (.kept url target) := by
    rw [hw.loader]
    exact Loader.lead_eq_kept_iff.2 ⟨s.cacheFolder, timeout, rfl, hl, hp⟩
  obtain ⟨v, hdisk, hnetwork, hafter, -, hok⟩ := fetchAndNote_on c.loader r c.world
  obtain ⟨resource, hresource⟩ := hok hf
  have hfetched : (c.fetchAt i).world.disk =
      (Prefetch.fetchAndNote c.loader.source r c.world).2.disk := by
    rw [fetchAt, hi]
    rfl
  rw [Loader.metadataResource_eq, metadataPlace_of_remote hm hl] at hafter hresource
  have hloads := c.loader.loads uri v
  rw [hresource] at hloads
  obtain ⟨-, hn, bytes, hb, hsource⟩ := hloads.holds_of_ok hlead
  rw [hdisk, hnetwork] at hsource
  rw [← hafter, ← hfetched] at hb
  exact ⟨target, bytes, hp, hn, hb, hsource⟩

/-- Once the metadata of a registration have been fetched in advance, a lookup of any entry with the
same metadata URI, in whatever has become of the catalog and whatever the network would answer,
requests nothing and gives the options of the bytes that came then. -/
theorem info_after_fetch {s : Settings} {before w : World} {c₀ c : Catalog} {i : Nat}
    {r : Registration} {uri url : String} {timeout : Binary64}
    (hopen : (ofSettings s true).on before = (.ok c₀, w))
    (hrun : Continues s (fun _ _ => True) c₀ c) (hi : c.waiting[i]? = some r)
    (hm : r.metadataUri = some uri) (hl : s.locator.locate uri = .ok (.remote url timeout))
    (hf : (Prefetch.fetchAndNote c.loader.source r c.world).1.fault = none) :
    ∃ target bytes, CacheLayout.pathOf s.cacheFolder uri = .ok target ∧
      (c.world.disk.Holds target bytes ∨
        ∃ d, (c.world.network.fetch url).2 = .ok (.ok d) ∧ d.body = .ok bytes) ∧
      ∀ c', Continues s (World.Keeps s.cacheFolder) (c.fetchAt i) c' →
        ∀ type name r', c'.store.find type name = .ok (some r') → r'.metadataUri = some uri →
          ∀ net exhaustive, let u := { c' with world := { c'.world with network := net } }
            (info type name exhaustive).on u =
              ((Metadata.ofBytes uri bytes).map fun m => ⟨r', m.options exhaustive⟩, u) := by
  have hw : Wired s c := hrun.wired (wired_of_ofSettings_on hopen)
  obtain ⟨target, bytes, hp, hn, hb, hsource⟩ := holds_of_fetched hw hi hm hl hf
  refine ⟨target, bytes, hp, hsource, ?_⟩
  intro c' hrun' type name r' hfind hm' net exhaustive u
  have hwired : Wired s (c.fetchAt i) := by
    have hkeeps : Keeps ⟨s.locator, some s.cacheFolder⟩
        (s.registryFolder.child Store.fileName.toList) s.cacheFolder c (c.fetchAt i) :=
      keeps_fetchAt rfl i c
    obtain ⟨hloader, hfile, -⟩ := hkeeps hw.loader hw.file
    exact ⟨hloader, hfile⟩
  have hwired' := hrun'.wired hwired
  have hheld := hrun'.keepsDownloads hwired target bytes ⟨uri, hp⟩ hb
  have hlead : c'.loader.lead uri = .ok (.kept url target) := by
    rw [hwired'.loader]
    exact Loader.lead_eq_kept_iff.2 ⟨s.cacheFolder, timeout, rfl, hl, hp⟩
  obtain ⟨hresource, hread⟩ := Loader.resource_of_holds (w := u.world) hlead hn hheld
  have hload : (u.loader.resource r'.metadataPlace).on u.world =
      (.ok (.ofPath target uri), u.world) := by
    rw [metadataPlace_of_remote hm' hl]
    exact hresource
  have hdescription : (Resource.ofPath target uri).description = uri := by
    have hne : uri ≠ "" := by
      rintro rfl
      have hempty : s.locator.locate "" = .ok (.ofPath (.ofString "") "") := rfl
      cases hempty.symm.trans hl
    rw [Resource.ofPath, if_neg hne]
    rfl
  rw [info_on (c := u) hfind, hload]
  simp only [Metadata.resolve_on, hread, hdescription]
  rcases hbytes : Metadata.ofBytes uri bytes with f | m
  · rfl
  · rfl

/-- Metadata that have come before the entry is removed serve another entry that names them, when the
network has nothing any more. -/
theorem info_after_fetch_of_other_entry :
    let s : Settings := ⟨⟨.relative, ["registry".toList]⟩, ⟨.relative, ["cache".toList]⟩, 1,
      Locator.centralRepository, Locator.standardTimeout, "INFO"⟩
    let metadata := Utf8.encode "properties: [{id: port}]".toList
    let replies : Replies := [("http://h/m", .answer 200 [] [metadata] none)]
    let before : World := ⟨.empty, replies, [], []⟩
    let a : Registration := ⟨.app, "a", "http://h/a", some "http://h/m"⟩
    let b : Registration := ⟨.sink, "b", "http://h/b", some "http://h/m"⟩
    ∃ c₀ w, (ofSettings s true).on before = (.ok c₀, w) ∧
      let c := ((register a false).on c₀).2.fetchAt 0
      let c' := ((register b false).on ((unregister .app "a").on c).2).2
      ∀ net, let u := { c' with world := { c'.world with network := net } }
        ((info .sink "b" false).on u).2 = u ∧
          ((info .sink "b" false).on u).1.map (fun d => d.options.map ConfigOption.id) =
            .ok ["port"] := by
  intro s metadata replies before a b
  let c₀ : Catalog := ⟨⟨s.registryFolder.child Store.fileName.toList, .empty⟩,
    ⟨s.locator, some s.cacheFolder⟩,
    { before with disk := ⟨[], [["cache".toList], ["registry".toList]], [], none⟩ }, []⟩
  have hopen : (ofSettings s true).on before = (.ok c₀, c₀.world) := rfl
  refine ⟨c₀, c₀.world, hopen, ?_⟩
  intro c c' net u
  have hrun : Continues s (fun _ _ => True) c₀ ((register a false).on c₀).2 :=
    .register .refl a false
  have hrun' : Continues s (World.Keeps s.cacheFolder) c c' :=
    .register (.unregister .refl .app "a") b false
  have hlocate : s.locator.locate "http://h/m" =
      .ok (.remote "http://h/m" Locator.standardTimeout) := by decide +kernel
  obtain ⟨target, bytes, hp, hsource, hafter⟩ := info_after_fetch hopen hrun (i := 0) (r := a)
    (by decide +kernel) rfl hlocate (by decide +kernel)
  have hfind : c'.store.find .sink "b" = .ok (some b) := by decide +kernel
  have hinfo := hafter c' hrun' .sink "b" b hfind rfl
  clear_value c'
  have hbytes : bytes = metadata := by
    rcases hsource with hb | ⟨d, hd, hb⟩
    · have hmissing : (CacheLayout.pathOf s.cacheFolder "http://h/m").map
          ((register a false).on c₀).2.world.disk.read = .ok (.error .noSuchFile) := by
        decide +kernel
      rw [hp, Except.map, hb.read] at hmissing
      cases Except.ok.inj hmissing
    · have hanswer : (((register a false).on c₀).2.world.network.fetch "http://h/m").2 =
          .ok (.ok ⟨[metadata], none⟩) := by decide +kernel
      cases hanswer.symm.trans hd
      exact (Except.ok.inj hb).symm
  have hoptions : (Metadata.ofBytes "http://h/m" metadata).map
      (fun m => (m.options false).map ConfigOption.id) = .ok ["port"] := by decide +kernel
  rw [hinfo net false, hbytes, ← hoptions]
  refine ⟨rfl, ?_⟩
  rcases Metadata.ofBytes "http://h/m" metadata with f | m
  · rfl
  · rfl

end Catalog

end AppCatalog
