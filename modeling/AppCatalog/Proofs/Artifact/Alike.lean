import AppCatalog.Proofs.Artifact.CacheFolder
import AppCatalog.Proofs.Run.Matches

/-!
# Loading with and without a cache

Without a cache a remote resource is requested when it is read; with one it is requested when it is
loaded, and read from its file. What is kept is what the network would answer, so both come to the
same bytes or to the same failure, only that the failure comes at another time (`Scene.load`). The two
worlds stay the same but for the cache folder and for what has been requested and logged.
-/

namespace AppCatalog

open FileTree CacheLayout Run

/-- What two catalogs share of which one keeps its downloads: how URIs are located, what the network
answers, the folder that downloads are kept in, and the URIs that are loaded. -/
structure Scene where
  locator : Locator
  network : Network
  cache : Path
  folder : FileKey
  uris : List String

namespace Scene

variable {s : Scene} {t u u' : FileTree} {w v v' : World} {uri url : String}

/-- The loader that keeps nothing. -/
def plain (s : Scene) : Loader := ⟨s.locator, none⟩

/-- The loader that keeps its downloads. -/
def keeping (s : Scene) : Loader := ⟨s.locator, some s.cache⟩

/-- The URIs that are loaded lead to no file in the cache folder, can be kept, and are kept apart. -/
structure Suits (s : Scene) : Prop where
  outside : ∀ uri ∈ s.uris, ∀ path description,
    s.locator.locate uri = .ok (.file path description) → StaysOut s.folder path
  accepted : ∀ uri ∈ s.uris, ∀ url timeout target, s.locator.locate uri = .ok (.remote url timeout) →
    pathOf s.cache uri = .ok target → Accepts target
  apart : ∀ uri ∈ s.uris, ∀ uri' ∈ s.uris, ∀ target, pathOf s.cache uri = .ok target →
    pathOf s.cache uri' = .ok target → uri = uri'

/-! ## Two worlds -/

/-- What is kept for the URIs is what the network answers. -/
def Served (s : Scene) (t : FileTree) : Prop :=
  ∀ uri ∈ s.uris, ∀ url timeout name bytes, s.locator.locate uri = .ok (.remote url timeout) →
    pathOf s.cache uri = .ok (placePath s.cache uri name) →
    t.bytesAt? (placeKey s.folder uri name) = some bytes → s.network.bodyOf url = .ok bytes

/-- Two trees of which the second one has a cache. -/
structure TreesAlike (s : Scene) (t u : FileTree) : Prop where
  outside : SameOutside s.folder t u
  room : t.room = none
  cache : IsCacheFolder s.cache s.folder u
  served : s.Served u

/-- Two worlds of which the second one has a cache. -/
def Alike (s : Scene) (w v : World) : Prop :=
  w.network = s.network ∧ v.network = s.network ∧ s.TreesAlike w.disk v.disk

/-- A file outside the cache folder is written in both trees or in none. -/
theorem TreesAlike.write (h : s.TreesAlike t u) {p : Path} (hp : StaysOut s.folder p)
    (bytes : Bytes) :
    (u.write p bytes).1 = (t.write p bytes).1 ∧
      s.TreesAlike (t.write p bytes).2 (u.write p bytes).2 := by
  obtain ⟨hfirst, ⟨ht, hu⟩ | ⟨k, hk, hfolder, ht, hu⟩⟩ := h.outside.write hp h.room bytes
  · rw [ht, hu]
    exact ⟨hfirst, h⟩
  · rw [ht, hu]
    refine ⟨hfirst, h.outside.put k bytes, h.room,
      h.cache.put hfolder (fun hin => absurd hin hk) bytes, ?_⟩
    intro uri hmem url timeout name held hl hp' hb
    refine h.served uri hmem url timeout name held hl hp' ?_
    rw [← hb, bytesAt?_put, if_neg]
    rintro rfl
    exact hk (liesIn_placeKey s.folder uri name)

/-- The answer of the network can be put at the place of its URI. -/
theorem TreesAlike.received (h : s.TreesAlike t u) (hs : s.Suits) (hmem : uri ∈ s.uris)
    {timeout : Binary64} {name : List Char} (hl : s.locator.locate uri = .ok (.remote url timeout))
    (hp : pathOf s.cache uri = .ok (placePath s.cache uri name)) :
    s.TreesAlike t (IsCacheFolder.received u s.folder uri name (s.network.bodyOf url)) := by
  obtain ⟨hcache, houtside⟩ := h.cache.received_cases uri name (s.network.bodyOf url)
  refine ⟨h.outside.trans houtside, h.room, hcache, ?_⟩
  intro uri' hmem' url' timeout' name' bytes hl' hp' hb
  have hsame : ∀ k, (u.withFolderAt (groupKey s.folder uri)).bytesAt? k = u.bytesAt? k := by
    intro k
    obtain ⟨folders, heq⟩ := u.withFolderAt_eq (groupKey s.folder uri)
    rw [heq]
    rfl
  rcases hbody : s.network.bodyOf url with f | body
  · rw [hbody, IsCacheFolder.received, hsame] at hb
    exact h.served uri' hmem' url' timeout' name' bytes hl' hp' hb
  · rw [hbody, IsCacheFolder.received, bytesAt?_put, hsame] at hb
    split at hb
    · next heq =>
        obtain ⟨hgroup, hname⟩ := placeKey_inj heq
        have hplace : placePath s.cache uri name = placePath s.cache uri' name' := by
          rw [placePath, placePath, hgroup, hname]
        obtain rfl := hs.apart uri hmem uri' hmem' _ hp (hplace ▸ hp')
        cases hl.symm.trans hl'
        exact hbody.trans (congrArg Except.ok (Option.some.inj hb))
    · exact h.served uri' hmem' url' timeout' name' bytes hl' hp' hb

/-! ## Loading -/

/-- What loading a URI comes to without a cache and with one. -/
inductive Comes (s : Scene) (uri : String) (u : FileTree) :
    Except Failure Resource → Except Failure Resource → Prop
  | nowhere (f : Failure) : Comes s uri u (.error f) (.error f)
  | file {path : Path} (description : String) (hp : StaysOut s.folder path) :
    Comes s uri u (.ok (.file path description)) (.ok (.file path description))
  /-- Bytes at hand, which no URI leads to. -/
  | inline (data : Bytes) (description : String) :
    Comes s uri u (.ok (.inline data description)) (.ok (.inline data description))
  /-- The network answers, and its answer is kept. -/
  | fetched {url : String} (timeout : Binary64) {target : Path} {bytes : Bytes}
    (hp : pathOf s.cache uri = .ok target) (hn : target.hasNul = false)
    (hbody : s.network.bodyOf url = .ok bytes) (hb : u.Holds target bytes) :
    Comes s uri u (.ok (.remote url timeout)) (.ok (.ofPath target uri))
  /-- The network does not answer, which without a cache shows later. -/
  | failed {url : String} (timeout : Binary64) {f : Failure}
    (hbody : s.network.bodyOf url = .error f) :
    Comes s uri u (.ok (.remote url timeout)) (.error f)

/-- What has been loaded stays so while what is kept stays. -/
theorem Comes.mono {x y : Except Failure Resource} (h : s.Comes uri u x y)
    (hkeeps : KeepsDownloads s.cache u u') : s.Comes uri u' x y := by
  cases h with
  | nowhere f => exact .nowhere f
  | file description hp => exact .file description hp
  | inline data description => exact .inline data description
  | fetched timeout hp hn hbody hb => exact .fetched timeout hp hn hbody (hkeeps _ _ ⟨uri, hp⟩ hb)
  | failed timeout hbody => exact .failed timeout hbody

/-- No URI leads to a resource of bytes at hand. -/
theorem locate_ne_inline {l : Locator} {data : Bytes} {description : String} :
    l.locate uri ≠ .ok (.inline data description) := by
  rw [Locator.locate]
  intro h
  split at h
  · cases h
  · simp only at h
    split at h
    · cases h
    · split at h
      · cases h
      · split at h
        · cases h
        · split at h
          · rcases hp : Coordinates.parse uri.toList with f | c
            · rw [hp] at h
              cases h
            · rw [hp] at h
              cases h
          · cases h

/-- Both loaders come to the same, and nothing else comes of it. -/
theorem load (h : s.Alike w v) (hs : s.Suits) (hmem : uri ∈ s.uris) :
    ((s.plain.resource uri).on w).2 = w ∧ s.Alike w ((s.keeping.resource uri).on v).2 ∧
      s.Comes uri ((s.keeping.resource uri).on v).2.disk ((s.plain.resource uri).on w).1
        ((s.keeping.resource uri).on v).1 := by
  rw [Loader.resource_on s.plain]
  rcases hl : s.locator.locate uri with f | ⟨path, description⟩ | ⟨url, timeout⟩ | ⟨data, description⟩
  · have hplain : s.plain.lead uri = .error f := by
      rw [Loader.lead, plain, hl]
      rfl
    have hkeeping : s.keeping.lead uri = .error f := by
      rw [Loader.lead, keeping, hl]
      rfl
    rw [Loader.resource_on, hplain, hkeeping]
    exact ⟨rfl, h, .nowhere f⟩
  · have hplain : s.plain.lead uri = .ok (.atHand (.file path description)) := by
      rw [Loader.lead, plain, hl]
      rfl
    have hkeeping : s.keeping.lead uri = .ok (.atHand (.file path description)) := by
      rw [Loader.lead, keeping, hl]
      rfl
    rw [Loader.resource_on, hplain, hkeeping]
    exact ⟨rfl, h, .file description (hs.outside uri hmem path description hl)⟩
  · obtain ⟨target, hp⟩ := Loader.pathOf_of_locate s.cache hl
    obtain ⟨name, rfl⟩ := pathOf_ok hp
    have ha := hs.accepted uri hmem url timeout _ hl hp
    have hplain : s.plain.lead uri = .ok (.atHand (.remote url timeout)) := by
      rw [Loader.lead, plain, hl]
      rfl
    have hkeeping : s.keeping.lead uri = .ok (.kept url (placePath s.cache uri name)) :=
      Loader.lead_eq_kept_iff.2 ⟨s.cache, timeout, rfl, hl, hp⟩
    obtain ⟨hw, hv, htrees⟩ := h
    rw [htrees.cache.resource_on ha (htrees.outside.room.trans htrees.room) hkeeping, hplain, hv]
    rcases hb : v.disk.bytesAt? (placeKey s.folder uri name) with _ | bytes
    · have hreceived := htrees.received hs hmem hl hp
      refine ⟨rfl, ⟨hw, rfl, hreceived⟩, ?_⟩
      simp only
      rcases hbody : s.network.bodyOf url with f | bytes
      · exact .failed timeout hbody
      · rw [hbody] at hreceived
        exact .fetched timeout hp ha.plain hbody
          (hreceived.cache.holds_of_bytesAt? ha (Assoc.get?_insert_self _ _ _))
    · refine ⟨rfl, ⟨hw, hv, htrees⟩, ?_⟩
      exact .fetched timeout hp ha.plain (htrees.served uri hmem url timeout name bytes hl hp hb)
        (htrees.cache.holds_of_bytesAt? ha hb)
  · exact absurd hl locate_ne_inline

/-! ## Reading -/

/-- What both loaders have found reads the same. -/
theorem Comes.read {r r' : Resource} (hc : s.Comes uri v.disk (.ok r) (.ok r'))
    (h : s.Alike w v) : MatchesFrom s.Alike r.read r'.read w v := by
  obtain ⟨hw, hv, htrees⟩ := h
  cases hc with
  | file description hp =>
      rw [MatchesFrom, Resource.read, Resource.readFile_on, Resource.readFile_on,
        htrees.outside.read hp]
      exact ⟨rfl, hw, hv, htrees⟩
  | inline data description => exact ⟨rfl, hw, hv, htrees⟩
  | @fetched url timeout target bytes hp hn hbody hb =>
      rw [MatchesFrom, Resource.ofPath, Resource.read, Resource.read, Resource.readFile_on, hn,
        hb.read, Resource.readRemote_on, hw]
      exact ⟨hbody.symm, rfl, hv, htrees⟩

/-- Where the network does not answer, reading fails as loading with a cache has failed. -/
theorem Comes.read_failed {r : Resource} {f : Failure} (hc : s.Comes uri v.disk (.ok r) (.error f))
    (h : s.Alike w v) : (r.read.on w).1 = .error f ∧ s.Alike (r.read.on w).2 v := by
  obtain ⟨hw, hv, htrees⟩ := h
  cases hc with
  | @failed url timeout f hbody =>
      rw [Resource.read, Resource.readRemote_on, hw]
      exact ⟨hbody, rfl, hv, htrees⟩

end Scene

end AppCatalog
