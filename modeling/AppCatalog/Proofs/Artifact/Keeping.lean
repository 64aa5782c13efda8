import AppCatalog.Proofs.Artifact.Breakdown
import AppCatalog.Proofs.Artifact.Place

/-!
# What loading does to the files

A download opens a new file, and when it is brought to its end that file is gone: a whole body
stands at its place, or nothing else has changed (`opened_ok`, `finish_cases`). So loading a resource
does one of few things: it finds the file, it leaves all files as they were, or it puts one whole body
where no file was (`Loads`, `loads`). A file that has once been downloaded stays as it is, whatever
is loaded after it (`Loads.keepsDownloads`).
-/

namespace AppCatalog

open FileTree

/-- A path leads to a file, and is one that can be used. -/
def FileTree.Keeps (t : FileTree) (p : Path) : Prop := p.hasNul = false ∧ ∃ bytes, t.Holds p bytes

/-- A file goes on being kept while folders stay and a file stands at its key. -/
theorem FileTree.Keeps.mono {t u : FileTree} {p : Path} (h : t.Keeps p)
    (hfolders : KeepsFolders t u)
    (hfiles : ∀ k, t.resolve p = .ok k → t.bytesAt? k ≠ none → u.bytesAt? k ≠ none) :
    u.Keeps p := by
  obtain ⟨hn, bytes, k, hr, hb⟩ := h
  have hu := hfiles k hr (by simp [hb])
  obtain ⟨bytes', hb'⟩ := Option.ne_none_iff_exists'.1 hu
  exact ⟨hn, bytes', k, resolve_of_keepsFolders hfolders hr, hb'⟩

/-- What is written behind the bytes of a file: all that is to be written, unless the write fails. -/
theorem FileTree.append_on (t : FileTree) {k : FileKey} {held : Bytes}
    (hk : t.bytesAt? k = some held) (bytes : Bytes) :
    ∃ more room, (t.append k bytes).2 = { t.put k (held ++ more) with room := room } ∧
      ((t.append k bytes).1 = .ok () → more = bytes) ∧ (t.room = none → room = none) := by
  rw [append, hk, Option.getD_some]
  split
  · next hroom => exact ⟨bytes, none, by rw [← hroom]; rfl, fun _ => rfl, fun _ => rfl⟩
  · next room hroom =>
      split
      · refine ⟨bytes, _, rfl, fun _ => rfl, ?_⟩
        rw [hroom]
        rintro ⟨⟩
      · refine ⟨bytes.take room, _, rfl, ?_, ?_⟩
        · rintro ⟨⟩
        · rw [hroom]
          rintro ⟨⟩

namespace Reception

variable {target : Path} {r : Reception} {w : World}

/-! ## A download from its start to its end -/

/-- A download is opened by a new empty file, in a folder that the folder of its place is. -/
theorem opened_ok {w' : World} (h : (opened target).on w = (.ok r, w')) :
    ∃ t key, w.disk.makeFolders target.folder = .ok t ∧ t.resolve target.folder = .ok key ∧
      r = ⟨temporaryKey t key, target⟩ ∧ w' = { w with disk := t.put r.temporary [] } ∧
      t.bytesAt? r.temporary = none := by
  rw [opened_on] at h
  split at h
  · cases h
  · next t hm =>
      split at h
      · cases h
      · next key hr =>
          cases h
          exact ⟨t, key, hm, hr, rfl, rfl, bytesAt?_temporaryKey t key⟩

theorem opened_error {f : Failure} {w' : World} (h : (opened target).on w = (.error f, w')) :
    ∃ t, w' = { w with disk := t } ∧ t.files = w.disk.files ∧ KeepsFolders w.disk t := by
  rw [opened_on] at h
  split at h
  · cases h
    exact ⟨w.disk, rfl, rfl, .refl _⟩
  · next t hm =>
      split at h
      · cases h
        exact ⟨t, rfl, (hasFolders_of_makeFolders hm).1, keepsFolders_of_makeFolders hm⟩
      · cases h

/-- Pieces are written into one file and touch no other. -/
theorem appendPieces_effect {key : FileKey} {held : Bytes} (pieces : List Bytes)
    (hk : w.disk.bytesAt? key = some held) :
    ∃ files room more, ((appendPieces key pieces).on w).2 =
        { w with disk := { w.disk with files := files, room := room } } ∧
      Assoc.erase key files = Assoc.erase key w.disk.files ∧
      Assoc.get? key files = some (held ++ more) ∧
      (((appendPieces key pieces).on w).1 = .ok () → more = pieces.flatten) ∧
      (w.disk.room = none → room = none) := by
  induction pieces generalizing w held with
  | nil =>
      refine ⟨w.disk.files, w.disk.room, [], rfl, rfl, ?_, fun _ => rfl, id⟩
      rw [List.append_nil]
      exact hk
  | cons piece pieces ih =>
      obtain ⟨more, room, ht, hmore, hroom⟩ := w.disk.append_on hk piece
      rw [appendPieces_cons_on]
      rcases ha : w.disk.append key piece with ⟨fault | u, t⟩
      · rw [ha] at ht
        change t = _ at ht
        subst ht
        refine ⟨_, room, more, rfl, Assoc.erase_insert_self _ _ _, Assoc.get?_insert_self _ _ _, ?_,
          hroom⟩
        rintro ⟨⟩
      · rw [ha] at ht hmore
        change t = _ at ht
        subst ht
        obtain rfl := hmore rfl
        obtain ⟨files, room', more', hon, herase, hget, hmore', hroom'⟩ :=
          ih (w := { w with disk := { w.disk.put key (held ++ more) with room := room } })
            (Assoc.get?_insert_self _ _ _)
        refine ⟨files, room', more ++ more', hon, ?_, ?_, ?_, fun h => hroom' (hroom h)⟩
        · rw [herase]
          exact Assoc.erase_insert_self _ _ _
        · rw [hget, List.append_assoc]
        · intro hok
          rw [hmore' hok, List.flatten_cons]

/-- A download that has been received stands at its place; otherwise only its temporary file has
changed. -/
theorem receive_effect (hb : w.disk.bytesAt? r.temporary = some []) (url : String) :
    ∃ files room, ((r.receive url).on w).2 =
        { w with
          requested := w.requested ++ (w.network.fetch url).1,
          disk := { w.disk with files := files, room := room } } ∧
      (w.disk.room = none → room = none) ∧
      ((∃ f, ((r.receive url).on w).1 = .error f ∧
          Assoc.erase r.temporary files = Assoc.erase r.temporary w.disk.files) ∨
        ∃ d k, ((r.receive url).on w).1 = .ok () ∧ (w.network.fetch url).2 = .ok (.ok d) ∧
          d.broken = none ∧ r.target.hasNul = false ∧ w.disk.resolve r.target = .ok k ∧
          w.disk.isFolder k = false ∧
          files = Assoc.insert k d.pieces.flatten (Assoc.erase r.temporary w.disk.files)) := by
  rw [receive_on]
  rcases hd : (w.network.fetch url).2 with f | fault | d
  · exact ⟨w.disk.files, w.disk.room, rfl, id, Or.inl ⟨f, rfl, rfl⟩⟩
  · exact ⟨w.disk.files, w.disk.room, rfl, id, Or.inl ⟨_, rfl, rfl⟩⟩
  · obtain ⟨files, room, more, hon, herase, hget, hmore, hroom⟩ := appendPieces_effect
      (w := { w with requested := w.requested ++ (w.network.fetch url).1 }) d.pieces hb
    simp only
    rcases ha : (appendPieces r.temporary d.pieces).on
      { w with requested := w.requested ++ (w.network.fetch url).1 } with ⟨f | u, v⟩
    · rw [ha] at hon
      change v = _ at hon
      subst hon
      exact ⟨files, room, rfl, hroom, Or.inl ⟨f, rfl, herase⟩⟩
    · rw [ha] at hon hmore
      change v = _ at hon
      subst hon
      obtain rfl := hmore rfl
      simp only
      rcases hw : d.broken with _ | text
      · simp only
        cases hn : r.target.hasNul with
        | true =>
            rw [takePlace_of_refuses (.nul hn)]
            exact ⟨files, room, rfl, hroom, Or.inl ⟨_, rfl, herase⟩⟩
        | false =>
            rw [takePlace_on hn]
            simp only
            rcases hr : resolve _ r.target with fault | k
            · exact ⟨files, room, rfl, hroom, Or.inl ⟨_, rfl, herase⟩⟩
            · have hk : w.disk.resolve r.target = .ok k := (resolve_eq_ok_iff (by rfl)).1 hr
              simp only [move, bytesAt?, hget, List.nil_append]
              split
              · next ht =>
                  split at ht
                  · cases ht
                    exact ⟨files, room, rfl, hroom, Or.inl ⟨_, rfl, herase⟩⟩
                  · cases ht
              · next t ht =>
                  split at ht
                  · cases ht
                  · next hf =>
                      cases ht
                      rw [Bool.not_eq_true] at hf
                      refine ⟨_, room, rfl, hroom,
                        Or.inr ⟨d, k, rfl, rfl, hw, trivial, hk, hf, ?_⟩⟩
                      change Assoc.insert k _ (Assoc.erase r.temporary files) = _
                      rw [herase]
      · exact ⟨files, room, rfl, hroom, Or.inl ⟨_, rfl, herase⟩⟩

theorem finish_on (r : Reception) (url : String) (w : World) :
    (r.finish url).on w = match (r.receive url).on w with
      | (.ok (), v) => (.ok (), v)
      | (.error f, v) => (.error f, { v with disk := v.disk.remove r.temporary }) := by
  rw [finish, Run.on_bind, Run.on_outcome]
  rcases (r.receive url).on w with ⟨f | u, v⟩
  · rfl
  · rfl

/-- A download that has been brought to its end has left a whole body at its place or nothing at
all, and its temporary file is gone. -/
theorem finish_cases (hb : w.disk.bytesAt? r.temporary = some []) (url : String) :
    ∃ room, (w.disk.room = none → room = none) ∧
      ((∃ f, (r.finish url).on w = (.error f,
          { w with
            requested := w.requested ++ (w.network.fetch url).1,
            disk := { w.disk.remove r.temporary with room := room } })) ∨
        ∃ d k, (r.finish url).on w = (.ok (),
            { w with
              requested := w.requested ++ (w.network.fetch url).1,
              disk :=
                { (w.disk.remove r.temporary).put k d.pieces.flatten with room := room } }) ∧
          (w.network.fetch url).2 = .ok (.ok d) ∧ d.broken = none ∧ r.target.hasNul = false ∧
          w.disk.resolve r.target = .ok k ∧ w.disk.isFolder k = false) := by
  obtain ⟨files, room, hon, hroom, hcases⟩ := receive_effect hb url
  refine ⟨room, hroom, ?_⟩
  rw [finish_on]
  rcases hreceive : (r.receive url).on w with ⟨result, v⟩
  rw [hreceive] at hon hcases
  change v = _ at hon
  subst hon
  rcases hcases with ⟨f, hf, herase⟩ | ⟨d, k, hok, hd, hw, hn, hk, hfolder, rfl⟩
  · change result = _ at hf
    subst hf
    refine Or.inl ⟨f, ?_⟩
    simp only [remove, herase]
  · change result = _ at hok
    subst hok
    exact Or.inr ⟨d, k, rfl, hd, hw, hn, hk, hfolder⟩

end Reception

/-! ## Loading -/

namespace Loader

open CacheLayout

variable {l : Loader} {cache target : Path} {uri url : String} {w v : World}
  {result : Except Failure Resource}

/-- A remote resource is kept where the cache layout says. -/
theorem lead_eq_kept_iff : l.lead uri = .ok (.kept url target) ↔
    ∃ cache timeout, l.cache = some cache ∧ l.locator.locate uri = .ok (.remote url timeout) ∧
      pathOf cache uri = .ok target := by
  rw [lead]
  rcases hl : l.locator.locate uri with f | r
  · refine iff_of_false ?_ ?_
    · rintro ⟨⟩
    · rintro ⟨_, _, -, h, -⟩
      cases h
  · rcases hc : l.cache with _ | cache
    · refine iff_of_false ?_ ?_
      · cases r <;> rintro ⟨⟩
      · rintro ⟨_, _, h, -⟩
        cases h
    · cases r with
      | file path description =>
          refine iff_of_false ?_ ?_
          · rintro ⟨⟩
          · rintro ⟨_, _, -, h, -⟩
            cases h
      | inline data description =>
          refine iff_of_false ?_ ?_
          · rintro ⟨⟩
          · rintro ⟨_, _, -, h, -⟩
            cases h
      | remote url' timeout =>
          simp only [bind, Except.bind]
          rcases hp : pathOf cache uri with f | target'
          · refine iff_of_false ?_ ?_
            · rintro ⟨⟩
            · rintro ⟨_, _, h, -, hp'⟩
              cases h
              cases hp.symm.trans hp'
          · constructor
            · rintro ⟨⟩
              exact ⟨cache, timeout, rfl, rfl, hp⟩
            · rintro ⟨_, _, h, hr, hp'⟩
              cases h
              cases hr
              cases hp.symm.trans hp'
              rfl

/-- What can be located has a place in the cache. -/
theorem pathOf_of_locate (cache : Path) {locator : Locator} {r : Resource}
    (h : locator.locate uri = .ok r) : ∃ target, pathOf cache uri = .ok target := by
  rw [Locator.locate] at h
  rw [CacheLayout.pathOf]
  split at h
  · cases h
  · exact ⟨_, rfl⟩

theorem isPlace_of_lead (hc : l.cache = some cache) (h : l.lead uri = .ok (.kept url target)) :
    IsPlace cache target := by
  obtain ⟨cache', _, hc', -, hp⟩ := lead_eq_kept_iff.1 h
  cases hc.symm.trans hc'
  exact ⟨uri, hp⟩

theorem isKept_eq_true_iff : (isKept target).on w = (.ok true, w) ↔ w.disk.Keeps target := by
  rw [isKept_on, Keeps, ← isFile_iff_holds]
  cases target.hasNul with
  | true => simp
  | false =>
      simp only [Bool.false_eq_true, if_false, Prod.mk.injEq, and_true, true_and]
      rcases w.disk.isFile target with f | b
      · simp [Except.mapError]
      · simp [Except.mapError]

/-- What loading a resource can come to. -/
inductive Loads (l : Loader) (uri : String) (w : World) : Except Failure Resource → World → Prop
  /-- The URI leads nowhere. -/
  | nowhere {f : Failure} (h : l.lead uri = .error f) : Loads l uri w (.error f) w
  | atHand {r : Resource} (h : l.lead uri = .ok (.atHand r)) : Loads l uri w (.ok r) w
  /-- The place of the file cannot be looked at. -/
  | unseen {url : String} {target : Path} {f : Failure} (h : l.lead uri = .ok (.kept url target))
    (hk : (isKept target).on w = (.error f, w)) : Loads l uri w (.error f) w
  /-- The file is there. -/
  | found {url : String} {target : Path} {bytes : Bytes} (h : l.lead uri = .ok (.kept url target))
    (hn : target.hasNul = false) (hb : w.disk.Holds target bytes) :
    Loads l uri w (.ok (.ofPath target uri)) w
  /-- Nothing has come; folders may have been made. -/
  | failed {url : String} {target : Path} {f : Failure} {v : World}
    (h : l.lead uri = .ok (.kept url target)) (hk : (isKept target).on w = (.ok false, w))
    (hfiles : v.disk.files = w.disk.files) (hfolders : KeepsFolders w.disk v.disk) :
    Loads l uri w (.error f) v
  /-- The whole body of a successful answer has been put where no file was. -/
  | downloaded {url : String} {target : Path} {d : Download} {k : FileKey} {v : World}
    (h : l.lead uri = .ok (.kept url target)) (hk : (isKept target).on w = (.ok false, w))
    (hd : (w.network.fetch url).2 = .ok (.ok d)) (hw : d.broken = none)
    (hn : target.hasNul = false) (hr : v.disk.resolve target = .ok k)
    (hfiles : v.disk.files = Assoc.insert k d.pieces.flatten w.disk.files)
    (hfolders : KeepsFolders w.disk v.disk) : Loads l uri w (.ok (.ofPath target uri)) v

/-- A missing file is downloaded, or nothing has come. -/
theorem loads_of_missing (h : l.lead uri = .ok (.kept url target))
    (hk : (isKept target).on w = (.ok false, w)) :
    l.Loads uri w ((l.resource uri).on w).1 ((l.resource uri).on w).2 := by
  rw [resource_on]
  simp only [h, hk]
  rcases ho : (Reception.opened target).on w with ⟨f | r, v⟩
  · obtain ⟨t, rfl, hfiles, hfolders⟩ := Reception.opened_error ho
    exact .failed h hk hfiles hfolders
  · obtain ⟨t, key, hm, -, hr, rfl, hnew⟩ := Reception.opened_ok ho
    have hfiles := (hasFolders_of_makeFolders hm).1
    have hfolders : KeepsFolders w.disk t := keepsFolders_of_makeFolders hm
    have hback : (t.put r.temporary []).remove r.temporary = t := remove_put hnew []
    obtain ⟨room, -, ⟨f, hf⟩ | ⟨d, k, hok, hd, hw, hn, hk', hfolder⟩⟩ :=
      Reception.finish_cases (w := { w with disk := t.put r.temporary [] })
        (Assoc.get?_insert_self _ _ _) url
    · simp only [hf, hback]
      exact .failed h hk hfiles hfolders
    · have htarget : r.target = target := by rw [hr]
      rw [htarget] at hn hk'
      simp only [hok, hback]
      exact .downloaded h hk hd hw hn ((resolve_eq_ok_iff (by rfl)).2 hk')
        (congrArg (Assoc.insert k _) hfiles) hfolders

/-- Loading a resource comes to one of few things. -/
theorem loads (l : Loader) (uri : String) (w : World) :
    l.Loads uri w ((l.resource uri).on w).1 ((l.resource uri).on w).2 := by
  rcases h : l.lead uri with f | r | ⟨url, target⟩
  · rw [resource_on, h]
    exact .nowhere h
  · rw [resource_on, h]
    exact .atHand h
  · have hkept := isKept_on target w
    rcases hk : (isKept target).on w with ⟨f | (_ | _), w'⟩
    · obtain rfl : w' = w := congrArg Prod.snd (hk.symm.trans hkept)
      rw [resource_on]
      simp only [h, hk]
      exact .unseen h hk
    · obtain rfl : w' = w := congrArg Prod.snd (hk.symm.trans hkept)
      exact loads_of_missing h hk
    · obtain rfl : w' = w := congrArg Prod.snd (hk.symm.trans hkept)
      obtain ⟨hn, bytes, hb⟩ := isKept_eq_true_iff.1 hk
      rw [resource_on]
      simp only [h, hk]
      exact .found h hn hb

/-- Loading that succeeds has the file at its place: one that was kept before, or the whole body of
the network's answer. -/
theorem Loads.holds_of_ok {r : Resource} (h : l.Loads uri w (.ok r) v)
    (hl : l.lead uri = .ok (.kept url target)) :
    r = .ofPath target uri ∧ target.hasNul = false ∧ ∃ bytes, v.disk.Holds target bytes ∧
      (w.disk.Holds target bytes ∨
        ∃ d, (w.network.fetch url).2 = .ok (.ok d) ∧ d.body = .ok bytes) := by
  cases h with
  | atHand h => cases hl.symm.trans h
  | @found _ _ bytes h hn hb =>
      cases hl.symm.trans h
      exact ⟨rfl, hn, bytes, hb, Or.inl hb⟩
  | @downloaded _ _ d k _ h hk hd hw hn hr hfiles hfolders =>
      cases hl.symm.trans h
      refine ⟨rfl, hn, d.pieces.flatten, ⟨k, hr, ?_⟩, Or.inr ⟨d, hd, ?_⟩⟩
      · rw [bytesAt?, hfiles, Assoc.get?_insert_self]
      · rw [Download.body, hw]

/-- A loader that keeps downloads makes its cache folder. -/
theorem prepare_on (hc : l.cache = some cache) (w : World) :
    l.prepare.on w = match w.disk.makeFolders cache with
      | .ok t => (.ok (), { w with disk := t })
      | .error fault => (.error (.breakdown (.os fault)), w) := by
  rw [prepare, hc]
  refine (Run.on_bind_ok (Run.on_get w)).trans ?_
  rw [Run.on_bind_ofDisk]
  rcases w.disk.makeFolders cache with fault | t
  · rfl
  · rfl

/-- A resource whose file is there is given at once: nothing is requested and nothing changes. -/
theorem resource_of_holds {bytes : Bytes} (h : l.lead uri = .ok (.kept url target))
    (hn : target.hasNul = false) (hb : w.disk.Holds target bytes) :
    (l.resource uri).on w = (.ok (.ofPath target uri), w) ∧
      (Resource.ofPath target uri).read.on w = (.ok bytes, w) := by
  constructor
  · rw [resource_on]
    simp only [h, isKept_eq_true_iff.2 ⟨hn, bytes, hb⟩]
  · rw [Resource.ofPath, Resource.read, Resource.readFile_on, hn, hb.read]
    rfl

end Loader

/-! ## Downloads that stay -/

/-- Every file that is kept in one tree is kept in the other, with the same bytes. -/
def KeepsDownloads (cache : Path) (t t' : FileTree) : Prop :=
  ∀ target bytes, CacheLayout.IsPlace cache target → t.Holds target bytes → t'.Holds target bytes

theorem KeepsDownloads.refl (cache : Path) (t : FileTree) : KeepsDownloads cache t t :=
  fun _ _ _ h => h

theorem KeepsDownloads.trans {cache : Path} {t t' t'' : FileTree} (h : KeepsDownloads cache t t')
    (h' : KeepsDownloads cache t' t'') : KeepsDownloads cache t t'' :=
  fun target bytes hp hb => h' target bytes hp (h target bytes hp hb)

theorem keepsDownloads_of_files {cache : Path} {t t' : FileTree} (hfiles : t'.files = t.files)
    (hfolders : KeepsFolders t t') : KeepsDownloads cache t t' := by
  intro target bytes _ hb
  refine hb.keepsFolders hfolders fun k _ hk => ?_
  rw [bytesAt?, hfiles]
  exact hk

theorem keepsDownloads_of_makeFolders {cache p : Path} {t t' : FileTree}
    (h : t.makeFolders p = .ok t') : KeepsDownloads cache t t' :=
  keepsDownloads_of_files (hasFolders_of_makeFolders h).1 (keepsFolders_of_makeFolders h)

/-- What has been downloaded stays as it is, whatever is loaded later. -/
theorem Loader.Loads.keepsDownloads {l : Loader} {cache : Path} {uri : String} {w v : World}
    {result : Except Failure Resource} (hc : l.cache = some cache) (h : l.Loads uri w result v) :
    KeepsDownloads cache w.disk v.disk := by
  cases h with
  | nowhere | atHand | unseen | found => exact .refl cache w.disk
  | failed _ _ hfiles hfolders => exact keepsDownloads_of_files hfiles hfolders
  | @downloaded url target d k v h hk hd hw hn hr hfiles hfolders =>
      intro target' bytes hp hb
      refine hb.keepsFolders hfolders fun j hj hbytes => ?_
      have hne : k ≠ j := by
        rintro rfl
        -- two places at one key are one place, and no file was there
        obtain rfl := (isPlace_of_lead hc h).eq_of_resolve hp hr
          (resolve_of_keepsFolders hfolders hj)
        have hkept := isKept_eq_true_iff.2 ⟨hn, bytes, hb⟩
        cases hk.symm.trans hkept
      rw [bytesAt?, hfiles, Assoc.get?_insert, if_neg hne]
      exact hbytes

end AppCatalog
