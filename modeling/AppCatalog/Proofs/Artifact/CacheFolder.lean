import AppCatalog.Proofs.Artifact.Keeping
import AppCatalog.Proofs.FileTree.Outside

/-!
# A download that nothing stands in the way of

Where the disk has room without end and takes every name, a download to the cache folder fails as the
network does and for no other reason (`Reception.finish_of_free`). So loading a resource that is to be
kept has a closed form (`IsCacheFolder.resource_on`), and it changes nothing outside the cache folder
(`IsCacheFolder.received_cases`).
-/

namespace AppCatalog

open FileTree CacheLayout

/-! ## Downloads that nothing stands in the way of -/

/-- The file system takes every name of a path. -/
structure FileTree.Accepts (p : Path) : Prop where
  plain : p.hasNul = false
  names : ∀ s ∈ p.segments, (Utf8.encode s).length ≤ maxName
  whole : (Utf8.encode p.text).length < maxPath

/-- What requesting a URL and reading all of the answer comes to. -/
def Network.bodyOf (net : Network) (url : String) : Except Failure Bytes :=
  (net.fetch url).2.bind fun d => (d.bind Download.body).mapError fun f =>
    .resource (.unfetchable (Resource.urlDescription url) f)

namespace Reception

variable {r : Reception} {w : World} {u : FileTree} {k : FileKey} {held : Bytes}

/-- A download with room for it and a place to take fails only as the network does. -/
theorem receive_on_fst (hb : w.disk.bytesAt? r.temporary = some held) (hroom : w.disk.room = none)
    (hn : r.target.hasNul = false) (hr : w.disk.resolve r.target = .ok k)
    (hk : w.disk.isFolder k = false) (url : String) :
    ((r.receive url).on w).1 = (w.network.bodyOf url).map fun _ => () := by
  rw [receive_on, Network.bodyOf]
  rcases (w.network.fetch url).2 with f | fault | d
  · rfl
  · rfl
  · have hfree : w.disk.HasRoom d.pieces.flatten.length := by
      intro room h
      cases hroom.symm.trans h
    obtain ⟨t, ha, hbytes, hplaces⟩ := appendPieces_of_hasRoom
      (w := { w with requested := w.requested ++ (w.network.fetch url).1 }) hb hfree
    simp only [ha, Except.bind, Download.body]
    rcases d.broken with _ | text
    · rcases takePlace_cases (r := r) (w := { w with
        requested := w.requested ++ (w.network.fetch url).1, disk := t }) hbytes with
        ⟨b, hp⟩ | ⟨-, t', hmoved⟩
      · exfalso
        rcases hplaces.refuses.1 hp with hnul | ⟨-, hlost⟩ | ⟨-, hfound, hfolder⟩
        · cases hn.symm.trans hnul
        · cases hr.symm.trans hlost
        · cases hr.symm.trans hfound
          cases hk.symm.trans hfolder
      · exact congrArg Prod.fst hmoved
    · rfl

/-- What it leaves: the whole body at its place, or nothing. -/
theorem finish_of_free (w : World) (hnew : u.bytesAt? r.temporary = none) (hroom : u.room = none)
    (hn : r.target.hasNul = false) (hr : u.resolve r.target = .ok k) (hk : u.isFolder k = false)
    (url : String) :
    (r.finish url).on { w with disk := u.put r.temporary [] } =
      ((w.network.bodyOf url).map fun _ => (),
        { w with
          requested := w.requested ++ (w.network.fetch url).1,
          disk := match w.network.bodyOf url with
            | .ok bytes => u.put k bytes
            | .error _ => u }) := by
  have hback : (u.put r.temporary []).remove r.temporary = u := remove_put hnew []
  have hplace : (u.put r.temporary []).resolve r.target = .ok k :=
    (resolve_eq_ok_iff (by rfl)).2 hr
  have hfirst := receive_on_fst (w := { w with disk := u.put r.temporary [] })
    (Assoc.get?_insert_self _ _ _) hroom hn hplace hk url
  rw [← finish_on_fst] at hfirst
  obtain ⟨room, hnone, ⟨f, hf⟩ | ⟨d, k', hok, hd, hw, -, hk', -⟩⟩ :=
    finish_cases (w := { w with disk := u.put r.temporary [] }) (Assoc.get?_insert_self _ _ _) url
  · obtain rfl := hnone hroom
    rw [hf] at hfirst ⊢
    rcases hbody : w.network.bodyOf url with f' | bytes
    · rw [hbody] at hfirst
      cases hfirst
      simp only [hback, ← hroom]
      rfl
    · rw [hbody] at hfirst
      cases hfirst
  · obtain rfl := hnone hroom
    cases hplace.symm.trans hk'
    have hbody : w.network.bodyOf url = .ok d.pieces.flatten := by
      rw [Network.bodyOf, hd]
      simp only [Except.bind, Download.body, hw]
      rfl
    rw [hok, hbody]
    simp only [hback, ← hroom]
    rfl

end Reception

/-! ## The cache folder -/

/-- A cache folder as downloads leave it: it is there, files stand two levels down in folders that
stand one level down, and there is nothing else in it. -/
structure IsCacheFolder (cache : Path) (folder : FileKey) (t : FileTree) : Prop where
  leads : t.resolve cache = .ok folder
  made : t.HasFolders cache
  files : ∀ k, LiesIn folder k → t.bytesAt? k ≠ none →
    ∃ group name, k = folder ++ [group, name] ∧ t.isFolder (folder ++ [group]) = true
  folders : ∀ k, LiesIn folder k → t.isFolder k = true → ∃ group, k = folder ++ [group]

namespace IsCacheFolder

variable {cache : Path} {folder : FileKey} {t u : FileTree} {uri : String} {name : List Char}
  {bytes : Bytes}

theorem isFolder_placeKey (h : IsCacheFolder cache folder t) :
    t.isFolder (placeKey folder uri name) = false := by
  rw [← Bool.not_eq_true]
  intro hf
  obtain ⟨group, hg⟩ := h.folders _ (liesIn_placeKey folder uri name) hf
  have := congrArg List.length hg
  simp [placeKey] at this

theorem bytesAt?_groupKey (h : IsCacheFolder cache folder t) :
    t.bytesAt? (groupKey folder uri) = none := by
  by_contra hb
  obtain ⟨group, name, hk, -⟩ := h.files _ (liesIn_groupKey folder uri) hb
  have := congrArg List.length hk
  simp [groupKey] at this

/-- The folder of a place has its key, whether it is there or not. -/
theorem resolve_group (h : IsCacheFolder cache folder t) (ha : Accepts (placePath cache uri name)) :
    t.resolve (cache.child ((digestOf uri).take 2)) = .ok (groupKey folder uri) := by
  rw [resolve_child_eq (length_lt_of_child ha.whole) h.leads]
  exact descend_of_isFolder (h.made.isFolder h.leads) group_ne_up
    (ha.names _ (by simp [placePath, Path.child]))

/-- A place leads to its key once the folder that it is in is there. -/
theorem resolve_place (h : IsCacheFolder cache folder t) (ha : Accepts (placePath cache uri name))
    (hg : t.isFolder (groupKey folder uri) = true) :
    t.resolve (placePath cache uri name) = .ok (placeKey folder uri name) := by
  rw [placePath, resolve_child_eq ha.whole (h.resolve_group ha), placeKey_eq]
  exact descend_of_isFolder hg (name_ne_up name) (ha.names _ (by simp [placePath, Path.child]))

theorem isFolder_groupKey_of_bytesAt? (h : IsCacheFolder cache folder t)
    (hb : t.bytesAt? (placeKey folder uri name) ≠ none) :
    t.isFolder (groupKey folder uri) = true := by
  obtain ⟨group, name', hk, hf⟩ := h.files _ (liesIn_placeKey folder uri name) hb
  rw [placeKey] at hk
  obtain ⟨rfl, -⟩ := List.cons_eq_cons.1 (List.append_cancel_left hk)
  exact hf

/-- What stands at the key of a place is held there. -/
theorem holds_of_bytesAt? (h : IsCacheFolder cache folder t)
    (ha : Accepts (placePath cache uri name))
    (hb : t.bytesAt? (placeKey folder uri name) = some bytes) :
    t.Holds (placePath cache uri name) bytes := by
  have hfolder := h.isFolder_groupKey_of_bytesAt? (hb ▸ Option.some_ne_none bytes)
  exact ⟨_, h.resolve_place ha hfolder, hb⟩

/-- A file stands at a place just where it stands at the key of the place. -/
theorem isFile_place (h : IsCacheFolder cache folder t) (ha : Accepts (placePath cache uri name)) :
    t.isFile (placePath cache uri name) =
      .ok (t.bytesAt? (placeKey folder uri name)).isSome := by
  rw [isFile]
  cases hg : t.isFolder (groupKey folder uri) with
  | true => rw [h.resolve_place ha hg]
  | false =>
      have hnone : t.bytesAt? (placeKey folder uri name) = none := by
        by_contra hb
        cases hg.symm.trans (h.isFolder_groupKey_of_bytesAt? hb)
      have hlost : t.resolve (placePath cache uri name) = .error .noSuchFile := by
        rw [placePath, resolve_child_eq ha.whole (h.resolve_group ha), descend, hg,
          h.bytesAt?_groupKey]
        rfl
      rw [hlost, hnone]
      rfl

/-- The folder of a place can be made, and nothing else changes. -/
theorem makeFolders (h : IsCacheFolder cache folder t) (ha : Accepts (placePath cache uri name)) :
    t.makeFolders (placePath cache uri name).folder = .ok (t.withFolderAt (groupKey folder uri)) := by
  rw [placePath, folder_child]
  exact makeFolders_child h.made h.leads
    (descend_of_isFolder (h.made.isFolder h.leads) group_ne_up
      (ha.names _ (by simp [placePath, Path.child])))
    (length_lt_of_child ha.whole) h.bytesAt?_groupKey

theorem withFolderAt (h : IsCacheFolder cache folder t) (uri : String) :
    IsCacheFolder cache folder (t.withFolderAt (groupKey folder uri)) := by
  have hkeeps := t.keepsFolders_withFolderAt (groupKey folder uri)
  obtain ⟨folders, heq⟩ := t.withFolderAt_eq (groupKey folder uri)
  have hfiles : (t.withFolderAt (groupKey folder uri)).files = t.files := by rw [heq]
  refine ⟨resolve_of_keepsFolders hkeeps h.leads,
    fun i hi => (h.made i hi).keepsFolders hkeeps hfiles, fun k hk hb => ?_, fun k hk hf => ?_⟩
  · rw [bytesAt?, hfiles] at hb
    obtain ⟨group, name, rfl, hg⟩ := h.files k hk hb
    exact ⟨group, name, rfl, hkeeps _ hg⟩
  · rw [isFolder_withFolderAt, Bool.or_eq_true, beq_iff_eq] at hf
    rcases hf with hf | rfl
    · exact h.folders k hk hf
    · exact ⟨_, rfl⟩

/-- A file that is put where no folder stands, outside or at a place, leaves the cache folder in
order. -/
theorem put (h : IsCacheFolder cache folder t) {k : FileKey} (hk : t.isFolder k = false)
    (hin : LiesIn folder k →
      ∃ group name, k = folder ++ [group, name] ∧ t.isFolder (folder ++ [group]) = true)
    (bytes : Bytes) : IsCacheFolder cache folder (t.put k bytes) := by
  have hkeeps : KeepsFolders t (t.put k bytes) := keepsFolders_of_eq rfl
  refine ⟨resolve_of_keepsFolders hkeeps h.leads, fun i hi => ?_, fun j hj hb => ?_, h.folders⟩
  · obtain ⟨j, hr, hf, hb⟩ := h.made i hi
    refine ⟨j, resolve_of_keepsFolders hkeeps hr, hf, ?_⟩
    rw [bytesAt?_put, if_neg]
    · exact hb
    · rintro rfl
      cases hk.symm.trans hf
  · rw [bytesAt?_put] at hb
    split at hb
    · next heq => exact heq ▸ hin (heq ▸ hj)
    · exact h.files j hj hb

/-- The tree after a URL has been requested for a place: with the whole body there, or with no more
than the folder for it. -/
def received (t : FileTree) (folder : FileKey) (uri : String) (name : List Char) :
    Except Failure Bytes → FileTree
  | .ok bytes => (t.withFolderAt (groupKey folder uri)).put (placeKey folder uri name) bytes
  | .error _ => t.withFolderAt (groupKey folder uri)

theorem isFolder_groupKey (t : FileTree) (folder : FileKey) (uri : String) :
    (t.withFolderAt (groupKey folder uri)).isFolder (groupKey folder uri) = true := by
  rw [isFolder_withFolderAt, beq_self_eq_true, Bool.or_true]

theorem received_cases (h : IsCacheFolder cache folder t) (uri : String) (name : List Char)
    (result : Except Failure Bytes) :
    IsCacheFolder cache folder (received t folder uri name result) ∧
      SameOutside folder t (received t folder uri name result) := by
  have hfolder := h.withFolderAt uri
  have hsame := SameOutside.withFolderAt (liesIn_groupKey folder uri) t
  rcases result with f | bytes
  · exact ⟨hfolder, hsame⟩
  · refine ⟨hfolder.put hfolder.isFolder_placeKey (fun _ => ?_) bytes,
      hsame.trans (SameOutside.of_put (liesIn_placeKey folder uri name) _ bytes)⟩
    exact ⟨_, _, rfl, isFolder_groupKey t folder uri⟩

/-- Loading what is to be kept finds it, or fares as the network does. -/
theorem resource_on {l : Loader} {url : String} {v : World} (h : IsCacheFolder cache folder v.disk)
    (ha : Accepts (placePath cache uri name)) (hroom : v.disk.room = none)
    (hl : l.lead uri = .ok (.kept url (placePath cache uri name))) :
    (l.resource uri).on v = match v.disk.bytesAt? (placeKey folder uri name) with
      | some _ => (.ok (.ofPath (placePath cache uri name) uri), v)
      | none => ((v.network.bodyOf url).map fun _ => .ofPath (placePath cache uri name) uri,
          { v with
            requested := v.requested ++ (v.network.fetch url).1,
            disk := received v.disk folder uri name (v.network.bodyOf url) }) := by
  have hkept := Loader.isKept_on (placePath cache uri name) v
  rw [ha.plain, if_neg Bool.false_ne_true, h.isFile_place ha] at hkept
  rw [Loader.resource_on, hl]
  simp only [hkept]
  rcases hb : v.disk.bytesAt? (placeKey folder uri name) with _ | bytes
  · have hfolder := h.withFolderAt uri
    have hplace := hfolder.resolve_place ha (isFolder_groupKey v.disk folder uri)
    have hopened := Reception.opened_on (placePath cache uri name) v
    rw [h.makeFolders ha, placePath, folder_child] at hopened
    simp only [hfolder.resolve_group ha] at hopened
    have hfree : (v.disk.withFolderAt (groupKey folder uri)).room = none :=
      (SameOutside.withFolderAt (liesIn_groupKey folder uri) v.disk).room.trans hroom
    have hfinish := Reception.finish_of_free
      (r := ⟨Reception.temporaryKey (v.disk.withFolderAt (groupKey folder uri))
        (groupKey folder uri), placePath cache uri name⟩) v
      (Reception.bytesAt?_temporaryKey _ _) hfree ha.plain hplace hfolder.isFolder_placeKey url
    rw [placePath] at hfinish ⊢
    simp only [Option.isSome_none, Except.mapError, hopened, hfinish]
    rcases v.network.bodyOf url with f | bytes
    · rfl
    · rfl
  · rfl

end IsCacheFolder

end AppCatalog
