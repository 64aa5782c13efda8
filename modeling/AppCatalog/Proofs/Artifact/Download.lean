import AppCatalog.Proofs.FileTree.Change
import AppCatalog.Proofs.Resource

/-!
# Downloads that break

A download that is to be kept opens a temporary file in folders made for it, fills the file, and
moves it into place. Trouble with the network is trouble of the resource, and is reported as such.
What else can go wrong is not: the folders may not be made, the client may break off in a way of its
own, the disk may be full, and the place may not be had. `BreaksOff` lists this and which breakdown
it ends in, and there is nothing besides (`receive_cases`, `BreaksOff.receive`).
-/

namespace AppCatalog

/-- Asking for a URL fails exactly if the client breaks off over it. -/
theorem Network.fetch_eq_error_iff {net : Network} {url : Points} {f : Failure} :
    (net.fetch url).2 = .error f ↔ ∃ kind, net.BreaksOff url kind ∧ f = .breakdown (.other kind) :=
  mapError_eq_error

namespace FileTree

/-- What keeps a file from being moved to a path. -/
inductive Refuses (t : FileTree) (target : Path) : Breakdown → Prop
  | nul (h : target.hasNul = true) : Refuses t target .badValue
  | lost {fault : OsFault} (hn : target.hasNul = false) (hr : t.resolve target = .error fault) :
    Refuses t target (.os fault)
  /-- A folder stands there. -/
  | folder {k : FileKey} (hn : target.hasNul = false) (hr : t.resolve target = .ok k)
    (hk : t.isFolder k = true) : Refuses t target (.os .isFolder)

theorem SamePlaces.refuses {t t' : FileTree} {target : Path} {b : Breakdown} (h : SamePlaces t t') :
    t'.Refuses target b ↔ t.Refuses target b := by
  constructor
  · rintro (hn | ⟨hn, hr⟩ | ⟨hn, hr, hk⟩)
    · exact .nul hn
    · exact .lost hn (h.resolve target ▸ hr)
    · exact .folder hn (h.resolve target ▸ hr) (isFolder_congr h.folders _ ▸ hk)
  · rintro (hn | ⟨hn, hr⟩ | ⟨hn, hr, hk⟩)
    · exact .nul hn
    · exact .lost hn (h.resolve target ▸ hr)
    · exact .folder hn (h.resolve target ▸ hr) (isFolder_congr h.folders _ ▸ hk)

end FileTree

namespace Reception

variable {target : Path} {r : Reception} {url : String} {w w' : World} {held bytes : Bytes}
  {b : Breakdown} {f : Failure}

/-! ## Opening -/

theorem opened_on (target : Path) (w : World) :
    (opened target).on w = match w.disk.makeFolders target.folder with
      | .error fault => (.error (.breakdown (.os fault)), w)
      | .ok t => match t.resolve target.folder with
        | .error fault => (.error (.breakdown (.os fault)), { w with disk := t })
        | .ok key => (.ok ⟨temporaryKey t key, target⟩,
            { w with disk := t.put (temporaryKey t key) [] }) := by
  rw [opened, Run.on_bind_ok (Run.on_get w), Run.on_bind_ofDisk]
  rcases w.disk.makeFolders target.folder with fault | t
  · rfl
  · simp only
    rw [Run.on_bind_ok (Run.on_modify _ w), Run.on_bind_ofDisk]
    rcases t.resolve target.folder with fault | key
    · rfl
    · rfl

/-- Opening a download makes its folders, and fails only where they cannot be made. -/
theorem opened_cases (target : Path) (w : World) :
    (∃ fault, w.disk.makeFolders target.folder = .error fault ∧
      (opened target).on w = (.error (.breakdown (.os fault)), w)) ∨
    ∃ r t, (opened target).on w = (.ok r, { w with disk := t }) ∧ r.target = target ∧
      t.bytesAt? r.temporary = some [] := by
  rw [opened_on]
  rcases hm : w.disk.makeFolders target.folder with fault | t
  · exact Or.inl ⟨fault, rfl, rfl⟩
  · obtain ⟨key, hr, -⟩ := FileTree.exists_folder_of_makeFolders hm
    simp only [hr]
    exact Or.inr ⟨_, _, rfl, rfl, Assoc.get?_insert_self _ _ _⟩

/-! ## Filling -/

theorem appendPieces_cons_on (key : FileKey) (piece : Bytes) (pieces : List Bytes) (w : World) :
    (appendPieces key (piece :: pieces)).on w = match w.disk.append key piece with
      | (.ok (), t) => (appendPieces key pieces).on { w with disk := t }
      | (.error fault, t) => (.error (.breakdown (.os fault)), { w with disk := t }) := by
  rw [appendPieces, Run.on_bind_ok (Run.on_get w)]
  rcases w.disk.append key piece with ⟨fault | u, t⟩
  · rfl
  · rfl

/-- Pieces that there is room for are written behind each other. -/
theorem appendPieces_of_hasRoom {key : FileKey} {pieces : List Bytes}
    (hk : w.disk.bytesAt? key = some held) (h : w.disk.HasRoom pieces.flatten.length) :
    ∃ t, (appendPieces key pieces).on w = (.ok (), { w with disk := t }) ∧
      t.bytesAt? key = some (held ++ pieces.flatten) ∧ w.disk.SamePlaces t := by
  induction pieces generalizing w held with
  | nil => exact ⟨w.disk, rfl, by rw [hk, List.flatten_nil, List.append_nil], rfl, fun _ => rfl⟩
  | cons piece pieces ih =>
      rw [List.flatten_cons, List.length_append] at h
      have hpiece : w.disk.HasRoom piece.length := fun room hr => by
        have := h room hr
        omega
      obtain ⟨t, ha, hbytes, hplaces, hroom⟩ := FileTree.append_of_hasRoom hk hpiece
      obtain ⟨t', ha', hbytes', hplaces'⟩ :=
        ih (w := { w with disk := t }) hbytes ((hroom _).2 h)
      refine ⟨t', ?_, ?_, hplaces.trans hplaces'⟩
      · rw [appendPieces_cons_on, ha]
        exact ha'
      · rw [hbytes', List.flatten_cons, List.append_assoc]

theorem appendPieces_of_not_hasRoom {key : FileKey} {pieces : List Bytes}
    (hk : w.disk.bytesAt? key = some held) (h : ¬ w.disk.HasRoom pieces.flatten.length) :
    ((appendPieces key pieces).on w).1 = .error (.breakdown (.os .noSpace)) := by
  induction pieces generalizing w held with
  | nil => exact absurd (fun room _ => Nat.zero_le room) h
  | cons piece pieces ih =>
      rw [appendPieces_cons_on]
      by_cases hpiece : w.disk.HasRoom piece.length
      · obtain ⟨t, ha, hbytes, -, hroom⟩ := FileTree.append_of_hasRoom hk hpiece
        rw [ha]
        refine ih (w := { w with disk := t }) hbytes ?_
        rw [hroom, ← List.length_append, ← List.flatten_cons]
        exact h
      · have ha := FileTree.append_of_not_hasRoom (k := key) hpiece
        rcases happend : w.disk.append key piece with ⟨result, t⟩
        rw [happend] at ha
        change result = _ at ha
        rw [ha]

/-! ## Moving into place -/

theorem takePlace_on (hn : r.target.hasNul = false) (w : World) :
    r.takePlace.on w = match w.disk.resolve r.target with
      | .error fault => (.error (.breakdown (.os fault)), w)
      | .ok k => match w.disk.move r.temporary k with
        | .error fault => (.error (.breakdown (.os fault)), w)
        | .ok t => (.ok (), { w with disk := t }) := by
  rw [takePlace, hn, if_neg Bool.false_ne_true]
  refine (Run.on_bind_ok (Run.on_get w)).trans ?_
  rw [Run.on_bind_ofDisk]
  rcases w.disk.resolve r.target with fault | k
  · rfl
  · simp only
    rw [Run.on_bind_ofDisk]
    rcases w.disk.move r.temporary k with fault | t
    · rfl
    · rfl

theorem takePlace_of_refuses (h : w.disk.Refuses r.target b) :
    r.takePlace.on w = (.error (.breakdown b), w) := by
  cases h with
  | nul hn => rw [takePlace, hn]; rfl
  | lost hn hr => rw [takePlace_on hn, hr]
  | folder hn hr hk => simp only [takePlace_on hn, hr, FileTree.move, hk, if_true]

/-- A temporary file is moved unless its place refuses it. -/
theorem takePlace_cases (hb : w.disk.bytesAt? r.temporary = some bytes) :
    (∃ b, w.disk.Refuses r.target b) ∨
      r.target.hasNul = false ∧ ∃ t, r.takePlace.on w = (.ok (), { w with disk := t }) := by
  cases hn : r.target.hasNul with
  | true => exact Or.inl ⟨_, .nul hn⟩
  | false =>
      rcases hr : w.disk.resolve r.target with fault | k
      · exact Or.inl ⟨_, .lost hn hr⟩
      · cases hk : w.disk.isFolder k with
        | true => exact Or.inl ⟨_, .folder hn hr hk⟩
        | false =>
            refine Or.inr ⟨rfl, (w.disk.remove r.temporary).put k bytes, ?_⟩
            rw [takePlace_on hn, hr]
            simp only [FileTree.move, hk, hb, Bool.false_eq_true, if_false]

/-! ## Receiving -/

/-- What breaks off a download that has been opened. -/
inductive BreaksOff (r : Reception) (url : String) (w : World) : Breakdown → Prop
  | client {kind : String} (h : w.network.BreaksOff url kind) : BreaksOff r url w (.other kind)
  /-- The disk is full before all that came has been written. -/
  | room {d : Download} (hd : (w.network.fetch url).2 = .ok (.ok d))
    (hr : ¬ w.disk.HasRoom d.pieces.flatten.length) : BreaksOff r url w (.os .noSpace)
  /-- All came and was written, but its place refuses it. -/
  | place {d : Download} {b : Breakdown} (hd : (w.network.fetch url).2 = .ok (.ok d))
    (hr : w.disk.HasRoom d.pieces.flatten.length) (hw : d.broken = none)
    (hp : w.disk.Refuses r.target b) : BreaksOff r url w b

theorem receive_on (r : Reception) (url : String) (w : World) :
    (r.receive url).on w =
      let w' := { w with requested := w.requested ++ (w.network.fetch url).1 }
      match (w.network.fetch url).2 with
      | .error f => (.error f, w')
      | .ok (.error fault) =>
        (.error (.resource (.unfetchable (Resource.urlDescription url) fault)), w')
      | .ok (.ok d) => match (appendPieces r.temporary d.pieces).on w' with
        | (.error f, v) => (.error f, v)
        | (.ok (), v) => match d.broken with
          | some text =>
            (.error (.resource (.unfetchable (Resource.urlDescription url) (.noAnswer text))), v)
          | none => r.takePlace.on v := by
  rw [receive, Run.on_bind, World.fetch_on]
  rcases (w.network.fetch url).2 with f | fault | d
  · rfl
  · rfl
  · simp only
    rw [Run.on_bind]
    rcases (appendPieces r.temporary d.pieces).on _ with ⟨f | u, v⟩
    · rfl
    · rcases d.broken with _ | text
      · rfl
      · rfl

theorem BreaksOff.receive (h : r.BreaksOff url w b)
    (hb : w.disk.bytesAt? r.temporary = some held) :
    ((r.receive url).on w).1 = .error (.breakdown b) := by
  rw [receive_on]
  cases h with
  | client h => simp only [Network.fetch_eq_error_iff.2 ⟨_, h, rfl⟩]
  | @room d hd hr =>
      have ha := appendPieces_of_not_hasRoom
        (w := { w with requested := w.requested ++ (w.network.fetch url).1 }) hb hr
      simp only [hd]
      rcases happend : (appendPieces r.temporary d.pieces).on
        { w with requested := w.requested ++ (w.network.fetch url).1 } with ⟨result, v⟩
      rw [happend] at ha
      change result = _ at ha
      rw [ha]
  | @place d b hd hr hw hp =>
      obtain ⟨t, ha, -, hplaces⟩ := appendPieces_of_hasRoom
        (w := { w with requested := w.requested ++ (w.network.fetch url).1 }) hb hr
      simp only [hd, ha, hw]
      rw [takePlace_of_refuses (hplaces.refuses.2 hp)]

theorem finish_on_fst (r : Reception) (url : String) (w : World) :
    ((r.finish url).on w).1 = ((r.receive url).on w).1 := by
  rw [finish, Run.on_bind, Run.on_outcome]
  rcases (r.receive url).on w with ⟨f | u, w'⟩
  · rfl
  · rfl

end Reception

end AppCatalog
