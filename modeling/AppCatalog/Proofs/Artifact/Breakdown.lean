import AppCatalog.Proofs.Artifact.Download
import AppCatalog.Proofs.Text.Split

/-!
# What breaks on a URI

A URI that a registration may name leads to bytes, to a fault of its resource, or to a breakdown.
The check of a URI looks at little, and what comes after it looks at more: the authority may not be
one, the path may hold a NUL character, the client may break off over the URL in a way of its own,
and a download to be kept may break off. `Loader.BreaksOn` lists this, and an accepted URI ends in a
breakdown exactly where it holds (`bytes_cases`, `BreaksOn.bytes`).
-/

namespace AppCatalog

/-! ## Locating -/

/-- What a resource cannot be read for, other than a fault of its own. -/
inductive Resource.BreaksOff (w : World) : Resource → Breakdown → Prop
  | nul {path : Path} {description : String} (h : path.hasNul = true) :
    BreaksOff w (.file path description) .badValue
  | client {url kind : String} {timeout : Binary64} (h : w.network.BreaksOff url kind) :
    BreaksOff w (.remote url timeout) (.other kind)

namespace Resource

variable {r : Resource} {w : World} {b : Breakdown}

theorem BreaksOff.read (h : r.BreaksOff w b) : (r.read.on w).1 = .error (.breakdown b) := by
  cases h with
  | nul h => rw [Resource.read, readFile_on, if_pos h]
  | client h =>
      rw [Resource.read, readRemote_on, Network.fetch_eq_error_iff.2 ⟨_, h, rfl⟩]
      rfl

end Resource

/-! ## Loading -/

namespace Loader

/-- The bytes of the resource that a URI names. -/
def bytes (l : Loader) (uri : String) : Run World Bytes := do
  (← l.resource uri).read

/-- What breaks on a URI. -/
inductive BreaksOn (l : Loader) (uri : String) (w : World) : Breakdown → Prop
  /-- The brackets of its authority form no host, or a character looks like a delimiter. -/
  | unsplit (h : Uri.split? uri.toList = none) : BreaksOn l uri w .badValue
  | atHand {r : Resource} {b : Breakdown} (h : l.lead uri = .ok (.atHand r))
    (hr : r.BreaksOff w b) : BreaksOn l uri w b
  /-- The place of the kept file cannot be looked at. -/
  | place {url : String} {target : Path} {fault : OsFault}
    (h : l.lead uri = .ok (.kept url target))
    (hk : (isKept target).on w = (.error (.breakdown (.os fault)), w)) :
    BreaksOn l uri w (.os fault)
  /-- No folders can be made for the file. -/
  | folders {url : String} {target : Path} {fault : OsFault}
    (h : l.lead uri = .ok (.kept url target)) (hk : (isKept target).on w = (.ok false, w))
    (hm : w.disk.makeFolders target.folder = .error fault) : BreaksOn l uri w (.os fault)
  | download {url : String} {target : Path} {r : Reception} {w' : World} {b : Breakdown}
    (h : l.lead uri = .ok (.kept url target)) (hk : (isKept target).on w = (.ok false, w))
    (ho : (Reception.opened target).on w = (.ok r, w')) (hb : r.BreaksOff url w' b) :
    BreaksOn l uri w b

variable {l : Loader} {uri url : String} {target : Path} {w : World} {b : Breakdown}

theorem lead_of_unsplit (h : Uri.split? uri.toList = none) :
    l.lead uri = .error (.breakdown .badValue) := by
  rw [lead, Locator.locate, h]
  rfl

theorem bytes_on (l : Loader) (uri : String) (w : World) :
    (l.bytes uri).on w = match (l.resource uri).on w with
      | (.ok r, w') => r.read.on w'
      | (.error f, w') => (.error f, w') := by
  rw [bytes, Run.on_bind]
  rcases (l.resource uri).on w with ⟨f | r, w'⟩ <;> rfl

theorem resource_on (l : Loader) (uri : String) (w : World) :
    (l.resource uri).on w = match l.lead uri with
      | .error f => (.error f, w)
      | .ok (.atHand r) => (.ok r, w)
      | .ok (.kept url target) => match (isKept target).on w with
        | (.error f, w') => (.error f, w')
        | (.ok true, w') => (.ok (.ofPath target uri), w')
        | (.ok false, w') => match (Reception.opened target).on w' with
          | (.error f, v) => (.error f, v)
          | (.ok r, v) => match (r.finish url).on v with
            | (.error f, v') => (.error f, v')
            | (.ok (), v') => (.ok (.ofPath target uri), v') := by
  rw [resource, Run.on_bind, Run.on_ofExcept]
  rcases l.lead uri with f | r | ⟨url, target⟩
  · rfl
  · rfl
  · simp only
    rw [Run.on_bind]
    rcases (isKept target).on w with ⟨f | (_ | _), w'⟩
    · rfl
    · simp only [Bool.not_false, if_true]
      rw [Run.on_bind]
      rcases (Reception.opened target).on w' with ⟨f | r, v⟩
      · rfl
      · simp only
        rw [Run.on_bind]
        rcases (r.finish url).on v with ⟨f | u, v'⟩
        · rfl
        · rfl
    · rfl

theorem isKept_on (target : Path) (w : World) :
    (isKept target).on w = (if target.hasNul then .ok false
      else (w.disk.isFile target).mapError fun f => .breakdown (.os f), w) := by
  rw [isKept]
  cases target.hasNul with
  | true => rfl
  | false =>
      simp only [Bool.false_eq_true, if_false]
      rw [Run.on_bind_ok (Run.on_get w), Run.on_ofDisk]

theorem BreaksOn.bytes (h : l.BreaksOn uri w b) :
    ((l.bytes uri).on w).1 = .error (.breakdown b) := by
  rw [bytes_on, resource_on]
  cases h with
  | unsplit h => rw [lead_of_unsplit h]
  | atHand h hr =>
      rw [h]
      exact hr.read
  | place h hk => simp only [h, hk]
  | folders h hk hm => simp only [h, hk, Reception.opened_on, hm]
  | @download url target r w' b h hk ho hb =>
      rcases Reception.opened_cases target w with
        ⟨fault, -, ho'⟩ | ⟨r', t, ho', -, htemporary⟩
      · cases ho.symm.trans ho'
      · cases ho.symm.trans ho'
        have hf := (r.finish_on_fst url { w with disk := t }).trans (hb.receive htemporary)
        simp only [h, hk, ho]
        rcases hfinish : (r.finish url).on { w with disk := t } with ⟨result, v⟩
        rw [hfinish] at hf
        change result = _ at hf
        rw [hf]

end Loader

end AppCatalog
