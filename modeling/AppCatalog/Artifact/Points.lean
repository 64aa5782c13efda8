import AppCatalog.Artifact.Cache
import AppCatalog.Text.Points

/-!
# URIs as code points

A URI in memory is a run of code points, and one of them may be a surrogate, half of a character,
which no encoding has a form for. The catalog looks for nothing but delimiters and characters that no
URI has, so a URI with a surrogate is checked and located like any other. What comes then may need
bytes. The digest that chooses the place of a kept resource has none, the file system has bytes for
some surrogates and refuses the others, and what a client makes of them is its own affair.

`Loader.bytesOf` loads such a URI, and `CacheLayout.placeOf` and `CacheLayout.lockFor` say where and
under which lock it is kept.
-/

namespace AppCatalog

namespace Points

/-- The text in which a surrogate stands as an angle bracket, which no accepted URI holds, and a
character of private use. -/
def marked (p : Points) : List Char :=
  p.points.flatMap fun n =>
    if n.isValidChar then [Char.ofNat n] else ['<', Char.ofNat (n - 0xd800 + 0xf0000)]

/-- The code points that a text with marks stands for. -/
def unmarked : List Char → Points
  | [] => ⟨[]⟩
  | '<' :: c :: cs => ⟨(c.toNat - 0xf0000 + 0xd800) :: (unmarked cs).points⟩
  | c :: cs => ⟨c.toNat :: (unmarked cs).points⟩

/-- The bytes by which the file system knows a name. A surrogate between 0xdc80 and 0xdcff stands for
a byte that is no text by itself, and the other surrogates have no bytes. -/
def fileBytes? (p : Points) : Option Bytes :=
  (p.points.mapM fun n =>
    if 0xdc80 ≤ n && n ≤ 0xdcff then some [UInt8.ofNat (n - 0xdc00)]
    else if n.isValidChar then some (Utf8.encode [Char.ofNat n])
    else none).map List.flatten

end Points

namespace CacheLayout

/-- The path that the resource of a URI is kept at. It takes the digest of the URI's bytes, and so a
URI that is no text has none. -/
def placeOf (cache : Path) (uri : Points) : Except Failure Path :=
  match uri.text? with
  | some text => pathOf cache text
  | none => .error (.breakdown .unencodable)

/-- The lock of a URI, chosen by its digest too. -/
def lockFor (uri : Points) : Except Failure Nat :=
  match uri.text? with
  | some text => .ok (lockOf text)
  | none => .error (.breakdown .unencodable)

end CacheLayout

/-- Reads the file whose path is written with marks. Names on the disk are texts, so that a name of
other bytes is not there. -/
def Resource.readMarked (path : Path) (description : String) : Run World Bytes := do
  match (Points.unmarked path.text).fileBytes? with
  | none => Run.breakdown .unencodable
  | some bytes =>
    if path.hasNul then Run.breakdown .badValue
    let t := (← get).disk
    let found := match Utf8.decode? bytes with
      | some name => t.read (.ofText name)
      | none => .error .noSuchFile
    Run.ofExcept (found.mapError fun fault =>
      .resource (.unreadable description path.toString fault))

/-- The bytes of the resource that a URI names. -/
def Loader.bytesOf (l : Loader) (uri : Points) : Run World Bytes := do
  match uri.text? with
  | some text => (← l.resource text).read
  | none =>
    match ← Run.ofExcept (l.locator.locate (String.ofList uri.marked)) with
    | .file path description => Resource.readMarked path description
    | .remote url timeout =>
      if l.cache.isSome then Run.breakdown .unencodable
      else Resource.readRemote (.unmarked url.toList) (Resource.description (.remote url timeout))
    | .inline data _ => pure data

end AppCatalog
