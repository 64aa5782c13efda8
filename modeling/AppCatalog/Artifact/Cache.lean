import AppCatalog.Artifact
import AppCatalog.World

/-!
# Reading and caching resources

`Resource.read` reads the bytes of a resource. A loader with a cache folder keeps every resource it
downloads: `Loader.resource` first looks for the kept file, and otherwise downloads to a temporary
file beside it, which takes its place only when the whole body has come. Whatever goes wrong on the
way, the temporary file is removed.
-/

namespace AppCatalog

/-- A NUL character ends a path for the file system, so that no path with one can be used. -/
def Path.hasNul (p : Path) : Bool := p.text.contains '\x00'

namespace Resource

def readFile (path : Path) (description : String) : Run World Bytes := do
  if path.hasNul then Run.breakdown .badValue
  match (← get).disk.read path with
  | .ok bytes => pure bytes
  | .error fault => throw (.resource (.unreadable description path.toString fault))

def readRemote (url : Points) (description : String) : Run World Bytes := do
  match ← World.fetch url with
  | .error fault => throw (.resource (.unfetchable description fault))
  | .ok download =>
    match download.body with
    | .ok bytes => pure bytes
    | .error fault => throw (.resource (.unfetchable description fault))

def read (r : Resource) : Run World Bytes :=
  match r with
  | .file path description => readFile path description
  | .remote url _ => readRemote url r.description
  | .inline data _ => pure data

end Resource

/-- How resources are loaded: how URIs are located, and where downloads are kept, if they are. -/
structure Loader where
  locator : Locator
  cache : Option Path
  deriving DecidableEq, Repr

/-- Where a URI leads: to a resource at hand, or to one that is kept at a path once its URL has been
downloaded. -/
inductive Lead where
  | atHand (r : Resource)
  | kept (url : String) (target : Path)
  deriving DecidableEq, Repr

/-- A download under way: the file that collects it, and the path that the whole body will take. -/
structure Reception where
  temporary : FileKey
  target : Path
  deriving DecidableEq, Repr

namespace Reception

/-- A temporary name that is free in a folder. -/
def temporaryKey (t : FileTree) (folder : FileKey) : FileKey :=
  let name := fun n : Nat => ".download-".toList ++ Nat.toDigits 10 n
  let n := ((List.range (t.files.length + 1)).find? fun n =>
    (t.bytesAt? (folder ++ [name n])).isNone).getD t.files.length
  folder ++ [name n]

/-- Opens a temporary file beside a path, in folders made for it. -/
def opened (target : Path) : Run World Reception := do
  let t ← Run.ofDisk ((← get).disk.makeFolders target.folder)
  modify fun w => { w with disk := t }
  let key ← Run.ofDisk (t.resolve target.folder)
  let temporary := temporaryKey t key
  modify fun w => { w with disk := w.disk.put temporary [] }
  pure ⟨temporary, target⟩

/-- Writes pieces behind each other into a file. -/
def appendPieces (key : FileKey) : List Bytes → Run World Unit
  | [] => pure ()
  | piece :: pieces => do
    let (result, t) := (← get).disk.append key piece
    modify fun w => { w with disk := t }
    Run.ofDisk result
    appendPieces key pieces

/-- Moves the temporary file to the path that it is to take. -/
def takePlace (r : Reception) : Run World Unit := do
  if r.target.hasNul then Run.breakdown .badValue
  let t := (← get).disk
  let key ← Run.ofDisk (t.resolve r.target)
  let t ← Run.ofDisk (t.move r.temporary key)
  modify fun w => { w with disk := t }

/-- Downloads a URL to the temporary file and moves it into place. -/
def receive (r : Reception) (url : String) : Run World Unit := do
  let description := Resource.urlDescription url
  match ← World.fetch url with
  | .error fault => throw (.resource (.unfetchable description fault))
  | .ok download =>
    appendPieces r.temporary download.pieces
    match download.broken with
    | some text => throw (.resource (.unfetchable description (.noAnswer text)))
    | none => r.takePlace

def discard (r : Reception) : Run World Unit :=
  modify fun w => { w with disk := w.disk.remove r.temporary }

/-- Brings a download to its end, all or nothing. -/
def finish (r : Reception) (url : String) : Run World Unit := do
  match ← (r.receive url).outcome with
  | .ok () => pure ()
  | .error failure => do
    r.discard
    throw failure

end Reception

namespace Loader

/-- Where a URI leads; a remote resource is kept if the loader keeps downloads. -/
def lead (l : Loader) (uri : String) : Except Failure Lead := do
  let r ← l.locator.locate uri
  match r, l.cache with
  | .remote url _, some cache => return .kept url (← CacheLayout.pathOf cache uri)
  | r, _ => return .atHand r

/-- Whether a file stands at a path that resources are kept at. -/
def isKept (target : Path) : Run World Bool := do
  if target.hasNul then pure false else Run.ofDisk ((← get).disk.isFile target)

/-- The resource that a URI names, downloaded if it is to be kept and is not there. -/
def resource (l : Loader) (uri : String) : Run World Resource := do
  match ← Run.ofExcept (l.lead uri) with
  | .atHand r => pure r
  | .kept url target => do
    if !(← isKept target) then (← Reception.opened target).finish url
    pure (.ofPath target uri)

/-- Whether the resource of a URI is kept. -/
def isCached (cache : Path) (uri : String) : Run World Bool := do
  isKept (← Run.ofExcept (CacheLayout.pathOf cache uri))

/-- Makes the cache folder of a loader. -/
def prepare (l : Loader) : Run World Unit := do
  match l.cache with
  | none => pure ()
  | some cache =>
    let t ← Run.ofDisk ((← get).disk.makeFolders cache)
    modify fun w => { w with disk := t }

end Loader

end AppCatalog
