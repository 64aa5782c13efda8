import AppCatalog.Assoc
import AppCatalog.Failure
import AppCatalog.Path
import AppCatalog.Text.Utf8

/-!
# A tree of files

The files that the catalog reads and writes, each with its bytes, and the folders they stand in. A
path is looked up from the working folder, segment by segment, and every operation fails the way a
file system does: nothing there, a folder where a file is wanted, a file where a folder is wanted, a
name too long. Writing can fail as well: a file may be sealed against writing, and there may be room
for only so many more bytes, in which case a write leaves the part that fitted.
-/

namespace AppCatalog

/-- Where a file or folder stands: the segments from the working folder down. A path from the root
begins with a segment of one slash, a path out of the working folder with segments of two dots. -/
abbrev FileKey := List (List Char)

/-- A tree of files. -/
structure FileTree where
  files : Assoc FileKey Bytes
  folders : List FileKey
  /-- Files that cannot be opened for writing. -/
  sealedFiles : List FileKey
  /-- How many more bytes can be written; no limit if none is given. -/
  room : Option Nat
  deriving DecidableEq, Repr, Inhabited

namespace FileTree

/-- The working folder with nothing in it. -/
def empty : FileTree := ⟨[], [], [], none⟩

/-- The segment that leads out of a folder. -/
def up : List Char := ['.', '.']

def rootKey : FileKey := [['/']]

/-- The longest name that a file or folder can have, in bytes. -/
def maxName : Nat := 255

/-- The length from which on a whole path is refused, in bytes. -/
def maxPath : Nat := 4096

def parentKey (k : FileKey) : FileKey :=
  if k = rootKey then rootKey
  else if k.getLast?.all (· == up) then k ++ [up]
  else k.dropLast

/-- Whether a folder stands at a key; the working folder and those around it always do. -/
def isFolder (t : FileTree) (k : FileKey) : Bool :=
  k.all (· == up) || k == rootKey || t.folders.contains k

/-- The bytes of the file at a key. -/
def bytesAt? (t : FileTree) (k : FileKey) : Option Bytes := Assoc.get? k t.files

/-- One step down from a key, which must be a folder's. -/
def descend (t : FileTree) (k : FileKey) (segment : List Char) : Except OsFault FileKey :=
  if t.isFolder k then
    if maxName < (Utf8.encode segment).length then .error .nameTooLong
    else if segment = up then .ok (parentKey k)
    else .ok (k ++ [segment])
  else if (t.bytesAt? k).isSome then .error .notFolder
  else .error .noSuchFile

/-- The key that a path begins at. -/
def startKey : Anchor → FileKey
  | .relative => []
  | _ => rootKey

/-- The key that a path names; all but its last segment must be folders. -/
def resolve (t : FileTree) (p : Path) : Except OsFault FileKey :=
  if maxPath ≤ (Utf8.encode p.text).length then .error .nameTooLong
  else p.segments.foldlM (descend t) (startKey p.anchor)

/-- The bytes of the file that a path names. -/
def read (t : FileTree) (p : Path) : Except OsFault Bytes := do
  let k ← t.resolve p
  match t.bytesAt? k with
  | some bytes => .ok bytes
  | none => if t.isFolder k then .error .isFolder else .error .noSuchFile

/-- Whether a path names a file. What cannot be there is not a file; only a name too long is
trouble. -/
def isFile (t : FileTree) (p : Path) : Except OsFault Bool :=
  match t.resolve p with
  | .ok k => .ok (t.bytesAt? k).isSome
  | .error .nameTooLong => .error .nameTooLong
  | .error _ => .ok false

/-- Whether a path names a file or folder. -/
def isThere (t : FileTree) (p : Path) : Except OsFault Bool :=
  match t.resolve p with
  | .ok k => .ok ((t.bytesAt? k).isSome || t.isFolder k)
  | .error .nameTooLong => .error .nameTooLong
  | .error _ => .ok false

/-- The tree with a folder at a key, unless a file stands there. -/
def addFolder (t : FileTree) (k : FileKey) : Except OsFault FileTree :=
  if (t.bytesAt? k).isSome then .error .alreadyThere
  else if t.isFolder k then .ok t
  else .ok { t with folders := t.folders ++ [k] }

/-- The tree with a folder at a path and folders at all paths on the way. A file on the way fails as
no folder, one at the end as already there. -/
def makeFolders (t : FileTree) (p : Path) : Except OsFault FileTree :=
  (List.range p.segments.length).foldlM (fun t i => do
    let k ← t.resolve ⟨p.anchor, p.segments.take (i + 1)⟩
    match t.addFolder k with
    | .error .alreadyThere =>
      if i + 1 = p.segments.length then .error .alreadyThere else .error .notFolder
    | result => result) t

/-- The tree with some bytes at a key. -/
def put (t : FileTree) (k : FileKey) (bytes : Bytes) : FileTree :=
  { t with files := Assoc.insert k bytes t.files }

/-- The tree without the file at a key. -/
def remove (t : FileTree) (k : FileKey) : FileTree :=
  { t with files := Assoc.erase k t.files }

/-- Writes a file anew. The tree is returned in any case: without enough room the file holds what
fitted. -/
def write (t : FileTree) (p : Path) (bytes : Bytes) : Except OsFault Unit × FileTree :=
  match t.resolve p with
  | .error fault => (.error fault, t)
  | .ok k =>
    if t.isFolder k then (.error .isFolder, t)
    else if t.sealedFiles.contains k then (.error .denied, t)
    else match t.room with
      | none => (.ok (), t.put k bytes)
      | some room =>
        if bytes.length ≤ room then
          (.ok (), { t.put k bytes with room := some (room - bytes.length) })
        else (.error .noSpace, { t.put k (bytes.take room) with room := some 0 })

/-- Writes bytes behind those that a file holds. The tree is returned in any case: without enough
room the file takes what fits. -/
def append (t : FileTree) (k : FileKey) (bytes : Bytes) : Except OsFault Unit × FileTree :=
  let held := (t.bytesAt? k).getD []
  match t.room with
  | none => (.ok (), t.put k (held ++ bytes))
  | some room =>
    if bytes.length ≤ room then
      (.ok (), { t.put k (held ++ bytes) with room := some (room - bytes.length) })
    else (.error .noSpace, { t.put k (held ++ bytes.take room) with room := some 0 })

/-- Moves a file over another one or to a free place. -/
def move (t : FileTree) (source target : FileKey) : Except OsFault FileTree :=
  if t.isFolder target then .error .isFolder
  else match t.bytesAt? source with
    | none => .error .noSuchFile
    | some bytes => .ok ((t.remove source).put target bytes)

/-- Whether a key lies under the working folder. -/
def isInside (k : FileKey) : Bool := k.head? != some up && k.head? != some ['/']

def pathOf : FileKey → Path
  | ['/'] :: k => ⟨.root, k⟩
  | k => ⟨.relative, k⟩

/-- The paths of all files under the working folder. -/
def listing (t : FileTree) : List String :=
  ((t.files.map Prod.fst).filter isInside).map fun k => (pathOf k).toString

/-- The tree with a file at a path, in folders made for it. Where that cannot be, it stays as it
is. -/
def withFile (t : FileTree) (p : Path) (bytes : Bytes) : FileTree :=
  match t.makeFolders p.folder with
  | .error _ => t
  | .ok t =>
    match t.resolve p with
    | .ok k => t.put k bytes
    | .error _ => t

end FileTree

end AppCatalog
