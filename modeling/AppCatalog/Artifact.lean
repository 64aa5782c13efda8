import AppCatalog.Decimal.Binary64
import AppCatalog.Digest.Sha256
import AppCatalog.Failure
import AppCatalog.Path
import AppCatalog.Uri.Percent
import AppCatalog.Uri.Split

/-!
# Where artifacts are

A URI names a file, an address on the network, or the coordinates of an artifact in a remote
repository. `Coordinates.parse` reads coordinates, `Locator.locate` turns a URI into a resource, and
`CacheLayout.pathOf` says under which path a downloaded resource is kept.
-/

namespace AppCatalog

open AppCatalog.Text

/-- A readable run of bytes and how it is described. -/
inductive Resource where
  | file (path : Path) (description : String)
  | remote (url : String) (timeout : Binary64)
  | inline (data : Bytes) (description : String)
  deriving DecidableEq, Repr

/-- How what a URL names is described in messages. -/
def Resource.urlDescription (url : String) : String := "URL [" ++ url ++ "]"

/-- How a resource is described in messages. -/
def Resource.description : Resource → String
  | file _ description => description
  | remote url _ => urlDescription url
  | inline _ description => description

/-- A file resource; without a description of its own the path describes it. -/
def Resource.ofPath (path : Path) (description : String) : Resource :=
  .file path (if description = "" then "file [" ++ path.toString ++ "]" else description)

/-- The coordinates of an artifact in a repository. -/
structure Coordinates where
  group : List Char
  artifact : List Char
  version : List Char
  extension : List Char
  /-- Empty without one. -/
  classifier : List Char
  deriving DecidableEq, Repr

namespace Coordinates

/-- What stands behind the scheme of a coordinate URI: behind the first `://`, or else behind the
first colon. -/
def body? (uri : List Char) : Option (List Char) :=
  match cutAt? [':', '/', '/'] uri with
  | some (_, body) => some body
  | none => (cutAt? [':'] uri).map Prod.snd

/-- The coordinates of three, four or five parts. -/
def ofParts? : List (List Char) → Option Coordinates
  | [g, a, v] => some ⟨g, a, v, ['j', 'a', 'r'], []⟩
  | [g, a, e, v] => some ⟨g, a, v, e, []⟩
  | [g, a, e, c, v] => some ⟨g, a, v, e, c⟩
  | _ => none

def parse (uri : List Char) : Except Failure Coordinates :=
  match body? uri with
  | none => .error (.breakdown .missingPart)
  | some body =>
    match ofParts? (splitAll ':' body) with
    | some c => .ok c
    | none => .error (.resource (.badCoordinates (String.ofList body)))

def filename (c : Coordinates) : List Char :=
  c.artifact ++ '-' :: c.version ++ (if c.classifier = [] then [] else '-' :: c.classifier) ++
    '.' :: c.extension

/-- The path of the artifact in a repository. -/
def repositoryPath (c : Coordinates) : List Char :=
  c.group.map (fun ch => if ch = '.' then '/' else ch) ++ '/' :: c.artifact ++ '/' :: c.version ++
    '/' :: c.filename

end Coordinates

/-- How URIs are located: the remote repository, and how long a fetch may take. -/
structure Locator where
  repository : String
  timeout : Binary64
  deriving DecidableEq, Repr

namespace Locator

/-- The repository that coordinates are looked up in when no other is named. -/
def centralRepository : String := "https://repo.maven.apache.org/maven2"

/-- How many seconds a fetch may take when nothing is said. -/
def standardTimeout : Binary64 := .ofInt 30

/-- A locator; slashes at the end of the repository's address are dropped. -/
def of (repository : String) (timeout : Binary64) : Locator :=
  ⟨String.ofList (repository.toList.reverse.dropWhile (· == '/')).reverse, timeout⟩

/-- The locator that is used when nothing is said. -/
def standard : Locator := of centralRepository standardTimeout

/-- The path that a file URI names. A host other than the local one stands in front, behind two
slashes. -/
def filePath (parts : UriParts) : Path :=
  let path := Percent.decode parts.path
  if parts.authority = [] || parts.authority = "localhost".toList then .ofText path
  else .ofText ('/' :: '/' :: parts.authority ++ path)

/-- The address of an artifact in the repository. -/
def urlOf (l : Locator) (c : Coordinates) : String :=
  l.repository ++ "/" ++ String.ofList c.repositoryPath

/-- The resource that a URI names. Without a scheme, or with one of a single letter, the whole URI
is a path. -/
def locate (l : Locator) (uri : String) : Except Failure Resource :=
  match Uri.split? uri.toList with
  | none => .error (.breakdown .badValue)
  | some parts =>
    let scheme := String.ofList parts.scheme
    if scheme = "file" then .ok (.ofPath (filePath parts) uri)
    else if parts.scheme.length ≤ 1 then .ok (.ofPath (.ofString uri) uri)
    else if scheme = "http" || scheme = "https" then .ok (.remote uri l.timeout)
    else if scheme = "maven" then
      (Coordinates.parse uri.toList).map fun c => .remote (l.urlOf c) l.timeout
    else .error (.resource (.unsupportedScheme scheme uri))

end Locator

namespace CacheLayout

def lockCount : Nat := 64

def digestOf (uri : String) : List Char := Sha256.hexDigest (Utf8.ofString uri)

/-- The last segment of a URI's path, or a fixed word without one. -/
def nameOf (parts : UriParts) : List Char :=
  ((Path.ofText (Uri.barePath parts)).name?).getD "resource".toList

/-- The path under which the resource of a URI is kept: two digits of the digest, then the digest
and the name. -/
def pathOf (cache : Path) (uri : String) : Except Failure Path :=
  match Uri.split? uri.toList with
  | none => .error (.breakdown .badValue)
  | some parts =>
    let digest := digestOf uri
    .ok ((cache.child (digest.take 2)).child (digest ++ '-' :: nameOf parts))

/-- The lock that downloads of a URI share. -/
def lockOf (uri : String) : Nat := ((Sha256.digest (Utf8.ofString uri)).headD 0).toNat % lockCount

end CacheLayout

end AppCatalog
