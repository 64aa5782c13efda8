import AppCatalog.Artifact
import AppCatalog.Pool.Basic
import AppCatalog.Assoc
import AppCatalog.Decimal.Reader
import AppCatalog.Text.Upper

/-!
# Settings

Settings are read from environment variables of one family; a variable that is missing or empty
leaves the standard value. Folders may begin with a tilde, which stands for a home folder.
-/

namespace AppCatalog

/-- The home folders of the users of a system. -/
structure Homes where
  /-- The home folder of the current user. -/
  own : String
  /-- The home folders of users by name. -/
  others : Assoc String String

/-- What can be set. -/
structure Settings where
  registryFolder : Path
  cacheFolder : Path
  workers : Int
  repository : String
  timeout : Binary64
  logLevel : String
  deriving Repr

namespace Settings

/-- What all variables of the family begin with. -/
def family : String := "APPREGISTRY_"

/-- The variables that settings are read from. -/
def variableNames : List String :=
  ["REGISTRY_DIR", "CACHE_DIR", "PREFETCH_WORKERS", "MAVEN_REMOTE_REPOSITORY", "HTTP_TIMEOUT",
    "LOG_LEVEL"].map (family ++ ·)

/-- The value of a variable that is there and not empty. -/
def valueOf? (env : Assoc String String) (name : String) : Option String :=
  (Assoc.get? (family ++ name) env).filter (· ≠ "")

/-- The home folder that a first segment stands for. -/
def homeOf? (homes : Homes) : List Char → Option String
  | ['~'] => some homes.own
  | '~' :: user => Assoc.get? (String.ofList user) homes.others
  | _ => none

/-- A path with a tilde at its start replaced by the home folder it stands for. -/
def expandHome (homes : Homes) (p : Path) : Except Failure Path :=
  match p.anchor, p.segments with
  | .relative, ('~' :: user) :: rest =>
    match homeOf? homes ('~' :: user) with
    | some home =>
      let h := Path.ofString home
      .ok ⟨h.anchor, h.segments ++ rest⟩
    | none => .error (.breakdown .unknownUser)
  | _, _ => .ok p

/-- A folder under the catalog's own folder in the home folder. -/
def standardFolder (homes : Homes) (name : String) : Path :=
  (Path.ofString homes.own).join (.ofString (".appregistry/" ++ name))

def read (homes : Homes) (env : Assoc String String) : Except Failure Settings := do
  let folder := fun name standard =>
    expandHome homes (((valueOf? env name).map Path.ofString).getD (standardFolder homes standard))
  let registryFolder ← folder "REGISTRY_DIR" "registry"
  let cacheFolder ← folder "CACHE_DIR" "cache"
  let workers ← match valueOf? env "PREFETCH_WORKERS" with
    | none => .ok Pool.standardWorkers
    | some text =>
      match Text.readInteger? 10 text.toList with
      | some n => .ok n
      | none => .error (.breakdown .badValue)
  let repository := (valueOf? env "MAVEN_REMOTE_REPOSITORY").getD Locator.centralRepository
  let timeout ← match valueOf? env "HTTP_TIMEOUT" with
    | none => .ok Locator.standardTimeout
    | some text =>
      match Binary64.read? text.toList with
      | some x => .ok x
      | none => .error (.breakdown .badValue)
  let logLevel := String.ofList (Text.upper ((valueOf? env "LOG_LEVEL").getD "INFO").toList)
  pure ⟨registryFolder, cacheFolder, workers, repository, timeout, logLevel⟩

def locator (s : Settings) : Locator := .of s.repository s.timeout

end Settings

end AppCatalog
