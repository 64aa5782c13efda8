import AppCatalog.Text.Split

/-!
# Routes of the web service

A path names the service itself, its health, the list of applications, or one application by type
and name. `Route.ofPath?` reads a path whose escapes have been read and `Route.path` writes one. A
path that names nothing may name something with or without the slash at its end; then it is
redirected.
-/

namespace AppCatalog.Web

open AppCatalog.Text

/-- What a path names. -/
inductive Route where
  | service
  | health
  | apps
  | app (type name : List Char)
  deriving DecidableEq, Repr

/-- What can be done. -/
inductive Method where
  | get
  | post
  | delete
  deriving DecidableEq, Repr

namespace Method

def word : Method → String
  | get => "GET"
  | post => "POST"
  | delete => "DELETE"

/-- The method that a word stands for. -/
def ofWord? (w : String) : Option Method := [get, post, delete].find? fun m => m.word == w

end Method

namespace Route

/-- The path of the list of applications. -/
def appsPath : List Char := "/apps".toList

def healthPath : List Char := "/health".toList

/-- Whether a path is the given one; a line end behind it does not count. -/
def isAt (path given : List Char) : Bool := path == given || path == given ++ ['\n']

/-- What a path names, if it names anything. Types and names are not empty and hold no slash. -/
def ofPath? (path : List Char) : Option Route :=
  if isAt path ['/'] then some service
  else if isAt path healthPath then some health
  else if isAt path appsPath then some apps
  else
    match splitAll '/' path with
    | [[], root, type, name] =>
      if '/' :: root = appsPath && type ≠ [] && name ≠ [] then some (app type name) else none
    | _ => none

def path : Route → List Char
  | service => ['/']
  | health => healthPath
  | apps => appsPath
  | app type name => appsPath ++ '/' :: type ++ '/' :: name

/-- The path without the slashes at its end, or with one if it has none. -/
def otherPath (path : List Char) : List Char :=
  if path.getLast? = some '/' then (path.reverse.dropWhile (· == '/')).reverse else path ++ ['/']

/-- Where a path that names nothing is redirected to, if anywhere. -/
def redirect? (path : List Char) : Option (List Char) :=
  if path = ['/'] then none
  else if (ofPath? (otherPath path)).isSome then some (otherPath path) else none

end Route

end AppCatalog.Web
