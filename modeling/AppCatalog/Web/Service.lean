import AppCatalog.Uri.Form
import AppCatalog.Web.Body
import AppCatalog.Web.Params
import AppCatalog.Web.Route
import AppCatalog.Web.Status

/-!
# The web service

`Service.answer` answers a request: it finds the route, reads the parameters, runs the operation of
the catalog and gives an answer. Parameters are read before anything is done, and all that is wrong
with them is told at once. A failure of the catalog's own is answered with its status and its words,
a breakdown with nothing but the status.
-/

namespace AppCatalog.Web

open AppCatalog.Text

/-- A request: scheme and host of the service, the word of the method, and path and query as they
are written. -/
structure Request where
  origin : List Char
  method : String
  path : List Char
  query : List Char
  deriving DecidableEq, Repr

/-- What an answer holds. -/
inductive Content where
  | nothing
  | json (v : Json)
  /-- What is wrong with the parameters. -/
  | faults (fs : List ParamFault)
  | text (s : String)

/-- An answer: its status, what it holds, and where it points or what it allows. -/
structure Response where
  status : Nat
  content : Content
  header : Option String

namespace Response

def ofJson (status : Nat) (v : Json) : Response := ⟨status, .json v, none⟩

/-- The answer to what goes wrong in the server. -/
def serverError : Response := ⟨500, .text "Internal Server Error", none⟩

/-- An answer with a body that may not be writable. -/
def ofBody (status : Nat) : Option Json → Response
  | some v => .ofJson status v
  | none => serverError

def ofFailure (f : Failure) : Response :=
  match f with
  | .breakdown _ => serverError
  | f => .ofJson f.status (Body.detail f.message)

def ofFaults (fs : List ParamFault) : Response := ⟨422, .faults fs, none⟩

/-- The answer to a path that names nothing. -/
def notFound : Response := .ofJson 404 (Body.detail "Not Found")

/-- The answer to a method that the route does not know; it names the one that every route knows. -/
def notAllowed : Response :=
  ⟨405, .json (Body.detail "Method Not Allowed"), some Method.get.word⟩

/-- An answer that sends the client elsewhere. -/
def redirect (location : List Char) : Response := ⟨307, .nothing, some (String.ofList location)⟩

end Response

namespace Service

def isLocationChar (c : Char) : Bool :=
  Form.isPlain c || ":/%#?=@[]!$&'()*+,;".toList.contains c

/-- The location of another path for a request. -/
def location (request : Request) (path : List Char) : List Char :=
  Percent.encode isLocationChar
    (request.origin ++ path ++ if request.query = [] then [] else '?' :: request.query)

/-- An operation of the catalog that a request asks for, and the answer to its result; or what is
wrong with the request. -/
abbrev Handler := Reading (Catalog.Action Response)

def listApps (ps : Params) : Handler :=
  (ps.pageRequest.both (ps.type?.both (ps.text? "search"))).map fun (request, type, search) => do
    let page ← Catalog.list request ⟨type, search⟩
    pure (.ofBody 200 (Body.page page))

def importApps (ps : Params) : Handler :=
  (ps.pageRequest.both ((ps.text? "uri").both ((ps.text? "apps").both (ps.bool "force")))).map
    fun (request, uri, apps, force) => do
      let inline := match apps with
        | some s => Inline.text s
        | none => .none
      let page ← Catalog.registerAll request uri inline force
      pure (.ofBody 201 (Body.page page))

def showApp (type name : String) (ps : Params) : Handler :=
  ((pathType type).both (ps.bool "exhaustive")).map fun (type, exhaustive) => do
    let details ← Catalog.info type name exhaustive
    pure (.ofBody 200 (Body.details details))

def registerApp (type name : String) (ps : Params) : Handler :=
  ((pathType type).both ((ps.text "uri").both
    ((ps.text? "metadata-uri").both (ps.bool "force")))).map
    fun (type, uri, metadataUri, force) => do
      let _ ← Catalog.register ⟨type, name, uri, metadataUri⟩ force
      pure ⟨201, .nothing, none⟩

def removeApp (type name : String) : Handler :=
  (pathType type).map fun type => do
    Catalog.unregister type name
    pure ⟨200, .nothing, none⟩

/-- What is done for a method at a route, if the route knows the method. -/
def handler? (route : Route) (method : Method) (ps : Params) : Option Handler :=
  match route, method with
  | .service, .get => some (.ok (pure (.ofJson 200 Body.about)))
  | .health, .get => some (.ok (pure (.ofJson 200 Body.healthy)))
  | .apps, .get => some (listApps ps)
  | .apps, .post => some (importApps ps)
  | .app type name, .get => some (showApp (String.ofList type) (String.ofList name) ps)
  | .app type name, .post => some (registerApp (String.ofList type) (String.ofList name) ps)
  | .app type name, .delete => some (removeApp (String.ofList type) (String.ofList name))
  | _, _ => none

/-- Runs an operation and answers its failure. -/
def run (m : Catalog.Action Response) (c : Catalog) : Response × Catalog :=
  match m.on c with
  | (.ok response, c) => (response, c)
  | (.error failure, c) => (.ofFailure failure, c)

/-- The answer to a request at a route. -/
def answerAt (route : Route) (request : Request) (c : Catalog) : Response × Catalog :=
  match (Method.ofWord? request.method).bind fun m =>
      handler? route m (Form.decode request.query) with
  | none => (.notAllowed, c)
  | some (.error faults) => (.ofFaults faults, c)
  | some (.ok m) => run m c

/-- The answer to a request whatever its path. -/
def answerAny (request : Request) (c : Catalog) : Response × Catalog :=
  let path := Percent.decode request.path
  match Route.ofPath? path with
  | some route => answerAt route request c
  | none =>
    match Route.redirect? path with
    | some other => (.redirect (location request other), c)
    | none => (.notFound, c)

/-- The answer to a request; one that asks for the head alone gets no content. -/
def answer (request : Request) (c : Catalog) : Response × Catalog :=
  let (response, c) := answerAny request c
  (if request.method = "HEAD" then { response with content := .nothing } else response, c)

end Service

end AppCatalog.Web
