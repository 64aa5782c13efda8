import AppCatalog.Catalog

/-!
# Bodies of answers

The answers of the web service are JSON. A value of a document that JSON does not know takes a plain
form: a date or moment is its text, bytes are the text they hold, a set or pair is a list, a number
that is none is null, and the keys of a map become texts. A text with half of a character in it has
no plain form.
-/

namespace AppCatalog.Web

/-- The text of a distance from universal time; none at all has a letter of its own. -/
def zoneText (seconds : Int) : String :=
  if seconds = 0 then "Z" else Moment.aheadText seconds

def momentText (m : Moment) : String :=
  m.date.text ++ "T" ++ m.timeText ++ (m.ahead.map zoneText).getD ""

def keyText : Value → Option String
  | .null => some "None"
  | .bool b => some (if b then "true" else "false")
  | .int n => some (toString n)
  | .float x => some (String.ofList x.text)
  | .text s => s.text?
  | .date d => some d.text
  | .moment m => some (momentText m)
  | .bytes data => (Utf8.decode? data).map String.ofList
  | _ => none

mutual

/-- The plain form of a value, if it has one. -/
def plain : Value → Option Json
  | .null => some .null
  | .bool b => some (.bool b)
  | .int n => some (.int n)
  | .float (.finite negative units) => some (.float (.finite negative units))
  | .float _ => some .null
  | .text s => s.text?.map .str
  | .list items => (plainAll items).map .arr
  | .map entries => (plainEntries entries).map fun fields => .obj (Assoc.ofPairs fields)
  | .pair a b => do
    let x ← plain a
    let y ← plain b
    some (.arr [x, y])
  | .date d => some (.str d.text)
  | .moment m => some (.str (momentText m))
  | .bytes data => (Utf8.decode? data).map fun cs => .str (String.ofList cs)
  | .set members => (plainAll members).map .arr
  | .cycle _ => none

def plainAll : List Value → Option (List Json)
  | [] => some []
  | v :: vs => do
    let x ← plain v
    let xs ← plainAll vs
    some (x :: xs)

/-- The plain forms of the entries of a map. -/
def plainEntries : List (Value × Value) → Option (List (String × Json))
  | [] => some []
  | (k, v) :: es => do
    let key ← keyText k
    let x ← plain v
    let xs ← plainEntries es
    some ((key, x) :: xs)

end

namespace Body

def registrationFields (r : Registration) : List (String × Json) :=
  [("name", .str r.name), ("type", .str r.type.word), ("uri", .str r.uri),
    ("metadata_uri", .ofOption r.metadataUri)]

def registration (r : Registration) : Json := .obj (registrationFields r)

/-- A page of registrations, if the number of pages can be told. -/
def page (p : Page) : Option Json :=
  p.totalPages?.map fun pages => .obj [
    ("entries", .arr (p.content.map registration)),
    ("page", .obj [("size", .int p.request.size), ("total_elements", .int p.total),
      ("total_pages", .int pages), ("number", .int p.request.page)])]

/-- A configuration option, if its texts and its default have a plain form. -/
def option (o : ConfigOption) : Option Json := do
  let id ← o.id.text?
  let name ← o.name.text?
  let type ← o.type.text?
  let default ← plain o.default
  let description ← o.description.text?
  some (.obj [("id", .str id), ("name", .str name), ("type", .str type),
    ("default_value", default), ("description", .str description),
    ("deprecated", .bool o.isDeprecated)])

def details (d : Details) : Option Json :=
  (d.options.mapM option).map fun options =>
    .obj (registrationFields d.registration ++ [("options", .arr options)])

def about : Json :=
  .obj [("name", .str "App Registry API"), ("version", .str version),
    ("description", .str "Registry of application artifacts"), ("docs", .str "/docs"),
    ("openapi", .str "/openapi.json")]

def healthy : Json := .obj [("status", .str "healthy")]

def detail (text : String) : Json := .obj [("detail", .str text)]

end Body

end AppCatalog.Web
