import AppCatalog.Catalog
import AppCatalog.Console.Block
import AppCatalog.Shell.Command

/-!
# Running commands

`Command.blocks` performs a command on a catalog and says what it prints. `Shell.run` reads a
command line, opens the catalog that the settings ask for, performs the command, and fetches in
advance what waits before it ends. A failure of the catalog's own is told to the caller; a breakdown
ends the program. The world keeps what was done before a failure.
-/

namespace AppCatalog.Shell

open AppCatalog.Console

/-- How a command line ends. -/
inductive Answer where
  | output (printed : List Printed)
  | failed (failure : Failure)
  | broken (failure : Failure)
  | misused (fault : UsageFault)
  deriving Repr

namespace Answer

/-- The number that the program ends with. -/
def code : Answer → Nat
  | output _ => 0
  | failed _ | broken _ => 1
  | misused _ => 2

def ofFailure (f : Failure) : Answer := if f.isOwn then failed f else broken f

def ofBlocks (bs : List Block) : Answer :=
  match bs.flatMapM Block.printed with
  | .ok printed => output printed
  | .error .nothingOpen => broken (.breakdown .badMarkup)

def ofOutcome : Except Failure (List Block) → Answer
  | .ok bs => ofBlocks bs
  | .error f => ofFailure f

def line (s : String) : Answer := output [.line s]

end Answer

def registrationTable (title : String) (rs : List Registration) : Block :=
  .table ⟨title, ["Type", "Name", "URI", "Metadata URI"],
    rs.map fun r => [r.type.word, r.name, r.uri, r.metadataUri.getD ""]⟩

def listBlocks (p : Page) : Except Failure (List Block) :=
  if p.content = [] then .ok [.text "[yellow]No registered apps found.[/]"]
  else
    match p.totalPages? with
    | none => .error (.breakdown .tooLarge)
    | some pages =>
      .ok [registrationTable ("Apps (page " ++ toString (p.request.page + 1) ++ " of " ++
        toString pages ++ ", " ++ toString p.total ++ " total)") p.content]

/-- How much of a description is shown. -/
def descriptionLength : Nat := 60

/-- The row of an option; a default that is null is left out. -/
def optionRow (o : ConfigOption) : Except Breakdown (List Points) := do
  let default ← match o.default with
    | .null => .ok ("" : Points)
    | v => v.written
  .ok [o.id, o.type, default, ⟨o.description.points.take descriptionLength⟩]

/-- The rows of options; a text with half of a character in it cannot be printed. -/
def optionRows (os : List ConfigOption) : Except Breakdown (List (List String)) := do
  let rows ← os.mapM optionRow
  match rows.mapM fun row => row.mapM Points.text? with
  | some rows => .ok rows
  | none => .error .unencodable

def infoBlocks (d : Details) : Except Failure (List Block) := do
  let r := d.registration
  let rows ← (optionRows d.options).mapError .breakdown
  .ok ([.text ("\n[bold blue]" ++ r.id ++ "[/] " ++ r.uri)] ++
    ((r.metadataUri.filter (· ≠ "")).toList.map fun uri => .text ("  metadata: " ++ uri)) ++
    [if d.options.isEmpty then .text "[yellow]No configuration properties.[/]"
      else .table ⟨"Properties (" ++ toString d.options.length ++ ")",
        ["Property", "Type", "Default", "Description"], rows⟩])

def importBlocks (p : Page) : List Block :=
  if p.content = [] then [.text "[yellow]Nothing imported.[/]"]
  else [registrationTable ("Imported " ++ toString p.content.length ++ " apps (" ++
    toString p.total ++ " registered)") p.content]

/-- The listing that entries hold together: a line each. -/
def inlineOf (entries : List String) : Inline :=
  if entries = [] then .none else .text (String.intercalate "\n" entries)

/-- Performs a command and says what it prints. -/
def Command.blocks : Command → Catalog.Action (List Block)
  | list type search page size => do
    let request ← Run.ofExcept (Catalog.requestOf page size)
    let p ← Catalog.list request ⟨type, search⟩
    Run.ofExcept (listBlocks p)
  | info type name exhaustive => do
    let d ← Catalog.info type name exhaustive
    Run.ofExcept (infoBlocks d)
  | register type name uri metadataUri force => do
    let r ← Catalog.register ⟨type, name, uri, metadataUri⟩ force
    pure [.text ("  Registered: [cyan]" ++ r.id ++ "[/] -> " ++ r.uri)]
  | unregister type name => do
    Catalog.unregister type name
    pure [.text ("  Unregistered: [cyan]" ++ Registration.idOf type name ++ "[/]")]
  | importAll uri entries force =>
    importBlocks <$> Catalog.registerAll .standard uri (inlineOf entries) force

/-- Opens the catalog of some settings, performs a command, and fetches what waits. -/
def Command.run (c : Command) (s : Settings) (w : World) : Answer × World :=
  match (Catalog.ofSettings s true).on w with
  | (.error f, w) => (.ofFailure f, w)
  | (.ok catalog, _) =>
    let (result, catalog) := c.blocks.on catalog
    (.ofOutcome result, catalog.settle.world)

/-- The settings with the folder that is given in front of a command. -/
def Invocation.settings (i : Invocation) (s : Settings) : Settings :=
  match i.folder with
  | some folder => { s with registryFolder := .ofString folder }
  | none => s

/-- What the program says when it is asked for its version. -/
def versionText : String := "main, version " ++ version

/-- Runs a command line. The settings are read before the command is looked at. -/
def run (homes : Homes) (env : Assoc String String) (words : List String) (w : World) :
    Answer × World :=
  match Invocation.read words with
  | .error fault => (.misused fault, w)
  | .ok (.usage text) => (.line text, w)
  | .ok .version => (.line versionText, w)
  | .ok (.call i) =>
    match Settings.read homes env with
    | .error f => (.ofFailure f, w)
    | .ok s =>
      match Command.read i.words with
      | .error fault => (.misused fault, w)
      | .ok (.usage text) => (.line text, w)
      | .ok .version => (.line versionText, w)
      | .ok (.call c) => c.run (i.settings s) w

end AppCatalog.Shell
