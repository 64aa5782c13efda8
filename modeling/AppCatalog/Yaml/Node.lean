import AppCatalog.Yaml.Tag
import AppCatalog.Yaml.Token

/-!
# Nodes of a document

A document is a tree of scalars, sequences and mappings, each with a tag. An alias stands for the
node that its anchor names, or for the place of a node that it stands inside of. `Node.ofTokens`
reads the tree off the tokens of a text, which must hold one document at most.
-/

namespace AppCatalog.Yaml

/-- A node of a document. -/
inductive Node where
  | scalar (tag : Tag) (text : Points)
  | sequence (tag : Tag) (items : List Node)
  | mapping (tag : Tag) (entries : List (Node × Node))
  /-- An alias of a node that it stands inside of. -/
  | cycle (isMapping : Bool)
  deriving Repr, Inhabited

namespace Node

def tag : Node → Tag
  | scalar t _ => t
  | sequence t _ => t
  | mapping t _ => t
  | cycle isMapping => if isMapping then .mapping else .sequence

/-- A scalar that is not written down. -/
def missing : Node := .scalar .null ⟨[]⟩

end Node

/-- What an anchor names: a node, or one that is still being read. -/
inductive Anchored where
  | whole (node : Node)
  | unfinished (isMapping : Bool)

/-- How far the tokens of a document have been read. -/
structure Reader where
  tokens : List Token
  /-- The fault behind the last token, if the text ends in one. -/
  ending : Option Fault
  /-- What tag handles stand for. -/
  handles : Assoc (List Char) (List Char)
  anchors : Assoc (List Char) Anchored

/-- A step of reading. -/
abbrev Reading (α : Type) := StateT Reader (Except Fault) α

namespace Reading

def malformed {α : Type} : Reading α := throw .malformed

/-- The next token; none at the end of the text. -/
def peek : Reading (Option Token) := do
  let r ← get
  match r.tokens, r.ending with
  | t :: _, _ => pure (some t)
  | [], none => pure none
  | [], some fault => throw fault

def drop : Reading Unit := modify fun r => { r with tokens := r.tokens.tail }

/-- Whether the next token is one of some. -/
def isAt (ts : List Token) : Reading Bool := do
  match ← peek with
  | some t => pure (ts.contains t)
  | none => pure false

/-- Passes over the next token if it is the given one. -/
def take? (t : Token) : Reading Bool := do
  if ← isAt [t] then
    drop
    pure true
  else pure false

/-- Passes over a comma, which stands in front of all but the first of some parts. -/
def comma (isFirst : Bool) : Reading Unit := do
  if isFirst then pure ()
  else if ← take? .flowEntry then pure ()
  else malformed

def bind (anchor : Option (List Char)) (a : Anchored) : Reading Unit :=
  match anchor with
  | none => pure ()
  | some name => modify fun r => { r with anchors := Assoc.insert name a r.anchors }

/-- The node that an alias stands for. -/
def follow (name : List Char) : Reading Node := do
  match Assoc.get? name (← get).anchors with
  | some (.whole node) => pure node
  | some (.unfinished isMapping) => pure (.cycle isMapping)
  | none => malformed

def fullName (handle : Option (List Char)) (suffix : List Char) : Reading (List Char) := do
  match handle with
  | none => pure suffix
  | some h =>
    match Assoc.get? h (← get).handles with
    | some lead => pure (lead ++ suffix)
    | none => malformed

def anchor? : Reading (Option (List Char)) := do
  match ← peek with
  | some (.anchor name) =>
    drop
    pure (some name)
  | _ => pure none

def tag? : Reading (Option (List Char)) := do
  match ← peek with
  | some (.tag handle suffix) =>
    drop
    pure (some (← fullName handle suffix))
  | _ => pure none

/-- The anchor and tag in front of a node, in either order. -/
def properties : Reading (Option (List Char) × Option (List Char)) := do
  match ← anchor? with
  | some a => pure (some a, ← tag?)
  | none =>
    let t ← tag?
    if t.isSome then pure (← anchor?, t) else pure (none, none)

def collectionTag (given : Option (List Char)) (standard : Tag) : Tag :=
  match given with
  | none => standard
  | some name => if name = ['!'] then standard else .ofName name

def scalarTag (given : Option (List Char)) (isPlain : Bool) (text : Points) : Tag :=
  match given with
  | none => if isPlain then .ofPlain text.replaced else .text
  | some name => if name = ['!'] then .ofPlain text.replaced else .ofName name

mutual

/-- The node at the next token. A block may begin only where `inBlock` says, and dashes in the
column of a key only where `dashes` says. -/
def node : Nat → Bool → Bool → Reading Node
  | 0, _, _ => malformed
  | fuel + 1, inBlock, dashes => do
    match ← peek with
    | some (.alias name) =>
      drop
      follow name
    | _ =>
      let (anchor, tag) ← properties
      match anchor with
      | some name =>
        if (Assoc.get? name (← get).anchors).isSome then malformed
      | none => pure ()
      let n ← content fuel inBlock dashes anchor tag
      Reading.bind anchor (.whole n)
      pure n

/-- What stands behind the anchor and tag of a node. -/
def content : Nat → Bool → Bool → Option (List Char) → Option (List Char) → Reading Node
  | 0, _, _, _, _ => malformed
  | fuel + 1, inBlock, dashes, anchor, tag => do
    let openSequence := Reading.bind anchor (.unfinished false)
    let openMapping := Reading.bind anchor (.unfinished true)
    match ← peek with
    | some (.scalar text isPlain) =>
      drop
      pure (.scalar (scalarTag tag isPlain text) text)
    | some .flowSequence =>
      drop
      openSequence
      pure (.sequence (collectionTag tag .sequence) (← flowItems fuel true))
    | some .flowMapping =>
      drop
      openMapping
      pure (.mapping (collectionTag tag .mapping) (← flowEntries fuel true))
    | t =>
      if dashes && t == some .blockEntry then
        openSequence
        pure (.sequence (collectionTag tag .sequence) (← dashItems fuel))
      else if inBlock && t == some .blockSequence then
        drop
        openSequence
        pure (.sequence (collectionTag tag .sequence) (← blockItems fuel))
      else if inBlock && t == some .blockMapping then
        drop
        openMapping
        pure (.mapping (collectionTag tag .mapping) (← blockEntries fuel))
      else if anchor.isSome || tag.isSome then pure (.scalar (scalarTag tag true ⟨[]⟩) ⟨[]⟩)
      else malformed

def blockItems : Nat → Reading (List Node)
  | 0 => malformed
  | fuel + 1 => do
    if ← take? .blockEntry then
      let n ←
        if ← isAt [.blockEntry, .blockEnd] then pure .missing else node fuel true false
      pure (n :: (← blockItems fuel))
    else if ← take? .blockEnd then pure []
    else malformed

/-- The items of a sequence whose dashes stand in the column of its key. -/
def dashItems : Nat → Reading (List Node)
  | 0 => malformed
  | fuel + 1 => do
    if ← take? .blockEntry then
      let n ←
        if ← isAt [.blockEntry, .key, .value, .blockEnd] then pure .missing
        else node fuel true false
      pure (n :: (← dashItems fuel))
    else pure []

def blockEntries : Nat → Reading (List (Node × Node))
  | 0 => malformed
  | fuel + 1 => do
    if ← take? .key then
      let k ← if ← isAt [.key, .value, .blockEnd] then pure .missing else node fuel true true
      let v ←
        if ← take? .value then
          if ← isAt [.key, .value, .blockEnd] then pure .missing else node fuel true true
        else pure .missing
      pure ((k, v) :: (← blockEntries fuel))
    else if ← take? .blockEnd then pure []
    else malformed

/-- The items of a bracketed sequence; all but the first stand behind a comma. -/
def flowItems : Nat → Bool → Reading (List Node)
  | 0, _ => malformed
  | fuel + 1, isFirst => do
    if ← take? .flowSequenceEnd then pure []
    else
      comma isFirst
      if ← take? .key then
        let ends := [Token.flowEntry, Token.flowSequenceEnd]
        let k ← if ← isAt (.value :: ends) then pure .missing else node fuel false false
        let v ←
          if ← take? .value then
            if ← isAt ends then pure .missing else node fuel false false
          else pure .missing
        pure (.mapping .mapping [(k, v)] :: (← flowItems fuel false))
      else if ← take? .flowSequenceEnd then pure []
      else
        let n ← node fuel false false
        pure (n :: (← flowItems fuel false))

/-- The entries of a braced mapping; all but the first stand behind a comma. -/
def flowEntries : Nat → Bool → Reading (List (Node × Node))
  | 0, _ => malformed
  | fuel + 1, isFirst => do
    if ← take? .flowMappingEnd then pure []
    else
      comma isFirst
      if ← take? .key then
        let ends := [Token.flowEntry, Token.flowMappingEnd]
        let k ← if ← isAt (.value :: ends) then pure .missing else node fuel false false
        let v ←
          if ← take? .value then
            if ← isAt ends then pure .missing else node fuel false false
          else pure .missing
        pure ((k, v) :: (← flowEntries fuel false))
      else if ← take? .flowMappingEnd then pure []
      else
        let k ← node fuel false false
        pure ((k, .missing) :: (← flowEntries fuel false))

end

def standardHandles : Assoc (List Char) (List Char) :=
  [(['!'], ['!']), (['!', '!'], Tag.standardLead)]

/-- The directives in front of a document: one version at most, of the first generation, and no
handle twice. Gives whether a version was seen. -/
def directives : Nat → Bool → Assoc (List Char) (List Char) →
    Reading (Assoc (List Char) (List Char))
  | 0, _, _ => malformed
  | fuel + 1, versioned, handles => do
    match ← peek with
    | some (.version major _) =>
      if versioned || major ≠ 1 then malformed
      else
        drop
        directives fuel true handles
    | some (.tagHandle h lead) =>
      if (Assoc.get? h handles).isSome then malformed
      else
        drop
        directives fuel versioned (Assoc.insert h lead handles)
    | some .otherDirective =>
      drop
      directives fuel versioned handles
    | _ => pure handles

/-- Whether the next token can only stand behind the content of a document. -/
def atDocumentEnd : Reading Bool := do
  match ← peek with
  | none => pure true
  | some (.version _ _) | some (.tagHandle _ _) => pure true
  | some t => pure ([.otherDirective, .documentStart, .documentEnd].contains t)

/-- Passes over the marks that end a document. -/
def dropEnds : Nat → Reading Unit
  | 0 => pure ()
  | fuel + 1 => do
    if ← take? .documentEnd then dropEnds fuel

/-- The one document of a text; none if the text holds nothing. -/
def document (fuel : Nat) : Reading (Option Node) := do
  match ← peek with
  | none => pure none
  | some .documentEnd => malformed
  | some _ =>
    let n ←
      if ← atDocumentEnd then do
        let given ← directives fuel false []
        if !(← take? .documentStart) then malformed
        let missing := standardHandles.filter fun p => (Assoc.get? p.1 given).isNone
        modify fun r => { r with handles := given ++ missing }
        if ← atDocumentEnd then pure .missing else node fuel true false
      else node fuel true false
    dropEnds fuel
    match ← peek with
    | none => pure (some n)
    | some _ => malformed

end Reading

/-- The one document that a text holds. -/
def Node.ofText (cs : List Char) : Except Fault (Option Node) := do
  let (tokens, ending) := Token.scan cs
  let (n, _) ← (Reading.document (4 * tokens.length + 16)).run
    ⟨tokens, ending, Reading.standardHandles, []⟩
  pure n

end AppCatalog.Yaml
