import AppCatalog.Assoc
import AppCatalog.Yaml.Scalar

/-!
# Tokens of a document

The tokens of a document text: indicators, scalars, tags, anchors, and the starts and ends of blocks
that indentation implies. A key without an indicator of its own is only known by the colon behind
it, so that a scanner remembers where one may have begun and puts the key token in there when the
colon comes. `Token.scan` gives the tokens of a text, and the fault at which they end if they do not
reach the end of the text.
-/

namespace AppCatalog.Yaml

/-- A token of a document. -/
inductive Token where
  | version (major minor : Nat)
  | tagHandle (handle lead : List Char)
  | otherDirective
  | documentStart
  | documentEnd
  | blockSequence
  | blockMapping
  | blockEnd
  | flowSequence
  | flowSequenceEnd
  | flowMapping
  | flowMappingEnd
  | flowEntry
  | blockEntry
  | key
  | value
  | alias (name : List Char)
  | anchor (name : List Char)
  | tag (handle : Option (List Char)) (suffix : List Char)
  | scalar (text : Points) (isPlain : Bool)
  deriving DecidableEq, Repr

/-- A place where a key without an indicator may have begun. -/
structure PossibleKey where
  /-- How many tokens stand before it. -/
  place : Nat
  /-- Whether nothing but a key can stand there. -/
  isRequired : Bool
  index : Nat
  line : Nat
  column : Nat

/-- How far a scanner has come. -/
structure Scanner where
  cursor : Cursor
  /-- The tokens so far, last first. -/
  tokens : List Token
  count : Nat
  /-- How many brackets and braces are open. -/
  flowLevel : Nat
  /-- The column of the innermost open block; below zero outside of any. -/
  indent : Int
  /-- The columns of the blocks around it. -/
  outer : List Int
  /-- Whether a key may begin here. -/
  keyAllowed : Bool
  /-- Possible keys by flow level. -/
  keys : Assoc Nat PossibleKey

namespace Scanner

def emit (t : Token) (s : Scanner) : Scanner :=
  { s with tokens := t :: s.tokens, count := s.count + 1 }

/-- The scanner with a token put in before all but the first `place` tokens. -/
def insertAt (place : Nat) (t : Token) (s : Scanner) : Scanner :=
  let later := s.count - place
  { s with tokens := s.tokens.take later ++ t :: s.tokens.drop later, count := s.count + 1 }

def moveTo (c : Cursor) (s : Scanner) : Scanner := { s with cursor := c }

def forward (n : Nat) (s : Scanner) : Scanner := { s with cursor := s.cursor.advance n }

def inFlow (s : Scanner) : Bool := 0 < s.flowLevel

/-- The farthest that the colon of a key may stand behind its beginning. -/
def keyReach : Nat := 1024

/-- Whether a possible key is out of reach. -/
def isStale (s : Scanner) (k : PossibleKey) : Bool :=
  k.line ≠ s.cursor.line || keyReach < s.cursor.index - k.index

/-- Forgets possible keys out of reach; a required one must not be. -/
def dropStale (s : Scanner) : Except Fault Scanner :=
  if s.keys.any fun p => s.isStale p.2 && p.2.isRequired then .error .malformed
  else .ok { s with keys := s.keys.filter fun p => !s.isStale p.2 }

/-- Forgets the possible key of the flow level; it must not be required. -/
def dropKey (s : Scanner) : Except Fault Scanner :=
  match Assoc.get? s.flowLevel s.keys with
  | some k =>
    if k.isRequired then .error .malformed
    else .ok { s with keys := Assoc.erase s.flowLevel s.keys }
  | none => .ok s

/-- Remembers that a key may begin here. -/
def saveKey (s : Scanner) : Except Fault Scanner :=
  if s.keyAllowed then do
    let isRequired := !s.inFlow && s.indent == (s.cursor.column : Int)
    let s ← s.dropKey
    let k : PossibleKey :=
      ⟨s.count, isRequired, s.cursor.index, s.cursor.line, s.cursor.column⟩
    pure { s with keys := Assoc.insert s.flowLevel k s.keys }
  else .ok s

/-- Closes the blocks whose column is beyond the given one. -/
def unwindTo (column : Int) : List Int → Scanner → Scanner
  | [], s => if column < s.indent then { s.emit .blockEnd with indent := -1, outer := [] } else s
  | o :: os, s =>
    if column < s.indent then
      unwindTo column os { s.emit .blockEnd with indent := o, outer := os }
    else s

/-- Closes blocks down to a column; inside brackets columns do not count. -/
def unwind (column : Int) (s : Scanner) : Scanner :=
  if s.inFlow then s else unwindTo column s.outer s

/-- Opens a block at a column, if it is deeper than the innermost one. -/
def indentTo? (column : Nat) (s : Scanner) : Option Scanner :=
  if s.indent < column then some { s with outer := s.indent :: s.outer, indent := column } else none

/-- Opens a block here with its token, if it is deeper than the innermost one; a key or entry must
be allowed here. -/
def openBlock (t : Token) (s : Scanner) : Except Fault Scanner :=
  if s.inFlow then .ok s
  else if !s.keyAllowed then .error .malformed
  else match s.indentTo? s.cursor.column with
    | some s => .ok (s.emit t)
    | none => .ok s

/-! ## Indicators -/

def finish (s : Scanner) : Except Fault Scanner := do
  let s ← (s.unwind (-1)).dropKey
  pure { s with keyAllowed := false, keys := [] }

def openFlow (t : Token) (s : Scanner) : Except Fault Scanner := do
  let s ← s.saveKey
  pure ({ s with flowLevel := s.flowLevel + 1, keyAllowed := true }.forward 1 |>.emit t)

def closeFlow (t : Token) (s : Scanner) : Except Fault Scanner := do
  let s ← s.dropKey
  pure ({ s with flowLevel := s.flowLevel - 1, keyAllowed := false }.forward 1 |>.emit t)

def flowEntry (s : Scanner) : Except Fault Scanner := do
  let s ← { s with keyAllowed := true }.dropKey
  pure ((s.forward 1).emit .flowEntry)

/-- A dash in front of an entry. -/
def blockEntry (s : Scanner) : Except Fault Scanner := do
  let s ← s.openBlock .blockSequence
  let s ← { s with keyAllowed := true }.dropKey
  pure ((s.forward 1).emit .blockEntry)

/-- A question mark in front of a key. -/
def explicitKey (s : Scanner) : Except Fault Scanner := do
  let s ← s.openBlock .blockMapping
  let s ← { s with keyAllowed := !s.inFlow }.dropKey
  pure ((s.forward 1).emit .key)

/-- A colon behind a key. If a key may have begun before, its token is put in there. -/
def value (s : Scanner) : Except Fault Scanner := do
  match Assoc.get? s.flowLevel s.keys with
  | some k =>
    let s := { s with keys := Assoc.erase s.flowLevel s.keys }
    let s := s.insertAt k.place .key
    let s := if s.inFlow then s else match s.indentTo? k.column with
      | some s => s.insertAt k.place .blockMapping
      | none => s
    pure (({ s with keyAllowed := false }.forward 1).emit .value)
  | none =>
    let s ← s.openBlock .blockMapping
    let s ← { s with keyAllowed := !s.inFlow }.dropKey
    pure ((s.forward 1).emit .value)

/-! ## Directives, anchors and tags -/

/-- A letter or digit of ASCII, a dash or an underscore. -/
def isWordChar (c : Char) : Bool := c.isAlphanum || c == '-' || c == '_'

def isTagChar (c : Char) : Bool :=
  c.isAlphanum || "-;/?:@&=+$,_.!~*'()[]%".toList.contains c

/-- Bytes written as escapes at the cursor. -/
def tagBytes : Nat → Cursor → Except Fault (Bytes × Cursor)
  | 0, c => .ok ([], c)
  | fuel + 1, c =>
    if c.peek 0 == '%' then
      match Text.hexValue? (c.peek 1), Text.hexValue? (c.peek 2) with
      | some h, some l => do
        let (bytes, c) ← tagBytes fuel (c.advance 3)
        pure (UInt8.ofNat (h * 16 + l) :: bytes, c)
      | _, _ => .error .malformed
    else .ok ([], c)

/-- The characters of a tag at the cursor. -/
def tagText : Nat → Cursor → Except Fault (List Char × Cursor)
  | 0, c => .ok ([], c)
  | fuel + 1, c => do
    let (run, c) := c.span fun ch => isTagChar ch && ch != '%'
    if c.peek 0 == '%' then
      let (bytes, c) ← tagBytes (c.rest.length + 1) c
      match Utf8.decode? bytes with
      | none => .error .malformed
      | some cs =>
        let (tail, c) ← tagText fuel c
        pure (run ++ cs ++ tail, c)
    else pure (run, c)

/-- The characters of a tag at the cursor, at least one. -/
def tagSuffix (c : Cursor) : Except Fault (List Char × Cursor) := do
  if isTagChar (c.peek 0) then tagText (c.rest.length + 1) c else .error .malformed

/-- A handle at the cursor: an exclamation mark, or a word between two. -/
def handle (c : Cursor) : Except Fault (List Char × Cursor) :=
  if c.peek 0 != '!' then .error .malformed
  else if c.peek 1 == ' ' then .ok (['!'], c.next)
  else
    let (word, d) := c.next.span isWordChar
    if d.peek 0 == '!' then .ok ('!' :: word ++ ['!'], d.next) else .error .malformed

def number (c : Cursor) : Except Fault (Nat × Cursor) :=
  let (digits, c) := c.span Char.isDigit
  if digits = [] then .error .malformed
  else .ok (digits.foldl (fun n d => n * 10 + (d.toNat - 48)) 0, c)

def versionToken (c : Cursor) : Except Fault (Token × Cursor) := do
  let (major, c) ← number (c.skip (· == ' '))
  if c.peek 0 != '.' then .error .malformed
  else
    let (minor, c) ← number c.next
    if isSpaceOrEnd (c.peek 0) then pure (.version major minor, c) else .error .malformed

/-- The handle and what it stands for behind a tag directive. -/
def handleToken (c : Cursor) : Except Fault (Token × Cursor) := do
  let (h, c) ← handle (c.skip (· == ' '))
  if c.peek 0 != ' ' then .error .malformed
  else
    let (lead, c) ← tagSuffix (c.skip (· == ' '))
    if isSpaceOrEnd (c.peek 0) then pure (.tagHandle h lead, c) else .error .malformed

/-- A directive, the cursor at its percent sign. -/
def directiveToken (c : Cursor) : Except Fault (Token × Cursor) := do
  let (name, c) := c.next.span isWordChar
  if name = [] || !isSpaceOrEnd (c.peek 0) then .error .malformed
  else
    let (t, c) ← match String.ofList name with
      | "YAML" => versionToken c
      | "TAG" => handleToken c
      | _ => pure (Token.otherDirective, c.skip (!isBreak ·))
    let c ← Scalar.ignoredLine c
    pure (t, c)

def directive (s : Scanner) : Except Fault Scanner := do
  let s ← (s.unwind (-1)).dropKey
  let (t, c) ← directiveToken s.cursor
  pure (({ s with keyAllowed := false }.moveTo c).emit t)

/-- A mark that begins or ends a document. -/
def documentMark (t : Token) (s : Scanner) : Except Fault Scanner := do
  let s ← (s.unwind (-1)).dropKey
  pure (({ s with keyAllowed := false }.forward 3).emit t)

/-- A name behind an asterisk or ampersand. -/
def nameToken (of : List Char → Token) (c : Cursor) : Except Fault (Token × Cursor) :=
  let (name, c) := c.next.span isWordChar
  let after := c.peek 0
  if name ≠ [] && (isGapOrEnd after ||
      ['?', ':', ',', ']', '\x7d', '%', '@', '\x60'].contains after) then .ok (of name, c)
  else .error .malformed

/-- Whether an exclamation mark stands at the cursor before the next space or line end. -/
def hasMarkAhead (c : Cursor) : Bool :=
  (c.rest.takeWhile (!isSpaceOrEnd ·)).contains '!'

/-- A tag, the cursor at its exclamation mark. -/
def tagToken (c : Cursor) : Except Fault (Token × Cursor) := do
  let (t, c) ←
    if c.peek 1 == '<' then do
      let (suffix, c) ← tagSuffix (c.advance 2)
      if c.peek 0 == '>' then pure (Token.tag none suffix, c.next) else .error .malformed
    else if isGapOrEnd (c.peek 1) then pure (Token.tag none ['!'], c.next)
    else do
      let (h, c) ← if hasMarkAhead c.next then handle c else pure (['!'], c.next)
      let (suffix, c) ← tagSuffix c
      pure (Token.tag (some h) suffix, c)
  if isSpaceOrEnd (c.peek 0) then pure (t, c) else .error .malformed

/-- A token that a key may begin with. -/
def property (read : Cursor → Except Fault (Token × Cursor)) (s : Scanner) :
    Except Fault Scanner := do
  let s ← s.saveKey
  let (t, c) ← read s.cursor
  pure (({ s with keyAllowed := false }.moveTo c).emit t)

/-! ## Scalars -/

def blockScalar (s : Scanner) : Except Fault Scanner := do
  let s ← { s with keyAllowed := true }.dropKey
  let (text, c) ← Scalar.block s.indent s.cursor
  pure ((s.moveTo c).emit (.scalar (.ofChars text) false))

def flowScalar (s : Scanner) : Except Fault Scanner :=
  s.property fun c => do
    let (text, c) ← Scalar.flow c
    pure (.scalar text false, c)

/-- A plain text. A line break behind it allows a key again. -/
def plainScalar (s : Scanner) : Except Fault Scanner := do
  let s ← s.saveKey
  let (text, broke, c) := Scalar.plain s.inFlow (s.indent + 1).toNat s.cursor
  pure (({ s with keyAllowed := broke }.moveTo c).emit (.scalar (.ofChars text) true))

/-- Whether a plain text begins at the cursor. -/
def beginsPlain (s : Scanner) : Bool :=
  let ch := s.cursor.peek 0
  !(isGapOrEnd ch || "-?:,[]\x7b\x7d#&*!|>'\"%@\x60".toList.contains ch) ||
    (!isGapOrEnd (s.cursor.peek 1) && (ch == '-' || (!s.inFlow && (ch == '?' || ch == ':'))))

/-! ## Scanning -/

/-- The scanner at the next token, with stale keys forgotten and blocks closed. -/
def settle (s : Scanner) : Except Fault Scanner := do
  let (broke, c) := s.cursor.skipToToken (s.cursor.rest.length + 1)
  let s := { s.moveTo c with keyAllowed := s.keyAllowed || (broke && !s.inFlow) }
  let s ← s.dropStale
  pure (s.unwind s.cursor.column)

/-- Reads the token at the cursor, which is not at the end of the text. -/
def token (s : Scanner) : Except Fault Scanner :=
  let c := s.cursor
  let ch := c.peek 0
  let isMark := s.inFlow || isGapOrEnd (c.peek 1)
  if ch == '%' && c.column == 0 then s.directive
  else if c.column == 0 && c.atMark '-' then s.documentMark .documentStart
  else if c.column == 0 && c.atMark '.' then s.documentMark .documentEnd
  else if ch == '[' then s.openFlow .flowSequence
  else if ch == '\x7b' then s.openFlow .flowMapping
  else if ch == ']' then s.closeFlow .flowSequenceEnd
  else if ch == '\x7d' then s.closeFlow .flowMappingEnd
  else if ch == ',' then s.flowEntry
  else if ch == '-' && isGapOrEnd (c.peek 1) then s.blockEntry
  else if ch == '?' && isMark then s.explicitKey
  else if ch == ':' && isMark then s.value
  else if ch == '*' then s.property (nameToken .alias)
  else if ch == '&' then s.property (nameToken .anchor)
  else if ch == '!' then s.property tagToken
  else if (ch == '|' || ch == '>') && !s.inFlow then s.blockScalar
  else if ch == '\'' || ch == '"' then s.flowScalar
  else if s.beginsPlain then s.plainScalar
  else .error .malformed

/-- Reads tokens to the end of the text or to a fault. -/
def run : Nat → Scanner → List Token × Option Fault
  | 0, s => (s.tokens.reverse, some .malformed)
  | fuel + 1, s =>
    match s.settle with
    | .error f => (s.tokens.reverse, some f)
    | .ok next =>
      if next.cursor.rest = [] then
        match next.finish with
        | .ok next => (next.tokens.reverse, none)
        | .error f => (next.tokens.reverse, some f)
      else match next.token with
        | .ok next => run fuel next
        | .error f => (next.tokens.reverse, some f)

end Scanner

/-- A character that a document may hold. -/
def isDocumentChar (c : Char) : Bool :=
  let n := c.toNat
  n == 9 || n == 10 || n == 13 || (0x20 ≤ n && n ≤ 0x7e) || n == 0x85 ||
    (0xa0 ≤ n && n ≤ 0xd7ff) ||
    (0xe000 ≤ n && n ≤ 0xfffd) || 0x10000 ≤ n

/-- The tokens of a text, and the fault at which they end if there is one. A byte order mark at the
start is passed over. -/
def Token.scan (cs : List Char) : List Token × Option Fault :=
  if cs.all isDocumentChar then
    let c := Cursor.start cs
    let c := if c.peek 0 == '\ufeff' then c.next else c
    Scanner.run (cs.length + 2) ⟨c, [], 0, 0, -1, [], true, []⟩
  else ([], some .malformed)

end AppCatalog.Yaml
