import AppCatalog.Failure

/-!
# A place in a document text

A cursor is the rest of a text with the line and column it begins at. A line ends at a line feed, a
carriage return (with or without a line feed), a next-line control, or a Unicode separator. Past the
end every character reads as NUL, which no document holds.
-/

namespace AppCatalog.Yaml

/-- Why a text is no document: it breaks the grammar, or a value in it breaks something below. -/
inductive Fault where
  | malformed
  | breakdown (cause : Breakdown)
  deriving DecidableEq, Repr

/-- The rest of a text and where it begins. -/
structure Cursor where
  rest : List Char
  index : Nat
  line : Nat
  column : Nat
  deriving Repr, Inhabited

def isBreak (c : Char) : Bool :=
  c == '\n' || c == '\r' || c == '\x85' || c == '\u2028' || c == '\u2029'

/-- The end of the text or of a line. -/
def isBreakOrEnd (c : Char) : Bool := c == '\x00' || isBreak c

/-- The end of the text or of a line, or a space. -/
def isSpaceOrEnd (c : Char) : Bool := c == ' ' || isBreakOrEnd c

/-- The end of the text or of a line, a space or a tab. -/
def isGapOrEnd (c : Char) : Bool := c == '\t' || isSpaceOrEnd c

namespace Cursor

def start (cs : List Char) : Cursor := ⟨cs, 0, 0, 0⟩

def peek (c : Cursor) (n : Nat) : Char := c.rest.getD n '\x00'

/-- The cursor behind the next character. A byte order mark takes no column. -/
def next (c : Cursor) : Cursor :=
  match c.rest with
  | [] => c
  | ch :: rest =>
    if (isBreak ch && ch != '\r') || (ch == '\r' && rest.head? != some '\n') then
      ⟨rest, c.index + 1, c.line + 1, 0⟩
    else ⟨rest, c.index + 1, c.line, if ch == '\ufeff' then c.column else c.column + 1⟩

def advance : Nat → Cursor → Cursor
  | 0, c => c
  | n + 1, c => advance n c.next

/-- The longest run of characters with a property, and the cursor behind it. -/
def span (p : Char → Bool) (c : Cursor) : List Char × Cursor :=
  let run := c.rest.takeWhile p
  (run, c.advance run.length)

/-- The cursor behind the longest run of characters with a property. -/
def skip (p : Char → Bool) (c : Cursor) : Cursor := (c.span p).2

/-- The line break at the cursor, which reads as a line feed unless it is a Unicode separator, and
the cursor behind it. -/
def lineBreak (c : Cursor) : List Char × Cursor :=
  let ch := c.peek 0
  if ch == '\r' && c.peek 1 == '\n' then (['\n'], c.advance 2)
  else if ch == '\r' || ch == '\n' || ch == '\x85' then (['\n'], c.next)
  else if ch == '\u2028' || ch == '\u2029' then ([ch], c.next)
  else ([], c)

/-- Whether three dashes or dots stand at the cursor with a gap behind them. -/
def atMark (c : Cursor) (ch : Char) : Bool :=
  c.peek 0 == ch && c.peek 1 == ch && c.peek 2 == ch && isGapOrEnd (c.peek 3)

/-- Whether a mark that begins or ends a document stands at the cursor. -/
def atDocumentMark (c : Cursor) : Bool := c.atMark '-' || c.atMark '.'

/-- The cursor behind spaces, comments and line breaks, and whether a line was ended. -/
def skipToToken : Nat → Cursor → Bool × Cursor
  | 0, c => (false, c)
  | fuel + 1, c =>
    let c := c.skip (· == ' ')
    let c := if c.peek 0 == '#' then c.skip (!isBreak ·) else c
    if isBreak (c.peek 0) then
      let (_, c) := skipToToken fuel c.lineBreak.2
      (true, c)
    else (false, c)

end Cursor

end AppCatalog.Yaml
