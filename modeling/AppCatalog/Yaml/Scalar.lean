import AppCatalog.Text.Hex
import AppCatalog.Text.Points
import AppCatalog.Yaml.Cursor

/-!
# Scalar texts

A scalar stands in a document plain, in single or double quotation marks, or as an indented block
behind a bar or an angle bracket. Each form has its own rule for folding lines: `Scalar.plain`,
`Scalar.flow` and `Scalar.block` read one form each and give the text it stands for.
-/

namespace AppCatalog.Yaml.Scalar

open AppCatalog.Text

/-- Line breaks folded: one line feed becomes a space, further ones stay. -/
def folded (lineBreak breaks : List Char) : List Char :=
  if lineBreak ≠ ['\n'] then lineBreak ++ breaks
  else if breaks = [] then [' ']
  else breaks

/-! ## Plain scalars -/

/-- Whether a plain scalar ends before the character at the front of a text. -/
def endsPlain (inFlow : Bool) : List Char → Bool
  | [] => true
  | c :: cs =>
    isGapOrEnd c ||
      (c == ':' && (isGapOrEnd (cs.headD '\x00') ||
        (inFlow && [',', '[', ']', '\x7b', '\x7d'].contains (cs.headD '\x00')))) ||
      (inFlow && [',', '?', '[', ']', '\x7b', '\x7d'].contains c)

/-- The part of a plain scalar that ends at a gap or an indicator. -/
def plainRun (inFlow : Bool) : List Char → List Char
  | [] => []
  | c :: cs => if endsPlain inFlow (c :: cs) then [] else c :: plainRun inFlow cs

/-- Blank lines behind a line break; nothing if a document mark stands among them. -/
def plainBreaks : Nat → List Char → Cursor → Option (List Char) × Cursor
  | 0, breaks, c => (some breaks, c)
  | fuel + 1, breaks, c =>
    if c.peek 0 == ' ' then plainBreaks fuel breaks c.next
    else if isBreak (c.peek 0) then
      let (b, c) := c.lineBreak
      if c.atDocumentMark then (none, c) else plainBreaks fuel (breaks ++ b) c
    else (some breaks, c)

/-- The gap between two parts of a plain scalar, and whether it holds a line break. An empty gap
ends the scalar. -/
def plainGap (c : Cursor) : List Char × Bool × Cursor :=
  let (spaces, c) := c.span (· == ' ')
  if isBreak (c.peek 0) then
    let (b, c) := c.lineBreak
    if c.atDocumentMark then ([], true, c)
    else match plainBreaks (c.rest.length + 1) [] c with
      | (some breaks, c) => (folded b breaks, true, c)
      | (none, c) => ([], true, c)
  else (spaces, false, c)

/-- The parts of a plain scalar behind a gap, and whether the last gap held a line break. -/
def plainParts (inFlow : Bool) (indent : Nat) :
    Nat → List Char → Bool → Cursor → List Char × Bool × Cursor
  | 0, _, broke, c => ([], broke, c)
  | fuel + 1, gap, broke, c =>
    let run := if c.peek 0 == '#' then [] else plainRun inFlow c.rest
    if run = [] then ([], broke, c)
    else
      let (gapAfter, broke, c) := plainGap (c.advance run.length)
      let head := gap ++ run
      if gapAfter = [] || c.peek 0 == '#' || (!inFlow && c.column < indent) then (head, broke, c)
      else
        let (tail, broke, c) := plainParts inFlow indent fuel gapAfter broke c
        (head ++ tail, broke, c)

/-- A plain scalar, whether its last gap held a line break, and the cursor behind it. -/
def plain (inFlow : Bool) (indent : Nat) (c : Cursor) : List Char × Bool × Cursor :=
  plainParts inFlow indent (c.rest.length + 1) [] false c

/-! ## Quoted scalars -/

/-- What a character stands for behind a backslash. -/
def escape? : Char → Option Char
  | '0' => some '\x00'
  | 'a' => some '\x07'
  | 'b' => some '\x08'
  | 't' => some '\t'
  | '\t' => some '\t'
  | 'n' => some '\n'
  | 'v' => some '\x0b'
  | 'f' => some '\x0c'
  | 'r' => some '\r'
  | 'e' => some '\x1b'
  | ' ' => some ' '
  | '"' => some '"'
  | '\\' => some '\\'
  | '/' => some '/'
  | 'N' => some '\x85'
  | '_' => some '\xa0'
  | 'L' => some '\u2028'
  | 'P' => some '\u2029'
  | _ => none

/-- How many hexadecimal digits follow a character behind a backslash. -/
def escapeWidth? : Char → Option Nat
  | 'x' => some 2
  | 'u' => some 4
  | 'U' => some 8
  | _ => none

/-- A number as a code point, unless it is beyond the last. -/
def codePoint (n : Nat) : Except Fault Nat :=
  if n < 0x110000 then .ok n
  else if n < 0x80000000 then .error (.breakdown .badValue)
  else .error (.breakdown .tooLarge)

/-- Line breaks inside quotation marks with the blanks around them; a document mark must not stand
there. -/
def flowBreaks : Nat → Cursor → Except Fault (List Char × Cursor)
  | 0, c => .ok ([], c)
  | fuel + 1, c =>
    if c.atDocumentMark then .error .malformed
    else
      let c := c.skip fun ch => ch == ' ' || ch == '\t'
      if isBreak (c.peek 0) then do
        let (b, c) := c.lineBreak
        let (breaks, c) ← flowBreaks fuel c
        pure (b ++ breaks, c)
      else .ok ([], c)

/-- What stands between two words inside quotation marks. -/
def flowGap (c : Cursor) : Except Fault (List Char × Cursor) := do
  let (blanks, c) := c.span fun ch => ch == ' ' || ch == '\t'
  if c.peek 0 == '\x00' then .error .malformed
  else if isBreak (c.peek 0) then
    let (b, c) := c.lineBreak
    let (breaks, c) ← flowBreaks (c.rest.length + 1) c
    pure (folded b breaks, c)
  else pure (blanks, c)

/-- The escape behind a backslash as code points. -/
def flowEscape (c : Cursor) : Except Fault (List Nat × Cursor) := do
  let ch := c.peek 0
  match escape? ch, escapeWidth? ch with
  | some e, _ => pure ([e.toNat], c.next)
  | none, some width =>
    let digits := (c.next.rest.take width).filterMap hexValue?
    if digits.length = width then
      let n ← codePoint (digits.foldl (fun n d => n * 16 + d) 0)
      pure ([n], c.advance (width + 1))
    else .error .malformed
  | none, none =>
    if isBreak ch then
      let (breaks, c) ← flowBreaks (c.rest.length + 1) c.lineBreak.2
      pure (breaks.map Char.toNat, c)
    else .error .malformed

/-- A word inside quotation marks as code points: up to a blank, a line break or the closing
mark. -/
def flowWord (isDouble : Bool) : Nat → Cursor → Except Fault (List Nat × Cursor)
  | 0, c => .ok ([], c)
  | fuel + 1, c => do
    let (run, c) := c.span fun ch => !(isGapOrEnd ch || ch == '\'' || ch == '"' || ch == '\\')
    let head := run.map Char.toNat
    let ch := c.peek 0
    if !isDouble && ch == '\'' && c.peek 1 == '\'' then
      let (tail, c) ← flowWord isDouble fuel (c.advance 2)
      pure (head ++ '\''.toNat :: tail, c)
    else if (isDouble && ch == '\'') || (!isDouble && (ch == '"' || ch == '\\')) then
      let (tail, c) ← flowWord isDouble fuel c.next
      pure (head ++ ch.toNat :: tail, c)
    else if isDouble && ch == '\\' then
      let (points, c) ← flowEscape c.next
      let (tail, c) ← flowWord isDouble fuel c
      pure (head ++ points ++ tail, c)
    else pure (head, c)

/-- Words and gaps up to the closing quotation mark. -/
def flowParts (isDouble : Bool) (mark : Char) : Nat → Cursor → Except Fault (List Nat × Cursor)
  | 0, _ => .error .malformed
  | fuel + 1, c => do
    let (word, c) ← flowWord isDouble (c.rest.length + 1) c
    if c.peek 0 == mark then pure (word, c.next)
    else
      let (gap, c) ← flowGap c
      let (tail, c) ← flowParts isDouble mark fuel c
      pure (word ++ gap.map Char.toNat ++ tail, c)

/-- A scalar in quotation marks, the cursor at the opening one. Escapes that stand for the halves of
a character stay apart. -/
def flow (c : Cursor) : Except Fault (Points × Cursor) := do
  let mark := c.peek 0
  let (points, c) ← flowParts (mark == '"') mark (c.rest.length + 1) c.next
  pure (⟨points⟩, c)

/-! ## Block scalars -/

/-- What is done with the line breaks at the end of a block. -/
inductive Chomping where
  | strip
  | clip
  | keep
  deriving DecidableEq, Repr

/-- The chomping that a character asks for. -/
def chomping? : Char → Option Chomping
  | '+' => some .keep
  | '-' => some .strip
  | _ => none

/-- The indentation that a digit asks for; zero is none. -/
def increment? (ch : Char) : Option (Except Fault Nat) :=
  if 48 ≤ ch.toNat && ch.toNat ≤ 57 then
    some (if ch == '0' then .error .malformed else .ok (ch.toNat - 48))
  else none

/-- The chomping and indentation behind the mark of a block, in either order. -/
def header (c : Cursor) : Except Fault ((Chomping × Option Nat) × Cursor) := do
  let increment := fun c : Cursor => match increment? (c.peek 0) with
    | some r => r.map fun n => (some n, c.next)
    | none => (.ok (none, c) : Except Fault (Option Nat × Cursor))
  let (chomping, n, c) ← match chomping? (c.peek 0) with
    | some chomping => (increment c.next).map fun (n, c) => (chomping, n, c)
    | none => (increment c).map fun (n, d) =>
      match n, chomping? (d.peek 0) with
      | some n, some chomping => (chomping, some n, d.next)
      | n, _ => (Chomping.clip, n, d)
  if isSpaceOrEnd (c.peek 0) then pure ((chomping, n), c) else .error .malformed

/-- The rest of a line, which holds nothing but a comment. -/
def ignoredLine (c : Cursor) : Except Fault Cursor :=
  let c := c.skip (· == ' ')
  let c := if c.peek 0 == '#' then c.skip (!isBreak ·) else c
  if isBreakOrEnd (c.peek 0) then .ok c.lineBreak.2 else .error .malformed

/-- The blank lines in front of a block, and the deepest column reached in them. -/
def leadingBreaks : Nat → Nat → Cursor → List Char × Nat × Cursor
  | 0, deepest, c => ([], deepest, c)
  | fuel + 1, deepest, c =>
    if c.peek 0 == ' ' then leadingBreaks fuel (max deepest c.next.column) c.next
    else if isBreak (c.peek 0) then
      let (b, c) := c.lineBreak
      let (breaks, deepest, c) := leadingBreaks fuel deepest c
      (b ++ breaks, deepest, c)
    else ([], deepest, c)

/-- The cursor behind the indentation of a line, as far as it reaches. -/
def skipIndent (indent : Nat) : Nat → Cursor → Cursor
  | 0, c => c
  | fuel + 1, c =>
    if c.column < indent && c.peek 0 == ' ' then skipIndent indent fuel c.next else c

/-- The blank lines between two lines of a block. -/
def blockBreaks (indent : Nat) : Nat → Cursor → List Char × Cursor
  | 0, c => ([], c)
  | fuel + 1, c =>
    let c := skipIndent indent indent c
    if isBreak (c.peek 0) then
      let (b, c) := c.lineBreak
      let (breaks, c) := blockBreaks indent fuel c
      (b ++ breaks, c)
    else ([], c)

/-- The lines of a block behind some blank lines: the text, the last line break, the blank lines
behind it, and the cursor behind them. -/
def blockLines (isFolded : Bool) (indent : Nat) :
    Nat → List Char → Cursor → List Char × List Char × List Char × Cursor
  | 0, breaks, c => ([], [], breaks, c)
  | fuel + 1, breaks, c =>
    let leading := !(c.peek 0 == ' ' || c.peek 0 == '\t')
    let (run, c) := c.span (!isBreak ·)
    let (b, c) := c.lineBreak
    let (after, c) := blockBreaks indent (c.rest.length + 1) c
    if c.column = indent && c.peek 0 != '\x00' then
      let joint :=
        if isFolded && b = ['\n'] && leading && !(c.peek 0 == ' ' || c.peek 0 == '\t') then
          (if after = [] then [' '] else [])
        else b
      let (text, last, ending, c) := blockLines isFolded indent fuel after c
      (breaks ++ run ++ joint ++ text, last, ending, c)
    else (breaks ++ run, b, after, c)

/-- A block, the cursor at its mark; `indent` is the indentation around it. -/
def block (indent : Int) (c : Cursor) : Except Fault (List Char × Cursor) := do
  let isFolded := c.peek 0 == '>'
  let ((chomping, n), c) ← header c.next
  let c ← ignoredLine c
  let least := (max (indent + 1) 1).toNat
  let (breaks, indent, c) := match n with
    | some n =>
      let (breaks, c) := blockBreaks (least + n - 1) (c.rest.length + 1) c
      (breaks, least + n - 1, c)
    | none =>
      let (breaks, deepest, c) := leadingBreaks (c.rest.length + 1) 0 c
      (breaks, max least deepest, c)
  let (text, last, after, c) :=
    if c.column = indent && c.peek 0 != '\x00' then
      blockLines isFolded indent (c.rest.length + 1) breaks c
    else ([], [], breaks, c)
  let ending := match chomping with
    | .strip => []
    | .clip => last
    | .keep => last ++ after
  pure (text ++ ending, c)

end AppCatalog.Yaml.Scalar
