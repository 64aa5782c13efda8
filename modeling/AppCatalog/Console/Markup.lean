import AppCatalog.Console.Emoji

/-!
# Markup of printed texts

A printed text may carry marks in brackets that open and close a style. A mark begins with a small
letter, a slash, a hash or an at sign; what else stands in brackets is text. Backslashes in front of
a mark make it text, two of them stand for one. `Markup.plain` is the text without its marks; a mark
that closes a style has to find it open, and that is the only way to fail.
-/

namespace AppCatalog.Console

open AppCatalog.Text

/-- A piece of a text with markup. -/
inductive Piece where
  /-- Text between marks. -/
  | run (cs : List Char)
  /-- Text that backslashes made of a mark, or the backslashes themselves. -/
  | literal (cs : List Char)
  /-- What stands between the brackets of a mark. -/
  | mark (body : List Char)
  deriving DecidableEq, Repr

/-- A mark that closes a style which is not open. -/
inductive MarkupFault where
  | nothingOpen
  deriving DecidableEq, Repr

namespace Markup

/-- Whether a mark can begin with a character. -/
def opensMark (c : Char) : Bool := c.isLower || c == '#' || c == '/' || c == '@'

/-- The body of the mark in front of a text that follows an opening bracket, and what follows the
mark. -/
def body? : List Char → Option (List Char × List Char)
  | [] => none
  | c :: cs =>
    let isInner := fun d : Char => d != '[' && d != ']'
    if opensMark c then
      match cs.dropWhile isInner with
      | ']' :: rest => some (c :: cs.takeWhile isInner, rest)
      | _ => none
    else none

/-- The pieces of a mark behind some backslashes. -/
def escaped (backslashes : Nat) (body : List Char) : List Piece :=
  let half := List.replicate (backslashes / 2) '\\'
  (if half = [] then [] else [.literal half]) ++
    [if backslashes % 2 = 1 then .literal ('[' :: body ++ [']']) else .mark body]

/-- The pieces of the mark in front of a text, with the backslashes before it, and what follows. -/
def mark? (cs : List Char) : Option (List Piece × List Char) :=
  match cs.dropWhile (· == '\\') with
  | '[' :: rest =>
    (body? rest).map fun m => (escaped (cs.takeWhile (· == '\\')).length m.1, m.2)
  | _ => none

/-- A character in front of some pieces. -/
def cons (c : Char) : List Piece → List Piece
  | .run cs :: ps => .run (c :: cs) :: ps
  | ps => .run [c] :: ps

theorem body?_length {cs : List Char} {m : List Char × List Char} (h : body? cs = some m) :
    m.2.length < cs.length := by
  cases cs with
  | nil => simp [body?] at h
  | cons c cs =>
    simp only [body?] at h
    split at h
    · split at h
      · next rest hd =>
        have := (List.dropWhile_sublist (l := cs) fun d : Char => d != '[' && d != ']').length_le
        rw [hd] at this
        cases h
        simp at this ⊢
        omega
      · cases h
    · cases h

/-- Behind a mark less of the text is left. -/
theorem mark?_length {cs : List Char} {m : List Piece × List Char} (h : mark? cs = some m) :
    m.2.length < cs.length := by
  unfold mark? at h
  split at h
  · next rest hd =>
    obtain ⟨b, hb, rfl⟩ := Option.map_eq_some_iff.1 h
    have h1 := body?_length hb
    have h2 := (List.dropWhile_sublist (l := cs) (· == '\\')).length_le
    rw [hd] at h2
    simp at h2 ⊢
    omega
  · cases h

def pieces : List Char → List Piece
  | [] => []
  | c :: cs =>
    match h : mark? (c :: cs) with
    | some m =>
      have := mark?_length h
      m.1 ++ pieces m.2
    | none => cons c (pieces cs)
  termination_by cs => cs.length
  decreasing_by
  · exact this
  · exact Nat.lt_succ_self _

/-- The attributes of a style, each with its short names, in the order that a style lists them. -/
def attributes : List (List String) :=
  [["bold", "b"], ["dim", "d"], ["italic", "i"], ["underline", "u"], ["blink"], ["blink2"],
    ["reverse", "r"], ["conceal", "c"], ["strike", "s"], ["underline2", "uu"], ["frame"],
    ["encircle"], ["overline", "o"]]

/-- The name that a style goes by: lower case, attributes first, in order and under their long
names. -/
def styleName (cs : List Char) : List String :=
  let given := (words cs).map fun w => (String.ofList w).toLower
  let mine := attributes.filter fun names => names.any given.contains
  mine.filterMap List.head? ++ given.filter fun w => !attributes.any (·.contains w)

/-- The open styles after a mark, newest first. -/
def step (styles : List (List String)) (body : List Char) :
    Except MarkupFault (List (List String)) :=
  match body.takeWhile (· != '=') with
  | '/' :: name =>
    if trim name = [] then
      match styles with
      | [] => .error .nothingOpen
      | _ :: styles => .ok styles
    else if styles.contains (styleName name) then .ok (styles.erase (styleName name))
    else .error .nothingOpen
  | name => .ok (styleName name :: styles)

/-- A text without the control characters that would move the place of printing. -/
def printable (cs : List Char) : List Char :=
  cs.filter fun c => !(([7, 8, 11, 12, 13] : List Nat).contains c.toNat)

/-- A text with every bracket behind a backslash bare. -/
def bareBrackets : List Char → List Char
  | '\\' :: '[' :: cs => '[' :: bareBrackets cs
  | c :: cs => c :: bareBrackets cs
  | [] => []

def shown (cs : List Char) : List Char := printable (withEmoji (bareBrackets cs))

/-- What pieces print while some styles are open. -/
def shownPieces : List (List String) → List Piece → Except MarkupFault (List Char)
  | _, [] => .ok []
  | styles, .run cs :: ps | styles, .literal cs :: ps => (shown cs ++ ·) <$> shownPieces styles ps
  | styles, .mark body :: ps => do shownPieces (← step styles body) ps

def plain (cs : List Char) : Except MarkupFault (List Char) := shownPieces [] (pieces cs)

end Markup

end AppCatalog.Console
