import AppCatalog.Text.Split

/-!
# Paths

A path is a run of segments behind nothing, one slash or two: a path that begins with exactly two
slashes keeps both, more count as one. Empty segments and segments of one dot say nothing and are
dropped; a segment of two dots stays.
-/

namespace AppCatalog

/-- What a path begins with. -/
inductive Anchor where
  | relative
  | root
  | doubleRoot
  deriving DecidableEq, Repr, Inhabited

/-- The slashes in front of a path. -/
def Anchor.text : Anchor → List Char
  | relative => []
  | root => ['/']
  | doubleRoot => ['/', '/']

/-- A path in its plain form. -/
structure Path where
  anchor : Anchor
  segments : List (List Char)
  deriving DecidableEq, Repr, Inhabited

namespace Path

def anchorOf : List Char → Anchor
  | '/' :: '/' :: '/' :: _ => .root
  | '/' :: '/' :: _ => .doubleRoot
  | '/' :: _ => .root
  | _ => .relative

def isSegment (s : List Char) : Bool := s != [] && s != ['.']

def ofText (cs : List Char) : Path :=
  ⟨anchorOf cs, (Text.splitAll '/' cs).filter isSegment⟩

def ofString (s : String) : Path := ofText s.toList

/-- The text of a path; of one that says nothing, a dot. -/
def text (p : Path) : List Char :=
  if p.anchor = .relative && p.segments = [] then ['.']
  else p.anchor.text ++ List.intercalate ['/'] p.segments

/-- The text of a path as a string. -/
def toString (p : Path) : String := String.ofList p.text

/-- The last segment, if there is one. -/
def name? (p : Path) : Option (List Char) := p.segments.getLast?

/-- The folder that a path stands in. -/
def folder (p : Path) : Path := ⟨p.anchor, p.segments.dropLast⟩

/-- A path behind another one; a path that begins with a slash stands for itself. -/
def join (p q : Path) : Path :=
  if q.anchor = .relative then ⟨p.anchor, p.segments ++ q.segments⟩ else q

def child (p : Path) (s : List Char) : Path := ⟨p.anchor, p.segments ++ [s]⟩

end Path

end AppCatalog
