import AppCatalog.Text.Utf16

/-!
# Texts as code points

A text in memory is a run of code points. In most runs each of them is a character; there may also
be surrogates, each half of a character and none by itself, and a run with one of them has no form
in any encoding. `Points` is such a run: `Points.text?` gives its text if it has one,
`Points.replaced` puts another character in the place of what is none, and `Points.ofUnits` reads
code units and leaves a surrogate without its partner as it is.
-/

namespace AppCatalog

namespace Text

/-- A code point that is half of a character. -/
def isSurrogate (n : Nat) : Bool := 0xd800 ≤ n && n ≤ 0xdfff

/-- The text of a run of code points, or nothing if one of them is no character. -/
def ofPoints? : List Nat → Option (List Char)
  | [] => some []
  | n :: ns => if n.isValidChar then (ofPoints? ns).map (Char.ofNat n :: ·) else none

/-- The code points of a run of code units: the two halves of a character are joined. -/
def joinPairs : List Nat → List Nat
  | [] => []
  | [u] => [u]
  | u :: v :: us =>
    if isHighSurrogate u && isLowSurrogate v then
      (0x10000 + (u - 0xd800) * 0x400 + (v - 0xdc00)) :: joinPairs us
    else u :: joinPairs (v :: us)

theorem joinPairs_unitsOf_append (c : Char) (us : List Nat) :
    joinPairs (unitsOf c ++ us) = c.toNat :: joinPairs us := by
  have hc := char_toNat_lt c
  rw [unitsOf]
  split
  · have hhigh : isHighSurrogate c.toNat = false := by
      simp only [isHighSurrogate, Bool.and_eq_false_iff, decide_eq_false_iff_not]
      omega
    cases us with
    | nil => rfl
    | cons v us => rw [List.singleton_append, joinPairs, hhigh, Bool.false_and, if_neg (by decide)]
  · have hhigh : isHighSurrogate (0xd800 + (c.toNat - 0x10000) / 0x400) = true := by
      simp only [isHighSurrogate, Bool.and_eq_true, decide_eq_true_eq]
      omega
    have hlow : isLowSurrogate (0xdc00 + (c.toNat - 0x10000) % 0x400) = true := by
      simp only [isLowSurrogate, Bool.and_eq_true, decide_eq_true_eq]
      omega
    rw [List.cons_append, List.singleton_append, joinPairs, hhigh, hlow, Bool.and_self, if_pos rfl]
    refine congrArg (· :: joinPairs us) ?_
    omega

/-- The code units of a text are those of its characters. -/
theorem joinPairs_toUnits (cs : List Char) : joinPairs (toUnits cs) = cs.map Char.toNat := by
  induction cs with
  | nil => rfl
  | cons c cs ih =>
      rw [List.map_cons, ← ih]
      exact joinPairs_unitsOf_append c (toUnits cs)

end Text

/-- A text as a run of code points. -/
structure Points where
  points : List Nat
  deriving DecidableEq, Repr, Inhabited

namespace Points

def ofChars (cs : List Char) : Points := ⟨cs.map Char.toNat⟩

def ofString (s : String) : Points := ofChars s.toList

instance : Coe String Points := ⟨ofString⟩

/-- The text of a run of code units. -/
def ofUnits (us : List Nat) : Points := ⟨Text.joinPairs us⟩

theorem ofUnits_toUnits (cs : List Char) : ofUnits (Text.toUnits cs) = ofChars cs :=
  congrArg mk (Text.joinPairs_toUnits cs)

def isEmpty (p : Points) : Bool := p.points.isEmpty

/-- The text with a replacement for every code point that is no character. -/
def replaced (p : Points) : List Char :=
  p.points.map fun n => if n.isValidChar then Char.ofNat n else Text.replacement

theorem replaced_ofChars (cs : List Char) : (ofChars cs).replaced = cs := by
  rw [replaced, ofChars, List.map_map]
  refine (List.map_congr_left fun c _ => ?_).trans (List.map_id _)
  exact (if_pos c.valid).trans (Char.ofNat_toNat c)

/-- The text, if every code point is a character. -/
def text? (p : Points) : Option String := (Text.ofPoints? p.points).map String.ofList

end Points

end AppCatalog
