import AppCatalog.Console.EmojiNames
import AppCatalog.Text.Words

/-!
# Emoji by name

In a printed text, a name of an emoji between two colons stands for the emoji. The name may say
behind a hyphen whether the emoji is to look like a picture or like text. Colons that enclose no
name of an emoji stay.
-/

namespace AppCatalog.Console

open AppCatalog.Text

/-- A name and what it stands for, read from an entry. -/
def emojiEntry (entry : List Char) : List Char × List Char :=
  ((cutAt? ['='] entry)).getD (entry, [])

/-- All emoji by name. The sign of protected works has a name of two words. -/
def emojiByName : List (List Char × List Char) :=
  (("copy" ++ "right").toList, ['©']) :: (words emojiNames.toList).map emojiEntry

/-- A letter as names spell it. No name has a letter beyond Latin-1, so that only letters whose
lower case is there matter. -/
def nameLetter (c : Char) : Char :=
  let n := c.toNat
  if n = 0x212a then 'k'
  else if n = 0x212b then 'å'
  else if 0xc0 ≤ n && n ≤ 0xde && n != 0xd7 then Char.ofNat (n + 32)
  else c.toLower

def emoji? (name : List Char) : Option (List Char) :=
  (emojiByName.find? fun e => e.1 == name.map nameLetter).map Prod.snd

/-- How an emoji may look: the ending of the name, and the character behind the emoji. -/
def emojiLooks : List (List Char × Char) :=
  [("-emoji".toList, '\ufe0f'), ("-text".toList, '\ufe0e')]

def dropEnding? (ending cs : List Char) : Option (List Char) :=
  (dropLead? ending.reverse cs.reverse).map List.reverse

/-- What a name between colons stands for; the look that it may ask for is part of it. -/
def emojiNamed? (name : List Char) : Option (List Char) :=
  match emojiLooks.findSome? fun l => (dropEnding? l.1 name).map fun bare => (bare, l.2) with
  | some (bare, mark) => (emoji? bare).map (· ++ [mark])
  | none => emoji? name

/-- Whether a character can stand between the colons. -/
def isNamePart (c : Char) : Bool := c != ':' && !isBlank c

theorem length_lt_of_dropWhile {p : Char → Bool} {c : Char} {cs rest : List Char}
    (h : cs.dropWhile p = c :: rest) : rest.length < cs.length := by
  have hle := (List.dropWhile_sublist (l := cs) p).length_le
  rw [h] at hle
  exact hle

/-- A text with the emoji it names in place of their names. A pair of colons is looked at once: what
follows the second colon is read on its own. -/
def withEmoji : List Char → List Char
  | [] => []
  | c :: cs =>
    if c = ':' then
      match h : cs.dropWhile isNamePart with
      | ':' :: rest =>
        have := length_lt_of_dropWhile h
        let name := cs.takeWhile isNamePart
        (emojiNamed? name).getD (':' :: name ++ [':']) ++ withEmoji rest
      | _ => c :: withEmoji cs
    else c :: withEmoji cs
  termination_by cs => cs.length
  decreasing_by
  · exact Nat.lt_succ_of_lt this
  · exact Nat.lt_succ_self _
  · exact Nat.lt_succ_self _

end AppCatalog.Console
