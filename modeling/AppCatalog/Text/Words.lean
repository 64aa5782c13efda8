import AppCatalog.Text.Blank
import AppCatalog.Text.Split

/-!
# Words of a text

The words of a text are its longest runs of characters that are not blank.
-/

namespace AppCatalog.Text

/-- The words of a text, in order. -/
def words (cs : List Char) : List (List Char) :=
  (splitAll ' ' (cs.map fun c => if isBlank c then ' ' else c)).filter (· ≠ [])

@[simp] theorem words_nil : words [] = [] := rfl

end AppCatalog.Text
