import AppCatalog.Text.Utf8

/-!
# Code page 437

The eight-bit character set that archives name their members in when nothing else is said: the lower
half is ASCII, the upper half a fixed list of letters, lines and signs.
-/

namespace AppCatalog.CodePage437

/-- The characters of the upper half in order. -/
def upperHalf : String :=
  "ÇüéâäàåçêëèïîìÄÅ" ++
  "ÉæÆôöòûùÿÖÜ¢£¥₧ƒ" ++
  "áíóúñÑªº¿⌐¬½¼¡«»" ++
  "░▒▓│┤╡╢╖╕╣║╗╝╜╛┐" ++
  "└┴┬├─┼╞╟╚╔╩╦╠═╬╧" ++
  "╨╤╥╙╘╒╓╫╪┘┌█▄▌▐▀" ++
  "αßΓπΣσµτΦΘΩδ∞φε∩" ++
  "≡±≥≤⌠⌡÷≈°∙·√ⁿ²■ "

def charOf (b : UInt8) : Char :=
  if b < 128 then Char.ofNat b.toNat else (upperHalf.toList[b.toNat - 128]?).getD ' '

def decode (bs : Bytes) : List Char := bs.map charOf

end AppCatalog.CodePage437
