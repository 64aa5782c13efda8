import AppCatalog.Text.Utf8

/-!
# Cyclic redundancy checks

The 32-bit check of a run of bytes: the remainder of the bytes as a polynomial over two elements,
least bit first, begun and ended with all bits turned over.
-/

namespace AppCatalog.Crc32

def divisor : UInt32 := 0xEDB88320

/-- The remainder moved on by one bit. -/
def shift (c : UInt32) : UInt32 := if c &&& 1 = 1 then (c >>> 1) ^^^ divisor else c >>> 1

/-- The remainder moved on by one byte. -/
def step (c : UInt32) (b : UInt8) : UInt32 :=
  shift (shift (shift (shift (shift (shift (shift (shift (c ^^^ b.toUInt32))))))))

/-- The check of a run of bytes. -/
def check (bs : Bytes) : UInt32 := ~~~(bs.foldl step (~~~0))

@[simp] theorem check_nil : check [] = 0 := by decide

end AppCatalog.Crc32
