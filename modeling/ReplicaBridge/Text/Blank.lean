/-
Module: ReplicaBridge.Text.Blank
Purpose: The characters that separate words: the Unicode property White_Space, and the two
  marks of writing direction.
Main exports: isBlank
-/

namespace ReplicaBridge.Text

/-- The ranges of blank characters, each with its first and last code point. -/
def blankRanges : List (Nat × Nat) :=
  [(0x09, 0x0d), (0x20, 0x20), (0x85, 0x85), (0xa0, 0xa0), (0x1680, 0x1680),
    (0x2000, 0x200a), (0x200e, 0x200f), (0x2028, 0x2029), (0x202f, 0x202f), (0x205f, 0x205f),
    (0x3000, 0x3000)]

/-- A character that separates words. -/
def isBlank (char : Char) : Bool :=
  blankRanges.any fun (first, last) => first ≤ char.toNat && char.toNat ≤ last

end ReplicaBridge.Text
