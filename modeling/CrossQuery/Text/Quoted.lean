import CrossQuery.Text.Blank

/-!
# Quoted texts in messages

A text between double quotes, in which whatever would not show by itself is spelled as an escape.
-/

set_option autoImplicit false

namespace CrossQuery.Text

/-- Code points of characters that do not show by themselves: controls, formats, separators other
than the blank, the blocks of combining marks, and private use. -/
def hiddenRanges : List (Nat × Nat) :=
  [(0, 31), (127, 160), (173, 173), (768, 879), (1536, 1541), (1564, 1564), (1757, 1757),
   (1807, 1807), (2192, 2193), (2274, 2274), (5760, 5760), (6158, 6158), (6832, 6862),
   (7616, 7679), (8192, 8207), (8232, 8239), (8287, 8292), (8294, 8303), (8400, 8432),
   (12288, 12288), (57344, 63743), (65024, 65039), (65056, 65071), (65279, 65279),
   (65529, 65531), (69821, 69821), (69837, 69837), (78896, 78904), (113824, 113827),
   (119155, 119162), (917505, 917505), (917536, 917631), (983040, 1048573), (1048576, 1114109)]

def quotedChar (c : Char) : List Char :=
  match c with
  | '"' => ['\\', '"']
  | '\\' => ['\\', '\\']
  | '\n' => ['\\', 'n']
  | '\r' => ['\\', 'r']
  | '\t' => ['\\', 't']
  | '\x00' => ['\\', '0']
  | c =>
    if inRanges hiddenRanges c.toNat then
      ['\\', 'u', '\x7b'] ++ Nat.toDigits 16 c.toNat ++ ['\x7d']
    else [c]

def quoted (text : List Char) : List Char :=
  '"' :: text.flatMap quotedChar ++ ['"']

end CrossQuery.Text
