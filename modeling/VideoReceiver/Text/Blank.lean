/-!
# Blank text

White space in any script.

## Main definitions

- `Text.isBlankChar`: whether a character is white space
- `Text.isBlankText`: whether a text has nothing else
- `Text.trim`: a text without white space at its ends
-/

namespace VideoReceiver.Text

/-- Whether a character is white space. There are 25 such characters. -/
def isBlankChar (c : Char) : Bool :=
  let n := c.toNat
  (9 ≤ n && n ≤ 13) || n = 0x20 || n = 0x85 || n = 0xA0 || n = 0x1680 ||
    (0x2000 ≤ n && n ≤ 0x200A) || n = 0x2028 || n = 0x2029 || n = 0x202F || n = 0x205F || n = 0x3000

/-- Whether a text is empty but for white space. -/
def isBlankText (cs : List Char) : Bool := cs.all isBlankChar

/-- A text without the white space at its start and end. -/
def trim (cs : List Char) : List Char :=
  ((cs.dropWhile isBlankChar).reverse.dropWhile isBlankChar).reverse

end VideoReceiver.Text
