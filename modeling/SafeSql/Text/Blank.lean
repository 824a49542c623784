/-!
# Blanks

The characters that count as white space: the plain blanks, the control characters that separate
lines, pages and fields, and the spaces of other scripts.

## Main definitions

* `isBlank` — whether a character is white space.
* `strip` — a text without the blanks around it.
-/

namespace SafeSql.Text

def isBlank (c : Char) : Bool :=
  let code := c.toNat
  (0x09 ≤ code && code ≤ 0x0d) || (0x1c ≤ code && code ≤ 0x20) || code == 0x85 || code == 0xa0
    || code == 0x1680 || (0x2000 ≤ code && code ≤ 0x200a) || code == 0x2028 || code == 0x2029
    || code == 0x202f || code == 0x205f || code == 0x3000

/-- The text without the blanks at its two ends. -/
def strip (text : List Char) : List Char :=
  ((text.dropWhile isBlank).reverse.dropWhile isBlank).reverse

end SafeSql.Text
