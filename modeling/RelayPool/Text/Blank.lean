/-!
# White space and trimming

The 29 white space characters of Unicode, and the trimming of a text at both
ends.  A trimmed text starts and ends with no white space, and trimming it
again changes nothing.
-/

namespace RelayPool.Text

/-- White space: the characters with bidirectional type WS, B or S or with
category Zs. -/
def isBlank (character : Char) : Bool :=
  let code := character.toNat
  (9 ≤ code && code ≤ 13) || (28 ≤ code && code ≤ 32) || code == 0x85 ||
    code == 0xA0 || code == 0x1680 || (0x2000 ≤ code && code ≤ 0x200A) ||
    code == 0x2028 || code == 0x2029 || code == 0x202F || code == 0x205F ||
    code == 0x3000

/-- A list of characters without the white space at its end. -/
def trimEnd (characters : List Char) : List Char :=
  (characters.reverse.dropWhile isBlank).reverse

/-- A list of characters without the white space at its two ends. -/
def trimmed (characters : List Char) : List Char :=
  trimEnd (characters.dropWhile isBlank)

/-- A text without the white space at its two ends. -/
def strip (text : String) : String :=
  String.ofList (trimmed text.toList)

@[simp]
theorem toList_strip (text : String) :
    (strip text).toList = trimmed text.toList := by
  simp [strip]

end RelayPool.Text
