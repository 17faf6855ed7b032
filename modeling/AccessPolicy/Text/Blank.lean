/-! Blank characters, and text without the blanks around it. -/

namespace AccessPolicy.Text

/-- Unicode white space together with the four information separators. -/
def isBlank (c : Char) : Bool :=
  let code := c.toNat
  (0x9 ≤ code && code ≤ 0xd) || (0x1c ≤ code && code ≤ 0x20) || code == 0x85 ||
  code == 0xa0 || code == 0x1680 || (0x2000 ≤ code && code ≤ 0x200a) ||
  code == 0x2028 || code == 0x2029 || code == 0x202f || code == 0x205f || code == 0x3000

def trimLeft (text : List Char) : List Char := text.dropWhile isBlank

def trimRight (text : List Char) : List Char := (text.reverse.dropWhile isBlank).reverse

def trim (text : List Char) : List Char := trimRight (trimLeft text)

end AccessPolicy.Text
