/-!
# Blank characters

Trimming removes the Unicode spaces together with the ASCII separators `U+001C`–`U+001F`, and
nothing else: the zero-width space and the byte order mark are no blanks.

* `isBlank` : the class;
* `dropEndWhile`, `dropEndsWhile` : removal at the end, and at both ends;
* `trimChars`, `trim` : removal of the blanks at both ends;
* `isBlankText` : a text of blanks only.
-/

namespace ServiceContracts.Text

def isBlank (c : Char) : Bool :=
  let n := c.toNat
  (9 ≤ n && n ≤ 13) || (28 ≤ n && n ≤ 32) || n == 0x85 || n == 0xA0 || n == 0x1680 ||
    (0x2000 ≤ n && n ≤ 0x200A) || n == 0x2028 || n == 0x2029 || n == 0x202F || n == 0x205F ||
    n == 0x3000

def dropEndWhile (p : Char → Bool) (cs : List Char) : List Char :=
  (cs.reverse.dropWhile p).reverse

def dropEndsWhile (p : Char → Bool) (cs : List Char) : List Char :=
  dropEndWhile p (cs.dropWhile p)

def trimChars (cs : List Char) : List Char := dropEndsWhile isBlank cs

def trim (s : String) : String := String.ofList (trimChars s.toList)

def isBlankText (s : String) : Bool := s.toList.all isBlank

end ServiceContracts.Text
