import ServiceContracts.Text.CodePoint
import ServiceContracts.Text.Printable

/-!
# Quoted text in messages

A text is shown between single quotes, or between double quotes if it holds a single quote and no
double one. The quote and the backslash take a backslash, tab, line feed and carriage return have
short escapes, and any other code point that is not printable is written as a hexadecimal escape of
two, four or eight digits.
-/

namespace ServiceContracts.Text

/-- A hexadecimal digit in lower case. -/
def hexDigit (n : Nat) : Char := "0123456789abcdef".toList.getD n '0'

/-- The last `width` hexadecimal digits of a number. -/
def hex : Nat → Nat → List Char
  | 0, _ => []
  | width + 1, n => hex width (n / 16) ++ [hexDigit (n % 16)]

/-- The hexadecimal escape of a code point. -/
def hexEscape (n : Nat) : List Char :=
  if n < 0x100 then '\\' :: 'x' :: hex 2 n
  else if n < 0x10000 then '\\' :: 'u' :: hex 4 n
  else '\\' :: 'U' :: hex 8 n

/-- How a character is written between quotes of the given kind. -/
def quotedChar (quote c : Char) : List Char :=
  if c = quote || c = '\\' then ['\\', c]
  else if c = '\t' then ['\\', 't']
  else if c = '\n' then ['\\', 'n']
  else if c = '\r' then ['\\', 'r']
  else if isPrintable c then [c]
  else hexEscape c.toNat

/-- The quote that surrounds a text. -/
def quoteFor (cs : List Char) : Char :=
  if '\'' ∈ cs && '"' ∉ cs then '"' else '\''

/-- How a code point is written between quotes of the given kind. -/
def quotedCode (quote : Char) (n : Nat) : List Char :=
  if isSurrogate n then hexEscape n else quotedChar quote (Char.ofNat n)

/-- A text between quotes. -/
def quoted (s : String) : String :=
  let quote := quoteFor s.toList
  String.ofList (quote :: (codes s.toList).flatMap (quotedCode quote) ++ [quote])

end ServiceContracts.Text
