/-!
# A place in a YAML text

A cursor is what is left of a text together with the line and column reached. A line ends at a line
feed, a carriage return or both, or at one of the three Unicode line breaks; a byte order mark takes
no column.

* `Cursor.next`, `Cursor.forward` : steps over one or several characters;
* `Cursor.take`, `Cursor.drop` : the characters up to some place, and the cursor there;
* `Cursor.lineBreak?` : the break at the cursor, as it goes into a text.
-/

namespace ServiceContracts.Document.Yaml

/-- A place in a text. -/
structure Cursor where
  rest : List Char
  index : Nat := 0
  line : Nat := 0
  column : Nat := 0

/-- A character that breaks a line. -/
def isBreak (c : Char) : Bool :=
  c == '\n' || c == '\r' || c == '\u0085' || c == '\u2028' || c == '\u2029'

/-- A space or a tab. -/
def isWhite (c : Char) : Bool := c == ' ' || c == '\t'

/-- A line break or the end of the text. -/
def endsLine (c : Option Char) : Bool := c.all isBreak

/-- A space, a line break or the end of the text. -/
def endsWord (c : Option Char) : Bool := c.all fun c => c == ' ' || isBreak c

/-- A space, a tab, a line break or the end of the text. -/
def endsToken (c : Option Char) : Bool := c.all fun c => isWhite c || isBreak c

/-- The character is there and satisfies `p`. -/
def holds (p : Char → Bool) (c : Option Char) : Bool := c.any p

namespace Cursor

/-- The character `k` places ahead. -/
def peek (c : Cursor) (k : Nat) : Option Char := c.rest[k]?

/-- The character at the cursor. -/
def head? (c : Cursor) : Option Char := c.rest.head?

def next (c : Cursor) : Cursor :=
  match c.rest with
  | [] => c
  | ch :: rest =>
    if isBreak ch && !(ch == '\r' && rest.head? == some '\n') then
      { rest, index := c.index + 1, line := c.line + 1, column := 0 }
    else
      { rest, index := c.index + 1, line := c.line,
        column := if ch = '\uFEFF' then c.column else c.column + 1 }

def forward (c : Cursor) : Nat → Cursor
  | 0 => c
  | n + 1 => c.next.forward n

def take (c : Cursor) (p : Char → Bool) : List Char := c.rest.takeWhile p

def drop (c : Cursor) (p : Char → Bool) : Cursor := c.forward (c.take p).length

/-- The break at the cursor, a line feed unless it is a Unicode separator, and the cursor behind
it. -/
def lineBreak? (c : Cursor) : Option (Char × Cursor) :=
  match c.rest with
  | '\r' :: '\n' :: _ => some ('\n', c.forward 2)
  | '\u2028' :: _ => some ('\u2028', c.next)
  | '\u2029' :: _ => some ('\u2029', c.next)
  | ch :: _ => if isBreak ch then some ('\n', c.next) else none
  | [] => none

/-- The cursor behind a break, if there is one. -/
def skipBreak (c : Cursor) : Cursor := (c.lineBreak?.map (·.2)).getD c

/-- The cursor behind a comment, at the end of its line. -/
def skipComment (c : Cursor) : Cursor :=
  if c.head? == some '#' then c.drop fun ch => !isBreak ch else c

/-- A mark that separates documents stands at the cursor. -/
def atSeparator (c : Cursor) : Bool :=
  (c.rest.take 3 == ['-', '-', '-'] || c.rest.take 3 == ['.', '.', '.']) && endsToken (c.peek 3)

end Cursor

end ServiceContracts.Document.Yaml
