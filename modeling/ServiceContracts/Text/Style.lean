/-!
# Terminal styles

A style is switched by the escape character and a bracket, with parameters, marks between and one
character that ends the switch: `ESC [ 1 ; 31 m`. The three ranges do not overlap, so a switch is
found by taking each of them as long as it goes.

* `dropStyles` : a text without such switches.
-/

namespace ServiceContracts.Text

/-- A parameter of a style: a digit or one of `:;<=>?`. -/
def isStyleParameter (c : Char) : Bool := '0' ≤ c && c ≤ '?'

/-- A mark between the parameters of a style and its end: a space or one of the signs up to `/`. -/
def isStyleMark (c : Char) : Bool := ' ' ≤ c && c ≤ '/'

/-- The character that ends a style: a letter or one of the signs around the letters. -/
def isStyleEnd (c : Char) : Bool := '@' ≤ c && c ≤ '~'

/-- The number of characters of the style that a text starts with behind its escape character. -/
def styleWidth? : List Char → Option Nat
  | '[' :: cs =>
    let behind := (cs.dropWhile isStyleParameter).dropWhile isStyleMark
    if behind.head?.any isStyleEnd then some (cs.length - behind.length + 2) else none
  | _ => none

/-- A text without its styles, behind the next `skip` characters. -/
def dropStylesFrom (skip : Nat) : List Char → List Char
  | [] => []
  | c :: cs =>
    match skip with
    | skip + 1 => dropStylesFrom skip cs
    | 0 =>
      match if c = '\x1b' then styleWidth? cs else none with
      | some width => dropStylesFrom width cs
      | none => c :: dropStylesFrom 0 cs

def dropStyles (s : String) : String := String.ofList (dropStylesFrom 0 s.toList)

end ServiceContracts.Text
