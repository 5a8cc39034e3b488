import ServiceContracts.Text.Case.Table

/-!
# Upper and lower case

`upper` and `lower` are the full Unicode mappings: one character may become several, and a capital
sigma at the end of a word becomes a final sigma. Characters that are ignored in context, such as
an apostrophe, do not end a word.
-/

namespace ServiceContracts.Text

/-- The image of a character beyond ASCII under a mapping given by its tables. -/
def mapped (specials : List (Nat × List Nat)) (runs : List Run) (c : Char) : List Char :=
  match specials.lookup c.toNat with
  | some image => image.map Char.ofNat
  | none =>
    match runs.findSome? fun r => r.map? c.toNat with
    | some n => [Char.ofNat n]
    | none => [c]

/-- The upper case of one character. -/
def upperChar (c : Char) : List Char :=
  if c.toNat < 128 then [c.toUpper] else mapped upperSpecials upperRuns c

/-- The lower case of one character out of context. -/
def lowerChar (c : Char) : List Char :=
  if c.toNat < 128 then [c.toLower] else mapped lowerSpecials lowerRuns c

/-- Upper case. -/
def upperChars (cs : List Char) : List Char := cs.flatMap upperChar

/-- Whether the first character that is not ignored in context is a cased one. -/
def meetsCased (cs : List Char) : Bool :=
  match cs.find? fun c => !inRanges ignorableRanges c.toNat with
  | some c => inRanges casedRanges c.toNat
  | none => false

/-- Lower case of a text, `seen` being the reversed text before it. -/
def lowerAfter (seen : List Char) : List Char → List Char
  | [] => []
  | c :: cs =>
    (if c = 'Σ' then [if meetsCased seen && !meetsCased cs then 'ς' else 'σ'] else lowerChar c) ++
      lowerAfter (c :: seen) cs

/-- Lower case. -/
def lowerChars (cs : List Char) : List Char := lowerAfter [] cs

/-- Upper case of a text. -/
def upper (s : String) : String := String.ofList (upperChars s.toList)

/-- Lower case of a text. -/
def lower (s : String) : String := String.ofList (lowerChars s.toList)

end ServiceContracts.Text
