import ServiceContracts.Document.Yaml.Cursor
import ServiceContracts.Document.Yaml.Token

/-!
# YAML scalars

The texts that a document may hold: plain, between quotes, and in blocks. In all of them a single
line break becomes a space and further ones stay, except in literal blocks.

* `plainText` : a scalar without quotes;
* `quotedText` : a scalar between single or double quotes;
* `blockText` : a literal or folded scalar below its header.
-/

namespace ServiceContracts.Document.Yaml
open Text

/-! ## Line folding -/

/-- What a first break and the breaks behind it become in a folded text. -/
def folded (first : Char) (breaks : List Char) : List Char :=
  if first ≠ '\n' then first :: breaks
  else if breaks.isEmpty then [' ']
  else breaks

/-! ## Plain scalars -/

/-- A character that ends a plain scalar inside brackets. -/
def isFlowMark (c : Char) : Bool :=
  c == ',' || c == '?' || c == '[' || c == ']' || c == '{' || c == '}'

/-- A character behind a colon that makes the colon end a plain scalar inside brackets. -/
def isFlowBound (c : Char) : Bool :=
  c == ',' || c == '[' || c == ']' || c == '{' || c == '}'

/-- The characters of a plain scalar up to a space, a break or a mark. -/
def plainWord (inFlow : Bool) : List Char → List Char
  | [] => []
  | c :: cs =>
    if isWhite c || isBreak c then []
    else if c = ':' && (endsToken cs.head? || (inFlow && holds isFlowBound cs.head?)) then []
    else if inFlow && isFlowMark c then []
    else c :: plainWord inFlow cs

/-- The breaks and spaces behind the first break of a plain scalar, and whether a separator of
documents ends them; `fuel` bounds their number. -/
def plainBreaks (fuel : Nat) (c : Cursor) : List Char × Cursor × Bool :=
  match fuel with
  | 0 => ([], c, false)
  | fuel + 1 =>
    if c.head? == some ' ' then plainBreaks fuel c.next
    else match c.lineBreak? with
      | none => ([], c, false)
      | some (b, c) =>
        if c.atSeparator then ([], c, true)
        else
          let (bs, c, stop) := plainBreaks fuel c
          (b :: bs, c, stop)

/-- What separates two words of a plain scalar, the cursor behind it, and whether a line was broken.
Nothing separates them if the scalar ends here. -/
def plainGap (c : Cursor) : List Char × Cursor × Bool :=
  let spaces := c.take (· == ' ')
  let c := c.forward spaces.length
  match c.lineBreak? with
  | none => (spaces, c, false)
  | some (first, c) =>
    if c.atSeparator then ([], c, true)
    else
      let (breaks, c, stop) := plainBreaks (c.rest.length + 1) c
      (if stop then [] else folded first breaks, c, true)

/-- The characters of a plain scalar, the cursor behind it, and whether a line was broken last.
`indent` is the least column of its lines, `gap` what stands before the next word. -/
def plainFrom (fuel : Nat) (inFlow : Bool) (indent : Nat) (gap : List Char) (c : Cursor)
    (broken : Bool) : List Char × Cursor × Bool :=
  match fuel with
  | 0 => ([], c, broken)
  | fuel + 1 =>
    if c.head? == some '#' then ([], c, broken)
    else
      let word := plainWord inFlow c.rest
      if word.isEmpty then ([], c, broken)
      else
        let (next, c, broken) := plainGap (c.forward word.length)
        if next.isEmpty || c.head? == some '#' || (!inFlow && c.column < indent) then
          (gap ++ word, c, broken)
        else
          let (more, c, broken) := plainFrom fuel inFlow indent next c broken
          (gap ++ word ++ more, c, broken)

/-- A plain scalar, the cursor behind it, and whether a line was broken last. -/
def plainText (inFlow : Bool) (indent : Nat) (c : Cursor) : List Char × Cursor × Bool :=
  plainFrom (c.rest.length + 1) inFlow indent [] c false

/-! ## Quoted scalars -/

/-- What a short escape stands for. -/
def escapeCode? : Char → Option Nat
  | '0' => some 0x00
  | 'a' => some 0x07
  | 'b' => some 0x08
  | 't' => some 0x09
  | '\t' => some 0x09
  | 'n' => some 0x0A
  | 'v' => some 0x0B
  | 'f' => some 0x0C
  | 'r' => some 0x0D
  | 'e' => some 0x1B
  | ' ' => some 0x20
  | '"' => some 0x22
  | '\\' => some 0x5C
  | '/' => some 0x2F
  | 'N' => some 0x85
  | '_' => some 0xA0
  | 'L' => some 0x2028
  | 'P' => some 0x2029
  | _ => none

/-- The number of hexadecimal digits of a long escape. -/
def escapeWidth? : Char → Option Nat
  | 'x' => some 2
  | 'u' => some 4
  | 'U' => some 8
  | _ => none

/-- The number that hexadecimal digits spell, if all of them are there. -/
def hexNumber? (width : Nat) (cs : List Char) : Option Nat :=
  if cs.length < width then none
  else (cs.take width).foldlM (fun n c => (hexValue? c).map fun d => 16 * n + d) 0

/-- The breaks behind the first one of a quoted scalar; `fuel` bounds their number. -/
def quotedBreaks (fuel : Nat) (c : Cursor) : Except Fault (List Char × Cursor) :=
  match fuel with
  | 0 => .ok ([], c)
  | fuel + 1 =>
    if c.atSeparator then .error .malformed
    else
      match (c.drop isWhite).lineBreak? with
      | none => .ok ([], c.drop isWhite)
      | some (b, c) => (quotedBreaks fuel c).map fun (bs, c) => (b :: bs, c)

/-- What a long escape stands for. -/
def longEscape (n : Nat) : Except Fault (List Char) :=
  if n > 0x7FFFFFFF then .error .oversizedEscape
  else if n > 0x10FFFF then .error .noCodePoint
  else .ok (ofCode n)

/-- A quoted scalar up to its closing quote, and the cursor behind that. -/
def quotedFrom (fuel : Nat) (quote : Char) (c : Cursor) : Except Fault (List Char × Cursor) :=
  match fuel with
  | 0 => .error .malformed
  | fuel + 1 =>
    let more (text : List Char) (c : Cursor) : Except Fault (List Char × Cursor) :=
      (quotedFrom fuel quote c).map fun (rest, c) => (text ++ rest, c)
    match c.rest with
    | [] => .error .malformed
    | ch :: rest =>
      if ch = quote then
        if quote = '\'' && rest.head? == some '\'' then more ['\''] (c.forward 2)
        else .ok ([], c.next)
      else if isWhite ch then
        let spaces := c.take isWhite
        let c := c.forward spaces.length
        match c.lineBreak? with
        | some (first, c) => do
          let (breaks, c) ← quotedBreaks (c.rest.length + 1) c
          more (folded first breaks) c
        | none => if c.rest.isEmpty then .error .malformed else more spaces c
      else if isBreak ch then
        match c.lineBreak? with
        | some (first, c) => do
          let (breaks, c) ← quotedBreaks (c.rest.length + 1) c
          more (folded first breaks) c
        | none => .error .malformed
      else if quote = '"' && ch = '\\' then
        match rest with
        | [] => .error .malformed
        | e :: digits =>
          match escapeCode? e, escapeWidth? e with
          | some n, _ => more (ofCode n) (c.forward 2)
          | none, some width =>
            match hexNumber? width digits with
            | none => .error .malformed
            | some n => do more (← longEscape n) (c.forward (2 + width))
          | none, none =>
            match c.next.lineBreak? with
            | none => .error .malformed
            | some (_, c) => do
              let (breaks, c) ← quotedBreaks (c.rest.length + 1) c
              more breaks c
      else more (ofCode ch.toNat) c.next

def quotedText (quote : Char) (c : Cursor) : Except Fault (List Char × Cursor) :=
  quotedFrom (c.rest.length + 1) quote c.next

/-! ## Block scalars -/

/-- What becomes of the breaks at the end of a block. -/
inductive Chomping where
  | strip
  | clip
  | keep
deriving DecidableEq, Repr

/-- The chomping that an indicator asks for. -/
def chomping? : Option Char → Option Chomping
  | some '+' => some .keep
  | some '-' => some .strip
  | _ => none

/-- The indentation that an indicator asks for. -/
def indentation? (c : Option Char) : Option Nat :=
  if holds isDigit c then c.bind digitValue? else none

/-- The indicators of a block in either order, and the cursor behind them. -/
def indicators (c : Cursor) : Chomping × Option Nat × Cursor :=
  match chomping? c.head? with
  | some chomping =>
    match indentation? c.next.head? with
    | some n => (chomping, some n, c.next.next)
    | none => (chomping, none, c.next)
  | none =>
    match indentation? c.head? with
    | some n =>
      match chomping? c.next.head? with
      | some chomping => (chomping, some n, c.next.next)
      | none => (.clip, some n, c.next)
    | none => (.clip, none, c)

/-- The breaks in front of the first line of a block and the greatest column of the lines between
them. -/
def leadingBreaks (fuel : Nat) (most : Nat) (c : Cursor) : List Char × Nat × Cursor :=
  match fuel with
  | 0 => ([], most, c)
  | fuel + 1 =>
    if c.head? == some ' ' then leadingBreaks fuel (max most c.next.column) c.next
    else match c.lineBreak? with
      | none => ([], most, c)
      | some (b, c) =>
        let (bs, most, c) := leadingBreaks fuel most c
        (b :: bs, most, c)

/-- The cursor behind the spaces up to a column. -/
def skipIndent (indent : Nat) (c : Cursor) : Cursor :=
  c.forward (min (c.take (· == ' ')).length (indent - c.column))

/-- The breaks between two lines of a block. -/
def blockBreaks (fuel indent : Nat) (c : Cursor) : List Char × Cursor :=
  match fuel with
  | 0 => ([], c)
  | fuel + 1 =>
    let c := skipIndent indent c
    match c.lineBreak? with
    | none => ([], c)
    | some (b, c) =>
      let (bs, c) := blockBreaks fuel indent c
      (b :: bs, c)

/-- The lines of a block from the cursor on, `breaks` being the breaks before them. -/
def blockLines (fuel : Nat) (folds : Bool) (chomping : Chomping) (indent : Nat)
    (breaks : List Char) (c : Cursor) : List Char × Cursor :=
  match fuel with
  | 0 => ([], c)
  | fuel + 1 =>
    let line := c.take fun ch => !isBreak ch
    let leads := !holds isWhite c.head?
    let c := c.forward line.length
    let (ending, c) := match c.lineBreak? with
      | some (b, c) => ([b], c)
      | none => ([], c)
    let (next, c) := blockBreaks (c.rest.length + 1) indent c
    if c.column = indent && c.head?.isSome then
      let joint :=
        if folds && ending == ['\n'] && leads && !holds isWhite c.head? then
          (if next.isEmpty then [' '] else [])
        else ending
      let (more, c) := blockLines fuel folds chomping indent next c
      (breaks ++ line ++ joint ++ more, c)
    else
      (breaks ++ line ++ (if chomping = .strip then [] else ending) ++
        (if chomping = .keep then next else []), c)

/-- The rest of a header, up to the start of the next line. -/
def afterHeader (c : Cursor) : Except Fault Cursor :=
  let c := (c.drop (· == ' ')).skipComment
  if endsLine c.head? then .ok c.skipBreak else .error .malformed

/-- The block scalar whose header is at the cursor; `outer` is the column of the surrounding
block, if there is one. -/
def blockText (folds : Bool) (outer : Option Nat) (c : Cursor) :
    Except Fault (List Char × Cursor) := do
  let (chomping, increment, c) := indicators c.next
  if increment = some 0 || !endsWord c.head? then .error .malformed
  else
    let c ← afterHeader c
    let least := (outer.map (· + 1)).getD 0 |> max 1
    let (breaks, indent, c) := match increment with
      | none =>
        let (breaks, most, c) := leadingBreaks (c.rest.length + 1) 0 c
        (breaks, max least most, c)
      | some n =>
        let indent := least + n - 1
        let (breaks, c) := blockBreaks (c.rest.length + 1) indent c
        (breaks, indent, c)
    if c.column = indent && c.head?.isSome then
      .ok (blockLines (c.rest.length + 1) folds chomping indent breaks c)
    else
      .ok (if chomping = .keep then breaks else [], c)

end ServiceContracts.Document.Yaml
