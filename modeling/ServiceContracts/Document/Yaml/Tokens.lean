import ServiceContracts.Document.Yaml.Scalar
import ServiceContracts.Text.Utf8

/-!
# The tokens of a YAML text

Indentation opens and closes blocks: a dash or a key further to the right opens one, and a line
further to the left closes all that it does not reach. Whether a scalar, an alias or a bracket is a
key shows at the colon behind it only, which has to follow on the same line within 1024 characters;
until then its place among the tokens is remembered as a `Candidate`. The text is read no further
than the next token needs, so a fault further on is not met before that.

* `Lexer` : the state between two tokens;
* `Lexer.step` : one more token;
* `Lexer.ready` : as many more tokens as it takes to know the next one.
-/

namespace ServiceContracts.Document.Yaml
open Text

/-- A place that may turn out to be a key. -/
structure Candidate where
  /-- The number of tokens before it. -/
  place : Nat
  /-- Nothing else can stand there. -/
  required : Bool
  index : Nat
  line : Nat
  column : Nat

structure Lexer where
  cursor : Cursor
  /-- The number of characters of the text. -/
  size : Nat
  /-- The tokens that were read and not yet taken, in order. -/
  tokens : List Token := []
  /-- The number of tokens that were taken. -/
  taken : Nat := 0
  /-- There are no more tokens than those that were read. -/
  ended : Bool := false
  /-- The columns of the open blocks, the innermost first. -/
  indents : List Nat := []
  /-- The candidate of the block and of each open bracket, the innermost first. -/
  candidates : List (Option Candidate) := [none]
  /-- A key may start here. -/
  mayStartKey : Bool := true

namespace Lexer

/-- The innermost open block's column. -/
def indent (l : Lexer) : Option Nat := l.indents.head?

/-- The text is inside brackets. -/
def inFlow (l : Lexer) : Bool := l.candidates.length > 1

/-- A column lies to the right of the innermost block. -/
def isDeeper (l : Lexer) (column : Nat) : Bool := l.indent.all (· < column)

/-- One more token. -/
def emit (l : Lexer) (t : Token) : Lexer := { l with tokens := l.tokens ++ [t] }

/-- A token put behind the first `place` tokens. -/
def insertAt (l : Lexer) (place : Nat) (t : Token) : Lexer :=
  let before := place - l.taken
  { l with tokens := l.tokens.take before ++ t :: l.tokens.drop before }

/-- The first token taken. -/
def take (l : Lexer) : Lexer := { l with tokens := l.tokens.drop 1, taken := l.taken + 1 }

/-- Some characters further. -/
def advance (l : Lexer) (n : Nat) : Lexer := { l with cursor := l.cursor.forward n }

/-! ## Candidates -/

/-- Forget the candidates that a colon can no longer reach. -/
def dropStale (l : Lexer) : Except Fault Lexer := do
  let candidates ← l.candidates.mapM fun candidate =>
    match candidate with
    | none => Except.ok none
    | some k =>
      if k.line ≠ l.cursor.line || l.cursor.index - k.index > 1024 then
        if k.required then .error .malformed else .ok none
      else .ok (some k)
  .ok { l with candidates }

/-- Forget the innermost candidate. -/
def dropCandidate (l : Lexer) : Except Fault Lexer :=
  match l.candidates with
  | some k :: outer =>
    if k.required then .error .malformed else .ok { l with candidates := none :: outer }
  | _ => .ok l

/-- Remember the place if a key may start here. -/
def noteCandidate (l : Lexer) : Except Fault Lexer :=
  if l.mayStartKey then do
    let required := !l.inFlow && l.indent == some l.cursor.column
    let l ← l.dropCandidate
    let candidate : Candidate :=
      { place := l.taken + l.tokens.length, required, index := l.cursor.index,
        line := l.cursor.line, column := l.cursor.column }
    .ok { l with candidates := some candidate :: l.candidates.drop 1 }
  else .ok l

/-! ## Blocks -/

/-- Close all blocks to the right of a column; all of them if there is none. -/
def closeBlocks (column : Option Nat) (l : Lexer) : Lexer :=
  if l.inFlow then l
  else
    let closed := l.indents.takeWhile fun i => column.all (· < i)
    { l with indents := l.indents.drop closed.length
             tokens := l.tokens ++ List.replicate closed.length Token.blockEnd }

/-- Open a block at a column unless it is open. -/
def openBlock (l : Lexer) (column : Nat) (t : Token) : Lexer :=
  if l.isDeeper column then { l.emit t with indents := column :: l.indents } else l

/-! ## Directives -/

/-- A character of a name: an ASCII letter or digit, a dash or an underscore. -/
def isNameChar (c : Char) : Bool := isLetter c || isDigit c || c == '-' || c == '_'

/-- The number at the cursor. -/
def number (c : Cursor) : Except Fault (Nat × Cursor) := do
  let digits := c.take isDigit
  if digits.isEmpty then .error .malformed
  else
    let n ← (Number.readNat digits).mapError fun o => .badNumber (.overlong o)
    .ok (n, c.forward digits.length)

/-- A handle between exclamation marks, or a single one. -/
def handle (c : Cursor) : Except Fault (List Char × Cursor) :=
  match c.rest with
  | '!' :: rest =>
    let name := rest.takeWhile isNameChar
    if name.isEmpty && rest.head? == some ' ' then .ok (['!'], c.next)
    else if rest[name.length]? == some '!' then
      .ok ('!' :: name ++ ['!'], c.forward (name.length + 2))
    else .error .malformed
  | _ => .error .malformed

/-- A character of a tag. -/
def isTagChar (c : Char) : Bool :=
  isLetter c || isDigit c || c ∈ "-;/?:@&=+$,_.!~*'()[]".toList

/-- The bytes of percent escapes at the start, and the number of their characters. -/
def percentBytes : List Char → Except Fault (List UInt8 × Nat)
  | '%' :: a :: b :: cs => do
    match hexValue? a, hexValue? b with
    | some a, some b =>
      let (bytes, n) ← percentBytes cs
      .ok ((16 * a + b).toUInt8 :: bytes, n + 3)
    | _, _ => .error .malformed
  | '%' :: _ => .error .malformed
  | _ => .ok ([], 0)

/-- The characters of a tag, percent escapes decoded. -/
def tagChars (fuel : Nat) (c : Cursor) : Except Fault (List Char × Cursor) :=
  match fuel with
  | 0 => .ok ([], c)
  | fuel + 1 =>
    let word := c.take isTagChar
    let c := c.forward word.length
    if c.head? == some '%' then do
      let (bytes, n) ← percentBytes c.rest
      match Utf8.decode bytes with
      | .error _ => .error .malformed
      | .ok decoded =>
        let (more, c) ← tagChars fuel (c.forward n)
        .ok (word ++ decoded ++ more, c)
    else .ok (word, c)

/-- The text of a tag, which is not empty. -/
def tagText (c : Cursor) : Except Fault (List Char × Cursor) :=
  if holds (fun ch => isTagChar ch || ch == '%') c.head? then tagChars (c.rest.length + 1) c
  else .error .malformed

/-- What a directive says, the cursor standing behind its percent sign. -/
def directive (c : Cursor) : Except Fault (Directive × Cursor) := do
  let name := c.take isNameChar
  let c := c.forward name.length
  if name.isEmpty || !endsWord c.head? then .error .malformed
  else if name = "YAML".toList then
    let (major, c) ← number (c.drop (· == ' '))
    if c.head? ≠ some '.' then .error .malformed
    else
      let (_, c) ← number c.next
      if endsWord c.head? then .ok (.version major, c) else .error .malformed
  else if name = "TAG".toList then
    let (handle, c) ← handle (c.drop (· == ' '))
    if c.head? ≠ some ' ' then .error .malformed
    else
      let (expansion, c) ← tagText (c.drop (· == ' '))
      if endsWord c.head? then .ok (.handle handle expansion, c) else .error .malformed
  else .ok (.other, c.drop fun ch => !isBreak ch)

/-! ## Single tokens -/

/-- The name of an anchor or an alias behind its mark. -/
def anchorName (c : Cursor) : Except Fault (List Char × Cursor) :=
  let name := c.take isNameChar
  let c := c.forward name.length
  let ends := endsToken c.head? ||
    holds (fun ch => ch ∈ ['?', ':', ',', ']', '}', '%', '@', '`']) c.head?
  if name.isEmpty || !ends then .error .malformed else .ok (name, c)

/-- A tag at the cursor. -/
def tag (c : Cursor) : Except Fault (Token × Cursor) := do
  let (handle, suffix, c) ←
    if c.peek 1 == some '<' then do
      let (suffix, c) ← tagText (c.forward 2)
      if c.head? == some '>' then Except.ok (none, suffix, c.next) else .error .malformed
    else if endsToken (c.peek 1) then Except.ok (none, ['!'], c.next)
    else if ((c.rest.drop 1).takeWhile fun ch => !endsWord (some ch)).contains '!' then do
      let (handle, c) ← handle c
      let (suffix, c) ← tagText c
      Except.ok (some handle, suffix, c)
    else do
      let (suffix, c) ← tagText c.next
      Except.ok (some ['!'], suffix, c)
  if endsWord c.head? then .ok (.tag handle suffix, c) else .error .malformed

/-- A character that can start a plain scalar here. -/
def startsPlain (l : Lexer) (c : Char) : Bool :=
  if isWhite c || isBreak c then false
  else if c ∈ ['-', '?', ':', ',', '[', ']', '{', '}', '#', '&', '*', '!', '|', '>', '\'', '"', '%',
      '@', '`'] then
    !endsToken (l.cursor.peek 1) && (c == '-' || (!l.inFlow && (c == '?' || c == ':')))
  else true

/-- Spaces, comments and line breaks skipped; a new line in a block may start a key. -/
def skipToToken (fuel : Nat) (l : Lexer) : Lexer :=
  match fuel with
  | 0 => l
  | fuel + 1 =>
    let c := (l.cursor.drop (· == ' ')).skipComment
    match c.lineBreak? with
    | none => { l with cursor := c }
    | some (_, c) =>
      skipToToken fuel { l with cursor := c, mayStartKey := l.mayStartKey || !l.inFlow }

/-- The state at the start of a token: a byte order mark at the start of the text is skipped. -/
def toToken (l : Lexer) : Lexer :=
  let l := if l.cursor.index = 0 && l.cursor.head? == some '\uFEFF' then l.advance 1 else l
  l.skipToToken (l.cursor.rest.length + 1)

/-- A separator of documents or a directive: all blocks end. -/
def atMargin (l : Lexer) : Except Fault Lexer := do
  let l ← (l.closeBlocks none).dropCandidate
  .ok { l with mayStartKey := false }

/-- A token that may be a key and is one character wide. -/
def openBracket (l : Lexer) (t : Token) : Except Fault Lexer := do
  let l ← l.noteCandidate
  .ok { (l.emit t).advance 1 with candidates := none :: l.candidates, mayStartKey := true }

/-- The end of brackets. -/
def closeBracket (l : Lexer) (t : Token) : Except Fault Lexer := do
  let l ← l.dropCandidate
  if l.inFlow then
    .ok { (l.emit t).advance 1 with candidates := l.candidates.drop 1, mayStartKey := false }
  else .error .malformed

/-- A dash or a question mark that opens an entry of a block. -/
def entry (l : Lexer) (opening t : Token) (keyNext : Bool) : Except Fault Lexer := do
  if !l.inFlow && !l.mayStartKey then .error .malformed
  else
    let l := if l.inFlow then l else l.openBlock l.cursor.column opening
    let l ← l.dropCandidate
    .ok { (l.emit t).advance 1 with mayStartKey := keyNext }

/-- A colon: the innermost candidate is a key, or the key is empty. -/
def colon (l : Lexer) : Except Fault Lexer := do
  match l.candidates with
  | some k :: outer =>
    let l := { l.insertAt k.place .key with candidates := none :: outer }
    let l :=
      if !l.inFlow && l.isDeeper k.column then
        { l.insertAt k.place .blockMapping with indents := k.column :: l.indents }
      else l
    .ok { (l.emit .value).advance 1 with mayStartKey := false }
  | _ => l.entry .blockMapping .value (!l.inFlow)

/-- A token that was read behind the cursor and may be a key. -/
def word (l : Lexer) (read : Cursor → Except Fault (Token × Cursor)) : Except Fault Lexer := do
  let l ← l.noteCandidate
  let (t, cursor) ← read l.cursor
  .ok { l.emit t with cursor, mayStartKey := false }

/-- A block scalar. -/
def blockScalar (l : Lexer) (folds : Bool) : Except Fault Lexer := do
  let l ← l.dropCandidate
  let (text, cursor) ← blockText folds l.indent l.cursor
  .ok { l.emit (.scalar false (Text.ofChars text)) with cursor, mayStartKey := true }

/-- A plain scalar. -/
def plainScalar (l : Lexer) : Except Fault Lexer := do
  let l ← l.noteCandidate
  let least := (l.indent.map (· + 1)).getD 0
  let (text, cursor, broken) := plainText l.inFlow least l.cursor
  .ok { l.emit (.scalar true (Text.ofChars text)) with cursor, mayStartKey := broken }

/-- A separator of documents. -/
def separator (l : Lexer) (t : Token) : Except Fault Lexer := do
  let l ← l.atMargin
  .ok ((l.emit t).advance 3)

/-- The token at the cursor, which stands at the character `c`. -/
def tokenAt (l : Lexer) (c : Char) : Except Fault Lexer := do
  let here := l.cursor
  let bound := endsToken (here.peek 1)
  if c = '%' && here.column = 0 then
    let l ← l.atMargin
    let (d, cursor) ← directive here.next
    .ok { l.emit (.directive d) with cursor := ← afterHeader cursor }
  else if here.column = 0 && here.atSeparator then
    l.separator (if c = '-' then .documentStart else .documentEnd)
  else match c with
  | '[' => l.openBracket .flowSequence
  | '{' => l.openBracket .flowMapping
  | ']' => l.closeBracket .flowSequenceEnd
  | '}' => l.closeBracket .flowMappingEnd
  | ',' => do
    let l ← l.dropCandidate
    .ok { (l.emit .flowEntry).advance 1 with mayStartKey := true }
  | '*' => l.word fun c => (anchorName c.next).map fun (name, c) => (.alias name, c)
  | '&' => l.word fun c => (anchorName c.next).map fun (name, c) => (.anchor name, c)
  | '!' => l.word tag
  | '\'' | '"' =>
    l.word fun cur => (quotedText c cur).map fun (text, cur) => (.scalar false text, cur)
  | _ =>
    if c = '-' && bound then l.entry .blockSequence .blockEntry true
    else if c = '?' && (l.inFlow || bound) then l.entry .blockMapping .key (!l.inFlow)
    else if c = ':' && (l.inFlow || bound) then l.colon
    else if (c = '|' || c = '>') && !l.inFlow then l.blockScalar (c == '>')
    else if l.startsPlain c then l.plainScalar
    else .error .malformed

def step (l : Lexer) : Except Fault Lexer := do
  let l ← l.toToken.dropStale
  let l := l.closeBlocks (some l.cursor.column)
  match l.cursor.head? with
  | some c => l.tokenAt c
  | none =>
    let l ← (l.closeBlocks none).dropCandidate
    .ok { l with ended := true }

/-- The state in which the next token is known: nothing can be put in front of it any more. `fuel`
bounds the number of tokens that are read for it. -/
def readyIn (fuel : Nat) (l : Lexer) : Except Fault Lexer :=
  match fuel with
  | 0 => .ok l
  | fuel + 1 =>
    if l.ended then .ok l
    else if l.tokens.isEmpty then do readyIn fuel (← l.step)
    else do
      let l ← l.dropStale
      if l.candidates.any fun k => k.any fun k => k.place == l.taken then readyIn fuel (← l.step)
      else .ok l

/-- The state in which the next token is known. Every token has a character, and the end is one
more. -/
def ready (l : Lexer) : Except Fault Lexer := l.readyIn (l.size - l.cursor.index + 2)

/-- A character that a document may hold. -/
def isAllowed (c : Char) : Bool :=
  let n := c.toNat
  c == '\t' || c == '\n' || c == '\r' || (0x20 ≤ n && n ≤ 0x7E) || n == 0x85 ||
    (0xA0 ≤ n && n ≤ 0xFFFD) || 0x10000 ≤ n

/-- The state in front of a text, all of whose characters have to be allowed. -/
def ofChars (cs : List Char) : Except Fault Lexer :=
  if cs.all isAllowed then .ok { cursor := { rest := cs }, size := cs.length }
  else .error .malformed

end Lexer

end ServiceContracts.Document.Yaml
