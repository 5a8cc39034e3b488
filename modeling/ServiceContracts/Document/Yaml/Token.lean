import ServiceContracts.Number.Spelling

/-!
# YAML tokens

What the text of a document is made of, and why a document is refused.
-/

namespace ServiceContracts.Document.Yaml

/-- Why a document is refused. -/
inductive Fault where
  /-- It is no well-formed document, or holds what no document value stands for. -/
  | malformed
  /-- Lists and maps are nested too deeply. -/
  | tooDeep
  /-- An escape names a number beyond all code points. -/
  | noCodePoint
  /-- An escape names a number of more than 31 bits. -/
  | oversizedEscape
  /-- A word that is said to be a number is none. -/
  | badNumber (m : Number.Misspelling)
  /-- A word that is said to be a number has no characters. -/
  | emptyNumber
  /-- A number to base sixty has more places than a double can weigh. -/
  | oversizedPlace
  /-- A word is none of those that stand for a truth value. -/
  | badWord (word : String)
  /-- A word that is said to be a moment is none. -/
  | noMoment
  /-- A map that is said to be a moment is none, even if it has a default. -/
  | momentOfMap
  /-- A part of a moment is out of its range. -/
  | badMoment (message : String)
deriving DecidableEq, Repr

/-- The wording of a fault. -/
def Fault.message : Fault → String
  | malformed => ""
  | tooDeep => "maximum recursion depth exceeded"
  | noCodePoint => "chr() arg not in range(0x110000)"
  | oversizedEscape => "Python int too large to convert to C int"
  | badNumber m => m.message
  | emptyNumber => "string index out of range"
  | oversizedPlace => "int too large to convert to float"
  | badWord word => Text.quoted word
  | noMoment => "'NoneType' object has no attribute 'groupdict'"
  | momentOfMap => "expected string or bytes-like object, got 'list'"
  | badMoment message => message

/-- What a directive says. -/
inductive Directive where
  | version (major : Nat)
  | handle (name expansion : List Char)
  | other
deriving DecidableEq, Repr

/-- A piece of a document. -/
inductive Token where
  | directive (d : Directive)
  | documentStart
  | documentEnd
  | blockSequence
  | blockMapping
  | blockEnd
  | flowSequence
  | flowSequenceEnd
  | flowMapping
  | flowMappingEnd
  | blockEntry
  | flowEntry
  | key
  | value
  | alias (name : List Char)
  | anchor (name : List Char)
  | tag (handle : Option (List Char)) (suffix : List Char)
  | scalar (isPlain : Bool) (text : List Char)
deriving DecidableEq, Repr

end ServiceContracts.Document.Yaml
