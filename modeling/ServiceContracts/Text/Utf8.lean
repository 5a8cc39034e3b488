import ServiceContracts.Text.Quoted

/-!
# UTF-8

Bytes are decoded one character at a time. The first fault ends the decoding: it names the bytes
that cannot be part of a character, and why.

* `decode` : the characters of some bytes;
* `Fault.message` : the wording of a fault;
* `unifyLines` : line breaks of every kind as line feeds.
-/

namespace ServiceContracts.Text.Utf8

/-- Why bytes are no character. -/
inductive Cause where
  | start
  | continuation
  | endOfData
deriving DecidableEq, Repr

/-- The wording of a cause. -/
def Cause.message : Cause → String
  | start => "invalid start byte"
  | continuation => "invalid continuation byte"
  | endOfData => "unexpected end of data"

/-- The bytes from `position` on, `width` of them, cannot be decoded. -/
structure Fault where
  first : UInt8
  position : Nat
  width : Nat
  cause : Cause
deriving DecidableEq, Repr

def Fault.message (f : Fault) : String :=
  (if f.width = 1 then
    "'utf-8' codec can't decode byte 0x" ++ String.ofList (hex 2 f.first.toNat) ++
      " in position " ++ toString f.position
  else
    "'utf-8' codec can't decode bytes in position " ++ toString f.position ++ "-" ++
      toString (f.position + f.width - 1)) ++ ": " ++ f.cause.message

/-- A byte that continues a character. -/
def continues (b : UInt8) : Bool := 0x80 ≤ b && b < 0xC0

/-- The second byte may follow the first one of three or four. -/
def follows (first second : UInt8) : Bool :=
  continues second &&
    !(first == 0xE0 && second < 0xA0) && !(first == 0xED && second ≥ 0xA0) &&
    !(first == 0xF0 && second < 0x90) && !(first == 0xF4 && second ≥ 0x90)

/-- The low six bits of a byte. -/
def low (b : UInt8) : Nat := b.toNat % 64

/-- The character that some bytes start with and its width, or the width of a fault and its
cause. -/
def decodeChar (bytes : List UInt8) : Except (Nat × Cause) (Char × Nat) :=
  match bytes with
  | [] => .error (0, .endOfData)
  | a :: rest =>
    if a < 0x80 then .ok (Char.ofNat a.toNat, 1)
    else if a < 0xC2 || a ≥ 0xF5 then .error (1, .start)
    else match rest with
      | [] => .error (1, .endOfData)
      | b :: rest =>
        if !follows a b then .error (1, .continuation)
        else if a < 0xE0 then .ok (Char.ofNat ((a.toNat - 0xC0) * 64 + low b), 2)
        else match rest with
          | [] => .error (2, .endOfData)
          | c :: rest =>
            if !continues c then .error (2, .continuation)
            else if a < 0xF0 then
              .ok (Char.ofNat (((a.toNat - 0xE0) * 64 + low b) * 64 + low c), 3)
            else match rest with
              | [] => .error (3, .endOfData)
              | d :: _ =>
                if !continues d then .error (3, .continuation)
                else .ok
                  (Char.ofNat ((((a.toNat - 0xF0) * 64 + low b) * 64 + low c) * 64 + low d), 4)

/-- The characters of the bytes from `position` on, behind the next `skip` bytes. -/
def decodeFrom (position skip : Nat) : List UInt8 → Except Fault (List Char)
  | [] => .ok []
  | b :: bytes =>
    match skip with
    | skip + 1 => decodeFrom (position + 1) skip bytes
    | 0 =>
      match decodeChar (b :: bytes) with
      | .error (width, cause) => .error { first := b, position, width, cause }
      | .ok (c, width) => (decodeFrom (position + 1) (width - 1) bytes).map (c :: ·)

def decode (bytes : List UInt8) : Except Fault (List Char) := decodeFrom 0 0 bytes

def unifyLines : List Char → List Char
  | [] => []
  | c :: cs =>
    if c = '\r' then
      if cs.head? = some '\n' then unifyLines cs else '\n' :: unifyLines cs
    else c :: unifyLines cs

end ServiceContracts.Text.Utf8
