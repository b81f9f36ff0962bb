/-!
# Decoding bytes

A file holds bytes, read as UTF-8 or refused at the first place where they are not UTF-8. Lines may
end in a line feed, a carriage return or both, and are told apart by line feeds after reading.
-/

namespace SchemaCatalog.Text

inductive Utf8Fault where
  /-- A byte that starts no character. -/
  | start
  /-- A byte that does not continue the character begun before it. -/
  | continuation
  /-- The bytes end inside a character. -/
  | truncated
  deriving DecidableEq, Repr

/-- Bytes that are not UTF-8: the fault, the position of the character where it is, and the bytes of
that character up to the fault. -/
structure Utf8Error where
  fault : Utf8Fault
  position : Nat
  bytes : List UInt8
  deriving DecidableEq, Repr

def Utf8Fault.text : Utf8Fault → String
  | start => "invalid start byte"
  | continuation => "invalid continuation byte"
  | truncated => "unexpected end of data"

def hexByte (b : UInt8) : String :=
  String.ofList [Nat.digitChar (b.toNat / 16), Nat.digitChar (b.toNat % 16)]

def Utf8Error.text (e : Utf8Error) : String :=
  let place :=
    match e.bytes with
    | [b] => "byte 0x" ++ hexByte b ++ " in position " ++ toString e.position
    | bs =>
      "bytes in position " ++ toString e.position ++ "-" ++ toString (e.position + bs.length - 1)
  "'utf-8' codec can't decode " ++ place ++ ": " ++ e.fault.text

/-- A character of which some bytes were read: its position, those bytes, last first, the value they
give, how many are missing, and the least and greatest next one. -/
structure OpenChar where
  position : Nat
  bytes : List UInt8
  value : Nat
  missing : Nat
  least : Nat := 0x80
  greatest : Nat := 0xbf

def OpenChar.error (o : OpenChar) (fault : Utf8Fault) : Utf8Error :=
  ⟨fault, o.position, o.bytes.reverse⟩

/-- The character that a byte above the ASCII ones begins. -/
def openChar? (position : Nat) (byte : UInt8) : Option OpenChar :=
  let b := byte.toNat
  let begin := fun value missing least greatest =>
    some { position, bytes := [byte], value, missing, least, greatest }
  if 0xc2 ≤ b && b ≤ 0xdf then begin (b - 0xc0) 1 0x80 0xbf
  else if b == 0xe0 then begin 0 2 0xa0 0xbf
  else if b == 0xed then begin 0xd 2 0x80 0x9f
  else if 0xe1 ≤ b && b ≤ 0xef then begin (b - 0xe0) 2 0x80 0xbf
  else if b == 0xf0 then begin 0 3 0x90 0xbf
  else if 0xf1 ≤ b && b ≤ 0xf3 then begin (b - 0xf0) 3 0x80 0xbf
  else if b == 0xf4 then begin 4 3 0x80 0x8f
  else none

/-- The characters of bytes from a position on, after those `read`, last first; `pending` is the
character begun before. -/
def decodeFrom (read : List Char) (pending : Option OpenChar) (position : Nat) :
    List UInt8 → Except Utf8Error (List Char)
  | [] =>
    match pending with
    | none => .ok read.reverse
    | some o => .error (o.error .truncated)
  | b :: bs =>
    match pending with
    | none =>
      if b.toNat < 0x80 then decodeFrom (Char.ofNat b.toNat :: read) none (position + 1) bs
      else
        match openChar? position b with
        | some o => decodeFrom read (some o) (position + 1) bs
        | none => .error ⟨.start, position, [b]⟩
    | some o =>
      if o.least ≤ b.toNat && b.toNat ≤ o.greatest then
        let value := o.value * 64 + (b.toNat - 0x80)
        if o.missing ≤ 1 then decodeFrom (Char.ofNat value :: read) none (position + 1) bs
        else
          decodeFrom read
            (some { position := o.position, bytes := b :: o.bytes, value, missing := o.missing - 1 })
            (position + 1) bs
      else .error (o.error .continuation)

def decodeUtf8 (bytes : List UInt8) : Except Utf8Error (List Char) := decodeFrom [] none 0 bytes

/-- The characters with every line ending turned into a line feed. -/
def unifyLines : List Char → List Char
  | '\r' :: '\n' :: cs => '\n' :: unifyLines cs
  | '\r' :: cs => '\n' :: unifyLines cs
  | c :: cs => c :: unifyLines cs
  | [] => []

end SchemaCatalog.Text
