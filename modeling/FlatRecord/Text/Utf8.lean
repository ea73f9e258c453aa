import FlatRecord.Text.Quoted

/-!
# UTF-8

A text is stored as octets. Its characters take one to four of them; the first tells how many follow,
and the second is confined so that every character has one form only. Octets that are no text are
refused with the first place where they are not.
-/

namespace FlatRecord.Text

/-- Why octets are no text. -/
inductive Utf8Cause where
  /-- The octet begins no character. -/
  | start
  /-- An octet does not go on with the character before it. -/
  | continuation
  /-- The octets end inside a character. -/
  | incomplete
  deriving DecidableEq, Repr

/-- Where and why octets are no text. -/
structure Utf8Fault where
  cause : Utf8Cause
  /-- The octet that begins the character. -/
  octet : UInt8
  /-- The number of octets before it. -/
  position : Nat
  /-- The number of octets that are refused. -/
  length : Nat
  deriving DecidableEq, Repr

/-- The text of the cause. -/
def Utf8Cause.message : Utf8Cause → String
  | start => "invalid start byte"
  | continuation => "invalid continuation byte"
  | incomplete => "unexpected end of data"

/-- The text of the fault. -/
def Utf8Fault.message (f : Utf8Fault) : String :=
  let place :=
    if f.length = 1 then
      "byte 0x" ++ String.ofList (hexDigits 2 f.octet.toNat) ++ s!" in position {f.position}"
    else s!"bytes in position {f.position}-{f.position + f.length - 1}"
  "'utf-8' codec can't decode " ++ place ++ ": " ++ f.cause.message

/-- What an octet that begins a character of several octets says: the number of octets that follow,
the bounds of the first of them, and the bits that it gives itself. -/
structure LeadOctet where
  following : Nat
  least : UInt8
  greatest : UInt8
  bits : Nat

/-- What an octet says, if it begins a character of several octets. -/
def leadOctet? (b : UInt8) : Option LeadOctet :=
  if b < 0xc2 then none
  else if b < 0xe0 then some ⟨1, 0x80, 0xbf, b.toNat % 0x20⟩
  else if b = 0xe0 then some ⟨2, 0xa0, 0xbf, 0⟩
  else if b = 0xed then some ⟨2, 0x80, 0x9f, 0xd⟩
  else if b < 0xf0 then some ⟨2, 0x80, 0xbf, b.toNat % 0x10⟩
  else if b = 0xf0 then some ⟨3, 0x90, 0xbf, 0⟩
  else if b < 0xf4 then some ⟨3, 0x80, 0xbf, b.toNat % 8⟩
  else if b = 0xf4 then some ⟨3, 0x80, 0x8f, 4⟩
  else none

/-- Read the octets that follow the first of a character. What goes wrong is given with the number of
octets that were read. -/
def followingOctets (least greatest : UInt8) :
    Nat → Nat → Nat → List UInt8 → Except (Utf8Cause × Nat) (Nat × List UInt8)
  | 0, _, code, rest => .ok (code, rest)
  | _ + 1, count, _, [] => .error (.incomplete, count)
  | n + 1, count, code, b :: rest =>
    if least ≤ b ∧ b ≤ greatest then
      followingOctets 0x80 0xbf n (count + 1) (code * 0x40 + b.toNat % 0x40) rest
    else .error (.continuation, count)

/-- Read the characters of octets from a position on, after those read so far in reverse. -/
def decodeFrom : Nat → Nat → List Char → List UInt8 → Except Utf8Fault (List Char)
  | 0, _, read, _ => .ok read.reverse
  | _ + 1, _, read, [] => .ok read.reverse
  | fuel + 1, position, read, b :: rest =>
    if b < 0x80 then decodeFrom fuel (position + 1) (Char.ofNat b.toNat :: read) rest
    else
      match leadOctet? b with
      | none => .error ⟨.start, b, position, 1⟩
      | some lead =>
        match followingOctets lead.least lead.greatest lead.following 1 lead.bits rest with
        | .ok (code, rest) =>
          decodeFrom fuel (position + lead.following + 1) (Char.ofNat code :: read) rest
        | .error (cause, length) => .error ⟨cause, b, position, length⟩

/-- Read octets as text. -/
def decodeUtf8 (octets : List UInt8) : Except Utf8Fault (List Char) :=
  decodeFrom (octets.length + 1) 0 [] octets

/-- The octets of a text. -/
def encodeUtf8 (s : String) : List UInt8 := s.toUTF8.toList

end FlatRecord.Text
