import CodeAudit.Text.Quoted

/-!
# UTF-8

Bytes are decoded one character at a time. Bytes that start no character give an error with the
longest stretch that could have been the beginning of one, and decoding goes on behind it.
-/

namespace CodeAudit.Files

inductive DecodeFault where
  | badStart
  | badContinuation
  | cutOff
  deriving DecidableEq, Repr, Inhabited

def DecodeFault.text : DecodeFault → String
  | .badStart => "invalid start byte"
  | .badContinuation => "invalid continuation byte"
  | .cutOff => "unexpected end of data"

/-- Bytes that are no character: where they start, how many there are, and the first of them. -/
structure DecodeError where
  start : Nat
  size : Nat
  first : UInt8
  fault : DecodeFault
  deriving DecidableEq, Repr, Inhabited

def DecodeError.message (e : DecodeError) : String :=
  let place :=
    if e.size == 1 then
      "byte 0x" ++ String.ofList (Text.hexDigits 2 e.first.toNat) ++ " in position " ++
        toString e.start
    else "bytes in position " ++ toString e.start ++ "-" ++ toString (e.start + e.size - 1)
  "'utf-8' codec can't decode " ++ place ++ ": " ++ e.fault.text

/-- What a first byte announces: how many bytes follow, the range of the next one, and the bits
that the first byte contributes. -/
structure Lead where
  following : Nat
  low : Nat
  high : Nat
  bits : Nat
  deriving DecidableEq, Repr, Inhabited

/-- What a first byte announces, if a character can start with it. The narrower ranges exclude
overlong forms, surrogates and numbers beyond the last code point. -/
def lead? (b : Nat) : Option Lead :=
  if b < 0x80 then some ⟨0, 0x80, 0xBF, b⟩
  else if b < 0xC2 then none
  else if b < 0xE0 then some ⟨1, 0x80, 0xBF, b - 0xC0⟩
  else if b == 0xE0 then some ⟨2, 0xA0, 0xBF, 0⟩
  else if b == 0xED then some ⟨2, 0x80, 0x9F, 0xD⟩
  else if b < 0xF0 then some ⟨2, 0x80, 0xBF, b - 0xE0⟩
  else if b == 0xF0 then some ⟨3, 0x90, 0xBF, 0⟩
  else if b < 0xF4 then some ⟨3, 0x80, 0xBF, b - 0xF0⟩
  else if b == 0xF4 then some ⟨3, 0x80, 0x8F, 4⟩
  else none

/-- Reads the bytes that follow a first one. An error carries how many fitted. -/
def following : (count low high code read : Nat) → List UInt8 →
    Except (DecodeFault × Nat) (Nat × List UInt8)
  | 0, _, _, code, _, bytes => .ok (code, bytes)
  | _ + 1, _, _, _, read, [] => .error (.cutOff, read)
  | count + 1, low, high, code, read, b :: bytes =>
    if low ≤ b.toNat && b.toNat ≤ high then
      following count 0x80 0xBF (64 * code + b.toNat % 64) (read + 1) bytes
    else .error (.badContinuation, read)

abbrev Decoded := Except DecodeError Char

/-- Decodes bytes from a position on. `read` holds what was decoded before, last first. -/
def decodeFrom : (fuel position : Nat) → (read : List Decoded) → List UInt8 → List Decoded
  | 0, _, read, _ => read.reverse
  | _, _, read, [] => read.reverse
  | fuel + 1, position, read, b :: bytes =>
    let failed (fault : DecodeFault) (size : Nat) : Decoded := .error ⟨position, size, b, fault⟩
    match lead? b.toNat with
    | none => decodeFrom fuel (position + 1) (failed .badStart 1 :: read) bytes
    | some lead =>
      match following lead.following lead.low lead.high lead.bits 0 bytes with
      | .ok (code, rest) =>
        decodeFrom fuel (position + 1 + lead.following) (.ok (Char.ofNat code) :: read) rest
      | .error (fault, fitted) =>
        decodeFrom fuel (position + 1 + fitted) (failed fault (1 + fitted) :: read)
          (bytes.drop fitted)

def decode (bytes : List UInt8) : List Decoded :=
  decodeFrom bytes.length 0 [] bytes

def decodeStrict (bytes : List UInt8) : Except DecodeError (List Char) :=
  (decode bytes).mapM id

def replacement : Char := Char.ofNat 0xFFFD

def decodeLossy (bytes : List UInt8) : List Char :=
  (decode bytes).map fun
    | .ok c => c
    | .error _ => replacement

def plainNewlinesFrom : (read : List Char) → List Char → List Char
  | read, '\r' :: '\n' :: rest => plainNewlinesFrom ('\n' :: read) rest
  | read, '\r' :: rest => plainNewlinesFrom ('\n' :: read) rest
  | read, c :: rest => plainNewlinesFrom (c :: read) rest
  | read, [] => read.reverse

/-- A text whose lines all end with a newline alone: a carriage return, with or without a newline
behind it, ends a line too. -/
def plainNewlines (text : List Char) : List Char :=
  plainNewlinesFrom [] text

end CodeAudit.Files
