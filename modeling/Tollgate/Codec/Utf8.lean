import Tollgate.Number.Integer

set_option autoImplicit false

/-!
# UTF-8

Text as bytes. Decoding is strict: overlong forms, surrogates, code points beyond the last one
and truncated sequences are refused, with the place of the offending bytes.
-/

namespace Tollgate.Codec.Utf8

open Tollgate.Number Tollgate.Text

/-- The bytes of a text. -/
def encode (cs : List Char) : List UInt8 :=
  cs.flatMap String.utf8EncodeChar

/-- What is wrong with a sequence of bytes. -/
inductive Problem where
  | invalidStart
  | invalidContinuation
  | unexpectedEnd
deriving Repr, DecidableEq

/-- Bytes that are not text: the problem, the first byte, how many bytes stand in front of it,
and how many bytes are at fault. -/
structure Fault where
  problem : Problem
  lead : UInt8
  position : Nat
  length : Nat
deriving Repr, DecidableEq

/-- The wording of a problem. -/
def Problem.message : Problem → String
  | .invalidStart => "invalid start byte"
  | .invalidContinuation => "invalid continuation byte"
  | .unexpectedEnd => "unexpected end of data"

/-- The wording of a fault. -/
def Fault.message (f : Fault) : String :=
  let place :=
    if f.length = 1 then
      "byte 0x" ++ String.ofList (hexText 2 f.lead.toNat) ++ " in position " ++
        toString f.position
    else
      "bytes in position " ++ toString f.position ++ "-" ++
        toString (f.position + f.length - 1)
  "'utf-8' codec can't decode " ++ place ++ ": " ++ f.problem.message

/-- Whether a byte continues a sequence. -/
def isContinuation (b : UInt8) : Bool :=
  0x80 ≤ b.toNat && b.toNat < 0xc0

/-- Whether a byte may be the second of the sequence that the lead byte opens: it continues the
sequence, and the code point is neither overlong nor a surrogate nor too large. -/
def isSecond (lead b : UInt8) : Bool :=
  isContinuation b &&
    (lead.toNat != 0xe0 || 0xa0 ≤ b.toNat) && (lead.toNat != 0xed || b.toNat < 0xa0) &&
    (lead.toNat != 0xf0 || 0x90 ≤ b.toNat) && (lead.toNat != 0xf4 || b.toNat < 0x90)

/-- The six bits that a continuation byte carries. -/
def payload (b : UInt8) : Nat :=
  b.toNat % 64

/-- The text of bytes; `position` bytes stand in front and `done` is the text so far in
reverse. -/
def decodeFrom (position : Nat) (done : List Char) : List UInt8 → Except Fault (List Char)
  | [] => .ok done.reverse
  | a :: rest =>
    let fault (problem : Problem) (length : Nat) : Except Fault (List Char) :=
      .error ⟨problem, a, position, length⟩
    if a.toNat < 0x80 then decodeFrom (position + 1) (Char.ofNat a.toNat :: done) rest
    else if a.toNat < 0xc2 ∨ 0xf5 ≤ a.toNat then fault .invalidStart 1
    else
      match rest with
      | [] => fault .unexpectedEnd 1
      | b :: rest =>
        if !isSecond a b then fault .invalidContinuation 1
        else if a.toNat < 0xe0 then
          let point := a.toNat % 32 * 64 + payload b
          decodeFrom (position + 2) (Char.ofNat point :: done) rest
        else
          match rest with
          | [] => fault .unexpectedEnd 2
          | c :: rest =>
            if !isContinuation c then fault .invalidContinuation 2
            else if a.toNat < 0xf0 then
              let point := a.toNat % 16 * 4096 + payload b * 64 + payload c
              decodeFrom (position + 3) (Char.ofNat point :: done) rest
            else
              match rest with
              | [] => fault .unexpectedEnd 3
              | d :: rest =>
                if !isContinuation d then fault .invalidContinuation 3
                else
                  let point :=
                    a.toNat % 8 * 262144 + payload b * 4096 + payload c * 64 + payload d
                  decodeFrom (position + 4) (Char.ofNat point :: done) rest

/-- The text of bytes. -/
def decode (bytes : List UInt8) : Except Fault (List Char) :=
  decodeFrom 0 [] bytes

/-- The text of bytes in which every sequence at fault stands for one replacement character. The
first number bounds how many sequences are at fault. -/
def decodeReplacing : Nat → List UInt8 → List Char
  | 0, _ => []
  | fuel + 1, bytes =>
    match decode bytes with
    | .ok cs => cs
    | .error f =>
      ((decode (bytes.take f.position)).toOption.getD []) ++
        '\ufffd' :: decodeReplacing fuel (bytes.drop (f.position + f.length))

/-- The text of bytes, whatever they are. -/
def decodeLossy (bytes : List UInt8) : List Char :=
  decodeReplacing (bytes.length + 1) bytes

end Tollgate.Codec.Utf8
