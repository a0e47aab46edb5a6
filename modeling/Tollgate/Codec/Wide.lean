import Tollgate.Number.Integer
import Tollgate.Text.Loose

set_option autoImplicit false

/-!
# UTF-16 and UTF-32

Bytes in units of two or four as code points, in either order of the bytes of a unit. Surrogates
that belong to no pair are let through; a unit that is cut off and a number beyond the last code
point are refused, with the place of the offending bytes.
-/

namespace Tollgate.Codec.Wide

open Tollgate.Number Tollgate.Text

/-- Which byte of a unit comes first: the most significant one or the least significant one. -/
inductive ByteOrder where
  | big
  | little
deriving Repr, DecidableEq

/-- How many bytes a unit has. -/
inductive Width where
  | two
  | four
deriving Repr, DecidableEq

/-- A way of writing code points in units of several bytes. -/
structure Format where
  width : Width
  order : ByteOrder
deriving Repr, DecidableEq

/-- The name of a format. -/
def Format.name (f : Format) : String :=
  (match f.width with
    | .two => "utf-16"
    | .four => "utf-32") ++
  match f.order with
  | .big => "-be"
  | .little => "-le"

/-- What is wrong with a sequence of bytes. -/
inductive Problem where
  | truncated
  | outOfRange
deriving Repr, DecidableEq

/-- The wording of a problem. -/
def Problem.message : Problem → String
  | .truncated => "truncated data"
  | .outOfRange => "code point not in range(0x110000)"

/-- Bytes that are not text: the problem, the first byte, how many bytes stand in front of it, and
how many bytes are at fault. -/
structure Fault where
  format : Format
  problem : Problem
  lead : UInt8
  position : Nat
  length : Nat
deriving Repr, DecidableEq

/-- The wording of a fault. -/
def Fault.message (f : Fault) : String :=
  let place :=
    if f.length = 1 then
      "byte 0x" ++ String.ofList (hexText 2 f.lead.toNat) ++ " in position " ++
        toString f.position
    else
      "bytes in position " ++ toString f.position ++ "-" ++
        toString (f.position + f.length - 1)
  "\x27" ++ f.format.name ++ "\x27 codec can\x27t decode " ++ place ++ ": " ++ f.problem.message

/-- The number that the bytes of a unit spell. -/
def unit (order : ByteOrder) (bytes : List UInt8) : Nat :=
  let significant := match order with
    | .big => bytes
    | .little => bytes.reverse
  significant.foldl (fun n b => 256 * n + b.toNat) 0

/-- The units of two bytes; `position` bytes stand in front. -/
def units16 (order : ByteOrder) (position : Nat) : List UInt8 → Except Fault (List Nat)
  | [] => .ok []
  | [a] => .error ⟨⟨.two, order⟩, .truncated, a, position, 1⟩
  | a :: b :: rest => (units16 order (position + 2) rest).map (unit order [a, b] :: ·)

/-- The units of four bytes; `position` bytes stand in front. -/
def units32 (order : ByteOrder) (position : Nat) : List UInt8 → Except Fault (List Nat)
  | [] => .ok []
  | a :: b :: c :: d :: rest =>
    let n := unit order [a, b, c, d]
    if n < 0x110000 then (units32 order (position + 4) rest).map (n :: ·)
    else .error ⟨⟨.four, order⟩, .outOfRange, a, position, 4⟩
  | a :: rest => .error ⟨⟨.four, order⟩, .truncated, a, position, rest.length + 1⟩

/-- The code points of bytes. -/
def decode (format : Format) (bytes : List UInt8) : Except Fault (List Nat) :=
  match format.width with
  | .two => (units16 format.order 0 bytes).map joinPairs
  | .four => units32 format.order 0 bytes

end Tollgate.Codec.Wide
