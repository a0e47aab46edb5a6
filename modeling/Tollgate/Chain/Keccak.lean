set_option autoImplicit false

/-!
# Keccak-256

The hash that decides the letter case of an address: a sponge over 25 lanes of 64 bits that takes
136 bytes at a time.
-/

namespace Tollgate.Chain.Keccak

/-- The lanes; lane `x + 5 * y` stands in column `x` of row `y`. -/
abbrev Lanes := Vector UInt64 25

/-- The lane in a column and a row, both counted modulo five. -/
def lane (a : Lanes) (x y : Nat) : UInt64 :=
  a.get ⟨x % 5 + 5 * (y % 5), by omega⟩

/-- A word rotated to the left. -/
def rotate (w : UInt64) (n : Nat) : UInt64 :=
  if n % 64 = 0 then w
  else w <<< UInt64.ofNat (n % 64) ||| w >>> UInt64.ofNat (64 - n % 64)

/-- By how many bits the lanes are rotated. -/
def rotations : Vector Nat 25 :=
  #v[0, 1, 62, 28, 27, 36, 44, 6, 55, 20, 3, 10, 43, 25, 39, 41, 45, 15, 21, 8, 18, 2, 61, 56, 14]

/-- The words that tell the rounds apart. -/
def roundWords : List UInt64 :=
  [0x0000000000000001, 0x0000000000008082, 0x800000000000808a, 0x8000000080008000,
   0x000000000000808b, 0x0000000080000001, 0x8000000080008081, 0x8000000000008009,
   0x000000000000008a, 0x0000000000000088, 0x0000000080008009, 0x000000008000000a,
   0x000000008000808b, 0x800000000000008b, 0x8000000000008089, 0x8000000000008003,
   0x8000000000008002, 0x8000000000000080, 0x000000000000800a, 0x800000008000000a,
   0x8000000080008081, 0x8000000000008080, 0x0000000080000001, 0x8000000080008008]

/-- Mixes every lane with the parities of two neighbouring columns. -/
def mixColumns (a : Lanes) : Lanes :=
  let parity (x : Nat) : UInt64 :=
    lane a x 0 ^^^ lane a x 1 ^^^ lane a x 2 ^^^ lane a x 3 ^^^ lane a x 4
  let parities : Vector UInt64 5 := Vector.ofFn (fun x => parity x.val)
  Vector.ofFn (fun i =>
    let before := parities.get ⟨(i.val + 4) % 5, by omega⟩
    let after := parities.get ⟨(i.val + 1) % 5, by omega⟩
    a[i] ^^^ before ^^^ rotate after 1)

/-- Rotates the lanes and moves each to its new place. -/
def rotateAndMove (a : Lanes) : Lanes :=
  let turned : Lanes := Vector.ofFn (fun i => rotate a[i] rotations[i])
  Vector.ofFn (fun i =>
    let x := i.val % 5
    let y := i.val / 5
    lane turned (x + 3 * y) x)

/-- Combines every lane with the next two of its row. -/
def mixRows (a : Lanes) : Lanes :=
  Vector.ofFn (fun i =>
    let x := i.val % 5
    let y := i.val / 5
    a[i] ^^^ (~~~ lane a (x + 1) y &&& lane a (x + 2) y))

/-- One round. -/
def round (a : Lanes) (word : UInt64) : Lanes :=
  let b := mixRows (rotateAndMove (mixColumns a))
  b.set 0 (b[0] ^^^ word)

/-- All rounds. -/
def permute (a : Lanes) : Lanes :=
  roundWords.foldl round a

/-- How many bytes are taken at a time. -/
def rate : Nat := 136

/-- The message filled up to a multiple of the rate. -/
def padded (message : List UInt8) : List UInt8 :=
  let gap := rate - message.length % rate
  if gap = 1 then message ++ [0x81]
  else message ++ [0x01] ++ List.replicate (gap - 2) 0x00 ++ [0x80]

/-- The word that eight bytes spell, the lowest first. -/
def word (bytes : List UInt8) : UInt64 :=
  bytes.foldr (fun b w => w <<< 8 ||| b.toUInt64) 0

/-- Takes one block of bytes in. -/
def absorb (a : Lanes) (block : List UInt8) : Lanes :=
  permute (Vector.ofFn (fun i => a[i] ^^^ word ((block.drop (8 * i.val)).take 8)))

/-- The 32 bytes of the hash of a message. -/
def hash (message : List UInt8) : List UInt8 :=
  let bytes := padded message
  let blocks := (List.range (bytes.length / rate)).map
    (fun i => (bytes.drop (rate * i)).take rate)
  let final := blocks.foldl absorb (Vector.replicate 25 0)
  (List.range 32).map (fun i =>
    (lane final (i / 8) 0 >>> UInt64.ofNat (8 * (i % 8))).toUInt8)

end Tollgate.Chain.Keccak
