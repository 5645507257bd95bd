import PriceRelay.Bytes.Basic
/-!
Keccak-256: the sponge with a rate of 136 bytes, padding `0x01 … 0x80`, and 24 rounds over 25 words.
The word of column `x` and row `y` stands at index `5 * y + x`.
-/

namespace PriceRelay.Keccak

abbrev Sponge := Array UInt64

def rate : Nat := 136

/-- The constant of each round. -/
def roundConstants : List UInt64 :=
  [0x0000000000000001, 0x0000000000008082, 0x800000000000808a, 0x8000000080008000,
   0x000000000000808b, 0x0000000080000001, 0x8000000080008081, 0x8000000000008009,
   0x000000000000008a, 0x0000000000000088, 0x0000000080008009, 0x000000008000000a,
   0x000000008000808b, 0x800000000000008b, 0x8000000000008089, 0x8000000000008003,
   0x8000000000008002, 0x8000000000000080, 0x000000000000800a, 0x800000008000000a,
   0x8000000080008081, 0x8000000000008080, 0x0000000080000001, 0x8000000080008008]

/-- How far each word is rotated, by index. -/
def rotations : Array UInt64 :=
  #[0, 1, 62, 28, 27, 36, 44, 6, 55, 20, 3, 10, 43, 25, 39, 41, 45, 15, 21, 8, 18, 2, 61, 56, 14]

def rotateLeft (word amount : UInt64) : UInt64 :=
  if amount = 0 then word else (word <<< amount) ||| (word >>> (64 - amount))

def word (sponge : Sponge) (x y : Nat) : UInt64 := sponge.getD (5 * (y % 5) + x % 5) 0

/-- Every column is mixed with the parities of its neighbours. -/
def mixColumns (sponge : Sponge) : Sponge :=
  let parity : Array UInt64 := Array.ofFn fun x : Fin 5 =>
    word sponge x 0 ^^^ word sponge x 1 ^^^ word sponge x 2 ^^^ word sponge x 3 ^^^ word sponge x 4
  let change : Array UInt64 := Array.ofFn fun x : Fin 5 =>
    parity.getD ((x + 4) % 5) 0 ^^^ rotateLeft (parity.getD ((x + 1) % 5) 0) 1
  Array.ofFn fun i : Fin 25 => sponge.getD i 0 ^^^ change.getD (i % 5) 0

/-- Words are rotated and moved: `(x, y)` receives the word of `(x + 3 y, x)`. -/
def scatter (sponge : Sponge) : Sponge :=
  Array.ofFn fun i : Fin 25 =>
    let x := i.val % 5
    let y := i.val / 5
    let source := 5 * x + (x + 3 * y) % 5
    rotateLeft (sponge.getD source 0) (rotations.getD source 0)

/-- The only non-linear step, along each row. -/
def mixRows (sponge : Sponge) : Sponge :=
  Array.ofFn fun i : Fin 25 =>
    let x := i.val % 5
    let y := i.val / 5
    word sponge x y ^^^ (~~~(word sponge (x + 1) y) &&& word sponge (x + 2) y)

def round (sponge : Sponge) (constant : UInt64) : Sponge :=
  (mixRows (scatter (mixColumns sponge))).modify 0 (· ^^^ constant)

def permute (sponge : Sponge) : Sponge := roundConstants.foldl round sponge

/-- The little-endian words of a block. -/
def littleWords : Bytes → List UInt64
  | a :: b :: c :: d :: e :: f :: g :: h :: rest =>
    (a.toUInt64 ||| b.toUInt64 <<< 8 ||| c.toUInt64 <<< 16 ||| d.toUInt64 <<< 24
      ||| e.toUInt64 <<< 32 ||| f.toUInt64 <<< 40 ||| g.toUInt64 <<< 48 ||| h.toUInt64 <<< 56)
      :: littleWords rest
  | _ => []

def absorb (sponge : Sponge) (block : Bytes) : Sponge :=
  let words := (littleWords block).toArray
  permute (Array.ofFn fun i : Fin 25 => sponge.getD i 0 ^^^ words.getD i 0)

/-- The message with a first and a last padding bit, up to a whole number of blocks. -/
def pad (message : Bytes) : Bytes :=
  let gap := rate - message.length % rate
  if gap = 1 then message ++ [0x81]
  else message ++ 0x01 :: List.replicate (gap - 2) 0 ++ [0x80]

/-- Absorb block after block; the first argument counts the blocks. -/
def absorbAll : Nat → Sponge → Bytes → Sponge
  | 0, sponge, _ => sponge
  | blocks + 1, sponge, message =>
    absorbAll blocks (absorb sponge (message.take rate)) (message.drop rate)

private def littleBytes (word : UInt64) : Bytes :=
  (List.range 8).map fun i => (word >>> (8 * i).toUInt64).toUInt8

def digestBytes (message : Bytes) : Bytes :=
  let padded := pad message
  let sponge := absorbAll (padded.length / rate) (Array.replicate 25 0) padded
  [0, 1, 2, 3].flatMap fun i => littleBytes (sponge.getD i 0)

private theorem length_littleBytes (word : UInt64) : (littleBytes word).length = 8 := by
  simp [littleBytes]

theorem length_digestBytes (message : Bytes) : (digestBytes message).length = 32 := by
  simp [digestBytes, length_littleBytes]

def digest (message : Bytes) : Hash := ⟨digestBytes message, length_digestBytes message⟩

end PriceRelay.Keccak
