import PriceRelay.Crypto.Keccak
import PriceRelay.Crypto.Sha256
/-!
Signatures on the curve `y² = x³ + 7` over the prime field, with deterministic nonces and `s` kept
in the lower half of the group order.
-/

namespace PriceRelay.Secp256k1

/-- The order of the field. -/
def field : Nat := 2 ^ 256 - 2 ^ 32 - 977

/-- The order of the group. -/
def order : Nat := 0xfffffffffffffffffffffffffffffffebaaedce6af48a03bbfd25e8cd0364141

/-- A point in projective coordinates `x = X / Z²`, `y = Y / Z³`; `z = 0` is the neutral point. -/
structure Point where
  x : Nat
  y : Nat
  z : Nat

def generator : Point :=
  ⟨0x79be667ef9dcbbac55a06295ce870b07029bfcdb2dce28d959f2815b16f81798,
   0x483ada7726a3c4655da4fbfc0e1108a8fd17b448a68554199c47d08ffb10d4b8, 1⟩

def neutral : Point := ⟨1, 1, 0⟩

private def minus (a b : Nat) : Nat := (a + field - b) % field

def double (p : Point) : Point :=
  if p.z = 0 || p.y = 0 then neutral
  else
    let squareY := p.y * p.y % field
    let s := 4 * p.x * squareY % field
    let m := 3 * p.x * p.x % field
    let x := minus (m * m % field) (2 * s % field)
    ⟨x, minus (m * minus s x % field) (8 * squareY * squareY % field), 2 * p.y * p.z % field⟩

def add (p q : Point) : Point :=
  if p.z = 0 then q
  else if q.z = 0 then p
  else
    let squareP := p.z * p.z % field
    let squareQ := q.z * q.z % field
    let xP := p.x * squareQ % field
    let xQ := q.x * squareP % field
    let yP := p.y * squareQ * q.z % field
    let yQ := q.y * squareP * p.z % field
    if xP = xQ then
      if yP = yQ then double p else neutral
    else
      let h := minus xQ xP
      let r := minus yQ yP
      let squareH := h * h % field
      let cubeH := squareH * h % field
      let base := xP * squareH % field
      let x := minus (minus (r * r % field) cubeH) (2 * base % field)
      ⟨x, minus (r * minus base x % field) (yP * cubeH % field), h * p.z * q.z % field⟩

/-- `scalar · point` by doubling, from the lowest of `bits` bits. -/
def multiply : (bits : Nat) → (scalar : Nat) → (point acc : Point) → Point
  | 0, _, _, acc => acc
  | bits + 1, scalar, point, acc =>
    multiply bits (scalar / 2) (double point) (if scalar % 2 = 1 then add acc point else acc)

/-- Powers modulo a number, from the lowest of `bits` bits of the exponent. -/
def powerMod (modulus : Nat) : (bits : Nat) → (base exponent acc : Nat) → Nat
  | 0, _, _, acc => acc
  | bits + 1, base, exponent, acc =>
    powerMod modulus bits (base * base % modulus) (exponent / 2)
      (if exponent % 2 = 1 then acc * base % modulus else acc)

/-- The inverse modulo a prime below `2 ^ 256`. -/
def inverse (modulus value : Nat) : Nat := powerMod modulus 256 value (modulus - 2) 1

/-- The plain coordinates of a point other than the neutral one. -/
def Point.coordinates (p : Point) : Nat × Nat :=
  let inv := inverse field p.z
  let square := inv * inv % field
  (p.x * square % field, p.y * square * inv % field)

def publicKey (key : Nat) : Nat × Nat := (multiply 256 key generator neutral).coordinates

/-- The account of a key: the last twenty bytes of the digest of its public point. -/
def address (key : Nat) : Address :=
  let (x, y) := publicKey key
  FixedBytes.ofNat 20 (Keccak.digest (Bytes.ofNat 32 x ++ Bytes.ofNat 32 y)).toNat

/-- A signature; `odd` is the parity of the nonce point's `y`. -/
structure Signature where
  r : Nat
  s : Nat
  odd : Bool
  deriving DecidableEq, Repr

/-- The chain of keyed digests from which nonces are drawn. -/
structure NonceSource where
  key : Bytes
  value : Bytes

def NonceSource.start (key digest : Bytes) : NonceSource :=
  let value := List.replicate 32 0x01
  let seed := key ++ Bytes.ofNat 32 (Bytes.toNat digest % order)
  let first := Sha256.keyed (Bytes.zeros 32) (value ++ 0x00 :: seed)
  let value := Sha256.keyed first value
  let second := Sha256.keyed first (value ++ 0x01 :: seed)
  ⟨second, Sha256.keyed second value⟩

def NonceSource.draw (source : NonceSource) : Nat × NonceSource :=
  let value := Sha256.keyed source.key source.value
  (Bytes.toNat value, ⟨source.key, value⟩)

def NonceSource.skip (source : NonceSource) : NonceSource :=
  let key := Sha256.keyed source.key (source.value ++ [0x00])
  ⟨key, Sha256.keyed key source.value⟩

/-- The signature of `digest` with the given nonce. -/
def signWith (key : Nat) (digest : Nat) (nonce : Nat) : Signature :=
  let (x, y) := (multiply 256 nonce generator neutral).coordinates
  let r := x % order
  let s := inverse order nonce * ((digest + r * key) % order) % order
  let high := order / 2 < s
  ⟨r, if high then order - s else s, (y % 2 = 1) != high⟩

/-- Draw nonces until one is in range; the first argument bounds the draws. -/
def signFrom (key digest : Nat) : Nat → NonceSource → Signature
  | 0, _ => ⟨0, 0, false⟩
  | draws + 1, source =>
    let (nonce, next) := source.draw
    if nonce = 0 || order ≤ nonce then signFrom key digest draws next.skip
    else signWith key digest nonce

/-- Sign a 32-byte digest. -/
def sign (key : Nat) (digest : Hash) : Signature :=
  signFrom key (digest.toNat % order) 64
    (NonceSource.start (Bytes.ofNat 32 key) digest.bytes)

/-- `r ‖ s ‖ v` with `v` 27 for an even and 28 for an odd nonce point. -/
def Signature.bytes (signature : Signature) : Bytes :=
  Bytes.ofNat 32 signature.r ++ Bytes.ofNat 32 signature.s
    ++ [if signature.odd then 28 else 27]

end PriceRelay.Secp256k1
