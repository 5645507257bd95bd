/-!
The count of an account's transactions, as its sender keeps it. It starts over after `2 ^ 64`.
-/

namespace PriceRelay

structure NonceCounter where
  current : UInt64
  deriving DecidableEq, Repr

namespace NonceCounter

/-- Take the nonce of the next transaction. -/
def next (counter : NonceCounter) : UInt64 × NonceCounter :=
  (counter.current, ⟨counter.current + 1⟩)

/-- Start again from the count of the chain. -/
def reset (_ : NonceCounter) (count : UInt64) : NonceCounter := ⟨count⟩

end NonceCounter

end PriceRelay
