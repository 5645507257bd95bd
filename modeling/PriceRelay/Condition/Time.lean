import PriceRelay.Condition.Check
/-!
The heartbeat: a feed is due once its interval, and the offset of a backup on top, has passed since
the last update.
-/

namespace PriceRelay.Condition

/-- Has the heartbeat passed? A heartbeat of zero always has. -/
def timeDue (heartbeat last now offset : Millis) : Bool :=
  Millis.plus heartbeat offset ≤ now - last

def time (heartbeat last now offset : Millis) : Check :=
  let lead := if 0 < offset then "Fallback time condition: " else ""
  let due := timeDue heartbeat last now offset
  let verdict := if due then "Enough time passed" else "Not enough time has passed"
  { fires := due
    messages := [s!"{lead}{verdict} to update prices "
      ++ s!"(heartbeat {heartbeat} ms, {now - last} ms since last update)"] }

end PriceRelay.Condition
