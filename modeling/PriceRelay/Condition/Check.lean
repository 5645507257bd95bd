import PriceRelay.Package
/-!
What a condition reports about one feed. Absent data is never an error: the condition does not fire
and says why.
-/

namespace PriceRelay

/-- The kinds of update triggers. -/
inductive ConditionKind where
  | time
  | cron
  | deviation
  deriving DecidableEq, Repr

def ConditionKind.label : ConditionKind → String
  | .time => "time"
  | .cron => "cron"
  | .deviation => "value-deviation"

/-- The outcome of one condition. -/
structure Check where
  fires : Bool := false
  messages : List String := []
  /-- The observed deviation over its threshold. -/
  ratio? : Option Float := none
  deriving DecidableEq

/-- How a backup relayer holds back behind the main one; an offset of zero is no backup. -/
structure Fallback where
  offset : Millis := 0
  /-- A deviation does not fire while the last update is younger than the offset. -/
  skipFrequent : Bool := false
  /-- Past packages are consulted even where the latest ones do not fire. -/
  notLazy : Bool := false
  deriving DecidableEq, Repr

def Fallback.isActive (fallback : Fallback) : Bool := 0 < fallback.offset

end PriceRelay
