import PriceRelay.World
/-!
Signs of life: a call to a server that notices when they stop. What becomes of a call is reported,
and nothing else depends on it.
-/

namespace PriceRelay.Health

def sent : Event := ⟨.health, .debug, "Healthcheck ping sent", ""⟩

def rejected (answer : WebAnswer) : Event :=
  ⟨.health, .warn, "Healthcheck ping rejected", answer.statusText⟩

def failed : Event := ⟨.health, .warn, "Healthcheck ping failed", ""⟩

/-- Give a sign of life, where there is someone to notice. -/
def ping (url? : Option String) (limit : Millis) : Task Unit :=
  match url? with
  | none => .done ()
  | some url =>
    (Activity.within limit (Task.fetch { method := .get, url })).bind fun
      | some (.ok answer) => Task.note (if answer.isSuccess then sent else rejected answer)
      | _ => Task.note failed

end PriceRelay.Health
