import PriceRelay.Package
/-!
Durations in words: whole and broken seconds, or milliseconds below one second.
-/

namespace PriceRelay.Text

private def padded (width value : Nat) : String :=
  let text := toString value
  String.ofList (List.replicate (width - text.length) '0') ++ text

/-- A fraction of a second in thousandths without zeros at its end. -/
private def fraction (millis : Nat) : String :=
  if millis = 0 then ""
  else if millis % 100 = 0 then "." ++ toString (millis / 100)
  else if millis % 10 = 0 then "." ++ padded 2 (millis / 10)
  else "." ++ padded 3 millis

def duration (millis : Millis) : String :=
  if millis = 0 then "0ns"
  else if millis < 1000 then s!"{millis}ms"
  else toString (millis / 1000) ++ fraction (millis % 1000) ++ "s"

end PriceRelay.Text
