/-!
Spans of time in whole milliseconds, and their text.
-/

namespace DefaultGateway.Duration

/-- The digits after the point, without zeros at the end. -/
def fraction (milliseconds : Nat) : List Char :=
  let digits := (Nat.toDigits 10 (1000 + milliseconds)).drop 1
  (digits.reverse.dropWhile (· == '0')).reverse

/-- A span under one second in milliseconds, any other in seconds with as many places as it
needs. -/
def text (milliseconds : Nat) : String :=
  if milliseconds = 0 then "0ns"
  else if milliseconds < 1000 then s!"{milliseconds}ms"
  else
    let seconds := milliseconds / 1000
    match fraction (milliseconds % 1000) with
    | [] => s!"{seconds}s"
    | digits => s!"{seconds}.{String.ofList digits}s"

end DefaultGateway.Duration
