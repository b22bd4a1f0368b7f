/-!
# Durations and instants

Time is counted in whole nanoseconds, so both kinds of time are natural numbers. An instant is the
time since the clock was started, and a duration is the distance between two instants. Instants end
at a horizon: a point of time beyond it does not exist, so a deadline that would lie there never
comes.
-/

namespace SessionPool

namespace Duration

/-- A microsecond. -/
def nanosPerMicro : Nat := 1000

/-- A millisecond. -/
def nanosPerMilli : Nat := 1000000

/-- A second. -/
def nanosPerSecond : Nat := 1000000000

/-- A whole number of seconds. -/
def ofSeconds (seconds : Nat) : Nat := seconds * nanosPerSecond

/-- The longest duration there is: all the seconds a 64-bit word counts, and all the nanoseconds of
one more. It reaches past the horizon from every instant. -/
def longest : Nat := (Nat.pow 2 64 - 1) * nanosPerSecond + (nanosPerSecond - 1)

/-- The characters of a decimal fraction without its trailing zeros. -/
def trimZeros (digits : List Char) : List Char :=
  (digits.reverse.dropWhile (· == '0')).reverse

/-- The digits behind the decimal point of `rest / 10 ^ places`, as many as the value needs. -/
def fractionDigits (rest places : Nat) : List Char :=
  let digits := Nat.toDigits 10 rest
  trimZeros (List.replicate (places - digits.length) '0' ++ digits)

/-- `amount / 10 ^ places` as an exact decimal, without a point where it is whole. -/
def decimalText (amount places : Nat) : String :=
  let whole := Nat.repr (amount / Nat.pow 10 places)
  match fractionDigits (amount % Nat.pow 10 places) places with
  | [] => whole
  | digits => whole ++ "." ++ String.ofList digits

/-- A duration is written in the largest unit of which it holds at least one, as an exact decimal
without trailing zeros. The empty duration is written in nanoseconds. -/
def text (duration : Nat) : String :=
  if nanosPerSecond ≤ duration then decimalText duration 9 ++ "s"
  else if nanosPerMilli ≤ duration then decimalText duration 6 ++ "ms"
  else if nanosPerMicro ≤ duration then decimalText duration 3 ++ "µs"
  else decimalText duration 0 ++ "ns"

end Duration

namespace Instant

/-- The first point of time that does not exist any more. -/
def horizon : Nat := Nat.pow 2 63 * Duration.nanosPerSecond

/-- The instant that lies `duration` after `start`, if it exists. -/
def after? (start duration : Nat) : Option Nat :=
  if start + duration < horizon then some (start + duration) else none

/-- A deadline exists exactly if it lies before the horizon. -/
theorem after?_eq_some_iff {start duration deadline : Nat} :
    after? start duration = some deadline ↔
      start + duration < horizon ∧ deadline = start + duration := by
  unfold after?
  split
  case isTrue inside => simp [inside, eq_comm]
  case isFalse outside => simp [outside]

end Instant

end SessionPool
