/-
  `Duration` — a span of time in whole seconds and nanoseconds.

  Seconds are bounded by `2 ^ 64`, nanoseconds by one second. Addition carries
  and stops at the longest duration, subtraction borrows and stops at zero; the
  view `toNanos` is the unbounded number of nanoseconds that all laws speak of.
-/
import FanControl.Text.Decimal

namespace FanControl

/-- A span of time below `2 ^ 64` seconds. -/
@[ext] structure Duration where
  /-- Whole seconds. -/
  secs : Nat
  /-- Nanoseconds beyond the whole seconds. -/
  nanos : Nat
  secs_lt : secs < 0x10000000000000000
  nanos_lt : nanos < 1000000000
deriving DecidableEq, Repr

namespace Duration

/-! ### Values -/

/-- The empty duration. -/
def zero : Duration := ⟨0, 0, by decide, by decide⟩

/-- The longest duration. -/
def longest : Duration := ⟨0xffffffffffffffff, 999999999, by decide, by decide⟩

/-- The number of nanoseconds, without bound. -/
def toNanos (d : Duration) : Nat := d.secs * 1000000000 + d.nanos

/-- Seconds and nanoseconds, surplus nanoseconds carried into the seconds; none if too long. -/
def make? (secs nanos : Nat) : Option Duration :=
  if h : secs + nanos / 1000000000 < 0x10000000000000000 then
    some ⟨secs + nanos / 1000000000, nanos % 1000000000, h, Nat.mod_lt _ (by decide)⟩
  else none

/-- A number of milliseconds. -/
def ofMillis (ms : UInt64) : Duration :=
  ⟨ms.toNat / 1000, ms.toNat % 1000 * 1000000,
    Nat.lt_of_le_of_lt (Nat.div_le_self ..) ms.toNat_lt, by omega⟩

/-- The whole milliseconds of a duration. -/
def millis (d : Duration) : Nat := d.secs * 1000 + d.nanos / 1000000

/-! ### Order -/

/-- Shorter: fewer seconds, or as many and fewer nanoseconds. -/
def lt (a b : Duration) : Bool := a.secs < b.secs || (a.secs == b.secs && a.nanos < b.nanos)

/-- The duration nearest to `d` between `lo` and `hi`. -/
def clamp (d lo hi : Duration) : Duration :=
  if d.lt lo then lo else if hi.lt d then hi else d

/-! ### Saturating arithmetic -/

/-- The sum, or the longest duration if the sum is longer. -/
def saturatingAdd (a b : Duration) : Duration :=
  let nanos := a.nanos + b.nanos
  let secs := a.secs + b.secs + nanos / 1000000000
  if h : secs < 0x10000000000000000 then
    ⟨secs, nanos % 1000000000, h, Nat.mod_lt _ (by decide)⟩
  else longest

/-- The difference, or the empty duration if `b` is longer. -/
def saturatingSub (a b : Duration) : Duration :=
  if a.lt b then zero
  else if a.nanos < b.nanos then
    ⟨a.secs - b.secs - 1, (a.nanos + 1000000000 - b.nanos) % 1000000000,
      by have := a.secs_lt; omega, Nat.mod_lt _ (by decide)⟩
  else
    ⟨a.secs - b.secs, a.nanos - b.nanos, by have := a.secs_lt; omega,
      by have := a.nanos_lt; omega⟩

/-! ### Text -/

/-- A whole part and, if it is not zero, a fraction of `width` places without trailing zeros. -/
def amount (whole : Nat) (width fraction : Nat) : List Char :=
  let places := Text.dropEndWhile (· == '0') (Text.Decimal.padded width fraction)
  Text.Decimal.digits whole ++ if places.isEmpty then [] else '.' :: places

/-- The duration in the largest unit that gives a whole part: seconds, milliseconds,
microseconds or nanoseconds. -/
def text (d : Duration) : String :=
  if d.secs > 0 then String.ofList (amount d.secs 9 d.nanos) ++ "s"
  else if d.nanos ≥ 1000000 then
    String.ofList (amount (d.nanos / 1000000) 6 (d.nanos % 1000000)) ++ "ms"
  else if d.nanos ≥ 1000 then
    String.ofList (amount (d.nanos / 1000) 3 (d.nanos % 1000)) ++ "µs"
  else Text.Decimal.ofNat d.nanos ++ "ns"

end Duration

end FanControl
