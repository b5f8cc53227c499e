/-
  `Frequency` — the range of frequencies the controller accepts, in hertz.

  A request from outside the range is refused (`validate`); a button step from
  outside the range lands on its nearest end (`clamp`).
-/
import FanControl.Error

namespace FanControl.Frequency

/-- The lowest frequency accepted. -/
def lowest : UInt8 := 1

/-- The highest frequency accepted. -/
def highest : UInt8 := 20

/-- A requested frequency, if it is in the range. -/
def validate (value : Int64) : Except Error UInt8 :=
  if value.toInt < lowest.toNat ∨ (highest.toNat : Int) < value.toInt then
    .error (.invalidFrequency value lowest highest)
  else .ok (UInt8.ofNat value.toInt.toNat)

/-- The frequency in the range that is nearest to an integer. -/
def clampInt (value : Int) : UInt8 :=
  UInt8.ofNat (max lowest.toNat (min highest.toNat value.toNat))

/-- The frequency in the range that is nearest to a value. -/
def clamp (value : Int64) : UInt8 := clampInt value.toInt

/-- A frequency as text. -/
def text (hz : UInt8) : String := Text.Decimal.ofNat hz.toNat

/-- The sum of a value and a step, kept in the 64-bit range. -/
def saturatingAdd (value : Int64) (step : Int) : Int64 :=
  Int64.ofInt (max (-0x8000000000000000) (min 0x7fffffffffffffff (value.toInt + step)))

end FanControl.Frequency
