import FanControl.Frequency

/-!
# Frequencies are between 1 and 20

Both ways to a frequency end in the range: `validate` lets a value of the range through as it is
and nothing else (`validate_eq_ok_iff`), and `clamp` takes the nearest value of the range
(`toNat_clampInt`), also after a step that would leave the 64-bit range
(`toNat_clamp_saturatingAdd`).
-/

namespace FanControl.Frequency

/-- The values that are let through. -/
theorem validate_of_mem {value : Int64} (h : 1 ≤ value.toInt ∧ value.toInt ≤ 20) :
    validate value = .ok (UInt8.ofNat value.toInt.toNat) := by
  have hlow : lowest.toNat = 1 := rfl
  have hhigh : highest.toNat = 20 := rfl
  rw [validate, if_neg (by omega)]

/-- The values that are refused. -/
theorem validate_of_not_mem {value : Int64} (h : ¬ (1 ≤ value.toInt ∧ value.toInt ≤ 20)) :
    validate value = .error (.invalidFrequency value 1 20) := by
  have hlow : lowest.toNat = 1 := rfl
  have hhigh : highest.toNat = 20 := rfl
  rw [validate, if_pos (by omega)]
  rfl

/-- Exactly the values of the range are let through, and they are not changed. -/
theorem validate_eq_ok_iff {value : Int64} {hz : UInt8} :
    validate value = .ok hz ↔
      1 ≤ value.toInt ∧ value.toInt ≤ 20 ∧ (hz.toNat : Int) = value.toInt := by
  by_cases h : 1 ≤ value.toInt ∧ value.toInt ≤ 20
  · have hlt : value.toInt.toNat < 256 := by omega
    rw [validate_of_mem h, Except.ok.injEq]
    constructor
    · rintro rfl
      -- no value of the range is cut by the conversion to eight bits
      rw [UInt8.toNat_ofNat_of_lt' hlt]
      omega
    · rintro ⟨-, -, hhz⟩
      apply UInt8.toNat_inj.mp
      rw [UInt8.toNat_ofNat_of_lt' hlt]
      omega
  · rw [validate_of_not_mem h]
    constructor
    · rintro ⟨⟩
    · rintro ⟨hlow, hhigh, -⟩
      exact absurd ⟨hlow, hhigh⟩ h

/-- The nearest frequency of the range. -/
theorem toNat_clampInt (i : Int) : ((clampInt i).toNat : Int) = max 1 (min 20 i) := by
  have hlow : lowest.toNat = 1 := rfl
  have hhigh : highest.toNat = 20 := rfl
  have hlt : max lowest.toNat (min highest.toNat i.toNat) < 256 := by omega
  rw [clampInt, UInt8.toNat_ofNat_of_lt' hlt]
  omega

theorem clamp_mem (value : Int64) : 1 ≤ (clamp value).toNat ∧ (clamp value).toNat ≤ 20 := by
  have h := toNat_clampInt value.toInt
  rw [clamp]
  omega

/-- The sum stays in the 64-bit range. -/
theorem toInt_saturatingAdd (value : Int64) (step : Int) :
    (saturatingAdd value step).toInt =
      max (-0x8000000000000000) (min 0x7fffffffffffffff (value.toInt + step)) := by
  rw [saturatingAdd, Int64.toInt_ofInt_of_le (by omega) (by omega)]

/-- A step lands where the exact sum would, as the limits of the sum lie outside the range. -/
theorem toNat_clamp_saturatingAdd (value : Int64) (step : Int) :
    ((clamp (saturatingAdd value step)).toNat : Int) = max 1 (min 20 (value.toInt + step)) := by
  rw [clamp, toNat_clampInt, toInt_saturatingAdd]
  omega

end FanControl.Frequency
