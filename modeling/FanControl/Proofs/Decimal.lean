import FanControl.Attribute

/-!
# Integers are read back as they were written

Writing is exact: the digits of a number denote that number (`Decimal.value_digits`), no digit and
no sign is white space, and so the text of every 64-bit integer reads as this integer, sign and
limits included (`Decimal.readInt64?_signed`, `AttributeStore.integer?_ofInt`).
-/

namespace FanControl

namespace Text

theorem isBlank_of_isDigit {c : Char} (h : c.isDigit = true) : isBlank c = false := by
  have hrange := Char.isDigit_iff_toNat.mp h
  have hzero : '0'.toNat = 48 := rfl
  have hnine : '9'.toNat = 57 := rfl
  simp only [isBlank, blankRanges, List.any_cons, List.any_nil, Bool.or_false, Bool.or_eq_false_iff,
    Bool.and_eq_false_iff, decide_eq_false_iff_not]
  omega

theorem dropWhile_eq_self {p : Char → Bool} {s : List Char} (h : ∀ c ∈ s, p c = false) :
    s.dropWhile p = s := by
  cases s with
  | nil => rfl
  | cons c s => rw [List.dropWhile_cons_of_neg (by simp [h c (List.mem_cons_self ..)])]

/-- A text without characters to cut stays as it is. -/
theorem strip_eq_self {p : Char → Bool} {s : List Char} (h : ∀ c ∈ s, p c = false) :
    strip p s = s := by
  rw [strip, dropEndWhile, dropWhile_eq_self h,
    dropWhile_eq_self fun c hc => h c (List.mem_reverse.mp hc), List.reverse_reverse]

namespace Decimal

/-! ### Natural numbers -/

theorem digits_ne_nil (n : Nat) : digits n ≠ [] := Nat.toDigits_ne_nil

theorem isDigit_of_mem_digits {n : Nat} {c : Char} (h : c ∈ digits n) : c.isDigit = true :=
  Nat.isDigit_of_mem_toDigits (by decide) (by decide) h

/-- The digits of a number denote it. -/
theorem value_digits (n : Nat) : value (digits n) = n := by
  have hfold : ∀ (ds : List Char) (m : Nat),
      ds.foldl (fun n d => n * 10 + digitValue d) m = Nat.ofDigitChars 10 ds m := by
    intro ds
    induction ds with
    | nil => exact fun m => (Nat.ofDigitChars_nil).symm
    | cons d ds ih =>
      intro m
      rw [List.foldl_cons, ih, Nat.ofDigitChars_cons, Nat.mul_comm m 10, digitValue]
  rw [value, hfold, digits, Nat.ofDigitChars_ten_toDigits]

theorem readNat?_digits {bound n : Nat} (h : n < bound) : readNat? bound (digits n) = some n := by
  have hall : (digits n).all Char.isDigit = true := by
    rw [List.all_eq_true]
    exact fun _ => isDigit_of_mem_digits
  have hvalue : valueUpTo bound (digits n) = n := by
    rw [valueUpTo_eq_min, value_digits]
    omega
  rw [readNat?, if_pos (by simp [digits_ne_nil, hall])]
  simp only [hvalue, if_pos h]

/-! ### Integers -/

/-- A text of digits starts with a digit, not with a sign. -/
theorem digits_eq_cons (n : Nat) :
    ∃ d ds, digits n = d :: ds ∧ d ≠ '-' ∧ d ≠ '+' := by
  obtain ⟨d, ds, hds⟩ := List.exists_cons_of_ne_nil (digits_ne_nil n)
  have hdigit : d.isDigit = true := isDigit_of_mem_digits (n := n) (by simp [hds])
  refine ⟨d, ds, hds, ?_, ?_⟩ <;> rintro rfl <;> cases hdigit

theorem readInt64?_digits (n : Nat) :
    readInt64? (digits n) = (readNat? 0x8000000000000000 (digits n)).bind fun n => int64? n := by
  obtain ⟨d, ds, hds, hminus, hplus⟩ := digits_eq_cons n
  rw [hds]
  exact readInt64?.eq_3 _ (fun ds h => hminus (List.cons.inj h).1)
    fun ds h => hplus (List.cons.inj h).1

/-- **Every 64-bit integer is read back as it was written.** -/
theorem readInt64?_signed {i : Int} (h : -0x8000000000000000 ≤ i ∧ i < 0x8000000000000000) :
    readInt64? (signed i) = some (Int64.ofInt i) := by
  by_cases hneg : i < 0
  · have hread : readNat? 0x8000000000000001 (digits i.natAbs) = some i.natAbs :=
      readNat?_digits (by omega)
    have habs : -(i.natAbs : Int) = i := by omega
    rw [signed, if_pos hneg, readInt64?, hread, Option.bind_some, habs, int64?, if_pos h]
  · have hread : readNat? 0x8000000000000000 (digits i.natAbs) = some i.natAbs :=
      readNat?_digits (by omega)
    have habs : (i.natAbs : Int) = i := by omega
    rw [signed, if_neg hneg, readInt64?_digits, hread, Option.bind_some, habs, int64?, if_pos h]

/-- There is no white space in an integer. -/
theorem isBlank_of_mem_signed {i : Int} {c : Char} (h : c ∈ signed i) : isBlank c = false := by
  rw [signed] at h
  split at h
  · rcases List.mem_cons.mp h with rfl | h
    · decide
    · exact isBlank_of_isDigit (isDigit_of_mem_digits h)
  · exact isBlank_of_isDigit (isDigit_of_mem_digits h)

theorem trim_signed (i : Int) : trim (signed i) = signed i :=
  strip_eq_self fun _ => isBlank_of_mem_signed

end Decimal

end Text

namespace AttributeStore

/-- The text of a 64-bit integer stands for it. -/
theorem integer?_ofInt {i : Int} (h : -0x8000000000000000 ≤ i ∧ i < 0x8000000000000000) :
    integer? (Text.Decimal.ofInt i) = some (Int64.ofInt i) := by
  rw [integer?, Text.Decimal.ofInt, String.toList_ofList, Text.Decimal.trim_signed,
    Text.Decimal.readInt64?_signed h]

/-- The text of a frequency stands for it. -/
theorem integer?_frequency (hz : UInt8) :
    integer? (Frequency.text hz) = some (Int64.ofInt hz.toNat) := by
  have hlt : hz.toNat < 256 := hz.toNat_lt
  have htext : Frequency.text hz = Text.Decimal.ofInt hz.toNat := by
    rw [Frequency.text, Text.Decimal.ofNat, Text.Decimal.ofInt, Text.Decimal.signed,
      if_neg (by omega), Int.natAbs_natCast]
  rw [htext, integer?_ofInt (by omega)]

end AttributeStore

end FanControl
