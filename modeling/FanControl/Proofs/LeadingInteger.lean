import FanControl.Proofs.TextEnds
import Mathlib.Data.Nat.Digits.Defs

/-!
# The integer that a text starts with is exact

The integer is read digit by digit in 64-bit arithmetic that stops at the limits. A step may stop
twice, at its product and at its sum, and a long run of digits stops again and again; still the
result is that of stopping once, after the digits were read as one natural number
(`toInt_foldl_takeDigit`). As the magnitude is never the least 64-bit integer, the minus sign in
front of it does no harm.

`leadingInt64_exact` puts this together: the result is the number of the digits, as far as 64 bits
allow, with its sign; white space in front, zeros before the digits and the text behind them do not
matter.
-/

namespace FanControl.Text.Decimal

/-! ### 64-bit arithmetic that stops at the limits -/

/-- The 64-bit integer nearest to an integer. -/
def saturate (i : Int) : Int64 :=
  Int64.ofInt (max (-0x8000000000000000) (min 0x7fffffffffffffff i))

/-- One digit more: the product with ten first, then the sum, each as far as 64 bits allow. -/
def takeDigit (n : Int64) (d : Char) : Int64 :=
  saturate ((saturate (n.toInt * 10)).toInt + digitValue d)

/-- The number that digits denote: each digit counts ten times as much as the one after it. -/
def denoted (ds : List Char) : Nat := Nat.ofDigits 10 (ds.reverse.map digitValue)

theorem toInt_saturate (i : Int) :
    (saturate i).toInt = max (-0x8000000000000000) (min 0x7fffffffffffffff i) := by
  rw [saturate, Int64.toInt_ofInt_of_le (by omega) (by omega)]

theorem denoted_concat (ds : List Char) (d : Char) :
    denoted (ds ++ [d]) = denoted ds * 10 + digitValue d := by
  have hreverse : (ds ++ [d]).reverse.map digitValue =
      digitValue d :: ds.reverse.map digitValue := by
    rw [List.reverse_append, List.map_append]
    rfl
  rw [denoted, denoted, hreverse, Nat.ofDigits_cons]
  omega

/-- Reading digits from left to right gives the number that they denote. -/
theorem value_eq_denoted (ds : List Char) : value ds = denoted ds := by
  induction ds using List.reverseRecOn with
  | nil => rfl
  | append_singleton ds d ih =>
    have hvalue : value (ds ++ [d]) = value ds * 10 + digitValue d := by
      simp only [value, List.foldl_append, List.foldl_cons, List.foldl_nil]
    rw [hvalue, denoted_concat, ih]

/-- **Stopping at every step is stopping once.** A step that overflows in its product, or only in
its sum, gives the limit, and so does every step after it. -/
theorem toInt_foldl_takeDigit (ds : List Char) :
    (ds.foldl takeDigit 0).toInt = min (denoted ds : Int) 0x7fffffffffffffff := by
  induction ds using List.reverseRecOn with
  | nil => rfl
  | append_singleton ds d ih =>
    have hstep : (ds ++ [d]).foldl takeDigit 0 = takeDigit (ds.foldl takeDigit 0) d := by
      simp only [List.foldl_append, List.foldl_cons, List.foldl_nil]
    rw [hstep, takeDigit, toInt_saturate, toInt_saturate, ih, denoted_concat]
    push_cast
    omega

/-! ### The parts of a text -/

/-- The sign of the integer that a text starts with. -/
def sign (s : List Char) : Int := if (trimStart s).head? = some '-' then -1 else 1

/-- A text without white space in front and without one sign after that. -/
def unsigned (s : List Char) : List Char :=
  if (trimStart s).head? = some '-' ∨ (trimStart s).head? = some '+' then (trimStart s).tail
  else trimStart s

/-- The digits that a text starts with: the longest run of them after the white space and the sign
that may stand in front. -/
def leadingDigits (s : List Char) : List Char := (unsigned s).takeWhile Char.isDigit

/-- The magnitude of the integer that a text starts with, in 64-bit arithmetic. -/
def magnitude (s : List Char) : Int64 := (leadingDigits s).foldl takeDigit 0

theorem sign_eq (s : List Char) : sign s = -1 ∨ sign s = 1 := by
  rw [sign]
  split
  · exact Or.inl rfl
  · exact Or.inr rfl

theorem splitSign_trimStart (s : List Char) :
    splitSign (trimStart s) = (decide ((trimStart s).head? = some '-'), unsigned s) := by
  rw [unsigned]
  rcases trimStart s with _ | ⟨c, p⟩
  · rfl
  by_cases hminus : c = '-'
  · subst hminus
    rfl
  by_cases hplus : c = '+'
  · subst hplus
    rfl
  · simp [splitSign_cons hminus hplus, hminus, hplus]

/-- The integer is made of a sign and of digits; nothing else of the text matters. -/
theorem leadingInt64_eq_sign_mul (s : List Char) :
    leadingInt64 s =
      Int64.ofInt (sign s * min (denoted (leadingDigits s) : Int) 0x7fffffffffffffff) := by
  have hmagnitude : (leadingMagnitude (unsigned s) : Int) =
      min (denoted (leadingDigits s) : Int) 0x7fffffffffffffff := by
    rw [leadingMagnitude, valueUpTo_eq_min, value_eq_denoted, maxInt64, leadingDigits]
    push_cast
    rfl
  rw [leadingInt64_eq, splitSign_trimStart, hmagnitude, sign]
  by_cases hminus : (trimStart s).head? = some '-'
  · simp [hminus]
  · simp [hminus]

theorem toInt_leadingInt64 (s : List Char) :
    (leadingInt64 s).toInt =
      sign s * min (denoted (leadingDigits s) : Int) 0x7fffffffffffffff := by
  rw [leadingInt64_eq_sign_mul]
  apply Int64.toInt_ofInt_of_le
  · rcases sign_eq s with h | h <;> rw [h] <;> omega
  · rcases sign_eq s with h | h <;> rw [h] <;> omega

/-! ### White space, zeros and what stands behind -/

section Parts

variable {blanks lead zeros digits rest : List Char}

/-- A sign, or none. -/
def IsSign (lead : List Char) : Prop := lead = [] ∨ lead = ['-'] ∨ lead = ['+']

theorem trimStart_append_blanks (hblanks : ∀ c ∈ blanks, isBlank c = true) (t : List Char) :
    trimStart (blanks ++ t) = trimStart t :=
  List.dropWhile_append_of_pos hblanks

/-- A sign and digits are not white space. -/
theorem trimStart_of_digits (hlead : IsSign lead) (hdigits : ∀ c ∈ digits, c.isDigit = true)
    (hne : digits ≠ []) (rest : List Char) :
    trimStart (lead ++ digits ++ rest) = lead ++ digits ++ rest := by
  obtain ⟨d, ds, rfl⟩ := List.exists_cons_of_ne_nil hne
  have hblank : isBlank d = false := isBlank_of_isDigit (hdigits d List.mem_cons_self)
  rcases hlead with rfl | rfl | rfl
  · exact List.dropWhile_cons_of_neg (by simp [hblank])
  · rfl
  · rfl

theorem sign_of_digits (hblanks : ∀ c ∈ blanks, isBlank c = true) (hlead : IsSign lead)
    (hdigits : ∀ c ∈ digits, c.isDigit = true) (hne : digits ≠ []) :
    sign (blanks ++ (lead ++ digits ++ rest)) = if lead = ['-'] then -1 else 1 := by
  rw [sign, trimStart_append_blanks hblanks, trimStart_of_digits hlead hdigits hne]
  obtain ⟨d, ds, rfl⟩ := List.exists_cons_of_ne_nil hne
  have hdigit : d.isDigit = true := hdigits d List.mem_cons_self
  have hminus : d ≠ '-' := by
    rintro rfl
    cases hdigit
  rcases hlead with rfl | rfl | rfl
  · simp [hminus]
  · rfl
  · rfl

theorem leadingDigits_of_digits (hblanks : ∀ c ∈ blanks, isBlank c = true) (hlead : IsSign lead)
    (hdigits : ∀ c ∈ digits, c.isDigit = true) (hne : digits ≠ [])
    (hrest : ∀ c ∈ rest.head?, c.isDigit = false) :
    leadingDigits (blanks ++ (lead ++ digits ++ rest)) = digits := by
  have hunsigned : unsigned (blanks ++ (lead ++ digits ++ rest)) = digits ++ rest := by
    rw [unsigned, trimStart_append_blanks hblanks, trimStart_of_digits hlead hdigits hne]
    obtain ⟨d, ds, rfl⟩ := List.exists_cons_of_ne_nil hne
    have hdigit : d.isDigit = true := hdigits d List.mem_cons_self
    -- a digit is no sign, so without a sign nothing is dropped
    have hsign : ¬ (d = '-' ∨ d = '+') := by
      rintro (rfl | rfl) <;> cases hdigit
    rcases hlead with rfl | rfl | rfl
    · simp only [List.nil_append, List.cons_append, List.head?_cons, Option.some.injEq,
        if_neg hsign]
    · rfl
    · rfl
  rw [leadingDigits, hunsigned, takeWhile_isDigit_append hrest]
  exact List.takeWhile_eq_self_iff.mpr hdigits

/-- Zeros in front do not change the number. -/
theorem denoted_zeros_append (hzeros : ∀ c ∈ zeros, c = '0') (digits : List Char) :
    denoted (zeros ++ digits) = denoted digits := by
  have hzero : zeros.foldl (fun n d => n * 10 + digitValue d) 0 = 0 := by
    induction zeros with
    | nil => rfl
    | cons c zeros ih =>
      rw [List.forall_mem_cons] at hzeros
      obtain ⟨rfl, hzeros⟩ := hzeros
      exact ih hzeros
  rw [← value_eq_denoted, ← value_eq_denoted, value, List.foldl_append, hzero, value]

/-- **Only the sign and the digits matter**: not the white space before them, nor zeros before the
digits, nor what stands behind. -/
theorem leadingInt64_of_digits (hblanks : ∀ c ∈ blanks, isBlank c = true) (hlead : IsSign lead)
    (hzeros : ∀ c ∈ zeros, c = '0') (hdigits : ∀ c ∈ digits, c.isDigit = true)
    (hne : digits ≠ []) (hrest : ∀ c ∈ rest.head?, c.isDigit = false) :
    leadingInt64 (blanks ++ lead ++ zeros ++ digits ++ rest) = leadingInt64 (lead ++ digits) := by
  have hall : ∀ c ∈ zeros ++ digits, c.isDigit = true := by
    intro c hc
    rcases List.mem_append.mp hc with hc | hc
    · rw [hzeros c hc]
      rfl
    · exact hdigits c hc
  have hshape : blanks ++ lead ++ zeros ++ digits ++ rest =
      blanks ++ (lead ++ (zeros ++ digits) ++ rest) := by
    simp only [List.append_assoc]
  -- the plain text has the same shape, with no white space, no zeros and nothing behind it
  have hplain : lead ++ digits = [] ++ (lead ++ digits ++ []) := by
    rw [List.nil_append, List.append_nil]
  have hnil : ∀ c ∈ ([] : List Char), isBlank c = true := List.forall_mem_nil _
  have hnone : ∀ c ∈ ([] : List Char).head?, c.isDigit = false := nofun
  rw [hshape, hplain, leadingInt64_eq_sign_mul, leadingInt64_eq_sign_mul,
    sign_of_digits hblanks hlead hall (by simp [hne]), sign_of_digits hnil hlead hdigits hne,
    leadingDigits_of_digits hblanks hlead hall (by simp [hne]) hrest,
    leadingDigits_of_digits hnil hlead hdigits hne hnone, denoted_zeros_append hzeros]

end Parts

/-! ### The main statement -/

/-- What holds of the integer that a text starts with. -/
structure LeadingInteger (s : List Char) : Prop where
  /-- It is the number of the digits with its sign, as far as 64 bits allow. -/
  number : (leadingInt64 s).toInt = sign s * min (denoted (leadingDigits s) : Int) (2 ^ 63 - 1)
  /-- This is what 64-bit arithmetic gives, digit by digit and with the minus sign at the end. -/
  machine : leadingInt64 s = if sign s = -1 then -magnitude s else magnitude s
  /-- After any of the digits, what has been read is their number or the limit. -/
  steps : ∀ ds, ds <+: leadingDigits s →
    (ds.foldl takeDigit 0).toInt = min (denoted ds : Int) (2 ^ 63 - 1)
  /-- The minus sign does not wrap around. -/
  negation : (-magnitude s).toInt = -(magnitude s).toInt
  /-- The least 64-bit integer is out of reach. -/
  range : -(2 ^ 63 - 1) ≤ (leadingInt64 s).toInt ∧ (leadingInt64 s).toInt ≤ 2 ^ 63 - 1
  /-- Behind digits the text does not matter, nor do white space and zeros before them. -/
  behind : ∀ blanks lead zeros digits, (∀ c ∈ blanks, isBlank c = true) → IsSign lead →
    (∀ c ∈ zeros, c = '0') → (∀ c ∈ digits, c.isDigit = true) → digits ≠ [] →
    (∀ c ∈ s.head?, c.isDigit = false) →
    leadingInt64 (blanks ++ lead ++ zeros ++ digits ++ s) = leadingInt64 (lead ++ digits)

/-- **The integer that a text starts with is exact**, whatever the text and however long its run of
digits. -/
theorem leadingInt64_exact (s : List Char) : LeadingInteger s := by
  have hmagnitude : (magnitude s).toInt =
      min (denoted (leadingDigits s) : Int) 0x7fffffffffffffff :=
    toInt_foldl_takeDigit (leadingDigits s)
  have hnegation : (-magnitude s).toInt = -(magnitude s).toInt := by
    -- the magnitude is not negative, so its opposite is in range
    rw [Int64.toInt_neg, hmagnitude]
    apply Int.bmod_eq_of_le
    · omega
    · omega
  exact {
    number := toInt_leadingInt64 s
    machine := by
      apply Int64.toInt_inj.mp
      rw [toInt_leadingInt64, ← hmagnitude]
      rcases sign_eq s with h | h
      · rw [h, if_pos rfl, hnegation]
        omega
      · rw [h, if_neg (by decide)]
        omega
    steps := fun ds _ => toInt_foldl_takeDigit ds
    negation := hnegation
    range := by
      rw [toInt_leadingInt64, ← hmagnitude]
      rcases sign_eq s with h | h <;> rw [h] <;> omega
    behind := fun _ _ _ _ hblanks hlead hzeros hdigits hne hrest =>
      leadingInt64_of_digits hblanks hlead hzeros hdigits hne hrest }

example : leadingInt64 "\u3000-0042 Hz".toList = -42 := by decide

example : leadingInt64 "9223372036854775808".toList = 0x7fffffffffffffff := by decide

end FanControl.Text.Decimal
