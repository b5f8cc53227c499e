/-
  `Decimal` — writing integers in base ten, and three ways of reading them.

  Writing is canonical: no leading zero, no plus sign. Reading is either exact
  (`readInt64?`: the whole text is one integer in range) or lenient
  (`leadingInt64`: the integer a text starts with, zero if there is none,
  saturating instead of overflowing).
-/
import FanControl.Text.Blank

namespace FanControl.Text.Decimal

/-! ### Writing -/

/-- The digits of a natural number, most significant first. -/
def digits (n : Nat) : List Char := Nat.toDigits 10 n

/-- An integer: its digits, after a minus sign if it is negative. -/
def signed (i : Int) : List Char :=
  if i < 0 then '-' :: digits i.natAbs else digits i.natAbs

/-- A natural number as text. -/
def ofNat (n : Nat) : String := String.ofList (digits n)

/-- An integer as text. -/
def ofInt (i : Int) : String := String.ofList (signed i)

/-- The digits of `n`, with zeros in front up to `width` characters. -/
def padded (width n : Nat) : List Char :=
  List.replicate (width - (digits n).length) '0' ++ digits n

/-! ### Reading the whole text -/

/-- The value of a digit. -/
def digitValue (c : Char) : Nat := c.toNat - '0'.toNat

/-- The number that a run of digits denotes, without any bound. -/
def value (ds : List Char) : Nat := ds.foldl (fun n d => n * 10 + digitValue d) 0

/-- The number that a run of digits denotes, or `cap` if that is less. No step leaves the range, so
a run may be of any length. -/
def valueUpTo (cap : Nat) (ds : List Char) : Nat :=
  ds.foldl (fun n d => min (n * 10 + digitValue d) cap) 0

/-- Stopping at `cap` in every step is stopping there once. -/
theorem valueUpTo_eq_min (cap : Nat) (ds : List Char) :
    valueUpTo cap ds = min (value ds) cap := by
  suffices h : ∀ n, ds.foldl (fun n d => min (n * 10 + digitValue d) cap) (min n cap) =
      min (ds.foldl (fun n d => n * 10 + digitValue d) n) cap by
    simpa [valueUpTo, value] using h 0
  induction ds with
  | nil => simp
  | cons d ds ih =>
    intro n
    have hd : min (min n cap * 10 + digitValue d) cap = min (n * 10 + digitValue d) cap := by omega
    simp only [List.foldl_cons, hd, ih]

/-- One or more digits, as a natural number below `bound`. -/
def readNat? (bound : Nat) (s : List Char) : Option Nat :=
  if s ≠ [] && s.all Char.isDigit then
    let n := valueUpTo bound s
    if n < bound then some n else none
  else none

/-- An integer in the 64-bit range. -/
def int64? (i : Int) : Option Int64 :=
  if -0x8000000000000000 ≤ i ∧ i < 0x8000000000000000 then some (Int64.ofInt i) else none

/-- An optional sign, then one or more digits, and the result in range. -/
def readInt64? : List Char → Option Int64
  | '-' :: ds => (readNat? 0x8000000000000001 ds).bind fun n => int64? (-(n : Int))
  | '+' :: ds => (readNat? 0x8000000000000000 ds).bind fun n => int64? n
  | ds => (readNat? 0x8000000000000000 ds).bind fun n => int64? n

/-! ### Reading what a text starts with -/

/-- The largest 64-bit integer, `2 ^ 63 - 1`. -/
def maxInt64 : Nat := 0x7fffffffffffffff

/-- The magnitude of the digits that a text starts with, at most `maxInt64`. -/
def leadingMagnitude (s : List Char) : Nat :=
  valueUpTo maxInt64 (s.takeWhile Char.isDigit)

/-- Whether a text starts with a minus sign, and what follows an optional sign. -/
def splitSign : List Char → Bool × List Char
  | '-' :: rest => (true, rest)
  | '+' :: rest => (false, rest)
  | rest => (false, rest)

/-- The integer that a text starts with: white space is skipped, then an optional sign, then
digits up to the first other character. Zero if there is no digit. -/
def leadingInt64 (s : List Char) : Int64 :=
  let (negative, rest) := splitSign (trimStart s)
  let n : Int := leadingMagnitude rest
  Int64.ofInt (if negative then -n else n)

end FanControl.Text.Decimal
