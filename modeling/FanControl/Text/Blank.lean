/-
  `Blank` — white space, and cutting characters off the ends of a text.

  White space is the Unicode property `White_Space`: twenty-five characters, the
  line feed, the no-break space and the ideographic space among them, but no
  zero-width character. Texts are lists of characters here, so that every
  function recurses on its argument.
-/
namespace FanControl.Text

/-! ### The property `White_Space` -/

/-- The code points with the property `White_Space`, as closed ranges. -/
def blankRanges : List (Nat × Nat) :=
  [(0x9, 0xd), (0x20, 0x20), (0x85, 0x85), (0xa0, 0xa0), (0x1680, 0x1680), (0x2000, 0x200a),
   (0x2028, 0x2029), (0x202f, 0x202f), (0x205f, 0x205f), (0x3000, 0x3000)]

/-- White space is what one of the ranges covers. -/
def isBlank (c : Char) : Bool :=
  blankRanges.any fun (lo, hi) => lo ≤ c.toNat && c.toNat ≤ hi

/-! ### Cutting at the ends -/

/-- Drops the characters satisfying `p` from the end. -/
def dropEndWhile (p : Char → Bool) (s : List Char) : List Char :=
  (s.reverse.dropWhile p).reverse

/-- Drops the characters satisfying `p` from both ends. -/
def strip (p : Char → Bool) (s : List Char) : List Char :=
  dropEndWhile p (s.dropWhile p)

/-- The text without leading white space. -/
def trimStart (s : List Char) : List Char := s.dropWhile isBlank

/-- The text without trailing white space. -/
def trimEnd (s : List Char) : List Char := dropEndWhile isBlank s

/-- The text without white space at its ends. -/
def trim (s : List Char) : List Char := strip isBlank s

/-- The characters before the first line feed. -/
def firstLine (s : List Char) : List Char := s.takeWhile (· ≠ '\n')

/-- The rest of `s` after `pre`, if `s` starts with `pre`. -/
def afterPrefix? : List Char → List Char → Option (List Char)
  | [], s => some s
  | _ :: _, [] => none
  | p :: ps, c :: cs => if p = c then afterPrefix? ps cs else none

theorem afterPrefix?_eq_some_iff {pre s rest : List Char} :
    afterPrefix? pre s = some rest ↔ s = pre ++ rest := by
  induction pre generalizing s with
  | nil => simp [afterPrefix?]
  | cons p ps ih =>
    cases s with
    | nil => simp [afterPrefix?]
    | cons c cs =>
      by_cases h : p = c
      · simp [afterPrefix?, h, ih]
      · simp [afterPrefix?, h, Ne.symm h]

end FanControl.Text
