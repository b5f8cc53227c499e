import FanControl.Proofs.Decimal
import Mathlib.Data.List.DropRight

/-!
# The ends of a text

Cutting characters off the end of a text leaves the one text that stands before such characters and
does not end in one of them (`dropEndWhile_eq_iff`). Cutting them off both ends leaves the one text
between such characters that neither begins nor ends with one of them (`strip_eq_iff`). The integer
that a text starts with does not depend on white space at the end either
(`Decimal.leadingInt64_append`), nor on what follows a character that cannot belong to an integer
(`Decimal.leadingInt64_append_cons`).
-/

namespace FanControl.Text

variable {p q : Char → Bool} {s t cut : List Char}

/-! ### One end -/

theorem dropEndWhile_eq_rdropWhile (p : Char → Bool) (s : List Char) :
    dropEndWhile p s = s.rdropWhile p := rfl

/-- Characters that would be cut off may be added at the end. -/
theorem dropEndWhile_append (h : ∀ c ∈ cut, p c = true) :
    dropEndWhile p (s ++ cut) = dropEndWhile p s := by
  rw [dropEndWhile, List.reverse_append, List.dropWhile_append_of_pos, dropEndWhile]
  exact fun c hc => h c (List.mem_reverse.mp hc)

/-- **What is left is what stands before the characters that are cut off**, and it does not end in
one of them. -/
theorem dropEndWhile_eq_iff :
    dropEndWhile p s = t ↔
      (∃ cut, (∀ c ∈ cut, p c = true) ∧ s = t ++ cut) ∧ ∀ c ∈ t.getLast?, p c = false := by
  rw [dropEndWhile_eq_rdropWhile]
  constructor
  · rintro rfl
    refine ⟨⟨s.rtakeWhile p, fun c => List.mem_rtakeWhile_imp,
      List.rdropWhile_append_rtakeWhile.symm⟩, fun c hc => ?_⟩
    -- the last character that is left is where the cutting stopped
    have hne : s.rdropWhile p ≠ [] := by
      intro hnil
      rw [hnil] at hc
      cases hc
    rw [Option.mem_def, List.getLast?_eq_some_getLast hne, Option.some.injEq] at hc
    exact hc ▸ Bool.eq_false_iff.mpr (List.rdropWhile_last_not p s hne)
  · rintro ⟨⟨cut, hcut, rfl⟩, hlast⟩
    rw [← dropEndWhile_eq_rdropWhile, dropEndWhile_append hcut, dropEndWhile_eq_rdropWhile,
      List.rdropWhile_eq_self_iff]
    intro hne
    exact Bool.eq_false_iff.mp (hlast _ (List.getLast?_eq_some_getLast hne))

/-- What stands before a text is not cut if it does not end in such a character. -/
theorem dropEndWhile_append_left (hlast : ∀ c ∈ s.getLast?, p c = false) :
    dropEndWhile p (s ++ t) = s ++ dropEndWhile p t := by
  obtain ⟨⟨cut, hcut, ht⟩, hrest⟩ := dropEndWhile_eq_iff.mp (rfl : dropEndWhile p t = _)
  refine dropEndWhile_eq_iff.mpr ⟨⟨cut, hcut, ?_⟩, fun c hc => ?_⟩
  · rw [List.append_assoc, ← ht]
  · rw [List.getLast?_append, Option.mem_def, Option.or_eq_some_iff] at hc
    rcases hc with hc | ⟨-, hc⟩
    · exact hrest c hc
    · exact hlast c hc

/-- Cutting off fewer characters first makes no difference. -/
theorem dropEndWhile_dropEndWhile (h : ∀ c, p c = true → q c = true) :
    dropEndWhile q (dropEndWhile p s) = dropEndWhile q s := by
  obtain ⟨⟨cut, hcut, hs⟩, -⟩ := dropEndWhile_eq_iff.mp (rfl : dropEndWhile p s = _)
  conv_rhs => rw [hs]
  exact (dropEndWhile_append fun c hc => h c (hcut c hc)).symm

/-! ### Both ends -/

/-- A text stays as it is if it neither begins nor ends with a character to cut off, and only
then. -/
theorem strip_eq_self_iff :
    strip p s = s ↔ (∀ c ∈ s.head?, p c = false) ∧ ∀ c ∈ s.getLast?, p c = false := by
  have hdrop : s.dropWhile p = s ↔ ∀ c ∈ s.head?, p c = false := by
    cases s with
    | nil => simp
    | cons c s => simp
  constructor
  · intro h
    -- nothing was cut in front, as what is left would be shorter than the text
    have hself : s.dropWhile p = s := by
      refine (List.dropWhile_suffix p).eq_of_length_le ?_
      conv_lhs => rw [← h]
      exact (List.rdropWhile_prefix p _).length_le
    rw [strip, hself, dropEndWhile_eq_iff] at h
    exact ⟨hdrop.mp hself, h.2⟩
  · rintro ⟨hhead, hlast⟩
    rw [strip, hdrop.mpr hhead]
    exact dropEndWhile_eq_iff.mpr
      ⟨⟨[], List.forall_mem_nil _, (List.append_nil s).symm⟩, hlast⟩

/-- What has been cut at both ends is not cut again. -/
theorem strip_strip (p : Char → Bool) (s : List Char) : strip p (strip p s) = strip p s := by
  refine strip_eq_self_iff.mpr ⟨fun c hc => ?_, fun c hc => ?_⟩
  · -- it starts as the text does without what is cut off in front
    obtain ⟨rest, hrest⟩ := List.rdropWhile_prefix p (s.dropWhile p)
    have hhead := List.head?_dropWhile_not p s
    rw [strip, dropEndWhile_eq_rdropWhile, Option.mem_def] at hc
    rw [← hrest, List.head?_append, hc, Option.some_or] at hhead
    exact hhead
  · exact (dropEndWhile_eq_iff.mp (rfl : dropEndWhile p (s.dropWhile p) = _)).2 c hc

/-- Characters that would be cut off may be added at the end. -/
theorem strip_append (h : ∀ c ∈ cut, p c = true) : strip p (s ++ cut) = strip p s := by
  rw [strip, List.dropWhile_append]
  split
  · next hs =>
    rw [List.isEmpty_iff] at hs
    rw [strip, hs, List.dropWhile_eq_nil_iff.mpr h]
  · exact dropEndWhile_append h

/-- Characters that would be cut off may be added in front. -/
theorem strip_prepend (h : ∀ c ∈ cut, p c = true) : strip p (cut ++ s) = strip p s := by
  rw [strip, List.dropWhile_append_of_pos h, strip]

/-- **What is left is what stands between the characters that are cut off**, and it neither begins
nor ends with one of them. -/
theorem strip_eq_iff :
    strip p s = t ↔
      (∃ front back, (∀ c ∈ front, p c = true) ∧ (∀ c ∈ back, p c = true) ∧
        s = front ++ t ++ back) ∧
      (∀ c ∈ t.head?, p c = false) ∧ ∀ c ∈ t.getLast?, p c = false := by
  constructor
  · rintro rfl
    have hcut : dropEndWhile p (s.dropWhile p) = strip p s := rfl
    obtain ⟨⟨back, hback, hdrop⟩, -⟩ := dropEndWhile_eq_iff.mp hcut
    -- what was cut in front and behind stands around the rest
    have hfront : ∀ c ∈ s.takeWhile p, p c = true := fun c hc => List.mem_takeWhile_imp hc
    have hs : s = s.takeWhile p ++ strip p s ++ back := by
      rw [List.append_assoc, ← hdrop, List.takeWhile_append_dropWhile]
    exact ⟨⟨s.takeWhile p, back, hfront, hback, hs⟩, strip_eq_self_iff.mp (strip_strip p s)⟩
  · rintro ⟨⟨front, back, hfront, hback, rfl⟩, hends⟩
    rw [List.append_assoc, strip_prepend hfront, strip_append hback, strip_eq_self_iff]
    exact hends

/-- A text in front stays as it is if it neither begins nor ends with a character to cut off. -/
theorem strip_append_left (hne : s ≠ []) (hhead : ∀ c ∈ s.head?, p c = false)
    (hlast : ∀ c ∈ s.getLast?, p c = false) :
    strip p (s ++ t) = s ++ dropEndWhile p t := by
  obtain ⟨c, s, rfl⟩ := List.exists_cons_of_ne_nil hne
  have hc : p c = false := hhead c rfl
  rw [strip, List.cons_append, List.dropWhile_cons_of_neg (by simp [hc]), ← List.cons_append]
  exact dropEndWhile_append_left hlast

/-! ### Integers -/

namespace Decimal

theorem isDigit_of_isBlank {c : Char} (h : isBlank c = true) : c.isDigit = false := by
  by_contra hdigit
  have hblank := isBlank_of_isDigit (Bool.of_not_eq_false hdigit)
  rw [h] at hblank
  cases hblank

/-- The digits that a text starts with end before any other character. -/
theorem takeWhile_isDigit_append (hcut : ∀ c ∈ cut.head?, c.isDigit = false) :
    (s ++ cut).takeWhile Char.isDigit = s.takeWhile Char.isDigit := by
  have hnone : cut.takeWhile Char.isDigit = [] := by
    cases cut with
    | nil => rfl
    | cons c cut =>
      have hc : c.isDigit = false := hcut c rfl
      rw [List.takeWhile_cons_of_neg (by simp [hc])]
  rw [List.takeWhile_append]
  split
  · -- the text is all digits, and the end adds none
    next hlength =>
    rw [hnone, List.append_nil]
    exact ((List.takeWhile_prefix _).eq_of_length hlength).symm
  · rfl

/-- A character that is no sign is not cut off. -/
theorem splitSign_cons {c : Char} (hminus : c ≠ '-') (hplus : c ≠ '+') (s : List Char) :
    splitSign (c :: s) = (false, c :: s) :=
  splitSign.eq_3 _ (fun _ h => hminus (List.cons.inj h).1) fun _ h => hplus (List.cons.inj h).1

/-- A text that is added at the end does not matter to the sign. -/
theorem splitSign_append (hne : s ≠ []) (cut : List Char) :
    splitSign (s ++ cut) = ((splitSign s).1, (splitSign s).2 ++ cut) := by
  obtain ⟨c, s, rfl⟩ := List.exists_cons_of_ne_nil hne
  by_cases hminus : c = '-'
  · subst hminus
    rfl
  by_cases hplus : c = '+'
  · subst hplus
    rfl
  · rw [List.cons_append, splitSign_cons hminus hplus, splitSign_cons hminus hplus]
    rfl

theorem leadingInt64_eq (s : List Char) :
    leadingInt64 s =
      Int64.ofInt (if (splitSign (trimStart s)).1 then
        -(leadingMagnitude (splitSign (trimStart s)).2 : Int)
      else leadingMagnitude (splitSign (trimStart s)).2) := rfl

/-- What stands behind a sign or a digit does not matter if no further digit comes first. -/
theorem leadingInt64_append_of_trimStart (hs : trimStart s ≠ [])
    (hcut : ∀ c ∈ cut.head?, c.isDigit = false) : leadingInt64 (s ++ cut) = leadingInt64 s := by
  have hstart : trimStart (s ++ cut) = trimStart s ++ cut := by
    rw [trimStart, List.dropWhile_append, if_neg (by rwa [List.isEmpty_iff]), trimStart]
  rw [leadingInt64_eq, leadingInt64_eq, hstart, splitSign_append hs]
  simp only [leadingMagnitude, takeWhile_isDigit_append hcut]

/-- **White space at the end does not matter** to the integer that a text starts with. -/
theorem leadingInt64_append (hcut : ∀ c ∈ cut, isBlank c = true) :
    leadingInt64 (s ++ cut) = leadingInt64 s := by
  by_cases hs : trimStart s = []
  · have hstart : trimStart (s ++ cut) = [] := by
      rw [trimStart, List.dropWhile_append_of_pos (List.dropWhile_eq_nil_iff.mp hs)]
      exact List.dropWhile_eq_nil_iff.mpr hcut
    rw [leadingInt64_eq, leadingInt64_eq, hstart, hs]
  · apply leadingInt64_append_of_trimStart hs
    intro c hc
    exact isDigit_of_isBlank (hcut c (List.mem_of_head? hc))

/-- **The integer ends before a character that is neither white space nor a sign nor a digit**, and
what stands behind that does not matter. -/
theorem leadingInt64_append_cons {c : Char} (hblank : isBlank c = false)
    (hdigit : c.isDigit = false) (hminus : c ≠ '-') (hplus : c ≠ '+') (s rest : List Char) :
    leadingInt64 (s ++ c :: rest) = leadingInt64 s := by
  by_cases hs : trimStart s = []
  · -- there is no integer: the text of the character has neither a sign nor digits
    have hstart : trimStart (s ++ c :: rest) = c :: rest := by
      rw [trimStart, List.dropWhile_append_of_pos (List.dropWhile_eq_nil_iff.mp hs)]
      exact List.dropWhile_cons_of_neg (by simp [hblank])
    have hnone : (c :: rest).takeWhile Char.isDigit = [] :=
      List.takeWhile_cons_of_neg (by simp [hdigit])
    rw [leadingInt64_eq, leadingInt64_eq, hstart, hs, splitSign_cons hminus hplus]
    simp only [leadingMagnitude, hnone]
    rfl
  · apply leadingInt64_append_of_trimStart hs
    rintro d ⟨⟩
    exact hdigit

theorem leadingMagnitude_le (s : List Char) : leadingMagnitude s ≤ maxInt64 := by
  rw [leadingMagnitude, valueUpTo_eq_min]
  exact Nat.min_le_right _ _

/-- The least 64-bit integer is never what a text starts with: the magnitude stops before it. -/
theorem leadingInt64_ne_minValue (s : List Char) : leadingInt64 s ≠ Int64.minValue := by
  intro h
  have hint := congrArg Int64.toInt h
  have hle := leadingMagnitude_le (splitSign (trimStart s)).2
  rw [maxInt64] at hle
  rw [leadingInt64_eq, Int64.toInt_minValue] at hint
  rw [Int64.toInt_ofInt_of_le (by split <;> omega) (by split <;> omega)] at hint
  split at hint <;> omega

end Decimal

end FanControl.Text
