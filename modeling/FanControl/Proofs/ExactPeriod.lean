import FanControl.Period

/-!
# A period is exact up to its bounds

A duration is a pair of bounded numbers: sums carry and stop at the longest duration, differences
borrow and stop at zero. Seen as a number of nanoseconds it is simpler: `Duration.lt` is `<`,
`Duration.clamp` is `max` and `min`, and the two operations are exact up to one `min` and one
truncated subtraction.

No bound of a period is longer than the longest duration, so a sum that stopped there and is then
brought between the bounds is where the exact sum would be. After any changes a period is therefore
what exact arithmetic on natural numbers says (`Period.make_exact`).
-/

namespace FanControl

namespace Duration

/-! ### Durations as numbers -/

variable (a b : Duration)

theorem toNanos_le_longest : a.toNanos ≤ longest.toNanos := by
  have hsecs := a.secs_lt
  have hnanos := a.nanos_lt
  simp only [toNanos, longest]
  omega

theorem lt_iff : a.lt b = true ↔ a.toNanos < b.toNanos := by
  have ha := a.nanos_lt
  have hb := b.nanos_lt
  simp only [lt, toNanos, Bool.or_eq_true, Bool.and_eq_true, decide_eq_true_eq, beq_iff_eq]
  omega

/-- The sum stops at the longest duration. -/
theorem toNanos_saturatingAdd :
    (a.saturatingAdd b).toNanos = min (a.toNanos + b.toNanos) longest.toNanos := by
  have hlongest : longest.toNanos = 18446744073709551615 * 1000000000 + 999999999 := rfl
  unfold saturatingAdd
  dsimp only
  split
  · rw [hlongest]
    simp only [toNanos]
    omega
  · rw [hlongest]
    simp only [toNanos]
    omega

/-- The difference stops at zero. -/
theorem toNanos_saturatingSub : (a.saturatingSub b).toNanos = a.toNanos - b.toNanos := by
  have ha := a.nanos_lt
  have hb := b.nanos_lt
  unfold saturatingSub
  split
  · next hlt =>
    have hlt' := (lt_iff a b).mp hlt
    have hzero : zero.toNanos = 0 := rfl
    omega
  · next hlt =>
    have hle : ¬ a.toNanos < b.toNanos := fun h => hlt ((lt_iff a b).mpr h)
    simp only [toNanos] at hle
    split
    · -- the nanoseconds borrow a second, and there is one
      have hborrow : (a.nanos + 1000000000 - b.nanos) % 1000000000 =
          a.nanos + 1000000000 - b.nanos := Nat.mod_eq_of_lt (by omega)
      simp only [toNanos, hborrow]
      omega
    · simp only [toNanos]
      omega

theorem toNanos_clamp {lo hi : Duration} (h : lo.toNanos ≤ hi.toNanos) :
    (a.clamp lo hi).toNanos = max lo.toNanos (min hi.toNanos a.toNanos) := by
  unfold clamp
  -- `clamp` compares durations field by field; `lt_iff` turns each test into one of numbers
  split
  · next hlow =>
    have hlow' := (lt_iff a lo).mp hlow
    omega
  · next hlow =>
    have hlow' : ¬ a.toNanos < lo.toNanos := fun h => hlow ((lt_iff a lo).mpr h)
    split
    · next hhigh =>
      have hhigh' := (lt_iff hi a).mp hhigh
      omega
    · next hhigh =>
      have hhigh' : ¬ hi.toNanos < a.toNanos := fun h => hhigh ((lt_iff hi a).mpr h)
      omega

/-- Between two bounds, it makes no difference that the sum stops at the longest duration. -/
theorem toNanos_clamp_saturatingAdd {lo hi : Duration} (h : lo.toNanos ≤ hi.toNanos) :
    ((a.saturatingAdd b).clamp lo hi).toNanos =
      max lo.toNanos (min hi.toNanos (a.toNanos + b.toNanos)) := by
  have hlongest := toNanos_le_longest hi
  have hleft : min hi.toNanos (a.toNanos + b.toNanos) ≤ longest.toNanos :=
    Nat.le_trans (Nat.min_le_left ..) hlongest
  rw [toNanos_clamp _ h, toNanos_saturatingAdd, ← Nat.min_assoc, Nat.min_eq_left hleft]

/-- Between two bounds, it makes no difference that the difference stops at zero. -/
theorem toNanos_clamp_saturatingSub {lo hi : Duration} (h : lo.toNanos ≤ hi.toNanos) :
    ((a.saturatingSub b).clamp lo hi).toNanos =
      max lo.toNanos (min hi.toNanos (a.toNanos - b.toNanos)) := by
  rw [toNanos_clamp _ h, toNanos_saturatingSub]

end Duration

namespace Period

/-! ### Exact changes -/

/-- What a change does to a number of nanoseconds between `lo` and `hi`, in exact arithmetic. -/
def Change.exact (lo hi start n : Nat) : Change → Nat
  | .set d => max lo (min hi d.toNanos)
  | .increase d => min hi (n + d.toNanos)
  | .decrease d => max lo (n - d.toNanos)
  | .reset => max lo (min hi start)

/-- The period after some changes. -/
def after (p : Period) (changes : List Change) : Period :=
  changes.foldl (fun p x => (p.apply x).2) p

/-- The period `p` may have come from `fresh` by changes: it is another one at most in its current
value, which is between the bounds. -/
structure From (fresh p : Period) : Prop where
  eq : p = { fresh with current := p.current }
  lowest_le : fresh.lowest.toNanos ≤ p.current.toNanos
  le_highest : p.current.toNanos ≤ fresh.highest.toNanos

/-- Every change answers with the period that is current after it. -/
theorem apply_fst (p : Period) (x : Change) : (p.apply x).1 = (p.apply x).2.current := by
  cases x <;> rfl

/-- A change concerns the current value alone. -/
theorem apply_snd (p : Period) (x : Change) :
    (p.apply x).2 = { p with current := (p.apply x).2.current } := by
  cases x <;> rfl

/-- An exact change stays between the bounds. -/
theorem Change.exact_mem {lo hi start n : Nat} (hbounds : lo ≤ hi) (hlow : lo ≤ n)
    (hhigh : n ≤ hi) (x : Change) : lo ≤ x.exact lo hi start n ∧ x.exact lo hi start n ≤ hi := by
  cases x <;> simp only [Change.exact] <;> omega

/-! ### Exact courses -/

section

variable {fresh p : Period} {start : Nat} (hbounds : fresh.lowest.toNanos ≤ fresh.highest.toNanos)
  (hstart : fresh.initial.toNanos = max fresh.lowest.toNanos (min fresh.highest.toNanos start))
include hbounds hstart

/-- **One change is exact.** -/
theorem toNanos_apply (hp : From fresh p) (x : Change) :
    (p.apply x).2.current.toNanos =
      x.exact fresh.lowest.toNanos fresh.highest.toNanos start p.current.toNanos := by
  -- the bounds and the initial period are those of `fresh`, whatever was done before
  obtain ⟨heq, hlow, hhigh⟩ := hp
  have hlowest : p.lowest = fresh.lowest := by rw [heq]
  have hhighest : p.highest = fresh.highest := by rw [heq]
  have hinitial : p.initial = fresh.initial := by rw [heq]
  cases x with
  | set d =>
    simp only [apply, set]
    rw [hlowest, hhighest, Duration.toNanos_clamp d hbounds, Change.exact]
  | increase d =>
    simp only [apply, increase, set]
    rw [hlowest, hhighest, Duration.toNanos_clamp_saturatingAdd _ _ hbounds, Change.exact]
    omega
  | decrease d =>
    simp only [apply, decrease, set]
    rw [hlowest, hhighest, Duration.toNanos_clamp_saturatingSub _ _ hbounds, Change.exact]
    omega
  | reset =>
    simp only [apply, reset]
    rw [hinitial, hstart, Change.exact]

theorem From.apply (hp : From fresh p) (x : Change) : From fresh (p.apply x).2 := by
  obtain ⟨hlow, hhigh⟩ : fresh.lowest.toNanos ≤ (p.apply x).2.current.toNanos ∧
      (p.apply x).2.current.toNanos ≤ fresh.highest.toNanos := by
    rw [toNanos_apply hbounds hstart hp x]
    exact x.exact_mem hbounds hp.lowest_le hp.le_highest
  refine ⟨?_, hlow, hhigh⟩
  rw [apply_snd, hp.eq]

/-- **Any changes are exact**, and they end between the bounds. -/
theorem From.after (hp : From fresh p) (changes : List Change) :
    From fresh (p.after changes) ∧
      (p.after changes).current.toNanos =
        changes.foldl (Change.exact fresh.lowest.toNanos fresh.highest.toNanos start)
          p.current.toNanos := by
  -- what carries the induction is `From`: the bounds have not changed, and hold
  induction changes generalizing p with
  | nil => exact ⟨hp, rfl⟩
  | cons x changes ih =>
    obtain ⟨hfrom, hexact⟩ := ih (hp.apply hbounds hstart x)
    rw [toNanos_apply hbounds hstart hp x] at hexact
    exact ⟨hfrom, hexact⟩

end

/-- The course of a period made of `initial`, `lo` and `hi`, over any changes. -/
structure Exact (initial lo hi : Duration) (fresh : Period) : Prop where
  /-- The period that is current after some changes is where exact arithmetic gets to. -/
  current : ∀ changes, (fresh.after changes).current.toNanos =
    changes.foldl (Change.exact lo.toNanos hi.toNanos initial.toNanos)
      (max lo.toNanos (min hi.toNanos initial.toNanos))
  /-- It is always between the bounds. -/
  between : ∀ changes, lo.toNanos ≤ (fresh.after changes).current.toNanos ∧
    (fresh.after changes).current.toNanos ≤ hi.toNanos
  /-- One more change answers with the period that is current then. -/
  answer : ∀ changes x, ((fresh.after changes).apply x).1 = (fresh.after (changes ++ [x])).current
  /-- Going back makes the period a fresh one. -/
  reset : ∀ changes, (fresh.after changes).apply .reset = (fresh.current, fresh)

/-- A period that starts between its bounds is exact. -/
theorem exact_of_bounds (fresh : Period) {initial : Duration}
    (hbounds : fresh.lowest.toNanos ≤ fresh.highest.toNanos)
    (hcurrent : fresh.current = fresh.initial)
    (hstart : fresh.initial.toNanos =
      max fresh.lowest.toNanos (min fresh.highest.toNanos initial.toNanos)) :
    Exact initial fresh.lowest fresh.highest fresh := by
  have hlow : fresh.lowest.toNanos ≤ fresh.current.toNanos := by
    rw [hcurrent, hstart]
    exact Nat.le_max_left ..
  have hhigh : fresh.current.toNanos ≤ fresh.highest.toNanos := by
    rw [hcurrent, hstart]
    exact Nat.max_le.mpr ⟨hbounds, Nat.min_le_left ..⟩
  have hfresh : From fresh fresh := ⟨rfl, hlow, hhigh⟩
  refine ⟨fun changes => ?_, fun changes => ?_, fun changes x => ?_, fun changes => ?_⟩
  · rw [(hfresh.after hbounds hstart changes).2, hcurrent, hstart]
  · have hafter := (hfresh.after hbounds hstart changes).1
    exact ⟨hafter.lowest_le, hafter.le_highest⟩
  · have hsnoc : fresh.after (changes ++ [x]) = ((fresh.after changes).apply x).2 := by
      simp [after]
    rw [apply_fst, hsnoc]
  · have hafter := (hfresh.after hbounds hstart changes).1
    -- `fresh` is what comes of going back, as it starts with its initial period
    have hagain : fresh = { fresh with current := fresh.initial } := by
      cases fresh
      cases hcurrent
      rfl
    rw [hafter.eq]
    exact Prod.ext hcurrent.symm hagain.symm

/-- **A period is exact up to its bounds.** It is refused exactly if its bounds are the wrong way
round; otherwise, whatever changes are made to it, by whatever durations, it is what exact
arithmetic on nanoseconds says. -/
theorem make_exact (initial lo hi : Duration) :
    match make initial lo hi with
    | .error e => hi.toNanos < lo.toNanos ∧ e = .config (.periodBounds lo hi)
    | .ok fresh => lo.toNanos ≤ hi.toNanos ∧ Exact initial lo hi fresh := by
  unfold make
  by_cases hlt : hi.lt lo = true
  · rw [if_pos hlt]
    exact ⟨(Duration.lt_iff hi lo).mp hlt, rfl⟩
  · rw [if_neg hlt]
    have hbounds : lo.toNanos ≤ hi.toNanos :=
      Nat.not_lt.mp fun h => hlt ((Duration.lt_iff hi lo).mpr h)
    have hstart := Duration.toNanos_clamp initial hbounds
    exact ⟨hbounds, exact_of_bounds ⟨_, _, lo, hi⟩ hbounds rfl hstart⟩

end Period

end FanControl
