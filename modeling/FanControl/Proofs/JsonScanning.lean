import FanControl.Proofs.JsonTokens

/-!
# Cutting the start of a longer text

What a scanner took off the start of a text it takes again if more text follows, as long as that
cannot prolong a number: so for quoted texts, for the parts of a number, and for every token
(`Token.next?_append`). Hence a text that can be cut into tokens is a piece that is cut in the same
way wherever it stands (`Lexes.of_ofText?`).
-/

namespace FanControl.Json

/-! ### Scanning -/

theorem Quoted.scan_append {s r : List Char} {parts : List Part} (h : scan s = some (parts, r))
    (rest : List Char) : scan (s ++ rest) = some (parts, r ++ rest) := by
  induction s using scan.induct generalizing parts with
  | case1 => cases h
  | case2 r' =>
    rw [scan] at h
    cases h
    rw [List.cons_append, scan]
  | case3 a b c d s ih =>
    rw [scan] at h
    simp only [Option.bind_eq_bind, Option.bind_eq_some_iff] at h
    obtain ⟨n, hn, ⟨ps, r'⟩, hscan, heq⟩ := h
    cases heq
    show scan ('\\' :: 'u' :: a :: b :: c :: d :: (s ++ rest)) = _
    rw [scan_unit hn, ih hscan]
    rfl
  | case4 e s hunit ih =>
    rw [scan.eq_4 _ _ hunit] at h
    simp only [Option.bind_eq_bind, Option.bind_eq_some_iff] at h
    obtain ⟨c, hc, ⟨ps, r'⟩, hscan, heq⟩ := h
    cases heq
    -- an escape by number needs four digits, and no short escape has its letter
    have hu : e ≠ 'u' := by
      rintro rfl
      cases hc
    show scan ('\\' :: e :: (s ++ rest)) = _
    rw [scan_short hu hc, ih hscan]
    rfl
  | case5 c s hquote hunit hshort hstop =>
    rw [scan.eq_5 _ _ hquote hunit hshort, if_pos hstop] at h
    cases h
  | case6 c s hquote hunit hshort hstop ih =>
    rw [scan.eq_5 _ _ hquote hunit hshort, if_neg hstop] at h
    simp only [Option.bind_eq_bind, Option.bind_eq_some_iff] at h
    obtain ⟨⟨ps, r'⟩, hscan, heq⟩ := h
    cases heq
    have hslash : c ≠ '\\' := fun h => hstop (.inl h)
    have hcontrol : 0x20 ≤ c.toNat := Nat.le_of_not_lt fun h => hstop (.inr h)
    rw [List.cons_append, scan_plain hquote hslash hcontrol, ih hscan]
    rfl

namespace Token

section Append

variable {read s l r rest : List Char}

/-- A run of digits ends where it ended. -/
theorem digits_append_of_ends (s : List Char) (hrest : Ends rest) :
    digits (s ++ rest) = ((digits s).1, (digits s).2 ++ rest) := by
  induction s with
  | nil => exact digits_append (List.forall_mem_nil _) hrest
  | cons c s ih =>
    -- the run goes on with a digit, and ends at anything else whatever follows
    by_cases hc : c.isDigit = true
    · have hdigits : ∀ s, digits (c :: s) = (c :: (digits s).1, (digits s).2) := by
        intro s
        rw [digits, List.takeWhile_cons_of_pos hc, List.dropWhile_cons_of_pos hc]
        rfl
      rw [List.cons_append, hdigits, hdigits, ih]
    · have hdigits : ∀ s, digits (c :: s) = ([], c :: s) := by
        intro s
        rw [digits, List.takeWhile_cons_of_neg hc, List.dropWhile_cons_of_neg hc]
      rw [List.cons_append, hdigits, hdigits]
      rfl

theorem digits1?_append (h : digits1? read s = some (l, r)) (hrest : Ends rest) :
    digits1? read (s ++ rest) = some (l, r ++ rest) := by
  rw [digits1?] at h ⊢
  rw [digits_append_of_ends s hrest]
  rcases hrun : digits s with ⟨_ | ⟨d, ds⟩, r'⟩
  · rw [hrun] at h
    cases h
  · rw [hrun] at h
    cases h
    rfl

theorem exists_cons_of_digits1? (h : digits1? read s = some (l, r)) :
    ∃ d s', s = d :: s' ∧ d.isDigit = true := by
  rcases s with _ | ⟨d, s⟩
  · cases h
  · by_cases hd : d.isDigit = true
    · exact ⟨d, s, rfl, hd⟩
    · rw [digits1?, digits, List.takeWhile_cons_of_neg hd] at h
      cases h

/-- Digits start with nothing else, whatever follows them. -/
theorem digits1?_ne_cons {c : Char} (h : digits1? read s = some (l, r)) (hc : c.isDigit = false)
    (s' : List Char) : s ++ rest ≠ c :: s' := by
  obtain ⟨d, s, rfl, hd⟩ := exists_cons_of_digits1? h
  intro heq
  rw [(List.cons.inj heq).1, hc] at hd
  cases hd

theorem whole?_append (h : whole? read s = some (l, r)) (hrest : Ends rest) :
    whole? read (s ++ rest) = some (l, r ++ rest) := by
  -- a zero is the whole part by itself, even if digits follow it
  by_cases hzero : ∃ s', s = '0' :: s'
  · obtain ⟨s', rfl⟩ := hzero
    cases h
    rfl
  · have hother : ∀ s', s = '0' :: s' → False := fun s' hs => hzero ⟨s', hs⟩
    rw [whole?.eq_2 _ _ hother] at h
    obtain ⟨d, s', rfl, -⟩ := exists_cons_of_digits1? h
    have hlonger : ∀ s'', d :: s' ++ rest = '0' :: s'' → False := by
      intro s'' heq
      exact hother s' (by rw [(List.cons.inj heq).1])
    rw [whole?.eq_2 _ _ hlonger]
    exact digits1?_append h hrest

/-- A whole part is one or more digits. -/
theorem exists_cons_of_whole? (h : whole? read s = some (l, r)) :
    ∃ d s', s = d :: s' ∧ d.isDigit = true := by
  unfold whole? at h
  split at h
  · exact ⟨'0', _, rfl, rfl⟩
  · exact exists_cons_of_digits1? h

theorem fraction?_append (h : fraction? read s = some (l, r)) (hrest : Ends rest) :
    fraction? read (s ++ rest) = some (l, r ++ rest) := by
  rcases s with _ | ⟨c, s⟩
  · cases h
    exact fraction?_of_ends hrest
  · by_cases hpoint : c = '.'
    · subst hpoint
      exact digits1?_append h hrest
    · -- without a point there is no fraction, and what follows cannot add one
      have hother : ∀ s s', c :: s = '.' :: s' → False := by
        intro s s' heq
        exact hpoint (List.cons.inj heq).1
      rw [fraction?.eq_2 _ _ (hother s)] at h
      cases h
      exact fraction?.eq_2 _ _ (hother _)

theorem exponent?_append (h : exponent? read s = some (l, r)) (hrest : Ends rest) :
    exponent? read (s ++ rest) = some (l, r ++ rest) := by
  unfold exponent? at h
  split at h
  · -- a sign after the letter is read with it
    exact digits1?_append h hrest
  · exact digits1?_append h hrest
  · exact digits1?_append h hrest
  · exact digits1?_append h hrest
  · -- no sign: a digit follows, and still does
    rw [List.cons_append, exponent?.eq_5 _ _ (digits1?_ne_cons h rfl) (digits1?_ne_cons h rfl)]
    exact digits1?_append h hrest
  · rw [List.cons_append, exponent?.eq_6 _ _ (digits1?_ne_cons h rfl) (digits1?_ne_cons h rfl)]
    exact digits1?_append h hrest
  · next h₁ h₂ h₃ h₄ h₅ h₆ =>
    cases h
    rcases s with _ | ⟨c, s⟩
    · exact exponent?_of_ends hrest
    · -- any other character is no exponent, and it is still there
      have hlower : c ≠ 'e' := fun hc => h₅ s (by rw [hc])
      have hupper : c ≠ 'E' := fun hc => h₆ s (by rw [hc])
      have hother : ∀ {d : Char}, c ≠ d → ∀ s', c :: (s ++ rest) ≠ d :: s' := by
        intro d hd s' heq
        exact hd (List.cons.inj heq).1
      exact exponent?.eq_7 _ _ (fun _ => hother hlower _) (fun _ => hother hlower _)
        (fun _ => hother hupper _) (fun _ => hother hupper _) (hother hlower) (hother hupper)

/-- After the text `read` come a whole part, a fraction and an exponent. -/
def HasParts (read s l r : List Char) : Prop :=
  ∃ read₁ s₁ read₂ s₂, whole? read s = some (read₁, s₁) ∧ fraction? read₁ s₁ = some (read₂, s₂) ∧
    exponent? read₂ s₂ = some (l, r)

theorem HasParts.append (h : HasParts read s l r) (hrest : Ends rest) :
    HasParts read (s ++ rest) l (r ++ rest) := by
  obtain ⟨read₁, s₁, read₂, s₂, hwhole, hfraction, hexponent⟩ := h
  exact ⟨read₁, s₁ ++ rest, read₂, s₂ ++ rest, whole?_append hwhole hrest,
    fraction?_append hfraction hrest, exponent?_append hexponent hrest⟩

theorem number?_minus_iff : number? ('-' :: s) = some (l, r) ↔ HasParts ['-'] s l r := by
  rw [number?.eq_1]
  simp only [HasParts, Option.bind_eq_bind, Option.bind_eq_some_iff, Prod.exists,
    exists_and_left]

theorem number?_plain_iff (hplain : ∀ s', s ≠ '-' :: s') :
    number? s = some (l, r) ↔ HasParts [] s l r := by
  rw [number?.eq_2 _ hplain]
  simp only [HasParts, Option.bind_eq_bind, Option.bind_eq_some_iff, Prod.exists,
    exists_and_left]

/-- A number starts with a minus sign or a digit. -/
theorem exists_cons_of_number? (h : number? s = some (l, r)) :
    ∃ c s', s = c :: s' ∧ (c = '-' ∨ c.isDigit = true) := by
  by_cases hminus : ∃ s', s = '-' :: s'
  · obtain ⟨s', rfl⟩ := hminus
    exact ⟨'-', s', rfl, .inl rfl⟩
  · obtain ⟨read₁, s₁, -, -, hwhole, -⟩ := (number?_plain_iff fun s' hs => hminus ⟨s', hs⟩).mp h
    obtain ⟨d, s', rfl, hd⟩ := exists_cons_of_whole? hwhole
    exact ⟨d, s', rfl, .inr hd⟩

theorem number?_append (h : number? s = some (l, r)) (hrest : Ends rest) :
    number? (s ++ rest) = some (l, r ++ rest) := by
  obtain ⟨c, s, rfl, -⟩ := exists_cons_of_number? h
  by_cases hminus : c = '-'
  · subst hminus
    exact number?_minus_iff.mpr ((number?_minus_iff.mp h).append hrest)
  · have hplain : ∀ s s', c :: s ≠ '-' :: s' := by
      intro s s' heq
      exact hminus (List.cons.inj heq).1
    exact (number?_plain_iff (hplain _)).mpr (((number?_plain_iff (hplain s)).mp h).append hrest)

/-- **What follows a token does not change it**, if it cannot prolong a number. -/
theorem next?_append {t : Token} (h : next? s = some (t, r)) (hrest : Ends rest) :
    next? (s ++ rest) = some (t, r ++ rest) := by
  unfold next? at h
  split at h
  case h_10 s =>
    simp only [Option.bind_eq_bind, Option.bind_eq_some_iff] at h
    obtain ⟨⟨parts, r'⟩, hscan, heq⟩ := h
    cases heq
    rw [List.cons_append, next?, Quoted.scan_append hscan]
    rfl
  case h_11 =>
    -- a number is the only token for which it matters what follows
    simp only [Option.bind_eq_bind, Option.bind_eq_some_iff] at h
    obtain ⟨⟨l, r'⟩, hnumber, heq⟩ := h
    cases heq
    have hlonger := number?_append hnumber hrest
    obtain ⟨c, s, rfl, hc⟩ := exists_cons_of_number? hnumber
    rw [List.cons_append] at hlonger ⊢
    rw [next?_number hc, hlonger]
    rfl
  all_goals
    cases h
    rfl

end Append

end Token

open Token

/-! ### Pieces -/

section Cut

variable {fuel : Nat} {s rest : List Char} {ts : List Token}

/-- Blanks at the start change nothing. -/
theorem cut_dropWhile_append (s rest : List Char) :
    cut fuel (s.dropWhile isBlank ++ rest) = cut fuel (s ++ rest) := by
  induction s with
  | nil => rfl
  | cons c s ih =>
    by_cases hc : isBlank c = true
    · rw [List.dropWhile_cons_of_pos hc, ih, List.cons_append, cut_blank hc]
    · rw [List.dropWhile_cons_of_neg hc]

/-- What is cut is blank, or it starts with a token after some blanks. -/
theorem cut_cases (h : cut fuel s = some ts) :
    (s.dropWhile isBlank = [] ∧ ts = []) ∨
      ∃ c s' fuel' t r us, s.dropWhile isBlank = c :: s' ∧ isBlank c = false ∧
        fuel = fuel' + 1 ∧ next? (c :: s') = some (t, r) ∧ cut fuel' r = some us ∧
        ts = t :: us := by
  unfold cut at h
  rcases hdrop : s.dropWhile isBlank with _ | ⟨c, s'⟩
  · rw [hdrop] at h
    cases h
    exact .inl ⟨rfl, rfl⟩
  · rw [hdrop] at h
    -- the first character that is left is not blank
    have hc : isBlank c = false := by
      have hhead := List.head?_dropWhile_not isBlank s
      rw [hdrop] at hhead
      simpa using hhead
    rcases fuel with _ | fuel
    · cases h
    · simp only [Option.bind_eq_bind, Option.bind_eq_some_iff] at h
      obtain ⟨⟨t, r⟩, hnext, us, hus, heq⟩ := h
      cases heq
      exact .inr ⟨c, s', fuel, t, r, us, rfl, hc, rfl, hnext, hus, rfl⟩

theorem length_le_of_cut (h : cut fuel s = some ts) : ts.length ≤ fuel := by
  induction fuel generalizing s ts with
  | zero =>
    obtain ⟨-, rfl⟩ | ⟨_, _, _, _, _, _, _, _, hfuel, _⟩ := cut_cases h
    · exact Nat.le_refl 0
    · cases hfuel
  | succ fuel ih =>
    obtain ⟨-, rfl⟩ | ⟨_, _, _, _, _, _, _, _, hfuel, _, hus, rfl⟩ := cut_cases h
    · exact Nat.zero_le _
    · cases hfuel
      exact Nat.succ_le_succ (ih hus)

/-- A text that is cut is cut in the same way before any other text. -/
theorem cut_append_of_cut (h : cut fuel s = some ts) (hrest : Ends rest) (more : Nat) :
    cut (more + ts.length) (s ++ rest) = (cut more rest).map (ts ++ ·) := by
  -- on the fuel of the first text; each token is found again, with the same rest
  induction fuel generalizing s ts with
  | zero =>
    obtain ⟨hdrop, rfl⟩ | ⟨_, _, _, _, _, _, _, _, hfuel, _⟩ := cut_cases h
    · rw [← cut_dropWhile_append, hdrop]
      exact Lexes.nil.cut_append more rest hrest
    · cases hfuel
  | succ fuel ih =>
    obtain ⟨hdrop, rfl⟩ | ⟨c, s', _, t, r, us, hdrop, hc, hfuel, hnext, hus, rfl⟩ := cut_cases h
    · rw [← cut_dropWhile_append, hdrop]
      exact Lexes.nil.cut_append more rest hrest
    · cases hfuel
      have hlonger : next? (c :: (s' ++ rest)) = some (t, r ++ rest) := next?_append hnext hrest
      rw [← cut_dropWhile_append, hdrop, List.cons_append, List.length_cons, ← Nat.add_assoc,
        cut_token hc hlonger, ih hus, Option.map_map]
      rfl

end Cut

/-- **A text that can be cut is a piece.** -/
theorem Lexes.of_ofText? {s : List Char} {ts : List Token} (h : Token.ofText? s = some ts) :
    Lexes ts s where
  length_le := length_le_of_cut h
  cut_append fuel _ hrest := cut_append_of_cut h hrest fuel

end FanControl.Json
