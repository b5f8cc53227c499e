import FanControl.Json.Token
import FanControl.Proofs.Decimal

/-!
# The tokens of a written text

A quoted text is read however it is spelled (`Quoted.Spells.scan`), and the form in which texts are
written is one of the spellings; an integer reads as its own digits (`Token.number?_signed`).
Cutting into tokens goes on over the joints of a text: `Lexes` is the property of a piece that it
yields the same tokens whatever follows it, and the lemmas about it put pieces together.

Only a number has to know what follows, because the scanner takes digits, a point and an exponent
as long as they come. `Token.Ends` says that nothing of the kind comes.
-/

namespace FanControl.Json

/-! ### Quoted texts -/

namespace Quoted

section Scan

variable {c : Char} {rest : List Char}

theorem scan_short {e : Char} (hu : e ≠ 'u') (h : shortEscape? e = some c) :
    scan ('\\' :: e :: rest) = (scan rest).map (Prod.map (.char c :: ·) id) := by
  rw [scan.eq_4 _ _ fun _ _ _ _ _ he => absurd he hu, h]
  cases scan rest <;> rfl

theorem scan_unit {w x y z : Char} {n : Nat} (h : hex4? w x y z = some n) :
    scan ('\\' :: 'u' :: w :: x :: y :: z :: rest) =
      (scan rest).map (Prod.map (.unit n :: ·) id) := by
  rw [scan, h]
  cases scan rest <;> rfl

theorem scan_plain (hquote : c ≠ '"') (hslash : c ≠ '\\') (hcontrol : 0x20 ≤ c.toNat) :
    scan (c :: rest) = (scan rest).map (Prod.map (.char c :: ·) id) := by
  have hstays : ¬ (c = '\\' ∨ c.toNat < 0x20) := by
    rintro (h | h)
    · exact hslash h
    · omega
  rw [scan.eq_5 _ _ (fun h => hquote h) (fun _ _ _ _ _ h => absurd h hslash)
    (fun _ _ h => absurd h hslash), if_neg hstays]
  cases scan rest <;> rfl

end Scan

theorem hex4?_hexDigit {n : Nat} (h : n < 0x20) :
    hex4? '0' '0' (hexDigit (n / 16)) (hexDigit (n % 16)) = some n := by
  have hall : ∀ n < 0x20, hex4? '0' '0' (hexDigit (n / 16)) (hexDigit (n % 16)) = some n := by
    decide
  exact hall n h

/-- The three ways to write a character: an escape with a letter of its own, one by number for the
other controls, and as it is. -/
theorem escape_cases (c : Char) :
    (∃ e, escape c = ['\\', e] ∧ shortEscape? e = some c) ∨
    (escape c = ['\\', 'u', '0', '0', hexDigit (c.toNat / 16), hexDigit (c.toNat % 16)] ∧
      c.toNat < 0x20) ∨
    (escape c = [c] ∧ c ≠ '"' ∧ c ≠ '\\' ∧ 0x20 ≤ c.toNat) := by
  -- `escape` decides by the code of the character, and the code determines it
  have hletter : ∀ d e : Char, c.toNat = d.toNat → shortEscape? e = some d →
      ∃ e', ['\\', e] = ['\\', e'] ∧ shortEscape? e' = some c := by
    intro d e hcode hshort
    obtain rfl := Char.toNat_inj.mp hcode
    exact ⟨e, rfl, hshort⟩
  have hother : ∀ d : Char, c.toNat ≠ d.toNat → c ≠ d := fun d hne h => hne (congrArg _ h)
  unfold escape
  split
  · next h => exact .inl (hletter '"' '"' h rfl)
  · next h => exact .inl (hletter '\\' '\\' h rfl)
  · next h => exact .inl (hletter '\x08' 'b' h rfl)
  · next h => exact .inl (hletter '\x0c' 'f' h rfl)
  · next h => exact .inl (hletter '\n' 'n' h rfl)
  · next h => exact .inl (hletter '\r' 'r' h rfl)
  · next h => exact .inl (hletter '\t' 't' h rfl)
  · next hquote hslash _ _ _ _ _ =>
    by_cases hcontrol : c.toNat < 0x20
    · rw [if_pos hcontrol]
      exact .inr (.inl ⟨rfl, hcontrol⟩)
    · rw [if_neg hcontrol]
      exact .inr (.inr ⟨rfl, hother '"' hquote, hother '\\' hslash, by omega⟩)

/-- A unit that is no half of a pair is a character by itself. -/
theorem text?_unit {n : Nat} (h : n < 0xd800 ∨ 0xe000 ≤ n) (parts : List Part) :
    text? (.unit n :: parts) = (text? parts).map (Char.ofNat n :: ·) := by
  have hhigh : isHighSurrogate n = false := by
    simp only [isHighSurrogate, Bool.and_eq_false_iff, decide_eq_false_iff_not]
    omega
  have hlow : isLowSurrogate n = false := by
    simp only [isLowSurrogate, Bool.and_eq_false_iff, decide_eq_false_iff_not]
    omega
  cases parts with
  | nil => simp [text?, hhigh, hlow]
  | cons p parts => cases p <;> simp [text?, hhigh, hlow]

/-- Two halves of a pair are one character. -/
theorem text?_pair {n m : Nat} (hn : isHighSurrogate n = true) (hm : isLowSurrogate m = true)
    (parts : List Part) :
    text? (.unit n :: .unit m :: parts) =
      (text? parts).map (Char.ofNat (0x10000 + (n - 0xd800) * 0x400 + (m - 0xdc00)) :: ·) := by
  simp only [text?, hn, hm, Bool.and_self, if_true]

/-- The ways to spell a text: each character as it is, with a letter for it, or by one or two
numbers. -/
inductive Spells : List Char → List Char → Prop where
  | nil : Spells [] []
  | plain {c : Char} {s x : List Char} : c ≠ '"' → c ≠ '\\' → 0x20 ≤ c.toNat → Spells s x →
      Spells (c :: s) (c :: x)
  | short {e c : Char} {s x : List Char} : shortEscape? e = some c → Spells s x →
      Spells ('\\' :: e :: s) (c :: x)
  | unit {a b c d : Char} {n : Nat} {s x : List Char} : hex4? a b c d = some n →
      n < 0xd800 ∨ 0xe000 ≤ n → Spells s x →
      Spells ('\\' :: 'u' :: a :: b :: c :: d :: s) (Char.ofNat n :: x)
  | pair {a b c d a' b' c' d' : Char} {n m : Nat} {s x : List Char} : hex4? a b c d = some n →
      hex4? a' b' c' d' = some m → isHighSurrogate n = true → isLowSurrogate m = true →
      Spells s x →
      Spells ('\\' :: 'u' :: a :: b :: c :: d :: '\\' :: 'u' :: a' :: b' :: c' :: d' :: s)
        (Char.ofNat (0x10000 + (n - 0xd800) * 0x400 + (m - 0xdc00)) :: x)

/-- **However a text is spelled, it is read.** -/
theorem Spells.scan {s x : List Char} (h : Spells s x) (rest : List Char) :
    ∃ parts, text? parts = some x ∧ scan (s ++ '"' :: rest) = some (parts, rest) := by
  -- each way to spell a character adds one part, or two for a pair
  induction h with
  | nil => exact ⟨[], rfl, by rw [List.nil_append, Quoted.scan]⟩
  | @plain c s x hquote hslash hcontrol _ ih =>
    obtain ⟨parts, htext, hscan⟩ := ih
    refine ⟨.char c :: parts, by rw [text?, htext, Option.map_some], ?_⟩
    rw [List.cons_append, scan_plain hquote hslash hcontrol, hscan]
    rfl
  | @short e c s x hshort _ ih =>
    obtain ⟨parts, htext, hscan⟩ := ih
    -- a letter escape is not taken for an escape by number
    have hu : e ≠ 'u' := by
      rintro rfl
      cases hshort
    refine ⟨.char c :: parts, by rw [text?, htext, Option.map_some], ?_⟩
    rw [List.cons_append, List.cons_append, scan_short hu hshort, hscan]
    rfl
  | @unit a b c d n s x hn hplain _ ih =>
    obtain ⟨parts, htext, hscan⟩ := ih
    refine ⟨.unit n :: parts, by rw [text?_unit hplain, htext, Option.map_some], ?_⟩
    show Quoted.scan ('\\' :: 'u' :: a :: b :: c :: d :: (s ++ '"' :: rest)) = _
    rw [scan_unit hn, hscan]
    rfl
  | @pair a b c d a' b' c' d' n m s x hn hm hhigh hlow _ ih =>
    obtain ⟨parts, htext, hscan⟩ := ih
    refine ⟨.unit n :: .unit m :: parts, by rw [text?_pair hhigh hlow, htext, Option.map_some], ?_⟩
    show Quoted.scan ('\\' :: 'u' :: a :: b :: c :: d :: '\\' :: 'u' :: a' :: b' :: c' :: d' ::
      (s ++ '"' :: rest)) = _
    rw [scan_unit hn, scan_unit hm, hscan]
    rfl

/-- A text may mix the ways to spell its characters. -/
example : Spells "a\\u005f\\n".toList "a_\n".toList :=
  .plain (by decide) (by decide) (by decide)
    (.unit (n := 0x5f) rfl (.inl (by decide)) (.short rfl .nil))

/-- The written form is one of the spellings. -/
theorem spells_escape (x : List Char) : Spells (x.flatMap escape) x := by
  induction x with
  | nil => exact .nil
  | cons c x ih =>
    rw [List.flatMap_cons]
    rcases escape_cases c with ⟨e, hescape, hshort⟩ | ⟨hescape, hcontrol⟩ |
      ⟨hescape, hquote, hslash, hcontrol⟩
    · rw [hescape]
      exact .short hshort ih
    · -- a control is under the surrogates, so its number stands for itself
      have hunit := Spells.unit (hex4?_hexDigit hcontrol) (.inl (by omega)) ih
      rw [Char.ofNat_toNat] at hunit
      rw [hescape]
      exact hunit
    · rw [hescape]
      exact .plain hquote hslash hcontrol ih

end Quoted

namespace Token

/-! ### Numbers -/

/-- No digit, point or exponent comes first. -/
def Ends (s : List Char) : Prop :=
  ∀ c ∈ s.head?, c.isDigit = false ∧ c ≠ '.' ∧ c ≠ 'e' ∧ c ≠ 'E'

theorem ends_nil : Ends [] := by
  intro c hc
  cases hc

/-- The characters between the values of a document end a number. -/
theorem ends_cons {c : Char} {s : List Char} (h : c ∈ [',', ':', ']', '\x7d', '\n', ' ']) :
    Ends (c :: s) := by
  rintro _ ⟨⟩
  simp only [List.mem_cons, List.not_mem_nil, or_false] at h
  rcases h with rfl | rfl | rfl | rfl | rfl | rfl <;> decide

section Number

variable {s read rest : List Char}

theorem digits_append (hs : ∀ c ∈ s, c.isDigit = true) (hrest : Ends rest) :
    digits (s ++ rest) = (s, rest) := by
  have hstop : ∀ c ∈ rest.head?, c.isDigit = false := fun c hc => (hrest c hc).1
  rw [digits, List.takeWhile_append_of_pos hs, List.dropWhile_append_of_pos hs]
  cases rest with
  | nil => simp
  | cons c rest => simp [hstop c rfl]

theorem fraction?_of_ends (h : Ends rest) : fraction? read rest = some (read, rest) := by
  unfold fraction?
  split
  · exact absurd rfl (h '.' rfl).2.1
  · rfl

theorem exponent?_of_ends (h : Ends rest) : exponent? read rest = some (read, rest) := by
  unfold exponent?
  split
  · exact absurd rfl (h 'e' rfl).2.2.1
  · exact absurd rfl (h 'e' rfl).2.2.1
  · exact absurd rfl (h 'E' rfl).2.2.2
  · exact absurd rfl (h 'E' rfl).2.2.2
  · exact absurd rfl (h 'e' rfl).2.2.1
  · exact absurd rfl (h 'E' rfl).2.2.2
  · rfl

end Number

/-- No number but zero starts with a zero. -/
theorem digits_ne_zero_cons {n : Nat} (hn : 0 < n) (ds : List Char) :
    Text.Decimal.digits n ≠ '0' :: ds := by
  induction n using Nat.strongRecOn generalizing ds with
  | ind n ih =>
    -- on the number: by its one digit, or by the digits before the last
    by_cases hlt : n < 10
    · have hone : ∀ n < 10, 0 < n → Nat.digitChar n ≠ '0' := by decide
      rw [Text.Decimal.digits, Nat.toDigits_of_lt_base hlt]
      intro h
      exact hone n hlt hn (List.cons.inj h).1
    · -- the first digit is the first one of the number without its last digit
      rw [Text.Decimal.digits, Nat.toDigits_of_base_le (by decide) (by omega)]
      obtain ⟨d, rest, hfirst⟩ := List.exists_cons_of_ne_nil (Text.Decimal.digits_ne_nil (n / 10))
      have hd : d ≠ '0' := by
        rintro rfl
        exact ih (n / 10) (by omega) (by omega) rest hfirst
      rw [Text.Decimal.digits] at hfirst
      rw [hfirst]
      intro h
      exact hd (List.cons.inj h).1

theorem whole?_digits (read : List Char) (n : Nat) {rest : List Char} (h : Ends rest) :
    whole? read (Text.Decimal.digits n ++ rest) = some (read ++ Text.Decimal.digits n, rest) := by
  rcases Nat.eq_zero_or_pos n with rfl | hn
  · rfl
  · obtain ⟨d, ds, hds⟩ := List.exists_cons_of_ne_nil (Text.Decimal.digits_ne_nil n)
    have hd : d ≠ '0' := by
      rintro rfl
      exact digits_ne_zero_cons hn ds hds
    have hrun := digits_append (fun _ => Text.Decimal.isDigit_of_mem_digits (n := n)) h
    rw [hds, List.cons_append] at hrun ⊢
    rw [whole?.eq_2 _ _ fun _ heq => hd (List.cons.inj heq).1]
    simp only [digits1?, hrun]

theorem signed_eq_cons (i : Int) :
    ∃ c s, Text.Decimal.signed i = c :: s ∧ (c = '-' ∨ c.isDigit = true) := by
  unfold Text.Decimal.signed
  split
  · exact ⟨'-', _, rfl, .inl rfl⟩
  · obtain ⟨d, ds, hds⟩ := List.exists_cons_of_ne_nil (Text.Decimal.digits_ne_nil i.natAbs)
    have hdigit : d.isDigit = true :=
      Text.Decimal.isDigit_of_mem_digits (n := i.natAbs) (by rw [hds]; exact List.mem_cons_self)
    exact ⟨d, ds, hds, .inr hdigit⟩

/-- **The text of an integer reads as this text**, unless more of a number follows. -/
theorem number?_signed (i : Int) {rest : List Char} (h : Ends rest) :
    number? (Text.Decimal.signed i ++ rest) = some (Text.Decimal.signed i, rest) := by
  unfold Text.Decimal.signed
  -- zero is the only number with a leading zero, so all digits are the whole part
  split
  · rw [List.cons_append]
    simp only [number?]
    rw [whole?_digits _ _ h, Option.bind_eq_bind, Option.bind_some, fraction?_of_ends h]
    exact exponent?_of_ends h
  · obtain ⟨d, ds, hds, hminus, -⟩ := Text.Decimal.digits_eq_cons i.natAbs
    have hwhole := whole?_digits [] i.natAbs h
    rw [hds, List.cons_append] at hwhole ⊢
    rw [number?.eq_2 _ fun _ heq => hminus (List.cons.inj heq).1]
    simp only [hwhole, Option.bind_eq_bind, Option.bind_some, List.nil_append,
      fraction?_of_ends h]
    exact exponent?_of_ends h

theorem isBlank_of_number {c : Char} (h : c = '-' ∨ c.isDigit = true) : isBlank c = false := by
  rw [← Bool.not_eq_true]
  intro hblank
  simp only [isBlank, Bool.or_eq_true, beq_iff_eq] at hblank
  rcases hblank with ((rfl | rfl) | rfl) | rfl <;> revert h <;> decide

/-- What starts like a number is read as one. -/
theorem next?_number {c : Char} {s : List Char} (h : c = '-' ∨ c.isDigit = true) :
    next? (c :: s) = (number? (c :: s)).map (Prod.map .number id) := by
  have hother : ∀ d ∈ ['\x7b', '\x7d', '[', ']', ':', ',', 'n', 't', 'f', '"'], c ≠ d := by
    rintro d hd rfl
    simp only [List.mem_cons, List.not_mem_nil, or_false] at hd
    rcases hd with rfl | rfl | rfl | rfl | rfl | rfl | rfl | rfl | rfl | rfl <;> revert h <;> decide
  rw [next?.eq_11]
  · cases number? (c :: s) <;> rfl
  all_goals
    intro rest heq
    exact hother _ (by decide) (List.cons.inj heq).1

/-! ### Cutting -/

section Cut

variable {fuel : Nat} {c : Char} {s rest : List Char} {t : Token} {ts us : List Token}

theorem cut_blank (hc : isBlank c = true) : cut fuel (c :: s) = cut fuel s := by
  unfold cut
  rw [List.dropWhile_cons_of_pos hc]

theorem cut_token (hc : isBlank c = false) (h : next? (c :: s) = some (t, rest)) :
    cut (fuel + 1) (c :: s) = (cut fuel rest).map (t :: ·) := by
  have hdrop : (c :: s).dropWhile isBlank = c :: s :=
    List.dropWhile_cons_of_neg (by simp [hc])
  rw [cut, hdrop]
  simp only [h, Option.bind_eq_bind, Option.bind_some]
  cases cut fuel rest <;> rfl

end Cut

end Token

open Token

/-- The piece `s` of a text is cut into the tokens `ts`, and what follows it is cut by itself. -/
structure Lexes (ts : List Token) (s : List Char) : Prop where
  /-- Each token takes at least one character. -/
  length_le : ts.length ≤ s.length
  cut_append : ∀ fuel rest, Ends rest →
    cut (fuel + ts.length) (s ++ rest) = (cut fuel rest).map (ts ++ ·)

namespace Lexes

variable {c : Char} {s u : List Char} {t : Token} {ts us : List Token}

theorem nil : Lexes [] [] where
  length_le := Nat.le_refl 0
  cut_append fuel rest _ := by
    rw [List.nil_append, List.length_nil, Nat.add_zero]
    cases cut fuel rest <;> rfl

/-- A blank before a piece changes nothing. -/
theorem blank (hc : isBlank c = true) (h : Lexes ts s) : Lexes ts (c :: s) where
  length_le := Nat.le_succ_of_le h.length_le
  cut_append fuel rest hrest := by
    rw [List.cons_append, cut_blank hc, h.cut_append fuel rest hrest]

/-- A token that does not depend on what follows. -/
theorem cons (hc : isBlank c = false) (hnext : ∀ rest, next? (c :: u ++ rest) = some (t, rest))
    (h : Lexes ts s) : Lexes (t :: ts) (c :: u ++ s) where
  length_le := by
    have := h.length_le
    simp only [List.length_cons, List.length_append]
    omega
  cut_append fuel rest hrest := by
    have hfirst := hnext (s ++ rest)
    rw [List.cons_append] at hfirst
    rw [List.length_cons, ← Nat.add_assoc, List.append_assoc, List.cons_append,
      cut_token hc hfirst, h.cut_append fuel rest hrest, Option.map_map]
    rfl

/-- One piece after another, if the second ends what the first may leave open. -/
theorem append (h : Lexes ts s) (h' : Lexes us u) (hends : ∀ rest, Ends rest → Ends (u ++ rest)) :
    Lexes (ts ++ us) (s ++ u) where
  length_le := by
    have := h.length_le
    have := h'.length_le
    simp only [List.length_append]
    omega
  cut_append fuel rest hrest := by
    -- the fuel has one step for each token of either text
    have hfuel : fuel + (ts ++ us).length = fuel + us.length + ts.length := by
      rw [List.length_append]
      omega
    rw [hfuel, List.append_assoc, h.cut_append _ _ (hends rest hrest),
      h'.cut_append fuel rest hrest, Option.map_map]
    congr 1
    funext l
    exact (List.append_assoc ts us l).symm

/-- An integer is one token. -/
theorem integer (i : Int) :
    Lexes [.number (Text.Decimal.signed i)] (Text.Decimal.signed i) := by
  obtain ⟨c, s, hs, hc⟩ := signed_eq_cons i
  have hblank : isBlank c = false := isBlank_of_number hc
  rw [hs]
  refine ⟨by simp, fun fuel rest hrest => ?_⟩
  -- the only token that needs `Ends`: more digits would become part of it
  have hread := number?_signed i hrest
  rw [hs, List.cons_append] at hread
  have hnext : next? (c :: (s ++ rest)) = some (.number (c :: s), rest) := by
    rw [next?_number hc, hread]
    rfl
  rw [List.cons_append]
  exact cut_token hblank hnext

/-- A text between quotes is one token, however it is spelled. -/
theorem spelled {x : List Char} (hx : Quoted.Spells u x) (h : Lexes ts s) :
    Lexes (.string (some x) :: ts) ('"' :: (u ++ ['"']) ++ s) := by
  refine cons (by decide) (fun rest => ?_) h
  obtain ⟨parts, htext, hscan⟩ := hx.scan rest
  have hsplit : '"' :: (u ++ ['"']) ++ rest = '"' :: (u ++ '"' :: rest) := by
    rw [List.cons_append, List.append_assoc, List.singleton_append]
  rw [hsplit, next?, hscan, ← htext]
  rfl

/-- A quoted text is one token. -/
theorem quoted (x : List Char) (h : Lexes ts s) :
    Lexes (.string (some x) :: ts) (Quoted.encode x ++ s) :=
  h.spelled (Quoted.spells_escape x)

/-- All of a text is cut into its tokens. -/
theorem ofText? (h : Lexes ts s) : ofText? s = some ts := by
  obtain ⟨fuel, hfuel⟩ := Nat.exists_eq_add_of_le' h.length_le
  have hcut := h.cut_append fuel [] ends_nil
  rw [List.append_nil, ← hfuel] at hcut
  rw [Token.ofText?, hcut]
  unfold cut
  simp

end Lexes

end FanControl.Json
