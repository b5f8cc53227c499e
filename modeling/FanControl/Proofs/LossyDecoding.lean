import FanControl.Proofs.Utf8
import Mathlib.Algebra.Group.Nat.Defs

/-!
# What the scanner makes of any bytes

Bytes fall into encoded characters and gaps (`Utf8.Segments`). A gap stands where no character is
encoded; it is as long as the start of a character can be there, or one byte if no character starts
with that (`Utf8.IsGap`). Both are said in terms of the encoding alone, without the scanner, and
**the scanner finds these parts, and no other division into such parts exists**
(`Utf8.scan_eq_iff`). Lossy decoding then puts U+FFFD in the place of every gap
(`Utf8.decodeLossy_eq`), and strict decoding refuses bytes with a gap (`Utf8.decode?_eq_some_iff`).

That a gap is as long as it can be rests on what the scanner has in hand inside a sequence
(`Utf8.IsOpen`): every number with the bits read so far, and a next byte within the bounds, is the
value of a character whose encoding starts with the bytes read so far. So these bytes do start a
character; and a byte outside the bounds goes on with none of them, since the scanner, which gives
back every character, would not have given that one back.
-/

namespace FanControl.Text.Utf8

variable {part rest bs : List UInt8} {units : List (Option Char)} {b : UInt8}
variable {need lo hi bits : Nat}

/-! ### Characters and gaps -/

/-- Bytes with which the encoding of some character starts. -/
def Starts (part : List UInt8) : Prop := ∃ c, part <+: String.utf8EncodeChar c

/-- A maximal part that is no text, in front of the rest of the bytes. -/
structure IsGap (part rest : List UInt8) : Prop where
  ne_nil : part ≠ []
  /-- No character is encoded here. -/
  broken : ∀ c, ¬ String.utf8EncodeChar c <+: part ++ rest
  /-- The part starts a character, unless it is a single byte. -/
  starts : part.length = 1 ∨ Starts part
  /-- No more of the bytes would start a character. -/
  longest : ∀ longer, longer <+: part ++ rest → Starts longer → longer.length ≤ part.length

/-- The division of bytes into encoded characters and gaps. -/
inductive Segments : List UInt8 → List (Option Char) → Prop where
  | nil : Segments [] []
  | char {bs : List UInt8} {units : List (Option Char)} (c : Char) (h : Segments bs units) :
      Segments (String.utf8EncodeChar c ++ bs) (some c :: units)
  | gap {part bs : List UInt8} {units : List (Option Char)} (hgap : IsGap part bs)
      (h : Segments bs units) : Segments (part ++ bs) (none :: units)

/-! ### Where no character is encoded -/

/-- Where the scanner finds a gap first, no character is encoded. -/
theorem not_prefix_of_scan (h : scan .outside bs = none :: units) (c : Char) :
    ¬ String.utf8EncodeChar c <+: bs := by
  rintro ⟨tail, rfl⟩
  rw [scan_utf8EncodeChar] at h
  cases h

/-- Bytes on which the scanner finds a gap, whatever follows, start no character. -/
theorem not_starts_of_scan (h : ∀ tail, ∃ units, scan .outside (bs ++ tail) = none :: units) :
    ¬ Starts bs := by
  rintro ⟨c, tail, hchar⟩
  obtain ⟨units, hscan⟩ := h tail
  rw [hchar] at hscan
  exact not_prefix_of_scan hscan c List.prefix_rfl

/-- A byte that is a gap by itself. -/
theorem isGap_of_openWith (h : openWith b = ([none], .outside)) (bs : List UInt8) :
    IsGap [b] bs := by
  have hscan : ∀ tail, scan .outside (b :: tail) = none :: scan .outside tail := by
    intro tail
    rw [scan_cons, step, h, List.singleton_append]
  refine ⟨List.cons_ne_nil _ _, not_prefix_of_scan (hscan bs), Or.inl rfl, ?_⟩
  rintro longer hlonger hstarts
  rcases longer with _ | ⟨first, more⟩
  · exact Nat.zero_le _
  · -- a longer part starts with the byte, so it starts no character
    obtain rfl : first = b := (List.cons_prefix_cons.mp hlonger).1
    exact absurd hstarts (not_starts_of_scan fun tail => ⟨_, hscan (more ++ tail)⟩)

/-! ### Inside a sequence -/

/-- The last `k + 1` bytes of the encoding of a number: six bits each. -/
def continuation : Nat → Nat → List UInt8
  | 0, n => [UInt8.ofNat (n % 64 + 128)]
  | k + 1, n => UInt8.ofNat (n / 64 ^ (k + 1) % 64 + 128) :: continuation k n

/-- The bytes read so far have opened a sequence, which is not complete. -/
structure IsOpen (part : List UInt8) (need lo hi bits : Nat) : Prop where
  /-- The scanner has read them. -/
  reads : ∀ bs, scan .outside (part ++ bs) = scan (.inside need lo hi bits) bs
  lo_le : 0x80 ≤ lo
  lo_le_hi : lo ≤ hi
  hi_le : hi ≤ 0xbf
  /-- They start the encoding of every number with these bits and an allowed next byte. -/
  encodes : ∀ n, n / 64 ^ (need + 1) = bits → lo ≤ n / 64 ^ need % 64 + 128 →
    n / 64 ^ need % 64 + 128 ≤ hi →
    String.utf8EncodeChar (Char.ofNat n) = part ++ continuation need n

theorem toNat_ofNat_of_isValidChar {n : Nat} (h : n.isValidChar) :
    (Char.ofNat n).val.toNat = n := by
  rw [Char.ofNat, dif_pos h]
  rfl

/-- A byte is determined by its number. -/
theorem ofNat_eq_of_toNat {n : Nat} (h : n = b.toNat) : UInt8.ofNat n = b := by
  rw [h, UInt8.ofNat_toNat]

/-! ### The first byte -/

/-- The scanner has read a byte that opened a sequence. -/
theorem scan_of_openWith (h : openWith b = ([], .inside need lo hi bits)) (bs : List UInt8) :
    scan .outside ([b] ++ bs) = scan (.inside need lo hi bits) bs := by
  rw [List.singleton_append, scan_cons, step, h, List.nil_append]

theorem isOpen_two (h : openWith b = ([], .inside 0 0x80 0xbf bits)) (hb : bits + 0xc0 = b.toNat)
    (hlo : 2 ≤ bits) (hhi : bits < 32) : IsOpen [b] 0 0x80 0xbf bits := by
  refine ⟨scan_of_openWith h, by omega, by omega, by omega, fun n hbits _ _ => ?_⟩
  have hdiv : n / 64 = bits := hbits
  have hvalid : n.isValidChar := Or.inl (by omega)
  have hfirst : UInt8.ofNat (n / 64 % 32 + 192) = b := ofNat_eq_of_toNat (by omega)
  rw [String.utf8EncodeChar, toNat_ofNat_of_isValidChar hvalid, if_neg (by omega),
    if_pos (by omega)]
  exact congrArg (· :: continuation 0 n) hfirst

/-- The bounds keep out the numbers that take less than three bytes, and the surrogates. -/
theorem isOpen_three (h : openWith b = ([], .inside 1 lo hi bits)) (hb : bits + 0xe0 = b.toNat)
    (hbits : bits < 16) (hbounds : 0x80 ≤ lo ∧ lo ≤ hi ∧ hi ≤ 0xbf)
    (hoverlong : 0 < bits ∨ 0xa0 ≤ lo) (hsurrogate : bits ≠ 0xd ∨ hi ≤ 0x9f) :
    IsOpen [b] 1 lo hi bits := by
  refine ⟨scan_of_openWith h, hbounds.1, hbounds.2.1, hbounds.2.2, fun n hn hlo hhi => ?_⟩
  simp only [Nat.reduceAdd, Nat.reducePow] at hn hlo hhi
  have hlength : 0x800 ≤ n ∧ n < 0x10000 := by omega
  have hvalid : n < 0xd800 ∨ 0xdfff < n ∧ n < 0x110000 := by omega
  have hfirst : UInt8.ofNat (n / 4096 % 16 + 224) = b := ofNat_eq_of_toNat (by omega)
  rw [String.utf8EncodeChar, toNat_ofNat_of_isValidChar hvalid, if_neg (by omega),
    if_neg (by omega), if_pos (by omega)]
  exact congrArg (· :: continuation 1 n) hfirst

/-- The bounds keep out the numbers that take less than four bytes, and those past U+10FFFF. -/
theorem isOpen_four (h : openWith b = ([], .inside 2 lo hi bits)) (hb : bits + 0xf0 = b.toNat)
    (hbounds : 0x80 ≤ lo ∧ lo ≤ hi ∧ hi ≤ 0xbf) (hoverlong : 0 < bits ∨ 0x90 ≤ lo)
    (hlast : bits < 4 ∨ bits = 4 ∧ hi ≤ 0x8f) : IsOpen [b] 2 lo hi bits := by
  refine ⟨scan_of_openWith h, hbounds.1, hbounds.2.1, hbounds.2.2, fun n hn hlo hhi => ?_⟩
  simp only [Nat.reduceAdd, Nat.reducePow] at hn hlo hhi
  have hlength : 0x10000 ≤ n ∧ n < 0x110000 := by omega
  have hvalid : n.isValidChar := Or.inr (by omega)
  have hfirst : UInt8.ofNat (n / 262144 % 8 + 240) = b := ofNat_eq_of_toNat (by omega)
  rw [String.utf8EncodeChar, toNat_ofNat_of_isValidChar hvalid, if_neg (by omega),
    if_neg (by omega), if_neg (by omega)]
  exact congrArg (· :: continuation 2 n) hfirst

/-- **A first byte** is a character, or a gap, or it opens a sequence. -/
theorem openWith_cases (b : UInt8) :
    (∃ c, openWith b = ([some c], .outside) ∧ String.utf8EncodeChar c = [b]) ∨
      openWith b = ([none], .outside) ∨
      ∃ need lo hi bits, openWith b = ([], .inside need lo hi bits) ∧
        IsOpen [b] need lo hi bits := by
  have hopen := openWith.eq_1 b
  generalize hv : b.toNat = v at hopen
  -- the tests of `openWith` one after another, by what the byte announces
  by_cases hone : v < 0x80
  · rw [if_pos hone] at hopen
    have hvalid : v.isValidChar := Or.inl (by omega)
    refine Or.inl ⟨_, hopen, ?_⟩
    rw [String.utf8EncodeChar, toNat_ofNat_of_isValidChar hvalid, if_pos (by omega),
      ofNat_eq_of_toNat hv.symm]
  rw [if_neg hone] at hopen
  right
  by_cases hstray : v < 0xc2
  · rw [if_pos hstray] at hopen
    exact Or.inl hopen
  rw [if_neg hstray] at hopen
  by_cases htwo : v < 0xe0
  · rw [if_pos htwo] at hopen
    exact Or.inr ⟨_, _, _, _, hopen, isOpen_two hopen (by omega) (by omega) (by omega)⟩
  rw [if_neg htwo] at hopen
  by_cases hthree : v < 0xf0
  · right
    -- three bytes, where too small a character or a surrogate must not be announced
    by_cases hoverlong : v = 0xe0
    · rw [if_pos hoverlong] at hopen
      exact ⟨_, _, _, _, hopen, isOpen_three hopen (by omega) (by omega) (by omega)
        (Or.inr (by omega)) (Or.inl (by omega))⟩
    rw [if_neg hoverlong] at hopen
    by_cases hsurrogate : v = 0xed
    · rw [if_pos hsurrogate] at hopen
      exact ⟨_, _, _, _, hopen, isOpen_three hopen (by omega) (by omega) (by omega)
        (Or.inl (by omega)) (Or.inr (by omega))⟩
    · rw [if_neg hsurrogate, if_pos hthree] at hopen
      exact ⟨_, _, _, _, hopen, isOpen_three hopen (by omega) (by omega) (by omega)
        (Or.inl (by omega)) (Or.inl (by omega))⟩
  rw [if_neg (by omega), if_neg (by omega), if_neg hthree] at hopen
  -- four bytes, where the character must be neither too small nor too large
  by_cases hoverlong : v = 0xf0
  · rw [if_pos hoverlong] at hopen
    exact Or.inr ⟨_, _, _, _, hopen, isOpen_four hopen (by omega) (by omega)
      (Or.inr (by omega)) (Or.inl (by omega))⟩
  rw [if_neg hoverlong] at hopen
  by_cases hfour : v < 0xf4
  · rw [if_pos hfour] at hopen
    exact Or.inr ⟨_, _, _, _, hopen, isOpen_four hopen (by omega) (by omega)
      (Or.inl (by omega)) (Or.inl (by omega))⟩
  rw [if_neg hfour] at hopen
  by_cases hlast : v = 0xf4
  · rw [if_pos hlast] at hopen
    exact Or.inr ⟨_, _, _, _, hopen, isOpen_four hopen (by omega) (by omega)
      (Or.inl (by omega)) (Or.inr (by omega))⟩
  · rw [if_neg hlast] at hopen
    exact Or.inl hopen

/-! ### Further bytes -/

namespace IsOpen

/-- A further byte within the bounds. -/
theorem more (h : IsOpen part (need + 1) lo hi bits) (hlo : lo ≤ b.toNat) (hhi : b.toNat ≤ hi) :
    IsOpen (part ++ [b]) need 0x80 0xbf (bits * 64 + (b.toNat - 0x80)) where
  reads bs := by
    rw [List.append_assoc, h.reads, List.singleton_append, scan_cons, step,
      if_pos ⟨hlo, hhi⟩, List.nil_append]
  lo_le := by omega
  lo_le_hi := by omega
  hi_le := by omega
  encodes n hbits _ _ := by
    have hbound := h.lo_le
    have hbound' := h.hi_le
    -- the bits of the byte are the next six of the character
    have hdiv : n / 64 ^ (need + 1 + 1) = n / 64 ^ (need + 1) / 64 := by
      rw [Nat.pow_succ, Nat.div_div_eq_div_mul]
    have hbyte : n / 64 ^ (need + 1) % 64 + 128 = b.toNat := by omega
    rw [h.encodes n (by omega) (by omega) (by omega), continuation, ofNat_eq_of_toNat hbyte,
      List.append_assoc, List.singleton_append]

/-- The last byte, if it is within the bounds, completes a character. -/
theorem last (h : IsOpen part 0 lo hi bits) (hlo : lo ≤ b.toNat) (hhi : b.toNat ≤ hi) :
    String.utf8EncodeChar (Char.ofNat (bits * 64 + (b.toNat - 0x80))) = part ++ [b] := by
  have hbound := h.lo_le
  have hbound' := h.hi_le
  have hbyte : (bits * 64 + (b.toNat - 0x80)) % 64 + 128 = b.toNat := by omega
  have hone : ∀ n : Nat, n / 64 ^ 0 = n := fun n => Nat.div_one n
  rw [h.encodes _ (by omega) (by rw [hone]; omega) (by rw [hone]; omega), continuation,
    ofNat_eq_of_toNat hbyte]

theorem ne_nil (h : IsOpen part need lo hi bits) : part ≠ [] := by
  rintro rfl
  cases h.reads []

/-- There is a character that goes on as allowed. -/
theorem starts (h : IsOpen part need lo hi bits) : Starts part := by
  have hbound := h.lo_le
  have hbound' := h.lo_le_hi
  have hbound'' := h.hi_le
  have hpos : 0 < 64 ^ need := Nat.pow_pos (by omega)
  have hnext : (bits * 64 + (lo - 0x80)) * 64 ^ need / 64 ^ need = bits * 64 + (lo - 0x80) :=
    Nat.mul_div_cancel _ hpos
  have hbits : (bits * 64 + (lo - 0x80)) * 64 ^ need / 64 ^ (need + 1) = bits := by
    rw [Nat.pow_succ, ← Nat.div_div_eq_div_mul, hnext]
    omega
  -- the least byte that may come next belongs to some character
  have hchar := h.encodes _ hbits (by rw [hnext]; omega) (by rw [hnext]; omega)
  exact ⟨_, _, hchar.symm⟩

/-- Where the sequence does not go on, the scanner finds a gap. -/
theorem scan_eq (h : IsOpen part need lo hi bits)
    (hrest : ∀ b ∈ rest.head?, ¬ (lo ≤ b.toNat ∧ b.toNat ≤ hi)) :
    scan .outside (part ++ rest) = none :: scan .outside rest := by
  rw [h.reads]
  rcases rest with _ | ⟨b, rest⟩
  · rfl
  · have hb : ¬ (lo ≤ b.toNat ∧ b.toNat ≤ hi) := hrest b rfl
    have hstep : step (.inside need lo hi bits) b = (none :: (openWith b).1, (openWith b).2) := by
      rw [step, if_neg hb]
    rw [scan_cons, hstep, List.cons_append, scan_cons, step]

/-- **It is a gap**, which no character makes longer. -/
theorem isGap (h : IsOpen part need lo hi bits)
    (hrest : ∀ b ∈ rest.head?, ¬ (lo ≤ b.toNat ∧ b.toNat ≤ hi)) : IsGap part rest := by
  refine ⟨h.ne_nil, not_prefix_of_scan (h.scan_eq hrest), Or.inr h.starts, ?_⟩
  rintro longer hlonger hstarts
  refine Nat.le_of_not_lt fun hlength => ?_
  obtain ⟨more, rfl⟩ : part <+: longer :=
    List.prefix_of_prefix_length_le (List.prefix_append _ _) hlonger (by omega)
  have hmore : more <+: rest := (List.prefix_append_right_inj part).mp hlonger
  rcases more with _ | ⟨b, more⟩
  · rw [List.append_nil] at hlength
    omega
  · -- the longer part has the byte that the sequence does not go on with
    obtain ⟨tail, rfl⟩ := hmore
    refine not_starts_of_scan (fun tail => ?_) hstarts
    have hnext : ∀ b' ∈ (b :: more ++ tail).head?, ¬ (lo ≤ b'.toNat ∧ b'.toNat ≤ hi) := by
      rintro b' ⟨⟩
      exact hrest b rfl
    rw [List.append_assoc, h.scan_eq hnext]
    exact ⟨_, rfl⟩

/-- An open sequence is a gap, unless a byte within the bounds comes next. -/
theorem gap_or_next (h : IsOpen part need lo hi bits) (bs : List UInt8) :
    IsGap part bs ∧ scan .outside (part ++ bs) = none :: scan .outside bs ∨
      ∃ b rest, bs = b :: rest ∧ lo ≤ b.toNat ∧ b.toNat ≤ hi := by
  rcases bs with _ | ⟨b, rest⟩
  · exact Or.inl ⟨h.isGap nofun, h.scan_eq nofun⟩
  by_cases hb : lo ≤ b.toNat ∧ b.toNat ≤ hi
  · exact Or.inr ⟨b, rest, rfl, hb.1, hb.2⟩
  · have hrest : ∀ b' ∈ (b :: rest).head?, ¬ (lo ≤ b'.toNat ∧ b'.toNat ≤ hi) := by
      rintro b' ⟨⟩
      exact hb
    exact Or.inl ⟨h.isGap hrest, h.scan_eq hrest⟩

/-- An open sequence becomes a character or a gap. -/
theorem exists_part (h : IsOpen part need lo hi bits) (bs : List UInt8) :
    (∃ c rest, part ++ bs = String.utf8EncodeChar c ++ rest) ∨
      ∃ gap rest, IsGap gap rest ∧ part ++ bs = gap ++ rest ∧
        scan .outside (part ++ bs) = none :: scan .outside rest := by
  -- on the number of bytes that are missing
  induction need generalizing part lo hi bits bs with
  | zero =>
    rcases h.gap_or_next bs with ⟨hgap, hscan⟩ | ⟨b, rest, rfl, hlo, hhi⟩
    · exact Or.inr ⟨part, bs, hgap, rfl, hscan⟩
    · have hlast := h.last hlo hhi
      refine Or.inl ⟨Char.ofNat (bits * 64 + (b.toNat - 0x80)), rest, ?_⟩
      rw [hlast, List.append_assoc, List.singleton_append]
  | succ need ih =>
    rcases h.gap_or_next bs with ⟨hgap, hscan⟩ | ⟨b, rest, rfl, hlo, hhi⟩
    · exact Or.inr ⟨part, bs, hgap, rfl, hscan⟩
    · have hmore := ih (h.more hlo hhi) rest
      rwa [List.append_assoc, List.singleton_append] at hmore

end IsOpen

/-! ### The scanner -/

/-- **Bytes start with a character or with a gap**, and the scanner finds the gap. -/
theorem exists_part (hne : bs ≠ []) :
    (∃ c rest, bs = String.utf8EncodeChar c ++ rest) ∨
      ∃ gap rest, IsGap gap rest ∧ bs = gap ++ rest ∧
        scan .outside bs = none :: scan .outside rest := by
  obtain ⟨b, rest, rfl⟩ := List.exists_cons_of_ne_nil hne
  rcases openWith_cases b with ⟨c, -, hchar⟩ | hopen | ⟨need, lo, hi, bits, -, hopen⟩
  · exact Or.inl ⟨c, rest, by rw [hchar, List.singleton_append]⟩
  · refine Or.inr ⟨[b], rest, isGap_of_openWith hopen rest, rfl, ?_⟩
    rw [scan_cons, step, hopen, List.singleton_append]
  · exact hopen.exists_part rest

/-- No two gaps start at the same place. -/
theorem IsGap.unique {part' rest' : List UInt8} (h : IsGap part rest) (h' : IsGap part' rest')
    (heq : part ++ rest = part' ++ rest') : part = part' ∧ rest = rest' := by
  have hle : ∀ {p r p' r' : List UInt8}, IsGap p r → IsGap p' r' → p ++ r = p' ++ r' →
      p.length ≤ p'.length := by
    intro p r p' r' hp hp' hbytes
    rcases hp.starts with hone | hstarts
    · have hpos := List.length_pos_iff.mpr hp'.ne_nil
      omega
    · exact hp'.longest p (hbytes ▸ List.prefix_append p r) hstarts
  exact List.append_inj heq (Nat.le_antisymm (hle h h' heq) (hle h' h heq.symm))

/-- The scanner finds every gap. -/
theorem IsGap.scan_eq (h : IsGap part rest) :
    scan .outside (part ++ rest) = none :: scan .outside rest := by
  have hne : part ++ rest ≠ [] := by simp [h.ne_nil]
  rcases exists_part hne with ⟨c, tail, hchar⟩ | ⟨gap, tail, hgap, hbytes, hscan⟩
  · exact absurd ⟨tail, hchar.symm⟩ (h.broken c)
  · rw [hscan, (h.unique hgap hbytes).2]

theorem utf8EncodeChar_ne_nil (c : Char) : String.utf8EncodeChar c ≠ [] := by
  intro h
  have hscan := scan_utf8EncodeChar c []
  rw [h] at hscan
  cases hscan

/-- The scanner divides bytes into characters and gaps. -/
theorem segments_scan (bs : List UInt8) : Segments bs (scan .outside bs) := by
  -- on the length: the first character or gap leaves fewer bytes
  induction hlength : bs.length using Nat.strongRecOn generalizing bs with
  | ind n ih =>
    subst hlength
    by_cases hne : bs = []
    · subst hne
      exact .nil
    rcases exists_part hne with ⟨c, rest, hchar⟩ | ⟨gap, rest, hgap, hbytes, hscan⟩
    · have hshorter : rest.length < bs.length := by
        have hpos := List.length_pos_iff.mpr (utf8EncodeChar_ne_nil c)
        rw [hchar, List.length_append]
        omega
      have hrest := ih rest.length hshorter rest rfl
      rw [hchar, scan_utf8EncodeChar]
      exact .char c hrest
    · have hshorter : rest.length < bs.length := by
        have hpos := List.length_pos_iff.mpr hgap.ne_nil
        rw [hbytes, List.length_append]
        omega
      have hrest := ih rest.length hshorter rest rfl
      rw [hscan, hbytes]
      exact .gap hgap hrest

/-- **The scanner finds the characters and the gaps**, and bytes are divided into them in no other
way. -/
theorem scan_eq_iff : scan .outside bs = units ↔ Segments bs units := by
  constructor
  · rintro rfl
    exact segments_scan bs
  · intro h
    induction h with
    | nil => rfl
    | char c _ ih => rw [scan_utf8EncodeChar, ih]
    | gap hgap _ ih => rw [hgap.scan_eq, ih]

/-- **Lossy decoding** keeps the characters and puts U+FFFD in the place of every gap. -/
theorem decodeLossy_eq (h : Segments bs units) :
    decodeLossy bs = units.map fun unit => unit.getD '\uFFFD' := by
  rw [decodeLossy, scan_eq_iff.mpr h]

example : decodeLossy [0xe2, 0x82, 0x30, 0xed, 0xa0] = ['\uFFFD', '0', '\uFFFD', '\uFFFD'] := by
  decide

/-! ### Text, and text in front of a gap -/

/-- Bytes are a text, or a text in front of a gap. -/
theorem exists_text_or_gap (bs : List UInt8) :
    ∃ s, bs = encode s ∨ ∃ part rest, IsGap part rest ∧ bs = encode s ++ (part ++ rest) := by
  have hsegments := segments_scan bs
  generalize scan .outside bs = units at hsegments
  -- the characters up to the first gap are the text
  induction hsegments with
  | nil => exact ⟨[], Or.inl rfl⟩
  | char c _ ih =>
    obtain ⟨s, hs⟩ := ih
    refine ⟨c :: s, ?_⟩
    have hencode : encode (c :: s) = String.utf8EncodeChar c ++ encode s := List.flatMap_cons ..
    rcases hs with rfl | ⟨part, rest, hgap, rfl⟩
    · exact Or.inl hencode.symm
    · exact Or.inr ⟨part, rest, hgap, by rw [hencode, List.append_assoc]⟩
  | gap hgap _ _ => exact ⟨[], Or.inr ⟨_, _, hgap, rfl⟩⟩

theorem mapM_id_eq_none (h : none ∈ units) : units.mapM id = none := by
  induction units with
  | nil => cases h
  | cons unit units ih =>
    rw [List.mapM_cons]
    rcases unit with _ | c
    · rfl
    · have hrest := ih ((List.mem_cons.mp h).resolve_left nofun)
      rw [hrest]
      rfl

/-- **Strict decoding** gives back a text, and refuses whatever is no text. -/
theorem decode?_eq_some_iff {s : List Char} : decode? bs = some s ↔ encode s = bs := by
  constructor
  · intro h
    obtain ⟨t, rfl | ⟨part, rest, hgap, rfl⟩⟩ := exists_text_or_gap bs
    · rw [decode?_encode, Option.some.injEq] at h
      rw [h]
    · have hmem : none ∈ scan .outside (encode t ++ (part ++ rest)) := by
        rw [scan_encode_append, hgap.scan_eq]
        exact List.mem_append_right _ List.mem_cons_self
      rw [decode?, mapM_id_eq_none hmem] at h
      cases h
  · rintro rfl
    exact decode?_encode s

end FanControl.Text.Utf8
