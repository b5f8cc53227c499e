import FanControl.Text.Utf8

/-!
# Encoding and strict decoding of UTF-8

The scanner gives back every character that was encoded, one character for the bytes of one
(`Utf8.scan_utf8EncodeChar`), and so the bytes of a text decode to it (`textOfBytes?_bytesOfText`).

The scanner narrows the second byte of a sequence after four of the first bytes, to keep out
overlong forms, surrogates and values past U+10FFFF. What has to be seen is that no character is
kept out with them: `openWith_three` and `openWith_four` say so for the sequences of these lengths.
-/

namespace FanControl

/-- What was written item by item is read item by item. -/
theorem mapM_map_eq_some {α β γ : Type} {write : α → β} {read : β → Option γ} {f : α → γ}
    {l : List α} (h : ∀ a ∈ l, read (write a) = some (f a)) :
    (l.map write).mapM read = some (l.map f) := by
  induction l with
  | nil => rfl
  | cons a l ih =>
    have hfirst := h a List.mem_cons_self
    have hrest := ih fun b hb => h b (List.mem_cons_of_mem a hb)
    rw [List.map_cons, List.mapM_cons, hfirst, hrest]
    rfl

namespace Text.Utf8

theorem scan_cons (p : Progress) (b : UInt8) (bs : List UInt8) :
    scan p (b :: bs) = (step p b).1 ++ scan (step p b).2 bs := by
  cases p <;> rfl

/-! ### Bytes inside a sequence -/

section Inside

variable {lo hi bits n : Nat} {bs : List UInt8}

/-- The last byte of a sequence completes a character. -/
theorem scan_last (hbyte : n < 256) (hlo : lo ≤ n) (hhi : n ≤ hi) :
    scan (.inside 0 lo hi bits) (UInt8.ofNat n :: bs) =
      some (Char.ofNat (bits * 64 + (n - 0x80))) :: scan .outside bs := by
  have hn : (UInt8.ofNat n).toNat = n := UInt8.toNat_ofNat_of_lt' hbyte
  have hstep : step (.inside 0 lo hi bits) (UInt8.ofNat n) =
      ([some (Char.ofNat (bits * 64 + (n - 0x80)))], .outside) := by
    simp only [step, hn, if_pos (And.intro hlo hhi)]
  rw [scan_cons, hstep, List.singleton_append]

/-- Any other byte adds its six bits. -/
theorem scan_more {need : Nat} (hbyte : n < 256) (hlo : lo ≤ n) (hhi : n ≤ hi) :
    scan (.inside (need + 1) lo hi bits) (UInt8.ofNat n :: bs) =
      scan (.inside need 0x80 0xbf (bits * 64 + (n - 0x80))) bs := by
  have hn : (UInt8.ofNat n).toNat = n := UInt8.toNat_ofNat_of_lt' hbyte
  have hstep : step (.inside (need + 1) lo hi bits) (UInt8.ofNat n) =
      ([], .inside need 0x80 0xbf (bits * 64 + (n - 0x80))) := by
    simp only [step, hn, if_pos (And.intro hlo hhi)]
  rw [scan_cons, hstep, List.nil_append]

end Inside

/-! ### The first byte -/

section First

variable {v : Nat}

theorem openWith_one (h : v < 0x80) :
    openWith (UInt8.ofNat v) = ([some (Char.ofNat v)], .outside) := by
  have hn : (UInt8.ofNat v).toNat = v := UInt8.toNat_ofNat_of_lt' (by simp [UInt8.size]; omega)
  simp only [openWith, hn, if_pos h]

theorem openWith_two (hlo : 0x80 ≤ v) (hhi : v < 0x800) :
    openWith (UInt8.ofNat (v / 64 % 32 + 192)) = ([], .inside 0 0x80 0xbf (v / 64)) := by
  have hn : (UInt8.ofNat (v / 64 % 32 + 192)).toNat = v / 64 + 192 := by
    rw [UInt8.toNat_ofNat_of_lt' (by simp [UInt8.size]; omega)]
    omega
  have hbits : v / 64 + 192 - 0xc0 = v / 64 := by omega
  simp only [openWith, hn, if_neg (show ¬ v / 64 + 192 < 0x80 by omega),
    if_neg (show ¬ v / 64 + 192 < 0xc2 by omega), if_pos (show v / 64 + 192 < 0xe0 by omega), hbits]

/-- The second byte of a sequence of three lies within the bounds that the first one sets. -/
theorem openWith_three (hlo : 0x800 ≤ v) (hhi : v < 0x10000) (hvalid : v < 0xd800 ∨ 0xdfff < v) :
    ∃ lo hi, openWith (UInt8.ofNat (v / 4096 % 16 + 224)) = ([], .inside 1 lo hi (v / 4096)) ∧
      lo ≤ v / 64 % 64 + 128 ∧ v / 64 % 64 + 128 ≤ hi := by
  have hn : (UInt8.ofNat (v / 4096 % 16 + 224)).toNat = v / 4096 + 224 := by
    rw [UInt8.toNat_ofNat_of_lt' (by simp [UInt8.size]; omega)]
    omega
  have hbits : v / 4096 + 224 - 0xe0 = v / 4096 := by omega
  have hone : ¬ v / 4096 + 224 < 0x80 := by omega
  have hgap : ¬ v / 4096 + 224 < 0xc2 := by omega
  have htwo : ¬ v / 4096 + 224 < 0xe0 := by omega
  have hthree : v / 4096 + 224 < 0xf0 := by omega
  by_cases hoverlong : v / 4096 + 224 = 0xe0
  · -- a shorter sequence would do for less
    refine ⟨0xa0, 0xbf, ?_, by omega, by omega⟩
    have hzero : v / 4096 = 0 := by omega
    simp only [openWith, hn, if_neg hone, if_neg hgap, if_neg htwo, if_pos hoverlong]
    rw [hzero]
  · by_cases hsurrogate : v / 4096 + 224 = 0xed
    · -- a larger second byte would encode a surrogate
      refine ⟨0x80, 0x9f, ?_, by omega, by omega⟩
      simp only [openWith, hn, if_neg hone, if_neg hgap, if_neg htwo, if_neg hoverlong,
        if_pos hsurrogate, hbits]
    · refine ⟨0x80, 0xbf, ?_, by omega, by omega⟩
      simp only [openWith, hn, if_neg hone, if_neg hgap, if_neg htwo, if_neg hoverlong,
        if_neg hsurrogate, if_pos hthree, hbits]

/-- The second byte of a sequence of four lies within the bounds that the first one sets. -/
theorem openWith_four (hlo : 0x10000 ≤ v) (hhi : v < 0x110000) :
    ∃ lo hi, openWith (UInt8.ofNat (v / 262144 % 8 + 240)) = ([], .inside 2 lo hi (v / 262144)) ∧
      lo ≤ v / 4096 % 64 + 128 ∧ v / 4096 % 64 + 128 ≤ hi := by
  have hn : (UInt8.ofNat (v / 262144 % 8 + 240)).toNat = v / 262144 + 240 := by
    rw [UInt8.toNat_ofNat_of_lt' (by simp [UInt8.size]; omega)]
    omega
  have hbits : v / 262144 + 240 - 0xf0 = v / 262144 := by omega
  have hone : ¬ v / 262144 + 240 < 0x80 := by omega
  have hgap : ¬ v / 262144 + 240 < 0xc2 := by omega
  have htwo : ¬ v / 262144 + 240 < 0xe0 := by omega
  have hthird : ¬ v / 262144 + 240 = 0xe0 := by omega
  have hsurrogate : ¬ v / 262144 + 240 = 0xed := by omega
  have hthree : ¬ v / 262144 + 240 < 0xf0 := by omega
  by_cases hoverlong : v / 262144 + 240 = 0xf0
  · -- a shorter sequence would do for less
    refine ⟨0x90, 0xbf, ?_, by omega, by omega⟩
    have hzero : v / 262144 = 0 := by omega
    simp only [openWith, hn, if_neg hone, if_neg hgap, if_neg htwo, if_neg hthird,
      if_neg hsurrogate, if_neg hthree, if_pos hoverlong]
    rw [hzero]
  · by_cases hfour : v / 262144 + 240 < 0xf4
    · refine ⟨0x80, 0xbf, ?_, by omega, by omega⟩
      simp only [openWith, hn, if_neg hone, if_neg hgap, if_neg htwo, if_neg hthird,
        if_neg hsurrogate, if_neg hthree, if_neg hoverlong, if_pos hfour, hbits]
    · -- the last plane ends inside the sequences of this first byte
      have hlast : v / 262144 + 240 = 0xf4 := by omega
      refine ⟨0x80, 0x8f, ?_, by omega, by omega⟩
      simp only [openWith, hn, if_neg hone, if_neg hgap, if_neg htwo, if_neg hthird,
        if_neg hsurrogate, if_neg hthree, if_neg hoverlong, if_neg hfour, if_pos hlast, hbits]

end First

/-! ### Whole characters -/

/-- **The bytes of a character scan to it**, whatever follows. -/
theorem scan_utf8EncodeChar (c : Char) (bs : List UInt8) :
    scan .outside (String.utf8EncodeChar c ++ bs) = some c :: scan .outside bs := by
  have hvalid : c.val.toNat < 0xd800 ∨ 0xdfff < c.val.toNat ∧ c.val.toNat < 0x110000 := c.valid
  have hchar : Char.ofNat c.val.toNat = c := Char.ofNat_toNat c
  simp only [String.utf8EncodeChar]
  generalize c.val.toNat = v at hvalid hchar ⊢
  -- by the length of the encoding; the bits of its bytes make up the number again
  by_cases hone : v ≤ 127
  · rw [if_pos hone, List.singleton_append, scan_cons, step, openWith_one (by omega), hchar,
      List.singleton_append]
  rw [if_neg hone]
  by_cases htwo : v ≤ 2047
  · have hbits : v / 64 * 64 + (v % 64 + 128 - 0x80) = v := by omega
    rw [if_pos htwo, List.cons_append, scan_cons, step, openWith_two (by omega) (by omega),
      List.nil_append, List.singleton_append, scan_last (by omega) (by omega) (by omega), hbits,
      hchar]
  rw [if_neg htwo]
  by_cases hthree : v ≤ 65535
  · obtain ⟨lo, hi, hopen, hlo, hhi⟩ := openWith_three (v := v) (by omega) (by omega) (by omega)
    have hbits : (v / 4096 * 64 + (v / 64 % 64 + 128 - 0x80)) * 64 + (v % 64 + 128 - 0x80) = v := by
      omega
    rw [if_pos hthree, List.cons_append, scan_cons, step, hopen, List.nil_append, List.cons_append,
      scan_more (by omega) hlo hhi, List.singleton_append,
      scan_last (by omega) (by omega) (by omega), hbits, hchar]
  · obtain ⟨lo, hi, hopen, hlo, hhi⟩ := openWith_four (v := v) (by omega) (by omega)
    have hbits : ((v / 262144 * 64 + (v / 4096 % 64 + 128 - 0x80)) * 64 +
        (v / 64 % 64 + 128 - 0x80)) * 64 + (v % 64 + 128 - 0x80) = v := by
      omega
    rw [if_neg hthree, List.cons_append, scan_cons, step, hopen, List.nil_append, List.cons_append,
      scan_more (by omega) hlo hhi, List.cons_append, scan_more (by omega) (by omega) (by omega),
      List.singleton_append, scan_last (by omega) (by omega) (by omega), hbits, hchar]

theorem scan_encode_append (s : List Char) (bs : List UInt8) :
    scan .outside (encode s ++ bs) = s.map some ++ scan .outside bs := by
  induction s with
  | nil => rfl
  | cons c s ih =>
    have hsplit : encode (c :: s) ++ bs = String.utf8EncodeChar c ++ (encode s ++ bs) := by
      simp only [encode, List.flatMap_cons, List.append_assoc]
    rw [hsplit, scan_utf8EncodeChar, ih, List.map_cons, List.cons_append]

theorem scan_encode (s : List Char) : scan .outside (encode s) = s.map some := by
  simpa [scan] using scan_encode_append s []

/-- **The bytes of a text decode to it.** -/
theorem decode?_encode (s : List Char) : decode? (encode s) = some s := by
  have hread : (s.map some).mapM id = some (s.map id) := mapM_map_eq_some fun _ _ => rfl
  rw [decode?, scan_encode, hread, List.map_id]

/-- Lossy decoding keeps a text as it is. -/
theorem decodeLossy_encode (s : List Char) : decodeLossy (encode s) = s := by
  rw [decodeLossy, scan_encode, List.map_map]
  exact List.map_id s

end Text.Utf8

/-- The bytes of a text stand for it. -/
theorem textOfBytes?_bytesOfText (s : String) : textOfBytes? (bytesOfText s) = some s := by
  rw [textOfBytes?, bytesOfText, Text.Utf8.decode?_encode, Option.map_some, String.ofList_toList]

end FanControl
