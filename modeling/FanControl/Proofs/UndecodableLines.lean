import FanControl.Proofs.LineGrammar
import FanControl.Proofs.LossyDecoding

/-!
# Undecodable bytes forge no command

A line of bytes that is no text reaches the reader with U+FFFD in the place of what could not be
decoded. This character is no line end, no white space, no sign and no digit, and it does not stand
in the words of the grammar. So a mode request cannot contain it, and a frequency request can have
it behind its integer only (`Command.parse_eq_setFrequency_iff_of_replacement`): then the request
was complete before it, in the bytes that are text (`IsTextBefore`).

`CommandPipe.feed_unforged` says this of the lines that the pipe hands over, in whatever pieces
their bytes are read.
-/

namespace FanControl

/-! ### The text in front -/

/-- The bytes in front of the first one that is no part of a text are those of `u`: the bytes start
with `u`, and with no longer text. -/
structure IsTextBefore (u : String) (bytes : List UInt8) : Prop where
  front : bytesOfText u <+: bytes
  longest : ∀ s, bytesOfText s <+: bytes → bytesOfText s <+: bytesOfText u

theorem IsTextBefore.unique {u u' : String} {bytes : List UInt8} (h : IsTextBefore u bytes)
    (h' : IsTextBefore u' bytes) : u = u' := by
  have hbytes : bytesOfText u = bytesOfText u' :=
    (h'.longest u h.front).eq_of_length_le (h.longest u' h'.front).length_le
  have hread := textOfBytes?_bytesOfText u
  rw [hbytes, textOfBytes?_bytesOfText, Option.some.injEq] at hread
  exact hread.symm

namespace Text.Utf8

variable {s s' : List Char} {part rest tail : List UInt8}

/-- The texts that bytes start with end before the first gap. -/
theorem prefix_of_gap (hgap : IsGap part rest)
    (h : encode s' ++ tail = encode s ++ (part ++ rest)) : s' <+: s := by
  have hscan := congrArg (scan .outside) h
  rw [scan_encode_append, scan_encode_append, hgap.scan_eq] at hscan
  -- one text ends within the other; compare where
  rcases List.append_eq_append_iff.mp hscan with ⟨more, hmore, -⟩ | ⟨more, hmore, hgaps⟩
  · obtain ⟨front, back, hs, hfront, -⟩ := List.map_eq_append_iff.mp hmore
    have hsame : front = s' := List.map_injective_iff.mpr (Option.some_injective Char) hfront
    exact ⟨back, by rw [hs, hsame]⟩
  · -- a longer text would have the gap in it
    rcases more with _ | ⟨unit, more⟩
    · rw [List.append_nil] at hmore
      have hsame : s' = s := List.map_injective_iff.mpr (Option.some_injective Char) hmore
      exact hsame ▸ List.prefix_rfl
    · obtain rfl : none = unit := (List.cons.inj hgaps).1
      have hmem : none ∈ s'.map some := by
        rw [hmore]
        exact List.mem_append_right _ List.mem_cons_self
      obtain ⟨c, -, hc⟩ := List.mem_map.mp hmem
      cases hc

theorem bytesOfText_ofList (s : List Char) : bytesOfText (String.ofList s) = encode s := by
  rw [bytesOfText, String.toList_ofList]

theorem isTextBefore_of_gap (hgap : IsGap part rest) (s : List Char) :
    IsTextBefore (String.ofList s) (encode s ++ (part ++ rest)) where
  front := by
    rw [bytesOfText_ofList]
    exact List.prefix_append _ _
  longest s' hs' := by
    obtain ⟨tail, htail⟩ := hs'
    obtain ⟨more, hmore⟩ := prefix_of_gap hgap htail
    rw [bytesOfText_ofList, ← hmore, encode, List.flatMap_append]
    exact List.prefix_append _ _

/-- Lossy decoding up to the first gap. -/
theorem decodeLossy_gap (hgap : IsGap part rest) (s : List Char) :
    decodeLossy (encode s ++ (part ++ rest)) = s ++ '\uFFFD' :: decodeLossy rest := by
  have htext : (s.map some).map (fun unit : Option Char => unit.getD '\uFFFD') = s := by
    rw [List.map_map]
    exact List.map_id s
  rw [decodeLossy, scan_encode_append, hgap.scan_eq, List.map_append, htext, List.map_cons,
    decodeLossy]
  rfl

end Text.Utf8

/-! ### The reader at U+FFFD -/

namespace Command

variable {t u : String} {rest : List Char} {mode : Mode} {value : Int64}

/-- U+FFFD does not matter to the grammar. -/
theorem replacement_plain : isLineEnd '\uFFFD' = false ∧ Text.isBlank '\uFFFD' = false ∧
    '\uFFFD' ∉ modeHead ∧ '\uFFFD' ∉ frequencyHead ∧
    ∀ mode : Mode, '\uFFFD' ∉ mode.text.toList := by
  refine ⟨by decide, by decide, by decide, by decide, fun mode => ?_⟩
  cases mode <;> decide

/-- A mode request does not contain it. -/
theorem parse_ne_setMode_of_replacement (h : '\uFFFD' ∈ t.toList) (mode : Mode) :
    parse t ≠ .setMode mode := by
  obtain ⟨hend, hblank, hhead, -, hword⟩ := replacement_plain
  rw [Ne, parse_eq_setMode_iff]
  rintro ⟨ends, blanks, hends, hblanks, rfl⟩
  simp only [String.toList_append, List.mem_append] at h
  rcases h with ((h | h) | h) | h
  · rw [hends.isLineEnd _ h] at hend
    cases hend
  · exact hhead h
  · exact hword mode h
  · rw [hblanks _ h] at hblank
    cases hblank

/-- The line ends in front of a text are those in front of a longer one that goes on with another
character. -/
theorem opened_append_cons {c : Char} (hc : isLineEnd c = false)
    (ht : t.toList = u.toList ++ c :: rest) : opened t = opened u ++ c :: rest := by
  rw [opened, ht, List.dropWhile_append, opened]
  split
  · next hempty =>
    rw [List.isEmpty_iff.mp hempty, List.nil_append]
    exact List.dropWhile_cons_of_neg (by simp [hc])
  · rfl

/-- **A frequency request is complete before it.** -/
theorem parse_eq_setFrequency_iff_of_replacement (ht : t.toList = u.toList ++ '\uFFFD' :: rest) :
    parse t = .setFrequency value ↔ parse u = .setFrequency value := by
  obtain ⟨hend, hblank, -, hhead, -⟩ := replacement_plain
  -- U+FFFD ends the integer, as it is neither white space nor a sign nor a digit
  have hinteger : ∀ p, Text.Decimal.leadingInt64 (p ++ '\uFFFD' :: rest) =
      Text.Decimal.leadingInt64 p := fun p =>
    Text.Decimal.leadingInt64_append_cons hblank (by decide) (by decide) (by decide) p rest
  rw [parse_eq_setFrequency_iff, parse_eq_setFrequency_iff, asksFrequency_iff, asksFrequency_iff,
    opened_append_cons hend ht]
  constructor
  · rintro ⟨payload, hopened, rfl⟩
    rcases List.append_eq_append_iff.mp hopened with ⟨more, hmore, hpayload⟩ | ⟨p, hp, hpayload⟩
    · rcases more with _ | ⟨c, more⟩
      · rw [List.append_nil] at hmore
        rw [List.nil_append] at hpayload
        refine ⟨[], by rw [List.append_nil, hmore], ?_⟩
        rw [← hpayload]
        exact hinteger []
      · -- the head is not complete before it, so it would stand in the head
        obtain rfl : '\uFFFD' = c := (List.cons.inj hpayload).1
        refine absurd ?_ hhead
        rw [hmore]
        exact List.mem_append_right _ List.mem_cons_self
    · -- the head is complete, and the payload goes on over U+FFFD
      exact ⟨p, hp, by rw [hpayload, hinteger]⟩
  · rintro ⟨p, hp, rfl⟩
    refine ⟨p ++ '\uFFFD' :: rest, ?_, (hinteger p).symm⟩
    rw [hp, List.append_assoc]

end Command

/-! ### The main statement -/

/-- What holds of a line of bytes and the text `t` that it is decoded to. -/
structure Unforged (bytes : List UInt8) (t : String) : Prop where
  /-- The characters that are encoded stay, and U+FFFD stands in the place of every gap. -/
  decoded : ∃ units, Text.Utf8.Segments bytes units ∧
    t.toList = units.map fun unit => unit.getD '\uFFFD'
  /-- The bytes of a text are decoded to it. -/
  kept : ∀ s, bytesOfText s = bytes → t = s
  /-- Bytes that are no text do not ask for a mode. -/
  mode : (∀ s, bytesOfText s ≠ bytes) → ∀ mode, Command.parse t ≠ .setMode mode
  /-- There is a text in front of what cannot be decoded, be it empty. -/
  before : ∃ u, IsTextBefore u bytes
  /-- Bytes that are no text ask for a frequency if this text does, and for the same one. -/
  frequency : (∀ s, bytesOfText s ≠ bytes) → ∀ u, IsTextBefore u bytes → ∀ value,
    Command.parse t = .setFrequency value ↔ Command.parse u = .setFrequency value

theorem unforged_decodeLossy (bytes : List UInt8) :
    Unforged bytes (String.ofList (Text.Utf8.decodeLossy bytes)) := by
  have hdecoded : ∃ units, Text.Utf8.Segments bytes units ∧
      (String.ofList (Text.Utf8.decodeLossy bytes)).toList =
        units.map fun unit => unit.getD '\uFFFD' := by
    have hsegments := Text.Utf8.segments_scan bytes
    exact ⟨_, hsegments, by rw [String.toList_ofList, Text.Utf8.decodeLossy_eq hsegments]⟩
  have hkept : ∀ s, bytesOfText s = bytes →
      String.ofList (Text.Utf8.decodeLossy bytes) = s := by
    rintro s rfl
    rw [bytesOfText, Text.Utf8.decodeLossy_encode, String.ofList_toList]
  obtain ⟨s, rfl | ⟨part, rest, hgap, rfl⟩⟩ := Text.Utf8.exists_text_or_gap bytes
  · -- the whole line is a text
    have htext := Text.Utf8.bytesOfText_ofList s
    exact {
      decoded := hdecoded
      kept := hkept
      mode := fun h => absurd htext (h _)
      before := ⟨String.ofList s, ⟨htext ▸ List.prefix_rfl, fun s' hs' => htext ▸ hs'⟩⟩
      frequency := fun h => absurd htext (h _) }
  · -- the text in front of the first gap is followed by U+FFFD
    have hbefore := Text.Utf8.isTextBefore_of_gap hgap s
    have hlossy : (String.ofList (Text.Utf8.decodeLossy
        (Text.Utf8.encode s ++ (part ++ rest)))).toList =
          (String.ofList s).toList ++ '\uFFFD' :: Text.Utf8.decodeLossy rest := by
      rw [String.toList_ofList, String.toList_ofList, Text.Utf8.decodeLossy_gap hgap]
    exact {
      decoded := hdecoded
      kept := hkept
      mode := by
        refine fun _ => Command.parse_ne_setMode_of_replacement ?_
        rw [hlossy]
        exact List.mem_append_right _ List.mem_cons_self
      before := ⟨_, hbefore⟩
      frequency := by
        intro _ u hu value
        rw [hu.unique hbefore]
        exact Command.parse_eq_setFrequency_iff_of_replacement hlossy }

namespace CommandPipe

variable {c : CommandPipe} {bytes : List UInt8} {chunks : List (List UInt8)}

/-- A pipe on which nothing is pending hands over the line that is read, unless it is empty. -/
theorem lines_feed_of_initial (hc : c.framing = .initial) (hline : 10 ∉ bytes)
    (hlength : bytes.length ≤ 256) (hchunks : chunks.flatten = Framing.ended bytes) :
    lines (c.feed chunks).1 =
      if bytes = [] then [] else [String.ofList (Text.Utf8.decodeLossy bytes)] := by
  have htexts := (Framing.feed_initial (Framing.ended bytes)).2
  rw [Framing.texts, Framing.ended, Framing.accepted_append_lineFeed hline,
    Framing.accepted_of_not_mem List.not_mem_nil, List.append_nil] at htexts
  rw [feed_eq, hc, hchunks, Framing.ended, htexts]
  -- an empty line is given no text
  by_cases hempty : bytes = []
  · rw [if_pos hempty, if_neg (by simp [hempty])]
    rfl
  · have hpos := List.length_pos_iff.mpr hempty
    rw [if_neg hempty, if_pos ⟨hpos, hlength⟩]
    rfl

/-- **Undecodable bytes forge no command.** A line of at most 256 bytes is read from a pipe on which
nothing is pending, in pieces of any size. If it is not empty, the pipe hands over one text for it.
The bytes of a text give this text. Bytes that are no text give a text that is no mode request, and
that is a frequency request only if the text in front of what cannot be decoded already is this
request. -/
theorem feed_unforged (hc : c.framing = .initial) (hline : 10 ∉ bytes)
    (hlength : bytes.length ≤ 256) (hchunks : chunks.flatten = Framing.ended bytes) :
    ∃ t, lines (c.feed chunks).1 = (if bytes = [] then [] else [t]) ∧ Unforged bytes t :=
  ⟨_, lines_feed_of_initial hc hline hlength hchunks, unforged_decodeLossy bytes⟩

/-- A frequency request, and then a digit that is left of a character cut short. The two pieces in
which it is read part the character once more. -/
theorem feed_unforged_cut_short :
    let bytes := bytesOfText "set_freq 7" ++ [0xe2, 0x82, 0x30]
    let pipe : CommandPipe := ⟨"/run/fan-manager.pipe", 0, .initial⟩
    (∀ s, bytesOfText s ≠ bytes) ∧
      ∃ t, lines (pipe.feed [bytes.take 11, bytes.drop 11 ++ [10]]).1 = [t] ∧
        Unforged bytes t ∧ Command.parse t = .setFrequency 7 := by
  intro bytes pipe
  have hnot : ∀ s, bytesOfText s ≠ bytes := by
    intro s hs
    have hread := textOfBytes?_bytesOfText s
    have hnone : textOfBytes? bytes = none := by decide
    rw [hs, hnone] at hread
    cases hread
  have hchunks : [bytes.take 11, bytes.drop 11 ++ [10]].flatten = Framing.ended bytes := by decide
  obtain ⟨t, hlines, hunforged⟩ := feed_unforged (c := pipe) rfl (by decide) (by decide) hchunks
  have htext : lines (pipe.feed [bytes.take 11, bytes.drop 11 ++ [10]]).1 =
      ["set_freq 7\uFFFD0"] := by decide
  refine ⟨hnot, t, hlines, hunforged, ?_⟩
  obtain rfl : "set_freq 7\uFFFD0" = t := (List.cons.inj (htext.symm.trans hlines)).1
  decide

end CommandPipe

end FanControl
