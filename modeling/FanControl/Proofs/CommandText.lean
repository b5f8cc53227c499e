import FanControl.CommandPipe
import FanControl.Proofs.Decimal
import FanControl.Proofs.Framing
import FanControl.Proofs.Utf8
import Mathlib.Data.List.Basic
import Mathlib.Data.List.TakeWhile
import Mathlib.Data.Nat.Digits.Defs

/-!
# Commands are read back as they were written

A command is written in printing ASCII characters. Each of them is one byte and none of these is a
line feed, so a written command is one segment of the command stream, and it is never blank nor too
long. Every mode and every frequency but the least 64-bit integer is read back
(`Command.parse_text`), and therefore a stream of commands says these commands
(`Command.parse_texts`), in this order.
-/

namespace FanControl

namespace Text

/-- A character of printing ASCII. -/
def isPlain (c : Char) : Bool := 0x20 ≤ c.toNat && c.toNat < 0x7f

theorem isPlain_iff {c : Char} : isPlain c = true ↔ 0x20 ≤ c.toNat ∧ c.toNat < 0x7f := by
  simp [isPlain]

theorem isPlain_of_isDigit {c : Char} (h : c.isDigit = true) : isPlain c = true := by
  have hrange := Char.isDigit_iff_toNat.mp h
  have hzero : '0'.toNat = 48 := rfl
  have hnine : '9'.toNat = 57 := rfl
  rw [isPlain_iff]
  omega

theorem isPlain_of_mem_signed {i : Int} {c : Char} (h : c ∈ Decimal.signed i) :
    isPlain c = true := by
  rw [Decimal.signed] at h
  split at h
  · rcases List.mem_cons.mp h with rfl | h
    · decide
    · exact isPlain_of_isDigit (Decimal.isDigit_of_mem_digits h)
  · exact isPlain_of_isDigit (Decimal.isDigit_of_mem_digits h)

namespace Utf8

/-! ### Plain text as bytes -/

theorem utf8EncodeChar_of_isPlain {c : Char} (h : isPlain c = true) :
    String.utf8EncodeChar c = [UInt8.ofNat c.toNat] := by
  have hc : c.val.toNat ≤ 127 := by
    have := (isPlain_iff.mp h).2
    rw [Char.toNat] at this
    omega
  rw [String.utf8EncodeChar]
  exact if_pos hc

/-- A plain text has one byte for each character. -/
theorem encode_of_isPlain {s : List Char} (h : ∀ c ∈ s, isPlain c = true) :
    encode s = s.map fun c => UInt8.ofNat c.toNat := by
  rw [encode, List.map_eq_flatMap]
  exact List.flatMap_congr fun c hc => utf8EncodeChar_of_isPlain (h c hc)

/-- None of them is a line feed. -/
theorem lineFeed_not_mem_encode {s : List Char} (h : ∀ c ∈ s, isPlain c = true) :
    10 ∉ encode s := by
  rw [encode_of_isPlain h, List.mem_map]
  rintro ⟨c, hc, hbyte⟩
  obtain ⟨hle, hlt⟩ := isPlain_iff.mp (h c hc)
  have hnat := congrArg UInt8.toNat hbyte
  rw [UInt8.toNat_ofNat_of_lt' (by rw [UInt8.size]; omega)] at hnat
  have hten : (10 : UInt8).toNat = 10 := rfl
  omega

end Utf8

namespace Decimal

/-! ### Integers -/

theorem length_signed {i : Int} (h : -0x8000000000000000 ≤ i ∧ i < 0x8000000000000000) :
    (signed i).length ≤ 20 := by
  have hdigits : (digits i.natAbs).length ≤ 19 :=
    Nat.toDigits_length 10 _ 19 (by decide) (by omega)
  rw [signed]
  split
  · rw [List.length_cons]
    omega
  · omega

theorem leadingMagnitude_digits {n : Nat} (h : n ≤ maxInt64) : leadingMagnitude (digits n) = n := by
  have htake : (digits n).takeWhile Char.isDigit = digits n :=
    List.takeWhile_eq_self_iff.mpr fun _ => isDigit_of_mem_digits
  rw [leadingMagnitude, htake, valueUpTo_eq_min, value_digits, Nat.min_eq_left h]

theorem splitSign_digits (n : Nat) : splitSign (digits n) = (false, digits n) := by
  obtain ⟨d, ds, hds, hminus, hplus⟩ := digits_eq_cons n
  rw [hds]
  exact splitSign.eq_3 _ (fun ds h => hminus (List.cons.inj h).1)
    fun ds h => hplus (List.cons.inj h).1

theorem trimStart_signed (i : Int) : trimStart (signed i) = signed i :=
  dropWhile_eq_self fun _ => isBlank_of_mem_signed

/-- **Every 64-bit integer but the least is read back.** -/
theorem leadingInt64_signed {value : Int64} (h : value ≠ Int64.minValue) :
    leadingInt64 (signed value.toInt) = value := by
  have hmin : value.toInt ≠ -2 ^ 63 := fun heq =>
    h (Int64.toInt_inj.mp (heq.trans Int64.toInt_minValue.symm))
  have hle := value.le_toInt
  have hlt := value.toInt_lt
  -- the magnitude fits, because the one that would not belongs to the least integer
  have hmagnitude : leadingMagnitude (digits value.toInt.natAbs) = value.toInt.natAbs :=
    leadingMagnitude_digits (by rw [maxInt64]; omega)
  rw [leadingInt64, trimStart_signed, signed]
  by_cases hneg : value.toInt < 0
  · have habs : -(value.toInt.natAbs : Int) = value.toInt := by omega
    rw [if_pos hneg]
    simp only [splitSign, hmagnitude, if_true, habs, Int64.ofInt_toInt]
  · have habs : (value.toInt.natAbs : Int) = value.toInt := by omega
    rw [if_neg hneg, splitSign_digits]
    simp only [hmagnitude, Bool.false_eq_true, if_false, habs, Int64.ofInt_toInt]

end Decimal

end Text

/-! ### Commands -/

namespace Command

/-- What a client asks for: a mode, or any frequency but the least 64-bit integer. -/
def IsRequest : Command → Prop
  | .setFrequency value => value ≠ Int64.minValue
  | .setMode _ => True
  | .unknown _ => False

variable {c : Command}

/-- A request is written in plain characters. -/
theorem IsRequest.isPlain (h : c.IsRequest) : ∀ ch ∈ c.chars, Text.isPlain ch = true := by
  cases c with
  | setFrequency value =>
    have hhead : frequencyHead.all Text.isPlain = true := by decide
    intro ch hch
    rcases List.mem_append.mp hch with hch | hch
    · exact List.all_eq_true.mp hhead ch hch
    · exact Text.isPlain_of_mem_signed hch
  | setMode mode =>
    have hmode : (setMode mode).chars.all Text.isPlain = true := by cases mode <;> decide
    exact List.all_eq_true.mp hmode
  | unknown text => exact h.elim

/-- A request is not long. -/
theorem IsRequest.length_chars (h : c.IsRequest) : 1 ≤ c.chars.length ∧ c.chars.length ≤ 29 := by
  cases c with
  | setFrequency value =>
    have hhead : frequencyHead.length = 9 := rfl
    have hsigned : (Text.Decimal.signed value.toInt).length ≤ 20 :=
      Text.Decimal.length_signed ⟨value.le_toInt, value.toInt_lt⟩
    rw [chars, List.length_append]
    omega
  | setMode mode => cases mode <;> decide
  | unknown text => exact h.elim

/-- **A request is read back as it was written.** -/
theorem parse_text (h : c.IsRequest) : parse c.text = c := by
  have hstrip : Text.strip isLineEnd c.chars = c.chars := by
    refine Text.strip_eq_self fun ch hch => ?_
    have hplain := h.isPlain ch hch
    rw [isLineEnd, Bool.or_eq_false_iff, beq_eq_false_iff_ne, beq_eq_false_iff_ne]
    constructor <;> rintro rfl <;> cases hplain
  rw [parse, text, String.toList_ofList, hstrip]
  cases c with
  | setFrequency value =>
    rw [ofBody, chars, Text.afterPrefix?_eq_some_iff.mpr rfl]
    exact congrArg _ (Text.Decimal.leadingInt64_signed h)
  | setMode mode => cases mode <;> decide
  | unknown text => exact h.elim

/-! ### Streams of commands -/

/-- The line of a request is one segment of the stream. -/
theorem bytesOfText_line (c : Command) :
    bytesOfText c.line = Framing.ended (bytesOfText c.text) := by
  rw [bytesOfText, line, String.toList_ofList, Text.Utf8.encode, List.flatMap_append, Framing.ended,
    bytesOfText, text, String.toList_ofList, Text.Utf8.encode]
  rfl

/-- The bytes of a sequence of commands. -/
def stream (cs : List Command) : List UInt8 := cs.flatMap fun c => bytesOfText c.line

theorem bytesOfText_text (c : Command) : bytesOfText c.text = Text.Utf8.encode c.chars := by
  rw [bytesOfText, text, String.toList_ofList]

theorem stream_eq (cs : List Command) :
    stream cs = (cs.map fun c => bytesOfText c.text).flatMap Framing.ended := by
  rw [stream, List.flatMap_map]
  exact List.flatMap_congr fun c _ => bytesOfText_line c

/-- The line of a request is one segment, and it is neither blank nor too long. -/
theorem IsRequest.segment (h : c.IsRequest) :
    10 ∉ bytesOfText c.text ∧
      1 ≤ (bytesOfText c.text).length ∧ (bytesOfText c.text).length ≤ 29 := by
  have hlength := h.length_chars
  rw [bytesOfText_text]
  refine ⟨Text.Utf8.lineFeed_not_mem_encode h.isPlain, ?_⟩
  rw [Text.Utf8.encode_of_isPlain h.isPlain, List.length_map]
  exact hlength

/-- What is written is decoded as it was written. -/
theorem decode_text (c : Command) :
    String.ofList (Text.Utf8.decodeLossy (bytesOfText c.text)) = c.text := by
  rw [bytesOfText_text, Text.Utf8.decodeLossy_encode, text]

/-- The texts of a stream of requests are theirs, and nothing is unfinished after the last. -/
theorem texts_stream {cs : List Command} (h : ∀ c ∈ cs, c.IsRequest) :
    Framing.texts (stream cs) = cs.map text ∧ Framing.unfinished (stream cs) = [] := by
  have hsegments : ∀ segment ∈ cs.map fun c => bytesOfText c.text, 10 ∉ segment :=
    List.forall_mem_map.mpr fun c hc => (h c hc).segment.1
  have hlengths : ∀ segment ∈ cs.map fun c => bytesOfText c.text,
      1 ≤ segment.length ∧ segment.length ≤ 256 :=
    List.forall_mem_map.mpr fun c hc => by
      have := (h c hc).segment
      omega
  rw [stream_eq, Framing.texts, Framing.accepted_flatMap_ended hsegments hlengths, List.map_map]
  exact ⟨List.map_congr_left fun c _ => decode_text c,
    Framing.unfinished_flatMap_ended hsegments⟩

/-- **A stream of requests says these requests.** -/
theorem parse_texts {cs : List Command} (h : ∀ c ∈ cs, c.IsRequest) :
    (Framing.texts (stream cs)).map parse = cs := by
  have hread : cs.map (parse ∘ text) = cs.map id :=
    List.map_congr_left fun c hc => parse_text (h c hc)
  rw [(texts_stream h).1, List.map_map, hread, List.map_id]

end Command

end FanControl
