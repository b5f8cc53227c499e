import FanControl.Proofs.CommandText
import FanControl.Proofs.TextEnds

/-!
# What a line can say

The body of a line is read in one of three ways: as a frequency request (`ofBody_frequencyHead`), as
a mode request (`ofBody_eq_setMode_iff`), or as itself (`ofBody_eq_unknown_iff`). So a line can say
any mode, any frequency but the least 64-bit integer, and any text that is neither kind of request
and has no line end at either of its ends (`Command.IsSayable`). These are exactly the commands that
are read back as they were written (`Command.parse_line_eq_iff`).
-/

namespace FanControl.Command

variable {body : List Char} {mode : Mode} {value : Int64} {text : String}

/-! ### The body of a line -/

/-- A mode request: its head, the word of the mode, and white space at most after it. -/
def SaysMode (mode : Mode) (body : List Char) : Prop :=
  ∃ blanks, (∀ c ∈ blanks, Text.isBlank c = true) ∧ body = modeHead ++ mode.text.toList ++ blanks

theorem afterPrefix?_frequencyHead_modeHead (rest : List Char) :
    Text.afterPrefix? frequencyHead (modeHead ++ rest) = none := rfl

theorem afterPrefix?_eq_none_iff {pre s : List Char} :
    Text.afterPrefix? pre s = none ↔ ¬ pre <+: s := by
  rw [Option.eq_none_iff_forall_ne_some]
  constructor
  · rintro h ⟨rest, rfl⟩
    exact h rest (Text.afterPrefix?_eq_some_iff.mpr rfl)
  · intro h rest hrest
    exact h ⟨rest, (Text.afterPrefix?_eq_some_iff.mp hrest).symm⟩

/-- The word of a mode does not end in white space. -/
theorem trimEnd_eq_text_iff {rest : List Char} :
    Text.trimEnd rest = mode.text.toList ↔
      ∃ blanks, (∀ c ∈ blanks, Text.isBlank c = true) ∧ rest = mode.text.toList ++ blanks := by
  have hlast : ∀ c ∈ mode.text.toList.getLast?, Text.isBlank c = false := by
    cases mode <;> rintro _ ⟨⟩ <;> rfl
  rw [Text.trimEnd, Text.dropEndWhile_eq_iff, and_iff_left hlast]

/-- The mode that is read after the head of a mode request. -/
theorem mode_eq_some_iff :
    ((Text.afterPrefix? modeHead body).bind fun rest =>
      Mode.ofText? (String.ofList (Text.trimEnd rest))) = some mode ↔ SaysMode mode body := by
  have hword : ∀ rest, Mode.ofText? (String.ofList (Text.trimEnd rest)) = some mode ↔
      Text.trimEnd rest = mode.text.toList := by
    intro rest
    rw [Mode.ofText?_eq_some_iff, ← String.toList_inj, String.toList_ofList]
  rw [Option.bind_eq_some_iff]
  constructor
  · rintro ⟨rest, hrest, hmode⟩
    obtain ⟨blanks, hblanks, hrest'⟩ := trimEnd_eq_text_iff.mp ((hword rest).mp hmode)
    refine ⟨blanks, hblanks, ?_⟩
    rw [Text.afterPrefix?_eq_some_iff.mp hrest, hrest', List.append_assoc]
  · rintro ⟨blanks, hblanks, rfl⟩
    refine ⟨mode.text.toList ++ blanks, ?_, ?_⟩
    · rw [Text.afterPrefix?_eq_some_iff, List.append_assoc]
    · exact (hword _).mpr (trimEnd_eq_text_iff.mpr ⟨blanks, hblanks, rfl⟩)

theorem ofBody_frequencyHead (rest : List Char) :
    ofBody (frequencyHead ++ rest) = .setFrequency (Text.Decimal.leadingInt64 rest) := by
  rw [ofBody, Text.afterPrefix?_eq_some_iff.mpr rfl]

/-- A body without the head of a frequency request. -/
theorem ofBody_of_no_frequency (h : ¬ frequencyHead <+: body) :
    ofBody body =
      match (Text.afterPrefix? modeHead body).bind fun rest =>
          Mode.ofText? (String.ofList (Text.trimEnd rest)) with
      | some mode => .setMode mode
      | none => .unknown (String.ofList body) := by
  have hnone : Text.afterPrefix? frequencyHead body = none := afterPrefix?_eq_none_iff.mpr h
  unfold ofBody
  generalize Text.afterPrefix? frequencyHead body = found at hnone ⊢
  subst hnone
  rfl

theorem SaysMode.no_frequency (h : SaysMode mode body) : ¬ frequencyHead <+: body := by
  obtain ⟨blanks, -, rfl⟩ := h
  rw [← afterPrefix?_eq_none_iff, List.append_assoc, afterPrefix?_frequencyHead_modeHead]

/-- Mode requests, and nothing else, say a mode. -/
theorem ofBody_eq_setMode_iff : ofBody body = .setMode mode ↔ SaysMode mode body := by
  by_cases hfrequency : frequencyHead <+: body
  · obtain ⟨rest, rfl⟩ := hfrequency
    rw [ofBody_frequencyHead]
    constructor
    · rintro ⟨⟩
    · exact fun h => absurd (List.prefix_append _ _) h.no_frequency
  · rw [ofBody_of_no_frequency hfrequency, ← mode_eq_some_iff]
    split
    · next found hfound => rw [hfound, Option.some.injEq, setMode.injEq]
    · next hnone =>
      rw [hnone]
      constructor <;> rintro ⟨⟩

/-- A body that is no request says itself. -/
theorem ofBody_eq_unknown_iff :
    ofBody body = .unknown text ↔
      body = text.toList ∧ ¬ frequencyHead <+: body ∧ ∀ mode, ¬ SaysMode mode body := by
  by_cases hfrequency : frequencyHead <+: body
  · obtain ⟨rest, rfl⟩ := hfrequency
    rw [ofBody_frequencyHead]
    constructor
    · rintro ⟨⟩
    · exact fun h => absurd (List.prefix_append _ _) h.2.1
  · simp only [hfrequency, not_false_eq_true, true_and, ← mode_eq_some_iff]
    rw [ofBody_of_no_frequency hfrequency]
    split
    · -- a mode was read: the body is its request, which the right side excludes
      next found hfound =>
      constructor
      · rintro ⟨⟩
      · exact fun h => absurd hfound (h.2 found)
    · next hnone =>
      rw [unknown.injEq, hnone, ← String.toList_inj, String.toList_ofList]
      exact (and_iff_left fun _ => nofun).symm

/-! ### Lines -/

theorem isLineEnd_eq_false_iff {c : Char} : isLineEnd c = false ↔ c ≠ '\n' ∧ c ≠ '\r' := by
  rw [isLineEnd, Bool.or_eq_false_iff, beq_eq_false_iff_ne, beq_eq_false_iff_ne]

theorem isBlank_of_isLineEnd {c : Char} (h : isLineEnd c = true) : Text.isBlank c = true := by
  rw [isLineEnd, Bool.or_eq_true, beq_iff_eq, beq_iff_eq] at h
  rcases h with rfl | rfl <;> decide

/-- Cutting off line ends does not change the integer that a text starts with. -/
theorem leadingInt64_dropEndWhile (s : List Char) :
    Text.Decimal.leadingInt64 (Text.dropEndWhile isLineEnd s) = Text.Decimal.leadingInt64 s := by
  obtain ⟨⟨cut, hcut, hs⟩, -⟩ :=
    Text.dropEndWhile_eq_iff.mp (rfl : Text.dropEndWhile isLineEnd s = _)
  conv_rhs => rw [hs]
  exact (Text.Decimal.leadingInt64_append fun c hc => isBlank_of_isLineEnd (hcut c hc)).symm

/-- The line feed at the end of a written line is cut off again. -/
theorem parse_line (c : Command) : parse c.line = ofBody (Text.strip isLineEnd c.chars) := by
  rw [parse, line, String.toList_ofList, Text.strip_append]
  intro ch hch
  rw [List.mem_singleton.mp hch]
  rfl

/-- A written command is read alike with and without its line feed. -/
theorem parse_line_eq_parse_text (c : Command) : parse c.line = parse c.text := by
  rw [parse_line, parse, Command.text, String.toList_ofList]

/-- A text that a line can say as it is: it neither begins nor ends with a line feed or a carriage
return, it does not start as a frequency request does, and it is no mode request. -/
structure IsFreeText (text : List Char) : Prop where
  first : ∀ c ∈ text.head?, c ≠ '\n' ∧ c ≠ '\r'
  last : ∀ c ∈ text.getLast?, c ≠ '\n' ∧ c ≠ '\r'
  not_frequency : ¬ frequencyHead <+: text
  not_mode : ∀ mode, ¬ SaysMode mode text

/-- What a line can say: any mode, any frequency but the least 64-bit integer, and any free text. -/
def IsSayable : Command → Prop
  | .setFrequency value => value ≠ Int64.minValue
  | .setMode _ => True
  | .unknown text => IsFreeText text.toList

/-- What a line says can be said. -/
theorem isSayable_parse (line : String) : (parse line).IsSayable := by
  -- the least integer is out of reach of a payload; a free text is what no request was found in
  rcases hparse : parse line with value | mode | text
  · by_cases hfrequency : frequencyHead <+: Text.strip isLineEnd line.toList
    · obtain ⟨rest, hrest⟩ := hfrequency
      rw [parse, ← hrest, ofBody_frequencyHead] at hparse
      exact setFrequency.inj hparse ▸ Text.Decimal.leadingInt64_ne_minValue rest
    · rw [parse, ofBody_of_no_frequency hfrequency] at hparse
      split at hparse <;> cases hparse
  · exact trivial
  · obtain ⟨htext, hfrequency, hmode⟩ := ofBody_eq_unknown_iff.mp hparse
    obtain ⟨hfirst, hlast⟩ :=
      Text.strip_eq_self_iff.mp (Text.strip_strip isLineEnd line.toList)
    rw [htext] at hfirst hlast hfrequency hmode
    exact ⟨fun c hc => isLineEnd_eq_false_iff.mp (hfirst c hc),
      fun c hc => isLineEnd_eq_false_iff.mp (hlast c hc), hfrequency, hmode⟩

/-- What can be said is read back as it was written. -/
theorem IsSayable.parse_line {c : Command} (h : c.IsSayable) : parse c.line = c := by
  rcases c with value | mode | text
  · rw [parse_line_eq_parse_text]
    exact parse_text (c := .setFrequency value) h
  · rw [parse_line_eq_parse_text]
    exact parse_text (c := .setMode mode) trivial
  · have hstrip : Text.strip isLineEnd text.toList = text.toList :=
      Text.strip_eq_self_iff.mpr
        ⟨fun c hc => isLineEnd_eq_false_iff.mpr (h.first c hc),
          fun c hc => isLineEnd_eq_false_iff.mpr (h.last c hc)⟩
    rw [Command.parse_line, chars, hstrip]
    exact ofBody_eq_unknown_iff.mpr ⟨rfl, h.not_frequency, h.not_mode⟩

/-- **A command is read back as it was written if and only if some line says it.** These commands
are every mode, every frequency but the least 64-bit integer, and every free text; the least
integer is read back as the one after it. So what a line says stays the same when it is written and
read once more. -/
theorem parse_line_eq_iff (c : Command) :
    (parse c.line = c ↔ ∃ line, parse line = c) ∧
    ((∃ line, parse line = c) ↔ c.IsSayable) ∧
    parse (setFrequency Int64.minValue).line = .setFrequency (-0x7fffffffffffffff) ∧
    ∀ line, parse (parse line).line = parse line := by
  -- a command that can be said is said by its own line
  have himage : (∃ line, parse line = c) ↔ c.IsSayable := by
    constructor
    · rintro ⟨line, rfl⟩
      exact isSayable_parse line
    · exact fun h => ⟨c.line, h.parse_line⟩
  refine ⟨?_, himage, ?_, fun line => (isSayable_parse line).parse_line⟩
  · rw [himage]
    constructor
    · exact fun h => h ▸ isSayable_parse c.line
    · exact IsSayable.parse_line
  · rfl

end FanControl.Command
