import FanControl.Proofs.LineReading

/-!
# The grammar of the control pipe

A line is a mode request, a frequency request, or neither (`Command.Grammar`). What the forms look
like is said without the reader: line feeds and carriage returns may stand in front, the head of the
request stands there letter for letter, and white space may stand behind the word of a mode
(`AsksMode`), anything behind the head of a frequency request (`AsksFrequency`).
`Command.parse_grammar` says that the reader keeps to this on every line.

The reader cuts off line ends on both sides first, the forms mention them on the left only. The
right side takes care of itself: line ends are white space, which may stand behind a mode and does
not count behind an integer. So a line may be looked at without the line ends in front
(`asksMode_iff`, `asksFrequency_iff`), and then it shows the head of a request or it does not.
-/

namespace FanControl.Command

variable {line text : String} {mode : Mode} {value : Int64}

/-! ### The forms -/

/-- Line feeds and carriage returns. -/
def IsLineEnds (s : String) : Prop := ∀ c ∈ s.toList, c = '\n' ∨ c = '\r'

/-- White space. -/
def IsBlanks (s : String) : Prop := ∀ c ∈ s.toList, Text.isBlank c = true

/-- A line that asks for a mode. -/
def AsksMode (mode : Mode) (line : String) : Prop :=
  ∃ ends blanks, IsLineEnds ends ∧ IsBlanks blanks ∧
    line = ends ++ "set_mode " ++ mode.text ++ blanks

/-- A line that asks for a frequency: the integer that its payload starts with. -/
def AsksFrequency (value : Int64) (line : String) : Prop :=
  ∃ ends payload, IsLineEnds ends ∧ line = ends ++ "set_freq " ++ payload ∧
    value = Text.Decimal.leadingInt64 payload.toList

/-- What remains of a line when the line ends at its ends are removed. -/
structure IsCore (text line : String) : Prop where
  cut : ∃ front back, IsLineEnds front ∧ IsLineEnds back ∧ line = front ++ text ++ back
  first : ∀ c ∈ text.toList.head?, ¬ (c = '\n' ∨ c = '\r')
  last : ∀ c ∈ text.toList.getLast?, ¬ (c = '\n' ∨ c = '\r')

/-- The same letters, one of them at least in the other case. -/
def IsOtherCase (s t : String) : Prop :=
  s ≠ t ∧ s.toList.map Char.toLower = t.toList.map Char.toLower

/-! ### Without the line ends in front -/

theorem isLineEnd_iff {c : Char} : isLineEnd c = true ↔ c = '\n' ∨ c = '\r' := by
  rw [isLineEnd, Bool.or_eq_true, beq_iff_eq, beq_iff_eq]

theorem IsLineEnds.isLineEnd {s : String} (h : IsLineEnds s) :
    ∀ c ∈ s.toList, Command.isLineEnd c = true := fun c hc => isLineEnd_iff.mpr (h c hc)

/-- The line without the line ends in front. -/
def opened (line : String) : List Char := line.toList.dropWhile isLineEnd

/-- Line ends in front are dropped, up to the first other character. -/
theorem opened_append {ends s : String} (hends : IsLineEnds ends)
    (hs : s.toList.dropWhile isLineEnd = s.toList) : opened (ends ++ s) = s.toList := by
  rw [opened, String.toList_append, List.dropWhile_append_of_pos hends.isLineEnd, hs]

theorem dropWhile_modeHead (rest : List Char) :
    (modeHead ++ rest).dropWhile isLineEnd = modeHead ++ rest := rfl

theorem dropWhile_frequencyHead (rest : List Char) :
    (frequencyHead ++ rest).dropWhile isLineEnd = frequencyHead ++ rest := rfl

theorem ofList_modeHead : String.ofList modeHead = "set_mode " := String.ofList_toList

theorem ofList_frequencyHead : String.ofList frequencyHead = "set_freq " := String.ofList_toList

theorem opened_modeHead {ends : String} (hends : IsLineEnds ends) (rest : String) :
    opened (ends ++ "set_mode " ++ rest) = modeHead ++ rest.toList := by
  have htext : ("set_mode " ++ rest).toList = modeHead ++ rest.toList := String.toList_append ..
  rw [String.append_assoc, opened_append hends (by rw [htext, dropWhile_modeHead]), htext]

theorem opened_frequencyHead {ends : String} (hends : IsLineEnds ends) (rest : String) :
    opened (ends ++ "set_freq " ++ rest) = frequencyHead ++ rest.toList := by
  have htext : ("set_freq " ++ rest).toList = frequencyHead ++ rest.toList :=
    String.toList_append ..
  rw [String.append_assoc, opened_append hends (by rw [htext, dropWhile_frequencyHead]), htext]

/-- What was dropped can be put back. -/
theorem exists_lineEnds_append (line : String) :
    ∃ ends, IsLineEnds ends ∧ line = ends ++ String.ofList (opened line) := by
  refine ⟨String.ofList (line.toList.takeWhile isLineEnd), fun c hc => ?_, ?_⟩
  · rw [String.toList_ofList] at hc
    exact isLineEnd_iff.mp (List.mem_takeWhile_imp hc)
  · rw [← String.ofList_append, opened, List.takeWhile_append_dropWhile, String.ofList_toList]

theorem strip_eq_dropEndWhile_opened (line : String) :
    Text.strip isLineEnd line.toList = Text.dropEndWhile isLineEnd (opened line) := rfl

theorem asksMode_iff :
    AsksMode mode line ↔
      ∃ blanks, (∀ c ∈ blanks, Text.isBlank c = true) ∧
        opened line = modeHead ++ (mode.text.toList ++ blanks) := by
  constructor
  · rintro ⟨ends, blanks, hends, hblanks, rfl⟩
    refine ⟨blanks.toList, hblanks, ?_⟩
    rw [String.append_assoc, opened_modeHead hends, String.toList_append]
  · rintro ⟨blanks, hblanks, hopened⟩
    -- the line ends in front are those that were dropped
    obtain ⟨ends, hends, hline⟩ := exists_lineEnds_append line
    refine ⟨ends, String.ofList blanks, hends, ?_, ?_⟩
    · rwa [IsBlanks, String.toList_ofList]
    · rw [hline, hopened, String.ofList_append, String.ofList_append, ofList_modeHead,
        String.ofList_toList, String.append_assoc, String.append_assoc]

theorem asksFrequency_iff :
    AsksFrequency value line ↔
      ∃ payload, opened line = frequencyHead ++ payload ∧
        value = Text.Decimal.leadingInt64 payload := by
  constructor
  · rintro ⟨ends, payload, hends, rfl, rfl⟩
    exact ⟨payload.toList, opened_frequencyHead hends payload, rfl⟩
  · rintro ⟨payload, hopened, rfl⟩
    obtain ⟨ends, hends, hline⟩ := exists_lineEnds_append line
    refine ⟨ends, String.ofList payload, hends, ?_, by rw [String.toList_ofList]⟩
    rw [hline, hopened, String.ofList_append, ofList_frequencyHead, String.append_assoc]

/-! ### The reader -/

/-- The mode that a line says, seen on the line without the line ends in front. -/
theorem parse_eq_setMode_iff : parse line = .setMode mode ↔ AsksMode mode line := by
  rw [parse, ofBody_eq_setMode_iff, asksMode_iff, SaysMode, strip_eq_dropEndWhile_opened]
  constructor
  · rintro ⟨blanks, hblanks, hbody⟩
    obtain ⟨⟨cut, hcut, hopened⟩, -⟩ := Text.dropEndWhile_eq_iff.mp hbody
    -- line ends are white space, so those behind the word count as blanks of the request
    refine ⟨blanks ++ cut, fun c hc => ?_, ?_⟩
    · rcases List.mem_append.mp hc with hc | hc
      · exact hblanks c hc
      · exact isBlank_of_isLineEnd (hcut c hc)
    · rw [hopened]
      simp only [List.append_assoc]
  · rintro ⟨blanks, hblanks, hopened⟩
    -- the word ends in a letter, which stops the removal of line ends
    have hlast : ∀ c ∈ (modeHead ++ mode.text.toList).getLast?, isLineEnd c = false := by
      cases mode <;> rintro _ ⟨⟩ <;> rfl
    obtain ⟨⟨cut, -, hcut⟩, -⟩ :=
      Text.dropEndWhile_eq_iff.mp (rfl : Text.dropEndWhile isLineEnd blanks = _)
    refine ⟨Text.dropEndWhile isLineEnd blanks, fun c hc => hblanks c ?_, ?_⟩
    · rw [hcut]
      exact List.mem_append_left _ hc
    · rw [hopened, ← List.append_assoc, Text.dropEndWhile_append_left hlast]

theorem ofBody_eq_setFrequency_iff {body : List Char} :
    ofBody body = .setFrequency value ↔
      ∃ payload, body = frequencyHead ++ payload ∧
        value = Text.Decimal.leadingInt64 payload := by
  -- the head of a frequency request is tested first, and it decides
  by_cases hfrequency : frequencyHead <+: body
  · obtain ⟨rest, rfl⟩ := hfrequency
    rw [ofBody_frequencyHead, setFrequency.injEq]
    constructor
    · rintro rfl
      exact ⟨rest, rfl, rfl⟩
    · rintro ⟨payload, hrest, rfl⟩
      rw [List.append_cancel_left hrest]
  · rw [ofBody_of_no_frequency hfrequency]
    constructor
    · split <;> rintro ⟨⟩
    · rintro ⟨payload, rfl, -⟩
      exact absurd (List.prefix_append _ _) hfrequency

/-- The frequency that a line says, seen on the line without the line ends in front. -/
theorem parse_eq_setFrequency_iff :
    parse line = .setFrequency value ↔ AsksFrequency value line := by
  rw [parse, ofBody_eq_setFrequency_iff, asksFrequency_iff, strip_eq_dropEndWhile_opened]
  constructor
  · rintro ⟨payload, hbody, rfl⟩
    obtain ⟨⟨cut, hcut, hopened⟩, -⟩ := Text.dropEndWhile_eq_iff.mp hbody
    refine ⟨payload ++ cut, ?_, ?_⟩
    · rw [hopened, List.append_assoc]
    · -- line ends behind the payload are white space, and do not count
      exact (Text.Decimal.leadingInt64_append fun c hc => isBlank_of_isLineEnd (hcut c hc)).symm
  · rintro ⟨payload, hopened, rfl⟩
    have hlast : ∀ c ∈ frequencyHead.getLast?, isLineEnd c = false := by
      rintro _ ⟨⟩
      rfl
    refine ⟨Text.dropEndWhile isLineEnd payload, ?_, ?_⟩
    · rw [hopened, Text.dropEndWhile_append_left hlast]
    · exact (leadingInt64_dropEndWhile payload).symm

/-- What remains of a line is its body. -/
theorem isCore_iff : IsCore text line ↔ Text.strip isLineEnd line.toList = text.toList := by
  have hends : ∀ c, isLineEnd c = false ↔ ¬ (c = '\n' ∨ c = '\r') := fun c => by
    rw [← Bool.not_eq_true, isLineEnd_iff]
  rw [Text.strip_eq_iff]
  constructor
  · rintro ⟨⟨front, back, hfront, hback, rfl⟩, hfirst, hlast⟩
    refine ⟨⟨front.toList, back.toList, hfront.isLineEnd, hback.isLineEnd, ?_⟩,
      fun c hc => (hends c).mpr (hfirst c hc), fun c hc => (hends c).mpr (hlast c hc)⟩
    rw [String.toList_append, String.toList_append]
  · -- the parts were lists of characters, and are put back as texts
    rintro ⟨⟨front, back, hfront, hback, hline⟩, hfirst, hlast⟩
    refine ⟨⟨String.ofList front, String.ofList back, fun c hc => ?_, fun c hc => ?_, ?_⟩,
      fun c hc => (hends c).mp (hfirst c hc), fun c hc => (hends c).mp (hlast c hc)⟩
    · rw [String.toList_ofList] at hc
      exact isLineEnd_iff.mp (hfront c hc)
    · rw [String.toList_ofList] at hc
      exact isLineEnd_iff.mp (hback c hc)
    · rw [← String.toList_inj, hline, String.toList_append, String.toList_append,
        String.toList_ofList, String.toList_ofList]

/-- Every other line says what remains of it. -/
theorem parse_eq_unknown_iff :
    parse line = .unknown text ↔
      (∀ mode, ¬ AsksMode mode line) ∧ (∀ value, ¬ AsksFrequency value line) ∧
        IsCore text line := by
  simp only [← parse_eq_setMode_iff, ← parse_eq_setFrequency_iff, isCore_iff]
  constructor
  · intro h
    refine ⟨fun mode hmode => ?_, fun value hvalue => ?_, ?_⟩
    · cases h.symm.trans hmode
    · cases h.symm.trans hvalue
    · exact (ofBody_eq_unknown_iff.mp h).1
  · rintro ⟨hmode, hvalue, hcore⟩
    -- the other two answers are excluded, and the text is the one that remains
    rcases hparse : parse line with value | mode | other
    · exact absurd hparse (hvalue value)
    · exact absurd hparse (hmode mode)
    · obtain ⟨hother, -⟩ := ofBody_eq_unknown_iff.mp hparse
      rw [← String.toList_inj.mp (hcore.symm.trans hother)]

/-! ### Lines that are no request -/

/-- A line that is neither kind of request says that it is unknown. -/
theorem exists_unknown (hmode : ∀ mode, ¬ AsksMode mode line)
    (hfrequency : ∀ value, ¬ AsksFrequency value line) : ∃ text, parse line = .unknown text := by
  rcases hparse : parse line with value | mode | text
  · exact absurd (parse_eq_setFrequency_iff.mp hparse) (hfrequency value)
  · exact absurd (parse_eq_setMode_iff.mp hparse) (hmode mode)
  · exact ⟨text, rfl⟩

theorem length_heads : frequencyHead.length = 9 ∧ modeHead.length = 9 := ⟨rfl, rfl⟩

/-- The nine characters of a head have to be there. -/
theorem exists_unknown_of_take (hfrequency : (opened line).take 9 ≠ frequencyHead)
    (hmode : (opened line).take 9 ≠ modeHead) : ∃ text, parse line = .unknown text := by
  apply exists_unknown
  · intro mode h
    obtain ⟨blanks, -, hopened⟩ := asksMode_iff.mp h
    exact hmode (by rw [hopened, List.take_left' length_heads.2])
  · intro value h
    obtain ⟨payload, hopened, -⟩ := asksFrequency_iff.mp h
    exact hfrequency (by rw [hopened, List.take_left' length_heads.1])

/-- Behind the head of a mode request there has to be the word of a mode, with white space at most
after it. -/
theorem exists_unknown_of_trimEnd {ends rest : String} (hends : IsLineEnds ends)
    (h : ∀ mode : Mode, Text.trimEnd rest.toList ≠ mode.text.toList) :
    ∃ text, parse (ends ++ "set_mode " ++ rest) = .unknown text := by
  apply exists_unknown
  · intro mode hmode
    obtain ⟨blanks, hblanks, hopened⟩ := asksMode_iff.mp hmode
    rw [opened_modeHead hends] at hopened
    have hrest : rest.toList = mode.text.toList ++ blanks := List.append_cancel_left hopened
    exact h mode (trimEnd_eq_text_iff.mpr ⟨blanks, hblanks, hrest⟩)
  · intro value hvalue
    obtain ⟨payload, hopened, -⟩ := asksFrequency_iff.mp hvalue
    rw [opened_modeHead hends] at hopened
    -- the two heads differ, so no line has both
    have hnone := afterPrefix?_frequencyHead_modeHead rest.toList
    rw [hopened, Text.afterPrefix?_eq_some_iff.mpr rfl] at hnone
    cases hnone

/-- A blank before the word of a mode is one too many. -/
theorem exists_unknown_of_blank {ends : String} (hends : IsLineEnds ends) {blank : Char}
    (hblank : Text.isBlank blank = true) (rest : String) :
    ∃ text, parse (ends ++ "set_mode " ++ (String.singleton blank ++ rest)) = .unknown text := by
  apply exists_unknown_of_trimEnd hends
  intro mode h
  obtain ⟨blanks, -, hrest⟩ := trimEnd_eq_text_iff.mp h
  have hfirst : ∀ c ∈ (mode.text.toList ++ blanks).head?, Text.isBlank c = false := by
    cases mode <;> rintro _ ⟨⟩ <;> rfl
  rw [← hrest, String.toList_append, String.toList_singleton] at hfirst
  have hword : Text.isBlank blank = false := hfirst blank rfl
  rw [hblank] at hword
  cases hword

/-- The space of a head is part of it. -/
theorem exists_unknown_of_no_space {ends word rest : String} (hends : IsLineEnds ends)
    (hword : word = "set_mode" ∨ word = "set_freq") (hrest : rest.toList.head? ≠ some ' ') :
    ∃ text, parse (ends ++ word ++ rest) = .unknown text := by
  have hopened : opened (ends ++ word ++ rest) = word.toList ++ rest.toList := by
    have hstart : (word ++ rest).toList.dropWhile isLineEnd = (word ++ rest).toList := by
      rw [String.toList_append]
      rcases hword with rfl | rfl <;> rfl
    rw [String.append_assoc, opened_append hends hstart, String.toList_append]
  have hlength : word.toList.length = 8 := by rcases hword with rfl | rfl <;> rfl
  have htake : (opened (ends ++ word ++ rest)).take 9 = word.toList ++ rest.toList.take 1 := by
    rw [hopened, List.take_append, hlength, List.take_of_length_le (by omega)]
  have hspace : rest.toList.take 1 ≠ [' '] := by
    rcases hlist : rest.toList with _ | ⟨c, cs⟩
    · nofun
    · intro h
      rw [hlist] at hrest
      exact hrest (congrArg List.head? h)
  -- the first eight characters are those of the head, or not; then the space is missing
  apply exists_unknown_of_take
  · rw [htake]
    intro h
    have hhead : frequencyHead = "set_freq".toList ++ [' '] := rfl
    rw [hhead] at h
    exact hspace (List.append_inj h hlength).2
  · rw [htake]
    intro h
    have hhead : modeHead = "set_mode".toList ++ [' '] := rfl
    rw [hhead] at h
    exact hspace (List.append_inj h hlength).2

/-! ### Letters of the other case -/

theorem toLower_of_isBlank {c : Char} (h : Text.isBlank c = true) : c.toLower = c := by
  refine dif_neg ?_
  rintro ⟨hlow, hhigh⟩
  have hlow : 65 ≤ c.toNat := UInt32.le_iff_toNat_le.mp hlow
  have hhigh : c.toNat ≤ 90 := UInt32.le_iff_toNat_le.mp hhigh
  simp only [Text.isBlank, Text.blankRanges, List.any_cons, List.any_nil, Bool.or_false,
    Bool.or_eq_true, Bool.and_eq_true, decide_eq_true_eq] at h
  omega

theorem toLower_of_isLineEnd {c : Char} (h : isLineEnd c = true) : c.toLower = c :=
  toLower_of_isBlank (isBlank_of_isLineEnd h)

/-- A head in another case is no head. -/
theorem exists_unknown_of_otherCase {ends head : String} (hends : IsLineEnds ends)
    (hhead : IsOtherCase head "set_mode " ∨ IsOtherCase head "set_freq ") (rest : String) :
    ∃ text, parse (ends ++ head ++ rest) = .unknown text := by
  have hlower : head.toList.map Char.toLower = modeHead ∨
      head.toList.map Char.toLower = frequencyHead :=
    hhead.imp And.right And.right
  have hlength : head.toList.length = 9 := by
    rw [← List.length_map (f := Char.toLower)]
    rcases hlower with h | h
    · exact (congrArg List.length h).trans length_heads.2
    · exact (congrArg List.length h).trans length_heads.1
  -- a head starts with a letter, so no line end is dropped from it
  have hstart : (head ++ rest).toList.dropWhile isLineEnd = (head ++ rest).toList := by
    rw [String.toList_append]
    rcases hlist : head.toList with _ | ⟨c, cs⟩
    · rw [hlist] at hlength
      cases hlength
    · have hc : c.toLower = 's' := by
        rw [hlist] at hlower
        rcases hlower with h | h <;> exact (List.cons.inj h).1
      have hend : ¬ isLineEnd c = true := by
        intro hend
        rw [toLower_of_isLineEnd hend] at hc
        subst hc
        cases hend
      exact List.dropWhile_cons_of_neg hend
  have htake : (opened (ends ++ head ++ rest)).take 9 = head.toList := by
    rw [String.append_assoc, opened_append hends hstart, String.toList_append,
      List.take_left' hlength]
  -- one head in the other case could be the other head, if they had the same letters
  have hdiffer : modeHead.map Char.toLower ≠ frequencyHead.map Char.toLower := by decide
  apply exists_unknown_of_take
  · rw [htake]
    intro h
    rcases hhead with ⟨-, hmode⟩ | ⟨hne, -⟩
    · rw [h] at hmode
      exact hdiffer hmode.symm
    · exact hne (String.toList_inj.mp h)
  · rw [htake]
    intro h
    rcases hhead with ⟨hne, -⟩ | ⟨-, hfrequency⟩
    · exact hne (String.toList_inj.mp h)
    · rw [h] at hfrequency
      exact hdiffer hfrequency

/-- The word of a mode in another case is no word of a mode. -/
theorem exists_unknown_of_otherCase_word {ends word blanks : String} (hends : IsLineEnds ends)
    (hword : IsOtherCase word mode.text) (hblanks : IsBlanks blanks) :
    ∃ text, parse (ends ++ "set_mode " ++ (word ++ blanks)) = .unknown text := by
  obtain ⟨hne, hlower⟩ := hword
  have hletters : ∀ c ∈ mode.text.toList, c.toLower = c ∧ Text.isBlank c = false := by
    have hall : (mode.text.toList.all fun c => c.toLower == c && !Text.isBlank c) = true := by
      cases mode <;> rfl
    intro c hc
    simpa using List.all_eq_true.mp hall c hc
  -- its last character is a letter, as that of the mode is; so only the blanks are trimmed
  have hlast : ∀ c ∈ word.toList.getLast?, Text.isBlank c = false := by
    intro c hc
    by_contra hblank
    have hblank : Text.isBlank c = true := Bool.of_not_eq_false hblank
    have hmem : c.toLower ∈ mode.text.toList.map Char.toLower := by
      rw [← hlower]
      exact List.mem_map_of_mem (List.mem_of_getLast? hc)
    obtain ⟨letter, hletter, heq⟩ := List.mem_map.mp hmem
    rw [(hletters letter hletter).1, toLower_of_isBlank hblank] at heq
    rw [← heq, (hletters letter hletter).2] at hblank
    cases hblank
  have htrim : Text.trimEnd (word ++ blanks).toList = word.toList := by
    rw [String.toList_append]
    exact Text.dropEndWhile_eq_iff.mpr ⟨⟨blanks.toList, hblanks, rfl⟩, hlast⟩
  apply exists_unknown_of_trimEnd hends
  intro other h
  rw [htrim] at h
  rw [h] at hlower
  -- the words of different modes also differ in lower case
  have hsame : other = mode := by
    revert hlower
    cases other <;> cases mode <;> decide
  rw [hsame] at h
  exact hne (String.toList_inj.mp h)

/-! ### The main statement -/

/-- What holds of a line. -/
structure Grammar (line : String) : Prop where
  /-- It says a mode if it asks for it, and only then. -/
  mode : ∀ mode, parse line = .setMode mode ↔ AsksMode mode line
  /-- It says a frequency if it asks for it, and only then. -/
  frequency : ∀ value, parse line = .setFrequency value ↔ AsksFrequency value line
  /-- In all other cases it says what remains of it, and in no others. -/
  unknown : ∀ text, parse line = .unknown text ↔
    (∀ mode, ¬ AsksMode mode line) ∧ (∀ value, ¬ AsksFrequency value line) ∧ IsCore text line
  /-- No line is both kinds of request. -/
  exclusive : ∀ mode value, ¬ (AsksMode mode line ∧ AsksFrequency value line)
  /-- No line asks for two modes, or for two frequencies. -/
  unambiguous : (∀ mode mode', AsksMode mode line → AsksMode mode' line → mode = mode') ∧
    ∀ value value', AsksFrequency value line → AsksFrequency value' line → value = value'
  /-- Line ends behind it do not change what it says. -/
  ended : ∀ ends, IsLineEnds ends → parse (line ++ ends) = parse line
  /-- Behind the head of a mode request and a further blank it is not understood. -/
  blank : ∀ ends blank, IsLineEnds ends → Text.isBlank blank = true →
    ∃ text, parse (ends ++ "set_mode " ++ (String.singleton blank ++ line)) = .unknown text
  /-- Behind a head without its space it is not understood. -/
  noSpace : ∀ ends word, IsLineEnds ends → word = "set_mode" ∨ word = "set_freq" →
    line.toList.head? ≠ some ' ' → ∃ text, parse (ends ++ word ++ line) = .unknown text
  /-- Behind a head in another case it is not understood. -/
  headCase : ∀ ends head, IsLineEnds ends →
    IsOtherCase head "set_mode " ∨ IsOtherCase head "set_freq " →
    ∃ text, parse (ends ++ head ++ line) = .unknown text
  /-- If it is the word of a mode in another case, it is not understood as a mode. -/
  wordCase : ∀ ends (mode : Mode) blanks, IsLineEnds ends → IsOtherCase line mode.text →
    IsBlanks blanks → ∃ text, parse (ends ++ "set_mode " ++ (line ++ blanks)) = .unknown text

/-- **The reader keeps to the grammar**, on every line. -/
theorem parse_grammar (line : String) : Grammar line where
  mode _ := parse_eq_setMode_iff
  frequency _ := parse_eq_setFrequency_iff
  unknown _ := parse_eq_unknown_iff
  exclusive mode value h := by
    have hmode := parse_eq_setMode_iff.mpr h.1
    cases hmode.symm.trans (parse_eq_setFrequency_iff.mpr h.2)
  unambiguous := by
    refine ⟨fun mode mode' h h' => ?_, fun value value' h h' => ?_⟩
    · have hmode := parse_eq_setMode_iff.mpr h
      exact setMode.inj (hmode.symm.trans (parse_eq_setMode_iff.mpr h'))
    · have hvalue := parse_eq_setFrequency_iff.mpr h
      exact setFrequency.inj (hvalue.symm.trans (parse_eq_setFrequency_iff.mpr h'))
  ended ends hends := by
    rw [parse, parse, String.toList_append, Text.strip_append hends.isLineEnd]
  blank _ _ hends hblank := exists_unknown_of_blank hends hblank line
  noSpace _ _ hends hword hline := exists_unknown_of_no_space hends hword hline
  headCase _ _ hends hhead := exists_unknown_of_otherCase hends hhead line
  wordCase _ _ _ hends hword hblanks := exists_unknown_of_otherCase_word hends hword hblanks

end FanControl.Command
