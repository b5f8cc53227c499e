import FanControl.Client
import FanControl.Proofs.LineReading
import FanControl.Proofs.RefusedLines

/-!
# The client lets through what the daemon accepts

A client reads the text that it is given on its own, and looks at the mode on its own; the daemon
reads the line that is sent, and looks at the mode again. They cut off different characters and
check in a different order, and still agree:

* the same integers and the same modes are read (`Command.parse_frequencyHead`,
  `Command.parse_modeHead_eq_iff`);
* the client turns away exactly what the gate turns away (`Change.apply_error_autoModeActive_iff`);
* the outcome of a request follows from the mode and from one write
  (`Change.perform_result`).

`Client.agreement` puts this together.
-/

namespace FanControl

/-! ### Reading the same text -/

namespace Command

/-- A text after a head: its line ends are cut off, the head stays. -/
theorem parse_append {head : String} (hne : head.toList ≠ [])
    (hfirst : ∀ c ∈ head.toList.head?, isLineEnd c = false)
    (hlast : ∀ c ∈ head.toList.getLast?, isLineEnd c = false) (raw : String) :
    parse (head ++ raw) = ofBody (head.toList ++ Text.dropEndWhile isLineEnd raw.toList) := by
  rw [parse, String.toList_append, Text.strip_append_left hne hfirst hlast]

/-- A frequency request says the integer that its text starts with. -/
theorem parse_frequencyHead (raw : String) :
    parse ("set_freq " ++ raw) = .setFrequency (Text.Decimal.leadingInt64 raw.toList) := by
  rw [parse_append (by decide) (by rintro _ ⟨⟩; rfl) (by rintro _ ⟨⟩; rfl)]
  exact (ofBody_frequencyHead _).trans (congrArg _ (leadingInt64_dropEndWhile _))

/-- A mode request says the mode whose word it is, up to white space at its end. -/
theorem parse_modeHead_eq_iff {raw : String} {mode : Mode} :
    parse ("set_mode " ++ raw) = .setMode mode ↔ Text.trimEnd raw.toList = mode.text.toList := by
  -- what the end of the line takes away is white space, which goes anyway
  have hcut : Text.trimEnd (Text.dropEndWhile isLineEnd raw.toList) = Text.trimEnd raw.toList :=
    Text.dropEndWhile_dropEndWhile fun c => isBlank_of_isLineEnd
  rw [parse_append (by decide) (by rintro _ ⟨⟩; rfl) (by rintro _ ⟨⟩; rfl), ofBody_eq_setMode_iff,
    ← hcut, trimEnd_eq_text_iff]
  constructor
  · rintro ⟨blanks, hblanks, hbody⟩
    rw [List.append_assoc] at hbody
    exact ⟨blanks, hblanks, List.append_cancel_left hbody⟩
  · rintro ⟨blanks, hblanks, hrest⟩
    refine ⟨blanks, hblanks, ?_⟩
    rw [hrest, List.append_assoc]
    rfl

end Command

/-- A word that does not start with white space is what is left of a text between white space: then
the text has none in front if it is also what is left at the end, and only then. -/
theorem Text.trimEnd_eq_iff {s word : List Char} (hne : word ≠ [])
    (hword : ∀ c ∈ word.head?, isBlank c = false) :
    trimEnd s = word ↔ trim s = word ∧ ∀ c ∈ s.head?, isBlank c = false := by
  have htrim : (∀ c ∈ s.head?, isBlank c = false) → trim s = trimEnd s := by
    intro hhead
    cases s with
    | nil => rfl
    | cons c s =>
      have hc : isBlank c = false := hhead c rfl
      rw [trim, strip, List.dropWhile_cons_of_neg (by simp [hc]), trimEnd]
  constructor
  · intro h
    -- the text begins with the word, so there is nothing to cut off in front
    obtain ⟨⟨cut, -, hs⟩, -⟩ := dropEndWhile_eq_iff.mp h
    have hhead : ∀ c ∈ s.head?, isBlank c = false := by
      rwa [hs, List.head?_append_of_ne_nil _ hne]
    exact ⟨(htrim hhead).trans h, hhead⟩
  · rintro ⟨h, hhead⟩
    exact (htrim hhead).symm.trans h

theorem Command.isRequest_of_mem {value : Int64} (h : 1 ≤ value.toInt ∧ value.toInt ≤ 20) :
    (setFrequency value).IsRequest := by
  rintro rfl
  rw [Int64.toInt_minValue] at h
  omega

/-- The text of a frequency of the range is that of the integer. -/
theorem Frequency.text_of_mem {value : Int64} (h : 1 ≤ value.toInt ∧ value.toInt ≤ 20) :
    text (UInt8.ofNat value.toInt.toNat) = Text.Decimal.ofInt value.toInt := by
  have hnat : (UInt8.ofNat value.toInt.toNat).toNat = value.toInt.toNat :=
    UInt8.toNat_ofNat_of_lt' (by rw [UInt8.size]; omega)
  have habs : value.toInt.natAbs = value.toInt.toNat := by omega
  rw [text, hnat, Text.Decimal.ofNat, Text.Decimal.ofInt, Text.Decimal.signed, if_neg (by omega),
    habs]

namespace Client

/-! ### What a client lets through -/

/-- What becomes of a frequency, in range or not. -/
theorem frequencyRequest_eq (raw : String) :
    let value := Text.Decimal.leadingInt64 raw.toList
    frequencyRequest raw =
      if 1 ≤ value.toInt ∧ value.toInt ≤ 20 then .ok (.setFrequency value)
      else .error (.invalidFrequency value 1 20) := by
  intro value
  have hbind : frequencyRequest raw =
      (Frequency.validate value).bind fun hz => .ok (.setFrequency (Int64.ofInt hz.toNat)) := rfl
  rw [hbind]
  split
  · next hrange =>
    -- in range the narrow word holds the same number
    have hsame : ((UInt8.ofNat value.toInt.toNat).toNat : Int) = value.toInt :=
      (Frequency.validate_eq_ok_iff.mp (Frequency.validate_of_mem hrange)).2.2
    rw [Frequency.validate_of_mem hrange, Except.bind, hsame, Int64.ofInt_toInt]
  · next hrange => rw [Frequency.validate_of_not_mem hrange, Except.bind]

theorem frequencyRequest_eq_ok_iff {raw : String} {value : Int64} :
    frequencyRequest raw = .ok (.setFrequency value) ↔
      Command.parse ("set_freq " ++ raw) = .setFrequency value ∧
        1 ≤ value.toInt ∧ value.toInt ≤ 20 := by
  rw [Command.parse_frequencyHead, frequencyRequest_eq, Command.setFrequency.injEq]
  split
  · next hrange =>
    rw [Except.ok.injEq, Command.setFrequency.injEq]
    exact ⟨fun h => ⟨h, h ▸ hrange⟩, And.left⟩
  · next hrange =>
    constructor
    · rintro ⟨⟩
    · rintro ⟨rfl, h⟩
      exact absurd h hrange

theorem modeRequest_eq_ok_iff {raw : String} {mode : Mode} :
    modeRequest raw = .ok (.setMode mode) ↔ Text.trim raw.toList = mode.text.toList := by
  have hbind : modeRequest raw =
      (Mode.read (String.ofList (Text.trim raw.toList))).bind fun mode => .ok (.setMode mode) := rfl
  have hword : Mode.ofText? (String.ofList (Text.trim raw.toList)) = some mode ↔
      Text.trim raw.toList = mode.text.toList := by
    rw [Mode.ofText?_eq_some_iff, ← String.toList_inj, String.toList_ofList]
  rw [hbind, ← hword, Mode.read]
  split
  · next found hfound => rw [hfound, Except.bind, Except.ok.injEq, Command.setMode.injEq,
      Option.some.injEq]
  · next hnone =>
    rw [hnone, Except.bind]
    constructor <;> rintro ⟨⟩

/-- The client goes on unless it sees automatic mode. -/
theorem requireManual_fst {ω : Type} (s : AttributeStore ω) (w : ω) :
    (requireManual s w).1 =
      if (s.readMode w).1 = .ok .auto then .error .autoModeActive else .ok () := by
  rw [requireManual, Action.bind_apply, Action.attempt]
  rcases s.readMode w with ⟨_ | _ | _, w⟩ <;> rfl

end Client

/-! ### Carrying a request out -/

/-- What is written is what is read right after it. -/
def AttributeStore.Remembers {ω : Type} (s : AttributeStore ω) : Prop :=
  ∀ attr value w, attr.isWritable = true → (s.write attr value w).1 = .ok () →
    (s.read attr (s.write attr value w).2).1 = .ok value

theorem Memory.store_remembers : Memory.store.Remembers := by
  intro attr value m _ hwrite
  simp only [store, Memory.write] at hwrite ⊢
  split at hwrite
  · next hfault =>
    simp only [Memory.read, Action.query, setReading, update, if_true]
  · cases hwrite

variable {ω κ : Type} {k : Controller ω} {contents : ω → κ}

namespace AttributeStore.DependsOn

variable {s : AttributeStore ω} (hs : s.DependsOn contents)
include hs

theorem readMode_answer {w w' : ω} (h : contents w = contents w') :
    (s.readMode w).1 = (s.readMode w').1 := by
  rw [readMode, Action.meaning_apply, Action.meaning_apply, hs.read_answer .mode w w' h]

/-- A mode that cannot be read is no refusal. -/
theorem readMode_error {w : ω} {e : Error} (h : (s.readMode w).1 = .error e) :
    e.isRejection = false := by
  rw [readMode, Action.meaning_apply] at h
  -- the store has failed, or its text is no mode; neither is about what was asked for
  rcases hread : (s.read .mode w).1 with cause | text
  · rw [hread] at h
    cases h
    exact (hs.read_error .mode w e hread).not_isRejection
  · rw [hread] at h
    change interpret .mode Mode.ofText? text = .error e at h
    rw [interpret] at h
    split at h
    · cases h
    · cases h
      rfl

/-- The frequency of a status, when the text of an integer was the last thing written. -/
theorem status_frequency {w w' : ω} {value : Int64} (hremembers : s.Remembers)
    (hwrite : (s.write .frequency (Text.Decimal.ofInt value.toInt) w).1 = .ok ())
    (hw' : contents w' = contents (s.write .frequency (Text.Decimal.ofInt value.toInt) w).2) :
    (Status.read s w').1.frequency = some value := by
  have hstatus : (Status.read s w').1.frequency =
      (s.readFrequency (s.readTemperature (s.readMode w').2).2).1.toOption := rfl
  -- the readings before that of the frequency leave the contents alone
  have hcontents : contents (s.readTemperature (s.readMode w').2).2 = contents w' := by
    rw [readTemperature, readMode, Action.meaning_apply, Action.meaning_apply,
      hs.read_contents, hs.read_contents]
  have hread : (s.read .frequency (s.readTemperature (s.readMode w').2).2).1 =
      .ok (Text.Decimal.ofInt value.toInt) := by
    rw [hs.read_answer _ _ _ (hcontents.trans hw')]
    exact hremembers _ _ _ rfl hwrite
  have hvalue : integer? (Text.Decimal.ofInt value.toInt) = some value := by
    rw [integer?_ofInt ⟨value.le_toInt, value.toInt_lt⟩, Int64.ofInt_toInt]
  rw [hstatus, readFrequency, Action.meaning_apply, hread]
  dsimp only [bind, Except.bind]
  rw [interpret, hvalue]
  rfl

end AttributeStore.DependsOn

section

variable (hk : k.store.DependsOn contents)
include hk

namespace Change

/-- The outcome of a change, as far as the result and the contents are concerned: the decision, and
then one write. -/
theorem perform_result (x : Change) (c : Console ω) :
    match (x.resolve (x.consult k c).1).1 with
    | .error e => (x.perform k c).1 = .error e
    | .ok d =>
      (x.perform k c).1 =
          (k.store.write d.result.target d.result.text c.world).1.map (fun _ => d.result) ∧
        contents (x.perform k c).2.world =
          contents (k.store.write d.result.target d.result.text c.world).2 := by
  have hconsult : contents (x.consult k c).2.world = contents c.world := contents_consult hk x c
  rw [perform_eq]
  rcases x.resolve (x.consult k c).1 with ⟨e | d, entries⟩
  · exact congrArg Prod.fst (conclude_error k e entries _)
  · -- consulting and reporting left the contents alone, so the write finds those of the start
    obtain ⟨hresult, hcontents⟩ :=
      d.carryOut_contents hk (entries.foldl Console.report (x.consult k c).2)
    rw [Console.world_reports] at hresult hcontents
    have hattr := d.result.isWritable_target
    rw [conclude_ok, hresult, hcontents, hk.write_answer _ _ _ _ hattr hconsult]
    exact ⟨rfl, hk.write_contents _ _ _ _ hattr hconsult⟩

/-- The outcome of a frequency request. -/
theorem apply_setFrequency_result (value : Int64) (c : Console ω) :
    match resolveFrequency value (k.store.readMode c.world).1 with
    | .error e => (k.apply (.setFrequency value) c).1 = .error e
    | .ok d =>
      (k.apply (.setFrequency value) c).1 =
          (k.store.write d.result.target d.result.text c.world).1.map (fun _ => d.result) ∧
        contents (k.apply (.setFrequency value) c).2.world =
          contents (k.store.write d.result.target d.result.text c.world).2 := by
  have hmode : (k.store.readMode c.world).1 =
      (Console.inWorld (k.store.read .mode) c).1 >>= modeOf :=
    congrArg Prod.fst (inWorld_readMode k.store c)
  rw [hmode]
  exact perform_result hk (.command (.setFrequency value)) c

/-- A mode that cannot be read stops a frequency request with its error. -/
theorem apply_setFrequency_of_error {value : Int64} {c : Console ω} {e : Error}
    (h : (k.store.readMode c.world).1 = .error e) :
    (k.apply (.setFrequency value) c).1 = .error e := by
  have hresult := apply_setFrequency_result hk value c
  rw [h] at hresult
  exact hresult

theorem apply_setFrequency_of_auto {value : Int64} {c : Console ω}
    (h : (k.store.readMode c.world).1 = .ok .auto) :
    (k.apply (.setFrequency value) c).1 = .error .autoModeActive := by
  have hresult := apply_setFrequency_result hk value c
  rw [h] at hresult
  exact hresult

/-- In manual mode a frequency out of range is refused for its value. -/
theorem apply_setFrequency_of_not_mem {value : Int64} {c : Console ω}
    (h : (k.store.readMode c.world).1 = .ok .manual)
    (hrange : ¬ (1 ≤ value.toInt ∧ value.toInt ≤ 20)) :
    (k.apply (.setFrequency value) c).1 = .error (.invalidFrequency value 1 20) := by
  have hresult := apply_setFrequency_result hk value c
  have hresolve : resolveFrequency value (.ok .manual) = .error (.invalidFrequency value 1 20) :=
    congrArg (Except.map _) (Frequency.validate_of_not_mem hrange)
  rw [h, hresolve] at hresult
  exact hresult

/-- In manual mode a frequency of the range is written, and the write decides. -/
theorem apply_setFrequency_of_mem {value : Int64} {c : Console ω}
    (h : (k.store.readMode c.world).1 = .ok .manual)
    (hrange : 1 ≤ value.toInt ∧ value.toInt ≤ 20) :
    let write := k.store.write .frequency (Text.Decimal.ofInt value.toInt) c.world
    (k.apply (.setFrequency value) c).1 =
        write.1.map (fun _ => .frequency (UInt8.ofNat value.toInt.toNat)) ∧
      contents (k.apply (.setFrequency value) c).2.world = contents write.2 := by
  have hresult := apply_setFrequency_result hk value c
  have hresolve : resolveFrequency value (.ok .manual) =
      .ok ⟨.frequency (UInt8.ofNat value.toInt.toNat),
        .frequencySet (UInt8.ofNat value.toInt.toNat)⟩ :=
    congrArg (Except.map _) (Frequency.validate_of_mem hrange)
  rw [h, hresolve] at hresult
  rwa [← Frequency.text_of_mem hrange]

/-- The outcomes of a frequency request, each with what leads to it. -/
theorem apply_setFrequency_cases (value : Int64) (c : Console ω) :
    let outcome := (k.apply (.setFrequency value) c).1
    let mode := (k.store.readMode c.world).1
    let written := (k.store.write .frequency (Text.Decimal.ofInt value.toInt) c.world).1
    (∃ e, outcome = .error e ∧ e.isRejection = false ∧ mode ≠ .ok .auto) ∨
    (outcome = .error .autoModeActive ∧ mode = .ok .auto) ∨
    (outcome = .error (.invalidFrequency value 1 20) ∧ mode = .ok .manual ∧
      ¬ (1 ≤ value.toInt ∧ value.toInt ≤ 20)) ∨
    ((∃ applied, outcome = .ok applied) ∧ mode = .ok .manual ∧
      (1 ≤ value.toInt ∧ value.toInt ≤ 20) ∧ written = .ok ()) := by
  intro outcome mode written
  -- a mode that cannot be read, automatic mode, and manual mode
  rcases hmode : mode with e | _ | _
  · exact .inl ⟨e, apply_setFrequency_of_error hk hmode, hk.readMode_error hmode, nofun⟩
  · exact .inr (.inl ⟨apply_setFrequency_of_auto hk hmode, rfl⟩)
  · by_cases hrange : 1 ≤ value.toInt ∧ value.toInt ≤ 20
    · have houtcome : outcome = written.map _ := (apply_setFrequency_of_mem hk hmode hrange).1
      rcases hwritten : written with e | _
      · rw [hwritten] at houtcome
        exact .inl ⟨e, houtcome, (hk.write_error _ _ _ _ rfl hwritten).not_isRejection, nofun⟩
      · rw [hwritten] at houtcome
        exact .inr (.inr (.inr ⟨⟨_, houtcome⟩, rfl, hrange, rfl⟩))
    · exact .inr (.inr (.inl ⟨apply_setFrequency_of_not_mem hk hmode hrange, rfl, hrange⟩))

/-- **Automatic mode turns every frequency away**, whatever its value, and nothing else does so in
its name. -/
theorem apply_error_autoModeActive_iff (value : Int64) (c : Console ω) :
    (k.apply (.setFrequency value) c).1 = .error .autoModeActive ↔
      (k.store.readMode c.world).1 = .ok .auto := by
  refine ⟨fun h => ?_, apply_setFrequency_of_auto hk⟩
  obtain ⟨e, he, hrejection, -⟩ | ⟨-, hmode⟩ | ⟨he, -⟩ | ⟨⟨_, hok⟩, -⟩ :=
    apply_setFrequency_cases hk value c
  · cases h.symm.trans he
    cases hrejection
  · exact hmode
  · cases h.symm.trans he
  · cases h.symm.trans hok

/-- The errors of a frequency of the range that are refusals: automatic mode alone. -/
theorem apply_setFrequency_not_rejected {value : Int64} {c : Console ω} {e : Error}
    (hmode : (k.store.readMode c.world).1 ≠ .ok .auto)
    (hrange : 1 ≤ value.toInt ∧ value.toInt ≤ 20)
    (he : (k.apply (.setFrequency value) c).1 = .error e) : e.isRejection = false := by
  obtain ⟨cause, hcause, hrejection, -⟩ | ⟨-, hauto⟩ | ⟨-, -, hout⟩ | ⟨⟨_, hok⟩, -⟩ :=
    apply_setFrequency_cases hk value c
  · cases he.symm.trans hcause
    exact hrejection
  · exact absurd hauto hmode
  · exact absurd hrange hout
  · cases he.symm.trans hok

/-- A frequency is applied in manual mode only, if it is in range and the write succeeds. -/
theorem apply_setFrequency_ok {value : Int64} {c : Console ω} {applied : Applied}
    (h : (k.apply (.setFrequency value) c).1 = .ok applied) :
    (k.store.readMode c.world).1 = .ok .manual ∧ (1 ≤ value.toInt ∧ value.toInt ≤ 20) ∧
      (k.store.write .frequency (Text.Decimal.ofInt value.toInt) c.world).1 = .ok () := by
  obtain ⟨_, he, -⟩ | ⟨he, -⟩ | ⟨he, -⟩ | ⟨-, happlied⟩ := apply_setFrequency_cases hk value c
  · cases h.symm.trans he
  · cases h.symm.trans he
  · cases h.symm.trans he
  · exact happlied

end Change

end

/-! ### The lines of requests -/

namespace EventLoop

theorem obey_fst (k : Controller ω) (line : String) (c : Console ω) :
    (obey k line c).1 = (verdictOn line (k.apply (.parse line) c).1).1 := rfl

/-- The verdict on a line that was applied. -/
theorem obey_fst_eq_applied_iff {line : String} {c : Console ω} :
    (obey k line c).1 = .applied ↔ ∃ applied, (k.apply (.parse line) c).1 = .ok applied := by
  rw [obey_fst]
  rcases (k.apply (.parse line) c).1 with e | applied
  · rw [verdictOn]
    constructor
    · split
      · rintro ⟨⟩
      · split <;> rintro ⟨⟩
    · rintro ⟨_, ⟨⟩⟩
  · exact iff_of_true rfl ⟨applied, rfl⟩

end EventLoop

namespace Client

/-- A client that reads the attributes in the world `w` and a daemon before the front `c` agree on
what is asked for with the text `raw`. -/
structure Agreement (k : Controller ω) (raw : String) (w : ω) (c : Console ω) : Prop where
  /-- A frequency is let through if the daemon reads it and has it in its range, and only then. -/
  frequency : ∀ value, frequencyRequest raw = .ok (.setFrequency value) ↔
    Command.parse ("set_freq " ++ raw) = .setFrequency value ∧
      1 ≤ value.toInt ∧ value.toInt ≤ 20
  /-- Otherwise it is turned away for the value that the daemon would read. -/
  refusal : (¬ ∃ value, frequencyRequest raw = .ok (.setFrequency value)) →
    ∃ value, Command.parse ("set_freq " ++ raw) = .setFrequency value ∧
      frequencyRequest raw = .error (.invalidFrequency value 1 20)
  /-- The daemon reads a mode where the client does, if there is no white space in front. -/
  mode : ∀ mode, Command.parse ("set_mode " ++ raw) = .setMode mode ↔
    modeRequest raw = .ok (.setMode mode) ∧
      ∀ ch ∈ raw.toList.head?, Text.isBlank ch = false
  /-- What is sent for a frequency is one line. -/
  sent : ∀ value, frequencyRequest raw = .ok (.setFrequency value) →
    let bytes := bytesOfText (Command.setFrequency value).line
    Framing.texts bytes = [(Command.setFrequency value).text] ∧ Framing.unfinished bytes = []
  /-- A line that passed both checks is never turned away. In manual mode it is applied if the
  write succeeds, and then the status shows the frequency. -/
  admitted : ∀ value, frequencyRequest raw = .ok (.setFrequency value) →
    (requireManual k.store w).1 = .ok () →
    let handled := EventLoop.obey k (Command.setFrequency value).text c
    handled.1 ≠ .refused ∧ handled.1 ≠ .rejected ∧
      ((k.store.readMode c.world).1 = .ok .manual →
        (k.store.write .frequency (Text.Decimal.ofInt value.toInt) c.world).1 = .ok () →
        handled.1 = .applied) ∧
      (k.store.Remembers → handled.1 = .applied →
        (Status.read k.store handled.2.world).1.frequency = some value)
  /-- What the daemon would apply passes both checks. -/
  applied : (EventLoop.obey k ("set_freq " ++ raw) c).1 = .applied →
    (∃ value, frequencyRequest raw = .ok (.setFrequency value)) ∧
      (requireManual k.store w).1 = .ok ()
  /-- The client stops where the daemon would not let any frequency through. -/
  gate : ∀ value, (∃ e, (requireManual k.store w).1 = .error e) ↔
    (k.apply (.setFrequency value) c).1 = .error .autoModeActive

section

variable (hk : k.store.DependsOn contents) {w : ω} {c : Console ω}
  (hw : contents w = contents c.world)
include hk hw

theorem requireManual_eq_ok_iff :
    (requireManual k.store w).1 = .ok () ↔ (k.store.readMode c.world).1 ≠ .ok .auto := by
  rw [requireManual_fst, hk.readMode_answer hw]
  split
  · next h =>
    constructor
    · rintro ⟨⟩
    · exact absurd h
  · next h => exact iff_of_true rfl h

theorem requireManual_eq_error_iff :
    (∃ e, (requireManual k.store w).1 = .error e) ↔ (k.store.readMode c.world).1 = .ok .auto := by
  rw [requireManual_fst, hk.readMode_answer hw]
  split
  · next h => exact iff_of_true ⟨_, rfl⟩ h
  · next h =>
    refine iff_of_false ?_ h
    rintro ⟨_, ⟨⟩⟩

/-- A line that says a request that passed both checks. -/
theorem obey_admitted {line : String} {value : Int64}
    (hparse : Command.parse line = .setFrequency value)
    (hrange : 1 ≤ value.toInt ∧ value.toInt ≤ 20)
    (hmanual : (requireManual k.store w).1 = .ok ()) :
    let handled := EventLoop.obey k line c
    handled.1 ≠ .refused ∧ handled.1 ≠ .rejected ∧
      ((k.store.readMode c.world).1 = .ok .manual →
        (k.store.write .frequency (Text.Decimal.ofInt value.toInt) c.world).1 = .ok () →
        handled.1 = .applied) ∧
      (k.store.Remembers → handled.1 = .applied →
        (Status.read k.store handled.2.world).1.frequency = some value) := by
  intro handled
  have hauto := (requireManual_eq_ok_iff hk hw).mp hmanual
  -- a refusal would have to be the one of automatic mode, which the client did not see
  have hnever : ¬ (handled.1 = .refused ∨ handled.1 = .rejected) := by
    intro h
    rw [EventLoop.obey_fst, hparse] at h
    obtain ⟨e, he, hrejection⟩ := EventLoop.exists_rejection_of_verdictOn _ _ h
    rw [Change.apply_setFrequency_not_rejected hk hauto hrange he] at hrejection
    cases hrejection
  refine ⟨fun h => hnever (Or.inl h), fun h => hnever (Or.inr h), fun hmode hwrite => ?_,
    fun hremembers happlied => ?_⟩
  · have hresult := (Change.apply_setFrequency_of_mem hk hmode hrange).1
    rw [hwrite] at hresult
    refine EventLoop.obey_fst_eq_applied_iff.mpr ⟨.frequency (UInt8.ofNat value.toInt.toNat), ?_⟩
    rw [hparse, hresult]
    rfl
  · -- what was applied was written, and a store that remembers gives it back
    obtain ⟨applied, hresult⟩ := EventLoop.obey_fst_eq_applied_iff.mp happlied
    rw [hparse] at hresult
    obtain ⟨hmode, -, hwrite⟩ := Change.apply_setFrequency_ok hk hresult
    have hcontents := (Change.apply_setFrequency_of_mem hk hmode hrange).2
    refine hk.status_frequency hremembers hwrite ?_
    rw [EventLoop.world_obey, hparse]
    exact hcontents

/-- **A client and a daemon agree on every text.** The store answers out of its contents, and its
own failures say that an attribute could not be read or written; the contents are the same when the
client looks at them and when the daemon handles the line. -/
theorem agreement (raw : String) : Agreement k raw w c where
  frequency _ := frequencyRequest_eq_ok_iff
  refusal h := by
    refine ⟨_, Command.parse_frequencyHead raw, ?_⟩
    -- what is not let through is out of range
    rw [frequencyRequest_eq] at h ⊢
    split
    · next hrange => exact absurd ⟨_, if_pos hrange⟩ h
    · rfl
  mode mode := by
    -- a word of a mode is not empty and does not begin with white space
    have hne : mode.text.toList ≠ [] := by cases mode <;> decide
    have hfirst : ∀ ch ∈ mode.text.toList.head?, Text.isBlank ch = false := by
      cases mode <;> rintro _ ⟨⟩ <;> rfl
    rw [Command.parse_modeHead_eq_iff, modeRequest_eq_ok_iff, Text.trimEnd_eq_iff hne hfirst]
  sent value h := by
    have hrequest : ∀ command ∈ [Command.setFrequency value], command.IsRequest := by
      intro command hcommand
      rw [List.mem_singleton.mp hcommand]
      exact Command.isRequest_of_mem (frequencyRequest_eq_ok_iff.mp h).2
    have hstream := Command.texts_stream hrequest
    rwa [Command.stream, List.flatMap_singleton] at hstream
  admitted value h hmanual :=
    have hrange := (frequencyRequest_eq_ok_iff.mp h).2
    obey_admitted hk hw (Command.parse_text (Command.isRequest_of_mem hrange)) hrange hmanual
  applied h := by
    obtain ⟨applied, hresult⟩ := EventLoop.obey_fst_eq_applied_iff.mp h
    rw [Command.parse_frequencyHead] at hresult
    obtain ⟨hmode, hrange, -⟩ := Change.apply_setFrequency_ok hk hresult
    refine ⟨⟨_, frequencyRequest_eq_ok_iff.mpr ⟨Command.parse_frequencyHead raw, hrange⟩⟩, ?_⟩
    refine (requireManual_eq_ok_iff hk hw).mpr ?_
    rw [hmode]
    rintro ⟨⟩
  gate value := by
    rw [requireManual_eq_error_iff hk hw, Change.apply_error_autoModeActive_iff hk]

end

/-- A number between white space, with a sign and a unit, while another world was written to. -/
theorem agreement_memory :
    let contents := fun m : Memory => (m.reading, m.writeFault)
    let k : Controller Memory := ⟨Memory.store, none⟩
    let m : Memory := ⟨fun | .mode => .ok "manual" | _ => .ok "3", fun _ => none, []⟩
    let w : Memory := { m with attempts := [(.mode, "manual")] }
    let raw := "\u00a0\t+7 Hz\n"
    let handled := EventLoop.obey k "set_freq 7" (.initial m)
    Memory.store.DependsOn contents ∧ contents w = contents m ∧
      Command.parse ("set_freq " ++ raw) = .setFrequency 7 ∧
      frequencyRequest raw = .ok (.setFrequency 7) ∧
      handled.1 = .applied ∧ (Status.read k.store handled.2.world).1.frequency = some 7 := by
  intro contents k m w raw handled
  have hw : contents w = contents (Console.initial m).world := rfl
  have h : Agreement k raw w (.initial m) := agreement Memory.store_dependsOn hw raw
  have hparse : Command.parse ("set_freq " ++ raw) = .setFrequency 7 := by decide
  have hrequest : frequencyRequest raw = .ok (.setFrequency 7) :=
    (h.frequency 7).mpr ⟨hparse, by decide⟩
  obtain ⟨-, -, happlied, hshown⟩ := h.admitted 7 hrequest rfl
  have hhandled : handled.1 = .applied := happlied rfl rfl
  exact ⟨Memory.store_dependsOn, hw, hparse, hrequest, hhandled,
    hshown Memory.store_remembers hhandled⟩

end Client

end FanControl
