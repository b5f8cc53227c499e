import FanControl.Proofs.Admission

/-!
# Every line has one outcome, and the right one

How the handling of a line ends follows from the command on the line, from the answer to reading
the mode, if a frequency is asked for, and from the outcome of the write that is called for, if one
is. There are seven courses that this can take (`Course`), and one of them is always open
(`exists_course`). `EventLoop.ends_of_course` follows the handling along each of them to its
verdict, its records and its attempts to write; these are counted on the recorded store, on which a
line is handled alike (`EventLoop.obey_recorded`).

So there is a course to every verdict, and the verdict is that of the course
(`EventLoop.obey_fst_eq_iff`). `EventLoop.obey_classified` puts this into words, for every line and
every store whose failures say that an access failed.
-/

namespace FanControl

variable {ω κ : Type}

/-! ### Stores and what is asked of them -/

/-- A store whose own failures say that an attribute could not be read or not be written. For the
rest it may answer what it likes, and change whenever it is used. Nothing is asked of writes to what
cannot be written. -/
structure AttributeStore.FailsByAccess (s : AttributeStore ω) : Prop where
  read : ∀ attr w e, (s.read attr w).1 = .error e → e.IsAccess
  write : ∀ attr value w e, attr.isWritable = true →
    (s.write attr value w).1 = .error e → e.IsAccess

theorem AttributeStore.DependsOn.failsByAccess {s : AttributeStore ω} {contents : ω → κ}
    (h : s.DependsOn contents) : s.FailsByAccess :=
  ⟨h.read_error, h.write_error⟩

/-- The write that a command calls for: of which text to which attribute, and in which world. A
frequency is written after the mode was read, and only if it read as manual. -/
inductive Command.CallsFor (s : AttributeStore ω) (w : ω) :
    Command → Attribute → String → ω → Prop where
  | mode (mode : Mode) : CallsFor s w (.setMode mode) .mode mode.text w
  | frequency {value : Int64} (hmode : (s.read .mode w).1 = .ok "manual")
      (hrange : 1 ≤ value.toInt ∧ value.toInt ≤ 20) :
      CallsFor s w (.setFrequency value) .frequency (Text.Decimal.ofInt value.toInt)
        (s.read .mode w).2

/-- Automatic mode forbids the frequency that is asked for, whatever the value. -/
def Command.IsForbidden (s : AttributeStore ω) (w : ω) (command : Command) : Prop :=
  ∃ value, command = .setFrequency value ∧ (s.read .mode w).1 = .ok "auto"

/-- The command is not understood, or the frequency is out of range in manual mode. -/
def Command.IsImproper (s : AttributeStore ω) (w : ω) (command : Command) : Prop :=
  (∃ text, command = .unknown text) ∨
    ∃ value, command = .setFrequency value ∧ (s.read .mode w).1 = .ok "manual" ∧
      ¬ (1 ≤ value.toInt ∧ value.toInt ≤ 20)

/-- A frequency is asked for while the mode cannot be read or holds another text, or the write that
is called for fails. -/
def Command.IsThwarted (s : AttributeStore ω) (w : ω) (command : Command) : Prop :=
  (∃ value, command = .setFrequency value ∧
    ((∃ e, (s.read .mode w).1 = .error e) ∨
      ∃ text, (s.read .mode w).1 = .ok text ∧ text ≠ "auto" ∧ text ≠ "manual")) ∨
  ∃ attr text w', command.CallsFor s w attr text w' ∧ ∃ e, (s.write attr text w').1 = .error e

/-- The write that is called for succeeds. -/
def Command.IsGranted (s : AttributeStore ω) (w : ω) (command : Command) : Prop :=
  ∃ attr text w', command.CallsFor s w attr text w' ∧ (s.write attr text w').1 = .ok ()

/-- What a verdict says about the attempts to write. -/
def Verdict.Attempts : Verdict → List StoreAccess → Prop
  | .refused, writes => writes = []
  | .rejected, writes => writes = []
  | .failed, writes => writes.length ≤ 1
  | .applied, writes => ∃ attr text, writes = [.write attr text (.ok ())]

/-- What a verdict says about the records: there is one record, and how grave it is, or there are
records for information. -/
def Verdict.Reports : Verdict → List LogEntry → Prop
  | .refused, entries => ∃ entry, entries = [entry] ∧ entry.level = .warn
  | .rejected, entries => ∃ entry, entries = [entry] ∧ entry.level = .warn
  | .failed, entries => ∃ entry, entries = [entry] ∧ entry.level = .error
  | .applied, entries => ∀ entry ∈ entries, entry.level = .info

/-! ### Courses -/

/-- The courses that the handling of a command can take, the verdicts in which they end, and the
attempts to write that are made. -/
inductive Course (s : AttributeStore ω) (w : ω) :
    Command → Verdict → List StoreAccess → Prop where
  /-- Automatic mode forbids a frequency, whatever the value. -/
  | auto {value : Int64} (hmode : (s.read .mode w).1 = .ok "auto") :
      Course s w (.setFrequency value) .refused []
  /-- The line is not understood. -/
  | unknown (text : String) : Course s w (.unknown text) .rejected []
  /-- The frequency is out of range. -/
  | outOfRange {value : Int64} (hmode : (s.read .mode w).1 = .ok "manual")
      (hrange : ¬ (1 ≤ value.toInt ∧ value.toInt ≤ 20)) :
      Course s w (.setFrequency value) .rejected []
  /-- The mode cannot be read. -/
  | unreadable {value : Int64} {e : Error} (hmode : (s.read .mode w).1 = .error e) :
      Course s w (.setFrequency value) .failed []
  /-- The mode is neither word. -/
  | unrecognized {value : Int64} {text : String} (hmode : (s.read .mode w).1 = .ok text)
      (hauto : text ≠ "auto") (hmanual : text ≠ "manual") :
      Course s w (.setFrequency value) .failed []
  /-- The write fails. -/
  | unwritten {command : Command} {attr : Attribute} {text : String} {w' : ω} {e : Error}
      (hcalls : command.CallsFor s w attr text w') (hwrite : (s.write attr text w').1 = .error e) :
      Course s w command .failed [.write attr text (.error e)]
  /-- The write succeeds. -/
  | written {command : Command} {attr : Attribute} {text : String} {w' : ω}
      (hcalls : command.CallsFor s w attr text w') (hwrite : (s.write attr text w').1 = .ok ()) :
      Course s w command .applied [.write attr text (.ok ())]

/-- One of the courses is always open. -/
theorem exists_course (s : AttributeStore ω) (w : ω) (command : Command) :
    ∃ verdict writes, Course s w command verdict writes := by
  -- once a write is called for, it fails or succeeds
  have hcalled : ∀ {attr text w'}, command.CallsFor s w attr text w' →
      ∃ verdict writes, Course s w command verdict writes := by
    intro attr text w' hcalls
    rcases hwrite : (s.write attr text w').1 with e | _
    · exact ⟨_, _, .unwritten hcalls hwrite⟩
    · exact ⟨_, _, .written hcalls hwrite⟩
  rcases command with value | mode | text
  · rcases hmode : (s.read .mode w).1 with e | text
    · exact ⟨_, _, .unreadable hmode⟩
    by_cases hauto : text = "auto"
    · exact ⟨_, _, .auto (hauto ▸ hmode)⟩
    by_cases hmanual : text = "manual"
    · subst hmanual
      by_cases hrange : 1 ≤ value.toInt ∧ value.toInt ≤ 20
      · exact hcalled (.frequency hmode hrange)
      · exact ⟨_, _, .outOfRange hmode hrange⟩
    · exact ⟨_, _, .unrecognized hmode hauto hmanual⟩
  · exact hcalled (.mode mode)
  · exact ⟨_, _, .unknown text⟩

namespace Course

variable {s : AttributeStore ω} {w : ω} {command : Command}

theorem refused_iff : (∃ writes, Course s w command .refused writes) ↔ command.IsForbidden s w := by
  constructor
  · rintro ⟨writes, hcourse⟩
    cases hcourse with
    | auto hmode => exact ⟨_, rfl, hmode⟩
  · rintro ⟨value, rfl, hmode⟩
    exact ⟨_, .auto hmode⟩

theorem rejected_iff :
    (∃ writes, Course s w command .rejected writes) ↔ command.IsImproper s w := by
  constructor
  · rintro ⟨writes, hcourse⟩
    cases hcourse with
    | unknown text => exact Or.inl ⟨text, rfl⟩
    | outOfRange hmode hrange => exact Or.inr ⟨_, rfl, hmode, hrange⟩
  · rintro (⟨text, rfl⟩ | ⟨value, rfl, hmode, hrange⟩)
    · exact ⟨_, .unknown text⟩
    · exact ⟨_, .outOfRange hmode hrange⟩

theorem failed_iff : (∃ writes, Course s w command .failed writes) ↔ command.IsThwarted s w := by
  constructor
  · rintro ⟨writes, hcourse⟩
    cases hcourse with
    | unreadable hmode => exact Or.inl ⟨_, rfl, Or.inl ⟨_, hmode⟩⟩
    | unrecognized hmode hauto hmanual =>
      exact Or.inl ⟨_, rfl, Or.inr ⟨_, hmode, hauto, hmanual⟩⟩
    | unwritten hcalls hwrite => exact Or.inr ⟨_, _, _, hcalls, _, hwrite⟩
  · rintro (⟨value, rfl, ⟨e, hmode⟩ | ⟨text, hmode, hauto, hmanual⟩⟩ |
      ⟨attr, text, w', hcalls, e, hwrite⟩)
    · exact ⟨_, .unreadable hmode⟩
    · exact ⟨_, .unrecognized hmode hauto hmanual⟩
    · exact ⟨_, .unwritten hcalls hwrite⟩

theorem applied_iff : (∃ writes, Course s w command .applied writes) ↔ command.IsGranted s w := by
  constructor
  · rintro ⟨writes, hcourse⟩
    cases hcourse with
    | written hcalls hwrite => exact ⟨_, _, _, hcalls, hwrite⟩
  · rintro ⟨attr, text, w', hcalls, hwrite⟩
    exact ⟨_, .written hcalls hwrite⟩

theorem attempts {outcome : Verdict} {writes : List StoreAccess}
    (h : Course s w command outcome writes) : outcome.Attempts writes := by
  cases h with
  | auto _ => rfl
  | unknown _ => rfl
  | outOfRange _ _ => rfl
  | unreadable _ => exact Nat.zero_le 1
  | unrecognized _ _ _ => exact Nat.zero_le 1
  | unwritten _ _ => exact Nat.le_refl 1
  | written _ _ => exact ⟨_, _, rfl⟩

end Course

/-! ### Records -/

namespace Console

/-- What was reported in between is for information only. -/
def Informs (c c' : Console ω) : Prop :=
  ∃ entries, c'.log = c.log ++ entries ∧ ∀ entry ∈ entries, entry.level = .info

theorem Informs.refl (c : Console ω) : c.Informs c :=
  ⟨[], (List.append_nil _).symm, List.forall_mem_nil _⟩

theorem Informs.trans {c c' c'' : Console ω} (h : c.Informs c') (h' : c'.Informs c'') :
    c.Informs c'' := by
  obtain ⟨entries, hlog, hinfo⟩ := h
  obtain ⟨entries', hlog', hinfo'⟩ := h'
  refine ⟨entries ++ entries', ?_, ?_⟩
  · rw [hlog', hlog, List.append_assoc]
  · exact List.forall_mem_append.mpr ⟨hinfo, hinfo'⟩

theorem informs_report (c : Console ω) {entry : LogEntry} (h : entry.level = .info) :
    c.Informs (c.report entry) :=
  ⟨[entry], rfl, by rwa [List.forall_mem_singleton]⟩

theorem informs_present (c : Console ω) (push : Push) : c.Informs (c.present push) := by
  unfold present
  split
  · exact informs_report { c with panel := _, pushes := _ } rfl
  · exact Informs.refl c

end Console

namespace Controller

variable (k : Controller ω)

theorem informs_refreshRow (row : Row) (c : Console ω) : c.Informs (k.refreshRow row c) := by
  rw [refreshRow_eq]
  rcases row.valueIn (Console.inWorld (k.store.read row.shows) c).1 with _ | value
  · exact Console.Informs.refl c
  · exact Console.informs_present (Console.inWorld (k.store.read row.shows) c).2 ⟨row, value⟩

/-- A refresh has nothing to complain about. -/
theorem informs_refresh (c : Console ω) : c.Informs (k.refresh c) := by
  rw [refresh_rows]
  have hmode := informs_refreshRow k .mode { c with refreshes := c.refreshes + 1 }
  exact (Console.Informs.trans hmode (informs_refreshRow k .temperature _)).trans
    (informs_refreshRow k .frequency _)

end Controller

/-! ### The handling of a line -/

namespace Change

theorem log_consult (k : Controller ω) (x : Change) (c : Console ω) :
    (x.consult k c).2.log = c.log := by
  unfold consult
  cases x.consults <;> rfl

/-- On the way to a decision on a command nothing is reported. -/
theorem resolve_command_snd (command : Command) (answer : Except Error String) :
    ((Change.command command).resolve answer).2 = [] := by
  cases command <;> rfl

end Change

namespace EventLoop

variable (k : Controller ω) (line : String) (c : Console ω)

/-- The accesses to the attributes that are made while a line is handled. -/
def lineAccesses : List StoreAccess := (obey k.recorded line (c.recording [])).2.world.accesses

/-- The attempts to write that are made while a line is handled. -/
def lineWrites : List StoreAccess := (lineAccesses k line c).filter StoreAccess.isWrite

/-- They are those of the command on the line. -/
theorem lineAccesses_eq :
    lineAccesses k line c = (Operation.change (.command (.parse line))).accesses k c := by
  rw [lineAccesses, world_obey]
  rfl

/-- **A line is handled on the recorded store as on the plain one.** -/
theorem obey_recorded (past : List StoreAccess) :
    obey k.recorded line (c.recording past) =
      ((obey k line c).1, (obey k line c).2.recording (past ++ lineAccesses k line c)) := by
  obtain ⟨accesses, -, hrun⟩ := Change.perform_recorded k (.command (.parse line)) c
  have haccesses : lineAccesses k line c = accesses := by
    rw [lineAccesses_eq, Operation.accesses, Operation.perform, hrun]
    exact List.nil_append accesses
  have happly : k.recorded.apply (.parse line) (c.recording past) =
      ((k.apply (.parse line) c).1, (k.apply (.parse line) c).2.recording (past ++ accesses)) :=
    hrun past
  simp only [obey, happly, Console.recording_reports, haccesses]

/-- How the handling of a line ends. -/
structure Ends (outcome : Verdict) (writes : List StoreAccess) : Prop where
  verdict : (obey k line c).1 = outcome
  records : ∃ entries, (obey k line c).2.log = c.log ++ entries ∧ outcome.Reports entries
  writes : lineWrites k line c = writes

/-- What is decided on a command, after the mode was read if that has to be. -/
def decisionOn (command : Command) : Except Error Decision :=
  ((Change.command command).resolve ((Change.command command).consult k c).1).1

variable {k line c} {command : Command}

/-- An access that failed is no input to turn away. -/
theorem verdictOn_of_isAccess (line : String) {e : Error} (he : e.IsAccess) :
    verdictOn line (.error e) = (.failed, [.commandFailed line e]) := by
  rcases he with ⟨path, cause, rfl⟩ | ⟨path, cause, rfl⟩ <;> rfl

section

variable (hparse : Command.parse line = command)
include hparse

theorem apply_parse :
    k.apply (.parse line) c =
      Change.conclude k (decisionOn k c command, []) ((Change.command command).consult k c).2 := by
  have hperform := Change.perform_eq k (.command command) c
  have hsnd := Change.resolve_command_snd command ((Change.command command).consult k c).1
  rw [hparse, ← hsnd]
  exact hperform

theorem lineWrites_eq :
    lineWrites k line c =
      match decisionOn k c command with
      | .error _ => []
      | .ok d => [.write d.result.target d.result.text
          ((k.apply (.parse line) c).1.map fun _ => ())] := by
  have hattempts := Change.attempts_eq k (.command command) c
  rw [lineWrites, lineAccesses_eq, hparse]
  exact hattempts

/-- Without a decision nothing is written, and the error is reported. -/
theorem Ends.of_error {e : Error} {outcome : Verdict} {entry : LogEntry}
    (hdecision : decisionOn k c command = .error e)
    (hverdict : verdictOn line (.error e) = (outcome, [entry]))
    (hreports : outcome.Reports [entry]) : Ends k line c outcome [] := by
  have happly := apply_parse (k := k) (c := c) hparse
  rw [hdecision, Change.conclude_error] at happly
  have hobey : obey k line c =
      (outcome, ((Change.command command).consult k c).2.report entry) := by
    simp only [obey, happly, hverdict, List.foldl_cons, List.foldl_nil]
  have hwrites := lineWrites_eq (k := k) (c := c) hparse
  rw [hdecision] at hwrites
  refine ⟨congrArg Prod.fst hobey, ⟨[entry], ?_, hreports⟩, hwrites⟩
  rw [hobey, Console.report, Change.log_consult]

section

variable {d : Decision} (hdecision : decisionOn k c command = .ok d)
include hdecision

/-- A decision is carried out in the world that consulting leaves. -/
theorem apply_parse_of_decision :
    k.apply (.parse line) c = d.carryOut k ((Change.command command).consult k c).2 := by
  have happly := apply_parse (k := k) (c := c) hparse
  rw [hdecision, Change.conclude_ok] at happly
  exact happly

/-- A write that fails is reported. -/
theorem Ends.of_unwritten {e : Error} (he : e.IsAccess)
    (hwrite : (k.store.write d.result.target d.result.text
      ((Change.command command).consult k c).2.world).1 = .error e) :
    Ends k line c .failed [.write d.result.target d.result.text (.error e)] := by
  obtain ⟨c', hc'⟩ : ∃ c', Console.inWorld (k.store.write d.result.target d.result.text)
      ((Change.command command).consult k c).2 = (.error e, c') := ⟨_, Prod.ext hwrite rfl⟩
  -- neither consulting nor writing leaves a record
  have hlog : c'.log = c.log :=
    (congrArg (fun r => r.2.log) hc').symm.trans (Change.log_consult k _ c)
  have happly := apply_parse_of_decision hparse hdecision
  rw [Decision.carryOut_apply, hc'] at happly
  have hobey : obey k line c = (.failed, c'.report (.commandFailed line e)) := by
    simp only [obey, happly, verdictOn_of_isAccess line he, List.foldl_cons, List.foldl_nil]
  have hwrites := lineWrites_eq (k := k) (c := c) hparse
  rw [hdecision, happly] at hwrites
  refine ⟨congrArg Prod.fst hobey, ⟨[.commandFailed line e], ?_, _, rfl, rfl⟩, hwrites⟩
  rw [hobey, Console.report, hlog]

/-- A write that succeeds is followed by records for information. -/
theorem Ends.of_written (hinfo : d.entry.level = .info)
    (hwrite : (k.store.write d.result.target d.result.text
      ((Change.command command).consult k c).2.world).1 = .ok ()) :
    Ends k line c .applied [.write d.result.target d.result.text (.ok ())] := by
  obtain ⟨c', hc'⟩ : ∃ c', Console.inWorld (k.store.write d.result.target d.result.text)
      ((Change.command command).consult k c).2 = (.ok (), c') := ⟨_, Prod.ext hwrite rfl⟩
  have hlog : c'.log = c.log :=
    (congrArg (fun r => r.2.log) hc').symm.trans (Change.log_consult k _ c)
  have happly := apply_parse_of_decision hparse hdecision
  rw [Decision.carryOut_apply, hc'] at happly
  have hobey : obey k line c = (.applied, k.refresh (c'.report d.entry)) := by
    simp only [obey, happly, verdictOn, List.foldl_nil]
  have hwrites := lineWrites_eq (k := k) (c := c) hparse
  rw [hdecision, happly] at hwrites
  -- the change itself is reported, and then what the refresh showed
  obtain ⟨entries, hentries, hlevels⟩ :=
    (Console.informs_report c' hinfo).trans (k.informs_refresh (c'.report d.entry))
  refine ⟨congrArg Prod.fst hobey, ⟨entries, ?_, hlevels⟩, hwrites⟩
  rw [hobey, hentries, hlog]

end

end

/-! ### Along the courses -/

/-- The mode was read, and what was made of it. -/
theorem decisionOn_setFrequency (value : Int64) :
    decisionOn k c (.setFrequency value) =
      Change.resolveFrequency value ((k.store.read .mode c.world).1 >>= Change.modeOf) := rfl

/-- What is called for is decided on. -/
theorem exists_decision {attr : Attribute} {text : String} {w' : ω}
    (h : command.CallsFor k.store c.world attr text w') :
    ∃ d : Decision, decisionOn k c command = .ok d ∧ d.result.target = attr ∧
      d.result.text = text ∧ d.entry.level = .info ∧
      ((Change.command command).consult k c).2.world = w' := by
  cases h with
  | mode mode => exact ⟨_, rfl, rfl, rfl, rfl, rfl⟩
  | @frequency value hmode hrange =>
    have hresolve : Change.resolveFrequency value (.ok .manual) =
        .ok ⟨.frequency (UInt8.ofNat value.toInt.toNat),
          .frequencySet (UInt8.ofNat value.toInt.toNat)⟩ :=
      congrArg (Except.map _) (Frequency.validate_of_mem hrange)
    -- the text that was read is the word for manual mode
    have hmanual : ((k.store.read .mode c.world).1 >>= Change.modeOf) = .ok .manual := by
      rw [hmode]
      rfl
    have hdecision := decisionOn_setFrequency (k := k) (c := c) value
    rw [hmanual, hresolve] at hdecision
    exact ⟨_, hdecision, rfl, Frequency.text_of_mem hrange, rfl, rfl⟩

/-- **The handling of a line follows the course of its command**, if the store fails by access. -/
theorem ends_of_course (hs : k.store.FailsByAccess) {outcome : Verdict}
    {writes : List StoreAccess} (hparse : Command.parse line = command)
    (h : Course k.store c.world command outcome writes) : Ends k line c outcome writes := by
  cases h with
  -- the courses without a write end in the error that their condition leads to
  | auto hmode =>
    refine .of_error hparse (e := .autoModeActive) ?_ rfl ⟨_, rfl, rfl⟩
    rw [decisionOn_setFrequency, hmode]
    rfl
  | unknown text => exact .of_error hparse rfl rfl ⟨_, rfl, rfl⟩
  | @outOfRange value hmode hrange =>
    refine .of_error hparse (e := .invalidFrequency value 1 20) ?_ rfl ⟨_, rfl, rfl⟩
    rw [decisionOn_setFrequency, hmode]
    exact congrArg (Except.map _) (Frequency.validate_of_not_mem hrange)
  | @unreadable value e hmode =>
    refine .of_error hparse ?_ (verdictOn_of_isAccess line (hs.read _ _ _ hmode)) ⟨_, rfl, rfl⟩
    rw [decisionOn_setFrequency, hmode]
    rfl
  | @unrecognized value text hmode hauto hmanual =>
    refine .of_error hparse (e := .invalidAttributeValue "mode" text) ?_ rfl ⟨_, rfl, rfl⟩
    have hnone : Mode.ofText? text = none := by
      rw [Mode.ofText?, if_neg hauto, if_neg hmanual]
    have hmodeOf : Change.modeOf text = .error (.invalidAttributeValue "mode" text) := by
      rw [Change.modeOf, AttributeStore.interpret, hnone]
      rfl
    rw [decisionOn_setFrequency, hmode]
    exact congrArg (Change.resolveFrequency value) hmodeOf
  -- what is called for is what is decided, so the store answers this very write
  | unwritten hcalls hwrite =>
    obtain ⟨d, hd, rfl, rfl, -, rfl⟩ := exists_decision hcalls
    exact .of_unwritten hparse hd (hs.write _ _ _ _ d.result.isWritable_target hwrite) hwrite
  | written hcalls hwrite =>
    obtain ⟨d, hd, rfl, rfl, hinfo, rfl⟩ := exists_decision hcalls
    exact .of_written hparse hd hinfo hwrite

/-- The verdict on a line is the end of a course of its command. -/
theorem obey_fst_eq_iff (hs : k.store.FailsByAccess) {outcome : Verdict} :
    (obey k line c).1 = outcome ↔
      ∃ writes, Course k.store c.world (.parse line) outcome writes := by
  constructor
  · rintro rfl
    obtain ⟨outcome, writes, hcourse⟩ := exists_course k.store c.world (.parse line)
    rw [(ends_of_course hs rfl hcourse).verdict]
    exact ⟨writes, hcourse⟩
  · rintro ⟨writes, hcourse⟩
    exact (ends_of_course hs rfl hcourse).verdict

/-! ### The main statement -/

/-- What holds of the handling of a line. -/
structure Classified (k : Controller ω) (line : String) (c : Console ω) : Prop where
  refused : (obey k line c).1 = .refused ↔ (Command.parse line).IsForbidden k.store c.world
  rejected : (obey k line c).1 = .rejected ↔ (Command.parse line).IsImproper k.store c.world
  failed : (obey k line c).1 = .failed ↔ (Command.parse line).IsThwarted k.store c.world
  /-- The line is applied in the remaining cases. -/
  remaining : (obey k line c).1 = .applied ↔
    ¬ (Command.parse line).IsForbidden k.store c.world ∧
      ¬ (Command.parse line).IsImproper k.store c.world ∧
      ¬ (Command.parse line).IsThwarted k.store c.world
  /-- These are the cases in which it calls for a write that succeeds. -/
  applied : (obey k line c).1 = .applied ↔ (Command.parse line).IsGranted k.store c.world
  /-- The attempts to write fit the verdict. -/
  attempts : (obey k line c).1.Attempts (lineWrites k line c)
  /-- So do the records. -/
  records : ∃ entries, (obey k line c).2.log = c.log ++ entries ∧
    (obey k line c).1.Reports entries

/-- **Every line has one outcome, and the right one**, whatever the line and whatever the front. The
store may answer a read with any text and let any access fail, if only its failures say that an
attribute could not be read or not be written. -/
theorem obey_classified (hs : k.store.FailsByAccess) (line : String) (c : Console ω) :
    Classified k line c := by
  have hcourses : ∀ outcome, (obey k line c).1 = outcome ↔
      ∃ writes, Course k.store c.world (.parse line) outcome writes := fun _ => obey_fst_eq_iff hs
  have hrefused := (hcourses .refused).trans Course.refused_iff
  have hrejected := (hcourses .rejected).trans Course.rejected_iff
  have hfailed := (hcourses .failed).trans Course.failed_iff
  -- the verdict is the end of some course, which leaves its attempts and its records
  obtain ⟨writes, hcourse⟩ := (hcourses (obey k line c).1).mp rfl
  have hends := ends_of_course hs rfl hcourse
  exact {
    refused := hrefused
    rejected := hrejected
    failed := hfailed
    remaining := by
      rw [← hrefused, ← hrejected, ← hfailed]
      cases (obey k line c).1 <;> decide
    applied := (hcourses .applied).trans Course.applied_iff
    attempts := hends.writes ▸ hcourse.attempts
    records := hends.records }

/-- A frequency out of range, while the mode cannot be read: the line fails, and is not rejected. -/
theorem obey_classified_memory :
    let k : Controller Memory := ⟨Memory.store, none⟩
    let m : Memory := ⟨fun | .mode => .error .inputOutput | _ => .ok "3", fun _ => none, []⟩
    Memory.store.FailsByAccess ∧ Classified k "set_freq 25" (.initial m) ∧
      (obey k "set_freq 25" (.initial m)).1 = .failed := by
  intro k m
  have hs : k.store.FailsByAccess := Memory.store_dependsOn.failsByAccess
  have hclassified := obey_classified hs "set_freq 25" (.initial m)
  have hparse : Command.parse "set_freq 25" = .setFrequency 25 := by decide
  exact ⟨hs, hclassified, hclassified.failed.mpr (Or.inl ⟨25, hparse, Or.inl ⟨_, rfl⟩⟩)⟩

end EventLoop

end FanControl
