import FanControl.Proofs.Change

/-!
# The accesses that an operation makes

`AttributeStore.recorded` is a store that does what another one does and keeps a record of every
access with its outcome. An operation on a controller runs on the recorded store exactly as it
runs on the plain one (`Operation.perform_recording`), so its record (`Operation.accesses`) tells
which accesses the plain run makes, and in which order.
-/

namespace FanControl

variable {ω : Type}

/-- An access to an attribute, and how it ended. -/
inductive StoreAccess where
  | read (attr : Attribute) (outcome : Except Error String)
  | write (attr : Attribute) (value : String) (outcome : Except Error Unit)

/-- Whether an access is an attempt to write. -/
def StoreAccess.isWrite : StoreAccess → Bool
  | .read .. => false
  | .write .. => true

/-- A world, and the accesses to its attributes so far. -/
structure Recorded (ω : Type) where
  world : ω
  accesses : List StoreAccess

/-- The same store, with a record of the accesses. -/
def AttributeStore.recorded (s : AttributeStore ω) : AttributeStore (Recorded ω) where
  read attr := fun w =>
    let (outcome, world) := s.read attr w.world
    (outcome, ⟨world, w.accesses ++ [.read attr outcome]⟩)
  write attr value := fun w =>
    let (outcome, world) := s.write attr value w.world
    (outcome, ⟨world, w.accesses ++ [.write attr value outcome]⟩)

/-- The same controller on the recorded store; what its lamp does is not recorded. -/
def Controller.recorded (k : Controller ω) : Controller (Recorded ω) where
  store := k.store.recorded
  lamp := k.lamp.map fun lamp on => (lamp on).focus Recorded.world fun world w => { w with world }

/-- The same front before a world with a record. -/
def Console.recording (c : Console ω) (accesses : List StoreAccess) : Console (Recorded ω) :=
  { c with world := ⟨c.world, accesses⟩ }

/-! ### Recording changes nothing -/

namespace Console

theorem recording_report (c : Console ω) (past : List StoreAccess) (entry : LogEntry) :
    (c.recording past).report entry = (c.report entry).recording past := rfl

theorem recording_reports (c : Console ω) (past : List StoreAccess) (entries : List LogEntry) :
    entries.foldl report (c.recording past) = (entries.foldl report c).recording past := by
  induction entries generalizing c with
  | nil => rfl
  | cons entry entries ih => exact ih (c.report entry)

theorem recording_present (c : Console ω) (past : List StoreAccess) (push : Push) :
    (c.recording past).present push = (c.present push).recording past := by
  by_cases h : c.panel.changes push = true
  · have h' : (c.recording past).panel.changes push = true := h
    simp only [present, if_pos h, if_pos h']
    rfl
  · have h' : ¬ (c.recording past).panel.changes push = true := h
    simp only [present, if_neg h, if_neg h']
    rfl

theorem recording_showValue (row : Row) (value : Option String) (c : Console ω)
    (past : List StoreAccess) :
    (c.recording past).showValue row value = (c.showValue row value).recording past := by
  cases value
  · rfl
  · exact recording_present c past _

end Console

namespace Controller

variable (k : Controller ω)

theorem followHeld_recorded (change : Indicator → Indicator × Option Bool) (c : Console ω)
    (past : List StoreAccess) :
    k.recorded.followHeld change (c.recording past) = (k.followHeld change c).recording past := by
  rcases k with ⟨store, _ | lamp⟩
  · rfl
  · simp only [followHeld, recorded, Option.map_some, Console.indicate, Console.recording]
    rcases change c.indicator with ⟨indicator, _ | on⟩
    · rfl
    · simp only [Console.order, Console.inWorld, Action.focus]
      rcases lamp on c.world with ⟨_ | _, w⟩ <;> rfl

theorem inWorld_read_recorded (attr : Attribute) (c : Console ω)
    (past : List StoreAccess) :
    Console.inWorld (k.recorded.store.read attr) (c.recording past) =
      ((Console.inWorld (k.store.read attr) c).1,
        (Console.inWorld (k.store.read attr) c).2.recording
          (past ++ [.read attr (Console.inWorld (k.store.read attr) c).1])) := rfl

theorem inWorld_write_recorded (attr : Attribute) (value : String)
    (c : Console ω) (past : List StoreAccess) :
    Console.inWorld (k.recorded.store.write attr value) (c.recording past) =
      ((Console.inWorld (k.store.write attr value) c).1,
        (Console.inWorld (k.store.write attr value) c).2.recording
          (past ++ [.write attr value (Console.inWorld (k.store.write attr value) c).1])) := rfl

theorem refreshRow_recorded (row : Row) (c : Console ω)
    (past : List StoreAccess) :
    k.recorded.refreshRow row (c.recording past) =
      (k.refreshRow row c).recording
        (past ++ [.read row.shows (Console.inWorld (k.store.read row.shows) c).1]) := by
  rw [refreshRow_eq, refreshRow_eq, inWorld_read_recorded, Console.recording_showValue]

/-- A refresh reads the three attributes. -/
theorem refresh_recorded (c : Console ω) :
    ∃ m t f, ∀ past, k.recorded.refresh (c.recording past) =
      (k.refresh c).recording
        (past ++ [.read .mode m, .read .temperature t, .read .frequency f]) := by
  obtain ⟨c₀, hc₀⟩ : ∃ c₀, c₀ = { c with refreshes := c.refreshes + 1 } := ⟨_, rfl⟩
  obtain ⟨c₁, hc₁⟩ : ∃ c₁, c₁ = k.refreshRow .mode c₀ := ⟨_, rfl⟩
  obtain ⟨c₂, hc₂⟩ : ∃ c₂, c₂ = k.refreshRow .temperature c₁ := ⟨_, rfl⟩
  -- the three answers are given on fronts that follow each other, whatever the record was before
  refine ⟨(Console.inWorld (k.store.read .mode) c₀).1,
    (Console.inWorld (k.store.read .temperature) c₁).1,
    (Console.inWorld (k.store.read .frequency) c₂).1, fun past => ?_⟩
  have hstart : ({ c.recording past with refreshes := (c.recording past).refreshes + 1 } :
      Console (Recorded ω)) = c₀.recording past := by rw [hc₀]; rfl
  rw [refresh_rows, refresh_rows, hstart, ← hc₀, refreshRow_recorded, ← hc₁, refreshRow_recorded,
    ← hc₂, refreshRow_recorded, List.append_assoc, List.append_assoc]
  rfl

end Controller

/-! ### The accesses of a change -/

namespace Change

/-- The accesses that consulting makes, with this answer. -/
def consultation (x : Change) (answer : Except Error String) : List StoreAccess :=
  x.consults.toList.map fun attr => .read attr answer

/-- Consulting does not write. -/
theorem not_isWrite_of_mem_consultation {x : Change} {answer : Except Error String}
    {a : StoreAccess} (h : a ∈ x.consultation answer) : a.isWrite = false := by
  obtain ⟨attr, -, rfl⟩ := List.mem_map.mp h
  rfl

/-- The accesses that a change can make when it gets this answer, and the result it then has. -/
inductive Trail (x : Change) (answer : Except Error String) :
    Except Error Applied → List StoreAccess → Prop where
  /-- There was no decision to carry out. -/
  | undecided {e} (h : (x.resolve answer).1 = .error e) :
    Trail x answer (.error e) (x.consultation answer)
  /-- The write failed. -/
  | failed {d} (e : Error) (h : (x.resolve answer).1 = .ok d) :
    Trail x answer (.error e)
      (x.consultation answer ++ [.write d.result.target d.result.text (.error e)])
  /-- The write succeeded, and the panel was refreshed. -/
  | done {d} (m t f : Except Error String) (h : (x.resolve answer).1 = .ok d) :
    Trail x answer (.ok d.result)
      (x.consultation answer ++ [.write d.result.target d.result.text (.ok ()), .read .mode m,
        .read .temperature t, .read .frequency f])

variable (k : Controller ω)

theorem consult_recorded (x : Change) (c : Console ω) (past : List StoreAccess) :
    x.consult k.recorded (c.recording past) =
      ((x.consult k c).1,
        (x.consult k c).2.recording (past ++ x.consultation (x.consult k c).1)) := by
  unfold consult consultation
  rcases x.consults with _ | attr
  · simp
  · rfl

/-- Carrying a decision out makes one write; a refresh follows if it succeeds. -/
theorem carryOut_recorded {x : Change} {answer : Except Error String} {d : Decision}
    (h : (x.resolve answer).1 = .ok d) (c : Console ω) :
    ∃ accesses, x.Trail answer (d.carryOut k c).1 (x.consultation answer ++ accesses) ∧
      ∀ past, d.carryOut k.recorded (c.recording past) =
        ((d.carryOut k c).1, (d.carryOut k c).2.recording (past ++ accesses)) := by
  rw [Decision.carryOut_apply]
  rcases hw : Console.inWorld (k.store.write d.result.target d.result.text) c with ⟨e | _, c'⟩
  · refine ⟨_, .failed e h, fun past => ?_⟩
    rw [Decision.carryOut_apply, Controller.inWorld_write_recorded, hw]
  · obtain ⟨m, t, f, href⟩ := k.refresh_recorded (c'.report d.entry)
    refine ⟨_, .done m t f h, fun past => ?_⟩
    rw [Decision.carryOut_apply, Controller.inWorld_write_recorded, hw]
    simp only [Console.recording_report, href, List.append_assoc]
    rfl

/-- **A change runs on the recorded store as it does on the plain one**, and its accesses make a
trail. -/
theorem perform_recorded (x : Change) (c : Console ω) :
    ∃ accesses, x.Trail (x.consult k c).1 (x.perform k c).1 accesses ∧
      ∀ past, x.perform k.recorded (c.recording past) =
        ((x.perform k c).1, (x.perform k c).2.recording (past ++ accesses)) := by
  rw [perform_eq]
  obtain ⟨answer, hanswer⟩ : ∃ answer, answer = (x.consult k c).1 := ⟨_, rfl⟩
  obtain ⟨c', hc'⟩ : ∃ c', c' = (x.consult k c).2 := ⟨_, rfl⟩
  -- the answer decides, so both runs go on alike
  rcases hr : x.resolve answer with ⟨e | d, entries⟩
  · refine ⟨x.consultation answer, ?_, fun past => ?_⟩
    · rw [← hanswer, hr, conclude_error]
      exact .undecided (congrArg Prod.fst hr)
    · rw [perform_eq, consult_recorded, ← hanswer, ← hc', hr, conclude_error, conclude_error,
        Console.recording_reports]
  · obtain ⟨accesses, htrail, hrun⟩ :=
      carryOut_recorded k (congrArg Prod.fst hr) (entries.foldl Console.report c')
    refine ⟨x.consultation answer ++ accesses, ?_, fun past => ?_⟩
    · rw [← hanswer, ← hc', hr, conclude_ok]
      exact htrail
    · rw [perform_eq, consult_recorded, ← hanswer, ← hc', hr, conclude_ok, conclude_ok,
        Console.recording_reports, hrun, List.append_assoc]

end Change

/-! ### Operations -/

/-- What can be asked of a controller. -/
inductive Operation where
  | change (x : Change)
  | refresh
  | press (b : Button)
  | release (b : Button)

namespace Operation

/-- Performs an operation. -/
def perform (k : Controller ω) : Operation → Console ω → Console ω
  | .change x, c => (x.perform k c).2
  | .refresh, c => k.refresh c
  | .press b, c => k.notify .press b c
  | .release b, c => k.notify .release b c

/-- The accesses that an operation makes. -/
def accesses (k : Controller ω) (op : Operation) (c : Console ω) : List StoreAccess :=
  (op.perform k.recorded (c.recording [])).world.accesses

/-- The accesses that an operation can make. -/
inductive Trail : Operation → List StoreAccess → Prop where
  | change {x answer result accesses} (h : x.Trail answer result accesses) :
    Trail (.change x) accesses
  | refresh (m t f : Except Error String) :
    Trail .refresh [.read .mode m, .read .temperature t, .read .frequency f]
  | press {b answer result accesses} (h : b.id.change.Trail answer result accesses) :
    Trail (.press b) accesses
  | release {b} : Trail (.release b) []

/-- Pressing a button makes its change, and reports it if it fails. -/
theorem press_eq (k : Controller ω) (b : Button) (c : Console ω) :
    k.press b c =
      match b.id.change.perform k (k.followHeld Indicator.pressed c) with
      | (.ok _, c) => c
      | (.error e, c) => c.report (.buttonActionFailed b.name e) := by
  -- what a button does is its change, and the result is of no interest to it
  have haction : ∀ c, k.pressAction b.id c =
      ((b.id.change.perform k c).1.map fun _ => (), (b.id.change.perform k c).2) := by
    intro c
    cases b.id
    · simp only [Controller.pressAction, ButtonId.change, Change.perform, Action.bind_apply]
      rcases k.faster c with ⟨_ | _, c⟩ <;> rfl
    · simp only [Controller.pressAction, ButtonId.change, Change.perform, Action.bind_apply]
      rcases k.slower c with ⟨_ | _, c⟩ <;> rfl
    · simp only [Controller.pressAction, ButtonId.change, Change.perform, Action.bind_apply]
      rcases k.switchMode c with ⟨_ | _, c⟩ <;> rfl
  rw [Controller.press, haction]
  rcases b.id.change.perform k (k.followHeld Indicator.pressed c) with ⟨_ | _, c⟩ <;> rfl

theorem exists_perform_recorded (k : Controller ω) (op : Operation) (c : Console ω) :
    ∃ accesses, op.Trail accesses ∧ ∀ past, op.perform k.recorded (c.recording past) =
      (op.perform k c).recording (past ++ accesses) := by
  cases op with
  | change x =>
    obtain ⟨accesses, htrail, hrun⟩ := Change.perform_recorded k x c
    refine ⟨accesses, .change htrail, fun past => ?_⟩
    rw [perform, perform, hrun]
  | refresh =>
    obtain ⟨m, t, f, hrun⟩ := k.refresh_recorded c
    exact ⟨_, .refresh m t f, hrun⟩
  | press b =>
    obtain ⟨accesses, htrail, hrun⟩ :=
      Change.perform_recorded k b.id.change (k.followHeld Indicator.pressed c)
    refine ⟨accesses, .press htrail, fun past => ?_⟩
    simp only [perform, Controller.notify]
    rw [press_eq, press_eq, Controller.followHeld_recorded, hrun]
    rcases b.id.change.perform k (k.followHeld Indicator.pressed c) with ⟨_ | _, c⟩ <;> rfl
  | release b =>
    refine ⟨[], .release, fun past => ?_⟩
    rw [List.append_nil]
    exact k.followHeld_recorded _ c past

/-- **An operation runs on the recorded store as it does on the plain one**, and adds its
accesses to the record. -/
theorem perform_recording (k : Controller ω) (op : Operation) (c : Console ω)
    (past : List StoreAccess) :
    op.perform k.recorded (c.recording past) =
      (op.perform k c).recording (past ++ op.accesses k c) := by
  obtain ⟨accesses, -, hrun⟩ := exists_perform_recorded k op c
  rw [Operation.accesses, hrun, hrun, List.nil_append]
  rfl

/-- The accesses of a change make a trail for the answer that it consulted and the result that it
has. -/
theorem trail_accesses_change (k : Controller ω) (x : Change) (c : Console ω) :
    x.Trail (x.consult k c).1 (x.perform k c).1 ((change x).accesses k c) := by
  obtain ⟨accesses, htrail, hrun⟩ := Change.perform_recorded k x c
  rw [Operation.accesses, perform, hrun, List.nil_append]
  exact htrail

/-- The accesses of an operation make a trail. -/
theorem trail_accesses (k : Controller ω) (op : Operation) (c : Console ω) :
    op.Trail (op.accesses k c) := by
  obtain ⟨accesses, htrail, hrun⟩ := exists_perform_recorded k op c
  rw [Operation.accesses, hrun, List.nil_append]
  exact htrail

end Operation

end FanControl
