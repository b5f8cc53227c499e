import FanControl.Proofs.Atomicity
import Mathlib.Data.List.Basic

/-!
# What the panel is told

A refresh reads the three attributes once, one after the other, and pushes what it finds
(`Controller.refresh_eq_glance`), whatever the store answers and however it changes between the
readings. All that an operation does to the panel is to refresh it, and the refreshes of an
operation stand in the record of its accesses (`Operation.display_perform`).

What the panel makes of the pushes is a fact about lists of texts: a row shows the last text that
was pushed to it (`Panel.row_foldl_present`), and the redraws are the places at which the text of a
row differs from the one before (`Panel.redraws_foldl_present`).
-/

namespace FanControl

variable {ω : Type}

/-! ### Rows -/

namespace Row

/-- The sum of a number over all rows. -/
def total (f : Row → Nat) : Nat := f .temperature + f .frequency + f .mode

/-- The text of a row for a value: its head, the value and its unit, cut after sixteen characters.
Without a value it is the placeholder that stands behind the head. -/
def textFor (row : Row) : Option String → String
  | none => row.head ++ "N/A"
  | some value => String.ofList ((row.head ++ (value ++ row.unit)).toList.take 16)

theorem length_textFor_le (row : Row) (value : Option String) :
    (row.textFor value).length ≤ 16 := by
  rcases value with _ | value
  · cases row <;> decide
  · rw [textFor, String.length_ofList, List.length_take]
    exact Nat.min_le_left ..

end Row

namespace Panel

theorem row_initial (row : Row) : initial.row row = row.textFor none := by cases row <;> rfl

theorem row_setRow (p : Panel) (row other : Row) (text : String) :
    (p.setRow row text).row other = if other = row then text else p.row other := by
  cases row <;> cases other <;> rfl

/-- A push is seen in its own row. -/
theorem row_present (p : Panel) (push : Push) (row : Row) :
    (p.present push).row row = if row = push.row then shown push else p.row row := by
  by_cases hsame : p.row push.row = shown push
  · have hchanges : ¬ p.changes push = true := by simp [changes, hsame]
    rw [present, if_neg hchanges]
    split
    · next hrow => rw [hrow, hsame]
    · rfl
  · have hchanges : p.changes push = true := by simp [changes, hsame]
    rw [present, if_pos hchanges, ← row_setRow]
    cases row <;> rfl

theorem redraws_present (p : Panel) (push : Push) :
    (p.present push).redraws =
      p.redraws + if shown push = p.row push.row then 0 else 1 := by
  by_cases hsame : shown push = p.row push.row
  · rw [present, if_neg (by simp [changes, hsame]), if_pos hsame, Nat.add_zero]
  · rw [present, if_pos (by simpa [changes] using Ne.symm hsame), if_neg hsame]

/-- A push of what its row shows already is not seen at all. -/
theorem present_of_row_eq {p : Panel} {push : Push} (h : p.row push.row = shown push) :
    p.present push = p := by
  rw [present, if_neg (by simp [changes, h])]

theorem foldl_present_of_row_eq {p : Panel} {pushes : List Push}
    (h : ∀ push ∈ pushes, p.row push.row = shown push) : pushes.foldl present p = p := by
  induction pushes with
  | nil => rfl
  | cons push pushes ih =>
    rw [List.foldl_cons, present_of_row_eq (h push (List.mem_cons_self ..))]
    exact ih fun push hpush => h push (List.mem_cons_of_mem _ hpush)

/-! ### Sequences of pushes -/

/-- The texts that some pushes put into a row. -/
def texts (row : Row) (pushes : List Push) : List String :=
  (pushes.filter (·.row = row)).map shown

/-- How many texts of a sequence differ from the one before, which for the first is `start`. -/
def switches (start : String) (texts : List String) : Nat :=
  ((start :: texts).zip texts).countP fun (before, text) => text ≠ before

theorem texts_cons (row : Row) (push : Push) (pushes : List Push) :
    texts row (push :: pushes) =
      if push.row = row then shown push :: texts row pushes else texts row pushes := by
  by_cases h : push.row = row
  · rw [if_pos h, texts, List.filter_cons_of_pos (by simpa using h), List.map_cons, texts]
  · rw [if_neg h, texts, List.filter_cons_of_neg (by simpa using h), texts]

theorem texts_flatMap {α : Type} (row : Row) (l : List α) (f : α → List Push) :
    texts row (l.flatMap f) = l.flatMap fun a => texts row (f a) := by
  rw [texts, List.filter_flatMap, List.map_flatMap]
  rfl

theorem switches_cons (start text : String) (texts : List String) :
    switches start (text :: texts) = switches text texts + if text = start then 0 else 1 := by
  rw [switches, List.zip_cons_cons, List.countP_cons, switches]
  by_cases h : text = start <;> simp [h]

/-- A row shows the last text that was pushed to it. -/
theorem row_foldl_present (p : Panel) (pushes : List Push) (row : Row) :
    (pushes.foldl present p).row row = (texts row pushes).getLastD (p.row row) := by
  induction pushes generalizing p with
  | nil => rfl
  | cons push pushes ih =>
    rw [List.foldl_cons, ih, row_present, texts_cons]
    by_cases h : push.row = row
    · rw [if_pos h, if_pos h.symm, List.getLastD_cons]
    · rw [if_neg h, if_neg (Ne.symm h)]

/-- The redraws are counted row by row. -/
theorem redraws_foldl_present (p : Panel) (pushes : List Push) :
    (pushes.foldl present p).redraws =
      p.redraws + Row.total fun row => switches (p.row row) (texts row pushes) := by
  induction pushes generalizing p with
  | nil => rfl
  | cons push pushes ih =>
    rw [List.foldl_cons, ih, redraws_present]
    simp only [Row.total, row_present, texts_cons]
    -- only the row of the first push has one text more
    rcases hrow : push.row with _ | _ | _ <;> simp [switches_cons] <;> omega

end Panel

/-! ### Glances -/

/-- What a refresh found when it read the three attributes. -/
structure Glance where
  mode : Except Error String
  temperature : Except Error String
  frequency : Except Error String

namespace Glance

/-- The answers by attribute. -/
def answer (g : Glance) : Attribute → Except Error String
  | .mode => g.mode
  | .temperature => g.temperature
  | .frequency => g.frequency

/-- The value for a row: the text of the mode as it was read, or a number in base ten; a frequency
has to be positive. There is none if the attribute could not be read. -/
def value? (g : Glance) (row : Row) : Option String := row.valueIn (g.answer row.shows)

/-- The values that are pushed to the panel. -/
def pushes (g : Glance) : List Push :=
  Push.ofAnswers [.mode, .temperature, .frequency] g.answer

/-- The accesses by which the attributes were read. -/
def reads (g : Glance) : List StoreAccess :=
  [.read .mode g.mode, .read .temperature g.temperature, .read .frequency g.frequency]

/-- The refreshes among some accesses: mode, temperature and frequency, read in a row. -/
def ofAccesses : List StoreAccess → List Glance
  | .read .mode mode :: .read .temperature temperature :: .read .frequency frequency :: rest =>
    ⟨mode, temperature, frequency⟩ :: ofAccesses rest
  | _ :: rest => ofAccesses rest
  | [] => []

theorem pushes_eq (g : Glance) :
    g.pushes =
      [Row.mode, .temperature, .frequency].flatMap fun row =>
        ((g.value? row).map (Push.mk row)).toList := by
  rw [← List.filterMap_eq_flatMap_toList]
  rfl

/-- Each row gets its value, if there is one. -/
theorem texts_pushes (g : Glance) (row : Row) :
    Panel.texts row g.pushes =
      ((g.value? row).map fun value => row.textFor (some value)).toList := by
  -- a push is seen on its own row only, and it fits there without a change
  have hpush : ∀ other, Panel.texts row ((g.value? other).map (Push.mk other)).toList =
      if other = row then ((g.value? row).map fun value => row.textFor (some value)).toList
      else [] := by
    intro other
    by_cases h : other = row
    · subst h
      rw [if_pos rfl]
      rcases g.value? other with _ | value
      · rfl
      · simp [Panel.texts, Panel.shown, Panel.fit, Panel.columns, Row.textFor]
    · rw [if_neg h]
      rcases g.value? other with _ | value <;> simp [Panel.texts, h]
  rw [pushes_eq, Panel.texts_flatMap]
  simp only [hpush]
  cases row <;> simp

theorem ofAccesses_reads (g : Glance) : ofAccesses g.reads = [g] := rfl

end Glance

/-! ### Refreshes -/

namespace Console

/-- What is shown makes no difference to the world behind the front. -/
theorem inWorld_showValue {α : Type} (m : Action ω α) (row : Row) (value : Option String)
    (c : Console ω) :
    inWorld m (c.showValue row value) = ((inWorld m c).1, (inWorld m c).2.showValue row value) := by
  have hpanel : (inWorld m c).2.panel = c.panel := rfl
  rcases value with _ | value
  · rfl
  · simp only [showValue, present, hpanel]
    split <;> rfl

end Console

namespace Controller

variable (k : Controller ω)

/-- What a refresh finds in a world, and the world that it leaves. -/
def glance (w : ω) : Glance × ω :=
  let (mode, w) := k.store.read .mode w
  let (temperature, w) := k.store.read .temperature w
  let (frequency, w) := k.store.read .frequency w
  (⟨mode, temperature, frequency⟩, w)

/-- **A refresh is a glance at the attributes** and pushes what was found. -/
theorem refresh_eq_glance (c : Console ω) :
    k.refresh c =
      (k.glance c.world).1.pushes.foldl Console.present
        { c with world := (k.glance c.world).2, refreshes := c.refreshes + 1 } := by
  -- which rows have a value decides which pushes there are
  have hshow : ∀ (g : Glance) (c : Console ω),
      ((c.showValue .mode (g.value? .mode)).showValue .temperature
        (g.value? .temperature)).showValue .frequency (g.value? .frequency) =
          g.pushes.foldl Console.present c := by
    intro g c
    rw [Glance.pushes_eq]
    rcases hmode : g.value? .mode with _ | m <;>
      rcases htemperature : g.value? .temperature with _ | t <;>
      rcases hfrequency : g.value? .frequency with _ | f <;>
      simp [hmode, htemperature, hfrequency, Console.showValue]
  rw [refresh_rows]
  simp only [refreshRow_eq, Console.inWorld_showValue]
  exact hshow (k.glance c.world).1 _

end Controller

/-! ### The display side of the front -/

/-- The part of the front that has to do with the panel. -/
structure Display where
  panel : Panel
  pushes : List Push
  refreshes : Nat

namespace Display

/-- The display after a refresh that found this. -/
def update (d : Display) (g : Glance) : Display :=
  ⟨g.pushes.foldl Panel.present d.panel, d.pushes ++ g.pushes, d.refreshes + 1⟩

/-- The display after several refreshes. -/
theorem foldl_update (d : Display) (glances : List Glance) :
    glances.foldl update d =
      ⟨(glances.flatMap Glance.pushes).foldl Panel.present d.panel,
        d.pushes ++ glances.flatMap Glance.pushes, d.refreshes + glances.length⟩ := by
  induction glances generalizing d with
  | nil => simp
  | cons g glances ih =>
    rw [List.foldl_cons, ih, update, List.flatMap_cons, List.foldl_append, List.append_assoc,
      List.length_cons, Nat.add_assoc, Nat.add_comm 1]

end Display

namespace Console

/-- The display side of a front. -/
def display (c : Console ω) : Display := ⟨c.panel, c.pushes, c.refreshes⟩

@[simp] theorem display_report (c : Console ω) (entry : LogEntry) :
    (c.report entry).display = c.display := rfl

@[simp] theorem display_inWorld {α : Type} (m : Action ω α) (c : Console ω) :
    (inWorld m c).2.display = c.display := rfl

@[simp] theorem display_reports (entries : List LogEntry) (c : Console ω) :
    (entries.foldl report c).display = c.display := by
  induction entries generalizing c with
  | nil => rfl
  | cons entry entries ih => exact ih (c.report entry)

end Console

namespace Controller

variable (k : Controller ω)

theorem display_refresh (c : Console ω) :
    (k.refresh c).display = c.display.update (k.glance c.world).1 := by
  obtain ⟨-, hrefreshes, hpushes, hpanel⟩ := Console.foldl_present (k.glance c.world).1.pushes
    { c with world := (k.glance c.world).2, refreshes := c.refreshes + 1 }
  rw [refresh_eq_glance, Console.display, hrefreshes, hpushes, hpanel]
  rfl

/-- The lamp and its indicator have nothing to do with the panel. -/
theorem display_followHeld (change : Indicator → Indicator × Option Bool) (c : Console ω) :
    (k.followHeld change c).display = c.display := by
  rw [followHeld]
  rcases k.lamp with _ | lamp
  · rfl
  · simp only [Console.indicate]
    rcases change c.indicator with ⟨indicator, _ | on⟩
    · rfl
    · simp only [Console.order, Console.inWorld, Action.focus]
      rcases lamp on c.world with ⟨_ | _, w⟩ <;> rfl

theorem glance_recorded (w : ω) (past : List StoreAccess) :
    k.recorded.glance ⟨w, past⟩ =
      ((k.glance w).1, ⟨(k.glance w).2, past ++ (k.glance w).1.reads⟩) := by
  simp only [glance, recorded, AttributeStore.recorded, Glance.reads, List.append_assoc,
    List.cons_append, List.nil_append]

/-- A refresh makes the accesses of its glance. -/
theorem accesses_refresh (c : Console ω) (past : List StoreAccess) :
    (k.recorded.refresh (c.recording past)).world.accesses =
      past ++ (k.glance c.world).1.reads := by
  rw [refresh_eq_glance, (Console.foldl_present _ _).1]
  exact congrArg (fun found => found.2.accesses) (k.glance_recorded c.world past)

end Controller

/-! ### Operations refresh the panel -/

/-- Carrying a decision out is one attempt to write, and a refresh if it succeeds. -/
theorem Decision.display_carryOut (k : Controller ω) (d : Decision) (c : Console ω)
    (past : List StoreAccess) :
    ∃ (outcome : Except Error Unit) (glances : List Glance),
      (d.carryOut k.recorded (c.recording past)).2.world.accesses =
        past ++ .write d.result.target d.result.text outcome ::
          glances.flatMap Glance.reads ∧
      (d.carryOut k c).2.display = glances.foldl Display.update c.display ∧
      glances.length = if (d.carryOut k c).1.isOk then 1 else 0 := by
  rw [carryOut_apply, carryOut_apply, Controller.inWorld_write_recorded]
  have hdisplay := Console.display_inWorld (k.store.write d.result.target d.result.text) c
  rcases hwrite : Console.inWorld (k.store.write d.result.target d.result.text) c with ⟨e | _, c'⟩
  · -- a write that fails is the last thing that happens
    rw [hwrite] at hdisplay
    exact ⟨.error e, [], rfl, hdisplay, rfl⟩
  · rw [hwrite] at hdisplay
    refine ⟨.ok (), [(k.glance c'.world).1], ?_, ?_, rfl⟩
    · simp only [Console.recording_report, Controller.accesses_refresh, List.append_assoc,
        List.flatMap_singleton]
      rfl
    · rw [Controller.display_refresh, Console.display_report, hdisplay]
      rfl

namespace Glance

theorem ofAccesses_flatMap_reads (glances : List Glance) :
    ofAccesses (glances.flatMap reads) = glances := by
  induction glances with
  | nil => rfl
  | cons g glances ih =>
    rw [List.flatMap_cons, reads, List.cons_append, List.cons_append, List.cons_append,
      List.nil_append, ofAccesses, ih]

/-- What a change consults is no refresh. -/
theorem ofAccesses_consultation (x : Change) (answer : Except Error String) :
    ofAccesses (x.consultation answer) = [] := by
  unfold Change.consultation
  rcases x.consults with _ | _ | _ | _ <;> rfl

theorem ofAccesses_consultation_append (x : Change) (answer : Except Error String)
    (attr : Attribute) (value : String) (outcome : Except Error Unit) (rest : List StoreAccess) :
    ofAccesses (x.consultation answer ++ .write attr value outcome :: rest) =
      ofAccesses rest := by
  unfold Change.consultation
  rcases x.consults with _ | _ | _ | _ <;> simp [ofAccesses]

end Glance

/-- **A change that succeeds is followed by one refresh**, and one that fails by none. -/
theorem Change.display_perform (k : Controller ω) (x : Change) (c : Console ω) :
    let glances := Glance.ofAccesses ((Operation.change x).accesses k c)
    (x.perform k c).2.display = glances.foldl Display.update c.display ∧
      glances.length = if (x.perform k c).1.isOk then 1 else 0 := by
  intro glances
  obtain ⟨answer, hanswer⟩ : ∃ answer, answer = (x.consult k c).1 := ⟨_, rfl⟩
  obtain ⟨c', hc'⟩ : ∃ c', c' = (x.consult k c).2 := ⟨_, rfl⟩
  -- to consult an attribute shows nothing
  have hdisplay : c'.display = c.display := by
    rw [hc', consult]
    cases x.consults <;> rfl
  have haccesses : (Operation.change x).accesses k c =
      (conclude k.recorded (x.resolve answer)
        (c'.recording (x.consultation answer))).2.world.accesses := by
    rw [Operation.accesses, Operation.perform, perform_eq, consult_recorded, ← hanswer, ← hc',
      List.nil_append]
  rw [perform_eq, ← hanswer, ← hc', show glances = _ from congrArg Glance.ofAccesses haccesses]
  rcases x.resolve answer with ⟨e | d, entries⟩
  · -- a refused change has read at most once, and that is no glance
    rw [conclude_error, conclude_error, Console.recording_reports]
    have hnone : Glance.ofAccesses
        ((entries.foldl Console.report c').recording (x.consultation answer)).world.accesses = [] :=
      Glance.ofAccesses_consultation x answer
    rw [hnone, Console.display_reports, hdisplay]
    exact ⟨rfl, rfl⟩
  · -- a write tells the read of the change from the reads of the refresh
    rw [conclude_ok, conclude_ok, Console.recording_reports]
    obtain ⟨outcome, found, hrecord, hcarried, hlength⟩ :=
      d.display_carryOut k (entries.foldl Console.report c') (x.consultation answer)
    rw [hrecord, Glance.ofAccesses_consultation_append, Glance.ofAccesses_flatMap_reads, hcarried,
      Console.display_reports, hdisplay]
    exact ⟨rfl, hlength⟩

namespace Operation

theorem accesses_press (k : Controller ω) (b : Button) (c : Console ω) :
    (press b).accesses k c =
      (change b.id.change).accesses k (k.followHeld Indicator.pressed c) := by
  simp only [accesses, perform, Controller.notify, press_eq, Controller.followHeld_recorded]
  rcases b.id.change.perform k.recorded
    ((k.followHeld Indicator.pressed c).recording []) with ⟨_ | _, c'⟩ <;> rfl

theorem display_press (k : Controller ω) (b : Button) (c : Console ω) :
    (k.press b c).display =
      (b.id.change.perform k (k.followHeld Indicator.pressed c)).2.display := by
  rw [press_eq]
  rcases b.id.change.perform k (k.followHeld Indicator.pressed c) with ⟨_ | _, c'⟩ <;> rfl

/-- **All that an operation does to the panel is to refresh it.** -/
theorem display_perform (k : Controller ω) (op : Operation) (c : Console ω) :
    (op.perform k c).display =
      (Glance.ofAccesses (op.accesses k c)).foldl Display.update c.display := by
  cases op with
  | change x => exact (Change.display_perform k x c).1
  | refresh =>
    have haccesses : refresh.accesses k c = (k.glance c.world).1.reads :=
      k.accesses_refresh c []
    rw [haccesses, Glance.ofAccesses_reads]
    exact k.display_refresh c
  -- the lamp is no part of the display, nor of what is recorded
  | press b =>
    rw [accesses_press, ← k.display_followHeld Indicator.pressed c,
      ← (Change.display_perform k b.id.change (k.followHeld Indicator.pressed c)).1]
    exact display_press k b c
  | release b =>
    have haccesses : (release b).accesses k c = [] := by
      rw [accesses, perform, Controller.notify, Controller.release,
        Controller.followHeld_recorded]
      rfl
    rw [haccesses]
    exact k.display_followHeld Indicator.released c

end Operation

end FanControl
