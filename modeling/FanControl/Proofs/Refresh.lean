import FanControl.Controller

/-!
# What a refresh shows

A row of the panel shows one attribute, and what it shows is a function of the answer to reading
that attribute (`Row.valueIn`): nothing if the attribute cannot be read or has no meaning for the
row. `Controller.refreshRow_eq` says that this is all that refreshing a row does; a store that
answers out of its world is shown as it is (`Controller.refresh_eq`).
-/

namespace FanControl

variable {ω : Type}

/-! ### Reading and giving a meaning -/

/-- Reading with a meaning is reading, and then giving the answer its meaning. -/
theorem Action.meaning_apply {α : Type} (m : Action ω String) (meaning : String → Except Error α)
    (w : ω) : (do meaning (← m) : Action ω α) w = ((m w).1 >>= meaning, (m w).2) := by
  rw [bind_apply]
  rcases m w with ⟨_ | _, w⟩ <;> rfl

/-- The same behind a front. -/
theorem Console.inWorld_meaning {α : Type} (m : Action ω String)
    (meaning : String → Except Error α) (c : Console ω) :
    inWorld (do meaning (← m)) c = ((inWorld m c).1 >>= meaning, (inWorld m c).2) := by
  simp only [inWorld, Action.focus, Action.meaning_apply]

/-! ### Rows -/

namespace Row

/-- The attribute that a row shows. -/
def shows : Row → Attribute
  | .temperature => .temperature
  | .frequency => .frequency
  | .mode => .mode

/-- What a text means for a row. -/
def meaning : Row → String → Except Error (Option String)
  | .mode, raw => .ok (some raw)
  | .temperature, raw => (AttributeStore.interpret .temperature AttributeStore.integer? raw).map
      fun n => some (Text.Decimal.ofInt n.toInt)
  | .frequency, raw => (AttributeStore.interpret .frequency AttributeStore.integer? raw).map
      fun n => if 0 < n.toInt then some (Text.Decimal.ofInt n.toInt) else none

/-- The value for a row in an answer to reading its attribute: the text of a mode, and numbers in
base ten; a frequency has to be positive. -/
def valueIn (answer : Except Error String) : Row → Option String
  | .mode => answer.toOption
  | .temperature =>
    (answer.toOption.bind AttributeStore.integer?).map fun n => Text.Decimal.ofInt n.toInt
  | .frequency =>
    (answer.toOption.bind AttributeStore.integer?).bind fun n =>
      if 0 < n.toInt then some (Text.Decimal.ofInt n.toInt) else none

end Row

namespace Console

/-- Shows a value in a row, if there is one. -/
def showValue (row : Row) (value : Option String) (c : Console ω) : Console ω :=
  match value with
  | some value => c.present ⟨row, value⟩
  | none => c

@[simp] theorem world_reports (entries : List LogEntry) (c : Console ω) :
    (entries.foldl report c).world = c.world := by
  induction entries generalizing c with
  | nil => rfl
  | cons entry entries ih => exact ih (c.report entry)

@[simp] theorem world_present (c : Console ω) (push : Push) :
    (c.present push).world = c.world := by
  unfold present
  split <;> rfl

@[simp] theorem world_showValue (row : Row) (value : Option String) (c : Console ω) :
    (c.showValue row value).world = c.world := by
  cases value
  · rfl
  · exact world_present c _

/-- Shows what an answer means for a row. -/
theorem showValue_valueIn (row : Row) (answer : Except Error String) (c : Console ω) :
    c.showValue row (row.valueIn answer) =
      match (answer >>= row.meaning, c) with
      | (.ok (some value), c) => c.present ⟨row, value⟩
      | (_, c) => c := by
  rcases answer with e | raw
  · -- each row reads its value in its own way, and a frequency has to be positive
    cases row <;> rfl
  · show c.showValue row (row.valueIn (.ok raw)) =
      match (row.meaning raw, c) with
      | (.ok (some value), c) => c.present ⟨row, value⟩
      | (_, c) => c
    cases row
    · simp only [Row.valueIn, Except.toOption, Option.bind_some, Row.meaning,
        AttributeStore.interpret]
      cases AttributeStore.integer? raw <;> rfl
    · simp only [Row.valueIn, Except.toOption, Option.bind_some, Row.meaning,
        AttributeStore.interpret]
      rcases AttributeStore.integer? raw with _ | n
      · rfl
      · simp only [Option.bind_some, Except.map]
        split <;> rfl
    · rfl

end Console

namespace Controller

theorem reading_eq (k : Controller ω) (row : Row) :
    k.reading row = (do row.meaning (← k.store.read row.shows)) := by
  cases row
  · rw [reading, AttributeStore.readTemperature, bind_assoc]
    refine congrArg (k.store.read .temperature >>= ·) (funext fun raw => ?_)
    simp only [Row.meaning]
    cases AttributeStore.interpret .temperature AttributeStore.integer? raw <;> rfl
  · rw [reading, AttributeStore.readFrequency, bind_assoc]
    refine congrArg (k.store.read .frequency >>= ·) (funext fun raw => ?_)
    simp only [Row.meaning]
    cases AttributeStore.interpret .frequency AttributeStore.integer? raw <;> rfl
  · rfl

/-- Refreshing a row reads its attribute and shows what the answer holds for the row. -/
theorem refreshRow_eq (k : Controller ω) (row : Row) (c : Console ω) :
    k.refreshRow row c =
      (Console.inWorld (k.store.read row.shows) c).2.showValue row
        (row.valueIn (Console.inWorld (k.store.read row.shows) c).1) := by
  rw [refreshRow, reading_eq, Console.inWorld_meaning]
  exact (Console.showValue_valueIn row _ _).symm

/-- A refresh shows mode, temperature and frequency, one after the other. -/
theorem refresh_rows (k : Controller ω) (c : Console ω) :
    k.refresh c =
      k.refreshRow .frequency (k.refreshRow .temperature (k.refreshRow .mode
        { c with refreshes := c.refreshes + 1 })) := rfl

end Controller

/-! ### Stores that answer out of their world -/

/-- A store that reads as `answer` says and leaves the world alone. -/
def AttributeStore.Answers (s : AttributeStore ω)
    (answer : ω → Attribute → Except Error String) : Prop :=
  ∀ attr w, s.read attr w = (answer w attr, w)

/-- The values for some rows when the attributes read as `answer` says, as far as there are any. -/
def Push.ofAnswers (rows : List Row) (answer : Attribute → Except Error String) : List Push :=
  rows.filterMap fun row => (row.valueIn (answer row.shows)).map fun value => ⟨row, value⟩

namespace Controller

variable (k : Controller ω) {answer : ω → Attribute → Except Error String}

theorem refreshRow_of_answers (h : k.store.Answers answer) (row : Row) (c : Console ω) :
    k.refreshRow row c = c.showValue row (row.valueIn (answer c.world row.shows)) := by
  have hread : Console.inWorld (k.store.read row.shows) c = (answer c.world row.shows, c) := by
    rw [Console.inWorld, Action.focus, h]
  rw [refreshRow_eq, hread]

/-- Refreshing some rows pushes what their attributes hold for them. -/
theorem foldl_refreshRow (h : k.store.Answers answer) (rows : List Row) (c : Console ω) :
    rows.foldl (fun c row => k.refreshRow row c) c =
      (Push.ofAnswers rows (answer c.world)).foldl Console.present c := by
  induction rows generalizing c with
  | nil => rfl
  | cons row rows ih =>
    rw [List.foldl_cons, ih, refreshRow_of_answers k h, Console.world_showValue, Push.ofAnswers,
      Push.ofAnswers, List.filterMap_cons]
    cases row.valueIn (answer c.world row.shows) <;> rfl

/-- Everything that a refresh does before such a store. -/
theorem refresh_eq (h : k.store.Answers answer) (c : Console ω) :
    k.refresh c =
      (Push.ofAnswers [.mode, .temperature, .frequency] (answer c.world)).foldl Console.present
        { c with refreshes := c.refreshes + 1 } :=
  foldl_refreshRow k h _ _

end Controller

end FanControl
