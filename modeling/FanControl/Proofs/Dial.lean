import FanControl.Proofs.Decimal
import FanControl.Proofs.Faithful

/-!
# The dial behind the controller

Of all that the controller does, two variables are meant to count: the mode, and a frequency from
1 to 20. They make a `Dial`, and `Dial.follow` says what each change does to it, without any text,
store or error. The texts of the attributes follow the dial (`Dial.follow_onTexts`), and so does
every faithful store (`Dial.Shown.perform`).
-/

namespace FanControl

/-! ### Dials -/

/-- A mode, and a frequency in the range. -/
structure Dial where
  mode : Mode
  hz : Int
  one_le : 1 ≤ hz
  le_twenty : hz ≤ 20
deriving DecidableEq

namespace Dial

/-- What a change does. A command sets the frequency in manual mode only, and only to a value of the
range; a button moves it in any mode, up to the ends of the range. -/
def follow (d : Dial) : Change → Dial
  | .command (.setMode mode) => { d with mode }
  | .command (.setFrequency value) =>
    if h : d.mode = .manual ∧ 1 ≤ value.toInt ∧ value.toInt ≤ 20 then
      { d with hz := value.toInt, one_le := h.2.1, le_twenty := h.2.2 }
    else d
  | .command (.unknown _) => d
  | .switchMode => { d with mode := d.mode.toggled }
  | .faster =>
    { d with
      hz := min 20 (d.hz + 1)
      one_le := by have := d.one_le; omega
      le_twenty := by omega }
  | .slower =>
    { d with
      hz := max 1 (d.hz - 1)
      one_le := by omega
      le_twenty := by have := d.le_twenty; omega }

/-- The texts of the attributes stand for the dial. -/
structure Reads (d : Dial) (texts : Attribute → String) : Prop where
  mode : Change.modeOf (texts .mode) = .ok d.mode
  hz : (Change.frequencyOf (texts .frequency)).map Int64.toInt = .ok d.hz

/-! ### Texts follow the dial -/

variable {d : Dial} {texts : Attribute → String}

theorem Reads.exists_frequency (h : d.Reads texts) :
    ∃ current : Int64, Change.frequencyOf (texts .frequency) = .ok current ∧
      current.toInt = d.hz := by
  have hhz := h.hz
  rcases hf : Change.frequencyOf (texts .frequency) with e | current
  · rw [hf] at hhz
    cases hhz
  · rw [hf] at hhz
    exact ⟨current, rfl, Except.ok.inj hhz⟩

/-- Setting the mode is seen in the mode alone. -/
theorem Reads.update_mode (h : d.Reads texts) (m : Mode) :
    Reads { d with mode := m } (Memory.update texts .mode m.text) where
  mode := Change.modeOf_eq_ok_iff.mpr rfl
  hz := h.hz

/-- Setting the frequency is seen in the frequency alone. -/
theorem Reads.update_frequency (h : d.Reads texts) {d' : Dial} {hz : UInt8}
    (hmode : d'.mode = d.mode) (hhz : (hz.toNat : Int) = d'.hz) :
    d'.Reads (Memory.update texts .frequency (Frequency.text hz)) where
  mode := by
    rw [hmode]
    exact h.mode
  hz := by
    have hlt : hz.toNat < 256 := hz.toNat_lt
    show (Change.frequencyOf (Frequency.text hz)).map Int64.toInt = _
    rw [Change.frequencyOf, AttributeStore.interpret, AttributeStore.integer?_frequency]
    show Except.ok (Int64.ofInt hz.toNat).toInt = _
    rw [Int64.toInt_ofInt_of_le (by omega) (by omega), hhz]

theorem follow_setFrequency (h : d.Reads texts) (value : Int64) :
    (d.follow (.command (.setFrequency value))).Reads
      ((Change.command (.setFrequency value)).onTexts texts).2 := by
  have hresolve : ((Change.command (.setFrequency value)).resolve
      ((Change.command (.setFrequency value)).answerIn texts)).1 =
        Change.resolveFrequency value (.ok d.mode) := by
    rw [← h.mode]
    rfl
  rw [Change.onTexts, hresolve]
  -- the dial turns exactly if there is a decision
  by_cases hd : d.mode = .manual ∧ 1 ≤ value.toInt ∧ value.toInt ≤ 20
  · obtain ⟨hmode, hvalue⟩ := hd
    have hvalid := Frequency.validate_of_mem hvalue
    obtain ⟨-, -, hhz⟩ := Frequency.validate_eq_ok_iff.mp hvalid
    have hdecision : Change.resolveFrequency value (.ok d.mode) =
        .ok ⟨.frequency (.ofNat value.toInt.toNat), .frequencySet (.ofNat value.toInt.toNat)⟩ := by
      rw [hmode]
      show (Frequency.validate value).map _ = _
      rw [hvalid]
      rfl
    rw [hdecision, follow, dif_pos ⟨hmode, hvalue⟩]
    exact h.update_frequency rfl hhz
  · -- automatic mode refuses whatever the value is; manual mode refuses what is out of range
    have hrefused : ∃ e, Change.resolveFrequency value (.ok d.mode) = .error e := by
      rcases hmode : d.mode with _ | _
      · exact ⟨_, rfl⟩
      · have hvalue : ¬ (1 ≤ value.toInt ∧ value.toInt ≤ 20) := fun h => hd ⟨hmode, h⟩
        refine ⟨.invalidFrequency value 1 20, ?_⟩
        show (Frequency.validate value).map _ = _
        rw [Frequency.validate_of_not_mem hvalue]
        rfl
    obtain ⟨e, hrefused⟩ := hrefused
    rw [hrefused, follow, dif_neg hd]
    exact h

/-- A change that moves the frequency by a step does so up to the ends of the range. -/
theorem follow_step (h : d.Reads texts) {x : Change} {step : Int}
    (hresolve : (x.resolve (x.answerIn texts)).1 =
      Change.resolveStep step (Change.frequencyOf (texts .frequency)))
    (hmode : (d.follow x).mode = d.mode)
    (hhz : (d.follow x).hz = max 1 (min 20 (d.hz + step))) :
    (d.follow x).Reads (x.onTexts texts).2 := by
  obtain ⟨current, hcurrent, hvalue⟩ := h.exists_frequency
  rw [hcurrent] at hresolve
  rw [Change.onTexts, hresolve]
  refine h.update_frequency hmode ?_
  rw [Frequency.toNat_clamp_saturatingAdd, hvalue, hhz]

/-- **The texts follow the dial**: a change does to the texts what it does to the dial. -/
theorem follow_onTexts (h : d.Reads texts) (x : Change) :
    (d.follow x).Reads (x.onTexts texts).2 := by
  have hlow := d.one_le
  have hhigh := d.le_twenty
  rcases x with (value | mode | text) | _ | _ | _
  · exact follow_setFrequency h value
  · exact h.update_mode mode
  · exact h
  · -- the texts read as a mode, so the case of an unknown one does not arise
    have hresolve : Change.switchMode.resolve (Change.switchMode.answerIn texts) =
        (.ok ⟨.mode d.mode.toggled, .modeToggled d.mode.toggled⟩, []) := by
      show Change.resolveSwitch (Change.modeOf (texts .mode)) = _
      rw [h.mode]
      rfl
    rw [Change.onTexts, hresolve]
    exact h.update_mode d.mode.toggled
  · refine follow_step (x := .faster) h rfl rfl ?_
    simp only [follow]
    omega
  · refine follow_step (x := .slower) h rfl rfl ?_
    simp only [follow]
    omega

end Dial

/-! ### Faithful stores follow the dial -/

variable {ω : Type}

/-- A world of a faithful store that stands for a dial. -/
structure Dial.Shown (v : Contents ω) (d : Dial) (w : ω) : Prop where
  sound : v.sound w
  reads : d.Reads (v.text w)

theorem Dial.Shown.of_same {v : Contents ω} {d : Dial} {w w' : ω} (h : d.Shown v w)
    (hsame : v.Same w w') : d.Shown v w' where
  sound := hsame.1
  reads := by
    rw [hsame.2]
    exact h.reads

/-- **A change before a faithful store** does to the dial what it is meant to do. -/
theorem Dial.Shown.perform {k : Controller ω} {v : Contents ω} (hk : k.Faithful v) (x : Change)
    {d : Dial} {c : Console ω} (h : d.Shown v c.world) :
    (d.follow x).Shown v (x.perform k c).2.world := by
  obtain ⟨-, hsound, htext⟩ := Change.perform_faithful hk x h.sound
  refine ⟨hsound, ?_⟩
  rw [htext]
  exact follow_onTexts h.reads x

end FanControl
