import FanControl.Attribute.Memory
import FanControl.Proofs.LegalWrites

/-!
# Changes before a faithful store

A store is faithful if it shows the texts that its world holds, and if a legal text that is
written is what the world holds from then on. No access fails, and nobody else writes. Such a
store makes a change a function of texts: `Change.onTexts` says which result a change has and
which texts it leaves, and `Change.perform_faithful` that this is what happens. Everything else
that a controller does leaves the texts as they are.
-/

namespace FanControl

variable {ω : Type}

/-! ### Faithful stores -/

/-- Which worlds are in order, and which texts the attributes have in a world. -/
structure Contents (ω : Type) where
  sound : ω → Prop
  text : ω → Attribute → String

/-- The world `w'` is in order and holds the same texts as `w`. -/
def Contents.Same (v : Contents ω) (w w' : ω) : Prop := v.sound w' ∧ v.text w' = v.text w

theorem Contents.Same.refl {v : Contents ω} {w : ω} (h : v.sound w) : v.Same w w := ⟨h, rfl⟩

theorem Contents.Same.trans {v : Contents ω} {w₁ w₂ w₃ : ω} (h₁ : v.Same w₁ w₂)
    (h₂ : v.Same w₂ w₃) : v.Same w₁ w₃ :=
  ⟨h₂.1, h₂.2.trans h₁.2⟩

/-- A store that shows what its world holds, and sets it as it is told. -/
structure AttributeStore.Faithful (s : AttributeStore ω) (v : Contents ω) : Prop where
  read : ∀ attr w, v.sound w → (s.read attr w).1 = .ok (v.text w attr) ∧ v.Same w (s.read attr w).2
  write : ∀ attr value w, v.sound w → attr.Legal value →
    (s.write attr value w).1 = .ok () ∧ v.sound (s.write attr value w).2 ∧
      v.text (s.write attr value w).2 = Memory.update (v.text w) attr value

/-- A controller whose store is faithful and whose lamp has nothing to do with it. -/
structure Controller.Faithful (k : Controller ω) (v : Contents ω) : Prop where
  store : k.store.Faithful v
  lamp : ∀ lamp ∈ k.lamp, ∀ on w, v.sound w → v.Same w (lamp on w).2

/-- The texts of a store that is a plain value, as long as no failure is set. -/
def Memory.contents : Contents Memory where
  sound m := (∀ attr, ∃ text, m.reading attr = .ok text) ∧ ∀ attr, m.writeFault attr = none
  text m attr :=
    match m.reading attr with
    | .ok text => text
    | .error _ => ""

theorem Memory.store_faithful : Memory.store.Faithful Memory.contents where
  read attr m h := by
    obtain ⟨text, htext⟩ := h.1 attr
    refine ⟨?_, .refl h⟩
    simp only [store, Memory.read, Action.query, contents, htext]
  write attr value m h _ := by
    simp only [store, Memory.write, h.2 attr, contents, setReading]
    refine ⟨trivial, ⟨fun other => ?_, h.2⟩, funext fun other => ?_⟩
    · by_cases hother : other = attr
      · exact ⟨value, if_pos hother⟩
      · obtain ⟨text, htext⟩ := h.1 other
        exact ⟨text, (if_neg hother).trans htext⟩
    · by_cases hother : other = attr
      · simp only [update, if_pos hother]
      · simp only [update, if_neg hother]

/-! ### What leaves the texts alone -/

namespace Controller

variable {k : Controller ω} {v : Contents ω}

/-- Reading an attribute gives its text. -/
theorem Faithful.inWorld_read (hk : k.Faithful v) (attr : Attribute) {c : Console ω}
    (hc : v.sound c.world) :
    (Console.inWorld (k.store.read attr) c).1 = .ok (v.text c.world attr) ∧
      v.Same c.world (Console.inWorld (k.store.read attr) c).2.world :=
  hk.store.read attr c.world hc

theorem Faithful.refreshRow (hk : k.Faithful v) (row : Row) {c : Console ω}
    (hc : v.sound c.world) : v.Same c.world (k.refreshRow row c).world := by
  rw [refreshRow_eq, Console.world_showValue]
  exact (hk.inWorld_read row.shows hc).2

theorem Faithful.refresh (hk : k.Faithful v) {c : Console ω} (hc : v.sound c.world) :
    v.Same c.world (k.refresh c).world := by
  rw [refresh_rows]
  have hmode : v.Same c.world
      (k.refreshRow .mode { c with refreshes := c.refreshes + 1 }).world :=
    hk.refreshRow .mode hc
  have htemperature := hmode.trans (hk.refreshRow .temperature hmode.1)
  exact htemperature.trans (hk.refreshRow .frequency htemperature.1)

theorem Faithful.followHeld (hk : k.Faithful v) (change : Indicator → Indicator × Option Bool)
    {c : Console ω} (hc : v.sound c.world) : v.Same c.world (k.followHeld change c).world := by
  rcases hlamp : k.lamp with _ | lamp
  · rw [Controller.followHeld, hlamp]
    exact .refl hc
  · have hsame := fun on => hk.lamp lamp hlamp on c.world hc
    simp only [Controller.followHeld, hlamp, Console.indicate]
    rcases change c.indicator with ⟨indicator, _ | on⟩
    · -- an indicator that orders nothing leaves the world as it was
      exact .refl hc
    · specialize hsame on
      simp only [Console.order, Console.inWorld, Action.focus]
      -- an error of the lamp is reported, and changes no attribute either
      rcases hrun : lamp on c.world with ⟨_ | _, w⟩
      · rw [hrun] at hsame
        exact hsame
      · rw [hrun] at hsame
        exact hsame

end Controller

/-! ### Changes -/

namespace Change

/-- The answer that a change gets to what it consults. -/
def answerIn (x : Change) (texts : Attribute → String) : Except Error String :=
  match x.consults with
  | some attr => .ok (texts attr)
  | none => .ok ""

/-- The result of a change, and the texts that it leaves. -/
def onTexts (x : Change) (texts : Attribute → String) :
    Except Error Applied × (Attribute → String) :=
  match (x.resolve (x.answerIn texts)).1 with
  | .error e => (.error e, texts)
  | .ok d => (.ok d.result, Memory.update texts d.result.target d.result.text)

variable {k : Controller ω} {v : Contents ω}

theorem consult_faithful (hk : k.Faithful v) (x : Change) {c : Console ω}
    (hc : v.sound c.world) :
    (x.consult k c).1 = x.answerIn (v.text c.world) ∧ v.Same c.world (x.consult k c).2.world := by
  unfold consult answerIn
  rcases x.consults with _ | attr
  · exact ⟨rfl, .refl hc⟩
  · exact hk.inWorld_read attr hc

/-- A legal decision is carried out without fail. -/
theorem carryOut_faithful (hk : k.Faithful v) {d : Decision}
    (hd : d.result.target.Legal d.result.text) {c : Console ω} (hc : v.sound c.world) :
    (d.carryOut k c).1 = .ok d.result ∧ v.sound (d.carryOut k c).2.world ∧
      v.text (d.carryOut k c).2.world =
        Memory.update (v.text c.world) d.result.target d.result.text := by
  obtain ⟨hok, hsound, htext⟩ := hk.store.write _ _ c.world hc hd
  obtain ⟨w, hw⟩ : ∃ w, w = (k.store.write d.result.target d.result.text c.world).2 := ⟨_, rfl⟩
  have hwrite : Console.inWorld (k.store.write d.result.target d.result.text) c =
      (.ok (), { c with world := w }) := by
    rw [hw]
    exact Prod.ext hok rfl
  rw [← hw] at hsound htext
  -- the refresh that follows the write reads only
  obtain ⟨hsound', htext'⟩ := hk.refresh (c := Console.report { c with world := w } d.entry) hsound
  rw [Decision.carryOut_apply, hwrite]
  exact ⟨rfl, hsound', htext'.trans htext⟩

/-- **Before a faithful store, a change is a function of texts.** -/
theorem perform_faithful (hk : k.Faithful v) (x : Change) {c : Console ω}
    (hc : v.sound c.world) :
    (x.perform k c).1 = (x.onTexts (v.text c.world)).1 ∧ v.sound (x.perform k c).2.world ∧
      v.text (x.perform k c).2.world = (x.onTexts (v.text c.world)).2 := by
  obtain ⟨hanswer, hsound, htext⟩ := consult_faithful hk x hc
  rw [perform_eq, hanswer, onTexts]
  rcases hr : x.resolve (x.answerIn (v.text c.world)) with ⟨e | d, entries⟩
  · rw [conclude_error, Console.world_reports]
    exact ⟨rfl, hsound, htext⟩
  · rw [conclude_ok, ← htext]
    -- what a change decides to write is legal, so the store takes it
    have hlegal : d.result.target.Legal d.result.text := legal_of_resolve (congrArg Prod.fst hr)
    have hdone := carryOut_faithful hk hlegal
      (c := entries.foldl Console.report (x.consult k c).2) (by rwa [Console.world_reports])
    rw [Console.world_reports] at hdone
    exact hdone

end Change

end FanControl
