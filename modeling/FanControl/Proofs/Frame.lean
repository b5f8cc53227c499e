import FanControl.Daemon
import FanControl.Proofs.Refinement

/-!
# What a run leaves as it is

A property of the world that every access of a controller keeps is kept by everything that is built
from these accesses: refreshes, changes, button events, lines and whole turns of the event loop
(`EventLoop.Keeps.turn`). A turn never touches what the loop was put together from
(`EventLoop.equipment`), so the property may speak about it.
-/

namespace FanControl

variable {ω σ α β : Type} {P : ω → Prop}

/-! ### Actions -/

/-- A composition that succeeds is one success after another. -/
theorem Action.of_bind_eq_ok {m : Action ω α} {f : α → Action ω β} {w w' : ω} {b : β}
    (h : (m >>= f) w = (.ok b, w')) : ∃ a w₁, m w = (.ok a, w₁) ∧ f a w₁ = (.ok b, w') := by
  rw [bind_apply] at h
  rcases hresult : m w with ⟨e | a, w₁⟩
  · rw [hresult] at h
    cases h
  · rw [hresult] at h
    exact ⟨a, w₁, rfl, h⟩

/-- An action that keeps a property of the world, whatever its result is. -/
def Action.Keeps (P : ω → Prop) (m : Action ω α) : Prop := ∀ w, P w → P (m w).2

namespace Action.Keeps

theorem pure (a : α) : (Pure.pure a : Action ω α).Keeps P := fun _ h => h

theorem fail (e : Error) : (Action.fail e : Action ω α).Keeps P := fun _ h => h

theorem query (f : ω → Except Error α) : (Action.query f).Keeps P := fun _ h => h

theorem bind {m : Action ω α} {f : α → Action ω β} (hm : m.Keeps P) (hf : ∀ a, (f a).Keeps P) :
    (m >>= f).Keeps P := by
  intro w hw
  have hfirst := hm w hw
  rw [bind_apply]
  rcases hresult : m w with ⟨e | a, w'⟩
  · rw [hresult] at hfirst
    exact hfirst
  · rw [hresult] at hfirst
    exact hf a w' hfirst

/-- Work on the world behind the front. -/
theorem inWorld {m : Action ω α} (hm : m.Keeps P) :
    (Console.inWorld m).Keeps fun c => P c.world := fun c hc => hm c.world hc

end Action.Keeps

/-! ### Controllers -/

/-- A controller whose accesses to the attributes and to the lamp keep a property. -/
structure Controller.Keeps (k : Controller ω) (P : ω → Prop) : Prop where
  read : ∀ attr, (k.store.read attr).Keeps P
  write : ∀ attr value, (k.store.write attr value).Keeps P
  lamp : ∀ lamp ∈ k.lamp, ∀ on, (lamp on).Keeps P

namespace Controller.Keeps

variable {k : Controller ω} (hk : k.Keeps P) {c : Console ω}
include hk

theorem refreshRow (row : Row) (hc : P c.world) : P (k.refreshRow row c).world := by
  rw [refreshRow_eq, Console.world_showValue]
  exact hk.read row.shows c.world hc

theorem refresh (hc : P c.world) : P (k.refresh c).world := by
  rw [refresh_rows]
  exact hk.refreshRow .frequency (hk.refreshRow .temperature (hk.refreshRow .mode hc))

theorem followHeld (change : Indicator → Indicator × Option Bool) (hc : P c.world) :
    P (k.followHeld change c).world := by
  rw [Controller.followHeld]
  rcases hlamp : k.lamp with _ | lamp
  · exact hc
  · rcases hchange : change c.indicator with ⟨indicator, _ | on⟩
    · simp only [Console.indicate, hchange]
      exact hc
    · have horder := hk.lamp lamp hlamp on c.world hc
      simp only [Console.indicate, hchange, Console.order, Console.inWorld, Action.focus]
      rcases hresult : lamp on c.world with ⟨e | _, w⟩ <;> rw [hresult] at horder <;> exact horder

theorem carryOut (d : Decision) (hc : P c.world) : P (d.carryOut k c).2.world := by
  have hwrite := (hk.write d.result.target d.result.text).inWorld c hc
  rw [Decision.carryOut_apply]
  rcases hresult : Console.inWorld (k.store.write d.result.target d.result.text) c with ⟨e | _, c'⟩
  · rw [hresult] at hwrite
    exact hwrite
  · rw [hresult] at hwrite
    exact hk.refresh hwrite

theorem perform (x : Change) (hc : P c.world) : P (x.perform k c).2.world := by
  have hconsult : P (x.consult k c).2.world := by
    rw [Change.consult]
    rcases x.consults with _ | attr
    · exact hc
    · exact (hk.read attr).inWorld c hc
  rw [Change.perform_eq]
  rcases x.resolve (x.consult k c).1 with ⟨e | d, entries⟩
  · rw [Change.conclude_error, Console.world_reports]
    exact hconsult
  · rw [Change.conclude_ok]
    refine hk.carryOut d ?_
    rw [Console.world_reports]
    exact hconsult

theorem obey (line : String) (hc : P c.world) : P (EventLoop.obey k line c).2.world := by
  rw [EventLoop.world_obey]
  exact hk.perform (.command (.parse line)) hc

theorem obeyAll (lines : List String) (hc : P c.world) :
    P (lines.foldl (fun c line => (EventLoop.obey k line c).2) c).world := by
  induction lines generalizing c with
  | nil => exact hc
  | cons line lines ih => exact ih (hk.obey line hc)

theorem notify (event : ButtonEvent) (b : Button) (hc : P c.world) :
    P (k.notify event b c).world := by
  cases event with
  | press =>
    rw [Controller.notify, Operation.world_press]
    exact hk.perform b.id.change (hk.followHeld Indicator.pressed hc)
  | release => exact hk.followHeld Indicator.released hc
  | unchanged => exact hc

end Controller.Keeps

/-! ### Turns -/

namespace EventLoop

/-- What a loop was put together from, as far as a turn could lose track of it. -/
structure Equipment (ω : Type) where
  controller : Controller ω
  gpio : Gpio
  pins : List Pin
  path : String
  node : NodeId

/-- The equipment of a loop. -/
def equipment (l : EventLoop ω) : Equipment ω :=
  { controller := l.controller, gpio := l.keypad.gpio, pins := l.keypad.buttons.map Button.pin
    path := l.pipe.path, node := l.pipe.node }

/-- A loop with the same equipment, whose world has a property. -/
structure Keeps (P : ω → Prop) (e : Equipment ω) (l : EventLoop ω) : Prop where
  equipment : l.equipment = e
  world : P l.console.world

namespace Keeps

variable {e : Equipment ω} {l : EventLoop ω}

theorem handleChunks (hk : e.controller.Keeps P) (h : l.Keeps P e) (chunks : List (List UInt8)) :
    (l.handleChunks chunks).Keeps P e := by
  obtain ⟨rfl, hworld⟩ := h
  refine ⟨?_, ?_⟩
  · simp only [EventLoop.handleChunks, EventLoop.equipment, CommandPipe.feed_eq]
  · refine hk.obeyAll (CommandPipe.lines (l.pipe.feed chunks).1) ?_
    rw [Console.world_reports]
    exact hworld

theorem handleBrokenPipe (h : l.Keeps P e) (chunks : List (List UInt8)) (cause : AccessFault) :
    (l.handleBrokenPipe chunks cause).Keeps P e := by
  obtain ⟨rfl, hworld⟩ := h
  refine ⟨?_, ?_⟩
  · simp only [EventLoop.handleBrokenPipe, EventLoop.equipment, CommandPipe.feed_eq]
  · change P ((CommandPipe.complaints (l.pipe.feed chunks).1).foldl Console.report l.console).world
    rw [Console.world_reports]
    exact hworld

theorem handleLevel (hk : e.controller.Keeps P) (h : l.Keeps P e) (index : Nat)
    (level : Except Error ButtonLevel) : (l.handleLevel index level).Keeps P e := by
  obtain ⟨rfl, hworld⟩ := h
  rcases hb : l.keypad.buttons[index]? with _ | b
  · simp only [EventLoop.handleLevel, Keypad.observe, hb]
    exact ⟨rfl, hworld⟩
  · rcases level with cause | level
    · simp only [EventLoop.handleLevel, Keypad.observe, hb]
      exact ⟨rfl, hworld⟩
    · obtain ⟨hindex, rfl⟩ := List.getElem?_eq_some_iff.mp hb
      -- a button that has observed a level is still on its pin
      have hpins : (l.keypad.buttons.set index (l.keypad.buttons[index].observe level).1).map
          Button.pin = l.keypad.buttons.map Button.pin := by
        have hpin : l.keypad.buttons[index].pin = (l.keypad.buttons.map Button.pin).get
            ⟨index, by rwa [List.length_map]⟩ := (List.getElem_map Button.pin).symm
        rw [List.map_set, Button.observe_fst]
        exact (congrArg _ hpin).trans (List.set_getElem_self _)
      simp only [EventLoop.handleLevel, Keypad.observe, hb]
      refine ⟨?_, hk.notify _ _ hworld⟩
      simp only [EventLoop.equipment, hpins]

theorem handle (hk : e.controller.Keeps P) (h : l.Keeps P e) (reading : Reading) :
    (l.handle reading).Keeps P e := by
  cases reading with
  | pipe chunks => exact h.handleChunks hk chunks
  | brokenPipe chunks cause => exact h.handleBrokenPipe chunks cause
  | button index level => exact h.handleLevel hk index level

theorem refresh (hk : e.controller.Keeps P) (h : l.Keeps P e) : l.refresh.Keeps P e := by
  obtain ⟨rfl, hworld⟩ := h
  exact ⟨rfl, hk.refresh hworld⟩

theorem tick (hk : e.controller.Keeps P) (h : l.Keeps P e) : l.tick.Keeps P e := by
  have hcount : Keeps P e { l with ticks := l.ticks + 1 } := ⟨h.equipment, h.world⟩
  rw [EventLoop.tick]
  split
  · exact hcount.refresh hk
  · exact hcount

theorem serve (hk : e.controller.Keeps P) {read : EventLoop ω → σ → Reading × ω}
    (hread : ∀ l source, P l.console.world → P (read l source).2) (h : l.Keeps P e) (source : σ) :
    (l.serve read source).Keeps P e := by
  have hworld : (l.withWorld (read l source).2).Keeps P e :=
    ⟨h.equipment, hread l source h.world⟩
  exact hworld.handle hk (read l source).1

/-- **A turn keeps what every access keeps**, and the equipment. -/
theorem turn (hk : e.controller.Keeps P) {read : EventLoop ω → σ → Reading × ω}
    (hread : ∀ l source, P l.console.world → P (read l source).2) (h : l.Keeps P e)
    (wake : Wake σ) : (l.turn read wake).Keeps P e := by
  have hserve : ∀ (sources : List σ) {l : EventLoop ω}, l.Keeps P e →
      (sources.foldl (EventLoop.serve read) l).Keeps P e := by
    intro sources
    induction sources with
    | nil => exact fun h => h
    | cons source sources ih => exact fun h => ih (h.serve hk hread source)
  cases wake with
  | timedOut => exact h.tick hk
  | interrupted => exact h
  | ready sources => exact ((hserve sources h).refresh hk).tick hk

end Keeps

end EventLoop

end FanControl
