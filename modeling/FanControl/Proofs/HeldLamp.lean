import FanControl.Attribute.Memory
import FanControl.Proofs.Accesses
import FanControl.Proofs.Debounce

/-!
# When the lamp is lit

The indicator counts presses and releases and never sees a button that was down when it was
registered. So its count is not the number of buttons held, but the excess of that number over the
smallest one so far (`EventLoop.Counted`), and after a press or a release the lamp is lit if and
only if fewer buttons were held at some earlier moment (`EventLoop.lit_iff_fewer_held_before`).

Once there was a moment at which no button was held, this means that the lamp is lit while some
button is held. Without such a moment it does not: `EventLoop.lamp_dark_although_held`.
-/

namespace FanControl

variable {ω : Type}

/-! ### What changes leave alone -/

namespace Console

/-- The part of the front that has to do with the lamp. -/
def lampSide (c : Console ω) : Indicator × List Bool := (c.indicator, c.lampOrders)

@[simp] theorem lampSide_report (c : Console ω) (entry : LogEntry) :
    (c.report entry).lampSide = c.lampSide := rfl

@[simp] theorem lampSide_inWorld {α : Type} (m : Action ω α) (c : Console ω) :
    (inWorld m c).2.lampSide = c.lampSide := rfl

@[simp] theorem lampSide_reports (entries : List LogEntry) (c : Console ω) :
    (entries.foldl report c).lampSide = c.lampSide := by
  induction entries generalizing c with
  | nil => rfl
  | cons entry entries ih => exact ih (c.report entry)

@[simp] theorem lampSide_showValue (row : Row) (value : Option String) (c : Console ω) :
    (c.showValue row value).lampSide = c.lampSide := by
  cases value
  · rfl
  · simp only [showValue, present]
    split <;> rfl

end Console

namespace Controller

variable (k : Controller ω)

@[simp] theorem lampSide_refreshRow (row : Row) (c : Console ω) :
    (k.refreshRow row c).lampSide = c.lampSide := by
  rw [refreshRow_eq, Console.lampSide_showValue, Console.lampSide_inWorld]

@[simp] theorem lampSide_refresh (c : Console ω) : (k.refresh c).lampSide = c.lampSide := by
  rw [refresh_rows, lampSide_refreshRow, lampSide_refreshRow, lampSide_refreshRow]
  rfl

end Controller

theorem Decision.lampSide_carryOut (k : Controller ω) (d : Decision) (c : Console ω) :
    (d.carryOut k c).2.lampSide = c.lampSide := by
  have hwrite := Console.lampSide_inWorld (k.store.write d.result.target d.result.text) c
  rw [carryOut_apply]
  -- only the refresh behind a successful write reaches the front, and it leaves the lamp alone
  rcases hrun : Console.inWorld (k.store.write d.result.target d.result.text) c with ⟨_ | _, c'⟩
  · rw [hrun] at hwrite
    exact hwrite
  · rw [hrun] at hwrite
    rw [Controller.lampSide_refresh, Console.lampSide_report]
    exact hwrite

/-- A change has nothing to do with the lamp. -/
theorem Change.lampSide_perform (k : Controller ω) (x : Change) (c : Console ω) :
    (x.perform k c).2.lampSide = c.lampSide := by
  have hconsult : (x.consult k c).2.lampSide = c.lampSide := by
    unfold consult
    cases x.consults <;> rfl
  rw [perform_eq]
  rcases x.resolve (x.consult k c).1 with ⟨e | d, entries⟩
  · rw [conclude_error, Console.lampSide_reports, hconsult]
  · rw [conclude_ok, Decision.lampSide_carryOut, Console.lampSide_reports, hconsult]

/-! ### Presses and releases -/

namespace Controller

variable {k : Controller ω} {lamp : Bool → Action ω Unit} (hlamp : k.lamp = some lamp)
include hlamp

/-- The indicator counts, and its order is passed on, whether the lamp obeys or not. -/
theorem lampSide_followHeld (change : Indicator → Indicator × Option Bool) (c : Console ω) :
    (k.followHeld change c).lampSide =
      ((change c.indicator).1, c.lampOrders ++ (change c.indicator).2.toList) := by
  simp only [followHeld, hlamp, Console.indicate]
  rcases change c.indicator with ⟨indicator, _ | on⟩
  · simp [Console.lampSide]
  · simp only [Console.order, Console.inWorld, Action.focus]
    -- the order counts as given whether the lamp obeys or fails
    rcases lamp on c.world with ⟨_ | _, w⟩ <;> rfl

theorem lampSide_press (b : Button) (c : Console ω) :
    (k.press b c).lampSide =
      (⟨c.indicator.held + 1⟩,
        c.lampOrders ++ if c.indicator.held = 0 then [true] else []) := by
  -- the change that the button asks for comes after the lamp, and does not touch it
  have hperform := Change.lampSide_perform k b.id.change (k.followHeld Indicator.pressed c)
  rw [lampSide_followHeld hlamp] at hperform
  have hpressed : (k.press b c).lampSide =
      ((Indicator.pressed c.indicator).1,
        c.lampOrders ++ (Indicator.pressed c.indicator).2.toList) := by
    rw [Operation.press_eq, ← hperform]
    rcases b.id.change.perform k (k.followHeld Indicator.pressed c) with ⟨_ | _, c'⟩ <;> rfl
  rw [hpressed, Indicator.pressed]
  split <;> rfl

theorem lampSide_release (c : Console ω) :
    (k.release c).lampSide =
      (⟨c.indicator.held - 1⟩,
        c.lampOrders ++ if c.indicator.held ≤ 1 then [false] else []) := by
  rw [release, lampSide_followHeld hlamp, Indicator.released]
  split <;> rfl

end Controller

/-! ### Buttons that are held -/

namespace Keypad

/-- How many buttons are held, by the levels last read. -/
def heldCount (k : Keypad) : Nat := k.buttons.countP (·.level = .pressed)

theorem heldCount_pos_iff {k : Keypad} :
    0 < k.heldCount ↔ ∃ b ∈ k.buttons, b.level = .pressed := by
  simp [heldCount, List.countP_pos_iff]

/-- A button that goes down is one more. -/
theorem heldCount_withLevel_pressed {k : Keypad} {index : Nat} {b : Button}
    (hb : k.buttons[index]? = some b) (hlevel : b.level ≠ .pressed) :
    (k.withLevel index b .pressed).heldCount = k.heldCount + 1 := by
  obtain ⟨hlt, rfl⟩ := List.getElem?_eq_some_iff.mp hb
  rw [heldCount, withLevel, List.countP_set hlt, if_neg (by simpa using hlevel),
    if_pos (by simp)]
  rfl

/-- A button that goes up is one less. -/
theorem heldCount_withLevel_released {k : Keypad} {index : Nat} {b : Button}
    (hb : k.buttons[index]? = some b) (hlevel : b.level ≠ .released) :
    (k.withLevel index b .released).heldCount + 1 = k.heldCount := by
  obtain ⟨hlt, rfl⟩ := List.getElem?_eq_some_iff.mp hb
  have hpressed : k.buttons[index].level = .pressed := by
    rcases h : k.buttons[index].level with _ | _
    · rfl
    · exact absurd h hlevel
  -- the button itself is counted, so there is one to take away
  have hpos : 0 < k.heldCount := heldCount_pos_iff.mpr ⟨_, List.getElem_mem hlt, hpressed⟩
  rw [heldCount, withLevel, List.countP_set hlt, if_pos (by simpa using hpressed),
    if_neg (by simp)]
  rw [heldCount] at hpos ⊢
  omega

end Keypad

/-! ### One edge -/

namespace EventLoop

/-- Handles an edge of the button at an index on a machine. -/
def handleEdge (l : EventLoop ω) (index : Nat) (h : Host) : EventLoop ω :=
  l.handleLevel index (l.keypad.sense index h)

theorem controller_handleEdge (l : EventLoop ω) (index : Nat) (h : Host) :
    (l.handleEdge index h).controller = l.controller := by
  rw [handleEdge, handleLevel_sense]

/-- **What an edge does to buttons and lamp.** It is no event and does nothing to either; or one
button more is held, and the lamp is switched on if the count was at zero; or one button less is
held, and the lamp is switched off if the count is at zero then. -/
theorem handleEdge_cases (l : EventLoop ω) {lamp : Bool → Action ω Unit}
    (hlamp : l.controller.lamp = some lamp) (index : Nat) (h : Host) :
    let answer := (l.keypad.respond index h).answer
    let l' := l.handleEdge index h
    (answer ≠ .ok .press ∧ answer ≠ .ok .release ∧ l'.keypad.heldCount = l.keypad.heldCount ∧
      l'.console.lampSide = l.console.lampSide) ∨
    (answer = .ok .press ∧ l'.keypad.heldCount = l.keypad.heldCount + 1 ∧
      l'.console.lampSide = (⟨l.console.indicator.held + 1⟩,
        l.console.lampOrders ++ if l.console.indicator.held = 0 then [true] else [])) ∨
    (answer = .ok .release ∧ l'.keypad.heldCount + 1 = l.keypad.heldCount ∧
      l'.console.lampSide = (⟨l.console.indicator.held - 1⟩,
        l.console.lampOrders ++ if l.console.indicator.held ≤ 1 then [false] else [])) := by
  intro answer l'
  have hl' : l' = _ := handleLevel_sense l index h
  -- an error and an unchanged level do nothing; a new level is a press or a release
  rcases Keypad.respond_cases l.keypad index h with ⟨e, hr⟩ | hr | ⟨b, level, hb, -, hne, hr⟩
  · refine Or.inl ?_
    rw [hl', show answer = _ from congrArg Keypad.Response.answer hr, hr]
    exact ⟨by simp, by simp, rfl, rfl⟩
  · refine Or.inl ?_
    rw [hl', show answer = _ from congrArg Keypad.Response.answer hr, hr]
    exact ⟨by simp, by simp, rfl, rfl⟩
  · rw [hl', show answer = _ from congrArg Keypad.Response.answer hr, hr]
    cases level with
    | pressed =>
      refine Or.inr (Or.inl ⟨rfl, ?_, Controller.lampSide_press hlamp _ _⟩)
      exact Keypad.heldCount_withLevel_pressed hb (Ne.symm hne)
    | released =>
      refine Or.inr (Or.inr ⟨rfl, ?_, Controller.lampSide_release hlamp _⟩)
      exact Keypad.heldCount_withLevel_released hb (Ne.symm hne)

/-! ### Runs of edges -/

/-- Handles one edge after the other, each of them on the machine as it then is. -/
def handleEdges (l : EventLoop ω) (edges : List (Nat × Host)) : EventLoop ω :=
  edges.foldl (fun l edge => l.handleEdge edge.1 edge.2) l

theorem handleEdges_concat (l : EventLoop ω) (edges : List (Nat × Host)) (edge : Nat × Host) :
    l.handleEdges (edges ++ [edge]) = (l.handleEdges edges).handleEdge edge.1 edge.2 := by
  simp [handleEdges]

theorem controller_handleEdges (l : EventLoop ω) (edges : List (Nat × Host)) :
    (l.handleEdges edges).controller = l.controller := by
  induction edges using List.reverseRecOn with
  | nil => rfl
  | append_singleton edges edge ih => rw [handleEdges_concat, controller_handleEdge, ih]

/-- How the count of the indicator and the lamp stand after a run: the count is the number of
buttons held less the smallest such number so far, and a lamp that has something to show is lit. -/
structure Counted (l : EventLoop ω) (edges : List (Nat × Host)) : Prop where
  le : ∀ past, past <+: edges → (l.handleEdges edges).keypad.heldCount ≤
    (l.handleEdges edges).console.indicator.held + (l.handleEdges past).keypad.heldCount
  attained : ∃ past, past <+: edges ∧ (l.handleEdges edges).keypad.heldCount =
    (l.handleEdges edges).console.indicator.held + (l.handleEdges past).keypad.heldCount
  lit : 0 < (l.handleEdges edges).console.indicator.held →
    (l.handleEdges edges).console.lampOrders.getLast? = some true

variable {l : EventLoop ω} {edges : List (Nat × Host)}

/-- The count is above zero if fewer buttons were held before, and only then. -/
theorem Counted.held_pos_iff (h : l.Counted edges) :
    0 < (l.handleEdges edges).console.indicator.held ↔
      ∃ past, past <+: edges ∧
        (l.handleEdges past).keypad.heldCount < (l.handleEdges edges).keypad.heldCount := by
  constructor
  · intro hpos
    obtain ⟨past, hpast, heq⟩ := h.attained
    exact ⟨past, hpast, by omega⟩
  · rintro ⟨past, hpast, hlt⟩
    have hle := h.le past hpast
    omega

/-- At the start, nothing has been counted. -/
theorem Counted.start (hfresh : l.console.indicator = .initial) : l.Counted [] where
  le past hpast := by
    rw [List.prefix_nil.mp hpast]
    omega
  attained := ⟨[], List.prefix_rfl, by
    show l.keypad.heldCount = l.console.indicator.held + l.keypad.heldCount
    rw [hfresh]
    exact (Nat.zero_add _).symm⟩
  lit hpos := by
    have hzero : l.console.indicator.held = 0 := by rw [hfresh]; rfl
    exact absurd hpos (by rw [handleEdges, List.foldl_nil]; omega)

/-- One edge more keeps the count, if the two numbers move together or the count is at zero. -/
theorem Counted.concat (h : l.Counted edges) {edge : Nat × Host} {now next : EventLoop ω}
    (hnow : l.handleEdges edges = now) (hnext : l.handleEdges (edges ++ [edge]) = next)
    (hle : ∀ n, now.keypad.heldCount ≤ now.console.indicator.held + n →
      next.keypad.heldCount ≤ next.console.indicator.held + n)
    (heq : next.console.indicator.held = 0 ∨
      ∀ n, now.keypad.heldCount = now.console.indicator.held + n →
        next.keypad.heldCount = next.console.indicator.held + n)
    (hlit : 0 < next.console.indicator.held → next.console.lampOrders.getLast? = some true) :
    l.Counted (edges ++ [edge]) := by
  subst hnow hnext
  refine ⟨fun past hpast => ?_, ?_, hlit⟩
  · -- a prefix of the longer run is the whole of it or a prefix of the shorter one
    rcases List.prefix_concat_iff.mp hpast with rfl | hpast
    · exact Nat.le_add_left _ _
    · exact hle _ (h.le past hpast)
  · -- a count of zero is attained by the whole run itself
    rcases heq with hzero | heq
    · exact ⟨_, List.prefix_rfl, by omega⟩
    · obtain ⟨past, hpast, hattained⟩ := h.attained
      exact ⟨past, hpast.trans (List.prefix_append _ _), heq _ hattained⟩

/-- **One edge more** keeps the count. If it was a press or a release, the lamp was last switched
to what the count says. -/
theorem Counted.step (h : l.Counted edges) {lamp : Bool → Action ω Unit}
    (hlamp : l.controller.lamp = some lamp) (index : Nat) (host : Host) {now next : EventLoop ω}
    (hnow : l.handleEdges edges = now)
    (hnext : l.handleEdges (edges ++ [(index, host)]) = next) :
    l.Counted (edges ++ [(index, host)]) ∧
      ((now.keypad.respond index host).answer = .ok .press ∨
          (now.keypad.respond index host).answer = .ok .release →
        next.console.lampOrders.getLast? = some (decide (0 < next.console.indicator.held))) := by
  have hlit := h.lit
  have hedge : next = now.handleEdge index host := by
    rw [← hnext, ← hnow, handleEdges_concat]
  have hlamp' : now.controller.lamp = some lamp := by
    rw [← hnow, controller_handleEdges, hlamp]
  rw [hnow] at hlit
  -- what the edge was decides how the two numbers move
  rcases handleEdge_cases now hlamp' index host with
    ⟨hpress, hrelease, hheld, hside⟩ | ⟨-, hheld, hside⟩ | ⟨-, hheld, hside⟩
  all_goals
    rw [← hedge] at hheld hside
    obtain ⟨hindicator, horders⟩ := Prod.mk.inj hside
    have hcount := congrArg Indicator.held hindicator
  · -- no event: both numbers stay, and so does the last order
    refine ⟨h.concat hnow hnext (fun n hn => ?_) (Or.inr fun n hn => ?_) fun hpos => ?_, ?_⟩
    · omega
    · omega
    · rw [horders]
      exact hlit (by omega)
    · rintro (hanswer | hanswer)
      · exact absurd hanswer hpress
      · exact absurd hanswer hrelease
  · -- a press: both go up by one, and the lamp is lit or was lit already
    have hlast : next.console.lampOrders.getLast? = some true := by
      by_cases hzero : now.console.indicator.held = 0
      · rw [horders, if_pos hzero, List.getLast?_concat]
      · rw [horders, if_neg hzero, List.append_nil]
        exact hlit (by omega)
    refine ⟨h.concat hnow hnext (fun n hn => ?_) (Or.inr fun n hn => ?_) fun _ => hlast,
      fun _ => ?_⟩
    · dsimp only at hcount; omega
    · dsimp only at hcount; omega
    · rw [hlast, hcount, decide_eq_true (Nat.succ_pos _)]
  · -- a release: the count goes down with the buttons unless it is at zero
    dsimp only at hcount
    by_cases hlast : now.console.indicator.held ≤ 1
    · -- no press is left: the lamp goes off, and never were fewer buttons held than now
      have hzero : next.console.indicator.held = 0 := by omega
      refine ⟨h.concat hnow hnext (fun n hn => ?_) (Or.inl hzero) fun hpos => ?_, fun _ => ?_⟩
      · omega
      · omega
      · rw [horders, if_pos hlast, List.getLast?_concat, hzero]
        rfl
    · -- some press is left, and no order is given
      have hlast' : next.console.lampOrders.getLast? = some true := by
        rw [horders, if_neg hlast, List.append_nil]
        exact hlit (by omega)
      refine ⟨h.concat hnow hnext (fun n hn => ?_) (Or.inr fun n hn => ?_) fun _ => hlast',
        fun _ => ?_⟩
      · omega
      · omega
      · rw [hlast', decide_eq_true (by omega)]

theorem counted_handleEdges {lamp : Bool → Action ω Unit}
    (hlamp : l.controller.lamp = some lamp) (hfresh : l.console.indicator = .initial)
    (edges : List (Nat × Host)) : l.Counted edges := by
  induction edges using List.reverseRecOn with
  | nil => exact .start hfresh
  | append_singleton edges edge ih => exact (ih.step hlamp edge.1 edge.2 rfl rfl).1

/-! ### The lamp -/

/-- **After a press or a release, the lamp is lit if and only if fewer buttons were held at some
earlier moment.** A controller with a lamp, whether the lamp obeys or not, observes any buttons,
each of them up or down when it was registered; edges of any indices arrive in any order, whatever
the value files show. When the last edge was a press or a release, the last state into which the
lamp was ordered is as said; and if at any moment since the registration no button was held, it is
lit if and only if some button is held now. -/
theorem lit_iff_fewer_held_before (l : EventLoop ω) {lamp : Bool → Action ω Unit}
    (hlamp : l.controller.lamp = some lamp) (hfresh : l.console.indicator = .initial)
    (edges : List (Nat × Host)) (index : Nat) (h : Host)
    (hevent : ((l.handleEdges edges).keypad.respond index h).answer = .ok .press ∨
      ((l.handleEdges edges).keypad.respond index h).answer = .ok .release) :
    let edges' := edges ++ [(index, h)]
    let now := l.handleEdges edges'
    let lit := now.console.lampOrders.getLast? = some true
    (lit ↔ ∃ past, past <+: edges' ∧ (l.handleEdges past).keypad.heldCount < now.keypad.heldCount) ∧
    ((∃ past, past <+: edges' ∧ (l.handleEdges past).keypad.heldCount = 0) →
      (lit ↔ ∃ b ∈ now.keypad.buttons, b.level = .pressed)) := by
  intro edges' now lit
  obtain ⟨hcounted, horder⟩ :=
    (counted_handleEdges hlamp hfresh edges).step hlamp index h rfl rfl
  -- the last order after an event is the one that the count asks for
  have hlit : lit ↔ 0 < now.console.indicator.held := by
    show now.console.lampOrders.getLast? = some true ↔ _
    rw [horder hevent, Option.some.injEq, decide_eq_true_eq]
  have hfewer := hlit.trans hcounted.held_pos_iff
  refine ⟨hfewer, ?_⟩
  rintro ⟨past, hpast, hzero⟩
  rw [hfewer, ← Keypad.heldCount_pos_iff]
  -- with a moment at which nothing was held, fewer than now means some now
  constructor
  · rintro ⟨_, -, hlt⟩
    exact Nat.zero_lt_of_lt hlt
  · intro hpos
    exact ⟨past, hpast, hzero ▸ hpos⟩

/-- The first button was down when it was registered. The second is pressed, the first is let go,
and the second is let go: then nothing is held, and from now on the lamp follows the second. -/
theorem lit_iff_fewer_held_before_pair :
    let lamp : Bool → Action Memory Unit := fun _ => pure ()
    let l : EventLoop Memory :=
      { controller := ⟨Memory.store, some lamp⟩
        keypad := ⟨⟨"gpio"⟩, [⟨5, .k1, "", 1, .pressed⟩, ⟨6, .k3, "", 2, .released⟩]⟩
        pipe := ⟨"cmd", 3, .initial⟩
        console := .initial ⟨fun _ => .ok "manual", fun _ => none, []⟩
        refreshEvery := 5
        refreshEvery_pos := by decide
        ticks := 0 }
    let showing (first second : UInt8) : Host :=
      .ofTree ⟨#[.directory 0 [], .file [first], .file [second]], 0⟩
    let edges := [(1, showing 0x31 0x31), (0, showing 0x30 0x31), (1, showing 0x30 0x30)]
    let now := l.handleEdges (edges ++ [(1, showing 0x30 0x31)])
    l.controller.lamp = some lamp ∧ l.console.indicator = .initial ∧
      ((l.handleEdges edges).keypad.respond 1 (showing 0x30 0x31)).answer = .ok .press ∧
      (now.console.lampOrders.getLast? = some true ↔
        ∃ b ∈ now.keypad.buttons, b.level = .pressed) := by
  intro lamp l showing edges now
  have hevent : ((l.handleEdges edges).keypad.respond 1 (showing 0x30 0x31)).answer =
      .ok .press := rfl
  have hlit := lit_iff_fewer_held_before l rfl rfl edges 1 (showing 0x30 0x31) (Or.inl hevent)
  exact ⟨rfl, rfl, hevent, hlit.2 ⟨edges, List.prefix_append _ _, rfl⟩⟩

/-- **A button that is down from the start is not counted.** The first button is held all the time,
since before it was registered. When the second is pressed the lamp is lit, but when it is let go
the lamp is switched off, and the first button is still held. -/
theorem lamp_dark_although_held :
    let l : EventLoop Memory :=
      { controller := ⟨Memory.store, some fun _ => pure ()⟩
        keypad := ⟨⟨"gpio"⟩, [⟨5, .k1, "", 1, .pressed⟩, ⟨6, .k3, "", 2, .released⟩]⟩
        pipe := ⟨"cmd", 3, .initial⟩
        console := .initial ⟨fun _ => .ok "manual", fun _ => none, []⟩
        refreshEvery := 5
        refreshEvery_pos := by decide
        ticks := 0 }
    let showing (first second : UInt8) : Host :=
      .ofTree ⟨#[.directory 0 [], .file [first], .file [second]], 0⟩
    let before := l.handleEdges [(1, showing 0x31 0x31)]
    let now := l.handleEdges [(1, showing 0x31 0x31), (1, showing 0x31 0x30)]
    (before.keypad.respond 1 (showing 0x31 0x30)).answer = .ok .release ∧
      now.console.lampOrders = [true, false] ∧ ∃ b ∈ now.keypad.buttons, b.level = .pressed :=
  ⟨rfl, rfl, _, List.mem_cons_self .., rfl⟩

end EventLoop

end FanControl
