import FanControl.Proofs.HeldLamp
import FanControl.Proofs.Registration

/-!
# The press counter never runs ahead of the buttons held

A button that was down when it was registered is held without having been counted. So the counter
can stay behind the number of buttons held, by one for each such button at most, and it never runs
ahead of it (`EventLoop.Tallied`). Three buttons can be registered, hence the counter never exceeds
three, and a word that counts the same presses and releases does not overflow.

`EventLoop.attend_effect` says once what a registration or an edge can do to the buttons, to the
counter and to the lamp. What each of these effects preserves is kept by a whole history, and from
that the main statement is read off, `EventLoop.counter_within_held`.
-/

namespace FanControl

variable {ω : Type}

namespace Keypad

/-! ### What comes of a task -/

/-- What comes of a task. -/
inductive Outcome where
  /-- A button was registered, and this was its level. -/
  | seeded (level : ButtonLevel)
  /-- An edge was answered. -/
  | answered (event : ButtonEvent)
  /-- There was an error. -/
  | refused
deriving DecidableEq, Repr

/-- What comes of a task on a machine. -/
def outcome (k : Keypad) (h : Host) : Task → Outcome
  | .register pin id name =>
    match k.enroll pin id name h with
    | (.ok index, k', _) => k'.buttons[index]?.elim .refused fun b => .seeded b.level
    | (.error _, _) => .refused
  | .edge index =>
    match (k.respond index h).answer with
    | .ok event => .answered event
    | .error _ => .refused

theorem outcome_edge {k : Keypad} {index : Nat} {h : Host} {event : ButtonEvent}
    (hanswer : (k.respond index h).answer = .ok event) :
    k.outcome h (.edge index) = .answered event := by
  rw [outcome, hanswer]

/-- A registration leaves the keypad alone, or adds a button whose level is what comes of it. -/
theorem outcome_register (k : Keypad) (pin : Pin) (id : ButtonId) (name : String) (h : Host) :
    (k.outcome h (.register pin id name) = .refused ∧ k.attend h (.register pin id name) = k) ∨
      ∃ b, k.outcome h (.register pin id name) = .seeded b.level ∧
        k.attend h (.register pin id name) = { k with buttons := k.buttons ++ [b] } := by
  have hreg := k.registration pin id name h
  rw [outcome, attend]
  generalize k.enroll pin id name h = result at hreg
  cases hreg with
  | full => exact Or.inl ⟨rfl, rfl⟩
  | duplicate => exact Or.inl ⟨rfl, rfl⟩
  | failed => exact Or.inl ⟨rfl, rfl⟩
  | @registered _ _ b =>
    refine Or.inr ⟨b, ?_, rfl⟩
    -- the outcome names the level of the last button, which is the new one
    show (k.buttons ++ [b])[k.buttons.length]?.elim _ _ = _
    rw [List.getElem?_concat_length]
    rfl

/-! ### How many buttons are held -/

/-- A button more at the end is one more if it is down. -/
theorem heldCount_concat (k : Keypad) (b : Button) :
    ({ k with buttons := k.buttons ++ [b] } : Keypad).heldCount =
      k.heldCount + if b.level = .pressed then 1 else 0 := by
  rw [heldCount, List.countP_append, List.countP_singleton]
  simp only [decide_eq_true_eq, heldCount]

/-- No more buttons can be held than can be registered. -/
theorem Sound.heldCount_le {k : Keypad} (hk : k.Sound) : k.heldCount ≤ maxButtons :=
  List.countP_le_length.trans hk.few

/-! ### Counting in a word -/

/-- Counts an outcome in a word of 32 bits: a press adds one, and a release takes one away unless
there is none. A press that does not fit into the word cannot be counted. -/
def Outcome.countIn (word : UInt32) : Outcome → Option UInt32
  | .answered .press => if word.toNat + 1 < UInt32.size then some (word + 1) else none
  | .answered .release => some (if word = 0 then 0 else word - 1)
  | _ => some word

/-- Counts outcomes one after the other, from zero on. -/
def countInWord (outcomes : List Outcome) : Option UInt32 := outcomes.foldlM Outcome.countIn 0

/-- Everything could be counted, and the word shows this number. -/
def Shows (outcomes : List Outcome) (count : Nat) : Prop :=
  ∃ word, countInWord outcomes = some word ∧ word.toNat = count

theorem shows_nil : Shows [] 0 := ⟨0, rfl, rfl⟩

theorem Shows.concat {outcomes : List Outcome} {count count' : Nat} (h : Shows outcomes count)
    (outcome : Outcome)
    (hstep : ∀ word : UInt32, word.toNat = count →
      ∃ word', outcome.countIn word = some word' ∧ word'.toNat = count') :
    Shows (outcomes ++ [outcome]) count' := by
  obtain ⟨word, hword, hcount⟩ := h
  obtain ⟨word', hword', hcount'⟩ := hstep word hcount
  refine ⟨word', ?_, hcount'⟩
  rw [countInWord, List.foldlM_append, show List.foldlM Outcome.countIn 0 outcomes = _ from hword]
  simpa using hword'

/-- What a word does not count leaves the number as it is. -/
theorem Shows.uncounted {outcomes : List Outcome} {count : Nat} (h : Shows outcomes count)
    {outcome : Outcome} (hsame : ∀ word, outcome.countIn word = some word) :
    Shows (outcomes ++ [outcome]) count :=
  h.concat outcome fun word hword => ⟨word, hsame word, hword⟩

theorem Shows.press {outcomes : List Outcome} {count : Nat} (h : Shows outcomes count)
    (hroom : count + 1 < UInt32.size) : Shows (outcomes ++ [.answered .press]) (count + 1) := by
  refine h.concat _ fun word hword => ⟨word + 1, ?_, ?_⟩
  · rw [Outcome.countIn, if_pos (by rwa [hword])]
  · rw [UInt32.toNat_add, hword]
    exact Nat.mod_eq_of_lt hroom

theorem Shows.release {outcomes : List Outcome} {count : Nat} (h : Shows outcomes count) :
    Shows (outcomes ++ [.answered .release]) (count - 1) := by
  refine h.concat _ fun word hword => ⟨_, rfl, ?_⟩
  -- neither the word nor the number goes below zero
  by_cases hzero : word = 0
  · rw [if_pos hzero, ← hword, hzero]
    rfl
  · have hpos : (1 : UInt32) ≤ word := by
      rw [UInt32.le_iff_toNat_le]
      exact Nat.one_le_iff_ne_zero.mpr fun h0 => hzero (UInt32.toNat_inj.mp h0)
    rw [if_neg hzero, UInt32.toNat_sub_of_le _ _ hpos, hword]
    rfl

end Keypad

namespace EventLoop

/-! ### Occasions -/

/-- Something that is asked of the keypad, on a machine and before a world that may have changed in
any way since the last time. -/
structure Occasion (ω : Type) where
  task : Keypad.Task
  machine : Host
  world : ω

/-- A loop into which a lamp was put, and a keypad to which no button was added yet. -/
def fitted (l : EventLoop ω) (lamp : Bool → Action ω Unit) (gpio : Gpio) : EventLoop ω :=
  { l with
    controller := { l.controller with lamp := some lamp }
    keypad := .empty gpio
    console := { l.console with indicator := .initial, lampOrders := [] } }

/-- Registers a button, or handles the edge of one. -/
def attend (l : EventLoop ω) (o : Occasion ω) : EventLoop ω :=
  match o.task with
  | .register pin id name =>
    { l.withWorld o.world with keypad := (l.keypad.enroll pin id name o.machine).2.1 }
  | .edge index => (l.withWorld o.world).handleEdge index o.machine

/-- What comes of an occasion. -/
def outcome (l : EventLoop ω) (o : Occasion ω) : Keypad.Outcome :=
  l.keypad.outcome o.machine o.task

theorem keypad_attend (l : EventLoop ω) (o : Occasion ω) :
    (l.attend o).keypad = l.keypad.attend o.machine o.task := by
  rcases o with ⟨⟨pin, id, name⟩ | ⟨index⟩, machine, world⟩
  · rfl
  · exact congrArg EventLoop.keypad (handleLevel_sense (l.withWorld world) index machine)

theorem controller_attend (l : EventLoop ω) (o : Occasion ω) :
    (l.attend o).controller = l.controller := by
  rcases o with ⟨⟨pin, id, name⟩ | ⟨index⟩, machine, world⟩
  · rfl
  · exact controller_handleEdge _ index machine

/-- What an occasion can do to the buttons held, to the counter and to the lamp. -/
inductive Effect (l l' : EventLoop ω) : Keypad.Outcome → Prop where
  /-- There was an error, or an edge without an event. -/
  | uneventful {outcome} (hquiet : outcome = .refused ∨ outcome = .answered .unchanged)
    (hheld : l'.keypad.heldCount = l.keypad.heldCount)
    (hcount : l'.console.indicator.held = l.console.indicator.held)
    (horders : l'.console.lampOrders = l.console.lampOrders) : Effect l l' outcome
  /-- A button was added. The counter does not hear of it, even if it is down. -/
  | seeded (level : ButtonLevel)
    (hheld : l'.keypad.heldCount = l.keypad.heldCount + if level = .pressed then 1 else 0)
    (hcount : l'.console.indicator.held = l.console.indicator.held)
    (horders : l'.console.lampOrders = l.console.lampOrders) : Effect l l' (.seeded level)
  /-- A button went down. The lamp is ordered on if the counter was at zero. -/
  | press (hheld : l'.keypad.heldCount = l.keypad.heldCount + 1)
    (hcount : l'.console.indicator.held = l.console.indicator.held + 1)
    (horders : l'.console.lampOrders =
      l.console.lampOrders ++ if l.console.indicator.held = 0 then [true] else []) :
    Effect l l' (.answered .press)
  /-- A button went up. The lamp is ordered off if the counter is at zero then. -/
  | release (hheld : l'.keypad.heldCount + 1 = l.keypad.heldCount)
    (hcount : l'.console.indicator.held = l.console.indicator.held - 1)
    (horders : l'.console.lampOrders =
      l.console.lampOrders ++ if l.console.indicator.held ≤ 1 then [false] else []) :
    Effect l l' (.answered .release)

/-- **Every occasion has one of these effects.** -/
theorem attend_effect (l : EventLoop ω) {lamp : Bool → Action ω Unit}
    (hlamp : l.controller.lamp = some lamp) (o : Occasion ω) :
    Effect l (l.attend o) (l.outcome o) := by
  have hkeypad := keypad_attend l o
  rcases o with ⟨⟨pin, id, name⟩ | ⟨index⟩, machine, world⟩
  · rcases l.keypad.outcome_register pin id name machine with ⟨houtcome, hk⟩ | ⟨b, houtcome, hk⟩
    · exact .uneventful (Or.inl houtcome) (by rw [hkeypad, hk]) rfl rfl
    · rw [outcome, houtcome]
      refine .seeded b.level ?_ rfl rfl
      rw [hkeypad, hk, Keypad.heldCount_concat]
  · -- the keypad does not depend on the world in front of which the controller acts
    rcases handleEdge_cases (l.withWorld world) hlamp index machine with
      ⟨hpress, hrelease, hheld, hside⟩ | ⟨hanswer, hheld, hside⟩ | ⟨hanswer, hheld, hside⟩
    · refine .uneventful ?_ hheld (congrArg (·.1.held) hside) (congrArg Prod.snd hside)
      rcases hanswer : (l.keypad.respond index machine).answer with e | ⟨_ | _ | _⟩
      · exact Or.inl (by rw [outcome, Keypad.outcome, hanswer])
      · exact absurd hanswer hpress
      · exact absurd hanswer hrelease
      · exact Or.inr (Keypad.outcome_edge hanswer)
    · rw [outcome, Keypad.outcome_edge (k := l.keypad) hanswer]
      exact .press hheld (congrArg (·.1.held) hside) (congrArg Prod.snd hside)
    · rw [outcome, Keypad.outcome_edge (k := l.keypad) hanswer]
      exact .release hheld (congrArg (·.1.held) hside) (congrArg Prod.snd hside)

namespace Effect

variable {l l' : EventLoop ω} {outcome : Keypad.Outcome} (h : l.Effect l' outcome)
include h

/-- The counter does not run ahead of the buttons held. -/
theorem held_le (hle : l.console.indicator.held ≤ l.keypad.heldCount) :
    l'.console.indicator.held ≤ l'.keypad.heldCount := by
  cases h with
  | uneventful _ hheld hcount => rwa [hcount, hheld]
  | seeded _ hheld hcount => omega
  | press hheld hcount => omega
  -- at zero the counter stays where it is, and a button that goes up was held
  | release hheld hcount => omega

/-- Only a button that is down when it is registered puts the counter further behind. -/
theorem le_held {lag : Nat}
    (hle : l.keypad.heldCount ≤ l.console.indicator.held + lag) :
    l'.keypad.heldCount ≤ l'.console.indicator.held +
      (lag + if outcome = .seeded .pressed then 1 else 0) := by
  cases h with
  | uneventful _ hheld hcount => omega
  | seeded level hheld hcount => cases level <;> simp at hheld ⊢ <;> omega
  | press hheld hcount => omega
  | release hheld hcount => omega

/-- A word goes on showing the counter, as long as the counter fits into it. -/
theorem shows {outcomes : List Keypad.Outcome}
    (hshows : Keypad.Shows outcomes l.console.indicator.held)
    (hroom : l'.console.indicator.held < UInt32.size) :
    Keypad.Shows (outcomes ++ [outcome]) l'.console.indicator.held := by
  cases h with
  | uneventful hquiet _ hcount =>
    rw [hcount]
    rcases hquiet with rfl | rfl
    · exact hshows.uncounted fun _ => rfl
    · exact hshows.uncounted fun _ => rfl
  | seeded _ _ hcount =>
    rw [hcount]
    exact hshows.uncounted fun _ => rfl
  | press _ hcount =>
    rw [hcount] at hroom ⊢
    exact hshows.press hroom
  | release _ hcount =>
    rw [hcount]
    exact hshows.release

/-- The lamp was last ordered to be lit if and only if the counter is above zero, before and
after. -/
theorem lit_iff
    (hlit : l.console.lampOrders.getLast? = some true ↔ 0 < l.console.indicator.held) :
    l'.console.lampOrders.getLast? = some true ↔ 0 < l'.console.indicator.held := by
  cases h with
  | uneventful _ _ hcount horders => rwa [hcount, horders]
  | seeded _ _ hcount horders => rwa [hcount, horders]
  | press _ hcount horders =>
    rw [hcount, horders]
    by_cases hzero : l.console.indicator.held = 0
    · rw [if_pos hzero, List.getLast?_concat]
      exact iff_of_true rfl (Nat.zero_lt_succ _)
    · -- no order is given, and the lamp was ordered on already
      rw [if_neg hzero, List.append_nil, hlit]
      exact iff_of_true (Nat.pos_of_ne_zero hzero) (Nat.zero_lt_succ _)
  | release _ hcount horders =>
    rw [hcount, horders]
    by_cases hone : l.console.indicator.held ≤ 1
    · rw [if_pos hone, List.getLast?_concat]
      exact iff_of_false (by simp) (by omega)
    · -- more than one press is still counted, so the lamp stays as it is
      rw [if_neg hone, List.append_nil, hlit]
      omega

/-- The lamp is ordered on at a press that raises the counter from zero to one, off at a release
that leaves it at zero, and at nothing else. -/
theorem exists_attempt :
    ∃ attempt : Option Bool, l'.console.lampOrders = l.console.lampOrders ++ attempt.toList ∧
      (attempt = some true ↔ outcome = .answered .press ∧
        l.console.indicator.held = 0 ∧ l'.console.indicator.held = 1) ∧
      (attempt = some false ↔ outcome = .answered .release ∧ l'.console.indicator.held = 0) := by
  cases h with
  -- a press and a release have one condition each; everything else gives no order
  | uneventful hquiet _ _ horders =>
    refine ⟨none, horders.trans (List.append_nil _).symm, ?_⟩
    rcases hquiet with rfl | rfl <;> simp
  | seeded _ _ _ horders =>
    exact ⟨none, horders.trans (List.append_nil _).symm, by simp⟩
  | press _ hcount horders =>
    refine ⟨if l.console.indicator.held = 0 then some true else none, ?_, ?_⟩
    · rw [horders]
      split <;> rfl
    · rw [hcount]
      simp
  | release _ hcount horders =>
    refine ⟨if l.console.indicator.held ≤ 1 then some false else none, ?_, ?_⟩
    · rw [horders]
      split <;> rfl
    · rw [hcount]
      simp
      omega

end Effect

/-! ### Histories -/

/-- The loop after one occasion after the other. -/
def attendAll (l : EventLoop ω) (history : List (Occasion ω)) : EventLoop ω :=
  history.foldl attend l

/-- What comes of each occasion. -/
def outcomes (l : EventLoop ω) : List (Occasion ω) → List Keypad.Outcome
  | [] => []
  | o :: history => l.outcome o :: outcomes (l.attend o) history

theorem attendAll_concat (l : EventLoop ω) (history : List (Occasion ω)) (o : Occasion ω) :
    l.attendAll (history ++ [o]) = (l.attendAll history).attend o := by
  simp [attendAll]

theorem outcomes_concat (l : EventLoop ω) (history : List (Occasion ω)) (o : Occasion ω) :
    l.outcomes (history ++ [o]) = l.outcomes history ++ [(l.attendAll history).outcome o] := by
  induction history generalizing l with
  | nil => rfl
  | cons first history ih => exact congrArg (l.outcome first :: ·) (ih (l.attend first))

theorem controller_attendAll (l : EventLoop ω) (history : List (Occasion ω)) :
    (l.attendAll history).controller = l.controller := by
  induction history using List.reverseRecOn with
  | nil => rfl
  | append_singleton history o ih => rw [attendAll_concat, controller_attend, ih]

/-- How the counter and the lamp stand when a loop has gone through these outcomes. -/
structure Tallied (l : EventLoop ω) (outcomes : List Keypad.Outcome) : Prop where
  sound : l.keypad.Sound
  /-- The counter never runs ahead. -/
  held_le : l.console.indicator.held ≤ l.keypad.heldCount
  /-- It stays behind by the buttons that were down when they were registered, at most. -/
  le_held : l.keypad.heldCount ≤ l.console.indicator.held + outcomes.count (.seeded .pressed)
  word : Keypad.Shows outcomes l.console.indicator.held
  lit : l.console.lampOrders.getLast? = some true ↔ 0 < l.console.indicator.held

theorem Tallied.start (l : EventLoop ω) (lamp : Bool → Action ω Unit) (gpio : Gpio) :
    (l.fitted lamp gpio).Tallied [] where
  sound := Keypad.sound_empty gpio
  held_le := Nat.le_refl 0
  le_held := Nat.le_refl 0
  word := Keypad.shows_nil
  lit := by simp [fitted, Indicator.initial]

/-- **One occasion more** keeps the tally. -/
theorem Tallied.step {l l' : EventLoop ω} {outcomes : List Keypad.Outcome}
    {outcome : Keypad.Outcome} (h : l.Tallied outcomes) (heffect : l.Effect l' outcome)
    (hsound : l'.keypad.Sound) : l'.Tallied (outcomes ++ [outcome]) := by
  have hle := heffect.held_le h.held_le
  have hfew : l'.keypad.heldCount ≤ 3 := hsound.heldCount_le
  refine ⟨hsound, hle, ?_, heffect.shows h.word ?_, heffect.lit_iff h.lit⟩
  · rw [List.count_append, List.count_singleton]
    simpa only [beq_iff_eq] using heffect.le_held h.le_held
  · -- three is far below the end of a word
    exact (hle.trans hfew).trans_lt (by decide)

theorem tallied_attendAll (l : EventLoop ω) (lamp : Bool → Action ω Unit) (gpio : Gpio)
    (history : List (Occasion ω)) :
    ((l.fitted lamp gpio).attendAll history).Tallied ((l.fitted lamp gpio).outcomes history) := by
  -- from the end, as the next occasion meets the loop that all earlier ones have made
  induction history using List.reverseRecOn with
  | nil => exact .start l lamp gpio
  | append_singleton history o ih =>
    have hlamp : ((l.fitted lamp gpio).attendAll history).controller.lamp = some lamp := by
      rw [controller_attendAll]
      rfl
    rw [attendAll_concat, outcomes_concat]
    refine ih.step (attend_effect _ hlamp o) ?_
    rw [keypad_attend]
    exact ih.sound.attend o.machine o.task

/-- **The press counter is bounded by the buttons held, and the lamp follows it.** A controller gets
a lamp and an empty keypad. Buttons are registered and edges of any indices arrive, in any order,
each time on a machine whose files show anything and before a world that may have changed in any
way; the lamp obeys or fails, and so does what a button does. Then the counter is at most the number
of buttons held, which is at most three, and it is that number if no button was down when it was
registered. A word of 32 bits that counts the same presses and releases shows the counter, so that
no press overflows. The last state into which the lamp was ordered, if there is one, is lit if and
only if the counter is above zero.

Whatever is done next, the lamp is ordered on if it is a press that raises the counter from zero to
one, off if it is a release after which the counter is zero, and it gets no order otherwise. -/
theorem counter_within_held (l : EventLoop ω) (lamp : Bool → Action ω Unit) (gpio : Gpio)
    (history : List (Occasion ω)) :
    let now := (l.fitted lamp gpio).attendAll history
    let outcomes := (l.fitted lamp gpio).outcomes history
    let held := now.console.indicator.held
    (held ≤ now.keypad.heldCount ∧ now.keypad.heldCount ≤ 3) ∧
    (.seeded .pressed ∉ outcomes → held = now.keypad.heldCount) ∧
    (∃ word, Keypad.countInWord outcomes = some word ∧ word.toNat = held) ∧
    (now.console.lampOrders.getLast? = some true ↔ 0 < held) ∧
    ∀ o, let next := now.attend o
      ∃ attempt : Option Bool, next.console.lampOrders = now.console.lampOrders ++ attempt.toList ∧
        (attempt = some true ↔ now.outcome o = .answered .press ∧
          held = 0 ∧ next.console.indicator.held = 1) ∧
        (attempt = some false ↔ now.outcome o = .answered .release ∧
          next.console.indicator.held = 0) := by
  intro now outcomes held
  have htallied : now.Tallied outcomes := tallied_attendAll l lamp gpio history
  have hlamp : now.controller.lamp = some lamp := by
    rw [controller_attendAll]
    rfl
  refine ⟨⟨htallied.held_le, htallied.sound.heldCount_le⟩, fun hseeds => ?_, htallied.word,
    htallied.lit, fun o => (attend_effect now hlamp o).exists_attempt⟩
  -- the counter is behind by the buttons that were seeded as down, and there are none
  have hle := htallied.le_held
  rw [List.count_eq_zero_of_not_mem hseeds] at hle
  exact Nat.le_antisymm htallied.held_le hle

end EventLoop

end FanControl
