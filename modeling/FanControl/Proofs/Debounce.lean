import FanControl.EventLoop
import Mathlib.Data.List.Destutter

/-!
# Every change of a button is delivered once

An edge is only a hint: the level is read, and the observer is called if it is another one than
before (`Keypad.respond`). What the observer hears of one button is then a function of what was
read of that button, the list of levels without repetitions (`ButtonLevel.changes`), however the
edges of several buttons are mixed and whichever readings fail on the way (`Keypad.debounced`).

`Keypad.respond_cases` says once what an edge can lead to; all else about a single edge is read off
from it, and whole runs follow by induction. That the event loop passes on exactly these calls is
`EventLoop.handleLevel_sense`.
-/

namespace FanControl

/-! ### Levels -/

namespace ButtonLevel

/-- The event of reaching a level. -/
def event : ButtonLevel → ButtonEvent
  | .pressed => .press
  | .released => .release

theorem event_injective : Function.Injective event := by
  intro a b h
  cases a <;> cases b <;> simp_all [event]

theorem event_eq_press_iff {a : ButtonLevel} : a.event = .press ↔ a = .pressed := by
  cases a <;> simp [event]

/-- The levels of a list that differ from the one before, which for the first is `start`. -/
def changes (start : ButtonLevel) (levels : List ButtonLevel) : List ButtonLevel :=
  (levels.destutter' (· ≠ ·) start).tail

@[simp] theorem changes_nil (start : ButtonLevel) : start.changes [] = [] := rfl

/-- The level at the start stays in front. -/
theorem cons_changes (start : ButtonLevel) (levels : List ButtonLevel) :
    start :: start.changes levels = levels.destutter' (· ≠ ·) start := by
  induction levels with
  | nil => rfl
  | cons level levels ih =>
    by_cases h : start = level
    · simpa [changes, h] using ih
    · simp [changes, h]

theorem changes_cons_self (level : ButtonLevel) (levels : List ButtonLevel) :
    level.changes (level :: levels) = level.changes levels := by
  rw [changes, List.destutter'_cons_neg _ (by simp), changes]

theorem changes_cons_of_ne {start level : ButtonLevel} (h : level ≠ start)
    (levels : List ButtonLevel) :
    start.changes (level :: levels) = level :: level.changes levels := by
  rw [changes, List.destutter'_cons_pos _ (Ne.symm h), List.tail_cons, cons_changes]

/-- The changes of two lists of levels, one after the other. -/
theorem changes_append (start : ButtonLevel) (l m : List ButtonLevel) :
    start.changes (l ++ m) = start.changes l ++ (l.getLastD start).changes m := by
  induction l generalizing start with
  | nil => rfl
  | cons level l ih =>
    rw [List.cons_append, List.getLastD_cons]
    by_cases h : level = start
    · subst h
      rw [changes_cons_self, changes_cons_self, ih]
    · rw [changes_cons_of_ne h, changes_cons_of_ne h, ih, List.cons_append]

/-- No two levels in a row are the same. -/
theorem isChain_cons_changes (start : ButtonLevel) (levels : List ButtonLevel) :
    (start :: start.changes levels).IsChain (· ≠ ·) := by
  rw [cons_changes]
  exact List.isChain_destutter' _ levels start

/-- A button that was up is pressed first, and one that was down is released first. -/
theorem eq_pressed_iff_of_mem_head? {start first : ButtonLevel} {levels : List ButtonLevel}
    (h : first ∈ (start.changes levels).head?) : first = .pressed ↔ start = .released := by
  obtain ⟨rest, hrest⟩ := List.head?_eq_some_iff.mp h
  have hchain := isChain_cons_changes start levels
  rw [hrest, List.isChain_cons_cons] at hchain
  have hne : start ≠ first := hchain.1
  cases start <;> cases first <;> simp_all

end ButtonLevel

/-! ### One button -/

namespace Button

/-- The level that is read is remembered. -/
theorem observe_fst (b : Button) (level : ButtonLevel) :
    (b.observe level).1 = { b with level } := by
  unfold observe
  by_cases h : level = b.level
  · rw [if_pos h, h]
  · rw [if_neg h]

theorem observe_self (b : Button) : b.observe b.level = (b, .unchanged) := by
  unfold observe
  rw [if_pos rfl]

theorem observe_of_ne {b : Button} {level : ButtonLevel} (h : level ≠ b.level) :
    b.observe level = ({ b with level }, level.event) := by
  unfold observe
  rw [if_neg h]
  cases level <;> rfl

/-- Only a button that was up and is down has been pressed. -/
theorem observe_snd_eq_press_iff (b : Button) (level : ButtonLevel) :
    (b.observe level).2 = .press ↔ b.level = .released ∧ level = .pressed := by
  unfold observe
  rcases hlast : b.level with _ | _ <;> rcases level with _ | _ <;> simp

/-- What the value file of a button shows: the button is down if the first byte is the digit one,
and up if it is another byte. A file that is empty or cannot be read shows nothing. -/
def shown (b : Button) (h : Host) : Option ButtonLevel :=
  match h.tree.firstByte b.value with
  | .ok (some byte) => some (if byte = 0x31 then .pressed else .released)
  | _ => none

/-- What is read is what the file shows. -/
theorem sense_of_shown {b : Button} {h : Host} {level : ButtonLevel}
    (hshown : b.shown h = some level) : b.sense h = .ok level := by
  unfold shown at hshown
  unfold sense levelOf
  rcases hbyte : h.tree.firstByte b.value with fault | _ | byte
  · rw [hbyte] at hshown; cases hshown
  · rw [hbyte] at hshown; cases hshown
  · rw [hbyte] at hshown
    obtain rfl := Option.some.inj hshown
    have hdigit : byte.toNat = '1'.toNat ↔ byte = 0x31 := UInt8.toNat_inj (b := 0x31)
    simp only [ButtonLevel.ofByte, hdigit]

/-- A file that shows nothing is an error of the line. -/
theorem sense_of_shown_eq_none {b : Button} {h : Host} (hshown : b.shown h = none) :
    ∃ fault, b.sense h = .error (.gpio b.pin fault) := by
  unfold shown at hshown
  unfold sense levelOf
  rcases hbyte : h.tree.firstByte b.value with fault | _ | byte
  · exact ⟨_, rfl⟩
  · exact ⟨_, rfl⟩
  · rw [hbyte] at hshown; cases hshown

/-- The levels that a button shows at its edges, as far as it shows any. Edges of other buttons do
not count. -/
def readings (b : Button) (index : Nat) (edges : List (Nat × Host)) : List ButtonLevel :=
  edges.filterMap fun edge => if edge.1 = index then b.shown edge.2 else none

end Button

/-! ### One edge -/

/-- A call of the observer, and at which index the button is that it is about. -/
structure Keypad.Call where
  index : Nat
  event : ButtonEvent
  button : Button
deriving DecidableEq, Repr

/-- What an edge leads to. -/
structure Keypad.Response where
  answer : Except Error ButtonEvent
  /-- The call of the observer, if there is one. -/
  call : Option Keypad.Call
  keypad : Keypad

/-- The call that tells an observer that a button has reached a level. -/
def Button.call (b : Button) (index : Nat) (level : ButtonLevel) : Keypad.Call :=
  ⟨index, level.event, { b with level }⟩

namespace Keypad

/-- Responds to an edge of the button at an index: its level is read on the machine and taken into
account. The observer hears of a press or a release, and of nothing else. -/
def respond (k : Keypad) (index : Nat) (h : Host) : Response :=
  match k.observe index (k.sense index h) with
  | .ok (.unchanged, _, keypad) => ⟨.ok .unchanged, none, keypad⟩
  | .ok (event, b, keypad) => ⟨.ok event, some ⟨index, event, b⟩, keypad⟩
  | .error e => ⟨.error e, none, k⟩

/-- The keypad with another level for a button. -/
def withLevel (k : Keypad) (index : Nat) (b : Button) (level : ButtonLevel) : Keypad :=
  { k with buttons := k.buttons.set index { b with level } }

theorem respond_unregistered {k : Keypad} {index : Nat} (hb : k.buttons[index]? = none)
    (h : Host) : k.respond index h = ⟨.error (.unknownButton index), none, k⟩ := by
  simp only [respond, observe, hb]

variable {k : Keypad} {index : Nat} {b : Button} {h : Host} (hb : k.buttons[index]? = some b)
include hb

theorem withLevel_self : k.withLevel index b b.level = k := by
  obtain ⟨hlt, hget⟩ := List.getElem?_eq_some_iff.mp hb
  rw [withLevel, ← hget, List.set_getElem_self]

/-- A reading that fails changes nothing. -/
theorem respond_unread (hshown : b.shown h = none) :
    ∃ fault, k.respond index h = ⟨.error (.gpio b.pin fault), none, k⟩ := by
  obtain ⟨fault, hfault⟩ := Button.sense_of_shown_eq_none hshown
  exact ⟨fault, by simp only [respond, sense, observe, hb, hfault]⟩

/-- A reading of the level that is known already changes nothing. -/
theorem respond_unchanged (hshown : b.shown h = some b.level) :
    k.respond index h = ⟨.ok .unchanged, none, k⟩ := by
  have hset : k.buttons.set index b = k.buttons := congrArg Keypad.buttons (withLevel_self hb)
  simp only [respond, sense, observe, hb, Button.sense_of_shown hshown, Button.observe_self, hset]

/-- A reading of another level is remembered, and the observer is called. -/
theorem respond_changed {level : ButtonLevel} (hshown : b.shown h = some level)
    (hne : level ≠ b.level) :
    k.respond index h =
      ⟨.ok level.event, some (b.call index level), k.withLevel index b level⟩ := by
  simp only [respond, sense, observe, hb, Button.sense_of_shown hshown, Button.observe_of_ne hne]
  cases level <;> rfl

end Keypad

namespace Keypad

/-- **What an edge can lead to**: an error or an unchanged level, and then nothing has happened; or
the button shows another level than before, which is remembered and passed on. -/
theorem respond_cases (k : Keypad) (index : Nat) (h : Host) :
    (∃ e, k.respond index h = ⟨.error e, none, k⟩) ∨
    k.respond index h = ⟨.ok .unchanged, none, k⟩ ∨
    ∃ b level, k.buttons[index]? = some b ∧ b.shown h = some level ∧ level ≠ b.level ∧
      k.respond index h =
        ⟨.ok level.event, some (b.call index level), k.withLevel index b level⟩ := by
  -- each test that an edge has to pass, in the order in which it is made
  rcases hb : k.buttons[index]? with _ | b
  · exact Or.inl ⟨_, respond_unregistered hb h⟩
  · rcases hshown : b.shown h with _ | level
    · obtain ⟨fault, hrespond⟩ := respond_unread hb hshown
      exact Or.inl ⟨_, hrespond⟩
    · by_cases hlevel : level = b.level
      · subst hlevel
        exact Or.inr (Or.inl (respond_unchanged hb hshown))
      · exact Or.inr (Or.inr ⟨b, level, rfl, hshown, hlevel, respond_changed hb hshown hlevel⟩)

/-- An edge is about no other button than its own. -/
theorem index_of_mem_call {k : Keypad} {index : Nat} {h : Host} {c : Call}
    (hc : c ∈ (k.respond index h).call) : c.index = index := by
  rcases respond_cases k index h with ⟨e, hr⟩ | hr | ⟨b, level, -, -, -, hr⟩
  · rw [hr] at hc; cases hc
  · rw [hr] at hc; cases hc
  · rw [hr] at hc
    obtain rfl := Option.some.inj hc
    rfl

/-- An edge changes no other button than its own. -/
theorem respond_other {index other : Nat} (hother : other ≠ index) (k : Keypad) (h : Host) :
    (k.respond index h).keypad.buttons[other]? = k.buttons[other]? := by
  rcases respond_cases k index h with ⟨e, hr⟩ | hr | ⟨b, level, -, -, -, hr⟩
  · rw [hr]
  · rw [hr]
  · rw [hr]
    exact List.getElem?_set_ne (Ne.symm hother)

/-- What a response may and may not be. -/
structure Response.Confined (k : Keypad) (index : Nat) (h : Host) (r : Response) : Prop where
  /-- There has to be a button at the index. -/
  unregistered : k.buttons[index]? = none → r.answer = .error (.unknownButton index)
  /-- The button has to show something. -/
  unread : ∀ b, k.buttons[index]? = some b → b.shown h = none →
    ∃ fault, r.answer = .error (.gpio b.pin fault)
  /-- After an error, nobody was called, and no button has changed. -/
  failed : ∀ e, r.answer = .error e → r.call = none ∧ r.keypad = k
  /-- The other buttons never change. -/
  other : ∀ other, other ≠ index → r.keypad.buttons[other]? = k.buttons[other]?

theorem respond_confined (k : Keypad) (index : Nat) (h : Host) :
    (k.respond index h).Confined k index h where
  unregistered hb := by rw [respond_unregistered hb]
  unread b hb hshown := by
    obtain ⟨fault, hr⟩ := respond_unread hb hshown
    exact ⟨fault, by rw [hr]⟩
  failed e he := by
    rcases respond_cases k index h with ⟨_, hr⟩ | hr | ⟨_, _, -, -, -, hr⟩
    · rw [hr]
      exact ⟨rfl, rfl⟩
    · rw [hr] at he; cases he
    · rw [hr] at he; cases he
  other _ hother := respond_other hother k h

/-! ### Runs of edges -/

/-- Responds to one edge after the other, each of them on the machine as it then is: the calls of
the observer, and the keypad after the last edge. -/
def respondAll (k : Keypad) : List (Nat × Host) → List Call × Keypad
  | [] => ([], k)
  | (index, h) :: edges =>
    let r := k.respond index h
    let (later, k) := respondAll r.keypad edges
    (r.call.toList ++ later, k)

/-- The calls that are about the button at an index. -/
def callsOf (index : Nat) (calls : List Call) : List Call := calls.filter (·.index = index)

/-- **One edge, seen from one button.** It is a change if it is this button's edge and shows
another level than the last one; otherwise it is nothing. -/
theorem respond_at {k : Keypad} {i : Nat} {b : Button} (hb : k.buttons[i]? = some b)
    (edge : Nat × Host) :
    let r := k.respond edge.1 edge.2
    let readings := b.readings i [edge]
    callsOf i r.call.toList = (b.level.changes readings).map (b.call i) ∧
      r.keypad.buttons[i]? = some { b with level := readings.getLastD b.level } := by
  obtain ⟨index, h⟩ := edge
  intro r readings
  -- an edge of another button is not among the readings
  by_cases hindex : index = i
  · subst hindex
    rcases hshown : b.shown h with _ | level
    · have hreadings : readings = [] := by simp [readings, Button.readings, hshown]
      obtain ⟨fault, hr⟩ := respond_unread hb hshown
      rw [hreadings, show r = _ from hr]
      exact ⟨rfl, hb⟩
    · have hreadings : readings = [level] := by simp [readings, Button.readings, hshown]
      rw [hreadings]
      by_cases hlevel : level = b.level
      · subst hlevel
        rw [ButtonLevel.changes_cons_self, show r = _ from respond_unchanged hb hshown]
        exact ⟨rfl, hb⟩
      · rw [ButtonLevel.changes_cons_of_ne hlevel,
          show r = _ from respond_changed hb hshown hlevel]
        refine ⟨by simp [callsOf, Button.call], ?_⟩
        have hlt : index < k.buttons.length := (List.getElem?_eq_some_iff.mp hb).1
        exact List.getElem?_set_self hlt
  · have hreadings : readings = [] := by simp [readings, Button.readings, hindex]
    rw [hreadings]
    refine ⟨?_, (respond_other (Ne.symm hindex) k h).trans hb⟩
    apply List.filter_eq_nil_iff.mpr
    intro c hc
    -- whoever was called was called for the index of the edge
    have hcall : c.index = index := index_of_mem_call (Option.mem_toList.mp hc)
    simp [hcall, hindex]

/-- What the edges of a run come to for one button. -/
theorem respondAll_at {k : Keypad} {i : Nat} {b : Button} (hb : k.buttons[i]? = some b)
    (edges : List (Nat × Host)) :
    callsOf i (k.respondAll edges).1 = (b.level.changes (b.readings i edges)).map (b.call i) ∧
      (k.respondAll edges).2.buttons[i]? =
        some { b with level := (b.readings i edges).getLastD b.level } := by
  induction edges generalizing k b with
  | nil => exact ⟨rfl, hb⟩
  | cons edge edges ih =>
    obtain ⟨hcalls, hlevel⟩ := respond_at hb edge
    obtain ⟨hcalls', hlevel'⟩ := ih hlevel
    -- the button differs from `b` in its level only, and what it shows does not depend on that
    have hreadings : b.readings i (edge :: edges) = b.readings i [edge] ++ b.readings i edges :=
      List.filterMap_append (l := [edge])
    have hlast : (b.readings i (edge :: edges)).getLastD b.level =
        (b.readings i edges).getLastD ((b.readings i [edge]).getLastD b.level) := by
      rw [hreadings, List.getLastD_eq_getLast?, List.getLast?_append, List.getLastD_eq_getLast?,
        List.getLastD_eq_getLast?, Option.getD_or]
    refine ⟨?_, hlevel'.trans ?_⟩
    · rw [respondAll, callsOf, List.filter_append, hreadings, ButtonLevel.changes_append,
        List.map_append]
      exact congrArg₂ (· ++ ·) hcalls hcalls'
    · rw [hlast]
      rfl

/-- **Debouncing delivers every change exactly once.** Edges of any indices arrive in any order,
and whatever the value files show each time. Of the button at an index the observer hears the
changes in the list of levels that begins with the level seeded at its registration and goes on
with the levels read at its own edges, so the edges of other buttons make no difference. Its calls
alternate, the first is a press if and only if the button was up, and the last level read is what
the button remembers. In every keypad that a run leads to, an edge that cannot be answered calls
nobody and changes nothing, and no edge changes a button but its own. -/
theorem debounced (k : Keypad) (edges : List (Nat × Host)) :
    let (calls, k') := k.respondAll edges
    (∀ i b, k.buttons[i]? = some b →
      let levels := b.readings i edges
      let received := callsOf i calls
      received = (b.level.changes levels).map (b.call i) ∧
      (received.map Call.event).IsChain (· ≠ ·) ∧
      (∀ first ∈ received.head?, first.event = .press ↔ b.level = .released) ∧
      k'.buttons[i]? = some { b with level := levels.getLastD b.level }) ∧
    ∀ index h, (k'.respond index h).Confined k' index h := by
  refine ⟨fun i b hb => ?_, fun index h => respond_confined _ index h⟩
  obtain ⟨hcalls, hlevel⟩ := respondAll_at hb edges
  refine ⟨hcalls, ?_, fun first hfirst => ?_, hlevel⟩
  · -- levels next to each other among the changes differ, and so do their events
    have hevents : (callsOf i (k.respondAll edges).1).map Call.event =
        (b.level.changes (b.readings i edges)).map ButtonLevel.event := by
      rw [hcalls, List.map_map]
      rfl
    rw [hevents, List.isChain_map]
    exact (ButtonLevel.isChain_cons_changes _ _).tail.imp
      fun _ _ hne => ButtonLevel.event_injective.ne hne
  · rw [hcalls, List.head?_map] at hfirst
    -- the first change is away from the level seeded
    obtain ⟨level, hhead, rfl⟩ := Option.map_eq_some_iff.mp hfirst
    show level.event = .press ↔ b.level = .released
    rw [ButtonLevel.event_eq_press_iff]
    exact ButtonLevel.eq_pressed_iff_of_mem_head? hhead

end Keypad

/-- **The event loop passes on what a keypad responds.** -/
theorem EventLoop.handleLevel_sense {ω : Type} (l : EventLoop ω) (index : Nat) (h : Host) :
    l.handleLevel index (l.keypad.sense index h) =
      { l with
        keypad := (l.keypad.respond index h).keypad
        console :=
          match (l.keypad.respond index h).answer, (l.keypad.respond index h).call with
          | .error e, _ => l.console.report (.buttonReadFailed index e)
          | .ok _, none => l.console
          | .ok _, some c => l.controller.notify c.event c.button l.console } := by
  rw [handleLevel, Keypad.respond]
  rcases l.keypad.observe index (l.keypad.sense index h) with e | ⟨_ | _ | _, b, keypad⟩ <;> rfl

end FanControl
