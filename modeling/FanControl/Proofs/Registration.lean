import FanControl.Proofs.Debounce
import FanControl.Proofs.Failure
import FanControl.Proofs.Ledger

/-!
# A button is registered as a whole or not at all

There are five ways in which registering a button can end (`Keypad.Registration`). In four of them
the keypad is the one from before: it was full, or the pin was in use, and then nothing was asked of
the machine; or the line could not be taken; or it could not be set up, and then it was given back
once. In the fifth there is one more button. So the keypad is `Sound` after any history of
registrations and edges, and no button that was registered becomes another one
(`Keypad.registration_atomic`).
-/

namespace FanControl

/-! ### Setting a line up -/

/-- Looking at the files leaves the machine as it is. -/
theorem Host.of_inspect_eq_ok {α : Type} {f : FileTree → Except AccessFault α}
    {blame : AccessFault → Error} {h h' : Host} {a : α}
    (hresult : inspect f blame h = (.ok a, h')) : f h.tree = .ok a ∧ h' = h := by
  obtain ⟨hlooked, rfl⟩ := Prod.mk.inj hresult
  refine ⟨?_, rfl⟩
  change (f h.tree).mapError blame = .ok a at hlooked
  rcases hf : f h.tree with fault | a'
  · rw [hf] at hlooked
    cases hlooked
  · rw [hf] at hlooked
    cases hlooked
    rfl

/-- What can fail on a line that is being set up for a button. -/
inductive GpioFault.OfSetup : GpioFault → Prop where
  | direction (cause : AccessFault) : OfSetup (.direction .input cause)
  | edge (cause : AccessFault) : OfSetup (.edge .both cause)
  | opening (cause : AccessFault) : OfSetup (.opening cause)
  | level (cause : AccessFault) : OfSetup (.level cause)
  | emptyValue : OfSetup .emptyValue

namespace Button

/-- What of a button never changes. -/
def face (b : Button) : Pin × ButtonId × String := (b.pin, b.id, b.name)

/-- The level that is read is the one that the file shows. -/
theorem shown_of_sense {b : Button} {h : Host} {level : ButtonLevel}
    (hsense : b.sense h = .ok level) : b.shown h = some level := by
  rcases hshown : b.shown h with _ | level'
  · obtain ⟨fault, hfault⟩ := sense_of_shown_eq_none hshown
    cases hfault.symm.trans hsense
  · cases (sense_of_shown hshown).symm.trans hsense
    rfl

theorem levelOf_failsAs (pin : Pin) (value : NodeId) :
    (Action.query fun h : Host => levelOf pin value h.tree).FailsAs fun e =>
      ∃ fault, GpioFault.OfSetup fault ∧ e = .gpio pin fault := by
  intro h e he
  change levelOf pin value h.tree = .error e at he
  rw [levelOf] at he
  split at he
  · cases he
  · cases he
    exact ⟨_, .emptyValue, rfl⟩
  · cases he
    exact ⟨_, .level _, rfl⟩

end Button

namespace Keypad

/-! ### Taking a line -/

theorem prepare_failsAs (gpio : Gpio) (pin : Pin) (id : ButtonId) (name : String) :
    (prepare gpio pin id name).FailsAs fun e =>
      ∃ fault, GpioFault.OfSetup fault ∧ e = .gpio pin fault := by
  unfold prepare
  refine .bind (Gpio.put_failsAs _ _ _ fun cause => ⟨_, .direction cause, rfl⟩) fun _ => ?_
  refine .bind (Gpio.put_failsAs _ _ _ fun cause => ⟨_, .edge cause, rfl⟩) fun _ => ?_
  refine .bind (.inspect fun cause => ⟨_, .opening cause, rfl⟩) fun value => ?_
  exact .bind (Button.levelOf_failsAs pin value) fun _ => .pure _

/-- A line that was set up belongs to the button that was asked for, and the level of the button is
the one that the open value file of the line shows. -/
theorem prepare_spec {gpio : Gpio} {pin : Pin} {id : ButtonId} {name : String} {b : Button}
    {h h' : Host} (hresult : prepare gpio pin id name h = (.ok b, h')) :
    b.face = (pin, id, name) ∧ h'.tree.openValue (gpio.valuePath pin) = .ok b.value ∧
      b.shown h' = some b.level := by
  obtain ⟨_, _, -, hedge⟩ := Action.of_bind_eq_ok hresult
  obtain ⟨_, w, -, hvalue⟩ := Action.of_bind_eq_ok hedge
  obtain ⟨value, w₁, hopen, hquery⟩ := Action.of_bind_eq_ok hvalue
  obtain ⟨level, w₂, hread, hlast⟩ := Action.of_bind_eq_ok hquery
  -- opening and reading leave the machine alone, so the level is that of the last state
  obtain ⟨hopened, hw₁⟩ := Host.of_inspect_eq_ok hopen
  obtain ⟨hlevel, hw₂⟩ := Prod.mk.inj hread
  obtain ⟨hb, hw₃⟩ := Prod.mk.inj hlast
  obtain rfl := Except.ok.inj hb
  rw [← hw₃, ← hw₂, hw₁]
  rw [hw₁] at hlevel
  exact ⟨rfl, hopened, Button.shown_of_sense hlevel⟩

/-- Setting a line up requests nothing that would be traced. -/
theorem trace_prepare (gpio : Gpio) (pin : Pin) (id : ButtonId) (name : String) (h : Host) :
    (prepare gpio pin id name h).2.trace = h.trace := by
  have hput : ∀ path text fault,
      (Gpio.put pin path text fault).Keeps fun w => w.trace = h.trace :=
    fun path text fault w hw => (Gpio.trace_put pin path text fault w).trans hw
  have hkeeps : (prepare gpio pin id name).Keeps fun w => w.trace = h.trace :=
    (hput _ _ _).bind fun _ => (hput _ _ _).bind fun _ =>
      (Action.Keeps.query _).bind fun _ => (Action.Keeps.query _).bind fun _ => .pure _
  exact hkeeps h rfl

/-- How taking a line for a button can end. -/
inductive Acquisition (gpio : Gpio) (pin : Pin) (id : ButtonId) (name : String) (h : Host) :
    Except Error Button → Host → Prop where
  /-- The line cannot be taken. -/
  | notExported {cause h'} (htrace : h'.trace = ⟨.exportPin pin, false⟩ :: h.trace) :
    Acquisition gpio pin id name h (.error (.gpio pin (.exporting cause))) h'
  /-- The line cannot be set up. An attempt is made to give it back, which may fail as well. -/
  | rolledBack {fault granted h'} (hfault : GpioFault.OfSetup fault)
    (htrace : h'.trace = ⟨.unexportPin pin, granted⟩ :: ⟨.exportPin pin, true⟩ :: h.trace) :
    Acquisition gpio pin id name h (.error (.gpio pin fault)) h'
  /-- The line is set up, and the level of the button is what its value file shows. -/
  | acquired {b h'} (hface : b.face = (pin, id, name))
    (hvalue : h'.tree.openValue (gpio.valuePath pin) = .ok b.value)
    (hlevel : b.shown h' = some b.level)
    (htrace : h'.trace = ⟨.exportPin pin, true⟩ :: h.trace) :
    Acquisition gpio pin id name h (.ok b) h'

theorem acquisition (gpio : Gpio) (pin : Pin) (id : ButtonId) (name : String) (h : Host) :
    Acquisition gpio pin id name h (acquire gpio pin id name h).1
      (acquire gpio pin id name h).2 := by
  have hfails := gpio.exportPin_failsAs pin h
  have hexport := gpio.trace_exportPin pin h
  rw [acquire, Action.bind_apply]
  rcases hexported : gpio.exportPin pin h with ⟨e | _, h₁⟩
  · rw [hexported] at hfails hexport
    obtain ⟨cause, rfl⟩ := hfails e rfl
    exact .notExported hexport
  · rw [hexported] at hexport
    -- the line is taken, so it has to be given back if anything fails from here on
    have hsetup := prepare_failsAs gpio pin id name h₁
    have hprepare := trace_prepare gpio pin id name h₁
    dsimp only
    rw [Action.bind_apply, Action.attempt]
    rcases hresult : prepare gpio pin id name h₁ with ⟨e | b, h₂⟩
    · rw [hresult] at hsetup hprepare
      obtain ⟨fault, hfault, rfl⟩ := hsetup e rfl
      have hgiven := gpio.trace_unexportPin pin h₂
      rw [show h₂.trace = h₁.trace from hprepare, show h₁.trace = _ from hexport] at hgiven
      exact .rolledBack hfault hgiven
    · rw [hresult] at hprepare
      obtain ⟨hface, hvalue, hlevel⟩ := prepare_spec hresult
      exact .acquired hface hvalue hlevel (hprepare.trans hexport)

/-! ### Registering -/

/-- Registers a button: the index at which it is, and the keypad, which after an error is the one
from before. -/
def enroll (k : Keypad) (pin : Pin) (id : ButtonId) (name : String) (h : Host) :
    Except Error Nat × Keypad × Host :=
  match k.register pin id name h with
  | (.ok k', h') => (.ok k.buttons.length, k', h')
  | (.error e, h') => (.error e, k, h')

/-- How registering a button can end: the answer, and the keypad and the machine afterwards. -/
inductive Registration (k : Keypad) (pin : Pin) (id : ButtonId) (name : String) (h : Host) :
    Except Error Nat × Keypad × Host → Prop where
  /-- The keypad is full, whatever the pin is. Nothing is asked of the machine. -/
  | full (hfull : maxButtons ≤ k.buttons.length) :
    Registration k pin id name h (.error (.registryFull maxButtons), k, h)
  /-- The pin is in use. Nothing is asked of the machine. -/
  | duplicate (hroom : k.buttons.length < maxButtons) (hused : pin ∈ k.buttons.map (·.pin)) :
    Registration k pin id name h (.error (.duplicatePin pin), k, h)
  /-- The line cannot be taken or not be set up. -/
  | failed (hroom : k.buttons.length < maxButtons) (hnew : pin ∉ k.buttons.map (·.pin)) {e h'}
    (hacquire : Acquisition k.gpio pin id name h (.error e) h') :
    Registration k pin id name h (.error e, k, h')
  /-- There is one more button, and it is the last one. -/
  | registered (hroom : k.buttons.length < maxButtons) (hnew : pin ∉ k.buttons.map (·.pin)) {b h'}
    (hacquire : Acquisition k.gpio pin id name h (.ok b) h') :
    Registration k pin id name h
      (.ok k.buttons.length, { k with buttons := k.buttons ++ [b] }, h')

/-- **Every registration ends in one of these ways.** -/
theorem registration (k : Keypad) (pin : Pin) (id : ButtonId) (name : String) (h : Host) :
    Registration k pin id name h (k.enroll pin id name h) := by
  -- in the order of the tests: the number of buttons comes before the pin
  by_cases hfull : k.buttons.length ≥ maxButtons
  · rw [enroll, register, if_pos hfull]
    exact .full hfull
  · have hroom : k.buttons.length < maxButtons := Nat.lt_of_not_le hfull
    have husedIff : k.buttons.any (·.pin == pin) = true ↔ pin ∈ k.buttons.map (·.pin) := by
      simp only [List.any_eq_true, beq_iff_eq, List.mem_map]
    by_cases hused : k.buttons.any (·.pin == pin) = true
    · rw [enroll, register, if_neg hfull, if_pos hused]
      exact .duplicate hroom (husedIff.mp hused)
    · have hacquire := acquisition k.gpio pin id name h
      have hnew := mt husedIff.mpr hused
      rw [enroll, register, if_neg hfull, if_neg hused, Action.bind_apply]
      rcases hresult : acquire k.gpio pin id name h with ⟨e | b, h'⟩
      · rw [hresult] at hacquire
        exact .failed hroom hnew hacquire
      · rw [hresult] at hacquire
        exact .registered hroom hnew hacquire

/-- A button on a new pin is not refused as long as there is room. -/
theorem register_of_new (k : Keypad) {pin : Pin} (id : ButtonId) (name : String) (h : Host)
    (hroom : k.buttons.length < maxButtons) (hnew : pin ∉ k.buttons.map (·.pin)) :
    match k.register pin id name h with
    | (.ok k', _) => k'.buttons.map (·.pin) = k.buttons.map (·.pin) ++ [pin]
    | (.error e, _) => ∃ fault, e = .gpio pin fault := by
  have hreg := k.registration pin id name h
  rw [enroll] at hreg
  rcases hresult : k.register pin id name h with ⟨e | k', h'⟩
  · rw [hresult] at hreg
    cases hreg with
    | full hfull => exact absurd hroom (Nat.not_lt.mpr hfull)
    | duplicate _ hused => exact absurd hused hnew
    | failed _ _ hacquire =>
      -- a line fails when it is taken or when it is set up
      obtain ⟨⟩ | ⟨⟩ := hacquire
      · exact ⟨_, rfl⟩
      · exact ⟨_, rfl⟩
  · rw [hresult] at hreg
    cases hreg with
    | registered _ _ hacquire =>
      obtain ⟨⟩ | ⟨⟩ | ⟨hface, -, -, -⟩ := hacquire
      show List.map (·.pin) (k.buttons ++ [_]) = _
      rw [List.map_append, List.map_singleton]
      exact congrArg (k.buttons.map (·.pin) ++ [·]) (congrArg Prod.fst hface)

/-! ### Histories -/

/-- Something that is asked of a keypad. -/
inductive Task where
  | register (pin : Pin) (id : ButtonId) (name : String)
  | edge (index : Nat)
deriving DecidableEq, Repr

/-- The keypad after a task, whatever came of it. -/
def attend (k : Keypad) (h : Host) : Task → Keypad
  | .register pin id name => (k.enroll pin id name h).2.1
  | .edge index => (k.respond index h).keypad

/-- The keypad after one task after the other, each of them on the machine as it then is. -/
def after (k : Keypad) (history : List (Task × Host)) : Keypad :=
  history.foldl (fun k (task, h) => k.attend h task) k

/-- What never changes of the buttons, by index. -/
def faces (k : Keypad) : List (Pin × ButtonId × String) := k.buttons.map Button.face

theorem pins_eq (k : Keypad) : k.buttons.map (·.pin) = k.faces.map Prod.fst := by
  rw [faces, List.map_map]
  rfl

/-- There are not too many buttons, and no two are on one pin. -/
structure Sound (k : Keypad) : Prop where
  few : k.buttons.length ≤ maxButtons
  distinct : (k.buttons.map (·.pin)).Nodup

theorem sound_empty (gpio : Gpio) : (empty gpio).Sound := ⟨Nat.zero_le _, List.nodup_nil⟩

/-- Whether a keypad is sound can be seen from the faces of its buttons. -/
theorem Sound.of_faces_eq {k k' : Keypad} (hk : k.Sound) (hfaces : k'.faces = k.faces) :
    k'.Sound where
  few := by
    have hlength := congrArg List.length hfaces
    rw [faces, faces, List.length_map, List.length_map] at hlength
    exact hlength.trans_le hk.few
  distinct := by
    rw [pins_eq, hfaces, ← pins_eq]
    exact hk.distinct

/-- An edge changes the level of a button at most. -/
theorem faces_respond (k : Keypad) (index : Nat) (h : Host) :
    (k.respond index h).keypad.faces = k.faces := by
  rcases respond_cases k index h with ⟨e, hr⟩ | hr | ⟨b, level, hb, -, -, hr⟩
  · rw [hr]
  · rw [hr]
  · rw [hr]
    -- the level is not part of the face, so the face is replaced by itself
    have hset : k.faces.set index b.face = k.faces := by
      obtain ⟨hlt, -⟩ := List.getElem?_eq_some_iff.mp hb
      refine List.ext_getElem? fun i => ?_
      rw [List.getElem?_set]
      split
      · next hindex =>
        subst hindex
        rw [faces, List.length_map, if_pos hlt, List.getElem?_map, hb]
        rfl
      · rfl
    show (k.buttons.set index { b with level }).map Button.face = k.faces
    rw [List.map_set]
    exact hset

/-- A registration adds a button at the end, or none. -/
theorem faces_prefix_attend (k : Keypad) (h : Host) (task : Task) :
    k.faces <+: (k.attend h task).faces := by
  cases task with
  | register pin id name =>
    have hreg := k.registration pin id name h
    rw [attend]
    generalize k.enroll pin id name h = result at hreg
    cases hreg with
    | full => exact List.prefix_rfl
    | duplicate => exact List.prefix_rfl
    | failed => exact List.prefix_rfl
    | @registered _ _ b =>
      refine ⟨[b.face], ?_⟩
      rw [faces, faces, List.map_append]
      rfl
  -- an edge may change a level, which is no part of a face
  | edge index =>
    have hfaces : (k.attend h (.edge index)).faces = k.faces := k.faces_respond index h
    exact ⟨[], (List.append_nil _).trans hfaces.symm⟩

theorem Sound.attend {k : Keypad} (hk : k.Sound) (h : Host) (task : Task) :
    (k.attend h task).Sound := by
  cases task with
  | register pin id name =>
    have hreg := k.registration pin id name h
    rw [Keypad.attend]
    generalize k.enroll pin id name h = result at hreg
    cases hreg with
    | full => exact hk
    | duplicate => exact hk
    | failed => exact hk
    | @registered hroom hnew b h' hacquire =>
      obtain ⟨⟩ | ⟨⟩ | ⟨hface, -, -, -⟩ := hacquire
      -- the new button is on the pin that was asked for, which no other button is on
      have hpin : b.pin = pin := congrArg Prod.fst hface
      refine ⟨?_, ?_⟩
      · show (k.buttons ++ [b]).length ≤ maxButtons
        rw [List.length_append]
        exact hroom
      · show ((k.buttons ++ [b]).map (·.pin)).Nodup
        rw [List.map_append, List.map_singleton, hpin, List.nodup_append_comm]
        exact List.nodup_cons.mpr ⟨hnew, hk.distinct⟩
  | edge index => exact hk.of_faces_eq (k.faces_respond index h)

theorem after_append (k : Keypad) (earlier later : List (Task × Host)) :
    k.after (earlier ++ later) = (k.after earlier).after later := List.foldl_append ..

theorem Sound.after {k : Keypad} (hk : k.Sound) (history : List (Task × Host)) :
    (k.after history).Sound := by
  induction history generalizing k with
  | nil => exact hk
  | cons step history ih => exact ih (hk.attend step.2 step.1)

theorem faces_prefix_after (k : Keypad) (history : List (Task × Host)) :
    k.faces <+: (k.after history).faces := by
  induction history generalizing k with
  | nil => exact List.prefix_rfl
  | cons step history ih => exact (k.faces_prefix_attend step.2 step.1).trans (ih _)

/-- **Registration is atomic, and no button becomes another one.** A keypad that was empty has been
through any history of registrations and edges, each of them on a machine that may have changed in
any way since the one before. Then it has three buttons at most, on pins of their own; the buttons
that it had at any moment before are still at their indices, with the pins, the keys and the names
that they were registered with; an edge adds none and takes none away. A further registration either
leaves all buttons as they are, their levels included, or adds one at the end and answers with its
index. It refuses a full keypad first and a pin in use next, both without asking anything of the
machine; a line that could not be set up was taken once and given back once, granted or not; and the
level of a new button is the one that its value file shows. -/
theorem registration_atomic (gpio : Gpio) (history : List (Task × Host)) :
    let k := (empty gpio).after history
    k.Sound ∧
    (∀ earlier, earlier <+: history → ((empty gpio).after earlier).faces <+: k.faces) ∧
    (∀ index h, (k.respond index h).keypad.faces = k.faces) ∧
    ∀ pin id name h, Registration k pin id name h (k.enroll pin id name h) := by
  refine ⟨(sound_empty gpio).after history, ?_, faces_respond _, registration _⟩
  rintro earlier ⟨later, rfl⟩
  rw [after_append]
  exact faces_prefix_after _ later

end Keypad

end FanControl
