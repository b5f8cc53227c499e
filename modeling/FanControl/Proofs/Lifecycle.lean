import FanControl.Proofs.Release
import Mathlib.Algebra.Order.Group.Multiset

/-!
# A daemon gives back what it took

There are five ways in which putting a daemon together can end (`Daemon.Outcome`). In four of them
it fails, and what was taken until then is given back; in the fifth there is a daemon, which keeps
what it holds through any run (`Daemon.Runs`) and gives it back when it is closed.
`Daemon.everything_released` is the law for all of this.
-/

namespace FanControl.Daemon

open Host

variable {base : List Access} {before held : Multiset Resource} {h h' : Host} {s : Settings}

/-! ### The lamp, if there is one -/

/-- The line of the lamp. -/
def lampHolds : Option Lamp → Multiset Resource
  | some lamp => {.line lamp.pin}
  | none => 0

theorem openLamp_owes (gpio : Gpio) (pin? : Option Pin) (howes : Owes base before held h) :
    match openLamp gpio pin? h with
    | (.ok lamp, h') => Owes base before (lampHolds lamp + held) h'
    | (.error _, h') => Owes base before held h' := by
  rcases pin? with _ | pin
  · -- no lamp, nothing to hold
    show Owes base before (0 + held) h
    rwa [zero_add]
  · have hacquire := Lamp.acquire_owes gpio pin howes
    rw [openLamp, Action.bind_apply]
    rcases hresult : Lamp.acquire gpio pin h with ⟨e | lamp, h₁⟩
    · rw [hresult] at hacquire
      exact hacquire
    · rw [hresult] at hacquire
      obtain ⟨-, rfl, hacquire⟩ := hacquire
      exact hacquire

theorem closeLamp_owes (lamp : Option Lamp) (howes : Owes base before (lampHolds lamp + held) h) :
    Owes base before held (closeLamp lamp h).2 := by
  rcases lamp with _ | lamp
  · exact (zero_add held) ▸ howes
  · exact lamp.close_owes howes

theorem closeLamp_suffix (lamp : Option Lamp) (h : Host) :
    h.trace <:+ (closeLamp lamp h).2.trace :=
  (closeLamp_owes lamp (Owes.start h (lampHolds lamp + 0))).suffix

theorem closeLamp_directories (lamp : Option Lamp) (h : Host) :
    h.tree.SameDirectories (closeLamp lamp h).2.tree := by
  rcases lamp with _ | lamp
  · exact .refl _
  · exact lamp.close_directories h

/-! ### Putting together -/

/-- The loop of a daemon whose parts were all taken, before its first refresh. -/
def joined (s : Settings) (lamp : Option Lamp) (keypad : Keypad) (pipe : CommandPipe) (h : Host) :
    EventLoop Host :=
  { controller := controller s.attributes (lamp.map Lamp.switch), keypad, pipe
    console := .initial h, refreshEvery := max 1 s.refreshEvery.toNat
    refreshEvery_pos := by omega, ticks := 0 }

/-- A daemon that was just put together from these parts. -/
def complete (s : Settings) (lamp : Option Lamp) (keypad : Keypad) (pipe : CommandPipe)
    (readiness : Readiness Source) (h : Host) : Daemon :=
  { loop := (joined s lamp keypad pipe h).refresh, lamp, readiness
    timeout := .ofMillis s.waitMillis }

/-- How putting a daemon together can end, and how the machine is left. -/
inductive Outcome (s : Settings) (h : Host) : Except Error Daemon → Host → Prop where
  /-- The lamp cannot be set up. -/
  | noLamp {e h₁} (hlamp : openLamp ⟨s.gpioBase⟩ s.ledPin h = (.error e, h₁)) :
    Outcome s h (.error e) h₁
  /-- A button cannot be registered. -/
  | noButton {lamp h₁ e keypad h₂}
    (hlamp : openLamp ⟨s.gpioBase⟩ s.ledPin h = (.ok lamp, h₁))
    (hbuttons : registerAll (.empty ⟨s.gpioBase⟩) s.buttons h₁ = (some e, keypad, h₂)) :
    Outcome s h (.error e) (closeLamp lamp (keypad.close h₂).2).2
  /-- The pipe cannot be made. -/
  | noPipe {lamp h₁ keypad h₂ e entries h₃}
    (hlamp : openLamp ⟨s.gpioBase⟩ s.ledPin h = (.ok lamp, h₁))
    (hbuttons : registerAll (.empty ⟨s.gpioBase⟩) s.buttons h₁ = (none, keypad, h₂))
    (hpipe : CommandPipe.create s.pipe h₂ = (.error e, entries, h₃)) :
    Outcome s h (.error e) (closeLamp lamp (keypad.close h₃).2).2
  /-- The sources cannot be watched. -/
  | noWatch {lamp h₁ keypad h₂ pipe entries h₃ e}
    (hlamp : openLamp ⟨s.gpioBase⟩ s.ledPin h = (.ok lamp, h₁))
    (hbuttons : registerAll (.empty ⟨s.gpioBase⟩) s.buttons h₁ = (none, keypad, h₂))
    (hpipe : CommandPipe.create s.pipe h₂ = (.ok pipe, entries, h₃)) :
    Outcome s h (.error e) (keypad.close (pipe.close (closeLamp lamp h₃).2).2).2
  | complete {lamp h₁ keypad h₂ pipe entries h₃ readiness}
    (hlamp : openLamp ⟨s.gpioBase⟩ s.ledPin h = (.ok lamp, h₁))
    (hbuttons : registerAll (.empty ⟨s.gpioBase⟩) s.buttons h₁ = (none, keypad, h₂))
    (hpipe : CommandPipe.create s.pipe h₂ = (.ok pipe, entries, h₃)) :
    Outcome s h (.ok (complete s lamp keypad pipe readiness h₃)) h₃

theorem outcome_build (s : Settings) (h : Host) : Outcome s h (build s h).1 (build s h).2.2 := by
  rw [build]
  -- one case for each step that can fail, in the order in which they are made
  rcases hlamp : openLamp ⟨s.gpioBase⟩ s.ledPin h with ⟨e | lamp, h₁⟩
  · exact .noLamp hlamp
  · rcases hbuttons : registerAll (.empty ⟨s.gpioBase⟩) s.buttons h₁ with ⟨_ | e, keypad, h₂⟩
    · rcases hpipe : CommandPipe.create s.pipe h₂ with ⟨e | pipe, entries, h₃⟩
      · simp only [hbuttons, hpipe]
        exact .noPipe hlamp hbuttons hpipe
      · simp only [hbuttons, hpipe, assemble]
        -- everything is taken, and only watching the sources can fail now
        rcases watch keypad pipe h₃ with e | readiness
        · exact .noWatch hlamp hbuttons hpipe
        · exact .complete hlamp hbuttons hpipe
    · simp only [hbuttons]
      exact .noButton hlamp hbuttons

/-- What a daemon holds. -/
def holds (d : Daemon) : Multiset Resource :=
  .pipe d.loop.pipe.path ::ₘ (lampHolds d.lamp + d.loop.keypad.holds)

section

variable {lamp : Option Lamp} {h₁ h₂ h₃ : Host} {gpio : Gpio} {specs : List ButtonSpec}
  {result : Option Error} {keypad : Keypad} {path : String} {pipe : CommandPipe}
  {entries : List LogEntry}

theorem registerAll_empty_owes (howes : Owes base before held h₁)
    (hbuttons : registerAll (.empty gpio) specs h₁ = (result, keypad, h₂)) :
    Owes base before (keypad.holds + held) h₂ := by
  -- a keypad without buttons holds nothing yet
  have hempty : Owes base before ((Keypad.empty gpio).holds + held) h₁ := by
    show Owes base before (0 + held) h₁
    rwa [zero_add]
  have hregistered := (Keypad.registerAll_owes specs (.empty gpio) hempty).2
  rwa [hbuttons] at hregistered

theorem create_ok_owes (howes : Owes base before held h₂)
    (hpipe : CommandPipe.create path h₂ = (.ok pipe, entries, h₃)) :
    pipe.path = path ∧ Owes base before (.pipe path ::ₘ held) h₃ := by
  have hcreate := CommandPipe.create_owes path howes
  rwa [hpipe] at hcreate

theorem create_error_owes {e : Error} (howes : Owes base before held h₂)
    (hpipe : CommandPipe.create path h₂ = (.error e, entries, h₃)) : Owes base before held h₃ := by
  have hcreate := CommandPipe.create_owes path howes
  rwa [hpipe] at hcreate

/-- The order in which a daemon that cannot watch its sources gives everything back. -/
theorem unwind_owes
    (howes : Owes base before (.pipe pipe.path ::ₘ (keypad.holds + (lampHolds lamp + held))) h₃) :
    Owes base before held (keypad.close (pipe.close (closeLamp lamp h₃).2).2).2 := by
  refine keypad.close_owes (pipe.close_owes (closeLamp_owes lamp ?_))
  -- the pipe and the buttons are given back in the other order than they were taken
  rwa [Multiset.add_cons, add_left_comm]

/-- The order in which a daemon that ends gives everything back. -/
theorem close_owes (d : Daemon) (howes : Owes base before (d.holds + held) d.loop.console.world) :
    Owes base before held d.close.2 := by
  refine closeLamp_owes d.lamp (d.loop.pipe.close_owes (d.loop.keypad.close_owes ?_))
  rwa [holds, Multiset.cons_add, add_right_comm, add_comm (lampHolds d.lamp + held),
    ← Multiset.add_cons] at howes

end

/-! ### Runs -/

/-- The controller keeps what writing to a file and driving a line keep. -/
theorem controller_keeps {P : Host → Prop}
    (hreplace : ∀ (h : Host) path bytes t, h.tree.replace path bytes = .ok t → P h →
      P { h with tree := t })
    (hwrite : ∀ (g : Gpio) pin high, (g.write pin high).Keeps P)
    (attributes : AttributePaths) (lamp : Option Lamp) :
    (controller attributes (lamp.map Lamp.switch)).Keeps P where
  read attr := (Action.Keeps.query _).bind fun _ => .pure _
  write attr value := by
    by_cases hattr : attr.isWritable = true
    · -- the only access that changes files
      intro h hP
      show P (attributes.write attr value h).2
      rw [AttributePaths.write, if_pos hattr, edit]
      split
      · next t ht => exact hreplace h _ _ t ht hP
      · exact hP
    · show (attributes.write attr value).Keeps P
      rw [AttributePaths.write, if_neg hattr]
      exact .fail _
  lamp l hl on := by
    -- every order to the lamp is a drive of its line
    obtain ⟨lamp, -, rfl⟩ := Option.map_eq_some_iff.mp hl
    exact hwrite lamp.gpio lamp.pin on

/-- A run of a daemon. Between two turns the machine may change in any way that is allowed for its
files, except that nobody else's requests are in its trace. -/
inductive Runs (allowed : FileTree → FileTree → Prop) (d : Daemon) : Daemon → Prop where
  | start : Runs allowed d d
  | outside {d'} (hrun : Runs allowed d d') (w : Host)
    (htrace : w.trace = d'.loop.console.world.trace)
    (htree : allowed d'.loop.console.world.tree w.tree) :
    Runs allowed d { d' with loop := d'.loop.withWorld w }
  | notice {d'} (hrun : Runs allowed d d') : Runs allowed d d'.notice
  | turn {d'} (hrun : Runs allowed d d') (otherwise : Wake Source) :
    Runs allowed d (d'.runOnce otherwise)
  | report {d'} (hrun : Runs allowed d d') (entry : LogEntry) : Runs allowed d (d'.report entry)

section

variable {allowed : FileTree → FileTree → Prop} {d d' : Daemon}

theorem Runs.turns (hrun : Runs allowed d d') (stop : Daemon → Bool) (fuel : Nat) :
    Runs allowed d (turns stop fuel d') := by
  induction fuel generalizing d' with
  | zero => exact hrun
  | succ fuel ih =>
    rw [Daemon.turns]
    split
    · exact hrun
    · exact ih (hrun.turn .timedOut)

/-- A run until something holds is a run. -/
theorem Runs.run (d : Daemon) (stop : Daemon → Bool) (fuel : Nat) :
    Runs allowed d (d.run stop fuel) :=
  .report ((Runs.start.report _).turns stop fuel) _

/-- **A run keeps what every access keeps**, and what the daemon was put together from. -/
theorem Runs.keeps {P : Host → Prop} (hk : d.loop.controller.Keeps P)
    (hdrain : ∀ (h : Host) node, P h → P { h with tree := (h.tree.drainPipe node).2 })
    (houtside : ∀ h w : Host, w.trace = h.trace → allowed h.tree w.tree → P h → P w)
    (hP : P d.loop.console.world) (hrun : Runs allowed d d') :
    d'.lamp = d.lamp ∧ d'.loop.Keeps P d.loop.equipment := by
  induction hrun with
  | start => exact ⟨rfl, rfl, hP⟩
  | outside hrun w htrace htree ih =>
    exact ⟨ih.1, ih.2.equipment, houtside _ w htrace htree ih.2.world⟩
  | notice hrun ih => exact ih
  | turn hrun otherwise ih =>
    -- reading a source is the one thing in a turn that is not an access of the controller
    refine ⟨ih.1, ih.2.turn hk (fun l source hl => ?_) _⟩
    cases source with
    | pipe => exact hdrain _ _ hl
    | button index => exact hl
  | report hrun entry ih => exact ⟨ih.1, ih.2.equipment, ih.2.world⟩

end

/-! ### The whole life of a daemon -/

section

variable {allowed : FileTree → FileTree → Prop} {lamp : Option Lamp} {keypad : Keypad}
  {pipe : CommandPipe} {readiness : Readiness Source} {h₁ h₂ h₃ : Host} {e : Error}
  {entries : List LogEntry} {d : Daemon}

/-- What a run keeps holds from the moment at which the pipe was there. -/
theorem Runs.keeps_complete {P : Host → Prop}
    (hreplace : ∀ (h : Host) path bytes t, h.tree.replace path bytes = .ok t → P h →
      P { h with tree := t })
    (hwrite : ∀ (g : Gpio) pin high, (g.write pin high).Keeps P)
    (hdrain : ∀ (h : Host) node, P h → P { h with tree := (h.tree.drainPipe node).2 })
    (houtside : ∀ h w : Host, w.trace = h.trace → allowed h.tree w.tree → P h → P w)
    (hP : P h₃) (hrun : Runs allowed (complete s lamp keypad pipe readiness h₃) d) :
    P d.loop.console.world ∧ d.lamp = lamp ∧ d.loop.keypad.holds = keypad.holds ∧
      d.loop.pipe.path = pipe.path := by
  have hk := controller_keeps hreplace hwrite s.attributes lamp
  -- the run starts behind the first refresh, which keeps the property as well
  have hfresh : (joined s lamp keypad pipe h₃).Keeps P (joined s lamp keypad pipe h₃).equipment :=
    ⟨rfl, hP⟩
  obtain ⟨hlamp, hloop⟩ := hrun.keeps hk hdrain houtside (hfresh.refresh hk).world
  -- no turn registers a button, so the lines that are held are those of the start
  have hpins : d.loop.keypad.buttons.map Button.pin = keypad.buttons.map Button.pin :=
    congrArg EventLoop.Equipment.pins hloop.equipment
  refine ⟨hloop.world, hlamp, ?_, congrArg EventLoop.Equipment.path hloop.equipment⟩
  rw [Keypad.holds, hpins, Keypad.holds]

/-- A run takes nothing and gives nothing back. -/
theorem Runs.owes (howes : Owes base before held h₃)
    (hrun : Runs allowed (complete s lamp keypad pipe readiness h₃) d) :
    Owes base before held d.loop.console.world ∧ d.lamp = lamp ∧
      d.loop.keypad.holds = keypad.holds ∧ d.loop.pipe.path = pipe.path :=
  hrun.keeps_complete (fun _ _ _ _ _ h => h.of_trace_eq rfl) Gpio.write_keeps
    (fun _ _ h => h.of_trace_eq rfl) (fun _ _ htrace _ h => h.of_trace_eq htrace) howes

/-- Without changes of the directories from outside, a run changes none. -/
theorem Runs.directories (hallowed : ∀ t t', allowed t t' → t.SameDirectories t')
    (hrun : Runs allowed (complete s lamp keypad pipe readiness h₃) d) :
    h₃.tree.SameDirectories d.loop.console.world.tree := by
  have hkept := hrun.keeps_complete (P := fun w => h₃.tree.SameDirectories w.tree)
    (fun _ _ _ _ ht h => h.trans (FileTree.replace_directories ht))
    (fun g pin high w h => h.trans (g.write_directories pin high w))
    (fun w node h => h.trans (w.tree.drainPipe_directories node))
    (fun _ _ _ htree h => h.trans (hallowed _ _ htree)) (.refl _)
  exact hkept.1

/-- What a failed attempt to put a daemon together leaves: everything was given back; a lamp that
was taken was switched off before; a pipe that was made is gone. -/
structure GivesUp (s : Settings) (h h' : Host) : Prop where
  settled : h'.Settled h.trace
  dark : ∀ lamp h₁, openLamp ⟨s.gpioBase⟩ s.ledPin h = (.ok (some lamp), h₁) →
    h'.SwitchedOff h₁.trace lamp.pin
  removed : ∀ lamp h₁ keypad h₂ pipe entries h₃,
    openLamp ⟨s.gpioBase⟩ s.ledPin h = (.ok lamp, h₁) →
    registerAll (.empty ⟨s.gpioBase⟩) s.buttons h₁ = (none, keypad, h₂) →
    CommandPipe.create s.pipe h₂ = (.ok pipe, entries, h₃) → h'.PipeRemoved h₃.trace s.pipe

theorem Outcome.givesUp (hout : Outcome s h (.error e) h') : GivesUp s h h' := by
  have hstart : Owes h.trace 0 0 h := .start h 0
  -- In each case the ledger is followed from the start up to the last release. What is said of
  -- a later step is void if that step was not reached.
  cases hout with
  | noLamp hlamp =>
    have howes := openLamp_owes ⟨s.gpioBase⟩ s.ledPin hstart
    rw [hlamp] at howes
    refine ⟨howes.settled, fun lamp h₁ hlamp' => ?_, fun lamp h₁ _ _ _ _ _ hlamp' => ?_⟩
    · cases hlamp.symm.trans hlamp'
    · cases hlamp.symm.trans hlamp'
  | @noButton lamp h₁ _ keypad h₂ hlamp hbuttons =>
    have howes := openLamp_owes ⟨s.gpioBase⟩ s.ledPin hstart
    rw [hlamp] at howes
    refine ⟨?_, fun lamp' h₁' hlamp' => ?_, fun lamp' h₁' keypad' h₂' _ _ _ hlamp' hbuttons' => ?_⟩
    · -- the buttons up to the failure go first, and then the lamp
      have htaken := registerAll_empty_owes howes hbuttons
      exact (closeLamp_owes lamp (keypad.close_owes htaken)).settled
    · -- since the lamp was taken the trace has only grown, and the lamp is closed last
      cases hlamp.symm.trans hlamp'
      have hlater := keypad.close_owes (registerAll_empty_owes (.start h₁ 0) hbuttons)
      exact lamp'.close_switchedOff hlater.suffix
    · cases hlamp.symm.trans hlamp'
      cases hbuttons.symm.trans hbuttons'
  | @noPipe lamp h₁ keypad h₂ _ _ h₃ hlamp hbuttons hpipe =>
    have howes := openLamp_owes ⟨s.gpioBase⟩ s.ledPin hstart
    rw [hlamp] at howes
    refine ⟨?_, fun lamp' h₁' hlamp' => ?_,
      fun lamp' h₁' keypad' h₂' _ _ _ hlamp' hbuttons' hpipe' => ?_⟩
    · -- a pipe that could not be created is nothing to give back
      have htaken := create_error_owes (registerAll_empty_owes howes hbuttons) hpipe
      exact (closeLamp_owes lamp (keypad.close_owes htaken)).settled
    · cases hlamp.symm.trans hlamp'
      have htaken := create_error_owes (registerAll_empty_owes (.start h₁ 0) hbuttons) hpipe
      exact lamp'.close_switchedOff (keypad.close_owes htaken).suffix
    · cases hlamp.symm.trans hlamp'
      cases hbuttons.symm.trans hbuttons'
      cases hpipe.symm.trans hpipe'
  | @noWatch lamp h₁ keypad h₂ pipe _ h₃ _ hlamp hbuttons hpipe =>
    have howes := openLamp_owes ⟨s.gpioBase⟩ s.ledPin hstart
    rw [hlamp] at howes
    refine ⟨?_, fun lamp' h₁' hlamp' => ?_,
      fun lamp' h₁' keypad' h₂' _ _ _ hlamp' hbuttons' hpipe' => ?_⟩
    · -- here the lamp goes first, then the pipe, then the buttons
      obtain ⟨hpath, htaken⟩ := create_ok_owes (registerAll_empty_owes howes hbuttons) hpipe
      rw [← hpath] at htaken
      exact (unwind_owes htaken).settled
    · cases hlamp.symm.trans hlamp'
      have htaken := (create_ok_owes (registerAll_empty_owes (.start h₁ 0) hbuttons) hpipe).2
      exact (lamp'.close_switchedOff htaken.suffix).later
        ((pipe.close_suffix _).trans (keypad.close_suffix _))
    · cases hlamp.symm.trans hlamp'
      cases hbuttons.symm.trans hbuttons'
      cases hpipe.symm.trans hpipe'
      obtain ⟨⟨lead, name, hentry⟩, hlocate, hfile⟩ := CommandPipe.create_locates hpipe
      have hpath : pipe.path = s.pipe :=
        (create_ok_owes (registerAll_empty_owes (.start h₁ 0) hbuttons) hpipe).1
      -- closing the lamp moved nothing, so the pipe is still at its path when it is removed
      have hsame := closeLamp_directories lamp h₃
      rw [← hpath] at hentry hlocate ⊢
      exact (pipe.close_pipeRemoved hentry (hsame.within.locate hlocate)
        ((hsame.isDirectory _).trans hfile) (closeLamp_suffix lamp h₃)).later
        (keypad.close_suffix _) (keypad.close_directories _)

/-- What closing a daemon leaves after a run in which the files changed as allowed: everything was
given back; the lamp was switched off before; the pipe is gone if there still was a file at its
path, which there was if the directories were left alone. -/
structure ShutsDown (s : Settings) (h : Host) (allowed : FileTree → FileTree → Prop)
    (d : Daemon) : Prop where
  settled : d.close.2.Settled h.trace
  dark : ∀ lamp h₁, openLamp ⟨s.gpioBase⟩ s.ledPin h = (.ok (some lamp), h₁) →
    d.close.2.SwitchedOff h₁.trace lamp.pin
  removed : ∀ id, d.loop.console.world.tree.locate s.pipe = .ok id →
    d.loop.console.world.tree.isDirectory id = false → d.close.2.PipeRemoved h.trace s.pipe
  removed_if_quiet : (∀ t t', allowed t t' → t.SameDirectories t') →
    d.close.2.PipeRemoved h.trace s.pipe

theorem close_pipeRemoved (d : Daemon) {lead : List PathStep} {name : String} {id : NodeId}
    (hentry : FileTree.NamesEntry d.loop.pipe.path lead name)
    (hlocate : d.loop.console.world.tree.locate d.loop.pipe.path = .ok id)
    (hfile : d.loop.console.world.tree.isDirectory id = false)
    (hsuffix : base <:+ d.loop.console.world.trace) :
    PipeRemoved base d.loop.pipe.path d.close.2 := by
  have hsame := d.loop.keypad.close_directories d.loop.console.world
  have hremoved := d.loop.pipe.close_pipeRemoved hentry (hsame.within.locate hlocate)
    ((hsame.isDirectory id).trans hfile)
    (hsuffix.trans (d.loop.keypad.close_suffix d.loop.console.world))
  exact hremoved.later (closeLamp_suffix d.lamp _) (closeLamp_directories d.lamp _)

theorem Runs.shutsDown (hlamp : openLamp ⟨s.gpioBase⟩ s.ledPin h = (.ok lamp, h₁))
    (hbuttons : registerAll (.empty ⟨s.gpioBase⟩) s.buttons h₁ = (none, keypad, h₂))
    (hpipe : CommandPipe.create s.pipe h₂ = (.ok pipe, entries, h₃))
    (hrun : Runs allowed (complete s lamp keypad pipe readiness h₃) d) :
    ShutsDown s h allowed d := by
  have howes := openLamp_owes ⟨s.gpioBase⟩ s.ledPin (.start h 0)
  rw [hlamp] at howes
  obtain ⟨hpath, htaken⟩ := create_ok_owes (registerAll_empty_owes howes hbuttons) hpipe
  -- what was taken is still owed after the run, by the same lamp, keypad and pipe
  obtain ⟨hworld, hdlamp, hdkeypad, hdpipe⟩ := hrun.owes htaken
  obtain ⟨⟨lead, name, hentry⟩, hlocate, hfile⟩ := CommandPipe.create_locates hpipe
  have hdpath : d.loop.pipe.path = s.pipe := hdpipe.trans hpath
  have hremoved : ∀ id, d.loop.console.world.tree.locate s.pipe = .ok id →
      d.loop.console.world.tree.isDirectory id = false →
      d.close.2.PipeRemoved h.trace s.pipe := by
    intro id hstill hfile
    have hclosed := d.close_pipeRemoved (hdpath ▸ hentry) (hdpath ▸ hstill) hfile hworld.suffix
    rwa [hdpath] at hclosed
  refine ⟨?_, fun lamp' h₁' hlamp' => ?_, hremoved, fun hquiet => ?_⟩
  · refine (d.close_owes ?_).settled
    rw [holds, hdpath, hdlamp, hdkeypad, add_zero]
    rwa [add_zero, add_comm] at hworld
  · cases hlamp.symm.trans hlamp'
    have hlater := (create_ok_owes (registerAll_empty_owes (.start h₁ 0) hbuttons) hpipe).2
    -- the lamp is closed last, and all that happened since it was taken lies before that
    have hsuffix := (hrun.owes hlater).1.suffix
    have hclose : d.close.2 = (lamp'.close (d.loop.pipe.close
        (d.loop.keypad.close d.loop.console.world).2).2).2 := by
      rw [← show closeLamp d.lamp = lamp'.close by rw [hdlamp]; rfl]
      rfl
    rw [hclose]
    exact lamp'.close_switchedOff ((hsuffix.trans (d.loop.keypad.close_suffix _)).trans
      (d.loop.pipe.close_suffix _))
  · -- the run left the directories alone, so the path leads where it led when the pipe was made
    have hsame := hrun.directories hquiet
    exact hremoved _ (hsame.within.locate hlocate) ((hsame.isDirectory _).trans hfile)

end

/-- **Everything that was taken is given back**, whatever the settings and the files are. If a
daemon cannot be put together, what was taken on the way was given back; if it can, what it holds
after any run is given back when it is closed. In both cases a line that is given back was taken as
often as that and before, the lamp is switched off before its line is given back, and the pipe is
removed; and none of this depends on whether a request on the way was granted. -/
theorem everything_released (s : Settings) (h : Host) :
    match build s h with
    | (.error _, _, h') => GivesUp s h h'
    | (.ok d, _, _) => ∀ allowed d', Runs allowed d d' → ShutsDown s h allowed d' := by
  have hout := outcome_build s h
  rcases hbuild : build s h with ⟨e | d, entries, h'⟩
  · rw [hbuild] at hout
    exact hout.givesUp
  · rw [hbuild] at hout
    change Outcome s h (.ok d) h' at hout
    intro allowed d' hrun
    cases hout with
    | complete hlamp hbuttons hpipe => exact hrun.shutsDown hlamp hbuttons hpipe

/-- The second button has no level to read, and no line can be given back. What was taken before is
tried in turn all the same. -/
example :
    let tree : FileTree :=
      ⟨#[.directory 0 [("export", 1), ("gpio9", 2), ("gpio5", 5), ("gpio6", 9)], .file [],
        .directory 0 [("direction", 3), ("value", 4)], .file [], .file [],
        .directory 0 [("direction", 6), ("edge", 7), ("value", 8)], .file [], .file [], .file [48],
        .directory 0 [("direction", 10), ("edge", 11), ("value", 12)], .file [], .file [],
        .file []], 0⟩
    let s : Settings :=
      { Settings.standard with
        gpioBase := ".", ledPin := some 9
        buttons := [Settings.keyButton 5 .k1, Settings.keyButton 6 .k2] }
    (build s (.ofTree tree)).2.2.trace.reverse =
      [⟨.exportPin 9, true⟩, ⟨.drivePin 9 false, true⟩, ⟨.exportPin 5, true⟩,
        ⟨.exportPin 6, true⟩, ⟨.unexportPin 6, false⟩, ⟨.unexportPin 5, false⟩,
        ⟨.drivePin 9 false, true⟩, ⟨.unexportPin 9, false⟩] := by
  rfl

end FanControl.Daemon
