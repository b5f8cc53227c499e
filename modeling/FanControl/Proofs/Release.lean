import FanControl.Proofs.Registration
import Mathlib.Data.Multiset.AddSub

/-!
# Taking and giving back

The lamp, the keypad and the pipe as entries of the ledger. What is set up half way is given back
on the spot (`Lamp.acquire_owes`, `Keypad.register_owes`); closing gives everything back, whatever
fails on the way (`Lamp.close_owes`, `Keypad.close_owes`, `CommandPipe.close_owes`). Moreover, a
lamp is switched off before its line is given back (`Lamp.close_switchedOff`), and a pipe that is
still at its path is removed from there (`CommandPipe.close_pipeRemoved`).
-/

namespace FanControl

open Host

variable {base : List Access} {before held : Multiset Resource} {h h' : Host}

/-! ### The lamp -/

namespace Lamp

/-- A lamp that could not be set up has given its line back. -/
theorem acquire_owes (gpio : Gpio) (pin : Pin) (howes : Owes base before held h) :
    match acquire gpio pin h with
    | (.ok l, h') => l.gpio = gpio ∧ l.pin = pin ∧ Owes base before (.line pin ::ₘ held) h'
    | (.error _, h') => Owes base before held h' := by
  have hexport := gpio.exportPin_owes pin howes
  -- the line is held from here on, and setting it up gives nothing back
  have hsetup : (do gpio.setDirection pin .output; gpio.write pin false : Action Host Unit).Keeps
      (Owes base before (.line pin ::ₘ held)) :=
    (Gpio.put_keeps _ _ _ _).bind fun _ => gpio.write_keeps pin false
  rw [acquire, Action.bind_apply]
  rcases hexported : gpio.exportPin pin h with ⟨e | _, h₁⟩
  · rw [hexported] at hexport
    exact hexport
  · rw [hexported] at hexport
    have hset := hsetup h₁ hexport
    dsimp only
    rw [Action.bind_apply, Action.attempt]
    rcases hresult : (do gpio.setDirection pin .output; gpio.write pin false : Action Host Unit) h₁
      with ⟨e | _, h₂⟩
    · rw [hresult] at hset
      exact gpio.unexportPin_owes pin hset
    · rw [hresult] at hset
      exact ⟨rfl, rfl, hset⟩

theorem close_snd (l : Lamp) (h : Host) :
    (l.close h).2 = (l.gpio.unexportPin l.pin (l.gpio.write l.pin false h).2).2 := by
  rw [close, switch]

/-- The line of a lamp is given back, whatever fails on the way. -/
theorem close_owes (l : Lamp) (howes : Owes base before (.line l.pin ::ₘ held) h) :
    Owes base before held (l.close h).2 := by
  rw [close_snd]
  exact l.gpio.unexportPin_owes l.pin (l.gpio.write_keeps l.pin false h howes)

theorem trace_close (l : Lamp) (h : Host) :
    ∃ released dark, (l.close h).2.trace =
      ⟨.unexportPin l.pin, released⟩ :: ⟨.drivePin l.pin false, dark⟩ :: h.trace := by
  rw [close_snd, Gpio.trace_unexportPin, Gpio.trace_write]
  exact ⟨_, _, rfl⟩

end Lamp

/-- Since the trace was `base`, a lamp was switched off and then its line was given back. -/
def Host.SwitchedOff (base : List Access) (pin : Pin) (h : Host) : Prop :=
  ∃ later released dark earlier,
    h.trace = later ++ ⟨.unexportPin pin, released⟩ :: ⟨.drivePin pin false, dark⟩ ::
      (earlier ++ base)

theorem Host.SwitchedOff.later {pin : Pin} (hoff : SwitchedOff base pin h)
    (hsuffix : h.trace <:+ h'.trace) : SwitchedOff base pin h' := by
  obtain ⟨later, released, dark, earlier, htrace⟩ := hoff
  obtain ⟨more, hmore⟩ := hsuffix
  exact ⟨more ++ later, released, dark, earlier, by rw [← hmore, htrace, List.append_assoc]⟩

theorem Lamp.close_switchedOff (l : Lamp) (hsuffix : base <:+ h.trace) :
    SwitchedOff base l.pin (l.close h).2 := by
  obtain ⟨released, dark, htrace⟩ := l.trace_close h
  obtain ⟨earlier, hearlier⟩ := hsuffix
  exact ⟨[], released, dark, earlier, by rw [htrace, ← hearlier, List.nil_append]⟩

/-! ### Directories -/

theorem Host.edit_directories (path : String) (bytes : List UInt8) (blame : AccessFault → Error)
    (h : Host) : h.tree.SameDirectories (edit (·.replace path bytes) blame h).2.tree := by
  rw [edit]
  split
  · next t hreplace => exact FileTree.replace_directories hreplace
  · exact .refl _

theorem Host.noting_directories {request : Request} {m : Action Host Unit}
    (hm : h.tree.SameDirectories (m h).2.tree) :
    h.tree.SameDirectories (noting request m h).2.tree := hm

theorem Gpio.put_directories (pin : Pin) (path text : String) (fault : AccessFault → GpioFault)
    (h : Host) : h.tree.SameDirectories (put pin path text fault h).2.tree :=
  edit_directories path (bytesOfText text) (fun f => .gpio pin (fault f)) h

/-- Driving a line changes no directory, and neither does giving it back. -/
theorem Gpio.write_directories (g : Gpio) (pin : Pin) (high : Bool) (h : Host) :
    h.tree.SameDirectories (g.write pin high h).2.tree :=
  noting_directories (put_directories ..)

theorem Gpio.unexportPin_directories (g : Gpio) (pin : Pin) (h : Host) :
    h.tree.SameDirectories (g.unexportPin pin h).2.tree :=
  noting_directories (put_directories ..)

theorem Lamp.close_directories (l : Lamp) (h : Host) :
    h.tree.SameDirectories (l.close h).2.tree := by
  rw [Lamp.close_snd]
  exact (l.gpio.write_directories l.pin false h).trans
    (l.gpio.unexportPin_directories l.pin (l.gpio.write l.pin false h).2)

/-! ### The keypad -/

namespace Keypad

/-- The lines of the buttons. -/
def holds (k : Keypad) : Multiset Resource := (k.buttons.map Button.pin).map Resource.line

/-- A button that could not be registered has given its line back. -/
theorem register_owes (k : Keypad) (pin : Pin) (id : ButtonId) (name : String)
    (howes : Owes base before (k.holds + held) h) :
    match k.register pin id name h with
    | (.ok k', h') => k'.gpio = k.gpio ∧ Owes base before (k'.holds + held) h'
    | (.error _, h') => Owes base before (k.holds + held) h' := by
  have htakes : Access.takes (.line pin) ⟨.exportPin pin, true⟩ = true :=
    Access.takes_iff.mpr ⟨rfl, rfl⟩
  have hreg := k.registration pin id name h
  rw [enroll] at hreg
  rcases hresult : k.register pin id name h with ⟨e | k', h'⟩
  · rw [hresult] at hreg
    cases hreg with
    | full => exact howes
    | duplicate => exact howes
    | failed _ _ hacquire =>
      cases hacquire with
      | notExported htrace => exact howes.other (fun _ => rfl) (fun _ => rfl) htrace
      -- the line was taken and given back, in this order
      | rolledBack _ htrace =>
        have htaken : Owes base before (.line pin ::ₘ (k.holds + held))
            { h with trace := ⟨.exportPin pin, true⟩ :: h.trace } := howes.take htakes rfl
        exact htaken.give (Access.gives_iff.mpr rfl) htrace
  · rw [hresult] at hreg
    cases hreg with
    | @registered _ _ b _ hacquire =>
      obtain ⟨⟩ | ⟨⟩ | ⟨hface, -, -, htrace⟩ := hacquire
      have hpin : b.pin = pin := congrArg Prod.fst hface
      -- the order of the buttons does not matter to what is held
      have hholds : Keypad.holds { k with buttons := k.buttons ++ [b] } =
          .line pin ::ₘ k.holds := by
        rw [holds, List.map_append, List.map_append, ← Multiset.coe_add, Multiset.add_comm,
          ← hpin]
        rfl
      refine ⟨rfl, ?_⟩
      show Owes base before (Keypad.holds { k with buttons := k.buttons ++ [b] } + held) h'
      rw [hholds, Multiset.cons_add]
      exact howes.take htakes htrace

/-- The keypad holds the lines of the buttons that were registered, up to the first failure. -/
theorem registerAll_owes (specs : List ButtonSpec) (k : Keypad)
    (howes : Owes base before (k.holds + held) h) :
    (Daemon.registerAll k specs h).2.1.gpio = k.gpio ∧
      Owes base before ((Daemon.registerAll k specs h).2.1.holds + held)
        (Daemon.registerAll k specs h).2.2 := by
  -- what is held so far carries the induction, and a failure leaves it held
  induction specs generalizing k h with
  | nil => exact ⟨rfl, howes⟩
  | cons b bs ih =>
    have hregister := k.register_owes b.pin b.id b.name howes
    rw [Daemon.registerAll]
    rcases hresult : k.register b.pin b.id b.name h with ⟨e | k', h₁⟩
    · rw [hresult] at hregister
      exact ⟨rfl, hregister⟩
    · rw [hresult] at hregister
      obtain ⟨hgpio, hbuttons⟩ := ih k' hregister.2
      exact ⟨hgpio.trans hregister.1, hbuttons⟩

/-- Closing a keypad gives back one line after the other. -/
theorem close_snd (k : Keypad) (h : Host) :
    (k.close h).2 =
      (k.buttons.map Button.pin).foldl (fun h pin => (k.gpio.unexportPin pin h).2) h := by
  rw [close]
  generalize ([] : List LogEntry) = entries
  induction k.buttons generalizing entries h with
  | nil => rfl
  | cons b bs ih => exact ih _ _

theorem close_owes (k : Keypad) (howes : Owes base before (k.holds + held) h) :
    Owes base before held (k.close h).2 := by
  rw [close_snd]
  rw [holds] at howes
  generalize k.buttons.map Button.pin = pins at howes ⊢
  induction pins generalizing h with
  | nil => exact (Multiset.zero_add held) ▸ howes
  | cons pin pins ih =>
    rw [List.map_cons, ← Multiset.cons_coe, Multiset.cons_add] at howes
    exact ih (k.gpio.unexportPin_owes pin howes)

theorem close_directories (k : Keypad) (h : Host) :
    h.tree.SameDirectories (k.close h).2.tree := by
  rw [close_snd]
  induction k.buttons.map Button.pin generalizing h with
  | nil => exact .refl _
  | cons pin pins ih => exact (k.gpio.unexportPin_directories pin h).trans (ih _)

end Keypad

/-! ### The pipe -/

namespace CommandPipe

theorem trace_clearPath (path : String) (h : Host) : (clearPath path h).2.trace = h.trace := by
  rw [clearPath]
  split <;> rfl

/-- A pipe that is ready was taken, and nothing else was. -/
theorem create_owes (path : String) (howes : Owes base before held h) :
    match create path h with
    | (.ok c, _, h') => c.path = path ∧ Owes base before (.pipe path ::ₘ held) h'
    | (.error _, _, h') => Owes base before held h' := by
  have hclear := trace_clearPath path h
  rw [create, Action.bind_apply]
  rcases hcleared : clearPath path h with ⟨e | _, h₁⟩
  · rw [hcleared] at hclear
    exact howes.of_trace_eq hclear
  · rw [hcleared] at hclear
    -- clearing the path takes nothing, whatever was at it
    have hcleared' := howes.of_trace_eq hclear
    dsimp only
    rw [makePipe_apply]
    rcases h₁.tree.makePipe path with f | t
    · exact hcleared'.other (a := ⟨.createPipe path, false⟩) (fun _ => rfl) (fun _ => rfl) rfl
    · exact ⟨rfl, hcleared'.take (a := ⟨.createPipe path, true⟩)
        (Access.takes_iff.mpr ⟨rfl, rfl⟩) rfl⟩

/-- A pipe that is ready is at its path. -/
theorem create_locates {path : String} {c : CommandPipe} {entries : List LogEntry}
    (hcreate : create path h = (.ok c, entries, h')) :
    (∃ lead name, FileTree.NamesEntry path lead name) ∧ h'.tree.locate path = .ok c.node ∧
      h'.tree.isDirectory c.node = false := by
  rw [create] at hcreate
  split at hcreate
  · cases hcreate
  · next node h₂ hresult =>
    cases hcreate
    obtain ⟨_, h₁, -, hmake⟩ := Action.of_bind_eq_ok hresult
    rw [makePipe_apply] at hmake
    rcases hmade : h₁.tree.makePipe path with f | t
    · rw [hmade] at hmake
      cases hmake
    · rw [hmade] at hmake
      cases hmake
      obtain ⟨hentry, hlocate, hnode⟩ := FileTree.makePipe_spec hmade
      -- opening the ends of the pipe left all directories as they were
      have hsame := FileTree.setNode_pipe_directories hnode ⟨[], 1, 1⟩
      refine ⟨hentry, (hsame.locate_eq path).trans hlocate, ?_⟩
      rw [FileTree.isDirectory_eq, hsame.directory, FileTree.directory?_eq_none_of_pipe hnode]
      rfl

theorem trace_close (c : CommandPipe) (h : Host) :
    (c.close h).2.trace = ⟨.removePipe c.path, (h.tree.unlink c.path).isOk⟩ :: h.trace := by
  have hclose : (c.close h).2.trace =
      (noting (.removePipe c.path) (edit (·.unlink c.path) (.channel c.path)) h).2.trace := rfl
  have hgranted :
      (noting (.removePipe c.path) (edit (·.unlink c.path) (.channel c.path)) h).1.isOk =
        (h.tree.unlink c.path).isOk := by
    show (edit (·.unlink c.path) (.channel c.path) h).1.isOk = _
    rw [edit]
    rcases h.tree.unlink c.path with e | t <;> rfl
  rw [hclose, trace_noting _ (trace_edit _ _ h), hgranted]

theorem close_removes (c : CommandPipe) {lead : List PathStep} {name : String} {id : NodeId}
    (hpath : FileTree.NamesEntry c.path lead name) (hlocate : h.tree.locate c.path = .ok id)
    (hfile : h.tree.isDirectory id = false) :
    (c.close h).2.trace = ⟨.removePipe c.path, true⟩ :: h.trace ∧
      (c.close h).2.tree.contains c.path = false := by
  obtain ⟨t, hunlink, hgone⟩ := FileTree.unlink_spec hpath hlocate hfile
  have htree : (c.close h).2.tree =
      (edit (·.unlink c.path) (.channel c.path) h).2.tree.updatePipe c.node fun p =>
        p.closeReader.closeWriter := rfl
  refine ⟨by rw [trace_close, hunlink]; rfl, ?_⟩
  rw [htree, edit, hunlink]
  exact (FileTree.updatePipe_directories t c.node _).contains_eq_false hgone

theorem close_owes (c : CommandPipe) (howes : Owes base before (.pipe c.path ::ₘ held) h) :
    Owes base before held (c.close h).2 :=
  howes.give (Access.gives_iff.mpr rfl) (c.trace_close h)

end CommandPipe

/-- Since the trace was `base`, the pipe was removed, and nothing is at its path. -/
def Host.PipeRemoved (base : List Access) (path : String) (h : Host) : Prop :=
  (∃ later earlier, h.trace = later ++ ⟨.removePipe path, true⟩ :: (earlier ++ base)) ∧
    h.tree.contains path = false

theorem Host.PipeRemoved.later {path : String} (hremoved : PipeRemoved base path h)
    (hsuffix : h.trace <:+ h'.trace) (hsame : h.tree.SameDirectories h'.tree) :
    PipeRemoved base path h' := by
  obtain ⟨⟨later, earlier, htrace⟩, hgone⟩ := hremoved
  obtain ⟨more, hmore⟩ := hsuffix
  exact ⟨⟨more ++ later, earlier, by rw [← hmore, htrace, List.append_assoc]⟩,
    hsame.contains_eq_false hgone⟩

/-- A pipe that is still at its path is removed from there. -/
theorem CommandPipe.close_pipeRemoved (c : CommandPipe) {lead : List PathStep} {name : String}
    {id : NodeId} (hpath : FileTree.NamesEntry c.path lead name)
    (hlocate : h.tree.locate c.path = .ok id) (hfile : h.tree.isDirectory id = false)
    (hsuffix : base <:+ h.trace) : PipeRemoved base c.path (c.close h).2 := by
  obtain ⟨htrace, hgone⟩ := c.close_removes hpath hlocate hfile
  obtain ⟨earlier, hearlier⟩ := hsuffix
  exact ⟨⟨[], earlier, by rw [htrace, ← hearlier, List.nil_append]⟩, hgone⟩

/-! ### Nothing is taken off a trace -/

theorem Keypad.close_suffix (k : Keypad) (h : Host) : h.trace <:+ (k.close h).2.trace :=
  (k.close_owes (Owes.start h (k.holds + 0))).suffix

theorem CommandPipe.close_suffix (c : CommandPipe) (h : Host) : h.trace <:+ (c.close h).2.trace :=
  (c.close_owes (Owes.start h (.pipe c.path ::ₘ 0))).suffix

end FanControl
