import FanControl.Proofs.Directories
import FanControl.Proofs.Frame

/-!
# What an action can fail as

An action fails as `E` if all its errors are among `E` (`Action.FailsAs`); compositions inherit this
from their parts. The lamp, the pipe and the readiness of the daemon fail as errors of the machine
(`Error.OfMachine`), that is of a line, of the pipe or of waiting, and never because of what they
were asked for.
-/

namespace FanControl

/-! ### Errors of actions -/

/-- An action whose errors are all among `E`. -/
def Action.FailsAs {ω α : Type} (E : Error → Prop) (m : Action ω α) : Prop :=
  ∀ w e, (m w).1 = .error e → E e

namespace Action.FailsAs

variable {ω α β : Type} {E : Error → Prop}

theorem pure (a : α) : (Pure.pure a : Action ω α).FailsAs E := by
  intro w e he
  cases he

theorem fail {e : Error} (he : E e) : (Action.fail e : Action ω α).FailsAs E := by
  intro w e' he'
  obtain rfl := Except.error.inj he'
  exact he

theorem bind {m : Action ω α} {f : α → Action ω β} (hm : m.FailsAs E)
    (hf : ∀ a, (f a).FailsAs E) : (m >>= f).FailsAs E := by
  intro w e he
  have hfirst := hm w
  rw [bind_apply] at he
  rcases hresult : m w with ⟨e' | a, w'⟩
  · rw [hresult] at he hfirst
    obtain rfl := Except.error.inj he
    exact hfirst e' rfl
  · rw [hresult] at he
    exact hf a w' e he

/-- An action that is run for its result does not fail; what goes on after an error may use that it
is among `E`. -/
theorem bind_attempt {m : Action ω α} {f : Except Error α → Action ω β} (hm : m.FailsAs E)
    (hok : ∀ a, (f (.ok a)).FailsAs E) (herror : ∀ e, E e → (f (.error e)).FailsAs E) :
    (m.attempt >>= f).FailsAs E := by
  intro w e he
  have hfirst := hm w
  change (f (m w).1 (m w).2).1 = .error e at he
  rcases hresult : m w with ⟨e' | a, w'⟩
  · rw [hresult] at he hfirst
    exact herror e' (hfirst e' rfl) w' e he
  · rw [hresult] at he
    exact hok a w' e he

theorem noting {m : Action Host α} (request : Request) (hm : m.FailsAs E) :
    (Host.noting request m).FailsAs E := hm

theorem edit {f : FileTree → Except AccessFault FileTree} {blame : AccessFault → Error}
    (hblame : ∀ fault, E (blame fault)) : (Host.edit f blame).FailsAs E := by
  intro h e he
  rw [Host.edit] at he
  split at he
  · cases he
  · obtain rfl := Except.error.inj he
    exact hblame _

theorem inspect {f : FileTree → Except AccessFault α} {blame : AccessFault → Error}
    (hblame : ∀ fault, E (blame fault)) : (Host.inspect f blame).FailsAs E := by
  intro h e he
  change (f h.tree).mapError blame = .error e at he
  rcases hresult : f h.tree with fault | a
  · rw [hresult] at he
    obtain rfl := Except.error.inj he
    exact hblame fault
  · rw [hresult] at he
    cases he

end Action.FailsAs

/-! ### Lines -/

namespace Gpio

theorem put_failsAs {E : Error → Prop} (pin : Pin) (path text : String)
    {fault : AccessFault → GpioFault} (hfault : ∀ cause, E (.gpio pin (fault cause))) :
    (put pin path text fault).FailsAs E := Action.FailsAs.edit hfault

/-- A line that cannot be taken is an error of the export. -/
theorem exportPin_failsAs (g : Gpio) (pin : Pin) :
    (g.exportPin pin).FailsAs fun e => ∃ cause, e = .gpio pin (.exporting cause) := by
  intro h e he
  change (ite _ _ _ : Except Error Unit × Host).1 = .error e at he
  have hput := put_failsAs (E := fun e => ∃ cause, e = .gpio pin (.exporting cause)) pin
    (Path.join g.base "export") pin.text fun cause => ⟨cause, rfl⟩
  -- a line that is exported already counts as taken, and so does one that is busy
  split at he
  · cases he
  · split at he
    · next e' h' hresult =>
      split at he
      · cases he
      · obtain rfl := Except.error.inj he
        exact hput h e' (congrArg Prod.fst hresult)
    · exact hput h e he

end Gpio

/-! ### Errors of the machine -/

/-- An error of a line, of the pipe or of waiting, as opposed to one of what was asked for. -/
inductive Error.OfMachine : Error → Prop where
  | line (pin : Pin) (fault : GpioFault) : OfMachine (.gpio pin fault)
  | pipe (path : String) (cause : AccessFault) : OfMachine (.channel path cause)
  | waiting (cause : AccessFault) : OfMachine (.readiness cause)

theorem Lamp.acquire_failsAs (gpio : Gpio) (pin : Pin) :
    (acquire gpio pin).FailsAs Error.OfMachine := by
  have hexport : (gpio.exportPin pin).FailsAs Error.OfMachine := by
    intro h e he
    obtain ⟨cause, rfl⟩ := gpio.exportPin_failsAs pin h e he
    exact .line pin _
  have hput : ∀ path text fault, (Gpio.put pin path text fault).FailsAs Error.OfMachine :=
    fun path text fault => Gpio.put_failsAs pin path text fun cause => .line pin _
  unfold acquire
  refine hexport.bind fun _ => .bind_attempt ?_ (fun _ => .pure _) fun e he => ?_
  · exact .bind (hput _ _ _) fun _ => .noting _ (hput _ _ _)
  · -- the attempt to give the line back does not fail, and the first error is passed on
    exact fun h _ he' => Action.FailsAs.fail he (gpio.unexportPin pin h).2 _ he'

namespace CommandPipe

theorem clearPath_failsAs (path : String) : (clearPath path).FailsAs Error.OfMachine := by
  intro h e he
  rw [clearPath] at he
  split at he
  · cases he
  · cases he
  · obtain rfl := Except.error.inj he
    exact .pipe path _

/-- Both ends of a pipe that nobody has opened yet can be opened. -/
theorem openEnds_of_pipe {path : String} {h : Host} {node : NodeId}
    (hlocate : h.tree.locate path = .ok node)
    (hnode : h.tree.nodes[node]? = some (.pipe .empty)) :
    openEnds path h = (.ok node, { h with tree := h.tree.setNode node (.pipe ⟨[], 1, 1⟩) }) := by
  have hsame : h.tree.SameDirectories (h.tree.setNode node (.pipe Pipe.empty.openReader)) :=
    FileTree.setNode_pipe_directories hnode _
  have hread : h.tree.openEnd path .read = _ := FileTree.openEnd_of_pipe hlocate hnode rfl
  -- the pipe is still there when its second end is opened, and now it has a reader
  have hopen : Pipe.empty.openReader.openEnd .write = .ok ⟨[], 1, 1⟩ := rfl
  have hwrite := FileTree.openEnd_of_pipe ((hsame.locate_eq path).trans hlocate)
    (FileTree.nodes_setNode_self hnode) hopen
  rw [FileTree.setNode_setNode] at hwrite
  rw [openEnds, hread]
  dsimp only
  rw [hwrite]

/-- Making a pipe fails in its first step or not at all, so no pipe is left behind that is not
open. -/
theorem makePipe_apply (path : String) (h : Host) :
    makePipe path h =
      match h.tree.makePipe path with
      | .ok t =>
        (.ok h.tree.nodes.size,
          { h with
            tree := t.setNode h.tree.nodes.size (.pipe ⟨[], 1, 1⟩)
            trace := ⟨.createPipe path, true⟩ :: h.trace })
      | .error f =>
        (.error (.channel path f), { h with trace := ⟨.createPipe path, false⟩ :: h.trace }) := by
  rcases hmade : h.tree.makePipe path with f | t
  · simp only [makePipe, Action.bind_apply, Host.noting, Host.edit, hmade]
    rfl
  · obtain ⟨-, hlocate, hnode⟩ := FileTree.makePipe_spec hmade
    -- a pipe that was just made can be found, so its permissions can be set
    have hallowed : t.setPermissions path = .ok t := by
      rw [FileTree.setPermissions, hlocate]
      rfl
    simp only [makePipe, Action.bind_apply, Host.noting, Host.edit, hmade, hallowed]
    exact openEnds_of_pipe hlocate hnode

theorem makePipe_failsAs (path : String) : (makePipe path).FailsAs Error.OfMachine := by
  intro h e he
  rw [makePipe_apply] at he
  rcases hmade : h.tree.makePipe path with fault | t
  · rw [hmade] at he
    obtain rfl := Except.error.inj he
    exact .pipe path fault
  · rw [hmade] at he
    cases he

theorem create_ofMachine {path : String} {h h' : Host} {e : Error} {entries : List LogEntry}
    (hcreate : create path h = (.error e, entries, h')) : e.OfMachine := by
  rw [create] at hcreate
  split at hcreate
  · next e' h₁ hresult =>
    obtain ⟨rfl, -⟩ : e' = e ∧ _ := by simpa using hcreate
    exact (clearPath_failsAs path).bind (fun _ => makePipe_failsAs path) h e'
      (congrArg Prod.fst hresult)
  · cases hcreate

end CommandPipe

theorem Readiness.add_ofMachine {δ : Type} [DecidableEq δ] {r : Readiness δ} {d : Descriptor δ}
    {interest : Interest} {token : UInt64} {status : δ → Condition} {e : Error}
    (hadd : r.add d interest token status = .error e) : e.OfMachine := by
  unfold add at hadd
  split at hadd
  · obtain rfl := Except.error.inj hadd
    exact .waiting _
  · obtain rfl := Except.error.inj hadd
    exact .waiting _
  · split at hadd
    · obtain rfl := Except.error.inj hadd
      exact .waiting _
    · cases hadd

/-- A fold whose steps fail as `E` only does so itself. -/
theorem error_of_foldlM {α β : Type} {E : Error → Prop} {f : β → α → Except Error β}
    (hf : ∀ b a e, f b a = .error e → E e) (l : List α) (b : β) (e : Error)
    (hfold : l.foldlM f b = .error e) : E e := by
  induction l generalizing b with
  | nil => cases hfold
  | cons a l ih =>
    rw [List.foldlM_cons] at hfold
    rcases hstep : f b a with e' | b'
    · rw [hstep] at hfold
      obtain rfl := Except.error.inj hfold
      exact hf b a e' hstep
    · rw [hstep] at hfold
      exact ih b' hfold

namespace Daemon

theorem watch_ofMachine {keypad : Keypad} {pipe : CommandPipe} {h : Host} {e : Error}
    (hwatch : watch keypad pipe h = .error e) : e.OfMachine := by
  rw [watch] at hwatch
  dsimp only [bind, Except.bind] at hwatch
  split at hwatch
  · next e' hbuttons =>
    obtain rfl := Except.error.inj hwatch
    exact error_of_foldlM (fun _ _ _ => Readiness.add_ofMachine) _ _ _ hbuttons
  · exact Readiness.add_ofMachine hwatch

theorem openLamp_failsAs (gpio : Gpio) (pin? : Option Pin) :
    (openLamp gpio pin?).FailsAs Error.OfMachine := by
  rcases pin? with _ | pin
  · exact .pure _
  · exact .bind (Lamp.acquire_failsAs gpio pin) fun _ => .pure _

end Daemon

end FanControl
