import FanControl.Daemon
import FanControl.Proofs.Directories
import FanControl.Proofs.Frame
import Mathlib.Data.Multiset.Count

/-!
# A ledger of what is taken and given back

The lines and the pipe are resources: an export and the making of a pipe take one, if they are
granted, and an unexport and a removal give one back, granted or not. `Leaves before held past` says
that who held `before` has to give `held` back after the accesses `past`, and that everything else
was given back after it was last taken. What the lamp, the keypad and the pipe do is entered in
this ledger, with one law for each of them (`Lamp.acquire_owes`, `Keypad.registerAll_owes`,
`CommandPipe.create_owes`, and the laws of their release).
-/

namespace FanControl

/-! ### Accesses -/

/-- Something of the machine that is taken and given back. -/
inductive Resource where
  | line (pin : Pin)
  | pipe (path : String)
deriving DecidableEq, Repr

/-- What a request takes if it is granted. -/
def Request.takes? : Request → Option Resource
  | .exportPin pin => some (.line pin)
  | .createPipe path => some (.pipe path)
  | _ => none

/-- What a request gives back, granted or not. -/
def Request.gives? : Request → Option Resource
  | .unexportPin pin => some (.line pin)
  | .removePipe path => some (.pipe path)
  | _ => none

namespace Access

/-- A request for the resource that was granted. -/
def takes (r : Resource) (a : Access) : Bool := a.granted && a.request.takes? == some r

/-- An attempt to give the resource back. -/
def gives (r : Resource) (a : Access) : Bool := a.request.gives? == some r

theorem takes_iff {r : Resource} {a : Access} :
    a.takes r = true ↔ a.granted = true ∧ a.request.takes? = some r := by
  rw [takes, Bool.and_eq_true, beq_iff_eq]

/-- A request for nothing takes nothing. -/
theorem takes_of_none {a : Access} (h : a.request.takes? = none) (r : Resource) :
    a.takes r = false := by
  rw [takes, h]
  exact Bool.and_false _

theorem gives_iff {r : Resource} {a : Access} : a.gives r = true ↔ a.request.gives? = some r := by
  rw [gives, beq_iff_eq]

end Access

/-- No request does both. -/
theorem Request.gives?_of_takes? {request : Request} {r : Resource}
    (h : request.takes? = some r) : request.gives? = none := by
  cases request <;> first | rfl | cases h

/-- Who held `before` has to give `held` back after the accesses `past`, of which the first is the
latest. -/
structure Leaves (before held : Multiset Resource) (past : List Access) : Prop where
  /-- What was held or taken, and not given back, is held. -/
  count : ∀ r, before.count r + past.countP (Access.takes r) =
    held.count r + past.countP (Access.gives r)
  /-- What is not held was given back after it was taken. -/
  given : ∀ r ∉ held, ∀ later a earlier, past = later ++ a :: earlier → a.takes r = true →
    ∃ b ∈ later, b.gives r = true

namespace Leaves

variable {before held : Multiset Resource} {past : List Access} {a : Access} {r : Resource}

theorem nil (held : Multiset Resource) : Leaves held held [] where
  count _ := rfl
  given _ _ later a earlier h := by simp at h

/-- One more access. -/
theorem cons {after : Multiset Resource} (h : Leaves before held past)
    (hcount : ∀ r, held.count r + (if a.takes r = true then 1 else 0) =
      after.count r + (if a.gives r = true then 1 else 0))
    (hgiven : ∀ r ∉ after, a.takes r = false ∧ (r ∈ held → a.gives r = true)) :
    Leaves before after (a :: past) := by
  refine ⟨fun r => ?_, fun r hr later b earlier hpast hb => ?_⟩
  · have hpast := h.count r
    have hlast := hcount r
    rw [List.countP_cons, List.countP_cons]
    omega
  · obtain ⟨htakes, hgives⟩ := hgiven r hr
    rcases later with _ | ⟨x, later⟩
    · obtain ⟨rfl, -⟩ := List.cons.inj hpast
      rw [htakes] at hb
      cases hb
    · obtain ⟨rfl, hrest⟩ := List.cons.inj hpast
      -- held before: this access gave it back; otherwise an earlier one did
      by_cases hheld : r ∈ held
      · exact ⟨a, List.mem_cons_self .., hgives hheld⟩
      · obtain ⟨c, hc, hgiven⟩ := h.given r hheld later b earlier hrest hb
        exact ⟨c, List.mem_cons_of_mem _ hc, hgiven⟩

theorem take (h : Leaves before held past) (ha : a.takes r = true) :
    Leaves before (r ::ₘ held) (a :: past) := by
  obtain ⟨hgranted, hrequest⟩ := Access.takes_iff.mp ha
  -- an access makes one request, so what takes a resource gives none back
  have hgives : ∀ q, a.gives q = false := by
    intro q
    rw [Access.gives, Request.gives?_of_takes? hrequest]
    rfl
  have htakes : ∀ q, a.takes q = true ↔ q = r := by
    intro q
    rw [Access.takes_iff, hrequest, Option.some.injEq]
    exact ⟨fun h => h.2.symm, fun h => ⟨hgranted, h.symm⟩⟩
  refine h.cons (fun q => ?_) fun q hq => ?_
  · rw [hgives, Multiset.count_cons, if_congr (htakes q) rfl rfl]
    rfl
  · rw [Multiset.mem_cons, not_or] at hq
    exact ⟨Bool.eq_false_iff.mpr fun h => hq.1 ((htakes q).mp h), fun h => absurd h hq.2⟩

theorem give (h : Leaves before (r ::ₘ held) past) (ha : a.gives r = true) :
    Leaves before held (a :: past) := by
  have hrequest := Access.gives_iff.mp ha
  -- what gives a resource back takes none
  have htakes : ∀ q, a.takes q = false := by
    intro q
    by_contra htaken
    rw [Bool.not_eq_false, Access.takes_iff] at htaken
    rw [Request.gives?_of_takes? htaken.2] at hrequest
    cases hrequest
  have hgives : ∀ q, a.gives q = true ↔ q = r := by
    intro q
    rw [Access.gives_iff, hrequest, Option.some.injEq]
    exact ⟨Eq.symm, Eq.symm⟩
  refine h.cons (fun q => ?_) fun q hq => ⟨htakes q, fun hheld => ?_⟩
  · rw [htakes, Multiset.count_cons, if_congr (hgives q) rfl rfl]
    rfl
  · rw [Multiset.mem_cons] at hheld
    exact (hgives q).mpr (hheld.resolve_right hq)

/-- An access that is about no resource, or that was not granted. -/
theorem other (h : Leaves before held past) (htakes : ∀ r, a.takes r = false)
    (hgives : ∀ r, a.gives r = false) : Leaves before held (a :: past) := by
  refine h.cons (fun q => ?_) fun q hq => ⟨htakes q, fun hheld => absurd hheld hq⟩
  rw [htakes, hgives]

end Leaves

/-! ### Machines -/

namespace Host

/-- When the trace of a machine was `base`, the resources `before` were held; now it is `held`. -/
def Owes (base : List Access) (before held : Multiset Resource) (h : Host) : Prop :=
  ∃ past, h.trace = past ++ base ∧ Leaves before held past

variable {base : List Access} {before held : Multiset Resource} {h h' : Host} {r : Resource}

theorem Owes.start (h : Host) (held : Multiset Resource) : Owes h.trace held held h :=
  ⟨[], rfl, .nil held⟩

/-- Nothing is taken off a trace. -/
theorem Owes.suffix (howes : Owes base before held h) : base <:+ h.trace := by
  obtain ⟨past, hpast, -⟩ := howes
  exact ⟨past, hpast.symm⟩

theorem Owes.of_trace_eq (howes : Owes base before held h) (htrace : h'.trace = h.trace) :
    Owes base before held h' := by
  obtain ⟨past, hpast, hleaves⟩ := howes
  exact ⟨past, htrace.trans hpast, hleaves⟩

theorem Owes.take (howes : Owes base before held h) {a : Access} (ha : a.takes r = true)
    (htrace : h'.trace = a :: h.trace) : Owes base before (r ::ₘ held) h' := by
  obtain ⟨past, hpast, hleaves⟩ := howes
  exact ⟨a :: past, by rw [htrace, hpast, List.cons_append], hleaves.take ha⟩

theorem Owes.give (howes : Owes base before (r ::ₘ held) h) {a : Access} (ha : a.gives r = true)
    (htrace : h'.trace = a :: h.trace) : Owes base before held h' := by
  obtain ⟨past, hpast, hleaves⟩ := howes
  exact ⟨a :: past, by rw [htrace, hpast, List.cons_append], hleaves.give ha⟩

theorem Owes.other (howes : Owes base before held h) {a : Access} (htakes : ∀ r, a.takes r = false)
    (hgives : ∀ r, a.gives r = false) (htrace : h'.trace = a :: h.trace) :
    Owes base before held h' := by
  obtain ⟨past, hpast, hleaves⟩ := howes
  exact ⟨a :: past, by rw [htrace, hpast, List.cons_append], hleaves.other htakes hgives⟩

/-- Everything that was taken since the trace was `base` was given back after that. -/
def Settled (base : List Access) (h : Host) : Prop :=
  ∃ past, h.trace = past ++ base ∧ ∀ r,
    past.countP (Access.takes r) = past.countP (Access.gives r) ∧
      ∀ later a earlier, past = later ++ a :: earlier → a.takes r = true →
        ∃ b ∈ later, b.gives r = true

/-- Who held nothing and holds nothing is even. -/
theorem Owes.settled (howes : Owes base 0 0 h) : Settled base h := by
  obtain ⟨past, hpast, hleaves⟩ := howes
  refine ⟨past, hpast, fun r => ⟨?_, hleaves.given r (Multiset.notMem_zero r)⟩⟩
  have hcount := hleaves.count r
  omega

/-- A request is noted with its outcome, on top of what was noted on the way. -/
theorem trace_noting {α : Type} (request : Request) {m : Action Host α} {h : Host}
    (hm : (m h).2.trace = h.trace) :
    (noting request m h).2.trace = ⟨request, (noting request m h).1.isOk⟩ :: h.trace :=
  congrArg _ hm

theorem trace_edit (f : FileTree → Except AccessFault FileTree) (blame : AccessFault → Error)
    (h : Host) : (edit f blame h).2.trace = h.trace := by
  rw [edit]
  split <;> rfl

end Host

/-! ### Lines -/

namespace Gpio

open Host

variable {h : Host}

theorem trace_put (pin : Pin) (path text : String) (fault : AccessFault → GpioFault) (h : Host) :
    (put pin path text fault h).2.trace = h.trace := trace_edit _ _ h

theorem trace_exportPin (g : Gpio) (pin : Pin) (h : Host) :
    (g.exportPin pin h).2.trace = ⟨.exportPin pin, (g.exportPin pin h).1.isOk⟩ :: h.trace := by
  refine trace_noting _ ?_
  show (ite _ _ _ : Except Error Unit × Host).2.trace = h.trace
  split
  · rfl
  · have hput := trace_put pin (Path.join g.base "export") pin.text .exporting h
    split
    · next e h' hresult =>
      rw [hresult] at hput
      split <;> exact hput
    · exact hput

theorem trace_unexportPin (g : Gpio) (pin : Pin) (h : Host) :
    (g.unexportPin pin h).2.trace =
      ⟨.unexportPin pin, (g.unexportPin pin h).1.isOk⟩ :: h.trace :=
  trace_noting _ (trace_put ..)

theorem trace_write (g : Gpio) (pin : Pin) (high : Bool) (h : Host) :
    (g.write pin high h).2.trace =
      ⟨.drivePin pin high, (g.write pin high h).1.isOk⟩ :: h.trace :=
  trace_noting _ (trace_put ..)

variable {base : List Access} {before held : Multiset Resource}

theorem exportPin_owes (g : Gpio) (pin : Pin) (howes : Owes base before held h) :
    match g.exportPin pin h with
    | (.ok _, h') => Owes base before (.line pin ::ₘ held) h'
    | (.error _, h') => Owes base before held h' := by
  have htrace := trace_exportPin g pin h
  split
  · next hresult =>
    rw [hresult] at htrace
    exact howes.take (Access.takes_iff.mpr ⟨rfl, rfl⟩) htrace
  · next hresult =>
    rw [hresult] at htrace
    exact howes.other (fun _ => rfl) (fun _ => rfl) htrace

theorem unexportPin_owes (g : Gpio) (pin : Pin)
    (howes : Owes base before (.line pin ::ₘ held) h) :
    Owes base before held (g.unexportPin pin h).2 :=
  howes.give (Access.gives_iff.mpr rfl) (trace_unexportPin g pin h)

theorem write_keeps (g : Gpio) (pin : Pin) (high : Bool) :
    (g.write pin high).Keeps (Owes base before held) := fun h howes =>
  howes.other (Access.takes_of_none rfl) (fun _ => rfl) (trace_write g pin high h)

theorem put_keeps (pin : Pin) (path text : String) (fault : AccessFault → GpioFault) :
    (put pin path text fault).Keeps (Owes base before held) := fun h howes =>
  howes.of_trace_eq (trace_put pin path text fault h)

end Gpio

end FanControl
