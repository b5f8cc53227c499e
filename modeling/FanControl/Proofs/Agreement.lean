import FanControl.Attribute.Files
import FanControl.Attribute.Memory
import FanControl.EventLoop
import FanControl.Proofs.Accesses

/-!
# What a change depends on

A store may fail and may hold any texts, but its answers are determined by its contents and reading
does not change them (`AttributeStore.DependsOn`). Two fronts before such a store agree if the
contents are the same, whatever their panels, lamps and logs. Then a change has the same result on
both of them, makes the same attempts to write, and they agree afterwards (`Change.perform_agree`,
`Change.attempts_agree`); and a change that is refused as input attempts nothing and leaves the
contents as they were (`Change.unchanged_of_isRejection`).
-/

namespace FanControl

variable {ω κ : Type}

/-! ### Stores that depend on their contents -/

/-- An error that says that an attribute could not be read or not be written. -/
def Error.IsAccess (e : Error) : Prop :=
  (∃ path cause, e = .attributeRead path cause) ∨ ∃ path cause, e = .attributeWrite path cause

theorem Error.IsAccess.not_isRejection {e : Error} (h : e.IsAccess) : e.isRejection = false := by
  rcases h with ⟨path, cause, rfl⟩ | ⟨path, cause, rfl⟩ <;> rfl

theorem Error.isRejection_of_isPolicyViolation {e : Error} (h : e.isPolicyViolation = true) :
    e.isRejection = true := by
  unfold isPolicyViolation at h
  split at h
  · rfl
  · cases h

/-- A store whose answers depend on its contents alone, and whose own failures say that an
attribute could not be read or written. Nothing is asked of writes to what cannot be written. -/
structure AttributeStore.DependsOn (s : AttributeStore ω) (contents : ω → κ) : Prop where
  read_answer : ∀ attr w w', contents w = contents w' → (s.read attr w).1 = (s.read attr w').1
  read_contents : ∀ attr w, contents (s.read attr w).2 = contents w
  read_error : ∀ attr w e, (s.read attr w).1 = .error e → e.IsAccess
  write_answer : ∀ attr value w w', attr.isWritable = true → contents w = contents w' →
    (s.write attr value w).1 = (s.write attr value w').1
  write_contents : ∀ attr value w w', attr.isWritable = true → contents w = contents w' →
    contents (s.write attr value w).2 = contents (s.write attr value w').2
  write_error : ∀ attr value w e, attr.isWritable = true →
    (s.write attr value w).1 = .error e → e.IsAccess

/-- A plain value answers out of its readings and faults. -/
theorem Memory.store_dependsOn :
    Memory.store.DependsOn fun m : Memory => (m.reading, m.writeFault) where
  read_answer attr m m' h := by
    have hreading : m.reading = m'.reading := congrArg Prod.fst h
    simp only [store, Memory.read, Action.query, hreading]
  read_contents _ _ := rfl
  read_error attr m e he := by
    simp only [store, Memory.read, Action.query] at he
    rcases hread : m.reading attr with errno | text
    · rw [hread] at he
      cases he
      exact Or.inl ⟨_, _, rfl⟩
    · rw [hread] at he
      cases he
  write_answer attr value m m' _ h := by
    have hfault : m.writeFault = m'.writeFault := congrArg Prod.snd h
    simp only [store, Memory.write, hfault]
    split <;> rfl
  write_contents attr value m m' _ h := by
    obtain ⟨hreading, hfault⟩ := Prod.mk.inj h
    simp only [store, Memory.write, hfault]
    split <;> simp only [setReading, hreading]
  write_error attr value m e _ he := by
    simp only [store, Memory.write] at he
    split at he
    · cases he
    · cases he
      exact Or.inr ⟨_, _, rfl⟩

/-- The files answer out of the tree. -/
theorem AttributePaths.store_dependsOn (p : AttributePaths) :
    p.store.DependsOn fun h : Host => h.tree where
  read_answer attr h h' htree := by
    simp only [store, read, Action.bind_apply, Host.inspect, Action.query, htree]
    rcases (h'.tree.readText (p.path attr)).mapError (Error.attributeRead (p.path attr)) <;> rfl
  read_contents attr h := by
    simp only [store, read, Action.bind_apply, Host.inspect, Action.query]
    rcases (h.tree.readText (p.path attr)).mapError (Error.attributeRead (p.path attr)) <;> rfl
  read_error attr h e he := by
    simp only [store, read, Action.bind_apply, Host.inspect, Action.query] at he
    rcases hread : h.tree.readText (p.path attr) with cause | text
    · rw [hread] at he
      cases he
      exact Or.inl ⟨_, _, rfl⟩
    · rw [hread] at he
      cases he
  write_answer attr value h h' hattr htree := by
    simp only [store, write, hattr, if_true, Host.edit, htree]
    split <;> rfl
  write_contents attr value h h' hattr htree := by
    simp only [store, write, hattr, if_true, Host.edit, htree]
    split
    · rfl
    · exact htree
  write_error attr value h e hattr he := by
    simp only [store, write, hattr, if_true, Host.edit] at he
    split at he
    · cases he
    · cases he
      exact Or.inr ⟨_, _, rfl⟩

/-! ### Fronts that agree -/

theorem Applied.isWritable_target (applied : Applied) : applied.target.isWritable = true := by
  cases applied <;> rfl

section

variable {k : Controller ω} {contents : ω → κ} (hk : k.store.DependsOn contents)
include hk

namespace Controller

theorem contents_refreshRow (row : Row) (c : Console ω) :
    contents (k.refreshRow row c).world = contents c.world := by
  rw [refreshRow_eq, Console.world_showValue]
  exact hk.read_contents row.shows c.world

/-- A refresh leaves the contents alone. -/
theorem contents_refresh (c : Console ω) : contents (k.refresh c).world = contents c.world := by
  rw [refresh_rows, contents_refreshRow hk, contents_refreshRow hk, contents_refreshRow hk]

end Controller

/-- Carrying a decision out is a write, as far as the result and the contents are concerned. -/
theorem Decision.carryOut_contents (d : Decision) (c : Console ω) :
    (d.carryOut k c).1 =
        (k.store.write d.result.target d.result.text c.world).1.map (fun _ => d.result) ∧
      contents (d.carryOut k c).2.world =
        contents (k.store.write d.result.target d.result.text c.world).2 := by
  rcases hw : k.store.write d.result.target d.result.text c.world with ⟨e | _, w⟩
  · have hwrite : Console.inWorld (k.store.write d.result.target d.result.text) c =
        (.error e, { c with world := w }) := by simp only [Console.inWorld, Action.focus, hw]
    rw [carryOut_apply, hwrite]
    exact ⟨rfl, rfl⟩
  · have hwrite : Console.inWorld (k.store.write d.result.target d.result.text) c =
        (.ok (), { c with world := w }) := by simp only [Console.inWorld, Action.focus, hw]
    rw [carryOut_apply, hwrite]
    exact ⟨rfl, Controller.contents_refresh hk _⟩

namespace Change

/-- Consulting leaves the contents alone. -/
theorem contents_consult (x : Change) (c : Console ω) :
    contents (x.consult k c).2.world = contents c.world := by
  unfold consult
  rcases x.consults with _ | attr
  · rfl
  · exact hk.read_contents attr c.world

theorem consult_agree (x : Change) {c c' : Console ω} (h : contents c.world = contents c'.world) :
    (x.consult k c).1 = (x.consult k c').1 := by
  unfold consult
  rcases x.consults with _ | attr
  · rfl
  · exact hk.read_answer attr c.world c'.world h

/-- **A change on fronts that agree** has the same result, and they agree afterwards. -/
theorem perform_agree (x : Change) {c c' : Console ω} (h : contents c.world = contents c'.world) :
    (x.perform k c).1 = (x.perform k c').1 ∧
      contents (x.perform k c).2.world = contents (x.perform k c').2.world := by
  have hconsulted : contents (x.consult k c).2.world = contents (x.consult k c').2.world := by
    rw [contents_consult hk, contents_consult hk, h]
  rw [perform_eq, perform_eq, consult_agree hk x h]
  rcases x.resolve (x.consult k c').1 with ⟨e | d, entries⟩
  · rw [conclude_error, conclude_error, Console.world_reports, Console.world_reports]
    exact ⟨rfl, hconsulted⟩
  · -- both fronts carry the same decision out, each by one write
    obtain ⟨hresult, hcontents⟩ :=
      d.carryOut_contents hk (entries.foldl Console.report (x.consult k c).2)
    obtain ⟨hresult', hcontents'⟩ :=
      d.carryOut_contents hk (entries.foldl Console.report (x.consult k c').2)
    rw [Console.world_reports] at hresult hcontents hresult' hcontents'
    rw [conclude_ok, conclude_ok, hresult, hresult', hcontents, hcontents']
    have hattr := d.result.isWritable_target
    exact ⟨congrArg _ (hk.write_answer _ _ _ _ hattr hconsulted),
      hk.write_contents _ _ _ _ hattr hconsulted⟩

/-- Input is refused only if no decision was taken. -/
theorem resolve_of_isRejection {x : Change} {c : Console ω} {e : Error}
    (he : (x.perform k c).1 = .error e) (hrejection : e.isRejection = true) :
    ∃ e' entries, x.resolve (x.consult k c).1 = (.error e', entries) := by
  rcases hr : x.resolve (x.consult k c).1 with ⟨e' | d, entries⟩
  · exact ⟨e', entries, rfl⟩
  · rw [perform_eq, hr, conclude_ok, (d.carryOut_contents hk _).1] at he
    rcases hw : (k.store.write d.result.target d.result.text
      (entries.foldl Console.report (x.consult k c).2).world).1 with e' | _
    · rw [hw] at he
      cases he
      -- behind a decision only the store can fail, and it does not refuse
      rw [(hk.write_error _ _ _ _ d.result.isWritable_target hw).not_isRejection] at hrejection
      cases hrejection
    · rw [hw] at he
      cases he

end Change

end

/-! ### Attempts to write -/

namespace Change

/-- The attempts to write that a change makes. -/
def attempts (k : Controller ω) (x : Change) (c : Console ω) : List StoreAccess :=
  ((Operation.change x).accesses k c).filter StoreAccess.isWrite

theorem filter_isWrite_consultation (x : Change) (answer : Except Error String) :
    (x.consultation answer).filter StoreAccess.isWrite = [] := by
  apply List.filter_eq_nil_iff.mpr
  intro a ha
  simp [not_isWrite_of_mem_consultation ha]

/-- What is attempted follows from the decision and the result. -/
theorem attempts_eq (k : Controller ω) (x : Change) (c : Console ω) :
    x.attempts k c =
      match (x.resolve (x.consult k c).1).1 with
      | .error _ => []
      | .ok d => [.write d.result.target d.result.text ((x.perform k c).1.map fun _ => ())] := by
  have htrail := Operation.trail_accesses_change k x c
  rw [attempts]
  generalize (Operation.change x).accesses k c = accesses at htrail
  generalize (x.perform k c).1 = result at htrail
  -- the trail says how far the change went; one of its accesses is a write at most
  cases htrail with
  | undecided h => rw [h, filter_isWrite_consultation]
  | failed e h =>
    rw [h, List.filter_append, filter_isWrite_consultation]
    rfl
  | done m t f h =>
    rw [h, List.filter_append, filter_isWrite_consultation]
    rfl

variable {k : Controller ω} {contents : ω → κ} (hk : k.store.DependsOn contents)
include hk

/-- A change on fronts that agree makes the same attempts. -/
theorem attempts_agree (x : Change) {c c' : Console ω}
    (h : contents c.world = contents c'.world) : x.attempts k c = x.attempts k c' := by
  rw [attempts_eq, attempts_eq, consult_agree hk x h, (perform_agree hk x h).1]

/-- **Refused input leaves no trace**: nothing was attempted, and the contents are as before. -/
theorem unchanged_of_isRejection {x : Change} {c : Console ω} {e : Error}
    (he : (x.perform k c).1 = .error e) (hrejection : e.isRejection = true) :
    x.attempts k c = [] ∧ contents (x.perform k c).2.world = contents c.world := by
  obtain ⟨e', entries, hr⟩ := resolve_of_isRejection hk he hrejection
  rw [attempts_eq, perform_eq, hr, conclude_error, Console.world_reports, contents_consult hk]
  exact ⟨rfl, rfl⟩

end Change

end FanControl
