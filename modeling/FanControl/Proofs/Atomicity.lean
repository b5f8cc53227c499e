import FanControl.Attribute.Memory
import FanControl.Proofs.Accesses

/-!
# Changes are all or nothing

A `Shelf` is a store that keeps texts: reads and writes fail as it is set, a write that succeeds
is what is read from then on, and one that fails leaves the text alone. Before such a store a
change either fails and has touched nothing (`Console.Untouched`), or it has written one text and
shown the store with it (`Console.Completed`). `Change.all_or_nothing` says so for every change,
every shelf and every front; a change that is refused as input has not even tried to write.
-/

namespace FanControl

/-! ### Shelves -/

/-- Texts on a shelf, and the failures of reads and writes that are set. -/
structure Shelf where
  stored : Attribute → String
  readFault : Attribute → Option (String × AccessFault)
  writeFault : Attribute → Option (String × AccessFault)

namespace Shelf

/-- What reading an attribute gives. -/
def answer (w : Shelf) (attr : Attribute) : Except Error String :=
  match w.readFault attr with
  | none => .ok (w.stored attr)
  | some (path, cause) => .error (.attributeRead path cause)

/-- Puts a text on the shelf; faults stay as they are. -/
def put (w : Shelf) (attr : Attribute) (value : String) : Shelf :=
  { w with stored := Memory.update w.stored attr value }

/-- Writes an attribute. -/
def write (attr : Attribute) (value : String) : Action Shelf Unit := fun w =>
  match w.writeFault attr with
  | none => (.ok (), w.put attr value)
  | some (path, cause) => (.error (.attributeWrite path cause), w)

/-- The store that reads and writes the shelf. -/
def store : AttributeStore Shelf := ⟨fun attr => .query (answer · attr), write⟩

theorem store_answers : store.Answers answer := fun _ _ => rfl

end Shelf

/-! ### Nothing, or all -/

namespace Console

/-- Nothing was stored, and nothing was shown. -/
structure Untouched (c c' : Console Shelf) : Prop where
  world : c'.world = c.world
  panel : c'.panel = c.panel
  pushes : c'.pushes = c.pushes
  refreshes : c'.refreshes = c.refreshes

/-- The panel was refreshed once, and shows the shelf as it is in `w`: the mode, the temperature and
the frequency were pushed in this order, as far as they have values. -/
structure Refreshed (w : Shelf) (c c' : Console Shelf) : Prop where
  world : c'.world = w
  refreshes : c'.refreshes = c.refreshes + 1
  pushes : c'.pushes = c.pushes ++ Push.ofAnswers [.mode, .temperature, .frequency] w.answer
  panel : c'.panel =
    (Push.ofAnswers [.mode, .temperature, .frequency] w.answer).foldl Panel.present c.panel

/-- One attribute was written, and then the shelf was shown with the new text. -/
structure Completed (applied : Applied) (accesses : List StoreAccess) (c c' : Console Shelf) :
    Prop where
  /-- There was one attempt to write. It succeeded, and the attributes were read after it. -/
  accesses : ∃ earlier m t f, (∀ a ∈ earlier, a.isWrite = false) ∧
    accesses = earlier ++ [.write applied.target applied.text (.ok ()), .read .mode m,
      .read .temperature t, .read .frequency f]
  /-- Only the text of the result is new on the shelf that is shown. -/
  refreshed : Refreshed (c.world.put applied.target applied.text) c c'

theorem Untouched.of_reports (entries : List LogEntry) (c : Console Shelf) :
    Untouched c (entries.foldl report c) := by
  induction entries generalizing c with
  | nil => exact ⟨rfl, rfl, rfl, rfl⟩
  | cons entry entries ih =>
    obtain ⟨hworld, hpanel, hpushes, hrefreshes⟩ := ih (c.report entry)
    exact ⟨hworld, hpanel, hpushes, hrefreshes⟩

/-- What pushing values to the panel does. -/
theorem foldl_present {ω : Type} (pushes : List Push) (c : Console ω) :
    (pushes.foldl present c).world = c.world ∧
      (pushes.foldl present c).refreshes = c.refreshes ∧
      (pushes.foldl present c).pushes = c.pushes ++ pushes ∧
      (pushes.foldl present c).panel = pushes.foldl Panel.present c.panel := by
  induction pushes generalizing c with
  | nil => exact ⟨rfl, rfl, (List.append_nil _).symm, rfl⟩
  | cons push pushes ih =>
    -- one push first; the rest follows from its front
    have hpush : (c.present push).pushes = c.pushes ++ [push] ∧
        (c.present push).panel = c.panel.present push ∧
        (c.present push).refreshes = c.refreshes := by
      unfold present
      split <;> exact ⟨rfl, rfl, rfl⟩
    obtain ⟨hpushes, hpanel, hrefreshes⟩ := hpush
    rw [List.foldl_cons, List.foldl_cons, ← hrefreshes, ← hpanel, ← world_present c push,
      List.append_cons, ← hpushes]
    exact ih (c.present push)

theorem Refreshed.of_refresh (lamp : Option (Bool → Action Shelf Unit)) (c : Console Shelf) :
    Refreshed c.world c (Controller.refresh ⟨Shelf.store, lamp⟩ c) := by
  rw [Controller.refresh_eq _ Shelf.store_answers]
  obtain ⟨hworld, hrefreshes, hpushes, hpanel⟩ := foldl_present
    (Push.ofAnswers [.mode, .temperature, .frequency] c.world.answer)
    { c with refreshes := c.refreshes + 1 }
  exact ⟨hworld, hrefreshes, hpushes, hpanel⟩

end Console

/-! ### The stages of a change -/

section Stages

variable (lamp : Option (Bool → Action Shelf Unit))

/-- Consulting a shelf leaves everything alone. -/
theorem Change.consult_shelf (x : Change) (c : Console Shelf) :
    (x.consult ⟨Shelf.store, lamp⟩ c).2 = c := by
  unfold consult
  cases x.consults <;> rfl

/-- A write that fails is the end of a change. -/
theorem Decision.carryOut_failed (d : Decision) (c : Console Shelf) {path : String}
    {cause : AccessFault} (h : c.world.writeFault d.result.target = some (path, cause)) :
    d.carryOut ⟨Shelf.store, lamp⟩ c = (.error (.attributeWrite path cause), c) := by
  have hwrite : Console.inWorld (Shelf.store.write d.result.target d.result.text) c =
      (.error (.attributeWrite path cause), c) := by
    simp only [Console.inWorld, Action.focus, Shelf.store, Shelf.write, h]
  rw [carryOut_apply, hwrite]

/-- A write that succeeds is followed by a refresh. -/
theorem Decision.carryOut_done (d : Decision) (c : Console Shelf)
    (h : c.world.writeFault d.result.target = none) :
    d.carryOut ⟨Shelf.store, lamp⟩ c =
      (.ok d.result, Controller.refresh ⟨Shelf.store, lamp⟩
        (Console.report { c with world := c.world.put d.result.target d.result.text }
          d.entry)) := by
  have hwrite : Console.inWorld (Shelf.store.write d.result.target d.result.text) c =
      (.ok (), { c with world := c.world.put d.result.target d.result.text }) := by
    simp only [Console.inWorld, Action.focus, Shelf.store, Shelf.write, h]
  rw [carryOut_apply, hwrite]

end Stages

/-! ### All or nothing -/

namespace Change

/-- A decision that is carried out has been written, once. -/
theorem Trail.completed {x : Change} {answer : Except Error String} {applied : Applied}
    {accesses : List StoreAccess} (h : x.Trail answer (.ok applied) accesses) :
    ∃ earlier m t f, (∀ a ∈ earlier, a.isWrite = false) ∧
      accesses = earlier ++ [.write applied.target applied.text (.ok ()), .read .mode m,
        .read .temperature t, .read .frequency f] := by
  cases h with
  | done m t f _ => exact ⟨_, m, t, f, fun _ => not_isWrite_of_mem_consultation, rfl⟩

/-- Without a decision there is no attempt to write. -/
theorem Trail.not_isWrite {x : Change} {answer : Except Error String} {e : Error}
    {result : Except Error Applied} {accesses : List StoreAccess}
    (h : x.Trail answer result accesses) (he : (x.resolve answer).1 = .error e) :
    ∀ a ∈ accesses, a.isWrite = false := by
  cases h with
  | undecided _ => exact fun _ => not_isWrite_of_mem_consultation
  | failed _ hd => rw [hd] at he; cases he
  | done _ _ _ hd => rw [hd] at he; cases he

/-- **Changes are all or nothing.** A controller, with or without a lamp, makes any change on any
shelf, whatever texts are on it, whichever of its reads and writes fail, and whatever the panel
shows. If the change fails, the shelf is as it was and nothing was shown; if it was refused as
input, nothing tried to write. If the change succeeds, there was one attempt to write, which put
the text of the result on the shelf and changed nothing else there, and then one refresh, which
showed the shelf with the new text. -/
theorem all_or_nothing (lamp : Option (Bool → Action Shelf Unit)) (x : Change)
    (c : Console Shelf) :
    let k : Controller Shelf := ⟨Shelf.store, lamp⟩
    let accesses := (Operation.change x).accesses k c
    match x.perform k c with
    | (.error e, c') =>
      c.Untouched c' ∧ (e.isRejection = true → ∀ a ∈ accesses, a.isWrite = false)
    | (.ok applied, c') => Console.Completed applied accesses c c' := by
  intro k accesses
  have htrail := Operation.trail_accesses_change k x c
  obtain ⟨answer, hanswer⟩ : ∃ answer, answer = (x.consult k c).1 := ⟨_, rfl⟩
  rw [← hanswer] at htrail
  have hperform := perform_eq k x c
  -- reading a shelf changes nothing, so the change begins on the front as it was
  rw [consult_shelf, ← hanswer] at hperform
  rcases hr : x.resolve answer with ⟨e | d, entries⟩
  · rw [hr, conclude_error] at hperform
    rw [hperform]
    exact ⟨.of_reports entries c, fun _ => htrail.not_isWrite (congrArg Prod.fst hr)⟩
  · obtain ⟨hworld, hpanel, hpushes, hrefreshes⟩ := Console.Untouched.of_reports entries c
    rw [hr, conclude_ok] at hperform
    -- a decision: the fault of the shelf says whether the write succeeds
    rcases hfault : c.world.writeFault d.result.target with _ | ⟨path, cause⟩
    · rw [Decision.carryOut_done lamp d _ (by rw [hworld, hfault])] at hperform
      rw [hperform] at htrail ⊢
      obtain ⟨hworld', hrefreshes', hpushes', hpanel'⟩ := Console.Refreshed.of_refresh lamp
        (Console.report { entries.foldl Console.report c with
          world := c.world.put d.result.target d.result.text } d.entry)
      rw [hworld]
      -- the refresh is counted from the front before the records, which did not show anything
      refine ⟨htrail.completed, hworld', hrefreshes'.trans ?_, hpushes'.trans ?_, hpanel'.trans ?_⟩
      · exact congrArg (· + 1) hrefreshes
      · exact congrArg (· ++ _) hpushes
      · exact congrArg (List.foldl Panel.present · _) hpanel
    · rw [Decision.carryOut_failed lamp d _ (by rw [hworld, hfault])] at hperform
      rw [hperform]
      refine ⟨.of_reports entries c, fun he => ?_⟩
      cases he

end Change

end FanControl
