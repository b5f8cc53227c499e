import FanControl.Proofs.PanelTruth
import FanControl.Proofs.Refinement

/-!
# The event loop before a recorded store

A loop can be run before the recorded store, with sources that see the plain loop
(`Episode.recorded`). It does there what it does before the plain store (`EventLoop.records_run`),
so the record that it leaves behind, `EventLoop.accesses`, tells which accesses the plain run makes,
and in which order.

The refreshes of the run are in that record: mode, temperature and frequency, read in a row. As
every operation leaves a record without a refresh that is half done (`Operation.Trail.complete`) and
none begins in the middle of one (`Operation.Trail.fresh`), they can be told apart in the record of
the whole run. The panel is what they made of it (`EventLoop.display_run`), and their number is the
one that is counted (`EventLoop.refreshes_run`).
-/

namespace FanControl

variable {ω σ α : Type}

/-! ### Refreshes in a record -/

namespace Glance

/-- Accesses that do not begin in the middle of a refresh. -/
def Fresh (accesses : List StoreAccess) : Prop :=
  ∀ outcome later, accesses ≠ .read .temperature outcome :: later

/-- Accesses that do not end in the middle of a refresh. -/
def Complete (accesses : List StoreAccess) : Prop :=
  ∀ more, Fresh more → ofAccesses (accesses ++ more) = ofAccesses accesses ++ ofAccesses more

theorem Fresh.append {accesses more : List StoreAccess} (h : Fresh accesses) (hmore : Fresh more) :
    Fresh (accesses ++ more) := by
  rcases accesses with _ | ⟨first, rest⟩
  · exact hmore
  · intro outcome later heq
    obtain ⟨rfl, -⟩ := List.cons.inj heq
    exact h outcome rest rfl

theorem Complete.nil : Complete [] := fun _ _ => rfl

theorem Complete.append {accesses more : List StoreAccess} (h : Complete accesses)
    (hfresh : Fresh more) (hmore : Complete more) : Complete (accesses ++ more) := by
  intro rest hrest
  rw [List.append_assoc, h _ (hfresh.append hrest), hmore rest hrest, h more hfresh,
    List.append_assoc]

/-- One access is no refresh. -/
theorem ofAccesses_cons {more : List StoreAccess} (h : Fresh more) (access : StoreAccess) :
    ofAccesses (access :: more) = ofAccesses more := by
  rcases more with _ | ⟨⟨attr, outcome⟩ | ⟨attr, value, outcome⟩, later⟩
  · simp [ofAccesses]
  · cases attr with
    | temperature => exact absurd rfl (h outcome later)
    | mode => simp [ofAccesses]
    | frequency => simp [ofAccesses]
  · simp [ofAccesses]

end Glance

namespace Change

theorem fresh_consultation (x : Change) (answer : Except Error String) :
    Glance.Fresh (x.consultation answer) := by
  rcases x with (_ | _ | _) | _ | _ | _ <;> nofun

theorem complete_consultation (x : Change) (answer : Except Error String) :
    Glance.Complete (x.consultation answer) := by
  intro more hmore
  rw [Glance.ofAccesses_consultation, List.nil_append, consultation]
  rcases x.consults with _ | attr
  · rfl
  · exact Glance.ofAccesses_cons hmore _

/-- What is consulted before an attempt to write is no part of a refresh after it. -/
theorem complete_attempt (x : Change) (answer : Except Error String) (attr : Attribute)
    (value : String) (outcome : Except Error Unit) {reads : List StoreAccess}
    (h : Glance.Complete reads) :
    Glance.Complete (x.consultation answer ++ .write attr value outcome :: reads) := by
  intro more hmore
  rw [List.append_assoc, List.cons_append, Glance.ofAccesses_consultation_append,
    Glance.ofAccesses_consultation_append, h more hmore]

theorem Trail.fresh {x : Change} {answer : Except Error String} {result : Except Error Applied}
    {accesses : List StoreAccess} (h : x.Trail answer result accesses) : Glance.Fresh accesses := by
  cases h with
  | undecided h => exact x.fresh_consultation answer
  | failed e h => exact (x.fresh_consultation answer).append nofun
  | done m t f h => exact (x.fresh_consultation answer).append nofun

theorem Trail.complete {x : Change} {answer : Except Error String} {result : Except Error Applied}
    {accesses : List StoreAccess} (h : x.Trail answer result accesses) :
    Glance.Complete accesses := by
  cases h with
  | undecided h => exact x.complete_consultation answer
  | failed e h => exact x.complete_attempt answer _ _ _ .nil
  | done m t f h => exact x.complete_attempt answer _ _ _ fun _ _ => rfl

end Change

namespace Operation

theorem Trail.fresh {op : Operation} {accesses : List StoreAccess} (h : op.Trail accesses) :
    Glance.Fresh accesses := by
  cases h with
  | change h => exact h.fresh
  | refresh m t f => nofun
  | press h => exact h.fresh
  | release => nofun

theorem Trail.complete {op : Operation} {accesses : List StoreAccess} (h : op.Trail accesses) :
    Glance.Complete accesses := by
  cases h with
  | change h => exact h.complete
  | refresh m t f => exact fun _ _ => rfl
  | press h => exact h.complete
  | release => exact .nil

end Operation

/-! ### Fronts -/

/-- A front before the recorded store goes along with one before the plain store, and the refreshes
in its record have made of `start` what is displayed. -/
structure Console.Records (start : Display) (c : Console ω) (r : Console (Recorded ω)) : Prop where
  same : r = c.recording r.world.accesses
  display : c.display = (Glance.ofAccesses r.world.accesses).foldl Display.update start
  complete : Glance.Complete r.world.accesses

namespace Console.Records

variable {start : Display} {c : Console ω} {r : Console (Recorded ω)}

theorem perform (h : c.Records start r) (k : Controller ω) (op : Operation) :
    (op.perform k c).Records start (op.perform k.recorded r) := by
  obtain ⟨hsame, hdisplay, hcomplete⟩ := h
  have htrail := op.trail_accesses k c
  rw [hsame, Operation.perform_recording]
  refine ⟨rfl, ?_, hcomplete.append htrail.fresh htrail.complete⟩
  change _ = (Glance.ofAccesses (r.world.accesses ++ op.accesses k c)).foldl Display.update start
  rw [hcomplete _ htrail.fresh, List.foldl_append, ← hdisplay, Operation.display_perform]

theorem reports (h : c.Records start r) (entries : List LogEntry) :
    (entries.foldl report c).Records start (entries.foldl report r) := by
  obtain ⟨hsame, hdisplay, hcomplete⟩ := h
  rw [hsame, recording_reports]
  exact ⟨rfl, (display_reports entries c).trans hdisplay, hcomplete⟩

theorem obey (h : c.Records start r) (k : Controller ω) (line : String) :
    (EventLoop.obey k line c).2.Records start (EventLoop.obey k.recorded line r).2 := by
  -- what is reported after a command depends on its result, which is the same
  have hresult : (k.recorded.apply (.parse line) r).1 = (k.apply (.parse line) c).1 := by
    obtain ⟨accesses, -, hrun⟩ := Change.perform_recorded k (.command (.parse line)) c
    rw [h.same]
    exact congrArg Prod.fst (hrun r.world.accesses)
  simp only [EventLoop.obey, hresult]
  exact (h.perform k (.change (.command (.parse line)))).reports _

theorem obeyAll (h : c.Records start r) (k : Controller ω) (lines : List String) :
    (lines.foldl (fun c line => (EventLoop.obey k line c).2) c).Records start
      (lines.foldl (fun r line => (EventLoop.obey k.recorded line r).2) r) := by
  induction lines generalizing c r with
  | nil => exact h
  | cons line lines ih => exact ih (h.obey k line)

theorem notify (h : c.Records start r) (k : Controller ω) (event : ButtonEvent) (b : Button) :
    (k.notify event b c).Records start (k.recorded.notify event b r) := by
  cases event with
  | press => exact h.perform k (.press b)
  | release => exact h.perform k (.release b)
  | unchanged => exact h

end Console.Records

/-! ### From a recorded loop back to the plain one -/

/-- An action on a world with a record, seen from the world alone. -/
def Action.unrecorded (m : Action (Recorded ω) α) : Action ω α := fun w =>
  let (result, w) := m ⟨w, []⟩
  (result, w.world)

/-- A controller before a world with a record, seen from the world alone. -/
def Controller.unrecorded (k : Controller (Recorded ω)) : Controller ω where
  store := ⟨fun attr => (k.store.read attr).unrecorded,
    fun attr value => (k.store.write attr value).unrecorded⟩
  lamp := k.lamp.map fun lamp on => (lamp on).unrecorded

/-- Whoever does not see the record sees the plain controller. -/
theorem Controller.unrecorded_recorded (k : Controller ω) : k.recorded.unrecorded = k := by
  rcases k with ⟨store, _ | lamp⟩ <;> rfl

namespace EventLoop

/-- The same loop before a recorded store, with these accesses in the record. -/
def recording (l : EventLoop ω) (past : List StoreAccess) : EventLoop (Recorded ω) :=
  { l with controller := l.controller.recorded, console := l.console.recording past }

/-- A loop before a recorded store, seen without the record. -/
def unrecorded (r : EventLoop (Recorded ω)) : EventLoop ω :=
  { r with
    controller := r.controller.unrecorded
    console := { r.console with world := r.console.world.world } }

theorem unrecorded_recording (l : EventLoop ω) (past : List StoreAccess) :
    (l.recording past).unrecorded = l := by
  have hcontroller := l.controller.unrecorded_recorded
  rcases l with ⟨controller, keypad, pipe, console, every, hpos, ticks⟩
  simp only [recording, unrecorded, hcontroller]
  rfl

end EventLoop

/-- The same episode before a recorded store: its sources give what they give before the plain one,
and what they do is not recorded. -/
def Episode.recorded (e : Episode ω σ) : Episode (Recorded ω) σ where
  wake := e.wake
  read r source :=
    let (reading, w) := e.read r.unrecorded source
    (reading, ⟨w, r.console.world.accesses⟩)

/-! ### Turns -/

/-- A loop before the recorded store goes along with one before the plain store. -/
structure EventLoop.Records (start : Display) (l : EventLoop ω) (r : EventLoop (Recorded ω)) :
    Prop where
  controller : r.controller = l.controller.recorded
  keypad : r.keypad = l.keypad
  pipe : r.pipe = l.pipe
  console : l.console.Records start r.console
  interval : r.refreshEvery = l.refreshEvery
  ticks : r.ticks = l.ticks

namespace EventLoop.Records

variable {start : Display} {l : EventLoop ω} {r : EventLoop (Recorded ω)}

theorem eq_recording (h : l.Records start r) : r = l.recording r.console.world.accesses := by
  obtain ⟨hcontroller, hkeypad, hpipe, ⟨hconsole, -, -⟩, hinterval, hticks⟩ := h
  rcases r with ⟨controller, keypad, pipe, console, every, hpos, ticks⟩
  -- all fields but the console are equal one by one
  subst hcontroller hkeypad hpipe hinterval hticks
  change console = _ at hconsole
  simp only [recording, ← hconsole]

theorem unrecorded (h : l.Records start r) : r.unrecorded = l := by
  rw [h.eq_recording, unrecorded_recording]

theorem handleChunks (h : l.Records start r) (chunks : List (List UInt8)) :
    (l.handleChunks chunks).Records start (r.handleChunks chunks) where
  controller := h.controller
  keypad := h.keypad
  pipe := by simp only [EventLoop.handleChunks, h.pipe]
  console := by
    simp only [EventLoop.handleChunks, h.pipe, h.controller]
    exact (h.console.reports _).obeyAll l.controller _
  interval := h.interval
  ticks := h.ticks

theorem handleBrokenPipe (h : l.Records start r) (chunks : List (List UInt8))
    (cause : AccessFault) :
    (l.handleBrokenPipe chunks cause).Records start (r.handleBrokenPipe chunks cause) where
  controller := h.controller
  keypad := h.keypad
  pipe := by simp only [EventLoop.handleBrokenPipe, h.pipe]
  console := by
    simp only [EventLoop.handleBrokenPipe, h.pipe]
    exact (h.console.reports _).reports [_]
  interval := h.interval
  ticks := h.ticks

theorem handleLevel (h : l.Records start r) (index : Nat) (level : Except Error ButtonLevel) :
    (l.handleLevel index level).Records start (r.handleLevel index level) := by
  rw [EventLoop.handleLevel, EventLoop.handleLevel, h.keypad]
  rcases l.keypad.observe index level with e | ⟨event, b, keypad⟩
  · exact ⟨h.controller, rfl, h.pipe, h.console.reports [_], h.interval, h.ticks⟩
  · refine ⟨h.controller, rfl, h.pipe, ?_, h.interval, h.ticks⟩
    dsimp only
    rw [h.controller]
    exact h.console.notify l.controller event b

theorem handle (h : l.Records start r) (reading : Reading) :
    (l.handle reading).Records start (r.handle reading) := by
  cases reading with
  | pipe chunks => exact h.handleChunks chunks
  | brokenPipe chunks cause => exact h.handleBrokenPipe chunks cause
  | button index level => exact h.handleLevel index level

theorem refresh (h : l.Records start r) : l.refresh.Records start r.refresh where
  controller := h.controller
  keypad := h.keypad
  pipe := h.pipe
  console := by
    rw [EventLoop.refresh, EventLoop.refresh, h.controller]
    exact h.console.perform l.controller .refresh
  interval := h.interval
  ticks := h.ticks

theorem tick (h : l.Records start r) : l.tick.Records start r.tick := by
  have hcount : EventLoop.Records start { l with ticks := l.ticks + 1 }
      { r with ticks := r.ticks + 1 } :=
    ⟨h.controller, h.keypad, h.pipe, h.console, h.interval, congrArg (· + 1) h.ticks⟩
  -- both loops count the same turns, so they refresh in the same ones
  have hdue : (r.ticks + 1) % r.refreshEvery = (l.ticks + 1) % l.refreshEvery := by
    rw [h.ticks, h.interval]
  simp only [EventLoop.tick, hdue]
  split
  · exact hcount.refresh
  · exact hcount

/-- The sources do not see the record, so they give the same before it and leave it alone. -/
theorem serve (h : l.Records start r) (e : Episode ω σ) (source : σ) :
    (l.serve e.read source).Records start (r.serve e.recorded.read source) := by
  obtain ⟨hsame, hdisplay, hcomplete⟩ := h.console
  have hworld : EventLoop.Records start (l.withWorld (e.read l source).2)
      (r.withWorld ⟨(e.read l source).2, r.console.world.accesses⟩) := by
    refine ⟨h.controller, h.keypad, h.pipe, ⟨?_, hdisplay, hcomplete⟩, h.interval, h.ticks⟩
    simp only [withWorld]
    rw [hsame]
    rfl
  simp only [EventLoop.serve, Episode.recorded, h.unrecorded]
  exact hworld.handle (e.read l source).1

/-- **A turn before the recorded store** is the turn before the plain one. -/
theorem turn (h : l.Records start r) (e : Episode ω σ) :
    (l.turn e.read e.wake).Records start (r.turn e.recorded.read e.recorded.wake) := by
  have hserve : ∀ (sources : List σ) {l : EventLoop ω} {r : EventLoop (Recorded ω)},
      l.Records start r → (sources.foldl (EventLoop.serve e.read) l).Records start
        (sources.foldl (EventLoop.serve e.recorded.read) r) := by
    intro sources
    induction sources with
    | nil => exact fun h => h
    | cons source sources ih => exact fun h => ih (h.serve e source)
  -- an episode is recorded with the wait that it has
  change (l.turn e.read e.wake).Records start (r.turn e.recorded.read e.wake)
  cases e.wake with
  | timedOut => exact h.tick
  | interrupted => exact h
  | ready sources => exact (hserve sources h).refresh.tick

/-! ### Whole runs -/

theorem run (h : l.Records start r) (episodes : List (Episode ω σ)) :
    (l.run episodes).1.Records start (r.run (episodes.map Episode.recorded)).1 := by
  induction episodes generalizing l r with
  | nil => exact h
  | cons e es ih => exact ih (h.turn e)

end EventLoop.Records

namespace EventLoop

/-- The accesses that a run makes to the attributes. -/
def accesses (l : EventLoop ω) (episodes : List (Episode ω σ)) : List StoreAccess :=
  ((l.recording []).run (episodes.map Episode.recorded)).1.console.world.accesses

/-- **A run before the recorded store** is the run before the plain one. -/
theorem records_run (l : EventLoop ω) (episodes : List (Episode ω σ)) :
    (l.run episodes).1.Records l.console.display
      ((l.recording []).run (episodes.map Episode.recorded)).1 := by
  have hstart : l.Records l.console.display (l.recording []) :=
    ⟨rfl, rfl, rfl, ⟨rfl, rfl, .nil⟩, rfl, rfl⟩
  exact hstart.run episodes

/-- All that a run does to the panel is to refresh it, and the refreshes are those in its record. -/
theorem display_run (l : EventLoop ω) (episodes : List (Episode ω σ)) :
    (l.run episodes).1.console.display =
      (Glance.ofAccesses (l.accesses episodes)).foldl Display.update l.console.display :=
  (l.records_run episodes).console.display

/-- The refreshes that are counted are those in the record. -/
theorem refreshes_run (l : EventLoop ω) (episodes : List (Episode ω σ)) :
    (l.run episodes).1.console.refreshes =
      l.console.refreshes + (Glance.ofAccesses (l.accesses episodes)).length := by
  have hdisplay := l.display_run episodes
  rw [Display.foldl_update] at hdisplay
  exact congrArg Display.refreshes hdisplay

/-- **The panel of a running loop tells the truth** about what its refreshes found, if it was new at
the start: whatever the store answers, whatever the sources give and whatever fails. -/
theorem run_truthful {l : EventLoop ω} (hnew : l.console.display = ⟨.initial, [], 0⟩)
    (episodes : List (Episode ω σ)) :
    (l.run episodes).1.console.display.Truthful (Glance.ofAccesses (l.accesses episodes)) := by
  rw [display_run, hnew]
  exact Display.truthful_foldl_update _

end EventLoop

end FanControl
