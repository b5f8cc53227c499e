import FanControl.Proofs.RecordedLoop

/-!
# How often the panel is refreshed

The event loop refreshes the panel after every change that succeeds, after every batch of sources,
and after every so many turns; these may coincide, and nothing else refreshes it. A turn is
`Accounted` for by what happened in it (`EventLoop.accounted_turn`), hence a run is
(`EventLoop.accounted_run`), and counted from the first turn there are as many refreshes of the
third kind as the interval goes into the number of turns (`EventLoop.refreshes_accounted`). So the
panel is never left alone for longer than the interval, whatever arrives and whatever fails.
-/

namespace FanControl

variable {ω σ : Type}

/-! ### Waits -/

namespace Wake

/-- A wait that is interrupted does not begin a turn; every other one does. -/
def beginsTurn : Wake σ → Bool
  | .interrupted => false
  | _ => true

/-- A wait that hands out sources. -/
def handsOut : Wake σ → Bool
  | .ready _ => true
  | _ => false

end Wake

/-! ### Refreshes of the controller -/

/-- A change refreshes the panel once if it succeeds, and not at all if it fails. -/
theorem Change.refreshes_perform (k : Controller ω) (x : Change) (c : Console ω) :
    (x.perform k c).2.refreshes =
      c.refreshes + if (x.perform k c).1.isOk then 1 else 0 := by
  obtain ⟨hdisplay, hlength⟩ := Change.display_perform k x c
  rw [Display.foldl_update] at hdisplay
  rw [← hlength]
  exact congrArg Display.refreshes hdisplay

theorem Console.refreshes_reports (entries : List LogEntry) (c : Console ω) :
    (entries.foldl report c).refreshes = c.refreshes :=
  congrArg Display.refreshes (display_reports entries c)

namespace EventLoop

theorem refreshes_obey (k : Controller ω) (line : String) (c : Console ω) :
    (obey k line c).2.refreshes =
      c.refreshes + if (k.apply (.parse line) c).1.isOk then 1 else 0 := by
  simp only [obey, Console.refreshes_reports]
  exact Change.refreshes_perform k (.command (.parse line)) c

/-- The results of the changes that some lines ask for, one after the other. -/
def resultsOfLines (k : Controller ω) : List String → Console ω → List (Except Error Applied)
  | [], _ => []
  | line :: lines, c =>
    (k.apply (.parse line) c).1 :: resultsOfLines k lines (obey k line c).2

theorem refreshes_obeyAll (k : Controller ω) (lines : List String) (c : Console ω) :
    (lines.foldl (fun c line => (obey k line c).2) c).refreshes =
      c.refreshes + (resultsOfLines k lines c).countP Except.isOk := by
  induction lines generalizing c with
  | nil => rfl
  | cons line lines ih =>
    rw [List.foldl_cons, ih, refreshes_obey, resultsOfLines, List.countP_cons]
    omega

/-! ### Readings -/

/-- The results of the changes that a reading leads to: those that its lines ask for, or that of the
button that was pressed. A pipe that breaks leads to none. -/
def resultsOfReading (l : EventLoop ω) : Reading → List (Except Error Applied)
  | .pipe chunks =>
    resultsOfLines l.controller (CommandPipe.lines (l.pipe.feed chunks).1)
      ((CommandPipe.complaints (l.pipe.feed chunks).1).foldl Console.report l.console)
  | .brokenPipe .. => []
  | .button index level =>
    match l.keypad.observe index level with
    | .ok (.press, b, _) =>
      [(b.id.change.perform l.controller (l.controller.followHeld Indicator.pressed l.console)).1]
    | _ => []

theorem refreshes_handleLevel (l : EventLoop ω) (index : Nat) (level : Except Error ButtonLevel) :
    (l.handleLevel index level).console.refreshes =
      l.console.refreshes + (l.resultsOfReading (.button index level)).countP Except.isOk := by
  -- the lamp that follows the buttons refreshes nothing
  have hheld : ∀ change, (l.controller.followHeld change l.console).refreshes =
      l.console.refreshes := fun change =>
    congrArg Display.refreshes (l.controller.display_followHeld change l.console)
  rw [handleLevel, resultsOfReading]
  rcases l.keypad.observe index level with e | ⟨_ | _ | _, b, keypad⟩
  · rfl
  · have hpress : (l.controller.press b l.console).refreshes = _ :=
      congrArg Display.refreshes (Operation.display_press l.controller b l.console)
    show (l.controller.press b l.console).refreshes = _
    rw [hpress, List.countP_singleton, ← hheld Indicator.pressed]
    exact Change.refreshes_perform _ _ _
  · exact hheld Indicator.released
  · rfl

/-- A reading refreshes the panel once for each change that succeeds. -/
theorem refreshes_handle (l : EventLoop ω) (reading : Reading) :
    (l.handle reading).console.refreshes =
      l.console.refreshes + (l.resultsOfReading reading).countP Except.isOk := by
  cases reading with
  | pipe chunks =>
    simp only [handle, handleChunks, resultsOfReading, refreshes_obeyAll,
      Console.refreshes_reports]
  | brokenPipe chunks cause => exact Console.refreshes_reports _ l.console
  | button index level => exact refreshes_handleLevel l index level

/-- The number of turns, and the interval after which the panel is refreshed. -/
def clock (l : EventLoop ω) : Nat × Nat := (l.ticks, l.refreshEvery)

theorem clock_handle (l : EventLoop ω) (reading : Reading) :
    (l.handle reading).clock = l.clock := by
  cases reading with
  | pipe chunks => rfl
  | brokenPipe chunks cause => rfl
  | button index level =>
    rw [handle, handleLevel]
    rcases l.keypad.observe index level with e | ⟨event, b, keypad⟩ <;> rfl

/-! ### Sources -/

/-- The results of the changes that some ready sources lead to. -/
def resultsOfSources (read : EventLoop ω → σ → Reading × ω) :
    EventLoop ω → List σ → List (Except Error Applied)
  | _, [] => []
  | l, source :: sources =>
    (l.withWorld (read l source).2).resultsOfReading (read l source).1 ++
      resultsOfSources read (l.serve read source) sources

theorem refreshes_serveAll (read : EventLoop ω → σ → Reading × ω) (sources : List σ)
    (l : EventLoop ω) :
    (sources.foldl (serve read) l).console.refreshes =
      l.console.refreshes + (resultsOfSources read l sources).countP Except.isOk := by
  induction sources generalizing l with
  | nil => rfl
  | cons source sources ih =>
    have hserve : (l.serve read source).console.refreshes = l.console.refreshes +
        ((l.withWorld (read l source).2).resultsOfReading (read l source).1).countP Except.isOk :=
      refreshes_handle (l.withWorld (read l source).2) (read l source).1
    rw [List.foldl_cons, ih, hserve, resultsOfSources, List.countP_append, Nat.add_assoc]

theorem clock_serveAll (read : EventLoop ω → σ → Reading × ω) (sources : List σ)
    (l : EventLoop ω) : (sources.foldl (serve read) l).clock = l.clock := by
  induction sources generalizing l with
  | nil => rfl
  | cons source sources ih =>
    rw [List.foldl_cons, ih]
    exact clock_handle (l.withWorld (read l source).2) (read l source).1

/-! ### Turns -/

/-- The results of the changes of a turn. -/
def resultsOfTurn (l : EventLoop ω) (e : Episode ω σ) : List (Except Error Applied) :=
  match e.wake with
  | .ready sources => resultsOfSources e.read l sources
  | _ => []

/-- The results of the changes of a run. -/
def results (l : EventLoop ω) : List (Episode ω σ) → List (Except Error Applied)
  | [] => []
  | e :: es => l.resultsOfTurn e ++ results (l.turn e.read e.wake) es

/-- A run from one state of the loop to another is accounted for by the results of its changes. -/
structure Accounted (l : EventLoop ω) (episodes : List (Episode ω σ))
    (results : List (Except Error Applied)) (l' : EventLoop ω) : Prop where
  interval : l'.refreshEvery = l.refreshEvery
  ticks : l'.ticks = l.ticks + episodes.countP (·.wake.beginsTurn)
  /-- The refreshes due to the interval are those up to now without those up to the start. -/
  refreshes : l'.console.refreshes + l.ticks / l.refreshEvery =
    l.console.refreshes + results.countP Except.isOk + episodes.countP (·.wake.handsOut) +
      l'.ticks / l.refreshEvery

namespace Accounted

theorem refl (l : EventLoop ω) : l.Accounted ([] : List (Episode ω σ)) [] l := ⟨rfl, rfl, rfl⟩

theorem trans {l l' l'' : EventLoop ω} {es es' : List (Episode ω σ)}
    {rs rs' : List (Except Error Applied)} (h : l.Accounted es rs l')
    (h' : l'.Accounted es' rs' l'') : l.Accounted (es ++ es') (rs ++ rs') l'' where
  interval := h'.interval.trans h.interval
  ticks := by
    have hticks := h.ticks
    have hticks' := h'.ticks
    rw [List.countP_append]
    omega
  refreshes := by
    have hrefreshes := h.refreshes
    have hrefreshes' := h'.refreshes
    -- both quotients are taken by one interval, so the one in between cancels
    rw [h.interval] at hrefreshes'
    rw [List.countP_append, List.countP_append]
    omega

end Accounted

/-- Counting a turn refreshes the panel when the number of turns reaches a multiple of the
interval, and then the quotient is one more. -/
theorem refreshes_tick (l : EventLoop ω) :
    l.tick.clock = (l.ticks + 1, l.refreshEvery) ∧
      l.tick.console.refreshes + l.ticks / l.refreshEvery =
        l.console.refreshes + (l.ticks + 1) / l.refreshEvery := by
  -- the quotient grows exactly when the next number is a multiple
  have hquotient : (l.ticks + 1) / l.refreshEvery =
      l.ticks / l.refreshEvery + if (l.ticks + 1) % l.refreshEvery = 0 then 1 else 0 := by
    rw [Nat.succ_div]
    simp only [Nat.dvd_iff_mod_eq_zero]
  rw [hquotient]
  simp only [tick]
  split
  · have hrefresh : (l.controller.refresh l.console).refreshes = l.console.refreshes + 1 :=
      congrArg Display.refreshes (l.controller.display_refresh l.console)
    refine ⟨rfl, ?_⟩
    show (l.controller.refresh l.console).refreshes + _ = _
    omega
  · exact ⟨rfl, rfl⟩

/-- **A turn is accounted for.** -/
theorem accounted_turn (l : EventLoop ω) (e : Episode ω σ) :
    l.Accounted [e] (l.resultsOfTurn e) (l.turn e.read e.wake) := by
  obtain ⟨wake, read⟩ := e
  cases wake with
  | interrupted => exact ⟨rfl, rfl, rfl⟩
  | timedOut =>
    obtain ⟨hclock, hrefreshes⟩ := refreshes_tick l
    obtain ⟨hticks, hinterval⟩ := Prod.mk.inj hclock
    refine ⟨hinterval, hticks, ?_⟩
    show l.tick.console.refreshes + _ = l.console.refreshes + 0 + 0 + l.tick.ticks / _
    rw [hticks]
    exact hrefreshes
  | ready sources =>
    obtain ⟨l₁, hl₁⟩ : ∃ l₁, l₁ = sources.foldl (serve read) l := ⟨_, rfl⟩
    have hserved := refreshes_serveAll read sources l
    obtain ⟨hticks₁, hinterval₁⟩ := Prod.mk.inj (clock_serveAll read sources l)
    rw [← hl₁] at hserved hticks₁ hinterval₁
    -- the batch is over: one refresh for it, and then the turn is counted
    have hbatch : l₁.refresh.console.refreshes = l₁.console.refreshes + 1 :=
      congrArg Display.refreshes (l₁.controller.display_refresh l₁.console)
    obtain ⟨hclock, hrefreshes⟩ := refreshes_tick l₁.refresh
    obtain ⟨hticks, hinterval⟩ := Prod.mk.inj hclock
    have hturn : l.turn read (.ready sources) = l₁.refresh.tick := by rw [hl₁]; rfl
    rw [hturn]
    refine ⟨hinterval.trans hinterval₁, hticks.trans (congrArg (· + 1) hticks₁), ?_⟩
    change _ + l₁.ticks / l₁.refreshEvery = _ + (l₁.ticks + 1) / l₁.refreshEvery at hrefreshes
    change l₁.refresh.tick.ticks = l₁.ticks + 1 at hticks
    rw [hticks₁, hinterval₁] at hrefreshes
    show _ = l.console.refreshes + (resultsOfSources read l sources).countP Except.isOk + 1 + _
    rw [hticks, hticks₁]
    omega

/-- **A run is accounted for**, turn by turn. -/
theorem accounted_run (l : EventLoop ω) (episodes : List (Episode ω σ)) :
    l.Accounted episodes (l.results episodes) (l.run episodes).1 := by
  induction episodes generalizing l with
  | nil => exact .refl l
  | cons e es ih => exact (accounted_turn l e).trans (ih (l.turn e.read e.wake))

/-! ### Loops that have just been put together -/

/-- A loop before its first turn, with the interval that was asked for; zero counts as one. -/
def starting (k : Controller ω) (keypad : Keypad) (pipe : CommandPipe) (c : Console ω)
    (interval : UInt32) : EventLoop ω :=
  { controller := k, keypad, pipe, console := c, refreshEvery := max 1 interval.toNat
    refreshEvery_pos := by omega, ticks := 0 }

/-- **Every refresh of the panel is accounted for.** A loop is put together from any parts, before a
store that may answer anything, fail, and change whenever it is used; and with any interval, where
zero counts as one. It goes through any waits, which hand out any sources with any readings, or time
out, or are interrupted. Then it has made as many turns as there were waits that were not
interrupted; and the panel was refreshed once for each change that succeeded, once for each wait
that handed out sources, and as often as the interval goes into the number of turns. All that is
counted is real: there are as many refreshes in the record of the accesses that the run makes.

The interval never becomes zero, and an interrupted wait leaves the whole loop as it is. Hence the
panel is refreshed at least once in the course of any further turns that fill an interval. -/
theorem refreshes_accounted (k : Controller ω) (keypad : Keypad) (pipe : CommandPipe)
    (c : Console ω) (interval : UInt32) (episodes : List (Episode ω σ)) :
    let l := starting k keypad pipe c interval
    let now := (l.run episodes).1
    let every := max 1 interval.toNat
    now.ticks = episodes.countP (·.wake.beginsTurn) ∧
    now.console.refreshes = c.refreshes + (l.results episodes).countP Except.isOk +
      episodes.countP (·.wake.handsOut) + now.ticks / every ∧
    now.console.refreshes = c.refreshes + (Glance.ofAccesses (l.accesses episodes)).length ∧
    now.refreshEvery = every ∧
    (∀ read : EventLoop ω → σ → Reading × ω, now.turn read .interrupted = now) ∧
    ∀ later : List (Episode ω σ), every ≤ later.countP (·.wake.beginsTurn) →
      now.console.refreshes < (now.run later).1.console.refreshes := by
  intro l now every
  have hrun : l.Accounted episodes (l.results episodes) now := accounted_run l episodes
  have hticks : now.ticks = episodes.countP (·.wake.beginsTurn) :=
    hrun.ticks.trans (Nat.zero_add _)
  have hinterval : now.refreshEvery = every := hrun.interval
  have hrefreshes := hrun.refreshes
  refine ⟨hticks, ?_, l.refreshes_run episodes, hinterval, fun _ => rfl, fun later hlater => ?_⟩
  · change now.console.refreshes + 0 / every = c.refreshes + _ + _ + now.ticks / every at hrefreshes
    rw [Nat.zero_div] at hrefreshes
    exact hrefreshes
  · have hmore := accounted_run now later
    have hmoreTicks := hmore.ticks
    have hmoreRefreshes := hmore.refreshes
    rw [hinterval] at hmoreRefreshes
    -- an interval of further turns makes the quotient one more at least
    have hquotient : now.ticks / every + 1 ≤ (now.run later).1.ticks / every := by
      rw [← Nat.add_div_right _ (show 0 < every by omega)]
      exact Nat.div_le_div_right (by omega)
    omega

end EventLoop

end FanControl
