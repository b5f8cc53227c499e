import FanControl.Proofs.Debounce
import FanControl.Proofs.Dial
import FanControl.Proofs.Framing

/-!
# The event loop refines a dial

A `Watcher` looks at what the ready sources give and turns its dial accordingly: on every complete
line of 1 to 256 bytes, and whenever a button that was up is read as down. Apart from the dial it
remembers only what it takes to recognise the next event, the unfinished line and the last level of
every button.

`Watcher.Follows` is the simulation relation between the watcher and the loop. One reading keeps it
(`Follows.handle`), hence a turn keeps it (`Follows.turn`), hence every run of turns does
(`Follows.run`); and a store that is followed reads as the dial says
(`EventLoop.run_reads_as_dial`).
-/

namespace FanControl

variable {ω σ : Type}

/-! ### The watcher -/

/-- A dial, and what has to be remembered to recognise the events that turn it. -/
structure Watcher where
  dial : Dial
  /-- The bytes since the last line feed. -/
  tail : List UInt8
  /-- The buttons and the levels last read. -/
  keys : List (ButtonId × ButtonLevel)

namespace Watcher

/-- Before the first event. -/
def start (d : Dial) (k : Keypad) : Watcher := ⟨d, [], k.buttons.map fun b => (b.id, b.level)⟩

/-- What a reading does: each line that it completes is a command, unless the pipe breaks behind
it, and a button that is down for the first time is pressed. Nothing else turns the dial. -/
def hear (w : Watcher) : Reading → Watcher
  | .pipe chunks =>
    let stream := w.tail ++ chunks.flatten
    { w with
      dial := (Framing.texts stream).foldl (fun d line => d.follow (.command (.parse line))) w.dial
      tail := Framing.unfinished stream }
  | .brokenPipe chunks _ => { w with tail := Framing.unfinished (w.tail ++ chunks.flatten) }
  | .button index (.ok level) =>
    match w.keys[index]? with
    | none => w
    | some (id, last) =>
      { w with
        dial := if last = .released ∧ level = .pressed then w.dial.follow id.change else w.dial
        keys := w.keys.set index (id, level) }
  | .button _ (.error _) => w

end Watcher

/-! ### Runs -/

/-- A wait that has ended, and a way of reading the sources that are ready. -/
structure Episode (ω σ : Type) where
  wake : Wake σ
  read : EventLoop ω → σ → Reading × ω

/-- A wait after which it is known what the ready sources give. -/
def Episode.known (wake : Wake Reading) : Episode ω Reading :=
  ⟨wake, fun l reading => (reading, l.console.world)⟩

namespace EventLoop

/-- What the ready sources give, one after the other. -/
def readings (read : EventLoop ω → σ → Reading × ω) : EventLoop ω → List σ → List Reading
  | _, [] => []
  | l, source :: sources => (read l source).1 :: readings read (l.serve read source) sources

/-- What is read in a turn. -/
def heard (l : EventLoop ω) (e : Episode ω σ) : List Reading :=
  match e.wake with
  | .ready sources => l.readings e.read sources
  | _ => []

/-- One turn after another: the loop after the last one, and all that was read. -/
def run (l : EventLoop ω) : List (Episode ω σ) → EventLoop ω × List Reading
  | [] => (l, [])
  | e :: es =>
    let (l', later) := (l.turn e.read e.wake).run es
    (l', l.heard e ++ later)

end EventLoop

/-! ### One reading -/

/-- The watcher and the loop agree. -/
structure Watcher.Follows (v : Contents ω) (k : Controller ω) (w : Watcher) (l : EventLoop ω) :
    Prop where
  controller : l.controller = k
  shown : w.dial.Shown v l.console.world
  framing : l.pipe.framing = Framing.carried w.tail
  tail : 10 ∉ w.tail
  keys : l.keypad.buttons.map (fun b => (b.id, b.level)) = w.keys

theorem EventLoop.world_obey (k : Controller ω) (line : String) (c : Console ω) :
    (obey k line c).2.world = ((Change.command (.parse line)).perform k c).2.world := by
  simp only [obey, Console.world_reports]
  rfl

theorem Operation.world_press (k : Controller ω) (b : Button) (c : Console ω) :
    (k.press b c).world =
      (b.id.change.perform k (k.followHeld Indicator.pressed c)).2.world := by
  rw [press_eq]
  rcases b.id.change.perform k (k.followHeld Indicator.pressed c) with ⟨_ | _, c⟩ <;> rfl

section

variable {v : Contents ω} {k : Controller ω} (hk : k.Faithful v)
include hk

/-- Lines that are handled one after the other. -/
theorem Dial.Shown.obey (lines : List String) {d : Dial} {c : Console ω}
    (h : d.Shown v c.world) :
    (lines.foldl (fun d line => d.follow (.command (.parse line))) d).Shown v
      (lines.foldl (fun c line => (EventLoop.obey k line c).2) c).world := by
  induction lines generalizing d c with
  | nil => exact h
  | cons line lines ih =>
    apply ih
    rw [EventLoop.world_obey]
    exact Dial.Shown.perform hk _ h

/-- A reading of a button that is passed on. -/
theorem Dial.Shown.notify {d : Dial} {c : Console ω} (h : d.Shown v c.world) (b : Button)
    (level : ButtonLevel) :
    (if b.level = .released ∧ level = .pressed then d.follow b.id.change else d).Shown v
      (k.notify (b.observe level).2 (b.observe level).1 c).world := by
  -- only a press operates the dial; a release and a repetition leave the texts alone
  by_cases hpress : b.level = .released ∧ level = .pressed
  · have hheld := h.of_same (hk.followHeld Indicator.pressed h.sound)
    rw [if_pos hpress, (Button.observe_snd_eq_press_iff b level).mpr hpress, Button.observe_fst]
    rw [Controller.notify, Operation.world_press]
    exact Dial.Shown.perform hk b.id.change hheld
  · rw [if_neg hpress]
    rcases hevent : (b.observe level).2 with _ | _ | _
    · exact absurd ((Button.observe_snd_eq_press_iff b level).mp hevent) hpress
    · exact h.of_same (hk.followHeld Indicator.released h.sound)
    · exact h

namespace Watcher.Follows

variable {w : Watcher} {l : EventLoop ω}

theorem handleChunks (h : w.Follows v k l) (chunks : List (List UInt8)) :
    (w.hear (.pipe chunks)).Follows v k (l.handleChunks chunks) := by
  obtain ⟨hstate, hlines⟩ := Framing.feed_carried h.tail chunks.flatten
  rw [← h.framing] at hstate hlines
  simp only [EventLoop.handleChunks, CommandPipe.feed_eq, hlines, hear]
  refine ⟨h.controller, ?_, hstate, Framing.not_mem_unfinished _, h.keys⟩
  rw [h.controller]
  apply Dial.Shown.obey hk
  rw [Console.world_reports]
  exact h.shown

omit hk in
/-- The lines in front of a failure are lost, and only what is unfinished counts. -/
theorem handleBrokenPipe (h : w.Follows v k l) (chunks : List (List UInt8)) (cause : AccessFault) :
    (w.hear (.brokenPipe chunks cause)).Follows v k (l.handleBrokenPipe chunks cause) := by
  obtain ⟨hstate, -⟩ := Framing.feed_carried h.tail chunks.flatten
  rw [← h.framing] at hstate
  simp only [EventLoop.handleBrokenPipe, CommandPipe.feed_eq, hear]
  refine ⟨h.controller, ?_, hstate, Framing.not_mem_unfinished _, h.keys⟩
  change w.dial.Shown v (List.foldl Console.report l.console _).world
  rw [Console.world_reports]
  exact h.shown

theorem handleLevel (h : w.Follows v k l) (index : Nat) (level : Except Error ButtonLevel) :
    (w.hear (.button index level)).Follows v k (l.handleLevel index level) := by
  have hkey : w.keys[index]? = l.keypad.buttons[index]?.map fun b => (b.id, b.level) := by
    rw [← h.keys, List.getElem?_map]
  rcases hb : l.keypad.buttons[index]? with _ | b
  · -- there is no such button, and the loop only reports it
    have hhear : w.hear (.button index level) = w := by
      rcases level with e | level
      · rfl
      · simp only [hear, hkey, hb, Option.map_none]
    simp only [hhear, EventLoop.handleLevel, Keypad.observe, hb]
    exact ⟨h.controller, h.shown, h.framing, h.tail, h.keys⟩
  · -- a level that cannot be read is reported, and the watcher hears nothing of it
    rcases level with e | level
    · simp only [hear, EventLoop.handleLevel, Keypad.observe, hb]
      exact ⟨h.controller, h.shown, h.framing, h.tail, h.keys⟩
    · simp only [hear, EventLoop.handleLevel, Keypad.observe, hkey, hb, Option.map_some]
      refine ⟨h.controller, ?_, h.framing, h.tail, ?_⟩
      · rw [h.controller]
        exact h.shown.notify hk b level
      · rw [List.map_set, h.keys, Button.observe_fst]

theorem handle (h : w.Follows v k l) (reading : Reading) :
    (w.hear reading).Follows v k (l.handle reading) := by
  cases reading with
  | pipe chunks => exact h.handleChunks hk chunks
  | brokenPipe chunks cause => exact h.handleBrokenPipe chunks cause
  | button index level => exact h.handleLevel hk index level

/-! ### One turn -/

theorem refresh (h : w.Follows v k l) : w.Follows v k l.refresh where
  controller := h.controller
  shown := by
    rw [EventLoop.refresh, h.controller]
    exact h.shown.of_same (hk.refresh h.shown.sound)
  framing := h.framing
  tail := h.tail
  keys := h.keys

theorem tick (h : w.Follows v k l) : w.Follows v k l.tick := by
  have hcount : w.Follows v k { l with ticks := l.ticks + 1 } :=
    ⟨h.controller, h.shown, h.framing, h.tail, h.keys⟩
  simp only [EventLoop.tick]
  split
  · exact hcount.refresh hk
  · exact hcount

/-- **Serving a source** is hearing what it gives. -/
theorem serve (h : w.Follows v k l) {read : EventLoop ω → σ → Reading × ω} (source : σ)
    (hread : v.Same l.console.world (read l source).2) :
    (w.hear (read l source).1).Follows v k (l.serve read source) := by
  have hread' : w.Follows v k (l.withWorld (read l source).2) :=
    ⟨h.controller, h.shown.of_same hread, h.framing, h.tail, h.keys⟩
  exact hread'.handle hk (read l source).1

theorem serveAll {read : EventLoop ω → σ → Reading × ω}
    (hread : ∀ l' source, v.sound l'.console.world → v.Same l'.console.world (read l' source).2)
    (h : w.Follows v k l) (sources : List σ) :
    ((l.readings read sources).foldl hear w).Follows v k
      (sources.foldl (EventLoop.serve read) l) := by
  induction sources generalizing w l with
  | nil => exact h
  | cons source sources ih => exact ih (h.serve hk source (hread l source h.shown.sound))

/-- **A turn** is hearing everything that is read in it. -/
theorem turn (h : w.Follows v k l) (e : Episode ω σ)
    (hread : ∀ l' source, v.sound l'.console.world →
      v.Same l'.console.world (e.read l' source).2) :
    ((l.heard e).foldl hear w).Follows v k (l.turn e.read e.wake) := by
  unfold EventLoop.heard
  rcases e.wake with _ | _ | sources
  · exact h.tick hk
  · exact h
  · exact ((h.serveAll hk hread sources).refresh hk).tick hk

/-! ### Whole runs -/

theorem run (h : w.Follows v k l) (episodes : List (Episode ω σ))
    (hread : ∀ e ∈ episodes, ∀ l' source, v.sound l'.console.world →
      v.Same l'.console.world (e.read l' source).2) :
    ((l.run episodes).2.foldl hear w).Follows v k (l.run episodes).1 := by
  induction episodes generalizing w l with
  | nil => exact h
  | cons e es ih =>
    have hturn := h.turn hk e (hread e (List.mem_cons_self ..))
    have hrun := ih hturn fun e he => hread e (List.mem_cons_of_mem _ he)
    rw [← List.foldl_append] at hrun
    exact hrun

end Watcher.Follows

end

namespace EventLoop

/-- The store behind a loop reads as a dial. -/
structure ReadsAs (l : EventLoop ω) (d : Dial) : Prop where
  mode : (l.controller.store.readMode l.console.world).1 = .ok d.mode
  hz : (l.controller.store.readFrequency l.console.world).1.map Int64.toInt = .ok d.hz

theorem readsAs_iff {v : Contents ω} {l : EventLoop ω} (hk : l.controller.Faithful v)
    (hsound : v.sound l.console.world) (d : Dial) :
    l.ReadsAs d ↔ d.Reads (v.text l.console.world) := by
  -- what a faithful store answers is the meaning of the text it holds
  have hmode : (l.controller.store.readMode l.console.world).1 =
      Change.modeOf (v.text l.console.world .mode) := by
    have hmeaning := congrArg Prod.fst (Change.inWorld_readMode l.controller.store l.console)
    rw [(hk.inWorld_read .mode hsound).1] at hmeaning
    exact hmeaning
  have hhz : (l.controller.store.readFrequency l.console.world).1 =
      Change.frequencyOf (v.text l.console.world .frequency) := by
    have hmeaning := congrArg Prod.fst (Change.inWorld_readFrequency l.controller.store l.console)
    rw [(hk.inWorld_read .frequency hsound).1] at hmeaning
    exact hmeaning
  constructor
  · rintro ⟨hm, hf⟩
    exact ⟨hmode ▸ hm, hhz ▸ hf⟩
  · rintro ⟨hm, hf⟩
    exact ⟨hmode ▸ hm, hhz ▸ hf⟩

/-- **The event loop refines a dial.** Take a loop with any buttons, before a faithful store that
reads as a dial, with nothing pending on its pipe. In every run, whatever waits end in a timeout,
an interruption or ready sources in any order, and whatever the sources give when they are read
(pieces of the command stream cut anywhere, levels of buttons that exist or do not, or failures),
the store reads as the dial that a watcher has after the same readings. The first turns of a run
are a run, so this holds after every turn. -/
theorem run_reads_as_dial {v : Contents ω} {l : EventLoop ω} {d : Dial}
    (hk : l.controller.Faithful v) (hsound : v.sound l.console.world)
    (hpipe : l.pipe.framing = .initial) (hd : l.ReadsAs d) (episodes : List (Episode ω σ))
    (hread : ∀ e ∈ episodes, ∀ l' source, v.sound l'.console.world →
      v.Same l'.console.world (e.read l' source).2) :
    (l.run episodes).1.ReadsAs
      ((l.run episodes).2.foldl Watcher.hear (.start d l.keypad)).dial := by
  -- the watcher starts with what the loop has: its dial, its keys, and nothing pending
  have hstart : (Watcher.start d l.keypad).Follows v l.controller l :=
    ⟨rfl, ⟨hsound, (readsAs_iff hk hsound d).mp hd⟩, hpipe, List.not_mem_nil, rfl⟩
  have hrun := hstart.run hk episodes hread
  have hfaithful : (l.run episodes).1.controller.Faithful v := by
    rw [hrun.controller]
    exact hk
  exact (readsAs_iff hfaithful hrun.shown.sound _).mpr hrun.shown.reads

/-- A run before a plain value, from 19 hertz in manual mode. A press goes to 20, and its repetition
counts for nothing; a command that comes in three pieces, with a failed reading among them, sets 7;
the third button ends manual mode, so that the next command is refused, while the second button
still steps down. -/
theorem run_reads_as_dial_memory :
    let m : Memory :=
      ⟨fun | .mode => .ok "manual" | .temperature => .ok "41" | .frequency => .ok "19",
        fun _ => none, []⟩
    let l : EventLoop Memory :=
      { controller := ⟨Memory.store, none⟩
        keypad := ⟨⟨""⟩, [⟨0, .k1, "", 0, .released⟩, ⟨2, .k2, "", 1, .released⟩,
          ⟨3, .k3, "", 2, .released⟩]⟩
        pipe := ⟨"", 3, .initial⟩
        console := .initial m
        refreshEvery := 2
        refreshEvery_pos := by decide
        ticks := 0 }
    let wakes : List (Wake Reading) :=
      [.ready [.pipe [bytesOfText "set_", bytesOfText "fr"], .button 0 (.ok .pressed),
          .button 0 (.ok .pressed)],
        .interrupted, .timedOut,
        .ready [.button 1 (.error (.unknownButton 1)), .pipe [bytesOfText "eq 7\nset_freq 9"]],
        .ready [.button 2 (.ok .pressed), .pipe [bytesOfText "\n"], .button 1 (.ok .pressed)]]
    (l.run (wakes.map Episode.known)).1.ReadsAs ⟨.auto, 6, by decide, by decide⟩ := by
  intro m l wakes
  have hk : l.controller.Faithful Memory.contents :=
    ⟨Memory.store_faithful, fun _ h => by cases h⟩
  have hsound : Memory.contents.sound l.console.world :=
    ⟨fun | .mode => ⟨_, rfl⟩ | .temperature => ⟨_, rfl⟩ | .frequency => ⟨_, rfl⟩, fun _ => rfl⟩
  have hdial : ((l.run (wakes.map Episode.known)).2.foldl Watcher.hear
      (.start ⟨.manual, 19, by decide, by decide⟩ l.keypad)).dial =
        ⟨.auto, 6, by decide, by decide⟩ := by
    clear hsound hk
    decide +kernel +revert
  rw [← hdial]
  refine run_reads_as_dial hk hsound rfl ⟨rfl, rfl⟩ _ fun e he l source h => ?_
  obtain ⟨wake, -, rfl⟩ := List.mem_map.mp he
  exact .refl h

end EventLoop

end FanControl
