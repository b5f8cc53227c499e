import FanControl.Proofs.Agreement
import FanControl.Proofs.Framing
import FanControl.Proofs.Refinement

/-!
# Refused lines leave no trace

The command stream is read in calls, and each call in pieces (`EventLoop.listen`); every line that
is handled leaves a verdict and the attempts to write that were made for it (`Handled`). Two loops
agree if they have the same controller, the same unfinished line and the same contents of the store
(`EventLoop.Agrees`). Loops that agree handle a stream alike, however it is cut
(`EventLoop.listen_agree`).

A stretch of the stream up to a line feed is dispensable if it is a whole line that is blank, too
long, refused or rejected. It leaves a loop in agreement with itself
(`EventLoop.Agrees.of_dispensable`), so that any selection of such stretches may be cut out of the
stream: `EventLoop.listen_thinned` is the main statement.
-/

namespace FanControl

variable {ω κ : Type}

/-- A line that was handled. -/
structure Handled where
  line : String
  verdict : Verdict
  /-- The attempts to write that were made for it. -/
  attempts : List StoreAccess

namespace EventLoop

/-! ### Lines -/

/-- Handles lines in order, with a record of each. -/
def handleLines (k : Controller ω) : List String → Console ω → List Handled × Console ω
  | [], c => ([], c)
  | line :: lines, c =>
    let handled := ⟨line, (obey k line c).1, (Change.command (.parse line)).attempts k c⟩
    let (rest, c) := handleLines k lines (obey k line c).2
    (handled :: rest, c)

theorem handleLines_snd (k : Controller ω) (lines : List String) (c : Console ω) :
    (handleLines k lines c).2 = lines.foldl (fun c line => (obey k line c).2) c := by
  induction lines generalizing c with
  | nil => rfl
  | cons line lines ih => exact ih _

theorem handleLines_append (k : Controller ω) (lines more : List String) (c : Console ω) :
    handleLines k (lines ++ more) c =
      ((handleLines k lines c).1 ++ (handleLines k more (handleLines k lines c).2).1,
        (handleLines k more (handleLines k lines c).2).2) := by
  induction lines generalizing c with
  | nil => rfl
  | cons line lines ih => simp only [List.cons_append, handleLines, ih]

/-- A line is refused or rejected because its change was. -/
theorem exists_rejection_of_verdictOn (line : String) (result : Except Error Applied)
    (h : (verdictOn line result).1 = .refused ∨ (verdictOn line result).1 = .rejected) :
    ∃ e, result = .error e ∧ e.isRejection = true := by
  rcases result with e | applied
  · refine ⟨e, rfl, ?_⟩
    by_contra hrejection
    have hpolicy : ¬ e.isPolicyViolation = true :=
      fun h => hrejection (Error.isRejection_of_isPolicyViolation h)
    rw [verdictOn, if_neg hpolicy, if_neg hrejection] at h
    rcases h with h | h <;> cases h
  · rcases h with h | h <;> cases h

section

variable {k : Controller ω} {contents : ω → κ} (hk : k.store.DependsOn contents)
include hk

/-- A line on fronts that agree has the same verdict, and they agree afterwards. -/
theorem obey_agree (line : String) {c c' : Console ω}
    (h : contents c.world = contents c'.world) :
    (obey k line c).1 = (obey k line c').1 ∧
      contents (obey k line c).2.world = contents (obey k line c').2.world := by
  obtain ⟨hresult, hcontents⟩ := (Change.command (.parse line)).perform_agree hk h
  rw [world_obey, world_obey]
  refine ⟨?_, hcontents⟩
  show (verdictOn line ((Change.command (.parse line)).perform k c).1).1 = _
  rw [hresult]
  rfl

theorem handleLines_agree (lines : List String) {c c' : Console ω}
    (h : contents c.world = contents c'.world) :
    (handleLines k lines c).1 = (handleLines k lines c').1 ∧
      contents (handleLines k lines c).2.world = contents (handleLines k lines c').2.world := by
  induction lines generalizing c c' with
  | nil => exact ⟨rfl, h⟩
  | cons line lines ih =>
    obtain ⟨hverdict, hcontents⟩ := obey_agree hk line h
    obtain ⟨hrest, hend⟩ := ih hcontents
    refine ⟨?_, hend⟩
    simp only [handleLines, hverdict, hrest, Change.attempts_agree hk _ h]

/-- A line that was refused or rejected attempted nothing and left the contents alone. -/
theorem obey_refused {line : String} {c : Console ω}
    (h : (obey k line c).1 = .refused ∨ (obey k line c).1 = .rejected) :
    (Change.command (.parse line)).attempts k c = [] ∧
      contents (obey k line c).2.world = contents c.world := by
  obtain ⟨e, he, hrejection⟩ :=
    exists_rejection_of_verdictOn line ((Change.command (.parse line)).perform k c).1 h
  rw [world_obey]
  exact Change.unchanged_of_isRejection hk he hrejection

end

/-! ### Calls -/

/-- The lines that are handled when pieces of the command stream arrive. -/
def handledBy (l : EventLoop ω) (chunks : List (List UInt8)) : List Handled :=
  let framed := (l.pipe.feed chunks).1
  (handleLines l.controller (CommandPipe.lines framed)
    ((CommandPipe.complaints framed).foldl Console.report l.console)).1

/-- A series of calls, each of which reads some pieces of the command stream: the lines that are
handled, and the loop after the last call. -/
def listen (l : EventLoop ω) : List (List (List UInt8)) → List Handled × EventLoop ω
  | [] => ([], l)
  | chunks :: calls =>
    let (rest, m) := listen (l.handleChunks chunks) calls
    (l.handledBy chunks ++ rest, m)

theorem listen_cons (l : EventLoop ω) (chunks : List (List UInt8))
    (calls : List (List (List UInt8))) :
    l.listen (chunks :: calls) =
      (l.handledBy chunks ++ ((l.handleChunks chunks).listen calls).1,
        ((l.handleChunks chunks).listen calls).2) := rfl

theorem listen_append (l : EventLoop ω) (calls more : List (List (List UInt8))) :
    l.listen (calls ++ more) =
      ((l.listen calls).1 ++ ((l.listen calls).2.listen more).1,
        ((l.listen calls).2.listen more).2) := by
  induction calls generalizing l with
  | nil => rfl
  | cons chunks calls ih => simp only [List.cons_append, listen_cons, ih, List.append_assoc]

theorem controller_listen (l : EventLoop ω) (calls : List (List (List UInt8))) :
    (l.listen calls).2.controller = l.controller := by
  induction calls generalizing l with
  | nil => rfl
  | cons chunks calls ih => exact ih _

/-- Two loops with the same controller, the same unfinished line and the same contents. -/
structure Agrees (contents : ω → κ) (l m : EventLoop ω) : Prop where
  controller : l.controller = m.controller
  framing : l.pipe.framing = m.pipe.framing
  contents : contents l.console.world = contents m.console.world

namespace Agrees

variable {contents : ω → κ} {l m : EventLoop ω}

theorem refl (l : EventLoop ω) : l.Agrees contents l := ⟨rfl, rfl, rfl⟩

theorem symm (h : l.Agrees contents m) : m.Agrees contents l :=
  ⟨h.controller.symm, h.framing.symm, h.contents.symm⟩

theorem trans {n : EventLoop ω} (h : l.Agrees contents m) (h' : m.Agrees contents n) :
    l.Agrees contents n :=
  ⟨h.controller.trans h'.controller, h.framing.trans h'.framing, h.contents.trans h'.contents⟩

end Agrees

section

variable {contents : ω → κ} {l m : EventLoop ω}

/-- One call handles the lines that its bytes complete. Its complaints come first, but they do not
matter to the store. -/
theorem handledBy_agree (hk : l.controller.store.DependsOn contents)
    (chunks : List (List UInt8)) :
    let (handled, c) := handleLines l.controller
      (CommandPipe.lines (l.pipe.framing.feed chunks.flatten).2) l.console
    l.handledBy chunks = handled ∧
      contents (l.handleChunks chunks).console.world = contents c.world := by
  have hcomplaints : contents ((CommandPipe.complaints (l.pipe.feed chunks).1).foldl
      Console.report l.console).world = contents l.console.world := by
    rw [Console.world_reports]
  have h := handleLines_agree hk (CommandPipe.lines (l.pipe.feed chunks).1) hcomplaints
  rw [handleLines_snd, CommandPipe.feed_eq] at h
  simp only [handledBy, handleChunks, CommandPipe.feed_eq]
  exact h

theorem framing_handleChunks (l : EventLoop ω) (chunks : List (List UInt8)) :
    (l.handleChunks chunks).pipe.framing = (l.pipe.framing.feed chunks.flatten).1 := by
  simp only [handleChunks, CommandPipe.feed_eq]

/-- What a series of calls does is what its bytes say: their lines are handled in order. -/
theorem listen_eq_handleLines (hk : l.controller.store.DependsOn contents)
    (calls : List (List (List UInt8))) :
    let (framing, framed) := l.pipe.framing.feed calls.flatten.flatten
    let (handled, c) := handleLines l.controller (CommandPipe.lines framed) l.console
    (l.listen calls).1 = handled ∧ (l.listen calls).2.pipe.framing = framing ∧
      contents (l.listen calls).2.console.world = contents c.world := by
  induction calls generalizing l with
  | nil => exact ⟨rfl, rfl, rfl⟩
  | cons chunks calls ih =>
    obtain ⟨hhandled, hframing, hcontents⟩ := ih (l := l.handleChunks chunks) hk
    obtain ⟨hfirst, hbetween⟩ := handledBy_agree hk chunks
    -- the later calls start from other records, but from the same contents
    obtain ⟨hrest, hend⟩ := handleLines_agree hk (CommandPipe.lines
      ((l.handleChunks chunks).pipe.framing.feed calls.flatten.flatten).2) hbetween
    simp only [framing_handleChunks] at hhandled hframing hcontents hrest hend
    simp only [List.flatten_cons, List.flatten_append, Framing.feed_append,
      CommandPipe.lines_append, handleLines_append, listen_cons]
    refine ⟨?_, hframing, hcontents.trans hend⟩
    rw [hfirst]
    exact congrArg _ (hhandled.trans hrest)

/-- **Loops that agree handle a stream alike**, however it is cut into calls and pieces. -/
theorem listen_agree (hk : l.controller.store.DependsOn contents) (h : l.Agrees contents m)
    (calls calls' : List (List (List UInt8)))
    (hcalls : calls.flatten.flatten = calls'.flatten.flatten) :
    (l.listen calls).1 = (m.listen calls').1 ∧
      (l.listen calls).2.Agrees contents (m.listen calls').2 := by
  obtain ⟨hhandled, hframing, hcontents⟩ := listen_eq_handleLines hk calls
  obtain ⟨hhandled', hframing', hcontents'⟩ :=
    listen_eq_handleLines (h.controller ▸ hk) calls'
  -- both loops handle the lines of one and the same stream
  obtain ⟨hsame, hend⟩ := handleLines_agree hk
    (CommandPipe.lines (l.pipe.framing.feed calls.flatten.flatten).2) h.contents
  simp only [← hcalls, ← h.framing, ← h.controller] at hhandled' hframing' hcontents'
  refine ⟨hhandled.trans (hsame.trans hhandled'.symm), ?_, hframing.trans hframing'.symm,
    hcontents.trans (hend.trans hcontents'.symm)⟩
  rw [controller_listen, controller_listen, h.controller]

/-- Loops that agree handle the same pieces alike. -/
theorem Agrees.handleChunks (hk : l.controller.store.DependsOn contents)
    (h : l.Agrees contents m) (chunks : List (List UInt8)) :
    l.handledBy chunks = m.handledBy chunks ∧
      (l.handleChunks chunks).Agrees contents (m.handleChunks chunks) := by
  obtain ⟨hhandled, hagrees⟩ := listen_agree hk h [chunks] [chunks] rfl
  rw [listen_cons, listen_cons] at hhandled hagrees
  exact ⟨List.append_cancel_right hhandled, hagrees⟩

end

/-! ### Stretches of the stream -/

/-- A stretch of the command stream up to a line feed, and what became of it. -/
structure Stretch where
  /-- The bytes before the line feed. -/
  bytes : List UInt8
  /-- Whether it is a whole line: nothing was pending before it. -/
  isWhole : Bool
  /-- How its line was handled, if it made one up. -/
  handled : Option Handled

/-- A stretch that may be left out: a whole line that is blank, too long, refused or rejected. -/
structure Stretch.Dispensable (s : Stretch) : Prop where
  isWhole : s.isWhole = true
  useless : s.bytes = [] ∨ 256 < s.bytes.length ∨
    ∃ line ∈ s.handled, line.verdict = .refused ∨ line.verdict = .rejected

/-- The next stretch of the stream that a loop handles. -/
def stretch (l : EventLoop ω) (segment : List UInt8) : Stretch :=
  ⟨segment, l.pipe.framing = .initial, (l.handledBy [Framing.ended segment]).head?⟩

/-- The stretches of a stream, handled one after the other. -/
def stretches (l : EventLoop ω) : List (List UInt8) → List Stretch
  | [] => []
  | segment :: segments =>
    l.stretch segment :: stretches (l.handleChunks [Framing.ended segment]) segments

/-- A list from which some members with a property have been left out. -/
inductive Thinned {α : Type} (p : α → Prop) : List α → List α → Prop where
  | nil : Thinned p [] []
  | keep (a : α) {xs ys : List α} (h : Thinned p xs ys) : Thinned p (a :: xs) (a :: ys)
  | drop {a : α} (ha : p a) {xs ys : List α} (h : Thinned p xs ys) : Thinned p (a :: xs) ys

section

variable {contents : ω → κ} {l m : EventLoop ω} {segment : List UInt8}

/-- A stretch makes up one line at most. -/
theorem handledBy_ended (hk : l.controller.store.DependsOn contents) (h : 10 ∉ segment) :
    l.handledBy [Framing.ended segment] = (l.stretch segment).handled.toList := by
  obtain ⟨-, line, hline⟩ := Framing.feed_ended h l.pipe.framing
  have hhandled := (handledBy_agree hk [Framing.ended segment]).1
  rw [List.flatten_singleton, hline] at hhandled
  rw [stretch, hhandled]
  cases line <;> rfl

/-- **What is dispensable changes nothing**: nothing is attempted, and the loop agrees with
itself. -/
theorem Agrees.of_dispensable (hk : l.controller.store.DependsOn contents) (h : 10 ∉ segment)
    (hdispensable : (l.stretch segment).Dispensable) :
    (l.handledBy [Framing.ended segment]).flatMap Handled.attempts = [] ∧
      (l.handleChunks [Framing.ended segment]).Agrees contents l := by
  have hinitial : l.pipe.framing = .initial := of_decide_eq_true hdispensable.isWhole
  obtain ⟨hstate, line, hline⟩ := Framing.feed_ended h l.pipe.framing
  have hframing : (l.handleChunks [Framing.ended segment]).pipe.framing = l.pipe.framing := by
    rw [framing_handleChunks, List.flatten_singleton, hstate, hinitial]
  obtain ⟨hhandled, hcontents⟩ := handledBy_agree hk [Framing.ended segment]
  rw [List.flatten_singleton, hline] at hhandled hcontents
  suffices hquiet : (handleLines l.controller line.toList l.console).1.flatMap Handled.attempts =
      [] ∧ contents (handleLines l.controller line.toList l.console).2.world =
        contents l.console.world from
    ⟨hhandled ▸ hquiet.1, rfl, hframing, hcontents.trans hquiet.2⟩
  have huseless := hdispensable.useless
  rw [← or_assoc] at huseless
  -- a blank or overlong stretch is no line, and a refused or rejected line leaves no trace
  rcases huseless with hlength | ⟨handled, hmem, hverdict⟩
  · have hnone := Framing.lines_feed_ended_eq_nil h hlength
    rw [← hinitial, hline, Option.toList_eq_nil_iff] at hnone
    rw [hnone]
    exact ⟨rfl, rfl⟩
  · rw [stretch, hhandled] at hmem
    rcases line with _ | text
    · cases hmem
    · cases hmem
      obtain ⟨hattempts, hworld⟩ := obey_refused hk hverdict
      exact ⟨by simp [handleLines, hattempts], hworld⟩

/-- **Refused input leaves no trace.** Of two loops that agree, one handles all stretches and the
other those that remain, each of them in a call. -/
theorem listen_stretches (hk : l.controller.store.DependsOn contents) (h : l.Agrees contents m)
    {segments : List (List UInt8)} (hsegments : ∀ segment ∈ segments, 10 ∉ segment)
    {remaining : List Stretch}
    (hthinned : Thinned Stretch.Dispensable (l.stretches segments) remaining) :
    let calls := segments.map fun segment => [Framing.ended segment]
    let calls' := remaining.map fun s => [Framing.ended s.bytes]
    (l.listen calls).1 = (l.stretches segments).filterMap Stretch.handled ∧
      (m.listen calls').1 = remaining.filterMap Stretch.handled ∧
      (l.listen calls).1.flatMap Handled.attempts =
        (m.listen calls').1.flatMap Handled.attempts ∧
      (l.listen calls).2.Agrees contents (m.listen calls').2 := by
  simp only [List.filterMap_eq_flatMap_toList]
  induction segments generalizing l m remaining with
  | nil =>
    cases hthinned
    exact ⟨rfl, rfl, rfl, h⟩
  | cons segment segments ih =>
    rw [List.forall_mem_cons] at hsegments
    have hended := handledBy_ended hk hsegments.1
    rw [List.map_cons, listen_cons, stretches, List.flatMap_cons, ← hended, List.flatMap_append]
    have hk' : (l.handleChunks [Framing.ended segment]).controller.store.DependsOn contents := hk
    cases hthinned with
    -- both loops handle the stretch, and go on in agreement
    | keep _ hthinned =>
      obtain ⟨hsame, hagrees⟩ := h.handleChunks hk [Framing.ended segment]
      obtain ⟨hhandled, hhandled', hattempts, hend⟩ := ih hk' hagrees hsegments.2 hthinned
      rw [List.map_cons, listen_cons, List.flatMap_cons, ← hended, List.flatMap_append, hattempts,
        hsame]
      exact ⟨congrArg _ hhandled, congrArg _ hhandled', rfl, hend⟩
    -- only the first loop handles the stretch, which leaves it as it was
    | drop hdispensable hthinned =>
      obtain ⟨hquiet, hagrees⟩ := Agrees.of_dispensable hk hsegments.1 hdispensable
      obtain ⟨hhandled, hhandled', hattempts, hend⟩ :=
        ih hk' (hagrees.trans h) hsegments.2 hthinned
      rw [hquiet, List.nil_append]
      exact ⟨congrArg _ hhandled, hhandled', hattempts, hend⟩

theorem flatten_calls {α : Type} (xs : List α) (f : α → List UInt8) (tail : List UInt8) :
    (xs.map (fun x => [f x]) ++ [[tail]]).flatten.flatten = xs.flatMap f ++ tail := by
  rw [List.flatten_append, List.flatten_append, ← List.flatMap_def (f := fun x => [f x]),
    ← List.map_eq_flatMap, List.flatMap_def, List.flatten_singleton, List.flatten_singleton]

/-- Without a line feed nothing is handled. -/
theorem listen_unfinished {tail : List UInt8} (h : 10 ∉ tail) (l : EventLoop ω) :
    (l.listen [[tail]]).1 = [] := by
  have hnone := Framing.lines_feed_of_not_mem h l.pipe.framing
  simp [listen, handledBy, CommandPipe.feed_eq, hnone, handleLines]

/-- **Refused input cannot influence later input.** The store answers out of its contents, and its
own failures say that an attribute could not be read or written. A stream is handled in any calls,
each of which reads any pieces, from any state; then so is the stream that is left when some of the
dispensable stretches are cut out, from the same state. In both runs the lines that are handled are
those of the stretches, with the verdicts and the attempts that they have in the first run; the
attempts to write are the same sequence, and in the end the contents and the unfinished line are
the same. -/
theorem listen_thinned (hk : l.controller.store.DependsOn contents)
    (calls calls' : List (List (List UInt8))) {remaining : List Stretch}
    (hthinned : Thinned Stretch.Dispensable
      (l.stretches (Framing.terminated calls.flatten.flatten)) remaining)
    (hcalls' : calls'.flatten.flatten = remaining.flatMap (fun s => Framing.ended s.bytes) ++
      Framing.unfinished calls.flatten.flatten) :
    let (handled, now) := l.listen calls
    let (handled', now') := l.listen calls'
    handled = (l.stretches (Framing.terminated calls.flatten.flatten)).filterMap
        Stretch.handled ∧
      handled' = remaining.filterMap Stretch.handled ∧
      handled.flatMap Handled.attempts = handled'.flatMap Handled.attempts ∧
      contents now.console.world = contents now'.console.world ∧
      now.pipe.framing = now'.pipe.framing := by
  have hstream := Framing.flatMap_ended_append_unfinished calls.flatten.flatten
  have htail := Framing.not_mem_unfinished calls.flatten.flatten
  have hsegments : ∀ segment ∈ Framing.terminated calls.flatten.flatten, 10 ∉ segment :=
    fun _ => Framing.not_mem_of_mem_terminated
  generalize Framing.terminated calls.flatten.flatten = segments at *
  generalize Framing.unfinished calls.flatten.flatten = tail at *
  -- each run is that in which every stretch, and then the unfinished line, is read in a call
  obtain ⟨hlines, hend⟩ := listen_agree hk (Agrees.refl l) calls
    (segments.map (fun segment => [Framing.ended segment]) ++ [[tail]])
    (by rw [← hstream, flatten_calls])
  obtain ⟨hlines', hend'⟩ := listen_agree hk (Agrees.refl l) calls'
    (remaining.map (fun s => [Framing.ended s.bytes]) ++ [[tail]])
    (by rw [hcalls', flatten_calls])
  obtain ⟨hhandled, hhandled', hattempts, hagrees⟩ :=
    listen_stretches hk (Agrees.refl l) hsegments hthinned
  rw [listen_append] at hlines hlines' hend hend'
  rw [listen_unfinished htail, List.append_nil] at hlines hlines'
  have hlast := (hagrees.handleChunks (by rw [controller_listen]; exact hk) [tail]).2
  have hagrees' := (hend.trans hlast).trans hend'.symm
  rw [← hlines, ← hlines'] at hattempts
  exact ⟨hlines.trans hhandled, hlines'.trans hhandled', hattempts, hagrees'.contents,
    hagrees'.framing⟩

end

/-- Automatic mode ends with a line of which a part was pending. Of the lines after it, a frequency
out of range and a blank one are left out. -/
theorem listen_thinned_memory :
    let l : EventLoop Memory :=
      { controller := ⟨Memory.store, none⟩
        keypad := .empty ⟨""⟩
        pipe := ⟨"", 3, .collecting (bytesOfText "set_m")⟩
        console := .initial ⟨fun | .mode => .ok "auto" | _ => .ok "3", fun _ => none, []⟩
        refreshEvery := 2
        refreshEvery_pos := by decide
        ticks := 0 }
    let calls := [[bytesOfText "ode manual\nset_f", bytesOfText "req 99\n"],
      [bytesOfText "\nset_freq 7\nset_fr"]]
    let calls' := [[bytesOfText "ode manual\nset_freq 7\nset_fr"]]
    let all := l.stretches (Framing.terminated calls.flatten.flatten)
    let remaining := all.take 1 ++ all.drop 3
    Memory.store.DependsOn (fun m : Memory => (m.reading, m.writeFault)) ∧
      Thinned Stretch.Dispensable all remaining ∧
      calls'.flatten.flatten = remaining.flatMap (fun s => Framing.ended s.bytes) ++
        Framing.unfinished calls.flatten.flatten ∧
      (l.listen calls).1.length = 3 ∧
      (l.listen calls').1 = remaining.filterMap Stretch.handled ∧
      (l.listen calls).1.flatMap Handled.attempts =
        (l.listen calls').1.flatMap Handled.attempts := by
  intro l calls calls' all remaining
  have hthinned : Thinned Stretch.Dispensable all remaining :=
    .keep _ (.drop ⟨rfl, Or.inr (Or.inr ⟨_, rfl, Or.inr rfl⟩)⟩
      (.drop ⟨rfl, Or.inl rfl⟩ (.keep _ .nil)))
  have h := listen_thinned (l := l) Memory.store_dependsOn calls calls' hthinned rfl
  exact ⟨Memory.store_dependsOn, hthinned, rfl, rfl, h.2.1, h.2.2.1⟩

end EventLoop

end FanControl
