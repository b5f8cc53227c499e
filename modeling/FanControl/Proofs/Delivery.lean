import FanControl.Proofs.CommandText
import FanControl.Proofs.KernelPipe
import Mathlib.Logic.Function.Iterate

/-!
# Commands are delivered once each, and in order

Any number of clients send commands on one pipe, while the daemon reads it a piece at a time
(`Traffic.step`). A call of the daemon ends when nothing is there to be read; it then returns the
lines that it has gathered. On a machine, sending is `Client.send` (`Client.send_eq_commandPipe`),
and a call that is left undisturbed is `CommandPipe.read` (`Traffic.polls_eq_read`).

At every moment the bytes consumed so far and those in the pipe are, one after the other, the stream
of the commands that were sent (`Traffic.Delivering`): sending adds to the end of both sides, and
reading moves the boundary. The lines are those of the bytes consumed, and the framer stands where
these bytes end. `Traffic.delivered_in_order` follows, as such a stream is read back.
-/

namespace FanControl

variable {ω : Type}

/-- Clients and the daemon on a pipe. -/
structure Traffic (ω : Type) where
  world : ω
  /-- The daemon's end. -/
  channel : CommandPipe
  /-- The lines gathered by the call that is under way, if there is one. -/
  underWay : Option (List String)
  /-- The lines that calls have returned. -/
  returned : List String
  /-- The commands whose sending succeeded. -/
  sent : List Command

namespace Traffic

/-- What happens next. -/
inductive Move where
  /-- A client sends a command. -/
  | send (c : Command)
  /-- The daemon reads once, in the call that is under way or in a new one. -/
  | poll

/-- Before the first command. -/
def start (path : String) (node : NodeId) (w : ω) : Traffic ω :=
  ⟨w, ⟨path, node, .initial⟩, none, [], []⟩

/-- The lines gathered by the call that is under way. -/
def gathered (s : Traffic ω) : List String := s.underWay.getD []

/-- The call that is under way returns its lines. -/
def finish (s : Traffic ω) : Traffic ω :=
  { s with underWay := none, returned := s.returned ++ s.gathered }

/-- The call that is under way takes bytes into account. -/
def take (s : Traffic ω) (bytes : List UInt8) : Traffic ω :=
  let (framed, channel) := s.channel.feed [bytes]
  { s with channel, underWay := some (s.gathered ++ CommandPipe.lines framed) }

/-- A client sends a command. -/
def send (p : KernelPipe ω) (c : Command) (s : Traffic ω) : Traffic ω :=
  match p.send s.channel.path c s.world with
  | (.ok (), world) => { s with world, sent := s.sent ++ [c] }
  | (.error _, world) => { s with world }

/-- The daemon reads once. -/
def poll (p : KernelPipe ω) (s : Traffic ω) : Traffic ω :=
  match p.read Command.maxLineSize s.world with
  | (.ok [], world) => { s with world }.finish
  | (.ok bytes, world) => { s with world }.take bytes
  | (.error e, world) =>
    if e = .interrupted then { s with world }.take []
    else if e = .wouldBlock then { s with world }.finish
    -- the lines of a call that fails are lost
    else { s with world, underWay := none }

/-- One step. -/
def step (p : KernelPipe ω) (s : Traffic ω) : Move → Traffic ω
  | .send c => s.send p c
  | .poll => s.poll p

/-! ### One step -/

theorem take_eq (s : Traffic ω) (bytes : List UInt8) :
    s.take bytes =
      { s with
        channel := { s.channel with framing := (s.channel.framing.feed bytes).1 }
        underWay := some (s.gathered ++ CommandPipe.lines (s.channel.framing.feed bytes).2) } := by
  rw [take, CommandPipe.feed_eq, List.flatten_singleton]

variable {p : KernelPipe ω} {sound : ω → Prop} {queued : ω → List UInt8}

/-- What sending can do. -/
theorem send_cases (hp : p.IsFifo sound queued) {s : Traffic ω} (hs : sound s.world) {c : Command}
    (hc : c.IsRequest) :
    (∃ w, s.send p c = { s with world := w, sent := s.sent ++ [c] } ∧ sound w ∧
      queued w = queued s.world ++ bytesOfText c.line) ∨ s.send p c = s := by
  -- a request fits on a page, so the pipe takes all of it or nothing
  have hlength : (bytesOfText c.line).length ≤ Pipe.pageSize := by
    have hbody := hc.segment.2.2
    have hpage : Pipe.pageSize = 4096 := rfl
    rw [Command.bytesOfText_line, Framing.ended, List.length_append, List.length_singleton]
    omega
  rcases hdeliver : p.deliver (bytesOfText c.line) s.world with f | ⟨n, w⟩
  · right
    simp only [send, KernelPipe.send, hdeliver]
  · left
    obtain ⟨hw, hn, hqueued⟩ := hp.deliver_ok hs hlength hdeliver
    refine ⟨w, ?_, hw, hqueued⟩
    simp only [send, KernelPipe.send, hdeliver, if_pos hn]

/-- What reading can do. -/
theorem poll_cases (hp : p.IsFifo sound queued) {s : Traffic ω} (hs : sound s.world) :
    (∃ w, s.poll p = { s with world := w }.finish ∧ sound w ∧ queued s.world = [] ∧
      queued w = []) ∨
    ∃ w bytes, s.poll p = { s with world := w }.take bytes ∧ sound w ∧
      queued s.world = bytes ++ queued w := by
  have hsize : 0 < Command.maxLineSize := by decide
  rw [poll]
  -- an interruption is a read of nothing; an end of the call finds the pipe empty
  rcases hread : p.read Command.maxLineSize s.world with ⟨e | bytes, w⟩
  · obtain ⟨hw, hqueued, rfl | ⟨rfl, hempty⟩⟩ := hp.read_error hs hsize hread
    · exact Or.inr ⟨w, [], rfl, hw, hqueued.symm⟩
    · exact Or.inl ⟨w, rfl, hw, hempty, hqueued.trans hempty⟩
  · obtain ⟨hw, hqueued, hempty⟩ := hp.read_ok hs hsize hread
    cases bytes with
    | nil =>
      have hnone := hempty rfl
      exact Or.inl ⟨w, rfl, hw, hnone, by rw [← hnone, hqueued, List.nil_append]⟩
    | cons b bytes => exact Or.inr ⟨w, b :: bytes, rfl, hw, hqueued⟩

/-! ### The invariant -/

/-- What has been consumed and what is in the pipe is the stream of the commands that were sent. -/
structure Delivering (sound : ω → Prop) (queued : ω → List UInt8) (s : Traffic ω)
    (consumed : List UInt8) : Prop where
  sound : sound s.world
  requests : ∀ c ∈ s.sent, c.IsRequest
  conserved : consumed ++ queued s.world = Command.stream s.sent
  lines : s.returned ++ s.gathered = Framing.texts consumed
  framing : s.channel.framing = Framing.carried (Framing.unfinished consumed)

namespace Delivering

variable {s : Traffic ω} {consumed : List UInt8}

theorem start (path : String) (node : NodeId) {w : ω} (hw : sound w) (hempty : queued w = []) :
    Delivering sound queued (.start path node w) [] where
  sound := hw
  requests c hc := by cases hc
  conserved := hempty
  lines := rfl
  framing := rfl

theorem send (hp : p.IsFifo sound queued) (h : s.Delivering sound queued consumed) {c : Command}
    (hc : c.IsRequest) : (s.send p c).Delivering sound queued consumed := by
  rcases send_cases hp h.sound hc with ⟨w, heq, hw, hqueued⟩ | heq
  · rw [heq]
    refine ⟨hw, ?_, ?_, h.lines, h.framing⟩
    · intro c' hc'
      -- the new command stands behind those that were sent, as its bytes do in the pipe
      rcases List.mem_append.mp hc' with hc' | hc'
      · exact h.requests c' hc'
      · rwa [List.mem_singleton.mp hc']
    · rw [hqueued, ← List.append_assoc, h.conserved, Command.stream, Command.stream,
        List.flatMap_append, List.flatMap_singleton]
  · rw [heq]
    exact h

theorem poll (hp : p.IsFifo sound queued) (h : s.Delivering sound queued consumed) :
    ∃ consumed, (s.poll p).Delivering sound queued consumed := by
  rcases poll_cases hp h.sound with ⟨w, heq, hw, hempty, hqueued⟩ | ⟨w, bytes, heq, hw, hqueued⟩
  · have hconserved := h.conserved
    rw [hempty, ← hqueued] at hconserved
    rw [heq]
    exact ⟨consumed, hw, h.requests, hconserved, (List.append_nil _).trans h.lines, h.framing⟩
  · -- what is read moves from the pipe to what is consumed
    obtain ⟨hstate, hlines⟩ := Framing.feed_carried_unfinished consumed bytes
    have hconserved := h.conserved
    rw [hqueued, ← List.append_assoc] at hconserved
    rw [← h.framing] at hstate hlines
    rw [← h.lines, List.append_assoc] at hlines
    rw [heq, take_eq]
    exact ⟨consumed ++ bytes, hw, h.requests, hconserved, hlines, hstate⟩

theorem step (hp : p.IsFifo sound queued) (h : s.Delivering sound queued consumed) {move : Move}
    (hmove : ∀ c, move = .send c → c.IsRequest) :
    ∃ consumed, (s.step p move).Delivering sound queued consumed := by
  cases move with
  | send c => exact ⟨consumed, h.send hp (hmove c rfl)⟩
  | poll => exact h.poll hp

theorem run (hp : p.IsFifo sound queued) (h : s.Delivering sound queued consumed)
    {moves : List Move} (hmoves : ∀ c, .send c ∈ moves → c.IsRequest) :
    ∃ consumed, (moves.foldl (Traffic.step p) s).Delivering sound queued consumed := by
  induction moves generalizing s consumed with
  | nil => exact ⟨consumed, h⟩
  | cons move moves ih =>
    have hmove : ∀ c, move = .send c → c.IsRequest := fun c hc =>
      hmoves c (hc ▸ List.mem_cons_self ..)
    obtain ⟨consumed, h⟩ := h.step hp hmove
    exact ih h fun c hc => hmoves c (List.mem_cons_of_mem _ hc)

/-- What has been returned are commands that were sent, from the first on. -/
theorem prefix_sent (h : s.Delivering sound queued consumed) :
    s.returned.map Command.parse <+: s.sent := by
  -- the lines of the bytes consumed are the first of those of the whole stream
  have hlines : s.returned <+: Framing.texts (Command.stream s.sent) := by
    rw [← h.conserved]
    refine .trans ?_ (Framing.texts_prefix_append _ _)
    rw [← h.lines]
    exact List.prefix_append _ _
  have hparsed := hlines.map Command.parse
  rwa [Command.parse_texts h.requests] at hparsed

/-- When the pipe is empty, all of them have arrived, and nothing is pending. -/
theorem drained (h : s.Delivering sound queued consumed) (hempty : queued s.world = []) :
    (s.returned ++ s.gathered).map Command.parse = s.sent ∧ s.channel.framing = .initial := by
  have hconsumed : consumed = Command.stream s.sent := by
    rw [← h.conserved, hempty, List.append_nil]
  rw [h.lines, h.framing, hconsumed, Command.parse_texts h.requests,
    (Command.texts_stream h.requests).2]
  exact ⟨rfl, rfl⟩

end Delivering

/-! ### Undisturbed calls -/

/-- What one read of the pipe of a machine does. -/
theorem poll_commandPipe (path : String) {s : Traffic Host} {q : Pipe}
    (hq : s.world.tree.pipe? s.channel.node = some q) :
    s.poll (Host.commandPipe path s.channel.node) =
      if q.buffer = [] then
        { s with world := s.world.withPipe s.channel.node q.drain.2 }.finish
      else
        { s with
          world := s.world.withPipe s.channel.node (q.consume Command.maxLineSize).2 }.take
            (q.buffer.take Command.maxLineSize) := by
  rw [poll, Host.commandPipe_read path hq]
  rcases hbuffer : q.buffer with _ | ⟨b, rest⟩
  · rw [Pipe.consume_of_length_le (by rw [hbuffer]; exact Nat.zero_le _)]
    rfl
  · rfl

/-- **A call in which nobody sends is one that reads everything at once.** -/
theorem polls_eq_read (path : String) {s : Traffic Host} {q : Pipe}
    (hq : s.world.tree.pipe? s.channel.node = some q) :
    let (framed, channel, world) := s.channel.read s.world
    (poll (Host.commandPipe path s.channel.node))^[
        (pieces Command.maxLineSize q.buffer).length + 1] s =
      { s with
        world
        channel
        underWay := none
        returned := s.returned ++ (s.gathered ++ CommandPipe.lines framed) } := by
  rw [CommandPipe.read_eq hq]
  induction hn : q.buffer.length using Nat.strong_induction_on generalizing s q with
  | _ n ih =>
    -- by strong induction on what is left in the pipe, which each read makes less
    have hpoll := poll_commandPipe path hq
    by_cases hempty : q.buffer = []
    · rw [if_pos hempty] at hpoll
      rw [hempty, pieces_nil, List.length_nil, Nat.zero_add, Function.iterate_one, hpoll]
      simp only [finish, Framing.feed_nil, CommandPipe.lines, List.filterMap_nil, List.append_nil]
      rfl
    · rw [if_neg hempty, take_eq] at hpoll
      rw [pieces_eq_cons (by decide) hempty, List.length_cons, Function.iterate_succ_apply, hpoll]
      have hlength : (q.consume Command.maxLineSize).2.buffer.length < n := by
        have hpos := List.length_pos_iff.mpr hempty
        have hsize : 0 < Command.maxLineSize := by decide
        rw [Pipe.buffer_consume, List.length_drop]
        omega
      -- feeding the first piece and then the rest is feeding everything
      have hfeed := Framing.feed_append s.channel.framing (q.buffer.take Command.maxLineSize)
        (q.buffer.drop Command.maxLineSize)
      rw [List.take_append_drop] at hfeed
      have hrest := ih _ hlength (s := s.poll (Host.commandPipe path s.channel.node))
        (by rw [hpoll]; exact Host.pipe?_withPipe hq) rfl
      rw [hpoll, Pipe.buffer_consume] at hrest
      refine hrest.trans ?_
      simp only [hfeed, CommandPipe.lines_append, Host.withPipe_withPipe, gathered,
        Option.getD_some, List.append_assoc]
      rfl

/-! ### Deliveries -/

/-- **No command is lost, duplicated, merged or reordered.** The pipe hands on what it takes, in
order, and is empty at first. Clients send modes and frequencies while the daemon reads, in any
order. At every moment the lines that calls have returned stand for the first of the commands whose
sending succeeded. Whenever the pipe is empty, these lines and those gathered stand for all of these
commands, and nothing is pending. When a read ends a call, the pipe is empty, the lines returned
stand for all of the commands, and nothing is pending. -/
theorem delivered_in_order (hp : p.IsFifo sound queued) (path : String) (node : NodeId) {w : ω}
    (hw : sound w) (hempty : queued w = []) {moves : List Move}
    (hmoves : ∀ c, .send c ∈ moves → c.IsRequest) :
    let now := moves.foldl (step p) (.start path node w)
    let next := now.poll p
    now.returned.map Command.parse <+: now.sent ∧
      (queued now.world = [] →
        (now.returned ++ now.gathered).map Command.parse = now.sent ∧
          now.channel.framing = .initial) ∧
      (next.underWay = none →
        queued next.world = [] ∧ next.returned.map Command.parse = next.sent ∧
          next.channel.framing = .initial) := by
  intro now next
  obtain ⟨consumed, hnow⟩ := (Delivering.start path node hw hempty).run hp hmoves
  obtain ⟨consumed', hnext⟩ := hnow.poll hp
  refine ⟨hnow.prefix_sent, hnow.drained, fun hended => ?_⟩
  -- a call ends only with a read that finds nothing
  have hdrained : queued next.world = [] := by
    show queued (now.poll p).world = []
    rcases poll_cases hp hnow.sound with ⟨w, heq, -, -, hqueued⟩ | ⟨w, bytes, heq, -, -⟩
    · rw [heq]
      exact hqueued
    · -- then the call would go on
      have hgoes : next.underWay ≠ none := by
        show (now.poll p).underWay ≠ none
        rw [heq, take_eq]
        exact Option.some_ne_none _
      exact absurd hended hgoes
  have hgathered : next.gathered = [] := by
    rw [gathered, hended]
    rfl
  obtain ⟨hparsed, hframing⟩ := hnext.drained hdrained
  have hreturned : (next.returned ++ next.gathered).map Command.parse = next.sent := hparsed
  rw [hgathered, List.append_nil] at hreturned
  exact ⟨hdrained, hreturned, hframing⟩

/-- Nine clients ask for the same frequency before the daemon reads for the first time, so that the
read ends within the ninth line; another client asks for automatic mode before the second. -/
theorem delivered_in_order_files :
    let h : Host := .ofTree ⟨#[.directory 0 [("cmd", 1)], .pipe ⟨[], 1, 1⟩], 0⟩
    let p := Host.commandPipe "cmd" 1
    let lowest := Command.setFrequency (-9223372036854775807)
    let moves := List.replicate 9 (Move.send lowest) ++ [.poll, .send (.setMode .auto), .poll]
    let now := moves.foldl (step p) (.start "cmd" 1 h)
    h.HasPipe "cmd" 1 ∧ h.queued 1 = [] ∧ (∀ c, .send c ∈ moves → c.IsRequest) ∧
      now.sent = List.replicate 9 lowest ++ [.setMode .auto] ∧ now.returned = [] ∧
      (now.poll p).underWay = none ∧
      (now.poll p).returned.map Command.parse = (now.poll p).sent := by
  intro h p lowest moves now
  have hpipe : h.HasPipe "cmd" 1 := ⟨by rfl, ⟨[], 1, 1⟩, by rfl, by decide⟩
  have hmoves : ∀ c, .send c ∈ moves → c.IsRequest := by
    intro c hc
    have hsent : c = lowest ∨ c = .setMode .auto := by
      simpa [moves] using hc
    rcases hsent with rfl | rfl
    · exact (by decide : (-9223372036854775807 : Int64) ≠ Int64.minValue)
    · trivial
  -- the run itself is evaluated; what the law says of it is applied below
  have hrun : now.sent = List.replicate 9 lowest ++ [.setMode .auto] ∧ now.returned = [] ∧
      (now.poll p).underWay = none := by
    clear hpipe hmoves
    decide +kernel +revert
  obtain ⟨-, -, hended⟩ :=
    delivered_in_order (Host.commandPipe_isFifo "cmd" 1) "cmd" 1 hpipe rfl hmoves
  exact ⟨hpipe, rfl, hmoves, hrun.1, hrun.2.1, hrun.2.2, (hended hrun.2.2).2.1⟩

end Traffic

end FanControl
