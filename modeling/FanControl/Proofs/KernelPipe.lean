import FanControl.Client
import FanControl.Proofs.Directories
import FanControl.Proofs.Framing

/-!
# The kernel pipe behind the commands

Clients and the daemon meet in a pipe of the kernel. What they do to it is a `KernelPipe`: clients
open it, offer bytes in one write that does not wait, and close it; the daemon reads some bytes at
a time. What is relied on is `KernelPipe.IsFifo`: bytes come out in the order in which they went
in, and a write of at most a page is taken whole or not at all. When a write succeeds is left open,
so the room in the pipe may be bounded in any way.

A machine on which the path names a pipe that is read is such a pipe
(`Host.commandPipe_isFifo`), and sending a command to it is `Client.send`
(`Client.send_eq_commandPipe`).
-/

namespace FanControl

variable {ω : Type}

/-- A call was interrupted by a signal. -/
def Errno.interrupted : Errno := ⟨4⟩

/-- What clients and the daemon do to a pipe. -/
structure KernelPipe (ω : Type) where
  /-- Opens the pipe, offers bytes in one write that does not wait, and closes it: the number of
  bytes that were taken. -/
  deliver : List UInt8 → ω → Except AccessFault (Nat × ω)
  /-- Reads at most so many bytes, without waiting. -/
  read : Nat → ω → Except Errno (List UInt8) × ω

namespace KernelPipe

/-- Sends a command in one write, which must be taken whole. -/
def send (p : KernelPipe ω) (path : String) (c : Command) : Action ω Unit := fun w =>
  match p.deliver (bytesOfText c.line) w with
  | .error f => (.error (Client.deliveryError path f), w)
  | .ok (taken, w) =>
    (if taken = (bytesOfText c.line).length then .ok () else .error (.channel path .shortWrite), w)

/-- A pipe hands on what it takes, in order. -/
structure IsFifo (p : KernelPipe ω) (sound : ω → Prop) (queued : ω → List UInt8) : Prop where
  /-- A short write is taken whole, or not at all. -/
  deliver_ok : ∀ {bytes w n w'}, sound w → bytes.length ≤ Pipe.pageSize →
    p.deliver bytes w = .ok (n, w') →
    sound w' ∧ n = bytes.length ∧ queued w' = queued w ++ bytes
  /-- What is read is what was there first; nothing is read only if nothing is there. -/
  read_ok : ∀ {size bytes w w'}, sound w → 0 < size → p.read size w = (.ok bytes, w') →
    sound w' ∧ queued w = bytes ++ queued w' ∧ (bytes = [] → queued w = [])
  /-- A read fails only if a signal comes or if nothing is there. -/
  read_error : ∀ {size e w w'}, sound w → 0 < size → p.read size w = (.error e, w') →
    sound w' ∧ queued w' = queued w ∧ (e = .interrupted ∨ e = .wouldBlock ∧ queued w = [])

end KernelPipe

/-! ### Pieces -/

section

variable {α : Type} {size : Nat}

theorem pieces_nil : pieces size ([] : List α) = [] := rfl

/-- More fuel than elements makes no difference. -/
theorem pieces_go_eq (hsize : 0 < size) {m n : Nat} {xs : List α} (h : xs.length ≤ m)
    (h' : xs.length ≤ n) : pieces.go size m xs = pieces.go size n xs := by
  -- on the one fuel; a piece that is cut leaves a shorter list, so either fuel still suffices
  induction m generalizing n xs with
  | zero =>
    obtain rfl := List.length_eq_zero_iff.mp (Nat.le_zero.mp h)
    rw [pieces.go, pieces.go]
  | succ m ih =>
    cases xs with
    | nil => rw [pieces.go, pieces.go]
    | cons x xs =>
      obtain ⟨n, rfl⟩ : ∃ k, n = k + 1 :=
        Nat.exists_eq_succ_of_ne_zero (Nat.ne_of_gt (Nat.lt_of_lt_of_le (Nat.succ_pos _) h'))
      have hdrop : ((x :: xs).drop size).length ≤ xs.length := by
        rw [List.length_drop, List.length_cons]
        omega
      rw [List.length_cons] at h h'
      rw [pieces.go, pieces.go, ih (n := n) (by omega) (by omega)]
      · exact fun h => by cases h
      · exact fun h => by cases h

/-- The first piece, and the pieces of the rest. -/
theorem pieces_eq_cons (hsize : 0 < size) {xs : List α} (hne : xs ≠ []) :
    pieces size xs = xs.take size :: pieces size (xs.drop size) := by
  obtain ⟨x, xs, rfl⟩ := List.exists_cons_of_ne_nil hne
  rw [pieces, List.length_cons, pieces.go, pieces]
  · refine congrArg _ (pieces_go_eq hsize ?_ (Nat.le_refl _))
    rw [List.length_drop, List.length_cons]
    omega
  · exact fun h => by cases h

end

/-! ### Pages -/

namespace Pipe

theorem joining_eq (pages : List (List UInt8)) (size : Nat) :
    joining pages size = 0 ∨ joining pages size = size % pageSize := by
  rw [joining]
  split
  · split
    · exact Or.inr rfl
    · exact Or.inl rfl
  · exact Or.inl rfl

/-- A write of at most a page is taken whole, or not at all. -/
theorem eq_length_of_offer {p q : Pipe} {bytes : List UInt8} {n : Nat}
    (hbytes : bytes.length ≤ pageSize) (h : p.offer bytes = .ok (n, q)) : n = bytes.length := by
  have hpage : pageSize = 4096 := rfl
  simp only [offer] at h
  split at h
  · cases h
  · next htaken =>
    obtain ⟨hn, -⟩ := Prod.mk.inj (Except.ok.inj h)
    -- what joins the last page is nothing or, as a page holds all the bytes, everything
    have hwhole : joining p.pages bytes.length = 0 ∨
        joining p.pages bytes.length = bytes.length := by
      rcases joining_eq p.pages bytes.length with h | h
      · exact Or.inl h
      · rcases Nat.lt_or_eq_of_le hbytes with hlt | heq
        · exact Or.inr (h.trans (Nat.mod_eq_of_lt hlt))
        · exact Or.inl (h.trans (by rw [heq, Nat.mod_self]))
    rw [← hn]
    rcases hwhole with hjoined | hjoined
    · -- everything goes to a page of its own, if there is room for one
      rw [hjoined, List.drop_zero, Nat.zero_add] at htaken ⊢
      by_cases hne : bytes = []
      · simp [hne, pieces, pieces.go]
      · have hpieces : pieces pageSize bytes = [bytes] := by
          rw [pieces_eq_cons (by decide) hne, List.take_of_length_le hbytes,
            List.drop_of_length_le hbytes, pieces_nil]
        rw [hpieces] at htaken ⊢
        generalize maxPages - (fillLast p.pages (bytes.take 0)).length = room at htaken ⊢
        cases room with
        | zero => exact absurd ⟨rfl, hne⟩ htaken
        | succ room => simp
    · -- the last page has taken everything
      rw [hjoined, List.drop_length]
      simp [pieces, pieces.go]

/-- Takes at most `n` bytes off pages. A page of which nothing is left is given back. -/
def takeOff : Nat → List (List UInt8) → List UInt8 × List (List UInt8)
  | _, [] => ([], [])
  | n, page :: pages =>
    if page.length ≤ n then
      let (bytes, rest) := takeOff (n - page.length) pages
      (page ++ bytes, rest)
    else (page.take n, page.drop n :: pages)

/-- Takes at most `n` bytes out of the pipe. -/
def consume (p : Pipe) (n : Nat) : List UInt8 × Pipe :=
  ((takeOff n p.pages).1, { p with pages := (takeOff n p.pages).2 })

theorem takeOff_eq (n : Nat) (pages : List (List UInt8)) :
    (takeOff n pages).1 = pages.flatten.take n ∧
      (takeOff n pages).2.flatten = pages.flatten.drop n := by
  fun_induction takeOff n pages with
  | case1 => simp
  -- the page is taken whole, and the rest comes from the pages behind it
  | case2 n page pages hle bytes rest heq ih =>
    rw [heq] at ih
    rw [List.flatten_cons, List.take_append, List.drop_append, List.take_of_length_le hle,
      List.drop_of_length_le hle, ← ih.1, ← ih.2]
    exact ⟨rfl, rfl⟩
  -- the page is cut, and nothing behind it is touched
  | case3 n page pages hlt =>
    have hle : n ≤ page.length := by omega
    rw [List.flatten_cons, List.flatten_cons, List.take_append_of_le_length hle,
      List.drop_append_of_le_length hle]
    exact ⟨rfl, rfl⟩

/-- All pages are given back when all bytes are taken. -/
theorem consume_of_length_le {p : Pipe} {n : Nat} (h : p.buffer.length ≤ n) :
    (p.consume n).2 = p.drain.2 := by
  suffices hpages : ∀ n (pages : List (List UInt8)), pages.flatten.length ≤ n →
      (takeOff n pages).2 = [] by
    rw [consume, drain, hpages n p.pages h]
  clear h
  intro n pages h
  fun_induction takeOff n pages with
  | case1 => rfl
  | case2 n page pages hle bytes rest heq ih =>
    rw [heq] at ih
    rw [List.flatten_cons, List.length_append] at h
    exact ih (by omega)
  -- no page is longer than all of them together
  | case3 n page pages hlt =>
    rw [List.flatten_cons, List.length_append] at h
    omega

theorem consume_fst (p : Pipe) (n : Nat) : (p.consume n).1 = p.buffer.take n :=
  (takeOff_eq n p.pages).1

theorem buffer_consume (p : Pipe) (n : Nat) : (p.consume n).2.buffer = p.buffer.drop n :=
  (takeOff_eq n p.pages).2

theorem readers_offer {p q : Pipe} {bytes : List UInt8} {n : Nat}
    (h : p.offer bytes = .ok (n, q)) : q.readers = p.readers := by
  simp only [offer] at h
  split at h
  · cases h
  · cases h
    rfl

end Pipe

/-! ### The pipe of a machine -/

namespace FileTree

variable {t : FileTree} {node : NodeId} {p q : Pipe}

theorem pipe?_eq_some_iff : t.pipe? node = some p ↔ t.nodes[node]? = some (.pipe p) := by
  unfold pipe?
  split
  · next heq => simp [heq]
  · next hne =>
    constructor
    · intro h
      cases h
    · exact fun h => absurd h (hne p)

theorem pipe?_setNode (h : t.pipe? node = some p) :
    (t.setNode node (.pipe q)).pipe? node = some q := by
  rw [pipe?_eq_some_iff, nodes_setNode_self (pipe?_eq_some_iff.mp h)]

end FileTree

namespace Host

variable {path : String} {node : NodeId} {h : Host} {p q : Pipe}

/-- The machine with another state of a pipe. -/
def withPipe (h : Host) (node : NodeId) (q : Pipe) : Host :=
  { h with tree := h.tree.setNode node (.pipe q) }

theorem pipe?_withPipe (hp : h.tree.pipe? node = some p) :
    (h.withPipe node q).tree.pipe? node = some q :=
  FileTree.pipe?_setNode hp

theorem withPipe_withPipe (h : Host) (node : NodeId) (p q : Pipe) :
    (h.withPipe node p).withPipe node q = h.withPipe node q := by
  simp only [withPipe, FileTree.setNode_setNode]

/-- The pipe at a path, through the files of a machine. The daemon holds the node itself. -/
def commandPipe (path : String) (node : NodeId) : KernelPipe Host where
  deliver bytes h := (h.tree.deliver path bytes).map fun (n, tree) => (n, { h with tree })
  read size h :=
    match h.tree.pipe? node with
    | some p =>
      let (bytes, p) := p.consume size
      (if bytes = [] then .error .wouldBlock else .ok bytes, h.withPipe node p)
    | none => (.error .badDescriptor, h)

/-- The path names a pipe that is read. -/
def HasPipe (path : String) (node : NodeId) (h : Host) : Prop :=
  h.tree.locate path = .ok node ∧ ∃ p, h.tree.pipe? node = some p ∧ 0 < p.readers

/-- The bytes in the pipe. -/
def queued (node : NodeId) (h : Host) : List UInt8 := (h.tree.pipe? node).elim [] Pipe.buffer

theorem queued_of_pipe? (hp : h.tree.pipe? node = some p) : h.queued node = p.buffer := by
  rw [queued, hp]
  rfl

/-- Another state of the pipe. -/
theorem HasPipe.withPipe (hpipe : h.HasPipe path node) (hq : 0 < q.readers) :
    (h.withPipe node q).HasPipe path node ∧ (h.withPipe node q).queued node = q.buffer := by
  obtain ⟨hlocate, p, hp, -⟩ := hpipe
  have hq' := pipe?_withPipe (q := q) hp
  have hsame : h.tree.SameDirectories (h.withPipe node q).tree :=
    FileTree.setNode_pipe_directories (FileTree.pipe?_eq_some_iff.mp hp) _
  have hlocate' : (h.withPipe node q).tree.locate path = .ok node :=
    (hsame.locate_eq path).trans hlocate
  exact ⟨⟨hlocate', q, hq', hq⟩, queued_of_pipe? hq'⟩

/-- What a client delivers is offered to the pipe. -/
theorem commandPipe_deliver (hpipe : h.HasPipe path node) (hp : h.tree.pipe? node = some p)
    (bytes : List UInt8) :
    (commandPipe path node).deliver bytes h =
      match p.offer bytes with
      | .ok (n, p) => .ok (n, h.withPipe node p)
      | .error e => .error (.system e) := by
  obtain ⟨hlocate, p', hp', hreaders⟩ := hpipe
  obtain rfl := Option.some.inj (hp'.symm.trans hp)
  have hnode := FileTree.pipe?_eq_some_iff.mp hp
  simp only [commandPipe, FileTree.deliver, hlocate, bind, Except.bind, hnode,
    if_neg (Nat.ne_of_gt hreaders)]
  rcases p'.offer bytes with e | ⟨n, q⟩ <;> rfl

/-- The daemon reads what was there first. -/
theorem commandPipe_read (path : String) (hp : h.tree.pipe? node = some p) (size : Nat) :
    (commandPipe path node).read size h =
      (if p.buffer.take size = [] then .error .wouldBlock else .ok (p.buffer.take size),
        h.withPipe node (p.consume size).2) := by
  simp only [commandPipe, hp, Pipe.consume_fst]

/-- **The pipe of a machine hands on what it takes, in order.** -/
theorem commandPipe_isFifo (path : String) (node : NodeId) :
    (commandPipe path node).IsFifo (HasPipe path node) (queued node) where
  deliver_ok {bytes h n h'} hpipe hbytes hdeliver := by
    obtain ⟨p, hp, hreaders⟩ := hpipe.2
    rw [commandPipe_deliver hpipe hp] at hdeliver
    rcases hoffer : p.offer bytes with e | ⟨taken, q⟩
    · rw [hoffer] at hdeliver
      cases hdeliver
    · rw [hoffer] at hdeliver
      cases hdeliver
      obtain ⟨hpipe', hqueued⟩ := hpipe.withPipe (Pipe.readers_offer hoffer ▸ hreaders)
      -- the pipe takes all of a short write, so what it took is what was sent
      have hlength := Pipe.eq_length_of_offer hbytes hoffer
      refine ⟨hpipe', hlength, ?_⟩
      rw [hqueued, queued_of_pipe? hp, Pipe.buffer_offer hoffer, hlength, List.take_length]
  read_ok {size bytes h h'} hpipe hsize hread := by
    obtain ⟨p, hp, hreaders⟩ := hpipe.2
    obtain ⟨hpipe', hqueued⟩ := hpipe.withPipe (q := (p.consume size).2) hreaders
    rw [commandPipe_read path hp] at hread
    split at hread
    · cases hread
    · next hne =>
      cases hread
      rw [hqueued, queued_of_pipe? hp, Pipe.buffer_consume, List.take_append_drop]
      exact ⟨hpipe', rfl, fun h => absurd h hne⟩
  read_error {size e h h'} hpipe hsize hread := by
    obtain ⟨p, hp, hreaders⟩ := hpipe.2
    obtain ⟨hpipe', hqueued⟩ := hpipe.withPipe (q := (p.consume size).2) hreaders
    rw [commandPipe_read path hp] at hread
    split at hread
    · next hempty =>
      cases hread
      rw [List.take_eq_nil_iff] at hempty
      -- to take nothing off at least one byte means that nothing is there
      have hbuffer : p.buffer = [] := hempty.resolve_left (Nat.ne_of_gt hsize)
      rw [hqueued, queued_of_pipe? hp, Pipe.buffer_consume, hbuffer, List.drop_nil]
      exact ⟨hpipe', rfl, Or.inr ⟨rfl, rfl⟩⟩
    · cases hread

end Host

/-- A client sends through the files of the machine. -/
theorem Client.send_eq_commandPipe (path : String) (node : NodeId) (c : Command) :
    Client.send path c = (Host.commandPipe path node).send path c := by
  funext h
  simp only [Client.send, KernelPipe.send, Host.commandPipe]
  rcases h.tree.deliver path (bytesOfText c.line) with f | ⟨n, t⟩ <;> rfl

/-- The daemon reads everything that is there. -/
theorem CommandPipe.read_eq {c : CommandPipe} {h : Host} {p : Pipe}
    (hp : h.tree.pipe? c.node = some p) :
    c.read h = ((c.framing.feed p.buffer).2,
      { c with framing := (c.framing.feed p.buffer).1 }, h.withPipe c.node p.drain.2) := by
  simp only [read, receive, FileTree.drainPipe, hp, feed_eq, flatten_pieces, Pipe.drain,
    Host.withPipe]

end FanControl
