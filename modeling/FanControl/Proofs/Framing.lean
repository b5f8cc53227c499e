import FanControl.CommandPipe
import Mathlib.Tactic.SplitIfs

/-!
# Framing does not depend on how the stream is cut

What a stream says is fixed without running the framer: cut it at the line feeds, drop the
pieces that are empty or longer than 256 bytes, and decode each of the others as a whole
(`Framing.texts`). What follows the last line feed is the unfinished segment, and the state of
the framer is a function of that segment alone (`Framing.carried`).

`Framing.feed_carried` says that the framer keeps to this byte by byte: from the state of an
unfinished segment `t`, the bytes `bs` give the texts of `t ++ bs` and leave the state of its
unfinished segment. The pieces that single reads return, and the calls that make those reads,
then disappear in a concatenation (`CommandPipe.feed_eq`, `CommandPipe.listen_eq`).

A stream can also be taken apart and put together by its segments
(`Framing.flatMap_ended_append_unfinished`, `Framing.accepted_flatMap_ended`), and read on from
where it stopped (`Framing.feed_carried_unfinished`).
-/

namespace FanControl

theorem CommandPipe.lines_append (a b : List Framed) : lines (a ++ b) = lines a ++ lines b :=
  List.filterMap_append ..

/-! ### What a stream says -/

namespace Framing

/-- The segments of a stream that end in a line feed, without it. -/
def terminated (s : List UInt8) : List (List UInt8) := (s.splitOn 10).dropLast

/-- What follows the last line feed of a stream. -/
def unfinished (s : List UInt8) : List UInt8 := (s.splitOn 10).getLastD []

/-- The segments that are lines: they have 1 to 256 bytes. -/
def accepted (s : List UInt8) : List (List UInt8) :=
  (terminated s).filter fun segment => 1 ≤ segment.length ∧ segment.length ≤ 256

/-- The texts of the lines of a stream, each decoded as a whole. -/
def texts (s : List UInt8) : List String :=
  (accepted s).map fun segment => String.ofList (Text.Utf8.decodeLossy segment)

/-- No line feed is left in a segment. -/
theorem not_mem_of_mem_splitOn {s segment : List UInt8} (h : segment ∈ s.splitOn 10) :
    10 ∉ segment := by
  induction s generalizing segment with
  | nil => simp_all
  | cons b s ih =>
    rw [List.splitOn_cons_eq_if_modifyHead] at h
    split at h
    · rcases List.mem_cons.mp h with rfl | h
      · exact List.not_mem_nil
      · exact ih h
    · -- the byte is put before the first segment, and the others stay
      next hb =>
      obtain ⟨first, rest, hs⟩ := List.exists_cons_of_ne_nil (List.splitOn_ne_nil 10 s)
      rw [hs] at h ih
      rcases List.mem_cons.mp h with rfl | h
      · have hfirst : 10 ∉ first := ih (List.mem_cons_self ..)
        have hbyte : ¬ 10 = b := fun h => hb (by simp [h])
        exact List.not_mem_cons_of_ne_of_not_mem hbyte hfirst
      · exact ih (List.mem_cons_of_mem _ h)

theorem not_mem_unfinished (s : List UInt8) : 10 ∉ unfinished s := by
  apply not_mem_of_mem_splitOn (s := s)
  rw [unfinished, List.getLastD_eq_getLast?,
    List.getLast?_eq_some_getLast (List.splitOn_ne_nil 10 s)]
  exact List.getLast_mem _

theorem not_mem_of_mem_terminated {s segment : List UInt8} (h : segment ∈ terminated s) :
    10 ∉ segment :=
  not_mem_of_mem_splitOn (List.dropLast_subset _ h)

/-- A segment with its line feed. -/
def ended (segment : List UInt8) : List UInt8 := segment ++ [10]

theorem intercalate_eq (segments : List (List UInt8)) :
    [10].intercalate segments = segments.dropLast.flatMap ended ++ segments.getLastD [] := by
  induction segments with
  | nil => rfl
  | cons a segments ih =>
    cases segments with
    | nil => simp
    | cons b segments =>
      rw [List.intercalate_cons_cons, ih, List.dropLast_cons_cons, List.flatMap_cons, ended]
      simp only [List.getLastD_cons, List.append_assoc]

/-- A stream is its terminated segments, each with its line feed, and then the unfinished one. -/
theorem flatMap_ended_append_unfinished (s : List UInt8) :
    (terminated s).flatMap ended ++ unfinished s = s := by
  rw [terminated, unfinished, ← intercalate_eq, List.intercalate_splitOn]

/-- A stream without a line feed is one unfinished segment. -/
theorem unfinished_of_not_mem {t : List UInt8} (ht : 10 ∉ t) : unfinished t = t := by
  simp [unfinished, List.splitOn_eq_singleton ht]

theorem accepted_of_not_mem {t : List UInt8} (ht : 10 ∉ t) : accepted t = [] := by
  simp [accepted, terminated, List.splitOn_eq_singleton ht]

theorem unfinished_append_lineFeed {t : List UInt8} (ht : 10 ∉ t) (bs : List UInt8) :
    unfinished (t ++ 10 :: bs) = unfinished bs := by
  have hne : bs.splitOn 10 ≠ [] := List.splitOn_ne_nil 10 bs
  rw [unfinished, List.splitOn_append_cons_self_of_not_mem ht, unfinished, List.getLastD_cons,
    List.getLastD_eq_getLast?, List.getLastD_eq_getLast?, List.getLast?_eq_some_getLast hne]
  rfl

/-- The first line feed ends the first segment. -/
theorem accepted_append_lineFeed {t : List UInt8} (ht : 10 ∉ t) (bs : List UInt8) :
    accepted (t ++ 10 :: bs) =
      (if 1 ≤ t.length ∧ t.length ≤ 256 then [t] else []) ++ accepted bs := by
  have hne : bs.splitOn 10 ≠ [] := List.splitOn_ne_nil 10 bs
  rw [accepted, terminated, List.splitOn_append_cons_self_of_not_mem ht,
    List.dropLast_cons_of_ne_nil hne, List.filter_cons, accepted, terminated]
  by_cases h : 1 ≤ t.length ∧ t.length ≤ 256
  · rw [if_pos (decide_eq_true h), if_pos h, List.singleton_append]
  · rw [if_neg (by simpa using h), if_neg h, List.nil_append]

theorem ended_append (segment bs : List UInt8) : ended segment ++ bs = segment ++ 10 :: bs := by
  rw [ended, List.append_assoc, List.singleton_append]

theorem unfinished_flatMap_ended {segments : List (List UInt8)}
    (h : ∀ segment ∈ segments, 10 ∉ segment) : unfinished (segments.flatMap ended) = [] := by
  induction segments with
  | nil => exact unfinished_of_not_mem List.not_mem_nil
  | cons segment segments ih =>
    rw [List.forall_mem_cons] at h
    rw [List.flatMap_cons, ended_append, unfinished_append_lineFeed h.1, ih h.2]

/-- Segments of the right length are the lines of the stream that they make up. -/
theorem accepted_flatMap_ended {segments : List (List UInt8)}
    (h : ∀ segment ∈ segments, 10 ∉ segment)
    (hlength : ∀ segment ∈ segments, 1 ≤ segment.length ∧ segment.length ≤ 256) :
    accepted (segments.flatMap ended) = segments := by
  induction segments with
  | nil => exact accepted_of_not_mem List.not_mem_nil
  | cons segment segments ih =>
    rw [List.forall_mem_cons] at h hlength
    rw [List.flatMap_cons, ended_append, accepted_append_lineFeed h.1, if_pos hlength.1,
      ih h.2 hlength.2, List.singleton_append]

/-! ### The state of the framer -/

/-- The bytes kept of an unfinished line. -/
def pending : Framing → List UInt8
  | .collecting bytes => bytes
  | .discarding => []

/-- Whether an unfinished line is being dropped. -/
def isDiscarding : Framing → Bool
  | .collecting _ => false
  | .discarding => true

/-- The state after an unfinished segment `t`. -/
def carried (t : List UInt8) : Framing :=
  if t.length ≤ 256 then .collecting t else .discarding

theorem carried_nil : carried [] = .initial := rfl

theorem carried_of_le {t : List UInt8} (h : t.length ≤ 256) :
    (carried t).pending = t ∧ (carried t).isDiscarding = false := by
  rw [carried, if_pos h]
  exact ⟨rfl, rfl⟩

theorem carried_of_lt {t : List UInt8} (h : 256 < t.length) :
    (carried t).pending = [] ∧ (carried t).isDiscarding = true := by
  rw [carried, if_neg (by omega)]
  exact ⟨rfl, rfl⟩

/-- Never more than 256 bytes are kept. -/
theorem length_pending_carried (t : List UInt8) : (carried t).pending.length ≤ 256 := by
  rcases Nat.lt_or_ge 256 t.length with h | h
  · rw [(carried_of_lt h).1]; exact Nat.zero_le _
  · rw [(carried_of_le h).1]; exact h

/-- **A line feed** ends the unfinished segment, which is a line if its length is right. -/
theorem step_carried_lineFeed (t : List UInt8) :
    (carried t).step 10 =
      (carried [], if 1 ≤ t.length ∧ t.length ≤ 256 then some (.line t) else none) := by
  rw [carried_nil, carried]
  by_cases h : t.length ≤ 256
  · rw [if_pos h, step, if_pos rfl]
    cases t <;> simp_all
  · rw [if_neg h, step, if_pos rfl, if_neg (by omega)]

/-- **Any other byte** is one more of the unfinished segment, and yields no line. -/
theorem step_carried (t : List UInt8) {b : UInt8} (hb : b ≠ 10) :
    (carried t).step b =
      (carried (t ++ [b]), if t.length = 256 then some .overlong else none) := by
  have hmax : Command.maxLineSize = 256 := rfl
  simp only [carried, List.length_append, List.length_singleton]
  rcases Nat.lt_trichotomy t.length 256 with h | h | h
  · rw [if_pos (by omega), step, if_neg hb, if_neg (by omega), if_pos (by omega),
      if_neg (by omega)]
  · rw [if_pos (by omega), step, if_neg hb, if_pos (by omega), if_neg (by omega),
      if_pos h]
  · rw [if_neg (by omega), step, if_neg hb, if_neg (by omega), if_neg (by omega)]

/-- **The framer keeps to the stream.** After an unfinished segment `t`, the bytes `bs` give the
texts of `t ++ bs`, and what is carried on is its unfinished segment. -/
theorem feed_carried {t : List UInt8} (ht : 10 ∉ t) (bs : List UInt8) :
    ((carried t).feed bs).1 = carried (unfinished (t ++ bs)) ∧
      CommandPipe.lines ((carried t).feed bs).2 = texts (t ++ bs) := by
  -- on the bytes, for any unfinished segment `t` before them
  induction bs generalizing t with
  | nil =>
    rw [feed_nil, List.append_nil, unfinished_of_not_mem ht, texts, accepted_of_not_mem ht]
    exact ⟨rfl, rfl⟩
  | cons b bs ih =>
    by_cases hb : b = 10
    · -- the segment `t` is complete, and the rest of the stream starts afresh
      obtain ⟨hstate, hlines⟩ := ih (t := []) List.not_mem_nil
      rw [List.nil_append] at hstate hlines
      subst hb
      rw [texts, unfinished_append_lineFeed ht, accepted_append_lineFeed ht, List.map_append]
      simp only [feed, step_carried_lineFeed]
      refine ⟨hstate, ?_⟩
      rw [CommandPipe.lines_append, hlines, texts]
      split_ifs <;> rfl
    · -- the byte goes on with the segment, which is still unfinished
      have htb : 10 ∉ t ++ [b] := by simp [ht, Ne.symm hb]
      obtain ⟨hstate, hlines⟩ := ih htb
      rw [List.append_assoc, List.singleton_append] at hstate hlines
      simp only [feed, step_carried t hb]
      refine ⟨hstate, ?_⟩
      rw [CommandPipe.lines_append, hlines]
      split_ifs <;> rfl

/-- From the start of a stream. -/
theorem feed_initial (bs : List UInt8) :
    (initial.feed bs).1 = carried (unfinished bs) ∧
      CommandPipe.lines (initial.feed bs).2 = texts bs :=
  feed_carried (t := []) List.not_mem_nil bs

/-- Where a stream stopped, it goes on. -/
theorem feed_carried_unfinished (s bs : List UInt8) :
    ((carried (unfinished s)).feed bs).1 = carried (unfinished (s ++ bs)) ∧
      texts s ++ CommandPipe.lines ((carried (unfinished s)).feed bs).2 = texts (s ++ bs) := by
  obtain ⟨hstate, hlines⟩ := feed_initial s
  obtain ⟨hstate', hlines'⟩ := feed_initial (s ++ bs)
  rw [← hstate, ← hlines, ← hstate', ← hlines', feed_append, CommandPipe.lines_append]
  exact ⟨rfl, rfl⟩

/-- What a stream has said stays said. -/
theorem texts_prefix_append (s bs : List UInt8) : texts s <+: texts (s ++ bs) :=
  ⟨_, (feed_carried_unfinished s bs).2⟩

/-- Without a line feed there is no line, whatever was carried. -/
theorem lines_feed_of_not_mem {bs : List UInt8} (h : 10 ∉ bs) (f : Framing) :
    CommandPipe.lines (f.feed bs).2 = [] := by
  induction bs generalizing f with
  | nil => rfl
  | cons b bs ih =>
    have hb : b ≠ 10 := fun hb => h (hb ▸ List.mem_cons_self ..)
    have hstep : CommandPipe.lines (f.step b).2.toList = [] := by
      cases f with
      | discarding => rfl
      | collecting bytes =>
        simp only [step, if_neg hb]
        split_ifs <;> rfl
    have hrest : 10 ∉ bs := fun hbs => h (List.mem_cons_of_mem _ hbs)
    simp only [feed, CommandPipe.lines_append, hstep, ih hrest, List.append_nil]

/-- A line feed leaves nothing pending, and the bytes before it make up one line at most. -/
theorem feed_ended {segment : List UInt8} (h : 10 ∉ segment) (f : Framing) :
    (f.feed (ended segment)).1 = .initial ∧
      ∃ line : Option String, CommandPipe.lines (f.feed (ended segment)).2 = line.toList := by
  have hfeed : f.feed (ended segment) =
      (((f.feed segment).1.step 10).1,
        (f.feed segment).2 ++ ((f.feed segment).1.step 10).2.toList) := by
    rw [ended, feed_append]
    simp only [feed, List.append_nil]
  rw [hfeed, CommandPipe.lines_append, lines_feed_of_not_mem h, List.nil_append]
  -- only a segment that is neither blank nor too long is given out
  rcases (f.feed segment).1 with bytes | _
  · refine ⟨rfl, ?_⟩
    rcases hblank : bytes.isEmpty with _ | _
    · exact ⟨some (String.ofList (Text.Utf8.decodeLossy bytes)), by simp [step, hblank]; rfl⟩
    · exact ⟨none, by simp [step, hblank]; rfl⟩
  · exact ⟨rfl, none, rfl⟩

/-- A blank or overlong segment is no line, if nothing was pending before it. -/
theorem lines_feed_ended_eq_nil {segment : List UInt8} (h : 10 ∉ segment)
    (hlength : segment = [] ∨ 256 < segment.length) :
    CommandPipe.lines (initial.feed (ended segment)).2 = [] := by
  have hnone : ¬ (1 ≤ segment.length ∧ segment.length ≤ 256) := by
    rcases hlength with rfl | hlength
    · simp
    · omega
  rw [(feed_initial _).2, ended, texts, accepted_append_lineFeed h, if_neg hnone]
  rfl

end Framing

/-! ### Cutting the stream -/

namespace CommandPipe

/-- Reading pieces is reading their concatenation. -/
theorem feed_eq (c : CommandPipe) (chunks : List (List UInt8)) :
    c.feed chunks = ((c.framing.feed chunks.flatten).2,
      { c with framing := (c.framing.feed chunks.flatten).1 }) := by
  have hnil : (c.framing.feed chunks.flatten).2 = [] ++ (c.framing.feed chunks.flatten).2 := rfl
  rw [feed, hnil]
  generalize ([] : List Framed) = out
  induction chunks generalizing c out with
  | nil => simp
  | cons chunk chunks ih =>
    rw [List.foldl_cons, ih, List.flatten_cons, Framing.feed_append, List.append_assoc]
    rfl

/-- A series of calls, each of which reads some pieces of the stream: the lines that each call
gives, and the pipe after the last one. -/
def listen (c : CommandPipe) : List (List (List UInt8)) → List (List String) × CommandPipe
  | [] => ([], c)
  | chunks :: calls =>
    let (framed, c) := c.feed chunks
    let (rest, c) := listen c calls
    (lines framed :: rest, c)

/-- A series of calls is one call that reads all of their pieces. -/
theorem listen_eq (c : CommandPipe) (calls : List (List (List UInt8))) :
    (c.listen calls).1.flatten = lines (c.framing.feed calls.flatten.flatten).2 ∧
      (c.listen calls).2.framing = (c.framing.feed calls.flatten.flatten).1 := by
  induction calls generalizing c with
  | nil => exact ⟨rfl, rfl⟩
  | cons chunks calls ih =>
    obtain ⟨hlines, hframing⟩ := ih { c with framing := (c.framing.feed chunks.flatten).1 }
    simp only [listen, feed_eq, List.flatten_cons, List.flatten_append, Framing.feed_append]
    refine ⟨?_, hframing⟩
    rw [hlines, lines_append]

/-- **Framing is exact, and independent of how the stream is cut.** A pipe on which nothing is
pending is read in a series of calls, and each call in pieces of any size. Together the calls give
the texts of the stream that the pieces make up, in order; and what is kept after the last of them
depends on the unfinished segment alone: all of it up to 256 bytes, and nothing of a longer one
but the fact that it is being dropped. As the first calls of a series are a series, this holds
after every call. -/
theorem listen_initial (path : String) (node : NodeId) (calls : List (List (List UInt8))) :
    let stream := calls.flatten.flatten
    let tail := Framing.unfinished stream
    let (texts, c) := (CommandPipe.mk path node .initial).listen calls
    texts.flatten = Framing.texts stream ∧
      (tail.length ≤ 256 → c.framing.pending = tail ∧ c.framing.isDiscarding = false) ∧
      (256 < tail.length → c.framing.pending = [] ∧ c.framing.isDiscarding = true) ∧
      c.framing.pending.length ≤ 256 := by
  intro stream tail
  obtain ⟨hlines, hframing⟩ := listen_eq ⟨path, node, .initial⟩ calls
  have hfeed := Framing.feed_carried (t := []) List.not_mem_nil stream
  rw [Framing.carried_nil, List.nil_append] at hfeed
  rw [hfeed.1] at hframing
  rw [hfeed.2] at hlines
  refine ⟨hlines, ?_⟩
  simp only [hframing]
  exact ⟨Framing.carried_of_le, Framing.carried_of_lt, Framing.length_pending_carried _⟩

end CommandPipe

end FanControl
