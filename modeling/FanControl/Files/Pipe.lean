/-
  `Pipe` — a named pipe: bytes in the order they were written, kept on pages.

  A pipe has room for so many pages, full or not. A write first adds to the last
  page what is left of it when whole pages are cut off, if that fits there; the
  rest starts on a page of its own. So a write that does not wait may find a pipe
  full that holds far fewer bytes than its pages could. What is read is the bytes
  alone (`buffer`): nobody who reads can tell where a page ends.
-/
import FanControl.Error.Access

namespace FanControl

/-! ### Pieces of a list -/

/-- A list cut into pieces of `size` elements, the last one possibly shorter; one piece if `size`
is zero. -/
def pieces {α : Type} (size : Nat) (xs : List α) : List (List α) :=
  go xs.length xs
where
  /-- Cuts at most `fuel` pieces off. -/
  go : Nat → List α → List (List α)
    | _, [] => []
    | 0, xs => [xs]
    | fuel + 1, xs => xs.take size :: go fuel (xs.drop size)

/-- Nothing is lost by cutting. -/
theorem flatten_pieces {α : Type} (size : Nat) (xs : List α) :
    (pieces size xs).flatten = xs := by
  suffices h : ∀ fuel (ys : List α), (pieces.go size fuel ys).flatten = ys from h _ xs
  intro fuel
  induction fuel with
  | zero => intro ys; cases ys <;> simp [pieces.go]
  | succ n ih =>
    intro ys
    cases ys with
    | nil => simp [pieces.go]
    | cons y ys => simp [pieces.go, ih]

/-- The first pieces hold what a list starts with. -/
theorem flatten_take_pieces {α : Type} (size n : Nat) (xs : List α) :
    ((pieces size xs).take n).flatten <+: xs :=
  ⟨((pieces size xs).drop n).flatten, by
    rw [← List.flatten_append, List.take_append_drop, flatten_pieces]⟩

/-! ### Pipes -/

/-- A pipe with the number of its open ends. -/
structure Pipe where
  pages : List (List UInt8)
  readers : Nat
  writers : Nat
deriving DecidableEq, Repr

/-- An end of a pipe. -/
inductive PipeEnd where
  | read
  | write
deriving DecidableEq, Repr

namespace Pipe

/-- The number of bytes that fit on a page. -/
def pageSize : Nat := 4096

/-- The number of pages that a pipe has room for. -/
def maxPages : Nat := 16

/-- A pipe that nobody has opened. -/
def empty : Pipe := ⟨[], 0, 0⟩

/-- The bytes in a pipe. -/
def buffer (p : Pipe) : List UInt8 := p.pages.flatten

/-! ### Writing -/

/-- How many bytes of a write go to the last page: what exceeds whole pages, if all of that fits. -/
def joining (pages : List (List UInt8)) (size : Nat) : Nat :=
  match pages.getLast? with
  | some last => if last.length + size % pageSize ≤ pageSize then size % pageSize else 0
  | none => 0

/-- Pages with more bytes on the last one. -/
def fillLast (pages : List (List UInt8)) (bytes : List UInt8) : List (List UInt8) :=
  match pages with
  | [] => []
  | [last] => [last ++ bytes]
  | page :: pages => page :: fillLast pages bytes

/-- A write that does not wait, and the number of bytes it took. It fails if there is no room for
any of them. -/
def offer (p : Pipe) (bytes : List UInt8) : Except Errno (Nat × Pipe) :=
  let joined := joining p.pages bytes.length
  let pages := fillLast p.pages (bytes.take joined)
  let fresh := (pieces pageSize (bytes.drop joined)).take (maxPages - pages.length)
  let taken := joined + fresh.flatten.length
  if taken = 0 ∧ bytes ≠ [] then .error .wouldBlock
  else .ok (taken, { p with pages := pages ++ fresh })

theorem flatten_fillLast {pages : List (List UInt8)} (h : pages ≠ []) (bytes : List UInt8) :
    (fillLast pages bytes).flatten = pages.flatten ++ bytes := by
  fun_induction fillLast pages bytes with
  | case1 => exact absurd rfl h
  | case2 last => simp
  | case3 page pages hne ih => simp [ih (by simpa using hne)]

/-- Nothing joins the last page of an empty pipe. -/
theorem flatten_fillLast_joining (pages : List (List UInt8)) (size : Nat) (bytes : List UInt8) :
    (fillLast pages (bytes.take (joining pages size))).flatten =
      pages.flatten ++ bytes.take (joining pages size) := by
  by_cases h : pages = []
  · simp [h, joining, fillLast]
  · exact flatten_fillLast h _

/-- The bytes that a write took are the first ones, and they stand behind those that were there. -/
theorem buffer_offer {p q : Pipe} {bytes : List UInt8} {n : Nat}
    (h : p.offer bytes = .ok (n, q)) : q.buffer = p.buffer ++ bytes.take n := by
  simp only [offer] at h
  split at h
  · simp at h
  · simp only [Except.ok.injEq, Prod.mk.injEq] at h
    obtain ⟨rfl, rfl⟩ := h
    generalize hj : joining p.pages bytes.length = joined
    generalize hk : maxPages - (fillLast p.pages (bytes.take joined)).length = room
    have hp := List.prefix_iff_eq_take.mp
      (flatten_take_pieces pageSize room (bytes.drop joined))
    simp only [buffer, List.flatten_append]
    rw [← hj, flatten_fillLast_joining, hj, List.take_add, ← hp, List.append_assoc]

/-! ### Reading -/

/-- Removes everything that is in the pipe. -/
def drain (p : Pipe) : List UInt8 × Pipe := (p.buffer, { p with pages := [] })

/-! ### Ends -/

/-- The pipe after one of its ends was closed. What is in a pipe is lost when its last end is
closed. -/
def settle (p : Pipe) : Pipe := if p.readers = 0 ∧ p.writers = 0 then empty else p

/-- Opens the pipe for reading. -/
def openReader (p : Pipe) : Pipe := { p with readers := p.readers + 1 }

/-- Opens the pipe for writing. -/
def openWriter (p : Pipe) : Pipe := { p with writers := p.writers + 1 }

/-- Opens an end without waiting for the other one. Nobody writes to a pipe that nobody reads. -/
def openEnd (p : Pipe) : PipeEnd → Except Errno Pipe
  | .read => .ok p.openReader
  | .write => if p.readers = 0 then .error .noDevice else .ok p.openWriter

/-- Closes an end for reading. -/
def closeReader (p : Pipe) : Pipe := { p with readers := p.readers - 1 }.settle

/-- Closes an end for writing. -/
def closeWriter (p : Pipe) : Pipe := { p with writers := p.writers - 1 }.settle

end Pipe

end FanControl
