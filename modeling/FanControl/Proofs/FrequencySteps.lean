import FanControl.Proofs.Decimal
import FanControl.Proofs.Faithful
import Mathlib.Data.List.Chain
import Mathlib.Data.List.Forall2

/-!
# Steps of the frequency

A button moves the frequency by one hertz, and it does so from any 64-bit integer: `Step.land` says
where, in exact arithmetic. Before a faithful store every call answers with this number and stores
it (`Controller.Holds.call`), so the calls of a whole word follow the exact course
(`Controller.Holds.stops_eq`). The rest is about courses: they stay in the range, move by one at
most, keep the order of their starts, and reach an end of the range after twenty steps towards it.
All of it together is `Controller.stops_saturate`.
-/

namespace FanControl

variable {ω ω' : Type}

/-! ### Exact courses -/

/-- A step of the frequency. -/
inductive Step where
  | up
  | down
deriving DecidableEq, Repr

namespace Step

/-- By how much a step moves the frequency. -/
def size : Step → Int
  | .up => 1
  | .down => -1

/-- Where a step from any number leads. -/
def land (s : Step) (n : Int) : Int := max 1 (min 20 (n + s.size))

/-- The numbers that the steps of a word lead to, one after the other. -/
def course : Int → List Step → List Int
  | _, [] => []
  | n, s :: word => s.land n :: course (s.land n) word

theorem land_mem (s : Step) (n : Int) : 1 ≤ s.land n ∧ s.land n ≤ 20 := by
  unfold land
  omega

/-- A course stays in the range. -/
theorem mem_course {m n : Int} {word : List Step} (h : n ∈ course m word) : 1 ≤ n ∧ n ≤ 20 := by
  induction word generalizing m with
  | nil => cases h
  | cons s word ih =>
    rcases List.mem_cons.mp h with rfl | h
    · exact s.land_mem m
    · exact ih h

/-- From the range, a step leads to a neighbour at most. -/
theorem land_near (s : Step) {n : Int} (h : 1 ≤ n ∧ n ≤ 20) :
    n - 1 ≤ s.land n ∧ s.land n ≤ n + 1 := by
  cases s <;> simp only [land, size] <;> omega

theorem isChain_course (n : Int) (word : List Step) :
    (course n word).IsChain fun m n => m - 1 ≤ n ∧ n ≤ m + 1 := by
  induction word generalizing n with
  | nil => exact .nil
  | cons s word ih =>
    cases word with
    | nil => exact .singleton _
    | cons t word =>
      have hnear := t.land_near (s.land_mem n)
      exact .cons_cons hnear (ih (s.land n))

/-- Steps keep the order. -/
theorem land_mono (s : Step) {m n : Int} (h : m ≤ n) : s.land m ≤ s.land n := by
  unfold land
  omega

theorem course_mono {m n : Int} (h : m ≤ n) (word : List Step) :
    List.Forall₂ (· ≤ ·) (course m word) (course n word) := by
  induction word generalizing m n with
  | nil => exact .nil
  | cons s word ih => exact .cons (s.land_mono h) (ih (s.land_mono h))

/-! ### The end of a course -/

theorem course_append (n : Int) (word more : List Step) :
    course n (word ++ more) =
      course n word ++ course (word.foldl (fun n s => s.land n) n) more := by
  induction word generalizing n with
  | nil => rfl
  | cons s word ih => exact congrArg (s.land n :: ·) (ih (s.land n))

/-- The last number of a course. -/
theorem getLast?_course_concat (n : Int) (word : List Step) (s : Step) :
    (course n (word ++ [s])).getLast? = some ((word ++ [s]).foldl (fun n s => s.land n) n) := by
  rw [course_append, course, course, List.getLast?_concat, List.foldl_append]
  rfl

/-- Where some steps up lead. -/
theorem foldl_up (n : Int) (count : Nat) :
    (List.replicate (count + 1) Step.up).foldl (fun n s => s.land n) n =
      min 20 (max 1 (n + 1) + count) := by
  induction count with
  -- one step is clamped from below too: the start may lie under the range
  | zero =>
    show max 1 (min 20 (n + 1)) = _
    omega
  | succ count ih =>
    rw [List.replicate_succ', List.foldl_append, ih]
    show max 1 (min 20 (min 20 (max 1 (n + 1) + count) + 1)) = _
    omega

/-- Where some steps down lead. -/
theorem foldl_down (n : Int) (count : Nat) :
    (List.replicate (count + 1) Step.down).foldl (fun n s => s.land n) n =
      max 1 (min 20 (n - 1) - count) := by
  induction count with
  | zero =>
    show max 1 (min 20 (n + -1)) = _
    omega
  | succ count ih =>
    rw [List.replicate_succ', List.foldl_append, ih]
    show max 1 (min 20 (max 1 (min 20 (n - 1) - count) + -1)) = _
    omega

/-- Twenty steps in one direction lead to the end of the range, wherever they start. -/
theorem getLast?_course_twenty (n : Int) (word : List Step) (s : Step) :
    (course n (word ++ List.replicate 20 s)).getLast? =
      some (match s with | .up => 20 | .down => 1) := by
  have hlast : word ++ List.replicate 20 s = (word ++ List.replicate 19 s) ++ [s] := by
    rw [List.append_assoc, ← List.replicate_succ']
  rw [hlast, getLast?_course_concat, ← hlast, List.foldl_append]
  -- the first of the twenty steps lands in the range, and nineteen more cross it
  cases s with
  | up =>
    rw [foldl_up]
    simp only [Option.some_inj]
    omega
  | down =>
    rw [foldl_down]
    simp only [Option.some_inj]
    omega

end Step

/-! ### Calls -/

/-- What a call answers, and as what the frequency reads after it. -/
structure Stop where
  answer : Except Error Int
  stored : Except Error Int

/-- The call answers with a number, and this number is stored. -/
def Stop.exact (n : Int) : Stop := ⟨.ok n, .ok n⟩

namespace Controller

/-- Calls for a step. -/
def step (k : Controller ω) : Step → Action (Console ω) UInt8
  | .up => k.faster
  | .down => k.slower

/-- Calls for the steps of a word, one after the other. -/
def stops (k : Controller ω) : List Step → Console ω → List Stop
  | [], _ => []
  | s :: word, c =>
    let (answer, c) := k.step s c
    ⟨answer.map fun hz => (hz.toNat : Int),
      (k.store.readFrequency c.world).1.map Int64.toInt⟩ :: k.stops word c

/-- The store is without faults, and the frequency reads as `f`. -/
structure Holds (k : Controller ω) (v : Contents ω) (f : Int64) (c : Console ω) : Prop where
  faithful : k.store.Faithful v
  sound : v.sound c.world
  reads : (k.store.readFrequency c.world).1 = .ok f

/-- In a faithful store, the frequency reads as its text. -/
theorem readFrequency_faithful {k : Controller ω} {v : Contents ω} (hs : k.store.Faithful v)
    {c : Console ω} (hc : v.sound c.world) :
    (k.store.readFrequency c.world).1 = Change.frequencyOf (v.text c.world .frequency) := by
  rw [AttributeStore.readFrequency, Action.meaning_apply, (hs.read .frequency c.world hc).1]
  rfl

theorem step_eq (k : Controller ω) (s : Step) : k.step s = k.nudge s.size := by
  cases s <;> rfl

/-- The outcome of a step, if it is known with the attribute that was changed. -/
theorem nudge_of_applied {k : Controller ω} {step : Int} {c c' : Console ω} {hz : UInt8}
    (h : (do return .frequency (← k.nudge step) : Action (Console ω) Applied) c =
      (.ok (.frequency hz), c')) : k.nudge step c = (.ok hz, c') := by
  rw [Action.bind_apply] at h
  rcases hnudge : k.nudge step c with ⟨e | answer, c''⟩
  · rw [hnudge] at h
    cases h
  · rw [hnudge] at h
    cases h
    rfl

variable {k : Controller ω} {v : Contents ω} {f : Int64} {c : Console ω}

/-- Before a faithful store, a step writes the clamped sum. -/
theorem nudge_faithful (hs : k.store.Faithful v) (hc : v.sound c.world)
    (hf : Change.frequencyOf (v.text c.world .frequency) = .ok f) (step : Int) {hz : UInt8}
    (hhz : hz = Frequency.clamp (Frequency.saturatingAdd f step)) :
    ∃ c', k.nudge step c = (.ok hz, c') ∧ v.sound c'.world ∧
      v.text c'.world = Memory.update (v.text c.world) .frequency (Frequency.text hz) := by
  -- no lamp takes part in a step
  have hk : (⟨k.store, none⟩ : Controller ω).Faithful v := ⟨hs, fun _ h => by cases h⟩
  obtain ⟨hread, hsame⟩ := hk.inWorld_read .frequency hc
  have hdecision : Change.resolveStep step
      ((Console.inWorld (k.store.read .frequency) c).1 >>= Change.frequencyOf) =
        .ok ⟨.frequency hz, .frequencyStepped f hz⟩ := by
    rw [hread]
    show Change.resolveStep step (Change.frequencyOf (v.text c.world .frequency)) = _
    rw [hf, hhz]
    rfl
  have hlegal := Change.legal_of_resolveStep hdecision
  obtain ⟨hresult, hsound, htext⟩ := Change.carryOut_faithful hk hlegal hsame.1
  have hnudge := Change.nudge_eq ⟨k.store, none⟩ step c
  rw [hdecision, Change.conclude_ok] at hnudge
  refine ⟨_, nudge_of_applied (hnudge.trans (Prod.ext hresult rfl)), hsound, ?_⟩
  exact htext.trans (congrArg (Memory.update · _ _) hsame.2)

/-- **A step saturates**: it answers with the number that it leads to, and stores this number. -/
theorem Holds.call (h : k.Holds v f c) (s : Step) :
    ∃ (hz : UInt8) (c' : Console ω), k.step s c = (.ok hz, c') ∧
      (hz.toNat : Int) = s.land f.toInt ∧ k.Holds v (Int64.ofInt hz.toNat) c' := by
  have hf : Change.frequencyOf (v.text c.world .frequency) = .ok f := by
    rw [← readFrequency_faithful h.faithful h.sound, h.reads]
  obtain ⟨hz, hhz⟩ : ∃ hz, hz = Frequency.clamp (Frequency.saturatingAdd f s.size) := ⟨_, rfl⟩
  obtain ⟨c', hnudge, hsound, htext⟩ := nudge_faithful h.faithful h.sound hf s.size hhz
  refine ⟨hz, c', ?_, ?_, h.faithful, hsound, ?_⟩
  · rw [step_eq, hnudge]
  · rw [hhz, Frequency.toNat_clamp_saturatingAdd, Step.land]
  · rw [readFrequency_faithful h.faithful hsound, htext]
    show Change.frequencyOf (Frequency.text hz) = _
    rw [Change.frequencyOf, AttributeStore.interpret, AttributeStore.integer?_frequency]

/-- **The calls of a word follow the exact course.** -/
theorem Holds.stops_eq (h : k.Holds v f c) (word : List Step) :
    k.stops word c = (Step.course f.toInt word).map Stop.exact := by
  -- `Holds` carries the induction: the value that is stored is the one just returned
  induction word generalizing f c with
  | nil => rfl
  | cons s word ih =>
    obtain ⟨hz, c', hstep, hland, hholds⟩ := h.call s
    -- a number of eight bits is stored as it is
    have hlt : hz.toNat < 256 := hz.toNat_lt
    have hstored : (Int64.ofInt hz.toNat).toInt = s.land f.toInt := by
      rw [Int64.toInt_ofInt_of_le (by omega) (by omega), hland]
    have hreads : (k.store.readFrequency c'.world).1.map Int64.toInt = .ok (s.land f.toInt) := by
      rw [hholds.reads, ← hstored]
      rfl
    have hrest := ih hholds
    rw [hstored] at hrest
    rw [stops, hstep]
    show (⟨.ok (hz.toNat : Int), _⟩ : Stop) :: _ = _
    rw [hreads, hrest, hland]
    rfl

/-- **Steps saturate from any starting value.** Before a store without faults whose frequency reads
as any 64-bit integer, every call for a step succeeds, answers with what the step leads to in exact
arithmetic, and stores it. So what is stored is in the range after the first call and moves by one
at most after it; a run from a higher start, before this store or another, stays as high after
every call; and twenty steps in one direction end at that end of the range. -/
theorem stops_saturate (h : k.Holds v f c) (word : List Step) :
    k.stops word c = (Step.course f.toInt word).map Stop.exact ∧
      (∀ stop ∈ k.stops word c, ∃ n, stop = .exact n ∧ 1 ≤ n ∧ n ≤ 20) ∧
      (k.stops word c).IsChain (fun s t => ∃ m n, s.stored = .ok m ∧ t.stored = .ok n ∧
        m - 1 ≤ n ∧ n ≤ m + 1) ∧
      (∀ {ω' : Type} {k' : Controller ω'} {v' : Contents ω'} {g : Int64} {c' : Console ω'},
        k'.Holds v' g c' → f.toInt ≤ g.toInt →
          List.Forall₂ (fun s t => ∃ m n, s.stored = .ok m ∧ t.stored = .ok n ∧ m ≤ n)
            (k.stops word c) (k'.stops word c')) ∧
      ∀ earlier s, word = earlier ++ List.replicate 20 s →
        (k.stops word c).getLast? = some (.exact (match s with | .up => 20 | .down => 1)) := by
  have hstops := h.stops_eq word
  refine ⟨hstops, ?_, ?_, ?_, ?_⟩
  · intro stop hstop
    rw [hstops] at hstop
    obtain ⟨n, hn, rfl⟩ := List.mem_map.mp hstop
    exact ⟨n, rfl, Step.mem_course hn⟩
  · rw [hstops, List.isChain_map]
    exact (Step.isChain_course f.toInt word).imp fun m n hnear => ⟨m, n, rfl, rfl, hnear⟩
  · intro ω' k' v' g c' h' hle
    rw [hstops, h'.stops_eq word, List.forall₂_map_left_iff, List.forall₂_map_right_iff]
    exact (Step.course_mono hle word).imp fun m n hmn => ⟨m, n, rfl, rfl, hmn⟩
  · intro earlier s hword
    rw [hstops, List.getLast?_map, hword, Step.getLast?_course_twenty]
    rfl

/-- Two runs before plain values, from the least and the greatest 64-bit integer: a step beyond them
is a step from them, and after twenty steps both runs are at the top. -/
theorem stops_saturate_memory :
    let holding (text : String) : Console Memory :=
      .initial ⟨fun | .frequency => .ok text | _ => .ok "?", fun _ => none, []⟩
    let k : Controller Memory := ⟨Memory.store, none⟩
    let low := holding "-9223372036854775808"
    let high := holding "9223372036854775807"
    let word := [Step.down, .up] ++ List.replicate 20 .up
    k.Holds Memory.contents Int64.minValue low ∧ k.Holds Memory.contents Int64.maxValue high ∧
      Int64.minValue.toInt ≤ Int64.maxValue.toInt ∧
      (k.stops word low).take 3 = [.exact 1, .exact 2, .exact 3] ∧
      List.Forall₂ (fun s t => ∃ m n, s.stored = .ok m ∧ t.stored = .ok n ∧ m ≤ n)
        (k.stops word low) (k.stops word high) ∧
      (k.stops word low).getLast? = some (.exact 20) := by
  intro holding k low high word
  have hsound : ∀ text, Memory.contents.sound (holding text).world := fun text =>
    ⟨fun | .mode => ⟨_, rfl⟩ | .temperature => ⟨_, rfl⟩ | .frequency => ⟨_, rfl⟩, fun _ => rfl⟩
  have hlow : k.Holds Memory.contents Int64.minValue low :=
    ⟨Memory.store_faithful, hsound _, rfl⟩
  have hhigh : k.Holds Memory.contents Int64.maxValue high :=
    ⟨Memory.store_faithful, hsound _, rfl⟩
  have hle : Int64.minValue.toInt ≤ Int64.maxValue.toInt := by decide
  obtain ⟨hstops, -, -, hordered, hend⟩ := stops_saturate hlow word
  refine ⟨hlow, hhigh, hle, ?_, hordered hhigh hle, hend _ .up rfl⟩
  rw [hstops]
  rfl

end Controller

end FanControl
