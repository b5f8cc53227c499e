import FanControl.Attribute.Memory
import FanControl.Proofs.Accesses
import FanControl.Proofs.Frequency

/-!
# Only legal values are ever written

The store may answer anything, fail at any access and change its contents on its own; what is
*written* to it is still under the rules of `Operation.Lawful`, for every operation of every run
(`pages_lawful`). The reason is that a decision is legal whatever it was based on
(`Change.legal_of_resolve`), and that a frequency from the command pipe is only decided on after
the mode read as `manual` (`Change.manual_of_resolve`).
-/

namespace FanControl

variable {ω : Type}

/-! ### Legal values -/

/-- The texts that an attribute may be set to: a mode is one of two words, a frequency a number
from 1 to 20 in base ten, and a temperature cannot be set at all. -/
def Attribute.Legal : Attribute → String → Prop
  | .mode, value => value = "auto" ∨ value = "manual"
  | .frequency, value => ∃ n : Nat, 1 ≤ n ∧ n ≤ 20 ∧ value = Text.Decimal.ofNat n
  | .temperature, _ => False

theorem Mode.legal_text (m : Mode) : Attribute.Legal .mode m.text := by
  cases m
  · exact Or.inl rfl
  · exact Or.inr rfl

theorem Frequency.legal_text {hz : UInt8} (h : 1 ≤ hz.toNat ∧ hz.toNat ≤ 20) :
    Attribute.Legal .frequency (Frequency.text hz) :=
  ⟨hz.toNat, h.1, h.2, rfl⟩

namespace Change

theorem legal_of_resolveStep {step : Int} {current : Except Error Int64} {d : Decision}
    (h : resolveStep step current = .ok d) : d.result.target.Legal d.result.text := by
  rcases current with e | current
  · cases h
  · cases h
    exact Frequency.legal_text (Frequency.clamp_mem _)

theorem legal_of_resolveFrequency {value : Int64} {mode : Except Error Mode} {d : Decision}
    (h : resolveFrequency value mode = .ok d) : d.result.target.Legal d.result.text := by
  rcases mode with e | _ | _
  · cases h
  · cases h
  · change (Frequency.validate value).map _ = .ok d at h
    rcases hv : Frequency.validate value with e | hz
    · rw [hv] at h
      cases h
    · rw [hv] at h
      cases h
      obtain ⟨hlow, hhigh, heq⟩ := Frequency.validate_eq_ok_iff.mp hv
      exact Frequency.legal_text (by omega)

theorem legal_of_resolveSwitch {mode : Except Error Mode} {d : Decision}
    (h : (resolveSwitch mode).1 = .ok d) : d.result.target.Legal d.result.text := by
  rcases mode with e | mode
  · cases e <;> cases h
    exact Mode.legal_text .auto
  · cases h
    exact Mode.legal_text mode.toggled

/-- **Every decision is legal**, whatever the answer it is based on. -/
theorem legal_of_resolve {x : Change} {answer : Except Error String} {d : Decision}
    (h : (x.resolve answer).1 = .ok d) : d.result.target.Legal d.result.text := by
  rcases x with (value | mode | text) | _ | _ | _
  · exact legal_of_resolveFrequency h
  · cases h
    exact Mode.legal_text mode
  · cases h
  · exact legal_of_resolveSwitch h
  · exact legal_of_resolveStep h
  · exact legal_of_resolveStep h

theorem modeOf_eq_ok_iff {raw : String} {m : Mode} : modeOf raw = .ok m ↔ raw = m.text := by
  rw [← Mode.ofText?_eq_some_iff, modeOf, AttributeStore.interpret]
  cases Mode.ofText? raw <;> simp

/-- **A command sets a frequency only in manual mode**: the answer it is based on is that very
word. -/
theorem manual_of_resolve {c : Command} {answer : Except Error String} {d : Decision}
    (h : ((Change.command c).resolve answer).1 = .ok d) (hd : d.result.target = .frequency) :
    (Change.command c).consultation answer = [.read .mode (.ok "manual")] := by
  cases c with
  | setMode mode => cases h; cases hd
  | unknown text => cases h
  | setFrequency value =>
    rcases answer with e | raw
    · cases h
    · change resolveFrequency value (modeOf raw) = .ok d at h
      -- an answer that is no mode, or the automatic one, is refused before any decision
      rcases hm : modeOf raw with e | _ | _
      · rw [hm] at h; cases h
      · rw [hm] at h; cases h
      · rw [modeOf_eq_ok_iff.mp hm]
        rfl

end Change

/-! ### The rules of an operation -/

namespace Operation

/-- The operations that may not write at all. -/
def Silent : Operation → Prop
  | .refresh | .release _ | .change (.command (.unknown _)) => True
  | _ => False

/-- What the accesses of an operation have to keep to. -/
structure Lawful (op : Operation) (accesses : List StoreAccess) : Prop where
  /-- Whatever is written is legal. -/
  legal : ∀ attr value outcome, .write attr value outcome ∈ accesses → attr.Legal value
  /-- There is one attempt to write at most. -/
  once : accesses.countP StoreAccess.isWrite ≤ 1
  /-- Some operations do not write. -/
  silent : op.Silent → accesses.countP StoreAccess.isWrite = 0
  /-- Before a command writes a frequency, it reads the mode, and finds it manual. -/
  gated : ∀ command earlier value outcome later, op = .change (.command command) →
    accesses = earlier ++ .write .frequency value outcome :: later →
      earlier = [.read .mode (.ok "manual")]

/-- Accesses without a write keep to every rule. -/
theorem Lawful.of_countP_eq_zero {op : Operation} {accesses : List StoreAccess}
    (h : accesses.countP StoreAccess.isWrite = 0) : op.Lawful accesses where
  legal attr value outcome hmem :=
    absurd rfl (List.countP_eq_zero.mp h (.write attr value outcome) hmem)
  once := by omega
  silent _ := h
  gated command earlier value outcome later _ heq := by
    have hmem : StoreAccess.write .frequency value outcome ∈ accesses := by simp [heq]
    exact absurd rfl (List.countP_eq_zero.mp h _ hmem)

end Operation

/-- The only write of a list stands in one place of it. -/
theorem StoreAccess.eq_of_append_write {before after earlier later : List StoreAccess}
    {a w : StoreAccess} (hbefore : ∀ b ∈ before, b.isWrite = false)
    (hafter : ∀ b ∈ after, b.isWrite = false) (hw : w.isWrite = true)
    (h : before ++ a :: after = earlier ++ w :: later) : earlier = before ∧ w = a := by
  -- on what stands before: the place of the only write is found from the front
  induction before generalizing earlier with
  | nil =>
    rcases earlier with _ | ⟨b, earlier⟩
    · exact ⟨rfl, (List.cons.inj h).1.symm⟩
    · have hmem : w ∈ after := by simp [(List.cons.inj h).2]
      rw [hafter w hmem] at hw
      cases hw
  | cons b before ih =>
    rcases earlier with _ | ⟨b', earlier⟩
    · have hwrite := hbefore b (List.mem_cons_self ..)
      rw [(List.cons.inj h).1, hw] at hwrite
      cases hwrite
    · obtain ⟨rfl, htail⟩ := List.cons.inj h
      obtain ⟨rfl, rfl⟩ := ih (fun b hb => hbefore b (List.mem_cons_of_mem _ hb)) htail
      exact ⟨rfl, rfl⟩

namespace Operation

/-- What is written once, between accesses that do not write, keeps to the rules if it is a
decision. -/
theorem Lawful.of_decision {op : Operation} {x : Change} {answer : Except Error String}
    {d : Decision} {outcome : Except Error Unit} {reads : List StoreAccess}
    (hd : (x.resolve answer).1 = .ok d) (hreads : ∀ a ∈ reads, a.isWrite = false)
    (hop : ∀ command, op = .change (.command command) → x = .command command)
    (hsilent : ¬ op.Silent) :
    op.Lawful
      (x.consultation answer ++ .write d.result.target d.result.text outcome :: reads) where
  legal attr value outcome hmem := by
    rcases List.mem_append.mp hmem with h | h
    · cases Change.not_isWrite_of_mem_consultation h
    · rcases List.mem_cons.mp h with h | h
      · cases h
        exact Change.legal_of_resolve hd
      · cases hreads _ h
  once := by
    have hbefore : (x.consultation answer).countP StoreAccess.isWrite = 0 := by
      apply List.countP_eq_zero.mpr
      intro a ha
      simp [Change.not_isWrite_of_mem_consultation ha]
    have hafter : reads.countP StoreAccess.isWrite = 0 := by
      apply List.countP_eq_zero.mpr
      intro a ha
      simp [hreads a ha]
    rw [List.countP_append, hbefore, List.countP_cons, hafter]
    exact Nat.le_refl 1
  silent h := absurd h hsilent
  gated command earlier value outcome' later hcommand heq := by
    obtain ⟨rfl, hwrite⟩ := StoreAccess.eq_of_append_write
      (fun _ => Change.not_isWrite_of_mem_consultation) hreads rfl heq
    obtain rfl := hop command hcommand
    injection hwrite with htarget _ _
    exact Change.manual_of_resolve hd htarget.symm

theorem Lawful.of_trail {op : Operation} {x : Change} {answer : Except Error String}
    {result : Except Error Applied} {accesses : List StoreAccess}
    (h : x.Trail answer result accesses)
    (hop : ∀ command, op = .change (.command command) → x = .command command)
    (hsilent : op.Silent → ∀ answer d, (x.resolve answer).1 ≠ .ok d) : op.Lawful accesses := by
  cases h with
  -- a change that is not decided only reads
  | undecided h =>
    apply Lawful.of_countP_eq_zero
    apply List.countP_eq_zero.mpr
    intro a ha
    simp [Change.not_isWrite_of_mem_consultation ha]
  | failed e h =>
    exact Lawful.of_decision h (fun _ hmem => by cases hmem) hop fun hs => hsilent hs _ _ h
  -- the refresh behind a write reads the three attributes
  | done m t f h =>
    refine Lawful.of_decision h (fun a ha => ?_) hop fun hs => hsilent hs _ _ h
    simp only [List.mem_cons, List.not_mem_nil, or_false] at ha
    rcases ha with rfl | rfl | rfl <;> rfl

/-- **The accesses of every operation keep to the rules.** -/
theorem Trail.lawful {op : Operation} {accesses : List StoreAccess} (h : op.Trail accesses) :
    op.Lawful accesses := by
  cases h with
  | @change x _ _ _ h =>
    refine Lawful.of_trail h (fun _ heq => by cases heq; rfl) fun hs answer d hd => ?_
    rcases x with (_ | _ | text) | _ | _ | _
    · exact hs
    · exact hs
    · cases hd
    all_goals exact hs
  | refresh m t f => exact Lawful.of_countP_eq_zero rfl
  | press h => exact Lawful.of_trail h (fun _ heq => by cases heq) fun hs => by cases hs
  | release => exact Lawful.of_countP_eq_zero rfl

/-! ### Runs -/

/-- The accesses that the operations of a run make, operation by operation. Before every
operation the world may change in any way. -/
def pages (k : Controller ω) :
    List ((ω → ω) × Operation) → Console ω → List (Operation × List StoreAccess)
  | [], _ => []
  | (outside, op) :: rest, c =>
    let c := { c with world := outside c.world }
    (op, op.accesses k c) :: pages k rest (op.perform k c)

/-- **Only legal values are ever written.** A controller on any store, with or without a lamp,
performs any operations in any order. The store may answer a read with any text or any error, let
any write succeed or fail, and change whenever it is used; and between two operations the world
may change in any way. Then the accesses of every operation of the run keep to all the rules. -/
theorem pages_lawful (k : Controller ω) (schedule : List ((ω → ω) × Operation)) (c : Console ω) :
    ∀ page ∈ pages k schedule c, page.1.Lawful page.2 := by
  induction schedule generalizing c with
  | nil =>
    intro page hpage
    cases hpage
  | cons entry rest ih =>
    intro page hpage
    rcases List.mem_cons.mp hpage with rfl | hpage
    · exact (trail_accesses k _ _).lawful
    · exact ih _ page hpage

/-- A button ends automatic control, and then a command sets seven hertz. -/
theorem pages_lawful_memory :
    let k : Controller Memory := ⟨Memory.store, none⟩
    let m : Memory := ⟨fun | .mode => .ok "auto" | .temperature => .ok "41" | .frequency => .ok "3",
      fun _ => none, []⟩
    let command := Operation.change (.command (.setFrequency 7))
    let page := (command, [StoreAccess.read .mode (.ok "manual"),
      .write .frequency "7" (.ok ()), .read .mode (.ok "manual"), .read .temperature (.ok "41"),
      .read .frequency (.ok "7")])
    page ∈ pages k [(id, .change .switchMode), (id, command)] (.initial m) ∧
      page.1.Lawful page.2 := by
  intro k m command page
  have hpage : page ∈ pages k [(id, .change .switchMode), (id, command)] (.initial m) :=
    List.mem_cons_of_mem _ (List.mem_cons_self ..)
  exact ⟨hpage, pages_lawful k _ _ page hpage⟩

end Operation

end FanControl
