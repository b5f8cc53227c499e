import FanControl.Settings.Document
import Mathlib.Data.List.Forall2
import Mathlib.Tactic.Tauto

/-!
# The settings that an object describes

A structure is read off an object by looking its keys up. `Field` says what some members say about
one key: it occurs once, with a value that makes sense, or it does not occur and the field has its
default. `Describes`, `DescribesPaths` and `DescribesButton` say so for all fields of a structure,
and what is read is what is described (`ofJson?_object_iff`, `attributes?_object_iff`,
`button?_object_iff`).
-/

namespace FanControl.Settings

/-- The members of an object. -/
abbrev Members := List (Option (List Char) × Json)

variable {α : Type} {ms : Members} {key : String} {ks : List String} {k : List Char} {v w : Json}

/-! ### Looking a key up -/

/-- How often a key occurs. -/
def occurrences (key : String) (ms : Members) : Nat := ms.countP (·.1 == some key.toList)

theorem occurrences_eq_length (key : String) (ms : Members) :
    occurrences key ms = (ms.filter (·.1 == some key.toList)).length :=
  List.countP_eq_length_filter

theorem occurrences_pos_of_mem (h : (some key.toList, v) ∈ ms) : 0 < occurrences key ms :=
  List.countP_pos_iff.mpr ⟨_, h, by simp⟩

theorem member?_eq_none_iff : member? key ms = none ↔ 1 < occurrences key ms := by
  rw [member?, occurrences_eq_length]
  generalize ms.filter (·.1 == some key.toList) = found
  rcases found with _ | ⟨m, _ | ⟨n, rest⟩⟩ <;> simp

theorem member?_eq_absent_iff : member? key ms = some none ↔ occurrences key ms = 0 := by
  rw [member?, occurrences_eq_length]
  generalize ms.filter (·.1 == some key.toList) = found
  rcases found with _ | ⟨m, _ | ⟨n, rest⟩⟩ <;> simp

/-- A member that is found is the only one with its key. -/
theorem member?_eq_some_iff :
    member? key ms = some (some v) ↔ occurrences key ms = 1 ∧ (some key.toList, v) ∈ ms := by
  have hmem : (some key.toList, v) ∈ ms ↔
      (some key.toList, v) ∈ ms.filter (·.1 == some key.toList) := by
    rw [List.mem_filter]
    simp
  have hkeys : ∀ m ∈ ms.filter (·.1 == some key.toList), m.1 = some key.toList := by
    intro m hm
    simpa using (List.mem_filter.mp hm).2
  rw [member?, occurrences_eq_length, hmem]
  -- by the number of members found: none, one, or more
  generalize ms.filter (·.1 == some key.toList) = found at hkeys ⊢
  rcases found with _ | ⟨⟨k, u⟩, _ | ⟨n, rest⟩⟩
  · simp
  · have hk : k = some key.toList := hkeys (k, u) List.mem_cons_self
    subst hk
    simp [eq_comm]
  · simp

/-! ### Fields -/

/-- What the members say about a field: its value, or that it is absent and has its default, if
there is one. -/
inductive Field (ms : Members) (key : String) (default : Option α) (read : Json → Option α)
    (a : α) : Prop where
  | given (v : Json) : occurrences key ms = 1 → (some key.toList, v) ∈ ms → read v = some a →
      Field ms key default read a
  | absent : occurrences key ms = 0 → default = some a → Field ms key default read a

variable {default : Option α} {read : Json → Option α} {a : α}

theorem field_optional_iff {d : α} :
    Field ms key (some d) read a ↔ ∃ o, member? key ms = some o ∧ field? d read o = some a := by
  constructor
  · rintro (⟨v, honce, hmem, hread⟩ | ⟨hnone, hdefault⟩)
    · exact ⟨some v, member?_eq_some_iff.mpr ⟨honce, hmem⟩, hread⟩
    · exact ⟨none, member?_eq_absent_iff.mpr hnone, hdefault⟩
  · rintro ⟨_ | v, hmember, hfield⟩
    · exact .absent (member?_eq_absent_iff.mp hmember) hfield
    · obtain ⟨honce, hmem⟩ := member?_eq_some_iff.mp hmember
      exact .given v honce hmem hfield

theorem field_required_iff :
    Field ms key none read a ↔ ∃ v, member? key ms = some (some v) ∧ read v = some a := by
  constructor
  · rintro (⟨v, honce, hmem, hread⟩ | ⟨-, hdefault⟩)
    · exact ⟨v, member?_eq_some_iff.mpr ⟨honce, hmem⟩, hread⟩
    · cases hdefault
  · rintro ⟨v, hmember, hread⟩
    obtain ⟨honce, hmem⟩ := member?_eq_some_iff.mp hmember
    exact .given v honce hmem hread

/-- A member under the key of a field is its value. -/
theorem Field.read_of_mem (h : Field ms key default read a) (hmem : (some key.toList, v) ∈ ms) :
    read v = some a := by
  obtain ⟨w, honce, hw, hread⟩ | ⟨hnone, -⟩ := h
  · have hv := member?_eq_some_iff.mpr ⟨honce, hmem⟩
    rw [member?_eq_some_iff.mpr ⟨honce, hw⟩] at hv
    cases hv
    exact hread
  · exact absurd hnone (Nat.ne_of_gt (occurrences_pos_of_mem hmem))

/-- Only what a value reads as matters, and only if it is the value of this field. -/
theorem Field.replace {before after : Members}
    (h : Field (before ++ (some k, v) :: after) key default read a)
    (hread : k = key.toList → read v = read w) :
    Field (before ++ (some k, w) :: after) key default read a := by
  have hcount : occurrences key (before ++ (some k, w) :: after) =
      occurrences key (before ++ (some k, v) :: after) := by
    simp only [occurrences, List.countP_append, List.countP_cons]
  obtain ⟨u, honce, hmem, hu⟩ | ⟨hnone, hdefault⟩ := h
  · rw [← hcount] at honce
    -- the value of the field is the one that was replaced, or stands elsewhere
    by_cases hplace : (some key.toList, u) = (some k, v)
    · cases hplace
      exact .given w honce (by simp) ((hread rfl).symm.trans hu)
    · refine .given u honce ?_ hu
      simp only [List.mem_append, List.mem_cons, hplace, false_or] at hmem ⊢
      tauto
  · exact .absent (hcount.trans hnone) hdefault

/-! ### Structures -/

/-- Every key is a text. -/
def Named (ms : Members) : Prop := ∀ m ∈ ms, m.1.isSome

theorem mapM_eq_none_of_mem {β γ : Type} {f : β → Option γ} {xs : List β} {x : β} (hx : x ∈ xs)
    (h : f x = none) : xs.mapM f = none := by
  induction xs with
  | nil => cases hx
  | cons y xs ih =>
    rw [List.mapM_cons]
    rcases List.mem_cons.mp hx with rfl | hx
    · rw [h]
      rfl
    · rw [ih hx]
      cases f y <;> rfl

theorem mapM_eq_some_iff_forall₂ {β γ : Type} {f : β → Option γ} {xs : List β} {ys : List γ} :
    xs.mapM f = some ys ↔ List.Forall₂ (fun x y => f x = some y) xs ys := by
  induction xs generalizing ys with
  | nil => simp [eq_comm]
  | cons x xs ih =>
    rw [List.mapM_cons, List.forall₂_cons_left_iff]
    simp only [Option.bind_eq_bind, Option.bind_eq_some_iff, ih, Option.pure_def, Option.some.injEq]
    constructor
    · rintro ⟨y, hy, ys, hys, rfl⟩
      exact ⟨y, ys, hy, hys, rfl⟩
    · rintro ⟨y, ys, hy, hys, rfl⟩
      exact ⟨y, hy, ys, hys, rfl⟩

theorem fields?_object_iff {os : List (Option Json)} :
    fields? ks (.object ms) = some os ↔
      Named ms ∧ List.Forall₂ (fun key o => member? key ms = some o) ks os := by
  have hnamed : ms.any (·.1.isNone) = true ↔ ¬ Named ms := by
    simp [Named, Option.isSome_iff_ne_none]
  rw [fields?, ← mapM_eq_some_iff_forall₂]
  -- an unnamed member spoils the object whatever the keys are
  by_cases h : Named ms
  · rw [if_neg fun hany => hnamed.mp hany h]
    exact ⟨fun heq => ⟨h, heq⟩, fun hall => hall.2⟩
  · rw [if_pos (hnamed.mpr h)]
    exact ⟨nofun, fun hall => absurd hall.1 h⟩

/-- **A key that occurs twice is an error.** -/
theorem fields?_of_repeated (hkey : key ∈ ks) (h : 1 < occurrences key ms) :
    fields? ks (.object ms) = none := by
  rw [fields?, mapM_eq_none_of_mem hkey (member?_eq_none_iff.mpr h)]
  split <;> rfl

/-- The settings that some members describe. -/
structure Describes (ms : Members) (s : Settings) : Prop where
  named : Named ms
  attributes : Field ms "attributes" (some standard.attributes) attributes? s.attributes
  pipe : Field ms "fifo_path" (some standard.pipe) Json.text? s.pipe
  gpioBase : Field ms "gpio_base" (some standard.gpioBase) Json.text? s.gpioBase
  buttons : Field ms "buttons" (some standard.buttons) buttons? s.buttons
  ledPin : Field ms "status_led_pin" (some standard.ledPin) optionalPin? s.ledPin
  waitMillis : Field ms "wait_timeout_ms" (some standard.waitMillis) word64? s.waitMillis
  refreshEvery : Field ms "refresh_every_ticks" (some standard.refreshEvery) word32? s.refreshEvery

/-- The paths that some members describe. -/
structure DescribesPaths (ms : Members) (p : AttributePaths) : Prop where
  named : Named ms
  path : ∀ attr : Attribute,
    Field ms attr.name (some (AttributePaths.standard.path attr)) Json.text? (p.path attr)

/-- The button that some members describe: no field has a default. -/
structure DescribesButton (ms : Members) (b : ButtonSpec) : Prop where
  named : Named ms
  pin : Field ms "pin" none word32? b.pin
  id : Field ms "id" none buttonId? b.id
  name : Field ms "name" none Json.text? b.name

/-- **The settings in an object are those that its members describe.** -/
theorem ofJson?_object_iff {s : Settings} : ofJson? (.object ms) = some s ↔ Describes ms s := by
  constructor
  · intro h
    unfold ofJson? at h
    split at h
    · next hfields =>
      -- every look-up succeeded, and every value that was found was read
      obtain ⟨hnamed, hlookups⟩ := fields?_object_iff.mp hfields
      simp only [keys, List.forall₂_cons, List.forall₂_nil_left_iff, and_true] at hlookups
      obtain ⟨h₁, h₂, h₃, h₄, h₅, h₆, h₇⟩ := hlookups
      simp only [Option.bind_eq_bind, Option.bind_eq_some_iff] at h
      obtain ⟨_, hattributes, _, hpipe, _, hbase, _, hbuttons, _, hled, _, hwait, _, hrefresh,
        heq⟩ := h
      cases heq
      exact ⟨hnamed, field_optional_iff.mpr ⟨_, h₁, hattributes⟩,
        field_optional_iff.mpr ⟨_, h₂, hpipe⟩, field_optional_iff.mpr ⟨_, h₃, hbase⟩,
        field_optional_iff.mpr ⟨_, h₄, hbuttons⟩, field_optional_iff.mpr ⟨_, h₅, hled⟩,
        field_optional_iff.mpr ⟨_, h₆, hwait⟩, field_optional_iff.mpr ⟨_, h₇, hrefresh⟩⟩
    · cases h
  · intro h
    obtain ⟨o₁, h₁, hattributes⟩ := field_optional_iff.mp h.attributes
    obtain ⟨o₂, h₂, hpipe⟩ := field_optional_iff.mp h.pipe
    obtain ⟨o₃, h₃, hbase⟩ := field_optional_iff.mp h.gpioBase
    obtain ⟨o₄, h₄, hbuttons⟩ := field_optional_iff.mp h.buttons
    obtain ⟨o₅, h₅, hled⟩ := field_optional_iff.mp h.ledPin
    obtain ⟨o₆, h₆, hwait⟩ := field_optional_iff.mp h.waitMillis
    obtain ⟨o₇, h₇, hrefresh⟩ := field_optional_iff.mp h.refreshEvery
    -- conversely, fields that are described can be looked up, in the order of the keys
    have hfields : fields? keys (.object ms) = some [o₁, o₂, o₃, o₄, o₅, o₆, o₇] := by
      refine fields?_object_iff.mpr ⟨h.named, ?_⟩
      simp only [keys, List.forall₂_cons, List.Forall₂.nil, and_true]
      exact ⟨h₁, h₂, h₃, h₄, h₅, h₆, h₇⟩
    simp only [ofJson?, hfields, hattributes, hpipe, hbase, hbuttons, hled, hwait, hrefresh]
    rfl

theorem attributes?_object_iff {p : AttributePaths} :
    attributes? (.object ms) = some p ↔ DescribesPaths ms p := by
  constructor
  · intro h
    unfold attributes? at h
    split at h
    · next hfields =>
      obtain ⟨hnamed, hlookups⟩ := fields?_object_iff.mp hfields
      simp only [List.forall₂_cons, List.forall₂_nil_left_iff, and_true] at hlookups
      obtain ⟨h₁, h₂, h₃⟩ := hlookups
      simp only [Option.bind_eq_bind, Option.bind_eq_some_iff] at h
      obtain ⟨_, hmode, _, htemperature, _, hfrequency, heq⟩ := h
      cases heq
      refine ⟨hnamed, fun attr => ?_⟩
      -- the paths are described by attribute, and looked up in the same order
      cases attr with
      | mode => exact field_optional_iff.mpr ⟨_, h₁, hmode⟩
      | temperature => exact field_optional_iff.mpr ⟨_, h₂, htemperature⟩
      | frequency => exact field_optional_iff.mpr ⟨_, h₃, hfrequency⟩
    · cases h
  · intro h
    obtain ⟨o₁, h₁, hmode⟩ := field_optional_iff.mp (h.path .mode)
    obtain ⟨o₂, h₂, htemperature⟩ := field_optional_iff.mp (h.path .temperature)
    obtain ⟨o₃, h₃, hfrequency⟩ := field_optional_iff.mp (h.path .frequency)
    have hfields : fields? ["mode", "temperature", "frequency"] (.object ms) =
        some [o₁, o₂, o₃] := by
      refine fields?_object_iff.mpr ⟨h.named, ?_⟩
      simp only [List.forall₂_cons, List.Forall₂.nil, and_true]
      exact ⟨h₁, h₂, h₃⟩
    simp only [AttributePaths.path] at hmode htemperature hfrequency
    simp only [attributes?, hfields, hmode, htemperature, hfrequency]
    rfl

theorem button?_object_iff {b : ButtonSpec} :
    button? (.object ms) = some b ↔ DescribesButton ms b := by
  constructor
  · intro h
    unfold button? at h
    split at h
    · next hfields =>
      obtain ⟨hnamed, hlookups⟩ := fields?_object_iff.mp hfields
      simp only [List.forall₂_cons, List.forall₂_nil_left_iff, and_true] at hlookups
      obtain ⟨h₁, h₂, h₃⟩ := hlookups
      simp only [Option.bind_eq_bind, Option.bind_eq_some_iff] at h
      obtain ⟨_, hpin, _, hid, _, hname, heq⟩ := h
      cases heq
      exact ⟨hnamed, field_required_iff.mpr ⟨_, h₁, hpin⟩, field_required_iff.mpr ⟨_, h₂, hid⟩,
        field_required_iff.mpr ⟨_, h₃, hname⟩⟩
    · cases h
  · intro h
    obtain ⟨v₁, h₁, hpin⟩ := field_required_iff.mp h.pin
    obtain ⟨v₂, h₂, hid⟩ := field_required_iff.mp h.id
    obtain ⟨v₃, h₃, hname⟩ := field_required_iff.mp h.name
    have hfields : fields? ["pin", "id", "name"] (.object ms) =
        some [some v₁, some v₂, some v₃] := by
      refine fields?_object_iff.mpr ⟨h.named, ?_⟩
      simp only [List.forall₂_cons, List.Forall₂.nil, and_true]
      exact ⟨h₁, h₂, h₃⟩
    simp only [button?, hfields, hpin, hid, hname]
    rfl

end FanControl.Settings
