import FanControl.Attribute.Memory
import FanControl.Proofs.Display
import FanControl.Proofs.LegalWrites

/-!
# The panel tells the truth

A run of operations refreshes the panel now and then, and each refresh is a glance at the
attributes. What the panel shows is a function of these glances alone (`Display.Truthful`): a row
shows the value of the latest glance that had one for it, and the panel was redrawn whenever the
text of a row was another one than before. `Operation.panel_truthful` says so for every state that a
run leads to, and what follows from it: a glance that finds what the last one found changes nothing,
and a row whose attribute can be read shows what the store holds, whatever the panel showed before.
-/

namespace FanControl

variable {ω : Type}

namespace Operation

/-- The front after a run of operations; before every operation the world may change in any way. -/
def performAll (k : Controller ω) : List ((ω → ω) × Operation) → Console ω → Console ω
  | [], c => c
  | (outside, op) :: rest, c => performAll k rest (op.perform k { c with world := outside c.world })

/-- What the refreshes of a run found, the earliest first. -/
def glances (k : Controller ω) (schedule : List ((ω → ω) × Operation)) (c : Console ω) :
    List Glance :=
  (pages k schedule c).flatMap fun page => Glance.ofAccesses page.2

theorem glances_cons (k : Controller ω) (outside : ω → ω) (op : Operation)
    (rest : List ((ω → ω) × Operation)) (c : Console ω) :
    glances k ((outside, op) :: rest) c =
      Glance.ofAccesses (op.accesses k { c with world := outside c.world }) ++
        glances k rest (op.perform k { c with world := outside c.world }) := rfl

/-- A run does to the panel what its glances do. -/
theorem display_performAll (k : Controller ω) (schedule : List ((ω → ω) × Operation))
    (c : Console ω) :
    (performAll k schedule c).display =
      (glances k schedule c).foldl Display.update c.display := by
  induction schedule generalizing c with
  | nil => rfl
  | cons entry rest ih =>
    obtain ⟨outside, op⟩ := entry
    rw [performAll, ih, display_perform, glances_cons, List.foldl_append]
    rfl

end Operation

/-! ### What a display shows after some glances -/

namespace Glance

/-- The latest value that was found for a row, if there was any. -/
def latest? (row : Row) (glances : List Glance) : Option String :=
  (glances.filterMap (·.value? row)).getLast?

theorem latest?_concat {g : Glance} {row : Row} {value : String}
    (hvalue : g.value? row = some value) (glances : List Glance) :
    latest? row (glances ++ [g]) = some value := by
  have hlast : [g].filterMap (·.value? row) = [value] := by simp [hvalue]
  rw [latest?, List.filterMap_append, hlast, List.getLast?_concat]

/-- The texts that some glances put into a row. -/
theorem texts_flatMap_pushes (glances : List Glance) (row : Row) :
    Panel.texts row (glances.flatMap pushes) =
      (glances.filterMap (·.value? row)).map fun value => row.textFor (some value) := by
  rw [Panel.texts_flatMap, List.map_filterMap, List.filterMap_eq_flatMap_toList]
  simp only [texts_pushes]

end Glance

namespace Display

/-- The display that tells the truth about some glances, the earliest first. -/
structure Truthful (d : Display) (glances : List Glance) : Prop where
  /-- Every refresh is a glance. -/
  refreshes : d.refreshes = glances.length
  /-- What was found is what was pushed. -/
  pushes : d.pushes = glances.flatMap Glance.pushes
  /-- A row shows the latest value that was found for it, or the placeholder. -/
  rows : ∀ row, d.panel.row row = row.textFor (Glance.latest? row glances)
  /-- A row is not wider than the panel. -/
  width : ∀ row, (d.panel.row row).length ≤ 16
  /-- The panel was redrawn once for each push that changed the text of its row. -/
  redraws : d.panel.redraws =
    Row.total fun row => Panel.switches (row.textFor none) (Panel.texts row d.pushes)

/-- A row shows the latest value that was found for it, and stays as it is if there was none. -/
theorem row_foldl_update (d : Display) (glances : List Glance) (row : Row) :
    (glances.foldl update d).panel.row row =
      ((Glance.latest? row glances).map fun value => row.textFor (some value)).getD
        (d.panel.row row) := by
  rw [foldl_update, Panel.row_foldl_present, Glance.texts_flatMap_pushes,
    List.getLastD_eq_getLast?, List.getLast?_map, Glance.latest?]

/-- Glances at a new panel make a display that tells the truth about them. -/
theorem truthful_foldl_update (glances : List Glance) :
    (glances.foldl update ⟨.initial, [], 0⟩).Truthful glances := by
  have hrows : ∀ row, (glances.foldl update ⟨.initial, [], 0⟩).panel.row row =
      row.textFor (Glance.latest? row glances) := by
    intro row
    rw [row_foldl_update]
    -- a row without any value has the placeholder of the new panel
    show ((Glance.latest? row glances).map _).getD (Panel.initial.row row) = _
    rw [Panel.row_initial]
    rcases Glance.latest? row glances with _ | value <;> rfl
  refine ⟨?_, ?_, hrows, fun row => ?_, ?_⟩
  · rw [foldl_update]
    exact Nat.zero_add _
  · rw [foldl_update, List.nil_append]
  · rw [hrows]
    exact row.length_textFor_le _
  · rw [foldl_update, Panel.redraws_foldl_present, List.nil_append]
    simp only [Panel.row_initial]
    exact Nat.zero_add _

/-- Glances that find what is shown already change nothing on the panel. -/
theorem panel_foldl_update_of_shown {d : Display} {glances : List Glance}
    (h : ∀ g ∈ glances, ∀ row value, g.value? row = some value →
      d.panel.row row = row.textFor (some value)) :
    (glances.foldl update d).panel = d.panel := by
  rw [foldl_update]
  refine Panel.foldl_present_of_row_eq fun push hpush => ?_
  -- each push comes from a glance, and shows a value that it found
  obtain ⟨g, hg, hpush⟩ := List.mem_flatMap.mp hpush
  rw [Glance.pushes_eq] at hpush
  obtain ⟨row, -, hpush⟩ := List.mem_flatMap.mp hpush
  obtain ⟨value, hvalue, rfl⟩ := Option.map_eq_some_iff.mp (Option.mem_toList.mp hpush)
  exact h g hg row value hvalue

/-- What the latest glance found is shown. -/
theorem Truthful.row_of_getLast? {d : Display} {glances : List Glance} {g : Glance}
    (h : d.Truthful glances) (hlast : glances.getLast? = some g) {row : Row} {value : String}
    (hvalue : g.value? row = some value) : d.panel.row row = row.textFor (some value) := by
  obtain ⟨earlier, rfl⟩ := List.getLast?_eq_some_iff.mp hlast
  rw [h.rows, Glance.latest?_concat hvalue]

end Display

/-! ### Runs -/

namespace Operation

/-- After a refresh, a row whose attribute could be read shows what was read. -/
theorem row_refresh (k : Controller ω) {c : Console ω} {row : Row} {value : String}
    (hvalue : (k.glance c.world).1.value? row = some value) :
    (k.refresh c).panel.row row = row.textFor (some value) := by
  show (k.refresh c).display.panel.row row = _
  have hshown := Display.row_foldl_update c.display ([] ++ [(k.glance c.world).1]) row
  rw [Glance.latest?_concat hvalue] at hshown
  rw [k.display_refresh]
  exact hshown

/-- **The panel tells the truth and is redrawn only on change.** A controller on any store, with or
without a lamp, performs any operations in any order before a new panel. The store may answer a read
with any text or any error, and change whenever it is used; and between two operations the world may
change in any way. In the state that the run leads to, the panel tells the truth about what its
refreshes found: each row shows the latest value that was found for it, and the redraws are the
pushes that changed the text of their row.

Hence, as long as all that is found is what the latest refresh of the run found, the panel stays as
it is. And a refresh that finds a value for a row shows it whatever was shown before: two fronts
before the same world show the same. -/
theorem panel_truthful (k : Controller ω) (w : ω) (schedule : List ((ω → ω) × Operation)) :
    let c := performAll k schedule (.initial w)
    let found := glances k schedule (.initial w)
    c.display.Truthful found ∧
    (∀ more, (∀ g ∈ glances k more c, found.getLast? = some g) →
      (performAll k more c).panel = c.panel) ∧
    ∀ row, (k.glance c.world).1.value? row ≠ none → ∀ other : Console ω,
      other.world = c.world → (k.refresh other).panel.row row = (k.refresh c).panel.row row := by
  intro c found
  have htruthful : c.display.Truthful found := by
    rw [show c.display = _ from display_performAll k schedule (.initial w)]
    exact Display.truthful_foldl_update found
  refine ⟨htruthful, fun more hmore => ?_, fun row hrow other hother => ?_⟩
  · have hpanel : (performAll k more c).panel =
        ((glances k more c).foldl Display.update c.display).panel :=
      congrArg Display.panel (display_performAll k more c)
    rw [hpanel]
    exact Display.panel_foldl_update_of_shown fun g hg row value hvalue =>
      htruthful.row_of_getLast? (hmore g hg) hvalue
  · -- both fronts find the same value, and show it
    obtain ⟨value, hvalue⟩ := Option.ne_none_iff_exists'.mp hrow
    have hother' : (k.glance other.world).1.value? row = some value := by rw [hother, hvalue]
    rw [row_refresh k hvalue, row_refresh k hother']

/-- Two modes that differ beyond the width of the panel are one text, and a frequency of zero leaves
its row as it was. -/
example :
    let k : Controller Memory := ⟨Memory.store, none⟩
    let holds (mode frequency : String) (m : Memory) : Memory :=
      (m.setReading .mode (.ok mode)).setReading .frequency (.ok frequency)
    (performAll k [(holds "hibernation-1" "7", .refresh), (holds "hibernation-2" "0", .refresh)]
      (.initial ⟨fun _ => .error .noEntry, fun _ => none, []⟩)).panel =
      ⟨"Temp: N/A", "Freq: 7Hz", "Mode: hibernatio", 2⟩ := by
  decide +kernel

end Operation

end FanControl
