import FanControl.Settings

/-!
# Which settings are accepted

`validate` reports the first fault it finds. It finds none exactly if there is none: the settings
are `Workable` (`Settings.validate_eq_ok_iff`); all others are refused because of a fault of theirs
(`Settings.validate_of_not_workable`).
-/

namespace FanControl.Settings

/-- What the daemon needs of its settings. -/
structure Workable (s : Settings) : Prop where
  few : s.buttons.length ≤ Keypad.maxButtons
  distinct : (s.buttons.map (·.pin)).Nodup
  waits : 0 < s.waitMillis
  refreshes : 0 < s.refreshEvery

/-- No pin is reused if all are new and differ from each other. -/
theorem reusedPin?_eq_none_iff (ps seen : List Pin) :
    reusedPin? ps seen = none ↔ ps.Nodup ∧ ∀ p ∈ ps, p ∉ seen := by
  induction ps generalizing seen with
  | nil => simp [reusedPin?]
  | cons p ps ih =>
    rw [reusedPin?]
    -- what has been seen grows by the first pin, so the claim is about any such list
    by_cases hp : p ∈ seen
    · rw [if_pos hp]
      simp [hp]
    · rw [if_neg hp, ih]
      simp only [List.nodup_cons, List.mem_cons, not_or, forall_eq_or_imp]
      constructor
      · rintro ⟨hnodup, hnew⟩
        exact ⟨⟨fun hmem => (hnew p hmem).1 rfl, hnodup⟩, hp, fun q hq => (hnew q hq).2⟩
      · rintro ⟨⟨hfirst, hnodup⟩, -, hnew⟩
        refine ⟨hnodup, fun q hq => ⟨?_, hnew q hq⟩⟩
        rintro rfl
        exact hfirst hq

/-- **Settings are accepted exactly if they are workable.** -/
theorem validate_eq_ok_iff (s : Settings) : s.validate = .ok () ↔ s.Workable := by
  have hpins := reusedPin?_eq_none_iff (s.buttons.map (·.pin)) []
  simp only [List.not_mem_nil, not_false_eq_true, implies_true, and_true] at hpins
  unfold validate
  constructor
  · intro h
    -- the four tests, one behind the other: what is left behind the last one was refused by none
    split at h
    · cases h
    · next hfew =>
      split at h
      · cases h
      · next hreused =>
        split at h
        · cases h
        · next hwait =>
          split at h
          · cases h
          · next hrefresh =>
            exact ⟨Nat.not_lt.mp hfew, hpins.mp hreused, UInt64.pos_iff_ne_zero.mpr hwait,
              UInt32.pos_iff_ne_zero.mpr hrefresh⟩
  · rintro ⟨hfew, hdistinct, hwaits, hrefreshes⟩
    have hmany : ¬ s.buttons.length > Keypad.maxButtons := Nat.not_lt.mpr hfew
    rw [if_neg hmany, hpins.mpr hdistinct]
    simp only [if_neg (UInt64.pos_iff_ne_zero.mp hwaits),
      if_neg (UInt32.pos_iff_ne_zero.mp hrefreshes)]

/-- A refusal is about the settings. -/
theorem config_of_validate {s : Settings} {e : Error} (hrefused : s.validate = .error e) :
    ∃ fault, e = .config fault := by
  unfold validate at hrefused
  -- each test that fails names its own fault
  split at hrefused
  · cases hrefused
    exact ⟨_, rfl⟩
  · split at hrefused
    · cases hrefused
      exact ⟨_, rfl⟩
    · split at hrefused
      · cases hrefused
        exact ⟨_, rfl⟩
      · split at hrefused
        · cases hrefused
          exact ⟨_, rfl⟩
        · cases hrefused

/-- Settings that are not workable are refused. -/
theorem validate_of_not_workable {s : Settings} (hs : ¬ s.Workable) :
    ∃ fault, s.validate = .error (.config fault) := by
  rcases hvalid : s.validate with e | ⟨⟩
  · obtain ⟨fault, rfl⟩ := config_of_validate hvalid
    exact ⟨fault, rfl⟩
  · exact absurd ((validate_eq_ok_iff s).mp hvalid) hs

end FanControl.Settings
