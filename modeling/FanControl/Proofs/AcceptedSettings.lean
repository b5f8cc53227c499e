import FanControl.Proofs.Acceptance
import FanControl.Proofs.Lifecycle
import FanControl.Proofs.RefreshCount
import FanControl.Proofs.Registration
import FanControl.Proofs.SettingsDocument

/-!
# Accepted settings are safe

The settings are tested when they are loaded, and the keypad tests again when the buttons are
registered. The two tests agree: with settings that were accepted, putting a daemon together fails
only if the machine fails (`Daemon.build_ofMachine`). The intervals survive their conversions
(`Duration.millis_ofMillis`) and every run (`Daemon.Runs.timing`), so a wait lasts for as long as
the settings say, or for the longest time that one wait can be given. Both are put together in
`Settings.accepted_safe`.
-/

namespace FanControl

namespace Daemon

variable {s : Settings} {h : Host}

/-! ### Registering the configured buttons -/

/-- If there is room for all buttons, and their pins are new and differ from each other, none of
them is refused. The hypotheses speak of the buttons that are there and those still to come, so that
registering one of them moves it from the one to the other. -/
theorem registerAll_ofMachine {specs : List ButtonSpec} {k : Keypad}
    (hroom : k.buttons.length + specs.length ≤ Keypad.maxButtons)
    (hpins : (k.buttons.map (·.pin) ++ specs.map (·.pin)).Nodup) {e : Error}
    (hfails : (registerAll k specs h).1 = some e) : e.OfMachine := by
  induction specs generalizing k h with
  | nil => cases hfails
  | cons b bs ih =>
    rw [List.length_cons] at hroom
    have hfree : k.buttons.length < Keypad.maxButtons := by omega
    have hnew : b.pin ∉ k.buttons.map (·.pin) := by
      rw [List.map_cons, List.nodup_middle] at hpins
      exact fun hused => (List.nodup_cons.mp hpins).1 (List.mem_append_left _ hused)
    -- there is room and the pin is new, so only the line can fail
    have hregister := k.register_of_new b.id b.name h hfree hnew
    rw [registerAll] at hfails
    rcases hresult : k.register b.pin b.id b.name h with ⟨e' | k', h'⟩
    · rw [hresult] at hregister hfails
      obtain rfl := Option.some.inj hfails
      obtain ⟨fault, rfl⟩ := hregister
      exact .line b.pin fault
    · rw [hresult] at hregister hfails
      -- the registered button has moved from those to come to those that are there
      have hlength : k'.buttons.length = k.buttons.length + 1 := by
        have hmapped := congrArg List.length hregister
        simpa using hmapped
      refine ih (by omega) ?_ hfails
      rwa [hregister, List.append_assoc]

/-- **With workable settings, only the machine can keep a daemon from being put together.** -/
theorem build_ofMachine (hs : s.Workable) {e : Error} (hfails : (build s h).1 = .error e) :
    e.OfMachine := by
  -- the lamp, the buttons, the pipe and the watching of them, in the order in which they may fail
  have hlamps := openLamp_failsAs ⟨s.gpioBase⟩ s.ledPin h
  rw [build] at hfails
  rcases hlamp : openLamp ⟨s.gpioBase⟩ s.ledPin h with ⟨e' | lamp, h₁⟩
  · rw [hlamp] at hlamps
    simp only [hlamp] at hfails
    obtain rfl := Except.error.inj hfails
    exact hlamps e' rfl
  · simp only [hlamp] at hfails
    rcases hbuttons : registerAll (.empty ⟨s.gpioBase⟩) s.buttons h₁ with ⟨_ | e', keypad, h₂⟩
    · simp only [hbuttons] at hfails
      rcases hpipe : CommandPipe.create s.pipe h₂ with ⟨e' | pipe, entries, h₃⟩
      · simp only [hpipe] at hfails
        obtain rfl := Except.error.inj hfails
        exact CommandPipe.create_ofMachine hpipe
      · simp only [hpipe, assemble] at hfails
        rcases hwatch : watch keypad pipe h₃ with e' | readiness
        · rw [hwatch] at hfails
          obtain rfl := Except.error.inj hfails
          exact watch_ofMachine hwatch
        · rw [hwatch] at hfails
          cases hfails
    · simp only [hbuttons] at hfails
      obtain rfl := Except.error.inj hfails
      -- the keypad is empty, so its test comes to that of the settings
      have hfew : (Keypad.empty ⟨s.gpioBase⟩).buttons.length + s.buttons.length ≤
          Keypad.maxButtons := (Nat.zero_add _).trans_le hs.few
      exact registerAll_ofMachine hfew hs.distinct (congrArg Prod.fst hbuttons)

/-! ### Intervals -/

/-- The loop of a daemon begins with the interval of the settings, and has refreshed the panel. -/
theorem complete_loop (s : Settings) (lamp : Option Lamp) (keypad : Keypad) (pipe : CommandPipe)
    (readiness : Readiness Source) (h : Host) :
    (complete s lamp keypad pipe readiness h).loop =
      (EventLoop.starting (controller s.attributes (lamp.map Lamp.switch)) keypad pipe (.initial h)
        s.refreshEvery).refresh := rfl

theorem timing_of_build {d : Daemon} (hbuild : (build s h).1 = .ok d) :
    d.timeout = .ofMillis s.waitMillis ∧ d.loop.refreshEvery = max 1 s.refreshEvery.toNat := by
  have hout := outcome_build s h
  rw [hbuild] at hout
  cases hout with
  | complete =>
    refine ⟨rfl, ?_⟩
    rw [complete_loop]
    rfl

/-- A run changes neither the timeout nor the interval. -/
theorem Runs.timing {allowed : FileTree → FileTree → Prop} {d d' : Daemon}
    (hrun : Runs allowed d d') :
    d'.timeout = d.timeout ∧ d'.loop.refreshEvery = d.loop.refreshEvery := by
  induction hrun with
  | start => exact ⟨rfl, rfl⟩
  | outside hrun w htrace htree ih => exact ih
  | notice hrun ih => exact ih
  | @turn d' hrun otherwise ih =>
    refine ⟨ih.1, Eq.trans ?_ ih.2⟩
    exact (d'.loop.accounted_turn ⟨_, readSource⟩).interval
  | report hrun entry ih => exact ih

end Daemon

/-- A number of milliseconds is that many milliseconds. -/
theorem Duration.millis_ofMillis (ms : UInt64) : (Duration.ofMillis ms).millis = ms.toNat := by
  show ms.toNat / 1000 * 1000 + ms.toNat % 1000 * 1000000 / 1000000 = ms.toNat
  omega

/-- The longest time that one wait can be given is the largest signed number of 32 bits. -/
theorem Readiness.longestWait_eq : longestWait = 2 ^ 31 - 1 := rfl

/-! ### Safety -/

/-- What accepted settings guarantee of the daemon on a machine. -/
structure Daemon.Safe (s : Settings) (h : Host) : Prop where
  /-- No button is refused. -/
  registers : ∀ e, (build s h).1 = .error e → e.OfMachine ∧
    (∀ max, e ≠ .registryFull max) ∧ ∀ pin, e ≠ .duplicatePin pin
  /-- The interval of the refreshes is the one of the settings, and is never zero. -/
  refreshes : ∀ d, (build s h).1 = .ok d → ∀ allowed d', Runs allowed d d' →
    d'.loop.refreshEvery = s.refreshEvery.toNat ∧ 1 ≤ d'.loop.refreshEvery
  /-- A wait is given the time of the settings as far as it fits, as a positive signed number. -/
  waits : ∀ d, (build s h).1 = .ok d → ∀ allowed d', Runs allowed d d' →
    d'.waitMillis = min s.waitMillis.toNat (2 ^ 31 - 1) ∧ 1 ≤ d'.waitMillis ∧
      (Int32.ofNat d'.waitMillis).toInt = d'.waitMillis

namespace Settings

variable {s : Settings} {path : String} {t : FileTree}

/-- Workable settings make a safe daemon. -/
theorem Workable.safe (hs : s.Workable) (h : Host) : Daemon.Safe s h := by
  have hrefresh : 0 < s.refreshEvery.toNat := UInt32.lt_iff_toNat_lt.mp hs.refreshes
  have hwait : 0 < s.waitMillis.toNat := UInt64.lt_iff_toNat_lt.mp hs.waits
  refine ⟨?_, ?_, ?_⟩
  · intro e he
    have hmachine := Daemon.build_ofMachine hs he
    refine ⟨hmachine, ?_, ?_⟩
    · rintro max rfl
      cases hmachine
    · rintro pin rfl
      cases hmachine
  · intro d hd allowed d' hrun
    obtain ⟨-, hinterval⟩ := hrun.timing
    rw [hinterval, (Daemon.timing_of_build hd).2]
    omega
  · intro d hd allowed d' hrun
    obtain ⟨htimeout, -⟩ := hrun.timing
    have hmillis : d'.waitMillis = min s.waitMillis.toNat (2 ^ 31 - 1) := by
      rw [Daemon.waitMillis, Readiness.waitMillis, htimeout, (Daemon.timing_of_build hd).1,
        Duration.millis_ofMillis, Readiness.longestWait_eq]
    -- so the conversion to a signed number does not wrap around
    have hsmall : d'.waitMillis < 2 ^ 31 := by omega
    exact ⟨hmillis, by omega, Int32.toInt_ofNat_of_lt hsmall⟩

/-- What is loaded has been tested, wherever it comes from. -/
theorem validate_of_load (hload : load path t = .ok s) : s.validate = .ok () := by
  -- whatever was read is handed out only behind the test
  have htested : ∀ r : Except Error Settings,
      (r >>= fun s => s.validate >>= fun _ => pure s) = .ok s → s.validate = .ok () := by
    intro r hr
    rcases r with e | s'
    · cases hr
    · change (s'.validate >>= fun _ => pure s') = .ok s at hr
      rcases hvalid : s'.validate with e | ⟨⟩
      · rw [hvalid] at hr
        cases hr
      · rw [hvalid] at hr
        obtain rfl := Except.ok.inj hr
        exact hvalid
  unfold load at hload
  split at hload
  · exact htested _ hload
  · exact htested (.ok standard) hload
  · exact htested (.error _) hload

/-- **Accepted settings are safe for the daemon.** Settings that were loaded, from a file or because
there is none, are workable, and all others are refused with a fault of theirs. On any machine,
the buttons of loaded settings are then registered without a refusal, whatever else fails, and
through every run of the daemon, whatever happens to its files in the meantime, the interval of the
refreshes is the positive one of the settings, and every wait is given the time of the settings, cut
off where it would no longer be a positive signed number of 32 bits. -/
theorem accepted_safe (hload : load path t = .ok s) :
    s.Workable ∧
    (∀ s' : Settings, ¬ s'.Workable → ∃ fault, s'.validate = .error (.config fault)) ∧
    ∀ h, Daemon.Safe s h := by
  have hs : s.Workable := (validate_eq_ok_iff s).mp (validate_of_load hload)
  exact ⟨hs, fun _ => validate_of_not_workable, hs.safe⟩

/-- Settings with one button and the longest timeout. -/
def patient : Settings :=
  { standard with
    pipe := "cmd", gpioBase := ".", buttons := [keyButton 5 .k1], ledPin := none
    waitMillis := 0xffffffffffffffff }

/-- A machine with these settings in a file, and with a line for the button. -/
def patientTree : FileTree :=
  ⟨#[.directory 0 [("cfg.json", 1), ("export", 2), ("gpio5", 3)],
    .file (bytesOfText patient.text), .file [],
    .directory 0 [("direction", 4), ("edge", 5), ("value", 6)], .file [], .file [], .file [48]], 0⟩

theorem accepted_safe_patient :
    load "cfg.json" patientTree = .ok patient ∧ patient.Workable ∧
      Daemon.Safe patient (.ofTree patientTree) ∧
      ∃ d, (Daemon.build patient (.ofTree patientTree)).1 = .ok d ∧
        d.waitMillis = 2147483647 := by
  have hfile : patientTree.readBytes "cfg.json" = .ok (bytesOfText patient.text) := rfl
  have hload : load "cfg.json" patientTree = .ok patient := by
    rw [load_of_readBytes hfile]
    rfl
  obtain ⟨hs, -, hsafe⟩ := accepted_safe hload
  have hbuilt : (Daemon.build patient (.ofTree patientTree)).1.isOk = true := by decide +kernel
  refine ⟨hload, hs, hsafe _, ?_⟩
  rcases hd : (Daemon.build patient (.ofTree patientTree)).1 with e | d
  · rw [hd] at hbuilt
    cases hbuilt
  · have hlongest := ((hsafe _).waits d hd (fun _ _ => True) d .start).1
    exact ⟨d, rfl, hlongest⟩

end Settings

end FanControl
