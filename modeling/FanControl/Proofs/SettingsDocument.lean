import FanControl.Settings.Document
import FanControl.Proofs.Acceptance
import FanControl.Proofs.FileContents
import FanControl.Proofs.JsonDocument

/-!
# Settings survive writing and loading

Each field of the settings is read from what was written for it, so the document of any settings
reads as them (`Settings.ofJson?_toJson`). The document is sound, its text is read back, and the
bytes of the text decode to it: loading a file with the text of some settings gives these settings
if they are workable and the fault of `validate` if they are not (`Settings.load_text`).
-/

namespace FanControl

/-! ### Single values -/

namespace Json

theorem nat?_ofInt {bound n : Nat} (h : n < bound) : (ofInt n).nat? bound = some n := by
  have hsigned : Text.Decimal.signed n = Text.Decimal.digits n := by
    rw [Text.Decimal.signed, if_neg (by omega), Int.natAbs_natCast]
  rw [ofInt, nat?, hsigned, Text.Decimal.readNat?_digits h]

theorem text?_ofText (s : String) : (ofText s).text? = some s := by
  rw [ofText, text?, Option.map_some, String.ofList_toList]

theorem choice?_ofText (s : String) : (ofText s).choice? = some s := by
  rw [ofText, choice?, Option.map_some, String.ofList_toList]

theorem Sound.ofMembers {ms : List (String × Json)} (h : ∀ m ∈ ms, Sound m.2) :
    Sound (Json.ofMembers ms) := by
  refine Sound.object ?_ ?_ <;> intro m hm
  all_goals obtain ⟨n, hn, rfl⟩ := List.mem_map.mp hm
  · rfl
  · exact h n hn

end Json

namespace Settings

theorem word32?_ofInt (n : UInt32) : word32? (.ofInt n.toNat) = some n := by
  rw [word32?, Json.nat?_ofInt n.toNat_lt, Option.map_some, UInt32.ofNat_toNat]

theorem word64?_ofInt (n : UInt64) : word64? (.ofInt n.toNat) = some n := by
  rw [word64?, Json.nat?_ofInt n.toNat_lt, Option.map_some, UInt64.ofNat_toNat]

theorem buttonId?_text (id : ButtonId) : buttonId? (.ofText id.text) = some id := by
  rw [buttonId?, Json.choice?_ofText, Option.bind_some]
  cases id <;> rfl

/-! ### Structures -/

/-- Among different keys each is found once. -/
theorem filter_key {ms : List (String × Json)} (hkeys : (ms.map Prod.fst).Nodup)
    {m : String × Json} (hm : m ∈ ms) :
    ms.filter (fun n => some n.1.toList == some m.1.toList) = [m] := by
  have hkey : ∀ n : String × Json, (some n.1.toList == some m.1.toList) = true ↔ n.1 = m.1 := by
    intro n
    rw [beq_iff_eq, Option.some_inj, String.toList_inj]
  -- on the members: the one with the key is first, or all with the key come later
  induction ms with
  | nil => cases hm
  | cons n ns ih =>
    rw [List.map_cons, List.nodup_cons] at hkeys
    rcases List.mem_cons.mp hm with rfl | hm
    · have hothers : ns.filter (fun n => some n.1.toList == some m.1.toList) = [] := by
        rw [List.filter_eq_nil_iff]
        intro n hn heq
        exact hkeys.1 ((hkey n).mp heq ▸ List.mem_map_of_mem hn)
      rw [List.filter_cons, if_pos ((hkey m).mpr rfl), hothers]
    · have hne : n.1 ≠ m.1 := by
        intro heq
        exact hkeys.1 (heq ▸ List.mem_map_of_mem hm)
      rw [List.filter_cons, if_neg fun heq => hne ((hkey n).mp heq), ih hkeys.2 hm]

theorem member?_ofMembers {ms : List (String × Json)} (hkeys : (ms.map Prod.fst).Nodup)
    {m : String × Json} (hm : m ∈ ms) :
    member? m.1 (ms.map fun (k, v) => (some k.toList, v)) = some (some m.2) := by
  have hfilter : (ms.map fun (k, v) => (some k.toList, v)).filter (·.1 == some m.1.toList) =
      [(some m.1.toList, m.2)] := by
    rw [List.filter_map]
    exact congrArg (List.map _) (filter_key hkeys hm)
  rw [member?, hfilter]

/-- The fields of an object whose keys differ. -/
theorem fields?_ofMembers {ms : List (String × Json)} (hkeys : (ms.map Prod.fst).Nodup) :
    fields? (ms.map Prod.fst) (.ofMembers ms) = some (ms.map fun m => some m.2) := by
  have hnamed : (ms.map fun ((k, v) : String × Json) => (some k.toList, v)).any (·.1.isNone)
      = false := by
    simp
  rw [Json.ofMembers, fields?, hnamed]
  exact mapM_map_eq_some fun m hm => member?_ofMembers hkeys hm

/-! ### Settings -/

theorem attributes?_attributesJson (p : AttributePaths) :
    attributes? (attributesJson p) = some p := by
  have hkeys : ["mode", "temperature", "frequency"].Nodup := by decide
  have hfields : fields? ["mode", "temperature", "frequency"] (attributesJson p) =
      some [some (.ofText p.mode), some (.ofText p.temperature), some (.ofText p.frequency)] :=
    fields?_ofMembers hkeys
  simp only [attributes?, hfields, field?, Json.text?_ofText]
  rfl

theorem button?_buttonJson (b : ButtonSpec) : button? (buttonJson b) = some b := by
  have hkeys : ["pin", "id", "name"].Nodup := by decide
  have hfields : fields? ["pin", "id", "name"] (buttonJson b) =
      some [some (.ofInt b.pin.toNat), some (.ofText b.id.text), some (.ofText b.name)] :=
    fields?_ofMembers hkeys
  simp only [button?, hfields, word32?_ofInt, buttonId?_text, Json.text?_ofText]
  rfl

theorem buttons?_map (bs : List ButtonSpec) : buttons? (.array (bs.map buttonJson)) = some bs := by
  have hread : (bs.map buttonJson).mapM button? = some (bs.map id) :=
    mapM_map_eq_some fun b _ => button?_buttonJson b
  rw [buttons?, hread, List.map_id]

/-- The line of the lamp as a document. -/
def pinJson : Option Pin → Json
  | some pin => .ofInt pin.toNat
  | none => .null

theorem optionalPin?_pinJson (pin : Option Pin) : optionalPin? (pinJson pin) = some pin := by
  cases pin with
  | none => rfl
  | some pin =>
    rw [pinJson, optionalPin?, word32?_ofInt, Option.map_some]
    rintro ⟨⟩

/-- **The document of some settings reads as these settings.** -/
theorem ofJson?_toJson (s : Settings) : ofJson? s.toJson = some s := by
  have hkeys : keys.Nodup := by decide
  have hfields : fields? keys s.toJson =
      some [some (attributesJson s.attributes), some (.ofText s.pipe), some (.ofText s.gpioBase),
        some (.array (s.buttons.map buttonJson)), some (pinJson s.ledPin),
        some (.ofInt s.waitMillis.toNat), some (.ofInt s.refreshEvery.toNat)] :=
    fields?_ofMembers hkeys
  simp only [ofJson?, hfields, field?, attributes?_attributesJson, Json.text?_ofText, buttons?_map,
    optionalPin?_pinJson, word64?_ofInt, word32?_ofInt]
  rfl

/-! ### Texts and files -/

theorem sound_attributesJson (p : AttributePaths) : (attributesJson p).Sound := by
  apply Json.Sound.ofMembers
  simp only [List.forall_mem_cons]
  exact ⟨.string _, .string _, .string _, by simp⟩

theorem sound_buttonJson (b : ButtonSpec) : (buttonJson b).Sound := by
  apply Json.Sound.ofMembers
  simp only [List.forall_mem_cons]
  exact ⟨.integer _, .string _, .string _, by simp⟩

theorem sound_pinJson (pin : Option Pin) : (pinJson pin).Sound := by
  cases pin with
  | none => exact .null
  | some pin => exact .integer _

theorem sound_toJson (s : Settings) : s.toJson.Sound := by
  have hbuttons : (Json.array (s.buttons.map buttonJson)).Sound := by
    refine .array fun v hv => ?_
    obtain ⟨b, -, rfl⟩ := List.mem_map.mp hv
    exact sound_buttonJson b
  apply Json.Sound.ofMembers
  simp only [List.forall_mem_cons]
  exact ⟨sound_attributesJson _, .string _, .string _, hbuttons, sound_pinJson _, .integer _,
    .integer _, by simp⟩

/-- The text of some settings reads as these settings. -/
theorem ofText_text (s : Settings) : ofText s.text = .ok s := by
  rw [ofText, text, (sound_toJson s).read?_compact, Option.bind_some, ofJson?_toJson]

section Load

variable {s : Settings} {path : String} {t : FileTree}

/-- Loading a file is reading its text and testing what it says. -/
theorem load_of_text {x : String} (h : t.readBytes path = .ok (bytesOfText x)) :
    load path t = ofText x >>= fun s => s.validate.map fun _ => s := by
  rw [load, FileTree.readText_of_readBytes h]
  dsimp only
  cases ofText x with
  | error e => rfl
  | ok s =>
    change (s.validate >>= fun _ => .ok s) = s.validate.map fun _ => s
    cases s.validate <;> rfl

/-- Loading a file with the text of some settings is testing them. -/
theorem load_of_readBytes (h : t.readBytes path = .ok (bytesOfText s.text)) :
    load path t = s.validate.map fun _ => s := by
  rw [load_of_text h, ofText_text]
  rfl

/-- **Settings survive writing and loading.** A file with the text of some settings loads as these
settings, field for field, if they are accepted, and the accepted ones are the workable ones; if
they are refused, loading fails with the very fault. -/
theorem load_text (h : t.readBytes path = .ok (bytesOfText s.text)) :
    (s.validate = .ok () ↔ s.Workable) ∧
      (s.validate = .ok () → load path t = .ok s) ∧
      ∀ e, s.validate = .error e → load path t = .error e := by
  have hload := load_of_readBytes h
  refine ⟨validate_eq_ok_iff s, ?_, ?_⟩
  · intro haccepted
    rw [hload, haccepted]
    rfl
  · intro e hrefused
    rw [hload, hrefused]
    rfl

end Load

/-- Settings at their limits, with texts that need escapes of every kind. -/
def intricate : Settings where
  attributes := ⟨"a \"quoted\" name", "back\\slash", "feed\nreturn\rtab\t"⟩
  pipe := "\x00\x01\x1f\x7f/"
  gpioBase := "Lüfter \u2028 \ufffd 😀"
  buttons := [⟨4294967295, .k3, ""⟩, ⟨0, .k3, "\x08\x0c"⟩]
  ledPin := none
  waitMillis := 18446744073709551615
  refreshEvery := 4294967295

theorem load_text_intricate :
    let t : FileTree :=
      ⟨#[.directory 0 [("cfg.json", 1)], .file (bytesOfText intricate.text)], 0⟩
    t.readBytes "cfg.json" = .ok (bytesOfText intricate.text) ∧
      intricate.validate = .ok () ∧ load "cfg.json" t = .ok intricate := by
  intro t
  have hfile : t.readBytes "cfg.json" = .ok (bytesOfText intricate.text) := rfl
  have haccepted : intricate.validate = .ok () := rfl
  exact ⟨hfile, haccepted, (load_text hfile).2.1 haccepted⟩

end Settings

end FanControl
