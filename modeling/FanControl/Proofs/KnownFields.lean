import FanControl.Proofs.DescribedSettings
import FanControl.Proofs.JsonPieces
import FanControl.Proofs.SettingsDocument
import Mathlib.Logic.Relation

/-!
# Loading depends on the known fields alone

Which member of an object comes first makes no difference, and a member under an unknown key is not
looked at. `Edit` says how the members of the settings, of their paths and of each button may be
edited, `Edit.ofJson?_eq` that no edit changes what is read, and `ofJson?_eq_of_edits` that no
number of edits does.

`Settings.load_known_fields` puts together what this means for a file, with what the members
describe, and with what spoils a document: a key that occurs twice, and a button that is not
complete.
-/

namespace FanControl.Settings

variable {ms ns : Members} {key : String} {ks : List String} {k : List Char} {v w : Json}

/-! ### Edits -/

/-- The keys of the paths. -/
def pathKeys : List String := ["mode", "temperature", "frequency"]

/-- The keys of a button. -/
def buttonKeys : List String := ["pin", "id", "name"]

/-- One edit of an object with the fields `ks`: members change places, or one under another key
comes or goes. -/
inductive Shuffle (ks : List String) : Members → Members → Prop where
  | permute {ms ns : Members} : ms.Perm ns → Shuffle ks ms ns
  | insert (before after : Members) (k : List Char) (v : Json) : (∀ key ∈ ks, k ≠ key.toList) →
      Shuffle ks (before ++ after) (before ++ (some k, v) :: after)
  | delete (before after : Members) (k : List Char) (v : Json) : (∀ key ∈ ks, k ≠ key.toList) →
      Shuffle ks (before ++ (some k, v) :: after) (before ++ after)

/-- One edit of a settings object: of its own members, of those of the paths, or of those of a
button. -/
inductive Edit : Members → Members → Prop where
  | top {ms ns : Members} : Shuffle keys ms ns → Edit ms ns
  | attributes (before after : Members) {ms ns : Members} : Shuffle pathKeys ms ns →
      Edit (before ++ (some "attributes".toList, .object ms) :: after)
        (before ++ (some "attributes".toList, .object ns) :: after)
  | button (before after : Members) (earlier later : List Json) {ms ns : Members} :
      Shuffle buttonKeys ms ns →
      Edit (before ++ (some "buttons".toList, .array (earlier ++ .object ms :: later)) :: after)
        (before ++ (some "buttons".toList, .array (earlier ++ .object ns :: later)) :: after)

theorem member?_perm (h : ms.Perm ns) : member? key ns = member? key ms := by
  have hfound := h.filter (·.1 == some key.toList)
  rw [member?, member?]
  generalize ms.filter (·.1 == some key.toList) = found at hfound ⊢
  generalize ns.filter (·.1 == some key.toList) = found' at hfound ⊢
  -- one member has no other order, and for two the order does not matter
  rcases found with _ | ⟨m, _ | ⟨m', rest⟩⟩
  · rw [List.nil_perm.mp hfound]
  · rw [List.singleton_perm.mp hfound]
  · have hlength := hfound.length_eq
    rcases found' with _ | ⟨n, _ | ⟨n', rest'⟩⟩
    · cases hlength
    · cases hlength
    · rfl

theorem member?_insert (before after : Members) (h : k ≠ key.toList) :
    member? key (before ++ (some k, v) :: after) = member? key (before ++ after) := by
  rw [member?, member?, List.filter_append, List.filter_cons_of_neg (by simp [h]),
    ← List.filter_append]

theorem mapM_congr_of_mem {β γ : Type} {f g : β → Option γ} {xs : List β}
    (h : ∀ x ∈ xs, f x = g x) : xs.mapM f = xs.mapM g := by
  induction xs with
  | nil => rfl
  | cons x xs ih =>
    rw [List.mapM_cons, List.mapM_cons, h x List.mem_cons_self,
      ih fun y hy => h y (List.mem_cons_of_mem x hy)]

/-- An edit leaves every field where it is. -/
theorem Shuffle.fields?_eq (h : Shuffle ks ms ns) :
    fields? ks (.object ns) = fields? ks (.object ms) := by
  -- two objects with the same known members give the same fields
  have hcongr : ∀ {ms ns : Members}, ns.any (·.1.isNone) = ms.any (·.1.isNone) →
      (∀ key ∈ ks, member? key ns = member? key ms) →
      fields? ks (.object ns) = fields? ks (.object ms) := by
    intro ms ns hany hmember
    rw [fields?, fields?, hany, mapM_congr_of_mem hmember]
  cases h with
  | permute hperm =>
    exact hcongr (by rw [hperm.any_eq]) fun key _ => member?_perm hperm
  | insert before after k v hk =>
    exact hcongr (by simp) fun key hkey => member?_insert before after (hk key hkey)
  | delete before after k v hk =>
    exact hcongr (by simp) fun key hkey => (member?_insert before after (hk key hkey)).symm

/-- A value that reads alike describes the same settings. -/
theorem Describes.replace {before after : Members} {s : Settings}
    (h : Describes (before ++ (some k, v) :: after) s)
    (hk : k = "attributes".toList ∧ attributes? v = attributes? w ∨
      k = "buttons".toList ∧ buttons? v = buttons? w) :
    Describes (before ++ (some k, w) :: after) s := by
  have hnamed : Named (before ++ (some k, w) :: after) := by
    intro m hm
    rcases List.mem_append.mp hm with hm | hm
    · exact h.named m (List.mem_append_left _ hm)
    · rcases List.mem_cons.mp hm with rfl | hm
      · rfl
      · exact h.named m (List.mem_append_right _ (List.mem_cons_of_mem _ hm))
  -- the other fields do not have this key
  rcases hk with ⟨rfl, hread⟩ | ⟨rfl, hread⟩
  · exact ⟨hnamed, h.attributes.replace fun _ => hread, h.pipe.replace (absurd · (by decide)),
      h.gpioBase.replace (absurd · (by decide)), h.buttons.replace (absurd · (by decide)),
      h.ledPin.replace (absurd · (by decide)), h.waitMillis.replace (absurd · (by decide)),
      h.refreshEvery.replace (absurd · (by decide))⟩
  · exact ⟨hnamed, h.attributes.replace (absurd · (by decide)),
      h.pipe.replace (absurd · (by decide)), h.gpioBase.replace (absurd · (by decide)),
      h.buttons.replace fun _ => hread, h.ledPin.replace (absurd · (by decide)),
      h.waitMillis.replace (absurd · (by decide)), h.refreshEvery.replace (absurd · (by decide))⟩

theorem ofJson?_replace {before after : Members}
    (hk : k = "attributes".toList ∧ attributes? v = attributes? w ∨
      k = "buttons".toList ∧ buttons? v = buttons? w) :
    ofJson? (.object (before ++ (some k, w) :: after)) =
      ofJson? (.object (before ++ (some k, v) :: after)) := by
  have hback : k = "attributes".toList ∧ attributes? w = attributes? v ∨
      k = "buttons".toList ∧ buttons? w = buttons? v :=
    hk.imp (fun h => ⟨h.1, h.2.symm⟩) fun h => ⟨h.1, h.2.symm⟩
  -- a replacement can be undone, so one direction gives the other
  apply Option.ext
  intro s
  rw [ofJson?_object_iff, ofJson?_object_iff]
  exact ⟨fun h => h.replace hback, fun h => h.replace hk⟩

theorem buttons?_congr (earlier later : List Json) (h : button? v = button? w) :
    buttons? (.array (earlier ++ v :: later)) = buttons? (.array (earlier ++ w :: later)) := by
  simp only [buttons?, List.mapM_append, List.mapM_cons, h]

/-- **One edit changes nothing.** -/
theorem Edit.ofJson?_eq (h : Edit ms ns) : ofJson? (.object ns) = ofJson? (.object ms) := by
  cases h with
  | top hshuffle =>
    rw [ofJson?, ofJson?, hshuffle.fields?_eq]
  | @attributes before after inner inner' hshuffle =>
    have hread : attributes? (.object inner) = attributes? (.object inner') := by
      have hfields := hshuffle.fields?_eq
      rw [pathKeys] at hfields
      rw [attributes?, attributes?, hfields]
    exact ofJson?_replace (.inl ⟨rfl, hread⟩)
  | @button before after earlier later inner inner' hshuffle =>
    have hread : button? (.object inner) = button? (.object inner') := by
      have hfields := hshuffle.fields?_eq
      rw [buttonKeys] at hfields
      rw [button?, button?, hfields]
    exact ofJson?_replace (.inr ⟨rfl, buttons?_congr earlier later hread⟩)

/-- **No number of edits changes anything.** -/
theorem ofJson?_eq_of_edits (h : Relation.ReflTransGen Edit ms ns) :
    ofJson? (.object ns) = ofJson? (.object ms) := by
  induction h with
  | refl => rfl
  | tail _ hedit ih => rw [hedit.ofJson?_eq, ih]

/-! ### Objects that describe nothing -/

theorem ofJson?_of_repeated (hkey : key ∈ keys) (h : 1 < occurrences key ms) :
    ofJson? (.object ms) = none := by
  rw [ofJson?, fields?_of_repeated hkey h]

theorem attributes?_of_repeated (hkey : key ∈ pathKeys) (h : 1 < occurrences key ms) :
    attributes? (.object ms) = none := by
  have hfields := fields?_of_repeated hkey h
  rw [pathKeys] at hfields
  rw [attributes?, hfields]

/-- Every field of a button occurs exactly once. -/
theorem button?_of_occurrences (hkey : key ∈ buttonKeys) (h : occurrences key ms ≠ 1) :
    button? (.object ms) = none := by
  rw [Option.eq_none_iff_forall_ne_some]
  intro b hb
  have hdescribed := button?_object_iff.mp hb
  -- no field of a button has a default that could stand in for it
  have honce : ∀ {α : Type} {read : Json → Option α} {key : String} {a : α},
      Field ms key none read a → occurrences key ms = 1 := by
    rintro α read key a (⟨v, honce, -, -⟩ | ⟨-, hdefault⟩)
    · exact honce
    · cases hdefault
  simp only [buttonKeys, List.mem_cons, List.not_mem_nil, or_false] at hkey
  rcases hkey with rfl | rfl | rfl
  · exact h (honce hdescribed.pin)
  · exact h (honce hdescribed.id)
  · exact h (honce hdescribed.name)

/-- A value that makes no sense spoils the settings. -/
theorem not_describes_of_attributes (hmem : (some "attributes".toList, v) ∈ ms)
    (h : attributes? v = none) (s : Settings) : ¬ Describes ms s := by
  intro hs
  have hread := hs.attributes.read_of_mem hmem
  rw [h] at hread
  cases hread

theorem not_describes_of_button {items : List Json}
    (hmem : (some "buttons".toList, .array items) ∈ ms) (hitem : v ∈ items)
    (h : button? v = none) (s : Settings) : ¬ Describes ms s := by
  intro hs
  have hread := hs.buttons.read_of_mem hmem
  rw [buttons?, mapM_eq_none_of_mem hitem h] at hread
  cases hread

/-! ### Files -/

/-- What loading makes of an object. -/
def outcome (read : Option Settings) : Except Error Settings :=
  match read with
  | some s => s.validate.map fun _ => s
  | none => .error .malformedJson

/-- The file at `path` is one object with these members, however it is laid out and spelled. -/
def IsObjectFile (t : FileTree) (path : String) (ms : Members) : Prop :=
  ∃ text, t.readBytes path = .ok (bytesOfText text) ∧ Json.read? text = some (.object ms)

/-- A text is read by cutting it into tokens. -/
theorem isObjectFile_of_tokens {t : FileTree} {path : String} {text : List Char}
    (hfile : t.readBytes path = .ok (bytesOfText (String.ofList text)))
    (hcut : Json.Token.ofText? text = some (Json.object ms).tokens) : IsObjectFile t path ms := by
  refine ⟨_, hfile, ?_⟩
  rw [Json.read?_eq_some_iff, String.toList_ofList]
  exact hcut

theorem IsObjectFile.load_eq {t : FileTree} {path : String} (h : IsObjectFile t path ms) :
    load path t = outcome (ofJson? (.object ms)) := by
  obtain ⟨text, hfile, hread⟩ := h
  rw [load_of_text hfile, ofText, hread, Option.bind_some]
  cases ofJson? (.object ms) <;> rfl

/-- What loading a file with these members gives. -/
structure KnownFields (ms : Members) (result : Except Error Settings) : Prop where
  /-- The settings that the members describe are tested as any settings are. -/
  described : ∀ s, Describes ms s → result = s.validate.map fun _ => s
  /-- If the members describe no settings, the document is malformed. -/
  malformed : (∀ s, ¬ Describes ms s) → result = .error .malformedJson
  /-- Every field that is absent has its default. -/
  loaded : ∀ s, result = .ok s → Describes ms s
  /-- Also every path that is absent has its default. -/
  paths : ∀ s inner, result = .ok s → (some "attributes".toList, .object inner) ∈ ms →
    DescribesPaths inner s.attributes
  /-- An edited file gives the same result. -/
  edited : ∀ ns path t, Relation.ReflTransGen Edit ms ns → IsObjectFile t path ns →
    load path t = result
  /-- So does a file put together from members in any spelling. -/
  spelled : ∀ ns path t text, Relation.ReflTransGen Edit ms ns → Json.IsObject text ns →
    t.readBytes path = .ok (bytesOfText (String.ofList text)) → load path t = result
  /-- No field may occur twice, -/
  repeated : ∀ key ∈ keys, 1 < occurrences key ms → result = .error .malformedJson
  /-- also none of the paths. -/
  repeatedPath : ∀ inner, (some "attributes".toList, .object inner) ∈ ms →
    ∀ key ∈ pathKeys, 1 < occurrences key inner → result = .error .malformedJson
  /-- The fields of a button may neither occur twice nor be absent. -/
  button : ∀ items inner, (some "buttons".toList, .array items) ∈ ms → .object inner ∈ items →
    ∀ key ∈ buttonKeys, occurrences key inner ≠ 1 → result = .error .malformedJson

/-- **Loading depends on the known fields alone.** -/
theorem load_known_fields {t : FileTree} {path : String} (h : IsObjectFile t path ms) :
    KnownFields ms (load path t) := by
  have hload := h.load_eq
  have hmalformed : (∀ s, ¬ Describes ms s) → load path t = .error .malformedJson := by
    intro hnone
    have hread : ofJson? (.object ms) = none := by
      rw [Option.eq_none_iff_forall_ne_some]
      exact fun s hs => hnone s (ofJson?_object_iff.mp hs)
    rw [hload, hread]
    rfl
  have hloaded : ∀ s, load path t = .ok s → Describes ms s := by
    intro s hs
    rw [hload] at hs
    rcases hread : ofJson? (.object ms) with _ | s'
    · rw [hread] at hs
      cases hs
    · rw [hread, outcome] at hs
      -- validation may refuse the settings, and does not change them
      obtain rfl : s' = s := by
        cases hvalid : s'.validate <;> rw [hvalid] at hs <;> cases hs
        rfl
      exact ofJson?_object_iff.mp hread
  have hedited : ∀ ns path' t', Relation.ReflTransGen Edit ms ns → IsObjectFile t' path' ns →
      load path' t' = load path t := by
    intro ns path' t' hedits hfile
    rw [hfile.load_eq, hload, ofJson?_eq_of_edits hedits]
  -- three facts are named as the other clauses build on them
  refine ⟨?_, hmalformed, hloaded, ?_, hedited, ?_, ?_, ?_, ?_⟩
  · intro s hs
    rw [hload, ofJson?_object_iff.mpr hs]
    rfl
  · intro s inner hs hmem
    exact attributes?_object_iff.mp ((hloaded s hs).attributes.read_of_mem hmem)
  · intro ns path' t' text hedits htext hfile
    exact hedited ns path' t' hedits ⟨_, hfile, htext.read?⟩
  · intro key hkey htwice
    rw [hload, ofJson?_of_repeated hkey htwice]
    rfl
  · intro inner hmem key hkey htwice
    exact hmalformed (not_describes_of_attributes hmem (attributes?_of_repeated hkey htwice))
  · intro items inner hmem hitem key hkey hcount
    exact hmalformed (not_describes_of_button hmem hitem (button?_of_occurrences hkey hcount))

/-- An object whose members are written like this. -/
def objectOf (ms : List (String × List Char)) : List Char :=
  Json.objectText (ms.map fun (k, v) => (k.toList, v))

/-- Some of the fields. -/
def sparseText : List Char :=
  objectOf [("attributes", objectOf [("mode", "\"m\"".toList)]),
    ("buttons", Json.arrayText [objectOf [("pin", ['7']), ("id", "\"K2\"".toList),
      ("name", "\"b\"".toList)]]), ("wait_timeout_ms", "20".toList)]

/-- The same in another order and in other spellings, with more beside and inside it. -/
def fullerText : List Char :=
  '\n' :: objectOf [("\\u0077ait_timeout_ms", " 20".toList),
    ("buttons", Json.arrayText [objectOf [("pin", ['7']), ("id", "\"\\u004b2\"".toList),
      ("name", "\"b\"".toList), ("x", Json.arrayText [objectOf [("pin", "1e5".toList)]])]]),
    ("attributes", objectOf [("mode", "\"m\"".toList)]), ("", "\t[ ]".toList)]

/-- A field that occurs twice. -/
def repeatedText : List Char :=
  objectOf [("fifo_path", "\"a\"".toList), ("fifo\\u005Fpath", "\"a\"".toList)]

/-- A button without a name. -/
def namelessText : List Char :=
  objectOf [("buttons", Json.arrayText [objectOf [("pin", ['7']), ("id", "\"K2\"".toList)]])]

/-- What a button consists of. -/
def buttonMembers : Members :=
  [(some "pin".toList, .number ['7']), (some "id".toList, .ofText "K2"),
    (some "name".toList, .ofText "b")]

/-- What some of the fields consist of, and whatever else stands in the object of the button. -/
def sparse (others : Members) : Members :=
  [(some "attributes".toList, .object [(some "mode".toList, .ofText "m")]),
    (some "buttons".toList, .array [.object (buttonMembers ++ others)]),
    (some "wait_timeout_ms".toList, .number ['2', '0'])]

/-- Files with these texts. -/
def sparseTree : FileTree :=
  let file (text : List Char) : Node := .file (bytesOfText (String.ofList text))
  ⟨#[.directory 0 [("cfg.json", 1), ("fuller.json", 2), ("twice.json", 3), ("nameless.json", 4)],
    file sparseText, file fullerText, file repeatedText, file namelessText], 0⟩

theorem load_known_fields_sparse :
    let s : Settings :=
      { standard with
        attributes := { AttributePaths.standard with mode := "m" }
        buttons := [⟨7, .k2, "b"⟩], waitMillis := 20 }
    load "cfg.json" sparseTree = .ok s ∧ load "fuller.json" sparseTree = .ok s ∧
      load "twice.json" sparseTree = .error .malformedJson ∧
      load "nameless.json" sparseTree = .error .malformedJson := by
  intro s
  let others : Members :=
    [(some ['x'], .array [.object [(some "pin".toList, .number "1e5".toList)]])]
  have hfile : IsObjectFile sparseTree "cfg.json" (sparse []) :=
    isObjectFile_of_tokens rfl (by decide +kernel)
  have hknown := load_known_fields hfile
  have hload := hknown.described s (ofJson?_object_iff.mp rfl)
  -- first another member in the button, then another order, then another member behind the others
  have hinner : Edit (sparse []) (sparse others) :=
    .button [_] [_] [] [] (.insert buttonMembers [] ['x'] _ (by decide))
  have horder : Edit (sparse others) (sparse others).reverse :=
    .top (.permute (List.reverse_perm _).symm)
  have houter : Edit ((sparse others).reverse ++ [])
      ((sparse others).reverse ++ [(some [], .array [])]) :=
    .top (.insert _ [] [] (.array []) (by decide))
  have hfuller : IsObjectFile sparseTree "fuller.json"
      ((sparse others).reverse ++ [(some [], .array [])]) :=
    isObjectFile_of_tokens rfl (by decide +kernel)
  have hsame := hknown.edited _ "fuller.json" sparseTree
    (((Relation.ReflTransGen.single hinner).tail horder).tail houter) hfuller
  have htwice : IsObjectFile sparseTree "twice.json"
      [(some "fifo_path".toList, .ofText "a"), (some "fifo_path".toList, .ofText "a")] :=
    isObjectFile_of_tokens rfl (by decide +kernel)
  have hnameless : IsObjectFile sparseTree "nameless.json"
      [(some "buttons".toList, .array [.object (buttonMembers.take 2)])] :=
    isObjectFile_of_tokens rfl (by decide +kernel)
  refine ⟨hload, hsame.trans hload, ?_, ?_⟩
  · exact (load_known_fields htwice).repeated "fifo_path" (by decide) (by decide)
  · exact (load_known_fields hnameless).button _ _ List.mem_cons_self List.mem_cons_self "name"
      (by decide) (by decide)

end FanControl.Settings
