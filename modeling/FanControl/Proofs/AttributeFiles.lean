import FanControl.Attribute.Files
import FanControl.Proofs.Faithful
import FanControl.Proofs.FileContents
import FanControl.Proofs.TextEnds

/-!
# Attributes in files

Replacing the content of a file moves no file: every path leads where it did, and every other node
of the tree is what it was. So an attribute that was written is read back as the first line of the
value without the white space at its end, and the other attributes read as before.

What an attribute reads as is a function of its file's text, and an integer is read off the first
line of the text whatever white space stands around it and whatever follows the line
(`AttributePaths.integer?_valueOf`).

Files are a faithful store (`AttributePaths.store_faithful`), and `AttributePaths.round_trip` puts
together what is written into them and what is read.
-/

namespace FanControl

/-! ### The value in a text -/

namespace Text

/-- White space that is cut off the end anyway may be cut off before. -/
theorem strip_dropEndWhile (p : Char → Bool) (s : List Char) :
    strip p (dropEndWhile p s) = strip p s := by
  obtain ⟨⟨cut, hcut, hs⟩, -⟩ := dropEndWhile_eq_iff.mp (rfl : dropEndWhile p s = _)
  conv_rhs => rw [hs]
  exact (strip_append hcut).symm

/-- The first line ends where the first line feed is. -/
theorem firstLine_append {line rest : List Char} (hline : '\n' ∉ line)
    (hrest : ∀ c ∈ rest.head?, c = '\n') : firstLine (line ++ rest) = line := by
  have hkeep : ∀ c ∈ line, decide (c ≠ '\n') = true := by
    intro c hc
    rw [decide_eq_true_eq]
    rintro rfl
    exact hline hc
  rw [firstLine, List.takeWhile_append_of_pos hkeep]
  cases rest with
  | nil => simp
  | cons c rest =>
    have hc : c = '\n' := hrest c rfl
    rw [hc, List.takeWhile_cons_of_neg (by decide), List.append_nil]

/-- A line feed at the end makes no other first line. -/
theorem firstLine_append_lineFeed (s : List Char) : firstLine (s ++ ['\n']) = firstLine s := by
  induction s with
  | nil => rfl
  | cons c s ih =>
    simp only [firstLine, List.cons_append, List.takeWhile_cons] at ih ⊢
    rw [ih]

end Text

/-! ### Stores over files -/

namespace AttributePaths

/-- The line feed that is written behind a value is not part of it. -/
theorem valueOf_append_lineFeed (value : String) : valueOf (value ++ "\n") = valueOf value := by
  have hchars : (value ++ "\n").toList = value.toList ++ ['\n'] := String.toList_append
  rw [valueOf, valueOf, hchars, Text.firstLine_append_lineFeed]

/-- A value stays as it is if it is one line that does not end in white space, and only then. -/
theorem valueOf_eq_self_iff {value : String} :
    valueOf value = value ↔
      '\n' ∉ value.toList ∧ ∀ c ∈ value.toList.getLast?, Text.isBlank c = false := by
  rw [← String.toList_inj, valueOf, String.toList_ofList, Text.trimEnd]
  constructor
  · intro h
    have hlast := (Text.dropEndWhile_eq_iff.mp h).2
    -- every character of the value was kept, so none of them is a line feed
    have hpre : Text.dropEndWhile Text.isBlank (Text.firstLine value.toList) <+:
        Text.firstLine value.toList := List.rdropWhile_prefix ..
    rw [h] at hpre
    refine ⟨fun hmem => ?_, hlast⟩
    have hkept := List.mem_takeWhile_imp (hpre.subset hmem)
    simp at hkept
  · rintro ⟨hline, hlast⟩
    have hfirst : Text.firstLine value.toList = value.toList := by
      have h : Text.firstLine (value.toList ++ []) = value.toList :=
        Text.firstLine_append hline nofun
      rwa [List.append_nil] at h
    rw [hfirst, Text.dropEndWhile_eq_iff]
    exact ⟨⟨[], List.forall_mem_nil _, (List.append_nil _).symm⟩, hlast⟩

/-- The digits of a number are a value. -/
theorem valueOf_ofNat (n : Nat) : valueOf (Text.Decimal.ofNat n) = Text.Decimal.ofNat n := by
  have hblank : ∀ c ∈ (Text.Decimal.ofNat n).toList, Text.isBlank c = false := by
    intro c hc
    rw [Text.Decimal.ofNat, String.toList_ofList] at hc
    exact Text.isBlank_of_isDigit (Text.Decimal.isDigit_of_mem_digits hc)
  rw [valueOf_eq_self_iff]
  refine ⟨fun hmem => ?_, fun c hc => hblank c (List.mem_of_getLast? hc)⟩
  cases hblank '\n' hmem

theorem valueOf_modeText (m : Mode) : valueOf m.text = m.text := by
  cases m <;> rfl

/-- **An integer is read off the first line**, whatever white space stands around it and whatever
follows the line. -/
theorem integer?_valueOf {before after rest : List Char} (n : Int64)
    (hbefore : ∀ c ∈ before, Text.isBlank c = true ∧ c ≠ '\n')
    (hafter : ∀ c ∈ after, Text.isBlank c = true ∧ c ≠ '\n')
    (hrest : ∀ c ∈ rest.head?, c = '\n') :
    AttributeStore.integer? (valueOf (String.ofList
      (before ++ Text.Decimal.signed n.toInt ++ after ++ rest))) = some n := by
  have hline : '\n' ∉ before ++ Text.Decimal.signed n.toInt ++ after := by
    simp only [List.mem_append, not_or]
    refine ⟨⟨fun h => (hbefore _ h).2 rfl, fun h => ?_⟩, fun h => (hafter _ h).2 rfl⟩
    have hblank := Text.Decimal.isBlank_of_mem_signed h
    revert hblank
    decide
  have hlow := n.minValue_le_toInt
  have hhigh := n.toInt_lt
  -- the white space behind the number goes when the line is read, or when the number is
  rw [AttributeStore.integer?, valueOf, String.toList_ofList, String.toList_ofList,
    Text.firstLine_append hline hrest, Text.trim, Text.trimEnd, Text.strip_dropEndWhile,
    Text.strip_append fun c hc => (hafter c hc).1, Text.strip_prepend fun c hc => (hbefore c hc).1]
  show Text.Decimal.readInt64? (Text.trim (Text.Decimal.signed n.toInt)) = some n
  rw [Text.Decimal.trim_signed, Text.Decimal.readInt64?_signed ⟨hlow, hhigh⟩, Int64.ofInt_toInt]

variable {p : AttributePaths} {h : Host} {attr other : Attribute} {value : String} {id : NodeId}
  {old : List UInt8}

/-- The path of an attribute leads to a plain file. -/
structure HasFile (p : AttributePaths) (t : FileTree) (attr : Attribute) (id : NodeId)
    (content : List UInt8) : Prop where
  path : t.locate (p.path attr) = .ok id
  file : t.nodes[id]? = some (.file content)

/-- No two of the paths lead to the same place. -/
def Apart (p : AttributePaths) (t : FileTree) : Prop :=
  ∀ attr other id, t.locate (p.path attr) = .ok id → t.locate (p.path other) = .ok id →
    attr = other

/-! ### Reading and writing -/

/-- What an attribute reads as is the value in the text of its file. -/
theorem read_of_readBytes {content : String}
    (hread : h.tree.readBytes (p.path attr) = .ok (bytesOfText content)) :
    p.store.read attr h = (.ok (valueOf content), h) := by
  have htext := FileTree.readText_of_readBytes hread
  show (Host.inspect (·.readText (p.path attr)) (.attributeRead (p.path attr)) >>= fun content =>
    pure (valueOf content)) h = _
  rw [Action.bind_apply]
  simp only [Host.inspect, Action.query, htext]
  rfl

/-- An attribute reads as before if its file does. -/
theorem read_congr {h' : Host}
    (hread : h'.tree.readBytes (p.path attr) = h.tree.readBytes (p.path attr)) :
    (p.store.read attr h').1 = (p.store.read attr h).1 := by
  have htext := FileTree.readText_congr hread
  show ((Host.inspect (·.readText (p.path attr)) (.attributeRead (p.path attr)) >>= fun content =>
    pure (valueOf content)) h').1 = ((Host.inspect (·.readText (p.path attr))
      (.attributeRead (p.path attr)) >>= fun content => pure (valueOf content)) h).1
  rw [Action.bind_apply, Action.bind_apply]
  simp only [Host.inspect, Action.query, htext]
  cases h.tree.readText (p.path attr) <;> rfl

/-- An attribute reads as what the value in its file stands for. -/
theorem meaning_of_readBytes {α : Type} {content : String}
    (hread : h.tree.readBytes (p.path attr) = .ok (bytesOfText content))
    (meaning : String → Except Error α) :
    ((do meaning (← p.store.read attr) : Action Host α) h).1 = meaning (valueOf content) := by
  rw [Action.meaning_apply, read_of_readBytes hread]
  rfl

/-- A text is written into a plain file, unless the attribute cannot be set. -/
theorem write_of_file (hfile : p.HasFile h.tree attr id old) (hattr : attr.isWritable = true)
    (value : String) :
    p.store.write attr value h =
      (.ok (), { h with tree := h.tree.setNode id (.file (bytesOfText (value ++ "\n"))) }) := by
  show p.write attr value h = _
  rw [write, if_pos hattr, Host.edit]
  simp only [FileTree.replace_of_file hfile.path hfile.file]

/-- **A write that fails changes nothing.** -/
theorem write_of_error {e : Error} (he : (p.store.write attr value h).1 = .error e) :
    (p.store.write attr value h).2 = h := by
  change (p.write attr value h).1 = _ at he
  show (p.write attr value h).2 = h
  rw [write] at he ⊢
  -- a write to a read-only attribute does not reach the file, and a failing one leaves it
  split
  · next hattr =>
    rw [if_pos hattr] at he
    rw [Host.edit] at he ⊢
    split
    · next hreplace =>
      rw [hreplace] at he
      cases he
    · rfl
  · rfl

/-- What is read after a text was written. -/
theorem readBytes_write (hfile : p.HasFile h.tree attr id old) (hattr : attr.isWritable = true)
    (value : String) :
    (p.store.write attr value h).2.tree.readBytes (p.path attr) =
      .ok (bytesOfText (value ++ "\n")) := by
  rw [write_of_file hfile hattr]
  -- the path still leads to the file, which holds the new text now
  have hsame := FileTree.file_directories hfile.file (bytesOfText (value ++ "\n"))
  exact FileTree.readBytes_of_file ((hsame.locate_eq _).trans hfile.path)
    (FileTree.nodes_setNode_self hfile.file)

/-- The attributes that were not written read as before. -/
theorem read_write_other (happart : p.Apart h.tree) (hfile : p.HasFile h.tree attr id old)
    (hattr : attr.isWritable = true) (value : String) (hne : other ≠ attr) :
    (p.store.read other (p.store.write attr value h).2).1 = (p.store.read other h).1 := by
  rw [write_of_file hfile hattr]
  have hsame := FileTree.file_directories hfile.file (bytesOfText (value ++ "\n"))
  refine read_congr (FileTree.readBytes_congr (hsame.locate_eq _) fun node hnode => ?_)
  -- another attribute is in another node, as the paths lead apart
  refine FileTree.nodes_setNode_of_ne fun hid => ?_
  exact hne (happart other attr node hnode (hid ▸ hfile.path))

/-! ### What a write leaves -/

/-- What a write into the plain file `id` leaves. -/
structure Written (p : AttributePaths) (attr : Attribute) (value : String) (id : NodeId)
    (h h' : Host) : Prop where
  /-- The next reading gives the first line of the value without the white space at its end. -/
  read : (p.store.read attr h').1 =
    .ok (String.ofList ((value.toList.takeWhile (· ≠ '\n')).rdropWhile Text.isBlank))
  /-- That is the value itself if it is one line that does not end in white space, and only then. -/
  verbatim : (p.store.read attr h').1 = .ok value ↔
    '\n' ∉ value.toList ∧ ∀ c ∈ value.toList.getLast?, Text.isBlank c = false
  /-- The file holds the value and a line feed. -/
  content : h'.tree.nodes[id]? = some (.file (bytesOfText (value ++ "\n")))
  /-- Everything else in the tree is as it was. -/
  others : ∀ node, node ≠ id → h'.tree.nodes[node]? = h.tree.nodes[node]?
  /-- Every path leads where it led, or nowhere for the same reason. -/
  paths : ∀ path, h'.tree.locate path = h.tree.locate path
  /-- The other attributes read as before. -/
  reads : ∀ other, other ≠ attr → (p.store.read other h').1 = (p.store.read other h).1

theorem written_of_file (happart : p.Apart h.tree) (hfile : p.HasFile h.tree attr id old)
    (hattr : attr.isWritable = true) (value : String) :
    p.Written attr value id h (p.store.write attr value h).2 := by
  have hread : (p.store.read attr (p.store.write attr value h).2).1 = .ok (valueOf value) := by
    rw [read_of_readBytes (readBytes_write hfile hattr value), valueOf_append_lineFeed]
  have hwrite := write_of_file hfile hattr value
  -- another content in a file moves no directory, so all paths lead where they led
  have hsame := FileTree.file_directories hfile.file (bytesOfText (value ++ "\n"))
  refine ⟨hread, ?_, ?_, fun node hne => ?_, fun path => ?_, fun other hne => ?_⟩
  · rw [hread, Except.ok.injEq]
    exact valueOf_eq_self_iff
  · rw [hwrite]
    exact FileTree.nodes_setNode_self hfile.file
  · rw [hwrite]
    exact FileTree.nodes_setNode_of_ne (Ne.symm hne)
  · rw [hwrite]
    exact hsame.locate_eq path
  · exact read_write_other happart hfile hattr value hne

/-! ### Files as a faithful store -/

/-- The attributes are plain files of their own with texts in them, and their values are in these
texts. -/
def contents (p : AttributePaths) : Contents Host where
  sound h := p.Apart h.tree ∧ ∀ attr, ∃ id content, p.HasFile h.tree attr id (bytesOfText content)
  text h attr := (p.store.read attr h).1.toOption.getD ""

/-- A legal value can be written, and stays as it is. -/
theorem valueOf_of_legal (h : attr.Legal value) :
    attr.isWritable = true ∧ valueOf value = value := by
  cases attr with
  | mode =>
    rcases h with rfl | rfl
    · exact ⟨rfl, valueOf_modeText .auto⟩
    · exact ⟨rfl, valueOf_modeText .manual⟩
  | temperature => exact h.elim
  | frequency =>
    obtain ⟨n, -, -, rfl⟩ := h
    exact ⟨rfl, valueOf_ofNat n⟩

/-- A world stays in order when a text is written. -/
theorem sound_write (hsound : p.contents.sound h) (hattr : attr.isWritable = true)
    (value : String) : p.contents.sound (p.store.write attr value h).2 := by
  obtain ⟨happart, hfiles⟩ := hsound
  obtain ⟨id, content, hfile⟩ := hfiles attr
  have hwritten := written_of_file happart hfile hattr value
  -- the paths lead where they led, and each leads to a file as before
  refine ⟨fun a b node ha hb => ?_, fun other => ?_⟩
  · rw [hwritten.paths] at ha hb
    exact happart a b node ha hb
  · obtain ⟨node, content', hother⟩ := hfiles other
    have hpath := (hwritten.paths _).trans hother.path
    -- what another path leads to is the written file or was not touched
    by_cases hnode : node = id
    · subst hnode
      exact ⟨node, value ++ "\n", hpath, hwritten.content⟩
    · exact ⟨node, content', hpath, (hwritten.others node hnode).trans hother.file⟩

/-- **Files are a faithful store**: what is known of a controller before such a store holds on a
machine whose attributes are plain files. -/
theorem store_faithful (p : AttributePaths) : p.store.Faithful p.contents where
  read attr h hsound := by
    obtain ⟨id, content, hfile⟩ := hsound.2 attr
    have hread := read_of_readBytes (FileTree.readBytes_of_file hfile.path hfile.file)
    have htext : p.contents.text h attr = valueOf content := by
      simp only [contents, hread]
      rfl
    rw [htext, hread]
    exact ⟨rfl, .refl hsound⟩
  write attr value h hsound hlegal := by
    -- legal values are the ones for which cutting the line changes nothing
    obtain ⟨hattr, hvalue⟩ := valueOf_of_legal hlegal
    obtain ⟨id, content, hfile⟩ := hsound.2 attr
    have hwritten := written_of_file hsound.1 hfile hattr value
    have hok : (p.store.write attr value h).1 = .ok () := by
      rw [write_of_file hfile hattr]
    refine ⟨hok, sound_write hsound hattr value, funext fun other => ?_⟩
    -- the text of the world changes at this attribute and nowhere else
    by_cases hother : other = attr
    · subst hother
      have hread : (p.store.read other (p.store.write other value h).2).1 = .ok value :=
        hwritten.read.trans (congrArg _ hvalue)
      simp only [contents, Memory.update, hread, if_true]
      rfl
    · simp only [contents, Memory.update, if_neg hother, hwritten.reads other hother]

/-! ### The round trip -/

/-- What writing to the attributes and reading them promise on a machine. -/
structure RoundTrip (p : AttributePaths) (h : Host) : Prop where
  /-- A write into a plain file succeeds, unless the attribute cannot be set. -/
  accepted : ∀ attr value id old, p.HasFile h.tree attr id old → attr.isWritable = true →
    (p.store.write attr value h).1 = .ok ()
  /-- It changes this file and nothing else. -/
  written : ∀ attr value id old, p.HasFile h.tree attr id old →
    (p.store.write attr value h).1 = .ok () →
    p.Written attr value id h (p.store.write attr value h).2
  /-- The temperature cannot be set. -/
  readOnly : ∀ value,
    (p.store.write .temperature value h).1 = .error (.readOnlyAttribute "temperature")
  /-- Where a path leads nowhere, there is nothing to write to. -/
  nowhere : ∀ attr value fault, attr.isWritable = true →
    h.tree.locate (p.path attr) = .error fault →
    (p.store.write attr value h).1 = .error (.attributeWrite (p.path attr) fault)
  /-- A directory is not written to. -/
  directory : ∀ attr value id parent entries, attr.isWritable = true →
    h.tree.locate (p.path attr) = .ok id →
    h.tree.nodes[id]? = some (.directory parent entries) →
    (p.store.write attr value h).1 = .error (.attributeWrite (p.path attr) (.system .isDirectory))
  /-- A write that fails for whatever reason changes nothing. -/
  refused : ∀ attr value e, (p.store.write attr value h).1 = .error e →
    (p.store.write attr value h).2 = h
  /-- A frequency that was written is the one that is read. -/
  frequency : ∀ hz id old, p.HasFile h.tree .frequency id old →
    (p.store.writeFrequency hz h).1 = .ok () →
    (p.store.readFrequency (p.store.writeFrequency hz h).2).1.map Int64.toInt =
      .ok (hz.toNat : Int)
  /-- A mode that was written is the one that is read. -/
  mode : ∀ m id old, p.HasFile h.tree .mode id old → (p.store.writeMode m h).1 = .ok () →
    (p.store.readMode (p.store.writeMode m h).2).1 = .ok m
  /-- An integer on the first line of a file is read, with white space around it or not, and
  whatever follows the line. -/
  integer : ∀ (n : Int64) (before after rest : List Char),
    (∀ c ∈ before, Text.isBlank c = true ∧ c ≠ '\n') →
    (∀ c ∈ after, Text.isBlank c = true ∧ c ≠ '\n') → (∀ c ∈ rest.head?, c = '\n') →
    let bytes := bytesOfText
      (String.ofList (before ++ Text.Decimal.signed n.toInt ++ after ++ rest))
    (h.tree.readBytes p.frequency = .ok bytes → (p.store.readFrequency h).1 = .ok n) ∧
      (h.tree.readBytes p.temperature = .ok bytes → (p.store.readTemperature h).1 = .ok n)

theorem isWritable_of_write (hok : (p.store.write attr value h).1 = .ok ()) :
    attr.isWritable = true := by
  change (p.write attr value h).1 = _ at hok
  rw [write] at hok
  split at hok
  · assumption
  · cases hok

/-- A write that cannot replace anything fails with the reason. -/
theorem write_of_replace_error {fault : AccessFault} (hattr : attr.isWritable = true)
    (hreplace : h.tree.replace (p.path attr) (bytesOfText (value ++ "\n")) = .error fault) :
    (p.store.write attr value h).1 = .error (.attributeWrite (p.path attr) fault) := by
  show (p.write attr value h).1 = _
  rw [write, if_pos hattr, Host.edit, hreplace]

/-- What is read as a typed value after a value was written. -/
theorem meaning_write {α : Type} (hfile : p.HasFile h.tree attr id old)
    (hok : (p.store.write attr value h).1 = .ok ()) (hvalue : valueOf value = value)
    (meaning : String → Except Error α) :
    ((do meaning (← p.store.read attr) : Action Host α) (p.store.write attr value h).2).1 =
      meaning value := by
  have hread := readBytes_write hfile (isWritable_of_write hok) value
  rw [meaning_of_readBytes hread, valueOf_append_lineFeed, hvalue]

/-- An integer is read as what the text of the file says. -/
theorem integer_of_readBytes {content : String} {n : Int64}
    (hread : h.tree.readBytes (p.path attr) = .ok (bytesOfText content))
    (hn : AttributeStore.integer? (valueOf content) = some n) :
    ((do AttributeStore.interpret attr AttributeStore.integer? (← p.store.read attr) :
      Action Host Int64) h).1 = .ok n := by
  rw [meaning_of_readBytes hread, AttributeStore.interpret, hn]

/-- **What is written into a file is read back, and nothing else changes.** -/
theorem round_trip (p : AttributePaths) (h : Host) (happart : p.Apart h.tree) : p.RoundTrip h where
  accepted attr value id old hfile hattr := by
    rw [write_of_file hfile hattr]
  written attr value id old hfile hok :=
    written_of_file happart hfile (isWritable_of_write hok) value
  readOnly _ := rfl
  nowhere attr value fault hattr hpath := by
    have hreplace : h.tree.replace (p.path attr) (bytesOfText (value ++ "\n")) = .error fault := by
      rw [FileTree.replace, hpath]
      rfl
    exact write_of_replace_error hattr hreplace
  directory attr value id parent entries hattr hpath hnode := by
    have hreplace : h.tree.replace (p.path attr) (bytesOfText (value ++ "\n")) =
        .error (.system .isDirectory) := by
      rw [FileTree.replace, hpath]
      dsimp only [bind, Except.bind]
      rw [hnode]
    exact write_of_replace_error hattr hreplace
  refused _ _ _ he := write_of_error he
  frequency hz id old hfile hok := by
    have hread : (p.store.readFrequency (p.store.writeFrequency hz h).2).1 =
        AttributeStore.interpret .frequency AttributeStore.integer? (Frequency.text hz) :=
      meaning_write hfile hok (valueOf_ofNat hz.toNat) _
    have hbound := hz.toNat_lt
    rw [hread, AttributeStore.interpret, AttributeStore.integer?_frequency]
    -- a byte fits into the signed word that is read
    show Except.ok (Int64.ofInt hz.toNat).toInt = _
    rw [Int64.toInt_ofInt_of_le (by omega) (by omega)]
  mode m id old hfile hok := by
    have hread : (p.store.readMode (p.store.writeMode m h).2).1 =
        AttributeStore.interpret .mode Mode.ofText? m.text :=
      meaning_write hfile hok (valueOf_modeText m) _
    rw [hread, AttributeStore.interpret, Mode.ofText?_text]
  integer n before after rest hbefore hafter hrest := by
    have hn := integer?_valueOf n hbefore hafter hrest
    exact ⟨fun hread => integer_of_readBytes hread hn, fun hread => integer_of_readBytes hread hn⟩

/-- Three files beside each other: a value may end in a space, and lines may follow it. -/
def threeFiles : Host :=
  .ofTree ⟨#[.directory 0 [("mode", 1), ("temp", 2), ("freq", 3)], .file (bytesOfText "auto \nno"),
    .file (bytesOfText "\t-40 \r\n7"), .file []], 0⟩

/-- Which file an attribute is in. -/
def threeFiles.node : Attribute → NodeId
  | .mode => 1
  | .temperature => 2
  | .frequency => 3

theorem round_trip_threeFiles :
    let p : AttributePaths := ⟨"mode", "./temp", "/freq"⟩
    let w := (p.store.write .mode " a\tb \r\nc" threeFiles).2
    p.Apart threeFiles.tree ∧ (p.store.write .mode " a\tb \r\nc" threeFiles).1 = .ok () ∧
      (p.store.read .mode w).1 = .ok " a\tb" ∧ w.tree.nodes[3]? = some (.file []) ∧
      (p.store.readTemperature threeFiles).1 = .ok (-40) ∧
      (p.store.write .temperature "1" threeFiles).2 = threeFiles ∧
      (p.store.readFrequency (p.store.writeFrequency 250 threeFiles).2).1.map Int64.toInt =
        .ok 250 := by
  intro p w
  have hmode : threeFiles.tree.locate "mode" = .ok 1 := rfl
  have htemperature : threeFiles.tree.locate "./temp" = .ok 2 := rfl
  have hfrequency : threeFiles.tree.locate "/freq" = .ok 3 := rfl
  -- three paths to three different nodes
  have hnode : ∀ attr, threeFiles.tree.locate (p.path attr) = .ok (threeFiles.node attr) := by
    intro attr
    cases attr with
    | mode => exact hmode
    | temperature => exact htemperature
    | frequency => exact hfrequency
  have happart : p.Apart threeFiles.tree := by
    intro attr other id hattr hother
    rw [hnode] at hattr hother
    have hsame : threeFiles.node attr = threeFiles.node other :=
      Except.ok.inj (hattr.trans hother.symm)
    cases attr <;> cases other <;> simp [threeFiles.node] at hsame ⊢
  have hround := round_trip p threeFiles happart
  have hmodeFile : p.HasFile threeFiles.tree .mode 1 _ := ⟨hmode, rfl⟩
  have hfrequencyFile : p.HasFile threeFiles.tree .frequency 3 _ := ⟨hfrequency, rfl⟩
  have hok := hround.accepted .mode " a\tb \r\nc" 1 _ hmodeFile rfl
  have hwritten := hround.written .mode " a\tb \r\nc" 1 _ hmodeFile hok
  have hset := hround.accepted .frequency (Frequency.text 250) 3 _ hfrequencyFile rfl
  have hline : threeFiles.tree.readBytes "./temp" = .ok (bytesOfText (String.ofList
      (['\t'] ++ Text.Decimal.signed (-40 : Int64).toInt ++ [' ', '\r'] ++ ['\n', '7']))) := rfl
  have htab : ∀ c ∈ ['\t'], Text.isBlank c = true ∧ c ≠ '\n' := by
    simp only [List.mem_singleton, forall_eq]
    exact ⟨rfl, by decide⟩
  have hreturn : ∀ c ∈ [' ', '\r'], Text.isBlank c = true ∧ c ≠ '\n' := by
    simp only [List.forall_mem_cons]
    exact ⟨⟨rfl, by decide⟩, ⟨rfl, by decide⟩, List.forall_mem_nil _⟩
  have hcold := (hround.integer (-40) ['\t'] [' ', '\r'] ['\n', '7'] htab hreturn (by simp)).2
    hline
  exact ⟨happart, hok, hwritten.read, hwritten.others 3 (by decide), hcold,
    hround.refused .temperature "1" _ (hround.readOnly "1"),
    hround.frequency 250 3 _ hfrequencyFile hset⟩

end AttributePaths

end FanControl
