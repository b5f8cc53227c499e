import FanControl.Proofs.JsonDocument
import FanControl.Proofs.JsonScanning
import Mathlib.Data.List.Forall2

/-!
# Documents put together from texts

The tokens that make up a value are the tokens of this value (`Json.ofTokens?_eq_some_iff`), so a
text that reads as a value is cut into them, and reads as the value wherever it stands.

Hence texts of values between brackets, with commas between them, read as the array of these values,
and members likewise as an object (`Json.read?_arrayText`, `Json.read?_objectText`). No text has to
be in the form in which values are written: there may be blanks, numbers of every kind, and keys in
any spelling.
-/

namespace FanControl.Json

open Token

/-! ### What is read are the tokens of a value -/

/-- What is taken off the tokens are the tokens of a value. -/
def TakesTokens (fuel : Nat) : Prop :=
  (∀ ts v rest, value fuel ts = some (v, rest) → ts = tokens v ++ rest) ∧
    (∀ ts vs rest, items fuel ts = some (vs, rest) →
      vs ≠ [] ∧ ts = itemTokens true vs ++ .closeArray :: rest) ∧
    ∀ ts ms rest, members fuel ts = some (ms, rest) →
      ms ≠ [] ∧ ts = memberTokens true ms ++ .closeObject :: rest

theorem value_takes {fuel : Nat} (ih : TakesTokens fuel) {ts rest : List Token} {v : Json}
    (h : value (fuel + 1) ts = some (v, rest)) : ts = tokens v ++ rest := by
  unfold value at h
  split at h
  case h_1 heq => cases heq
  -- the case of an array that does not close at once
  case h_7 =>
    rename_i heq
    cases heq
    simp only [Option.bind_eq_bind, Option.bind_eq_some_iff, Prod.exists] at h
    obtain ⟨vs, ts, hitems, heq⟩ := h
    cases heq
    obtain ⟨-, rfl⟩ := ih.2.1 _ _ _ hitems
    simp [tokens]
  -- the case of an object that does not close at once
  case h_9 =>
    rename_i heq
    cases heq
    simp only [Option.bind_eq_bind, Option.bind_eq_some_iff, Prod.exists] at h
    obtain ⟨ms, ts, hmembers, heq⟩ := h
    cases heq
    obtain ⟨-, rfl⟩ := ih.2.2 _ _ _ hmembers
    simp [tokens]
  -- the other values are made of tokens of their own, and anything else is refused
  all_goals cases h <;> rfl

theorem items_takes {fuel : Nat} (ih : TakesTokens fuel) {ts rest : List Token} {vs : List Json}
    (h : items (fuel + 1) ts = some (vs, rest)) :
    vs ≠ [] ∧ ts = itemTokens true vs ++ .closeArray :: rest := by
  rw [items] at h
  simp only [Option.bind_eq_bind, Option.bind_eq_some_iff, Prod.exists] at h
  obtain ⟨v, after, hvalue, h⟩ := h
  obtain rfl := ih.1 _ _ _ hvalue
  -- after a value the array ends, or there is a comma and at least one more value
  split at h
  · cases h
    simp [itemTokens]
  · simp only [Option.bind_eq_some_iff, Prod.exists] at h
    obtain ⟨ws, us, hitems, heq⟩ := h
    cases heq
    obtain ⟨hne, rfl⟩ := ih.2.1 _ _ _ hitems
    obtain ⟨w, ws, rfl⟩ := List.exists_cons_of_ne_nil hne
    exact ⟨List.cons_ne_nil _ _, by simp [itemTokens]⟩
  · cases h

theorem members_takes {fuel : Nat} (ih : TakesTokens fuel) {ts rest : List Token}
    {ms : List (Option (List Char) × Json)} (h : members (fuel + 1) ts = some (ms, rest)) :
    ms ≠ [] ∧ ts = memberTokens true ms ++ .closeObject :: rest := by
  unfold members at h
  split at h
  · rename_i heq
    cases heq
    simp only [Option.bind_eq_bind, Option.bind_eq_some_iff, Prod.exists] at h
    obtain ⟨v, after, hvalue, h⟩ := h
    obtain rfl := ih.1 _ _ _ hvalue
    -- after a member the object ends, or there is a comma and at least one more member
    split at h
    · cases h
      simp [memberTokens]
    · simp only [Option.bind_eq_some_iff, Prod.exists] at h
      obtain ⟨ns, us, hmembers, heq⟩ := h
      cases heq
      obtain ⟨hne, rfl⟩ := ih.2.2 _ _ _ hmembers
      obtain ⟨n, ns, rfl⟩ := List.exists_cons_of_ne_nil hne
      exact ⟨List.cons_ne_nil _ _, by simp [memberTokens]⟩
    · cases h
  · cases h

/-- The three readers call each other with less fuel. -/
theorem takesTokens (fuel : Nat) : TakesTokens fuel := by
  induction fuel with
  | zero =>
    refine ⟨?_, ?_, ?_⟩ <;> intro ts v rest h
    · cases h
    · cases h
    · unfold members at h
      cases h
  | succ fuel ih =>
    exact ⟨fun _ _ _ h => value_takes ih h, fun _ _ _ h => items_takes ih h,
      fun _ _ _ h => members_takes ih h⟩

/-- **The tokens of a value, and no others, make up this value.** -/
theorem ofTokens?_eq_some_iff {ts : List Token} {v : Json} :
    ofTokens? ts = some v ↔ ts = tokens v := by
  constructor
  · intro h
    unfold ofTokens? at h
    split at h
    · next hvalue =>
      cases h
      have htokens := (takesTokens _).1 _ _ _ hvalue
      rwa [List.append_nil] at htokens
    · cases h
  · rintro rfl
    exact ofTokens?_tokens v

/-- A text reads as a value if it is cut into the tokens of this value. -/
theorem read?_eq_some_iff {s : String} {v : Json} :
    read? s = some v ↔ Token.ofText? s.toList = some (tokens v) := by
  rw [read?, Option.bind_eq_some_iff]
  constructor
  · rintro ⟨ts, hcut, hread⟩
    rw [hcut, ofTokens?_eq_some_iff.mp hread]
  · intro hcut
    exact ⟨_, hcut, ofTokens?_tokens v⟩

/-- A text that reads as a value is a piece with the tokens of this value. -/
theorem lexes_of_read? {s : List Char} {v : Json} (h : read? (String.ofList s) = some v) :
    Lexes (tokens v) s := by
  rw [read?_eq_some_iff, String.toList_ofList] at h
  exact Lexes.of_ofText? h

theorem read?_of_lexes {s : List Char} {v : Json} (h : Lexes (tokens v) s) :
    read? (String.ofList s) = some v := by
  rw [read?_eq_some_iff, String.toList_ofList]
  exact h.ofText?

/-! ### Putting texts together -/

theorem Token.ends_of_isBlank {c : Char} {s : List Char} (h : isBlank c = true) :
    Ends (c :: s) := by
  rintro _ ⟨⟩
  simp only [isBlank, Bool.or_eq_true, beq_iff_eq] at h
  rcases h with ((rfl | rfl) | rfl) | rfl <;> decide

/-- Texts with commas between them. -/
def commaText (texts : List (List Char)) : List Char := List.intercalate [','] texts

/-- Values between square brackets. -/
def arrayText (items : List (List Char)) : List Char := '[' :: commaText items ++ [']']

/-- A key, as it is spelled between its quotes, and a value. -/
def memberText (m : List Char × List Char) : List Char :=
  '"' :: (m.1 ++ ['"']) ++ ':' :: m.2

/-- Members between braces. -/
def objectText (members : List (List Char × List Char)) : List Char :=
  '\x7b' :: commaText (members.map memberText) ++ ['\x7d']

/-- The texts of a key and a value make up a member: the key is spelled in one way or another, and
the value is any text that reads as it. -/
structure IsMember (text : List Char × List Char) (m : Option (List Char) × Json) : Prop where
  key : ∃ x, m.1 = some x ∧ Quoted.Spells text.1 x
  value : read? (String.ofList text.2) = some m.2

section Compose

variable {s : List Char} {ts : List Token}

/-- A comma ends a number. -/
theorem Lexes.comma {u : List Char} {us : List Token} (h : Lexes ts s) (h' : Lexes us u) :
    Lexes (ts ++ .comma :: us) (s ++ ',' :: u) := by
  have hcomma : Lexes (.comma :: us) (',' :: u) := h'.cons (u := []) rfl fun _ => rfl
  exact h.append hcomma fun rest _ => Token.ends_cons (by decide)

/-- Pieces with commas between them. -/
theorem Lexes.commas {tokenLists : List (List Token)} {texts : List (List Char)}
    (h : List.Forall₂ Lexes tokenLists texts) :
    Lexes (List.intercalate [.comma] tokenLists) (commaText texts) := by
  induction h with
  | nil => exact Lexes.nil
  | @cons ts s tokenLists texts hfirst htail ih =>
    -- a comma stands between two pieces, so the last one has none behind it
    cases htail with
    | nil =>
      rw [commaText, List.intercalate_singleton, List.intercalate_singleton]
      exact hfirst
    | cons =>
      rw [commaText, List.intercalate_cons_cons, List.intercalate_cons_cons, List.append_assoc,
        List.append_assoc]
      exact hfirst.comma ih

theorem Lexes.member {text : List Char × List Char} {m : Option (List Char) × Json}
    (h : IsMember text m) : Lexes (.string m.1 :: .colon :: tokens m.2) (memberText text) := by
  obtain ⟨x, hx, hspells⟩ := h.key
  have hcolon : Lexes (.colon :: tokens m.2) (':' :: text.2) :=
    (lexes_of_read? h.value).cons (u := []) rfl fun _ => rfl
  rw [hx]
  exact hcolon.spelled hspells

theorem itemTokens_true (vs : List Json) :
    itemTokens true vs = List.intercalate [.comma] (vs.map tokens) := by
  induction vs with
  | nil => rfl
  | cons v vs ih =>
    cases vs with
    | nil => simp [itemTokens, List.intercalate_singleton]
    | cons w ws =>
      rw [itemTokens, itemTokens_false_cons, ih]
      simp [List.intercalate_cons_cons]

theorem memberTokens_true (ms : List (Option (List Char) × Json)) :
    memberTokens true ms =
      List.intercalate [.comma] (ms.map fun m => .string m.1 :: .colon :: tokens m.2) := by
  induction ms with
  | nil => rfl
  | cons m ms ih =>
    cases ms with
    | nil => simp [memberTokens, List.intercalate_singleton]
    | cons n ns =>
      rw [memberTokens, memberTokens_false_cons, ih]
      simp [List.intercalate_cons_cons]

/-- **Texts of values between square brackets read as the array of the values.** -/
theorem read?_arrayText {texts : List (List Char)} {vs : List Json}
    (h : List.Forall₂ (fun text v => read? (String.ofList text) = some v) texts vs) :
    read? (String.ofList (arrayText texts)) = some (.array vs) := by
  have hpieces : List.Forall₂ Lexes (vs.map tokens) texts := by
    rw [List.forall₂_map_left_iff]
    exact h.flip.imp fun _ _ => lexes_of_read?
  have hitems := Lexes.commas hpieces
  rw [← itemTokens_true] at hitems
  -- a compact document has nothing before its closing bracket
  have hlead : lead false 0 true = [] := rfl
  have hbrackets : Lexes (tokens (.array vs))
      ('[' :: commaText texts ++ lead false 0 true ++ [']']) :=
    lexes_brackets rfl (fun _ => rfl) (by decide) (fun _ => rfl) hitems
  rw [hlead, List.append_nil] at hbrackets
  exact read?_of_lexes hbrackets

/-- **Texts of members between braces read as the object with the members.** -/
theorem read?_objectText {texts : List (List Char × List Char)}
    {ms : List (Option (List Char) × Json)} (h : List.Forall₂ IsMember texts ms) :
    read? (String.ofList (objectText texts)) = some (.object ms) := by
  have hpieces : List.Forall₂ Lexes (ms.map fun m => .string m.1 :: .colon :: tokens m.2)
      (texts.map memberText) := by
    rw [List.forall₂_map_left_iff, List.forall₂_map_right_iff]
    exact h.flip.imp fun _ _ => Lexes.member
  have hmembers := Lexes.commas hpieces
  rw [← memberTokens_true] at hmembers
  have hlead : lead false 0 true = [] := rfl
  have hbraces : Lexes (tokens (.object ms))
      ('\x7b' :: commaText (texts.map memberText) ++ lead false 0 true ++ ['\x7d']) :=
    lexes_brackets rfl (fun _ => rfl) (by decide) (fun _ => rfl) hmembers
  rw [hlead, List.append_nil] at hbraces
  exact read?_of_lexes hbraces

/-- Blanks around a value change nothing. -/
theorem read?_blanks {before after : List Char} {v : Json}
    (hbefore : ∀ c ∈ before, isBlank c = true)
    (hafter : ∀ c ∈ after, isBlank c = true) (h : read? (String.ofList s) = some v) :
    read? (String.ofList (before ++ s ++ after)) = some v := by
  have hblanks : ∀ {ts s b}, (∀ c ∈ b, isBlank c = true) → Lexes ts s → Lexes ts (b ++ s) := by
    intro ts s b hb hs
    induction b with
    | nil => exact hs
    | cons c b ih =>
      exact (ih fun d hd => hb d (List.mem_cons_of_mem c hd)).blank (hb c List.mem_cons_self)
  -- the value may be a number, which the first blank ends
  have hends : ∀ rest, Ends rest → Ends (after ++ rest) := by
    intro rest hrest
    cases after with
    | nil => exact hrest
    | cons c after => exact ends_of_isBlank (hafter c List.mem_cons_self)
  have hend : Lexes [] after := by
    have hnil := hblanks hafter Lexes.nil
    rwa [List.append_nil] at hnil
  have hvalue := (hblanks hbefore (lexes_of_read? h)).append hend hends
  rw [List.append_nil] at hvalue
  exact read?_of_lexes hvalue

/-- A text of an object: its members between braces, and blanks around them. -/
structure IsObject (s : List Char) (ms : List (Option (List Char) × Json)) : Prop where
  parts : ∃ before texts after, s = before ++ objectText texts ++ after ∧
    (∀ c ∈ before, isBlank c = true) ∧ (∀ c ∈ after, isBlank c = true) ∧
    List.Forall₂ IsMember texts ms

theorem IsObject.read? {ms : List (Option (List Char) × Json)} (h : IsObject s ms) :
    read? (String.ofList s) = some (.object ms) := by
  obtain ⟨before, texts, after, rfl, hbefore, hafter, hmembers⟩ := h.parts
  exact read?_blanks hbefore hafter (read?_objectText hmembers)

end Compose

end FanControl.Json
