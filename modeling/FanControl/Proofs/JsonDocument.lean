import FanControl.Json
import FanControl.Proofs.JsonTokens

/-!
# A written document is read back

`Json.tokens` lists the tokens of a value. Reading them gives the value again, whatever it is
(`Json.value_tokens`), and the written form of a value is cut into them (`Json.Sound.lexes`) as far
as its numbers are integers and its strings and keys spell a text, which is what `Json.Sound` says.
Together: every sound value comes back from its text, on one line or on many
(`Json.Sound.read?_compact`, `Json.Sound.read?_pretty`).

Values are nested in lists, so the inductions need a hypothesis about every item and every member:
`Json.nested` for all values, and the one of `Json.Sound` for those that are written.
-/

namespace FanControl.Json

/-- Induction over the values in arrays and objects. -/
@[elab_as_elim]
theorem nested {motive : Json → Prop} (null : motive .null) (bool : ∀ b, motive (.bool b))
    (number : ∀ l, motive (.number l)) (string : ∀ s, motive (.string s))
    (array : ∀ vs, (∀ v ∈ vs, motive v) → motive (.array vs))
    (object : ∀ ms, (∀ m ∈ ms, motive m.2) → motive (.object ms)) (v : Json) : motive v :=
  match v with
  | .null => null
  | .bool b => bool b
  | .number l => number l
  | .string s => string s
  | .array vs => array vs fun v _ => nested null bool number string array object v
  | .object ms => object ms fun m _ => nested null bool number string array object m.2
termination_by sizeOf v
decreasing_by
  · have := List.sizeOf_lt_of_mem ‹v ∈ vs›
    simp only [Json.array.sizeOf_spec]
    omega
  · have := List.sizeOf_lt_of_mem ‹m ∈ ms›
    have : sizeOf m.2 < sizeOf m := by
      obtain ⟨k, v⟩ := m
      simp only [Prod.mk.sizeOf_spec]
      omega
    simp only [Json.object.sizeOf_spec]
    omega

/-! ### The tokens of a value -/

mutual

/-- The tokens of a value. -/
def tokens : Json → List Token
  | .null => [.null]
  | .bool b => [.bool b]
  | .number l => [.number l]
  | .string s => [.string s]
  | .array vs => .openArray :: (itemTokens true vs ++ [.closeArray])
  | .object ms => .openObject :: (memberTokens true ms ++ [.closeObject])

/-- The tokens of values with commas between them. -/
def itemTokens (first : Bool) : List Json → List Token
  | [] => []
  | v :: vs => (if first then [] else [.comma]) ++ (tokens v ++ itemTokens false vs)

/-- The tokens of members with commas between them. -/
def memberTokens (first : Bool) : List (Option (List Char) × Json) → List Token
  | [] => []
  | (k, v) :: ms =>
    (if first then [] else [.comma]) ++ (.string k :: .colon :: (tokens v ++ memberTokens false ms))

end

/-! ### Reading the tokens -/

/-- The tokens of `v` read as `v`, whatever follows, with fuel for two steps a token. -/
def Parses (v : Json) : Prop :=
  ∀ fuel rest, 2 * (tokens v).length ≤ fuel → value fuel (tokens v ++ rest) = some (v, rest)

theorem itemTokens_false_cons (v : Json) (vs : List Json) :
    itemTokens false (v :: vs) = .comma :: itemTokens true (v :: vs) := by
  simp [itemTokens]

theorem memberTokens_false_cons (m : Option (List Char) × Json)
    (ms : List (Option (List Char) × Json)) :
    memberTokens false (m :: ms) = .comma :: memberTokens true (m :: ms) := by
  simp [memberTokens]

/-- One or more items are read up to the end of the array. -/
theorem items_tokens (v : Json) (vs : List Json) (h : ∀ w ∈ v :: vs, Parses w) :
    ∀ fuel rest, 2 * (itemTokens true (v :: vs)).length + 1 ≤ fuel →
      items fuel (itemTokens true (v :: vs) ++ .closeArray :: rest) = some (v :: vs, rest) := by
  -- on the items after the first: the reader takes one value, and then a comma or the end
  induction vs generalizing v with
  | nil =>
    intro fuel rest hfuel
    obtain ⟨fuel, rfl⟩ : ∃ f, fuel = f + 1 := ⟨fuel - 1, by omega⟩
    simp only [itemTokens, List.append_nil, if_true, List.nil_append] at hfuel ⊢
    rw [items, h v List.mem_cons_self fuel _ (by omega)]
    rfl
  | cons w ws ih =>
    intro fuel rest hfuel
    obtain ⟨fuel, rfl⟩ : ∃ f, fuel = f + 1 := ⟨fuel - 1, by omega⟩
    have hfirst : itemTokens true (v :: w :: ws) =
        tokens v ++ .comma :: itemTokens true (w :: ws) := by
      rw [itemTokens, itemTokens_false_cons]
      rfl
    rw [hfirst] at hfuel ⊢
    simp only [List.length_append, List.length_cons] at hfuel
    -- the value and the comma took more fuel than the one step spent on them
    have hrest := ih w (fun u hu => h u (List.mem_cons_of_mem v hu)) fuel rest (by omega)
    rw [items, List.append_assoc, h v List.mem_cons_self fuel _ (by omega)]
    simp only [List.cons_append, Option.bind_eq_bind, Option.bind_some, hrest]
    rfl

/-- One or more members are read up to the end of the object. -/
theorem members_tokens (m : Option (List Char) × Json) (ms : List (Option (List Char) × Json))
    (h : ∀ n ∈ m :: ms, Parses n.2) :
    ∀ fuel rest, 2 * (memberTokens true (m :: ms)).length + 1 ≤ fuel →
      members fuel (memberTokens true (m :: ms) ++ .closeObject :: rest) =
        some (m :: ms, rest) := by
  -- as for items, with a key and a colon before each value
  induction ms generalizing m with
  | nil =>
    intro fuel rest hfuel
    obtain ⟨fuel, rfl⟩ : ∃ f, fuel = f + 1 := ⟨fuel - 1, by omega⟩
    simp only [memberTokens, List.append_nil, if_true, List.nil_append, List.length_cons,
      List.cons_append] at hfuel ⊢
    rw [members, h m List.mem_cons_self fuel _ (by omega)]
    rfl
  | cons n ns ih =>
    intro fuel rest hfuel
    obtain ⟨fuel, rfl⟩ : ∃ f, fuel = f + 1 := ⟨fuel - 1, by omega⟩
    have hfirst : memberTokens true (m :: n :: ns) =
        .string m.1 :: .colon :: (tokens m.2 ++ .comma :: memberTokens true (n :: ns)) := by
      rw [memberTokens, memberTokens_false_cons]
      rfl
    rw [hfirst] at hfuel ⊢
    simp only [List.length_append, List.length_cons] at hfuel
    have hrest := ih n (fun u hu => h u (List.mem_cons_of_mem m hu)) fuel rest (by omega)
    rw [List.cons_append, List.cons_append, members, List.append_assoc,
      h m List.mem_cons_self fuel _ (by omega)]
    simp only [List.cons_append, Option.bind_eq_bind, Option.bind_some, hrest]
    rfl

theorem tokens_length_pos (v : Json) : 0 < (tokens v).length := by
  cases v <;> simp [tokens]

/-- No value starts with the end of an array. -/
theorem tokens_append_ne (v : Json) (ts us : List Token) :
    tokens v ++ ts ≠ .closeArray :: us := by
  cases v <;> simp [tokens]

/-- **The tokens of a value read as this value.** -/
theorem value_tokens (v : Json) : Parses v := by
  induction v using nested with
  | array vs ih =>
    intro fuel rest hfuel
    obtain ⟨fuel, rfl⟩ : ∃ f, fuel = f + 1 :=
      ⟨fuel - 1, by have := tokens_length_pos (.array vs); omega⟩
    cases vs with
    | nil => rfl
    | cons v vs =>
      -- an array that is not empty does not close at once, so its items are read
      have hopen : ∀ us, itemTokens true (v :: vs) ++ .closeArray :: rest ≠ .closeArray :: us := by
        intro us
        rw [itemTokens, List.append_assoc, List.append_assoc]
        exact tokens_append_ne v _ us
      simp only [tokens, List.length_cons, List.length_append, List.length_nil] at hfuel
      have hitems := items_tokens v vs ih fuel rest (by omega)
      rw [tokens, List.cons_append, List.append_assoc, List.singleton_append, value.eq_7 _ _ hopen,
        hitems]
      rfl
  | object ms ih =>
    intro fuel rest hfuel
    obtain ⟨fuel, rfl⟩ : ∃ f, fuel = f + 1 :=
      ⟨fuel - 1, by have := tokens_length_pos (.object ms); omega⟩
    cases ms with
    | nil => rfl
    | cons m ms =>
      have hopen : ∀ us,
          memberTokens true (m :: ms) ++ .closeObject :: rest ≠ .closeObject :: us := by
        intro us
        simp [memberTokens]
      simp only [tokens, List.length_cons, List.length_append, List.length_nil] at hfuel
      have hmembers := members_tokens m ms ih fuel rest (by omega)
      rw [tokens, List.cons_append, List.append_assoc, List.singleton_append, value.eq_9 _ _ hopen,
        hmembers]
      rfl
  | _ =>
    -- a value of one token takes one step
    intro fuel rest hfuel
    obtain ⟨fuel, rfl⟩ : ∃ f, fuel = f + 1 := ⟨fuel - 1, by simp [tokens] at hfuel; omega⟩
    rfl

/-- **A value is made up by its tokens.** -/
theorem ofTokens?_tokens (v : Json) : ofTokens? (tokens v) = some v := by
  have hread := value_tokens v (2 * (tokens v).length + 1) [] (by omega)
  rw [List.append_nil] at hread
  rw [ofTokens?, hread]

/-! ### Writing the tokens -/

/-- A value that can be written: its numbers are integers, and its strings and keys spell a
text. -/
inductive Sound : Json → Prop where
  | null : Sound .null
  | bool (b : Bool) : Sound (.bool b)
  | integer (i : Int) : Sound (.ofInt i)
  | string (s : List Char) : Sound (.string (some s))
  | array {vs : List Json} : (∀ v ∈ vs, Sound v) → Sound (.array vs)
  | object {ms : List (Option (List Char) × Json)} :
      (∀ m ∈ ms, m.1.isSome) → (∀ m ∈ ms, Sound m.2) → Sound (.object ms)

section Write

variable {pretty : Bool} {level : Nat} {s : List Char} {ts : List Token}

theorem blanks (h : Lexes ts s) :
    Lexes ts ((if pretty then '\n' :: List.replicate (2 * level) ' ' else []) ++ s) := by
  cases pretty with
  | false => exact h
  | true =>
    have hblanks : ∀ n, Lexes ts (List.replicate n ' ' ++ s) := by
      intro n
      induction n with
      | zero => exact h
      | succ n ih => exact ih.blank rfl
    exact (hblanks _).blank rfl

/-- What stands before an item is its comma, if any. -/
theorem lexes_lead (first : Bool) (h : Lexes ts s) :
    Lexes ((if first then [] else [.comma]) ++ ts) (lead pretty level first ++ s) := by
  rw [lead, List.append_assoc]
  cases first with
  | true => exact blanks h
  | false => exact (blanks h).cons (u := []) rfl fun _ => rfl

theorem ends_comma : Token.Ends (lead pretty level false ++ s) := Token.ends_cons (by decide)

/-- Items or members between their brackets. -/
theorem lexes_brackets {c d : Char} {t u : Token} (hc : Token.isBlank c = false)
    (hopen : ∀ rest, Token.next? ([c] ++ rest) = some (t, rest)) (hd : d ∈ [']', '\x7d'])
    (hclose : ∀ rest, Token.next? ([d] ++ rest) = some (u, rest)) (h : Lexes ts s) :
    Lexes (t :: (ts ++ [u])) (c :: s ++ lead pretty level true ++ [d]) := by
  have hstop : Token.isBlank d = false ∧ d ∈ [',', ':', ']', '\x7d', '\n', ' '] := by
    simp only [List.mem_cons, List.not_mem_nil, or_false] at hd
    rcases hd with rfl | rfl <;> exact ⟨rfl, by decide⟩
  -- the last item is ended by the line break or by the bracket
  have hends : ∀ rest, Token.Ends rest → Token.Ends (lead pretty level true ++ [d] ++ rest) := by
    intro rest _
    cases pretty with
    | false => exact Token.ends_cons hstop.2
    | true => exact Token.ends_cons (by decide)
  have hend : Lexes [u] (lead pretty level true ++ [d]) :=
    lexes_lead true (Lexes.nil.cons (u := []) hstop.1 hclose)
  have hbody := (h.append hend hends).cons (u := []) hc hopen
  rw [List.append_assoc]
  exact hbody

end Write

/-- The written form of `v` is cut into the tokens of `v`. -/
def Written (v : Json) : Prop := ∀ pretty level, Lexes (tokens v) (write pretty level v)

theorem lexes_items {vs : List Json} (h : ∀ v ∈ vs, Written v) (pretty : Bool) (level : Nat)
    (first : Bool) : Lexes (itemTokens first vs) (writeItems pretty level first vs) := by
  induction vs generalizing first with
  | nil => exact Lexes.nil
  | cons v vs ih =>
    have hrest := ih (fun w hw => h w (List.mem_cons_of_mem v hw)) false
    -- a number is ended by the comma or by what follows all items
    have hends : ∀ rest, Token.Ends rest →
        Token.Ends (writeItems pretty level false vs ++ rest) := by
      intro rest hends
      cases vs with
      | nil => exact hends
      | cons w ws =>
        rw [writeItems, List.append_assoc, List.append_assoc]
        exact ends_comma
    rw [writeItems, List.append_assoc]
    exact lexes_lead first ((h v List.mem_cons_self pretty level).append hrest hends)

theorem lexes_members {ms : List (Option (List Char) × Json)} (hkeys : ∀ m ∈ ms, m.1.isSome)
    (h : ∀ m ∈ ms, Written m.2) (pretty : Bool) (level : Nat) (first : Bool) :
    Lexes (memberTokens first ms) (writeMembers pretty level first ms) := by
  induction ms generalizing first with
  | nil => exact Lexes.nil
  | cons m ms ih =>
    obtain ⟨key, v⟩ := m
    obtain ⟨k, rfl⟩ := Option.isSome_iff_exists.mp (hkeys _ List.mem_cons_self)
    have hrest := ih (fun n hn => hkeys n (List.mem_cons_of_mem _ hn))
      (fun n hn => h n (List.mem_cons_of_mem _ hn)) false
    -- a number is ended by the comma or by what follows all members
    have hends : ∀ rest, Token.Ends rest →
        Token.Ends (writeMembers pretty level false ms ++ rest) := by
      intro rest hends
      cases ms with
      | nil => exact hends
      | cons n ns =>
        simp only [writeMembers, List.append_assoc]
        exact ends_comma
    have hvalue := (h _ List.mem_cons_self pretty level).append hrest hends
    -- the blank behind the colon is cut off with it
    have hcolon : Lexes (.colon :: (tokens v ++ memberTokens false ms))
        ((if pretty then [':', ' '] else [':']) ++
          (write pretty level v ++ writeMembers pretty level false ms)) := by
      cases pretty with
      | false => exact hvalue.cons (u := []) rfl fun _ => rfl
      | true => exact (hvalue.blank rfl).cons (u := []) rfl fun _ => rfl
    simp only [writeMembers, List.append_assoc]
    exact lexes_lead first (hcolon.quoted k)

/-- **A sound value is written as its tokens.** -/
theorem Sound.lexes {v : Json} (h : v.Sound) : Written v := by
  induction h with
  | null => exact fun _ _ => Lexes.nil.cons (u := "ull".toList) rfl fun _ => rfl
  | bool b =>
    intro pretty level
    cases b with
    | false => exact Lexes.nil.cons (u := "alse".toList) rfl fun _ => rfl
    | true => exact Lexes.nil.cons (u := "rue".toList) rfl fun _ => rfl
  | integer i => exact fun _ _ => Lexes.integer i
  | string s =>
    intro pretty level
    have hquoted := Lexes.nil.quoted s
    rwa [List.append_nil] at hquoted
  -- empty brackets are written without a line break, so they are a case of their own
  | @array vs _ ih =>
    intro pretty level
    cases vs with
    | nil =>
      have hclose : Lexes [.closeArray] [']'] := Lexes.nil.cons (u := []) rfl fun _ => rfl
      exact hclose.cons (u := []) rfl fun _ => rfl
    | cons v vs =>
      have hitems := lexes_items ih pretty (level + 1) true
      rw [write, tokens]
      exact lexes_brackets rfl (fun _ => rfl) (by decide) (fun _ => rfl) hitems
  | @object ms hkeys _ ih =>
    intro pretty level
    cases ms with
    | nil =>
      have hclose : Lexes [.closeObject] ['\x7d'] := Lexes.nil.cons (u := []) rfl fun _ => rfl
      exact hclose.cons (u := []) rfl fun _ => rfl
    | cons m ms =>
      have hmembers := lexes_members hkeys ih pretty (level + 1) true
      rw [write, tokens]
      exact lexes_brackets rfl (fun _ => rfl) (by decide) (fun _ => rfl) hmembers

/-! ### Whole documents -/

theorem Sound.read?_write {v : Json} (h : v.Sound) (pretty : Bool) :
    read? (String.ofList (write pretty 0 v)) = some v := by
  have htokens : Token.ofText? (write pretty 0 v) = some (tokens v) := (h.lexes pretty 0).ofText?
  rw [read?, String.toList_ofList, htokens, Option.bind_some, ofTokens?_tokens]

/-- **A document on one line is read back.** -/
theorem Sound.read?_compact {v : Json} (h : v.Sound) : read? v.compact = some v :=
  h.read?_write false

/-- **A document on many lines is read back.** -/
theorem Sound.read?_pretty {v : Json} (h : v.Sound) : read? v.pretty = some v :=
  h.read?_write true

end FanControl.Json
