/-
  `Json` — JSON values, read from and written to text.

  Reading is strict: one value and nothing after it. Numbers keep their spelling
  and objects their members in order, repeated keys included, so that whoever
  asks for a value decides what to accept.

  Values may be nested to any depth. A reader that recurses has to stop at some
  depth, 128 for instance, but no document of settings takes it there: the values
  that it uses are four levels deep at most, and skipping a value takes no
  recursion.
-/
import FanControl.Json.Token

namespace FanControl

/-- A JSON value. -/
inductive Json where
  | null
  | bool (b : Bool)
  /-- A number as it is written. -/
  | number (literal : List Char)
  /-- A string; none if it spells no text. -/
  | string (text : Option (List Char))
  | array (items : List Json)
  | object (members : List (Option (List Char) × Json))
deriving Repr

namespace Json

/-! ### Reading -/

mutual

/-- A value at the start of the tokens, and the rest. -/
def value : (fuel : Nat) → List Token → Option (Json × List Token)
  | 0, _ => none
  | _ + 1, .null :: ts => some (.null, ts)
  | _ + 1, .bool b :: ts => some (.bool b, ts)
  | _ + 1, .number l :: ts => some (.number l, ts)
  | _ + 1, .string s :: ts => some (.string s, ts)
  | _ + 1, .openArray :: .closeArray :: ts => some (.array [], ts)
  | fuel + 1, .openArray :: ts => do
    let (items, ts) ← items fuel ts
    return (.array items, ts)
  | _ + 1, .openObject :: .closeObject :: ts => some (.object [], ts)
  | fuel + 1, .openObject :: ts => do
    let (members, ts) ← members fuel ts
    return (.object members, ts)
  | _ + 1, _ => none

/-- One or more values between commas, up to the end of the array. -/
def items : (fuel : Nat) → List Token → Option (List Json × List Token)
  | 0, _ => none
  | fuel + 1, ts => do
    let (v, ts) ← value fuel ts
    match ts with
    | .closeArray :: ts => return ([v], ts)
    | .comma :: ts =>
      let (vs, ts) ← items fuel ts
      return (v :: vs, ts)
    | _ => none

/-- One or more members between commas, up to the end of the object. -/
def members : (fuel : Nat) → List Token →
    Option (List (Option (List Char) × Json) × List Token)
  | fuel + 1, .string key :: .colon :: ts => do
    let (v, ts) ← value fuel ts
    match ts with
    | .closeObject :: ts => return ([(key, v)], ts)
    | .comma :: ts =>
      let (ms, ts) ← members fuel ts
      return ((key, v) :: ms, ts)
    | _ => none
  | _, _ => none

end

/-- The value that the tokens make up, all of them. Each nested call leaves fewer tokens, except
that a value and the list it starts share their first token. -/
def ofTokens? (ts : List Token) : Option Json :=
  match value (2 * ts.length + 1) ts with
  | some (v, []) => some v
  | _ => none

/-- The value in a text. -/
def read? (s : String) : Option Json := (Token.ofText? s.toList).bind ofTokens?

/-! ### Making values -/

/-- A string. -/
def ofText (s : String) : Json := .string (some s.toList)

/-- An integer. -/
def ofInt (i : Int) : Json := .number (Text.Decimal.signed i)

/-- An object with these members. -/
def ofMembers (ms : List (String × Json)) : Json :=
  .object (ms.map fun (k, v) => (some k.toList, v))

/-! ### Looking into values -/

/-- The natural number below `bound` that a value is, written plainly: no sign, no point, no
exponent. -/
def nat? (bound : Nat) : Json → Option Nat
  | .number l => Text.Decimal.readNat? bound l
  | _ => none

/-- The text that a value is. -/
def text? : Json → Option String
  | .string s => s.map String.ofList
  | _ => none

/-- The name of a choice: a string, or an object with that one key and the value null. -/
def choice? : Json → Option String
  | .string s => s.map String.ofList
  | .object [(key, .null)] => key.map String.ofList
  | _ => none

/-! ### Writing -/

/-- What stands before an item or a member: a comma unless it is the first and, if there is one
item a line, a line feed and two blanks for each level. -/
def lead (pretty : Bool) (level : Nat) (first : Bool) : List Char :=
  (if first then [] else [',']) ++
    (if pretty then '\n' :: List.replicate (2 * level) ' ' else [])

mutual

/-- A value, on one line and without blanks, or with one item or member a line. -/
def write (pretty : Bool) (level : Nat) : Json → List Char
  | .null => "null".toList
  | .bool true => "true".toList
  | .bool false => "false".toList
  | .number l => l
  | .string s => Quoted.encode (s.getD [])
  | .array [] => ['[', ']']
  | .array (v :: vs) =>
    '[' :: writeItems pretty (level + 1) true (v :: vs) ++ lead pretty level true ++ [']']
  | .object [] => ['\x7b', '\x7d']
  | .object (m :: ms) =>
    '\x7b' :: writeMembers pretty (level + 1) true (m :: ms) ++ lead pretty level true ++ ['\x7d']

/-- Values with commas between them. -/
def writeItems (pretty : Bool) (level : Nat) (first : Bool) : List Json → List Char
  | [] => []
  | v :: vs =>
    lead pretty level first ++ write pretty level v ++ writeItems pretty level false vs

/-- Members with commas between them. -/
def writeMembers (pretty : Bool) (level : Nat) (first : Bool) :
    List (Option (List Char) × Json) → List Char
  | [] => []
  | (k, v) :: ms =>
    lead pretty level first ++ Quoted.encode (k.getD []) ++ (if pretty then [':', ' '] else [':'])
      ++ write pretty level v ++ writeMembers pretty level false ms

end

/-- A value on one line, without blanks. -/
def compact (v : Json) : String := String.ofList (write false 0 v)

/-- A value with one item or member a line. -/
def pretty (v : Json) : String := String.ofList (write true 0 v)

end Json

end FanControl
