/-
  `Args` — the command line of `fanctl`.

  Two options with a value may stand before and after the name of the
  subcommand; the one after it wins. An option takes the next argument as its
  value, or the text after an equals sign, and may be given once at either place;
  its value must not be empty. After a double dash every argument is an operand.
  An argument that starts with a dash is an option, except where a frequency is
  expected and no option has that name. Arguments are taken from left to right,
  and the first fault ends the reading; a value that an option has received is
  checked when the next option or operand arrives, or at the end.
-/
import FanControl.Error

namespace FanControl.ClientProgram

/-! ### Vocabulary -/

/-- A subcommand. -/
inductive Subcommand where
  | freq
  | mode
  | status
deriving DecidableEq, Repr

namespace Subcommand

/-- The name of a subcommand. -/
def name : Subcommand → String
  | .freq => "freq"
  | .mode => "mode"
  | .status => "status"

/-- The subcommand of a name. -/
def ofName? (s : String) : Option Subcommand :=
  [freq, mode, status].find? (·.name = s)

/-- Whether a subcommand needs an operand. -/
def takesOperand : Subcommand → Bool
  | .status => false
  | _ => true

end Subcommand

/-- Why no work is done. -/
inductive Usage where
  | help
  | version (program : String)
  /-- Neither an option nor a subcommand is given. -/
  | nothingGiven
  | missingSubcommand
  | missingOperand
  | unknownSubcommand
  | unknownArgument
  | badValue
  | valueNotExpected
  | givenTwice
deriving DecidableEq, Repr

/-- Whether the arguments were at fault. -/
def Usage.isFault : Usage → Bool
  | .help | .version _ => false
  | _ => true

/-- What is to be done. -/
inductive Task where
  | freq (value : String)
  | mode (value : String)
  | status (json : Bool)
deriving DecidableEq, Repr

/-- A command line that can be carried out. -/
structure Invocation where
  fifo : Option String
  config : Option String
  task : Task
deriving DecidableEq, Repr

/-- An option with a value. -/
inductive Param where
  | fifo
  | config
deriving DecidableEq, Repr

/-- An option. -/
inductive Flag where
  | param (p : Param)
  | json
  | help
  | version
deriving DecidableEq, Repr

/-- Where the reading is: before the name of the subcommand, or after it. -/
inductive Place where
  | top
  | inside (sub : Subcommand)
deriving DecidableEq, Repr

/-- The program, with the subcommand if there is one. -/
def Place.program : Place → String
  | .top => "fanctl"
  | .inside sub => "fanctl-" ++ sub.name

/-- The option with a long name. -/
def Place.longFlag? (place : Place) (name : String) : Option Flag :=
  if name = "fifo" then some (.param .fifo)
  else if name = "config" then some (.param .config)
  else if name = "help" then some .help
  else if name = "version" then some .version
  else if name = "json" ∧ place = .inside .status then some .json
  else none

/-- The option with a short name. -/
def shortFlag? : Char → Option Flag
  | 'h' => some .help
  | 'V' => some .version
  | _ => none

/-! ### State -/

/-- What was read so far at one place. -/
structure Scan where
  fifo : Option String
  config : Option String
  /-- The last option with a value, and its value if it has arrived; not yet checked. -/
  pending : Option (Param × Option String)
  json : Bool
  operand : Option String
  /-- A double dash was seen. -/
  operandsOnly : Bool
deriving DecidableEq, Repr

namespace Scan

/-- Nothing read yet. -/
def initial : Scan := ⟨none, none, none, false, none, false⟩

/-- Whether an option still lacks its value. -/
def awaitsValue (s : Scan) : Bool :=
  match s.pending with
  | some (_, none) => true
  | _ => false

/-- The value of an option so far. -/
def param (s : Scan) : Param → Option String
  | .fifo => s.fifo
  | .config => s.config

/-- Gives an option its value. -/
def setParam (s : Scan) (p : Param) (v : String) : Except Usage Scan :=
  if (s.param p).isSome then .error .givenTwice
  else if v = "" then .error .badValue
  else
    match p with
    | .fifo => .ok { s with fifo := some v }
    | .config => .ok { s with config := some v }

/-- Checks the last option with a value. -/
def settle (s : Scan) : Except Usage Scan :=
  match s.pending with
  | none => .ok s
  | some (_, none) => .error .badValue
  | some (p, some v) => { s with pending := none }.setParam p v

/-! ### One argument -/

/-- An option, with the text after its equals sign. -/
def takeFlag (s : Scan) (place : Place) (flag : Flag) (attached : Option String) :
    Except Usage Scan :=
  match flag, attached with
  | .param p, none => do
    let s ← s.settle
    return { s with pending := some (p, none) }
  | .param p, some v => do
    let s ← s.settle
    s.setParam p v
  | _, some _ => .error .valueNotExpected
  | .help, none => do
    let _ ← s.settle
    .error .help
  | .version, none => do
    let _ ← s.settle
    .error (.version place.program)
  | .json, none => do
    let s ← s.settle
    if s.json then .error .givenTwice else .ok { s with json := true }

/-- An operand. Before the name of the subcommand there is none. -/
def takeOperand (s : Scan) (place : Place) (arg : String) : Except Usage Scan :=
  match place with
  | .top =>
    if s.operandsOnly && ((Subcommand.ofName? arg).isSome || arg == "help") then
      .error .unknownArgument
    else .error .unknownSubcommand
  | .inside sub =>
    if sub.takesOperand && s.operand.isNone then do
      let s ← s.settle
      return { s with operand := some arg }
    else .error .unknownArgument

/-- An argument that is no option: the value of an option, or an operand. -/
def takePlain (s : Scan) (place : Place) (arg : String) : Except Usage Scan :=
  match s.pending with
  | some (p, none) => .ok { s with pending := some (p, some arg) }
  | _ => s.takeOperand place arg

/-- Whether an argument with a dash in front may be a value. -/
def allowsDash (s : Scan) (place : Place) : Bool :=
  place == .inside .freq && s.operand.isNone

/-- An argument that starts with two dashes, without these. -/
def takeLong (s : Scan) (place : Place) (arg : String) (body : List Char) : Except Usage Scan :=
  let name := String.ofList (body.takeWhile (· ≠ '='))
  let attached := match body.dropWhile (· ≠ '=') with
    | [] => none
    | _ :: v => some (String.ofList v)
  match place.longFlag? name with
  | some flag => s.takeFlag place flag attached
  | none => if s.allowsDash place then s.takePlain place arg else .error .unknownArgument

/-- An argument that starts with one dash, without this. -/
def takeShort (s : Scan) (place : Place) (arg : String) (first : Char) (more : List Char) :
    Except Usage Scan :=
  if s.allowsDash place && (first :: more).any (fun c => (shortFlag? c).isNone) then
    s.takePlain place arg
  else
    match shortFlag? first with
    | some flag => s.takeFlag place flag none
    | none => .error .unknownArgument

/-- The next argument. -/
def take (s : Scan) (place : Place) (arg : String) : Except Usage Scan :=
  if s.operandsOnly then s.takeOperand place arg
  else
    match arg.toList with
    | ['-', '-'] => .ok { s with operandsOnly := true }
    | '-' :: '-' :: body => s.takeLong place arg body
    | '-' :: c :: cs => s.takeShort place arg c cs
    | _ => s.takePlain place arg

/-! ### All arguments -/

/-- All arguments inside a subcommand. -/
def takeAll (s : Scan) (place : Place) : List String → Except Usage Scan
  | [] => s.settle
  | arg :: rest => do
    let s ← s.take place arg
    s.takeAll place rest

/-- What asking for help on some subcommands gives. -/
def helpOn : List String → Usage
  | [] => .help
  | [name] =>
    if (Subcommand.ofName? name).isSome || name == "help" then .help else .unknownSubcommand
  | _ => .unknownSubcommand

/-- The arguments up to the name of a subcommand, and those after it. -/
def untilSubcommand (s : Scan) :
    List String → Except Usage (Scan × Option (Subcommand × List String))
  | [] => .ok (s, none)
  | arg :: rest =>
    let named := if s.operandsOnly || s.awaitsValue then none else Subcommand.ofName? arg
    match named with
    | some sub => .ok (s, some (sub, rest))
    | none =>
      if arg = "help" && !s.operandsOnly && !s.awaitsValue then .error (helpOn rest)
      else do
        let s ← s.take .top arg
        s.untilSubcommand rest

end Scan

/-! ### Result -/

/-- The task that was read inside a subcommand. -/
def Scan.task (s : Scan) : Subcommand → Except Usage Task
  | .status => .ok (.status s.json)
  | .freq =>
    match s.operand with
    | some v => .ok (.freq v)
    | none => .error .missingOperand
  | .mode =>
    match s.operand with
    | some v => .ok (.mode v)
    | none => .error .missingOperand

/-- Reads a command line, without the name of the program. -/
def Invocation.parse (args : List String) : Except Usage Invocation := do
  let (outer, rest) ← Scan.initial.untilSubcommand args
  match rest with
  | none =>
    let outer ← outer.settle
    if outer.fifo.isNone && outer.config.isNone then .error .nothingGiven
    else .error .missingSubcommand
  | some (sub, rest) =>
    -- the faults inside the subcommand are found before the last option outside is checked
    let inner ← Scan.initial.takeAll (.inside sub) rest
    let task ← inner.task sub
    let outer ← outer.settle
    return { fifo := inner.fifo.or outer.fifo, config := inner.config.or outer.config, task }

end FanControl.ClientProgram
