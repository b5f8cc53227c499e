/-
  `ClientProgram` — the client program: sends a command to the daemon, or shows the
  state.
-/
import FanControl.Attribute.Files
import FanControl.Client
import FanControl.ClientProgram.Args
import FanControl.Settings.Document
import FanControl.Version

namespace FanControl.ClientProgram

/-- An error, and what was going on when it occurred. -/
structure Failure where
  context : Option String
  error : Error
deriving DecidableEq, Repr

/-- What was going on, the error and its cause, joined by colons. -/
def Failure.report (f : Failure) : String :=
  match f.context with
  | some c => c ++ ": " ++ f.error.report
  | none => f.error.report

/-- Names what is going on, in case it fails. -/
def during {α : Type} (context : Option String) (r : Except Error α) : Except Failure α :=
  r.mapError (⟨context, ·⟩)

/-- Carries a command line out: what it prints, or why it failed. -/
def Invocation.run (i : Invocation) (environment : Option String) (h : Host) :
    Except Failure String × Host :=
  let file := Settings.file i.config environment
  match during (some ("loading settings from " ++ file)) (Settings.load file h.tree) with
  | .error f => (.error f, h)
  | .ok s =>
    let pipe := i.fifo.getD s.pipe
    match i.task with
    | .freq value =>
      let check : Action Host Command := do
        let c ← Client.frequencyRequest value
        -- the daemon decides in the end; this only spares a useless request
        Client.requireManual s.attributes.store
        return c
      match check h with
      | (.error e, h) => (.error ⟨none, e⟩, h)
      | (.ok c, h) =>
        let (sent, h) := Client.send pipe c h
        (during (some ("sending frequency " ++ value)) (sent.map fun _ => ""), h)
    | .mode value =>
      match Client.modeRequest value with
      | .error e => (.error ⟨none, e⟩, h)
      | .ok c =>
        let (sent, h) := Client.send pipe c h
        (during (some ("sending mode " ++ value)) (sent.map fun _ => ""), h)
    | .status json =>
      let (status, h) := Status.read s.attributes.store h
      (.ok ((if json then status.toJson.pretty else status.render) ++ "\n"), h)

/-- How the program ended. -/
structure Ending where
  exitCode : Nat
  stdout : String
  stderr : String
deriving DecidableEq, Repr

/-- The ending of a run. -/
def endingOf : Except Failure String → Ending
  | .ok out => ⟨0, out, ""⟩
  | .error f => ⟨1, "", "fanctl: " ++ f.report ++ "\n"⟩

/-- What is printed instead of doing work. -/
def Usage.text : Usage → String
  | .version program => program ++ " " ++ FanControl.version ++ "\n"
  | _ => "Usage: fanctl [--fifo PATH] [--config PATH] freq VALUE | mode VALUE | status [--json]\n"

/-- The ending if no work is done. -/
def Usage.ending (u : Usage) : Ending :=
  if u.isFault then ⟨2, "", u.text⟩ else ⟨0, u.text, ""⟩

/-- Runs the program. -/
def run (args : List String) (environment : Option String) (h : Host) :
    Except Usage Ending × Host :=
  match Invocation.parse args with
  | .error u => (.error u, h)
  | .ok i =>
    let (r, h) := i.run environment h
    (.ok (endingOf r), h)

end FanControl.ClientProgram
