/-
  `DaemonProgram` — the daemon program: reads its arguments and its settings, runs the
  event loop until a signal arrives, and gives back what it took.

  Where the log goes, which levels of it are shown and the records that mark the
  stages of the start are left out.
-/
import FanControl.Daemon
import FanControl.Settings.Document
import FanControl.Signal
import FanControl.Version

namespace FanControl.DaemonProgram

/-! ### Arguments -/

/-- What the arguments ask for. -/
inductive Request where
  | help
  | version
  | missingPath
  | unknown (arg : String)
  /-- Run, with the settings file that is named. -/
  | start (config : Option String)
deriving DecidableEq, Repr

/-- Reads the arguments from left to right; the first one that is no option that takes part in
running decides. -/
def request (config : Option String) : List String → Request
  | [] => .start config
  | arg :: rest =>
    if arg = "-h" ∨ arg = "--help" then .help
    else if arg = "-v" ∨ arg = "--version" then .version
    else if arg = "-f" ∨ arg = "--foreground" then request config rest
    else if arg = "-c" ∨ arg = "--config" then
      match rest with
      | [] => .missingPath
      | path :: rest => request (some path) rest
    else .unknown arg

/-- The lines of the help text. -/
def helpLines : List String :=
  ["fanmgrd " ++ version ++ " - fan manager daemon",
    "",
    "USAGE:",
    "    fanmgrd [OPTIONS]",
    "",
    "OPTIONS:",
    "    -f, --foreground    Run in foreground (always on)",
    "    -c, --config PATH   Settings file (default /etc/fanmgr/fanmgrd.json)",
    "    -v, --version       Print version",
    "    -h, --help          Print this help",
    "",
    "ENVIRONMENT:",
    "    FANMGR_LOG          Log level (trace, debug, info, warn, error)",
    "    FANMGR_CONFIG       Settings file when --config is not given"]

/-- The help text. -/
def help : String := String.join (helpLines.map (· ++ "\n"))

/-! ### Running -/

/-- How the program ended. -/
structure Ending where
  exitCode : Nat
  stdout : String
  stderr : String
  /-- What was reported on the way. -/
  log : List LogEntry
deriving DecidableEq, Repr

/-- An ending before any work. -/
def Ending.plain (exitCode : Nat) (stdout stderr : String) : Ending :=
  ⟨exitCode, stdout, stderr, []⟩

/-- An ending because of an error. -/
def Ending.failed (log : List LogEntry) (e : Error) : Ending :=
  ⟨1, "", "", log ++ [.daemonFailed e]⟩

/-- Loads the settings, puts the daemon together, runs it until the signal that has been sent, and
gives everything back. -/
def serve (file : String) (h : Host) : Ending × Host :=
  match Settings.load file h.tree with
  | .error e => (.failed [] e, h)
  | .ok s =>
    match Daemon.build s h with
    | (.error e, log, h) => (.failed log e, h)
    | (.ok d, log, _) =>
      let d := d.run (fun _ => true) 0
      let (entries, h) := d.close
      (⟨0, "", "", log ++ d.loop.console.log ++ entries⟩, h)

/-- Runs the program. -/
def run (args : List String) (environment : Option String) (h : Host) : Ending × Host :=
  match request none args with
  | .help => (.plain 0 "" help, h)
  | .version => (.plain 0 ("fanmgrd " ++ version ++ "\n") "", h)
  | .missingPath => (.plain 1 "" "Error: --config requires a path argument\n", h)
  | .unknown arg => (.plain 1 "" ("Unknown argument: " ++ arg ++ "\n" ++ help), h)
  | .start config => serve (Settings.file config environment) h

end FanControl.DaemonProgram
