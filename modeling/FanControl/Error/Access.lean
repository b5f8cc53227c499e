/-
  `Access` — why a file, a pipe or a descriptor could not be used.
-/
import FanControl.Error.Errno

namespace FanControl

/-- Why an access failed: the system refused it, or its result is of no use. -/
inductive AccessFault where
  /-- The system reported a failure number. -/
  | system (errno : Errno)
  /-- A file read as text is not UTF-8. -/
  | notUtf8
  /-- A path holds the character U+0000. -/
  | nulInPath
  /-- A pipe took only the first part of a line. -/
  | shortWrite
deriving DecidableEq, Repr

/-- The fault in words. -/
def AccessFault.message : AccessFault → String
  | .system e => e.message
  | .notUtf8 => "stream did not contain valid UTF-8"
  | .nulInPath => "file name contained an unexpected NUL byte"
  | .shortWrite => "short write on command pipe"

end FanControl
