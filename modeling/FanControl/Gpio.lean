/-
  `Gpio` — lines that are controlled through files below one directory.

  A line is exported by writing its number to `export`; it then has a directory
  of its own with the files `direction`, `edge` and `value`. None of these files
  is ever created here.
-/
import FanControl.Host

namespace FanControl

/-- The lines below a directory. -/
structure Gpio where
  base : String
deriving DecidableEq, Repr

namespace Gpio

/-- Replaces the content of one of the files of a line. -/
def put (pin : Pin) (path text : String) (fault : AccessFault → GpioFault) : Action Host Unit :=
  Host.edit (·.replace path (bytesOfText text)) fun f => .gpio pin (fault f)

variable (g : Gpio)

/-- The directory of an exported line. -/
def pinDir (pin : Pin) : String := Path.join g.base ("gpio" ++ pin.text)

/-- The file that holds the level of a line. -/
def valuePath (pin : Pin) : String := Path.join (g.pinDir pin) "value"

/-- Makes a line available. A line that is available already, or that the kernel reports as busy,
is no error. -/
def exportPin (pin : Pin) : Action Host Unit :=
  Host.noting (.exportPin pin) fun h =>
    if h.tree.contains (g.pinDir pin) then (.ok (), h)
    else
      match put pin (Path.join g.base "export") pin.text .exporting h with
      | (.error e, h) =>
        -- busy means that somebody has exported the line already
        if e = .gpio pin (.exporting (.system .busy)) then (.ok (), h) else (.error e, h)
      | r => r

/-- Gives a line back. -/
def unexportPin (pin : Pin) : Action Host Unit :=
  Host.noting (.unexportPin pin)
    (put pin (Path.join g.base "unexport") pin.text .unexporting)

/-- Makes a line an input or an output. -/
def setDirection (pin : Pin) (d : Direction) : Action Host Unit :=
  put pin (Path.join (g.pinDir pin) "direction") d.text (.direction d)

/-- Chooses the changes that are notified. -/
def setEdge (pin : Pin) (e : Edge) : Action Host Unit :=
  put pin (Path.join (g.pinDir pin) "edge") e.text (.edge e)

/-- Drives a line high or low. -/
def write (pin : Pin) (high : Bool) : Action Host Unit :=
  Host.noting (.drivePin pin high)
    (put pin (g.valuePath pin) (if high then "1" else "0") .writing)

/-- Whether a line is high. -/
def read (pin : Pin) : Action Host Bool := do
  let text ← Host.inspect (·.readText (g.valuePath pin)) fun f => .gpio pin (.reading f)
  return text.toList.head? == some '1'

/-- Opens the value of a line for reading it again and again. -/
def openValue (pin : Pin) : Action Host NodeId :=
  Host.inspect (·.openValue (g.valuePath pin)) fun f => .gpio pin (.opening f)

end Gpio

end FanControl
