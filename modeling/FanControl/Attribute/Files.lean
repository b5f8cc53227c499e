/-
  `Files` — the attributes as files, one value on the first line of each.

  Nothing is cached, and no file is ever created: a write replaces the content of
  a file that exists.
-/
import FanControl.Attribute
import FanControl.Host

namespace FanControl

/-- Where the attributes are. -/
structure AttributePaths where
  mode : String
  temperature : String
  frequency : String
deriving DecidableEq, Repr

namespace AttributePaths

/-- Where the kernel puts them. -/
def standard : AttributePaths :=
  ⟨"/sys/devices/platform/csel/mode", "/sys/devices/platform/csel/temp",
    "/sys/devices/platform/csel/blink_freq"⟩

/-- The path of an attribute. -/
def path (p : AttributePaths) : Attribute → String
  | .mode => p.mode
  | .temperature => p.temperature
  | .frequency => p.frequency

/-- The value in the text of a file: its first line without trailing white space. -/
def valueOf (content : String) : String :=
  String.ofList (Text.trimEnd (Text.firstLine content.toList))

/-- Reads an attribute. -/
def read (p : AttributePaths) (attr : Attribute) : Action Host String := do
  let content ← Host.inspect (·.readText (p.path attr)) (.attributeRead (p.path attr))
  return valueOf content

/-- Writes an attribute. -/
def write (p : AttributePaths) (attr : Attribute) (value : String) : Action Host Unit :=
  if attr.isWritable then
    Host.edit (·.replace (p.path attr) (bytesOfText (value ++ "\n")))
      (.attributeWrite (p.path attr))
  else .fail (.readOnlyAttribute attr.name)

/-- The store over the files. -/
def store (p : AttributePaths) : AttributeStore Host := ⟨p.read, p.write⟩

end AttributePaths

end FanControl
