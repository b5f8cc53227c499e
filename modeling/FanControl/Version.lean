/-
  `Version` — the version of the programs.
-/
namespace FanControl

/-- The version of the client and of the daemon. -/
def version : String := "0.1.0"

end FanControl
