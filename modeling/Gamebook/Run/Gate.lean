/-!
Whether a story may be rendered after its check.

A line that is printed already is not printed again among the warnings. Only warnings stand in the
way of rendering; unreachable blocks do not.
-/

namespace Gamebook.Run

/-- What the check of a story found, as it is printed. -/
structure Gate where
  warnings : List String
  orphans : List String
  mayRender : Bool
deriving DecidableEq, Repr

namespace Gate

def ofFindings (lint : Bool) (warnings orphans : List String) : Gate where
  warnings := warnings.eraseDups
  orphans := orphans
  mayRender := !lint && warnings.isEmpty

def lines (gate : Gate) : List String := gate.warnings ++ gate.orphans

end Gate

end Gamebook.Run
