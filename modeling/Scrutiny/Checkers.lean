import Scrutiny.Cron.Check
import Scrutiny.Recurrence.Check
import Scrutiny.Settings

/-!
The checkers of schedules that a context has unless others are brought. Each looks at what is its
own and leaves the rest to a library: whether a recurrence rule can be read, and whether a cron
expression has its common fields in order. The libraries are parameters.
-/

set_option autoImplicit false

namespace Scrutiny

/-- The checkers of both notations, whatever recurrence rules are read with and common fields are
checked with. -/
def checkersWith (read : Recurrence.Reading) (takesCommon : List (List Char) → Bool)
    (ys : Cron.Years) : Checkers
  | .recurrence, t => Recurrence.checkWith read t.toList
  | .cron, t => .ok (Cron.checkWith takesCommon ys t.toList)

structure Libraries where
  read : Recurrence.Reading
  takesCommon : List (List Char) → Bool

def Libraries.checkers (l : Libraries) (settings : Settings) : Checkers :=
  checkersWith l.read l.takesCommon ⟨settings.firstYear, settings.lastYear⟩

end Scrutiny
