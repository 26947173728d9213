import Hydration.Command.Perform
import Hydration.Filter.Run

/-!
# The commands of the program

The program performs its commands with `Filter.interpret`. Everything else takes the
interpreter of filters as it is given.
-/

namespace Hydration.Command

/-- What a command of the program leaves behind. -/
def run (command : Command) (workspace : Workspace) (stdin : String) : Report :=
  command.perform Filter.interpret workspace stdin

end Hydration.Command
