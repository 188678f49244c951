import MeshLight.Command.Parser
import MeshLight.Event

/-!
Reading a command with a note in the log.
-/

namespace MeshLight.Command

/-- Reads a command for a group. The text is logged, and so is the command that it holds or the reason
why it is refused. -/
def read (group : Group) (text : String) : Traced Event (Option Command) := do
  Traced.emit (.log (.commandInput text))
  match parse group text with
  | .ok command =>
      Traced.emit (.log (.commandParsed command))
      return some command
  | .error error =>
      Traced.emit (.log (.commandRejected text error))
      return none

end MeshLight.Command
