import MeshLight.Command
import MeshLight.Command.ParseError
import MeshLight.Gesture
import MeshLight.Payload
import MeshLight.Store.StorageError
import MeshLight.Text.Quoted

/-!
What the node writes to its log. A record says what happened; its severity and its wording are
functions of that.
-/

namespace MeshLight

inductive Severity where
  | error
  | warn
  | info
  | debug
  deriving DecidableEq, Repr

inductive LogRecord where
  | dutyRejected
  | fading (group : Group) (target : Level) (durationMs : UInt32)
  | sweeping (group : Group) (start stop : Level) (durationMs : UInt32)
  | staleRecord (version : UInt8)
  | restored (external button : Level)
  | loadFailed (error : StorageError)
  | saveFailed (group : Group) (source : Source) (error : StorageError)
  | statusLost (sensor : UInt8) (on : Bool)
  | presenting (nodeId : UInt8)
  | sketchLost
  | presentationLost (sensor : UInt8)
  | unexpectedSensor (sensor : UInt8)
  | unexpectedType (sensor type : UInt8)
  | lightReceived (sensor : UInt8) (on : Bool)
  | textReceived (sensor : UInt8) (text : String)
  | commandInput (text : String)
  | commandParsed (command : Command)
  | commandRejected (text : String) (error : ParseError)
  | pinUnreadable
  | gestureSeen (gesture : Gesture)
  deriving DecidableEq, Repr

namespace LogRecord

def severity : LogRecord → Severity
  | dutyRejected | loadFailed _ | saveFailed .. | statusLost .. | sketchLost
  | presentationLost _ | unexpectedSensor _ | unexpectedType .. | commandRejected ..
  | pinUnreadable => .error
  | staleRecord _ => .warn
  | fading .. | sweeping .. | restored .. | presenting _ => .info
  | lightReceived .. | textReceived .. | commandInput _ | commandParsed _ | gestureSeen _ => .debug

def colorText (level : Level) : String :=
  "R=" ++ Hex.numeral level.red.toNat ++ ", G=" ++ Hex.numeral level.green.toNat ++
    ", B=" ++ Hex.numeral level.blue.toNat

def whiteText (level : Level) : String :=
  "W=" ++ Hex.numeral level.white.toNat

/-- All components in decimal, between braces. -/
def levelText (level : Level) : String :=
  "\x7bR=" ++ Nat.repr level.red.toNat ++ ", G=" ++ Nat.repr level.green.toNat ++
    ", B=" ++ Nat.repr level.blue.toNat ++ ", W=" ++ Nat.repr level.white.toNat ++ "\x7d"

def timeText (durationMs : UInt32) : String :=
  ", time=" ++ Nat.repr durationMs.toNat ++ "ms"

def flagText (flag : Bool) : String :=
  if flag then "true" else "false"

def commandText : Command → String
  | .limit source level =>
      "SetLimit \x7b source: " ++ source.name ++ ", level: " ++ levelText level ++ " \x7d"
  | .play transition =>
      "Transition(Transition \x7b start: " ++ levelText transition.start ++ ", stop: " ++
        levelText transition.stop ++ ", duration_ms: " ++ Nat.repr transition.durationMs.toNat ++
        ", looping: " ++ flagText transition.looping ++ " \x7d)"

def text : LogRecord → String
  | dutyRejected => "PWM duty write failed: Other"
  | fading .color target durationMs =>
      "LEDs are fading to " ++ colorText target ++ timeText durationMs
  | fading .white target durationMs =>
      "LED is fading to " ++ whiteText target ++ timeText durationMs
  | sweeping .color start stop durationMs =>
      "LEDs are fading " ++ colorText start ++ " => " ++ colorText stop ++ timeText durationMs
  | sweeping .white start stop durationMs =>
      "LED is fading " ++ whiteText start ++ " => " ++ whiteText stop ++ timeText durationMs
  | staleRecord version =>
      "Old data format (version " ++ Nat.repr version.toNat ++
        ") or uninitialized memory. Reset to default values"
  | restored external button =>
      "Restored values: external=" ++ levelText external ++ ", button=" ++ levelText button
  | loadFailed error => "Failed to load stored levels: " ++ error.message
  | saveFailed group source error =>
      "Failed to persist " ++ group.name ++ " level for " ++ source.name ++ ": " ++ error.message
  | statusLost sensor on =>
      "Status message (sensor=" ++ Nat.repr sensor.toNat ++ ", on=" ++ flagText on ++
        ") didn't reach a next node"
  | presenting nodeId => "Presenting node " ++ Nat.repr nodeId.toNat ++ " to the gateway"
  | sketchLost => "Sketch info didn't reach a next node"
  | presentationLost sensor =>
      "Presentation of sensor " ++ Nat.repr sensor.toNat ++ " didn't reach a next node"
  | unexpectedSensor sensor => "Got message for unexpected sensor " ++ Nat.repr sensor.toNat
  | unexpectedType sensor type =>
      "Got message with unexpected type: (sensor=" ++ Nat.repr sensor.toNat ++
        ", type=" ++ Nat.repr type.toNat ++ ")"
  | lightReceived sensor on =>
      "=> Message: sensor=" ++ Nat.repr sensor.toNat ++ ", status=" ++ flagText on
  | textReceived sensor text =>
      "=> Message: sensor=" ++ Nat.repr sensor.toNat ++ ", data=" ++ text
  | commandInput text => "Input: " ++ text
  | commandParsed command => "Parsed: " ++ commandText command
  | commandRejected text error =>
      "Rejected payload " ++ Quoted.quote text ++ ": " ++ error.message
  | pinUnreadable => "Button pin read failed: Other"
  | gestureSeen gesture => "Button event: " ++ gesture.name

end LogRecord

end MeshLight
