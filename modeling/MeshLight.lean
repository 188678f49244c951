import MeshLight.Bench.Clock
import MeshLight.Bench.Outlet
import MeshLight.Proofs.Button.Gestures
import MeshLight.Proofs.Command.Refusals
import MeshLight.Proofs.Engine.Alternating
import MeshLight.Proofs.Engine.Polling
import MeshLight.Proofs.Engine.Twins
import MeshLight.Proofs.Event.Attempts
import MeshLight.Proofs.Fader.Approach
import MeshLight.Proofs.Fader.Output
import MeshLight.Proofs.Fader.Pace
import MeshLight.Proofs.Lamp.Deeds
import MeshLight.Proofs.Lamp.Dispatches
import MeshLight.Proofs.Lamp.Forgetting
import MeshLight.Proofs.Lamp.Isolation
import MeshLight.Proofs.Lamp.Recall
import MeshLight.Proofs.Lamp.Settling
import MeshLight.Proofs.Lamp.Twins
import MeshLight.Proofs.Log.Failures
import MeshLight.Proofs.Log.Lamp
import MeshLight.Proofs.Log.Station
import MeshLight.Proofs.Node.Draining
import MeshLight.Proofs.Press.Actions
import MeshLight.Proofs.Station.Failures
import MeshLight.Proofs.Station.Scenes
import MeshLight.Proofs.Station.Toggling
import MeshLight.Proofs.Store.Remembering
import MeshLight.Station
