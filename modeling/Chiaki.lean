import Chiaki.Basic
import Chiaki.Init
import Chiaki.Wire
import Chiaki.Session.State
import Chiaki.Session.Request
import Chiaki.Session.Thread
import Chiaki.Session.Steps
import Chiaki.Session.Pin
import Chiaki.Session.Events
import Chiaki.Session.Reasons
import Chiaki.Session.Retry
import Chiaki.Session.Frame
import Chiaki.Session.Target
import Chiaki.Session.Response
import Chiaki.Session.Sockets
import Chiaki.Session.Stop
import Chiaki.Session.Progress
import Chiaki.Session.PinRequests
import Chiaki.Session.Teardown
import Chiaki.Session.Handshake
import Chiaki.Session.Lifecycle
