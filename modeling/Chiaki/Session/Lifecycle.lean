import Mathlib.Logic.Relation
import Chiaki.Session.Handshake

/-! The life cycle of a session as an abstract state machine, which the system refines, and the
handshake calls made at each point of the main line. -/

namespace Chiaki.Session

open Relation

variable {st : Setup} {c c' : Config} {o : Outcome} {i : Input}

end Chiaki.Session
