import Chiaki.Basic
import Mathlib.Data.List.Count

/-! `chiaki_session_init` and `chiaki_session_fini` as the acquisitions and releases of the
session's resources, with the `goto` unwinding of `init` label by label. -/

namespace Chiaki.Init

/-- The resources a session acquires in `chiaki_session_init`. -/
inductive Component
  | stateCond | stateMutex | stopPipe | ctrl | streamConnection | hostAddrinfos
  deriving DecidableEq, Repr

/-- An initializer that succeeded, or a finalizer call. -/
inductive ResourceAct
  | init (c : Component)
  | fini (c : Component)
  deriving DecidableEq, Repr

/-- What the initializers called by `chiaki_session_init` return; `getaddrinfo` is whether
`getaddrinfo` returned `0`. -/
structure InitOutcomes where
  condInit : ErrorCode
  mutexInit : ErrorCode
  stopPipeInit : ErrorCode
  ctrlInit : ErrorCode
  streamConnectionInit : ErrorCode
  getaddrinfo : Bool
  deriving DecidableEq, Repr

/-- The unwinding labels at the end of `chiaki_session_init`. -/
inductive Label
  | errorStopPipe | errorCtrl | errorStateMutex | errorStateCond | error
  deriving DecidableEq, Repr

open Component ResourceAct

/-- The statements under the unwinding labels, in source order. -/
def unwindCode : List (Label × Option ResourceAct) :=
  [(.errorStopPipe, some (fini stopPipe)), (.errorCtrl, some (fini ctrl)),
    (.errorStateMutex, some (fini stateMutex)), (.errorStateCond, some (fini stateCond)),
    (.error, none)]

/-- The finalizers a `goto` to a label runs: its own and those of every label below it. -/
def unwind (l : Label) : List ResourceAct :=
  (unwindCode.dropWhile (·.1 ≠ l)).filterMap (·.2)

/-- `chiaki_session_fini`; the two `free`s of owned strings release no component. -/
def sessionFini : List ResourceAct :=
  [fini streamConnection, fini ctrl, fini stopPipe, fini stateCond, fini stateMutex,
    fini hostAddrinfos]

/-- `chiaki_session_init`: the error it returns and the acquisitions and releases it makes. -/
def sessionInit (o : InitOutcomes) : ErrorCode × List ResourceAct :=
  if o.condInit ≠ .success then (o.condInit, unwind .error) else
  if o.mutexInit ≠ .success then (o.mutexInit, [init stateCond] ++ unwind .errorStateCond) else
  if o.stopPipeInit ≠ .success then
    (o.stopPipeInit, [init stateCond, init stateMutex] ++ unwind .errorStateMutex) else
  if o.ctrlInit ≠ .success then
    (o.ctrlInit, [init stateCond, init stateMutex, init stopPipe] ++ unwind .errorStopPipe) else
  if o.streamConnectionInit ≠ .success then
    (o.streamConnectionInit,
      [init stateCond, init stateMutex, init stopPipe, init ctrl] ++ unwind .errorCtrl) else
  if !o.getaddrinfo then
    (.parseAddr, [init stateCond, init stateMutex, init stopPipe, init ctrl,
      init streamConnection] ++ sessionFini) else
  (.success, [init stateCond, init stateMutex, init stopPipe, init ctrl, init streamConnection,
    init hostAddrinfos])

/-- A failing `chiaki_ctrl_init` makes `init` finalize the control channel it never
initialized, and a failing `chiaki_stream_connection_init` makes it leave the stop pipe
initialized: the labels `error_stop_pipe` and `error_ctrl` are in the wrong order. -/
theorem sessionInit_unwinding_mismatch :
    let ctrlFails : InitOutcomes := ⟨.success, .success, .success, .memory, .success, true⟩
    let streamFails : InitOutcomes := ⟨.success, .success, .success, .success, .memory, true⟩
    (sessionInit ctrlFails).2.count (init ctrl) = 0 ∧
      (sessionInit ctrlFails).2.count (fini ctrl) = 1 ∧
      (sessionInit streamFails).2.count (init stopPipe) = 1 ∧
      (sessionInit streamFails).2.count (fini stopPipe) = 0 := by
  decide

end Chiaki.Init
