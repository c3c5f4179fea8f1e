import Chiaki.Wire

/-! The state of a running session: the fields of `ChiakiSession` guarded by `state_mutex`,
the mutex itself, the position of the session thread in `session_thread_func` and the trace
of everything the threads did under the mutex. -/

namespace Chiaki.Session

inductive AddressFamily
  | inet | inet6 | other
  deriving DecidableEq, Repr

/-- One entry of `host_addrinfos`; `addr` tells the candidates apart. -/
structure AddrInfo where
  family : AddressFamily
  addr : Nat
  deriving DecidableEq, Repr

/-- The part of `ChiakiConnectInfo` the session thread reads. -/
structure ConnectInfo where
  ps5 : Bool
  registKey : List UInt8
  registKey_length : registKey.length = 16
  hostAddrinfos : List AddrInfo

/-- What a session is run with: the application-reason constants of the build and the
connect info copied by `chiaki_session_init`. -/
structure Setup where
  reasons : ApplicationReasons
  connectInfo : ConnectInfo

/-- The three calls of `session_thread_request_session` in `session_thread_func`: the first
two pass `&server_target` as `target_out`, the third passes `NULL`. -/
inductive Site
  | first | second | third
  deriving DecidableEq, Repr

/-- Program points of `session_thread_request_session`. -/
inductive ReqPc
  | loop (ais : List AddrInfo)
  | nameInfo (ai : AddrInfo) (rest : List AddrInfo)
  | socket (ai : AddrInfo) (rest : List AddrInfo)
  | connect (ai : AddrInfo) (rest : List AddrInfo) (sock : Nat)
  | formatHex (sock : Nat)
  | send (sock : Nat) (req : SessionRequest)
  | recv (sock : Nat) (rpVersionStr : String)
  | parse (sock : Nat) (rpVersionStr : String)
  | decode (sock : Nat) (nonce : String)
  deriving DecidableEq, Repr

/-- The condition waits of `session_thread_func`. -/
inductive WaitSite
  | settle
  | ctrlStartup
  | pin
  | pinResume
  deriving DecidableEq, Repr

/-- Program points of `session_thread_func`. -/
inductive Pc
  | entry
  | req (s : Site) (r : ReqPc)
  | reqReturn (s : Site) (err : ErrorCode)
  | ctrlStart
  | wait (w : WaitSite)
  | pinRequest
  | senkushaInit
  | senkushaRun
  | randomBytes
  | ecdhInit
  | streamRun
  | quitCtrl
  | quit
  | done
  deriving DecidableEq, Repr

/-- A PIN buffer allocated by `chiaki_session_set_login_pin`; `addr` is its address. -/
structure PinBuf where
  addr : Nat
  bytes : List UInt8
  deriving DecidableEq, Repr

inductive CtrlFlag
  | failed | sessionIdReceived | loginPinRequested
  deriving DecidableEq, Repr

inductive Callee
  | getnameinfo | connect | recv | ctrlStart | senkushaInit | senkushaRun | randomBytesCrypt
  | ecdhInit | streamConnectionRun | ctrlStop | ctrlJoin
  deriving DecidableEq, Repr

/-- An entry of the trace: what a thread did. -/
inductive Act
  | call (f : Callee)
  | socketOpen (sock : Nat)
  | socketClose (sock : Nat)
  | sent (req : SessionRequest)
  | event (e : Event)
  | ctrlSetLoginPin (pin : Option PinBuf) (size : Nat)
  | stop
  | setLoginPin (pin : PinBuf)
  | ctrlFlag (f : CtrlFlag)
  deriving DecidableEq, Repr

/-- Misuses of `state_mutex`: locking it while holding it (it is not recursive), unlocking
it while not holding it, and waiting on `state_cond` without holding it. -/
inductive MutexFault
  | relock | unlockUnheld | waitUnheld
  deriving DecidableEq, Repr

/-- A configuration of the session: the fields of `ChiakiSession` guarded by `state_mutex`,
whether the session thread holds the mutex, the session thread's program point and locals,
and ghost state: the trace (latest entry first), a counter for fresh addresses, the misuses
of the mutex and whether an `assert` failed. -/
structure Config where
  target : Target
  shouldStop : Bool
  ctrlFailed : Bool
  ctrlSessionIdReceived : Bool
  ctrlLoginPinRequested : Bool
  loginPinEntered : Bool
  loginPin : Option PinBuf
  loginPinSize : Nat
  nonce : List UInt8
  quitReason : QuitReason
  quitReasonStr : Option String
  hostname : String
  hostAddrinfoSelected : Option AddrInfo
  mtuIn : Nat
  mtuOut : Nat
  rttUs : Nat
  locked : Bool
  pc : Pc
  serverTarget : Target
  pinIncorrect : Bool
  log : List Act
  fresh : Nat
  mutexFaults : List MutexFault
  assertFailed : Bool
  deriving DecidableEq

/-- The session as `chiaki_session_init` leaves it. -/
def Config.init (st : Setup) : Config where
  target := if st.connectInfo.ps5 then .ps5_1 else .ps4_10
  shouldStop := false
  ctrlFailed := false
  ctrlSessionIdReceived := false
  ctrlLoginPinRequested := false
  loginPinEntered := false
  loginPin := none
  loginPinSize := 0
  nonce := List.replicate rpcryptKeySize 0
  quitReason := .none
  quitReasonStr := none
  hostname := ""
  hostAddrinfoSelected := none
  mtuIn := 0
  mtuOut := 0
  rttUs := 0
  locked := false
  pc := .entry
  serverTarget := .ps4Unknown
  pinIncorrect := false
  log := []
  fresh := 0
  mutexFaults := []
  assertFailed := false

namespace Config

variable (c : Config)

def record (a : Act) : Config := { c with log := a :: c.log }

def goto (p : Pc) : Config := { c with pc := p }

/-- `chiaki_mutex_lock(&session->state_mutex)`. -/
def lock : Config :=
  { c with
    locked := true
    mutexFaults := if c.locked then .relock :: c.mutexFaults else c.mutexFaults }

/-- `chiaki_mutex_unlock(&session->state_mutex)`. -/
def unlock : Config :=
  { c with
    locked := false
    mutexFaults := if c.locked then c.mutexFaults else .unlockUnheld :: c.mutexFaults }

/-- Entering `chiaki_cond_timedwait_pred`, which releases `state_mutex` while it waits. -/
def waitOn (w : WaitSite) : Config :=
  { c with
    locked := false
    pc := .wait w
    mutexFaults := if c.locked then c.mutexFaults else .waitUnheld :: c.mutexFaults }

/-- The `QUIT(label)` macro. -/
def quitTo (p : Pc) : Config := c.unlock.goto p

/-- `session_check_state_pred`. -/
def checkStatePred : Bool := c.shouldStop || c.ctrlFailed

/-- `session_check_state_pred_ctrl_start`. -/
def checkStatePredCtrlStart : Bool :=
  c.shouldStop || c.ctrlFailed || c.ctrlSessionIdReceived || c.ctrlLoginPinRequested

/-- `session_check_state_pred_pin`. -/
def checkStatePredPin : Bool := c.shouldStop || c.ctrlFailed || c.loginPinEntered

@[simp] theorem record_locked (a : Act) : (c.record a).locked = c.locked := rfl
@[simp] theorem record_pc (a : Act) : (c.record a).pc = c.pc := rfl
@[simp] theorem record_mutexFaults (a : Act) : (c.record a).mutexFaults = c.mutexFaults := rfl
@[simp] theorem record_log (a : Act) : (c.record a).log = a :: c.log := rfl
@[simp] theorem goto_pc (p : Pc) : (c.goto p).pc = p := rfl
@[simp] theorem goto_locked (p : Pc) : (c.goto p).locked = c.locked := rfl
@[simp] theorem goto_log (p : Pc) : (c.goto p).log = c.log := rfl
@[simp] theorem goto_mutexFaults (p : Pc) : (c.goto p).mutexFaults = c.mutexFaults := rfl
@[simp] theorem lock_locked : c.lock.locked = true := rfl
@[simp] theorem lock_pc : c.lock.pc = c.pc := rfl
@[simp] theorem lock_log : c.lock.log = c.log := rfl
@[simp] theorem unlock_locked : c.unlock.locked = false := rfl
@[simp] theorem unlock_pc : c.unlock.pc = c.pc := rfl
@[simp] theorem unlock_log : c.unlock.log = c.log := rfl
@[simp] theorem waitOn_locked (w : WaitSite) : (c.waitOn w).locked = false := rfl
@[simp] theorem waitOn_pc (w : WaitSite) : (c.waitOn w).pc = .wait w := rfl
@[simp] theorem waitOn_log (w : WaitSite) : (c.waitOn w).log = c.log := rfl

theorem lock_mutexFaults (h : c.locked = false) : c.lock.mutexFaults = c.mutexFaults := by
  simp [lock, h]

theorem unlock_mutexFaults (h : c.locked = true) : c.unlock.mutexFaults = c.mutexFaults := by
  simp [unlock, h]

theorem waitOn_mutexFaults (w : WaitSite) (h : c.locked = true) :
    (c.waitOn w).mutexFaults = c.mutexFaults := by
  simp [waitOn, h]

end Config

/-- The predicate each wait is called with. -/
def WaitSite.pred : WaitSite → Config → Bool
  | .settle, c => c.checkStatePred
  | .ctrlStartup, c | .pinResume, c => c.checkStatePredCtrlStart
  | .pin, c => c.checkStatePredPin

def uint64Max : Nat := Nat.pow 2 64 - 1

/-- The timeout each wait is called with, in milliseconds. -/
def WaitSite.timeoutMs : WaitSite → Nat
  | .settle => 10
  | .ctrlStartup | .pinResume => 5000
  | .pin => uint64Max

/-- A wait returns once its predicate holds, or at any time once its timeout may have run
out; a timeout of `UINT64_MAX` milliseconds never runs out. -/
def WaitSite.mayReturn (w : WaitSite) (c : Config) : Bool :=
  w.pred c || decide (w.timeoutMs < uint64Max)

theorem WaitSite.mayReturn_pin (c : Config) : WaitSite.mayReturn .pin c = c.checkStatePredPin := by
  simp [mayReturn, pred, timeoutMs]

end Chiaki.Session
