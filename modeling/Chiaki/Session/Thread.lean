import Chiaki.Session.Request

/-! `session_thread_func` as steps between its program points, the critical sections of the
other threads (`chiaki_session_stop`, `chiaki_session_set_login_pin` and the control channel
setting its flags), and the runs of the whole system. -/

namespace Chiaki.Session

variable (st : Setup)

namespace Config

variable (c : Config)

def startRequest (s : Site) : Config := c.goto (.req s (.loop st.connectInfo.hostAddrinfos))

/-- The `CHECK_STOP(label)` macro, then `k`. -/
def checkStop (label : Pc) (k : Config → Config) : Config :=
  if c.shouldStop then { c with quitReason := .stopped }.quitTo label else k c

/-- Lines 354–372: `state_mutex` is taken, `CHECK_STOP(quit)`, then the first request. -/
def entryStep : Config :=
  c.lock.checkStop .quit fun c => { c with serverTarget := .ps4Unknown }.startRequest st .first

/-- Lines 374–400: what follows the return of the call at site `s`. A request that
succeeded leads to `chiaki_rpcrypt_init_auth` and the settling wait. -/
def afterRequest (s : Site) (err : ErrorCode) : Config :=
  let retry (next : Site) := { c with target := c.serverTarget }.startRequest st next
  match s with
  | .first =>
    if err = .versionMismatch ∧ c.serverTarget.isUnknown = false then retry .second
    else if err ≠ .success then c.quitTo .quit else c.waitOn .settle
  | .second =>
    if err = .versionMismatch ∧ c.serverTarget.isUnknown = false then retry .third
    else if err ≠ .success then c.quitTo .quit else c.waitOn .settle
  | .third => if err ≠ .success then c.quitTo .quit else c.waitOn .settle

theorem afterRequest_cases (s : Site) (err : ErrorCode) :
    (∃ next, err = .versionMismatch ∧ c.serverTarget.isUnknown = false ∧
        (s = .first ∧ next = .second ∨ s = .second ∧ next = .third) ∧
        c.afterRequest st s err = { c with target := c.serverTarget }.startRequest st next) ∨
      (err ≠ .success ∧
        ¬(err = .versionMismatch ∧ s ≠ .third ∧ c.serverTarget.isUnknown = false) ∧
        c.afterRequest st s err = c.quitTo .quit) ∨
      (err = .success ∧ c.afterRequest st s err = c.waitOn .settle) := by
  cases s <;> simp only [afterRequest] <;> repeat' split
  all_goals simp_all

/-- Lines 404–408: `chiaki_ctrl_start`, then the wait for the control channel. -/
def ctrlStartStep (e : ErrorCode) : Config :=
  let c := c.record (.call .ctrlStart)
  if e ≠ .success then c.quitTo .quit else c.waitOn .ctrlStartup

/-- The label `ctrl_failed` (lines 455–459). -/
def ctrlFailedExit : Config :=
  { c with quitReason := if c.quitReason = QuitReason.none then .ctrlUnknown else c.quitReason }
    |>.quitTo .quitCtrl

/-- The head of the PIN loop (line 418) and, once the loop is over, the check of line 452. -/
def pinLoopHead : Config :=
  if c.ctrlLoginPinRequested then { c with ctrlLoginPinRequested := false }.goto .pinRequest
  else if c.ctrlSessionIdReceived then c.goto .senkushaInit
  else c.ctrlFailedExit

/-- Lines 425–431: the `LOGIN_PIN_REQUEST` event, then the wait for the PIN. -/
def pinRequestStep : Config :=
  { c.record (.event (.loginPinRequest c.pinIncorrect)) with pinIncorrect := true }.waitOn .pin

/-- Lines 439–448: the `assert`, the entered PIN goes to the control channel, the slot is
emptied, then the wait for the session id. -/
def forwardPin : Config :=
  let c := if c.loginPinEntered && c.loginPin.isSome then c else { c with assertFailed := true }
  { c.record (.ctrlSetLoginPin c.loginPin c.loginPinSize) with
      loginPinEntered := false, loginPin := none, loginPinSize := 0 }.waitOn .pinResume

@[simp] theorem forwardPin_pc : c.forwardPin.pc = .wait .pinResume := by
  simp only [forwardPin]; split <;> rfl

@[simp] theorem forwardPin_log :
    c.forwardPin.log = .ctrlSetLoginPin c.loginPin c.loginPinSize :: c.log := by
  simp only [forwardPin]; split <;> rfl

@[simp] theorem forwardPin_pinIncorrect : c.forwardPin.pinIncorrect = c.pinIncorrect := by
  simp only [forwardPin]; split <;> rfl

/-- A wait returns with `state_mutex` taken back, and the code after it runs. -/
def waitReturn : WaitSite → Config
  | .settle => c.lock.goto .ctrlStart
  | .ctrlStartup => c.lock.checkStop .quitCtrl fun c =>
    if c.ctrlFailed then c.ctrlFailedExit else { c with pinIncorrect := false }.pinLoopHead
  | .pin => c.lock.checkStop .quitCtrl fun c =>
    if c.ctrlFailed then c.ctrlFailedExit else c.forwardPin
  | .pinResume => c.lock.checkStop .quitCtrl pinLoopHead

/-- Lines 466–468: `chiaki_senkusha_init`. -/
def senkushaInitStep (e : ErrorCode) : Config :=
  let c := c.record (.call .senkushaInit)
  if e ≠ .success then c.quitTo .quitCtrl else c.goto .senkushaRun

/-- Lines 470–483: `chiaki_senkusha_run` writes the probe results; a failure other than a
cancellation falls back to fixed values. -/
def senkushaRunStep (e : ErrorCode) (mtuIn mtuOut rttUs : Nat) : Config :=
  let c := { c.record (.call .senkushaRun) with mtuIn, mtuOut, rttUs }
  if e = .success then c.goto .randomBytes
  else if e = .canceled then c.quitTo .quitCtrl
  else { c with mtuIn := 1454, mtuOut := 1454, rttUs := 1000 }.goto .randomBytes

/-- Lines 486–491: `chiaki_random_bytes_crypt` for the handshake key. -/
def randomBytesStep (e : ErrorCode) : Config :=
  let c := c.record (.call .randomBytesCrypt)
  if e ≠ .success then c.quitTo .quitCtrl else c.goto .ecdhInit

/-- Lines 493–500: `chiaki_ecdh_init`, then `state_mutex` is released for the stream. -/
def ecdhInitStep (e : ErrorCode) : Config :=
  let c := c.record (.call .ecdhInit)
  if e ≠ .success then c.quitTo .quitCtrl else c.unlock.goto .streamRun

/-- Lines 502–521: the stream connection returned; its result becomes the quit reason. -/
def streamRunStep (e : ErrorCode) (reasonStr : Option String) : Config :=
  let c := (c.record (.call .streamConnectionRun)).lock
  let c :=
    if e = .disconnected then
      { c with quitReason := .streamConnectionRemoteDisconnected, quitReasonStr := reasonStr }
    else if e ≠ .success ∧ e ≠ .canceled then
      { c with quitReason := .streamConnectionUnknown }
    else { c with quitReason := .stopped }
  c.unlock.goto .quitCtrl

/-- The label `quit_ctrl` (lines 523–525). -/
def quitCtrlStep : Config :=
  ((c.record (.call .ctrlStop)).record (.call .ctrlJoin)).goto .quit

/-- The label `quit` (lines 529–536): the `QUIT` event, then the thread returns. -/
def quitStep : Config :=
  (c.record (.event (.quit c.quitReason c.quitReasonStr))).goto .done

/-- `chiaki_session_stop` (lines 266–279). -/
def sessionStop : Config := { c with shouldStop := true }.record .stop

/-- `chiaki_session_set_login_pin` after `malloc` returned a buffer (lines 303–313). -/
def sessionSetLoginPin (pin : List UInt8) : Config :=
  let buf : PinBuf := ⟨c.fresh, pin⟩
  { c with
      loginPinEntered := true, loginPin := some buf, loginPinSize := pin.length,
      fresh := c.fresh + 1 }.record (.setLoginPin buf)

/-- The control channel sets one of its flags. -/
def ctrlSetFlag : CtrlFlag → Config
  | .failed => { c with ctrlFailed := true }.record (.ctrlFlag .failed)
  | .sessionIdReceived =>
    { c with ctrlSessionIdReceived := true }.record (.ctrlFlag .sessionIdReceived)
  | .loginPinRequested =>
    { c with ctrlLoginPinRequested := true }.record (.ctrlFlag .loginPinRequested)

end Config

/-- `session_thread_func`: one step of the session thread, when `o` is an outcome of the
collaborator called at its program point. A wait returns only when `WaitSite.mayReturn`
allows it. -/
def sessionThreadFunc (c : Config) (o : Outcome) : Option Config :=
  match c.pc with
  | .entry => o.noCall?.map fun _ => c.entryStep st
  | .req s r => sessionThreadRequestSession st c s r o
  | .reqReturn s e => o.noCall?.map fun _ => c.afterRequest st s e
  | .ctrlStart => o.code?.map c.ctrlStartStep
  | .wait w => if w.mayReturn c then o.noCall?.map fun _ => c.waitReturn w else none
  | .pinRequest => o.noCall?.map fun _ => c.pinRequestStep
  | .senkushaInit => o.code?.map c.senkushaInitStep
  | .senkushaRun => o.probe?.map fun (e, i, o, r) => c.senkushaRunStep e i o r
  | .randomBytes => o.code?.map c.randomBytesStep
  | .ecdhInit => o.code?.map c.ecdhInitStep
  | .streamRun => o.stream?.map fun (e, s) => c.streamRunStep e s
  | .quitCtrl => o.noCall?.map fun _ => c.quitCtrlStep
  | .quit => o.noCall?.map fun _ => c.quitStep
  | .done => none

/-- What can happen next: a step of the session thread, or a critical section of another
thread. -/
inductive Input
  | session (o : Outcome)
  | stop
  | setLoginPin (pin : List UInt8) (mallocOk : Bool)
  | ctrl (f : CtrlFlag)
  deriving DecidableEq, Repr

/-- One step of the system. The other threads run their critical sections whole, so they
can only run while the session thread does not hold `state_mutex`; a `set_login_pin` whose
`malloc` fails returns before it takes the mutex and changes nothing. -/
def step (c : Config) : Input → Option Config
  | .session o => sessionThreadFunc st c o
  | .stop => if c.locked then none else some c.sessionStop
  | .setLoginPin pin mallocOk =>
    if !mallocOk then some c else if c.locked then none else some (c.sessionSetLoginPin pin)
  | .ctrl f => if c.locked then none else some (c.ctrlSetFlag f)

/-- The configurations reachable from a freshly initialized session. -/
inductive Reachable : Config → Prop
  | init : Reachable (Config.init st)
  | step {c c' : Config} {i : Input} : Reachable c → step st c i = some c' → Reachable c'

def run : Config → List Input → Option Config
  | c, [] => some c
  | c, i :: is => (step st c i).bind (run · is)

theorem Reachable.run {c c' : Config} {is : List Input} (hc : Reachable st c)
    (h : run st c is = some c') : Reachable st c' := by
  induction is generalizing c with
  | nil => cases h; exact hc
  | cons i is ih =>
    simp only [Session.run, Option.bind_eq_some] at h
    obtain ⟨c₁, h₁, h₂⟩ := h
    exact ih (hc.step h₁) h₂

/-! ### Runs of an example session -/

/-- Application-reason values for the example runs: the spec's `RP_VERSION = 0x80`,
`UNKNOWN = 0x100` and `IN_USE = 0x87`, and three other values for the constants the spec does
not give. -/
def exampleReasons : ApplicationReasons := ⟨0x81, 0x82, 0x87, 0x83, 0x80, 0x100, by decide⟩

/-- A PS4 session with the regist key `abcd` and the given address candidates. -/
def exampleSetup (hosts : List AddrInfo) : Setup :=
  ⟨exampleReasons,
    ⟨false, [0x61, 0x62, 0x63, 0x64] ++ List.replicate 12 0, by decide, hosts⟩⟩

def connectAttempt (e : ErrorCode) : List Input :=
  [.session (.posix true), .session (.name (some "192.168.1.2")), .session (.posix true),
    .session (.code e)]

def exchange (response : HttpResponse) : List Input :=
  [.session (.code .success), .session (.posix true), .session (.code .success),
    .session (.http (some response))]

def accepted : List Input :=
  exchange ⟨200, [⟨"RP-Nonce", "AAAAAAAAAAAAAAAAAAAAAA=="⟩]⟩ ++
    [.session (.base64 (some (List.replicate 16 0)))]

def ctrlStarted (e : ErrorCode) : List Input :=
  [.session .noCall] ++ connectAttempt .success ++ accepted ++
    [.session .noCall, .session .noCall, .session (.code e)]

/-- The example session with the candidates `hosts` after the inputs `is` (the initial session
if one of them is not enabled). -/
def exampleRun (hosts : List AddrInfo) (is : List Input) : Config :=
  (run (exampleSetup hosts) (Config.init (exampleSetup hosts)) is).getD
    (Config.init (exampleSetup hosts))

theorem reachable_exampleRun {hosts : List AddrInfo} {is : List Input}
    (h : (run (exampleSetup hosts) (Config.init (exampleSetup hosts)) is).isSome = true) :
    Reachable (exampleSetup hosts) (exampleRun hosts is) := by
  obtain ⟨c, hc⟩ := Option.isSome_iff_exists.1 h
  rw [exampleRun, hc]
  exact Reachable.run _ .init hc

end Chiaki.Session
