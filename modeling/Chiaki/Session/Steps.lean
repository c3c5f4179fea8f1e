import Mathlib.Tactic.MkIffOfInductiveProp
import Chiaki.Session.Thread

/-! What one step of the system can do, said once in `StepSpec` and proved by one case
analysis over the code; the invariants of the other modules are derived from it, the lock
discipline first. -/

namespace Chiaki.Session

def ReqPc.holds : ReqPc → Bool
  | .connect .. | .recv .. => false
  | _ => true

/-- Whether the session thread holds `state_mutex` at a point of `session_thread_func`. -/
def Pc.holds : Pc → Bool
  | .entry | .wait _ | .streamRun | .quitCtrl | .quit | .done => false
  | .req _ r => r.holds
  | _ => true

/-- The mutex has never been misused, and the session thread holds it exactly where
`Pc.holds` says. -/
def LockInv (c : Config) : Prop :=
  c.mutexFaults = [] ∧ c.locked = c.pc.holds

def Pc.touchesPin : Pc → Bool
  | .pinRequest | .quit | .wait .pin => true
  | _ => false

theorem Pc.touchesPin_eq_true {p : Pc} :
    p.touchesPin = true ↔ p = .pinRequest ∨ p = .quit ∨ p = .wait .pin := by
  cases p <;> (try cases ‹WaitSite›) <;> simp [Pc.touchesPin]

def Pc.touchesEvents : Pc → Bool
  | .wait .ctrlStartup => true
  | p => p.touchesPin

theorem Pc.touchesEvents_eq_true {p : Pc} :
    p.touchesEvents = true ↔
      p = .wait .ctrlStartup ∨ p = .pinRequest ∨ p = .quit ∨ p = .wait .pin := by
  cases p <;> (try cases ‹WaitSite›) <;> simp [Pc.touchesEvents, Pc.touchesPin]

theorem Pc.touchesPin_eq_false {p : Pc} (h : p.touchesEvents = false) : p.touchesPin = false := by
  cases p <;> (try cases ‹WaitSite›) <;> simp_all [Pc.touchesEvents, Pc.touchesPin]

/-- The trace entries of the request phase and of the other collaborator calls. -/
def Act.isQuiet : Act → Bool
  | .call _ | .socketOpen _ | .socketClose _ | .sent _ => true
  | _ => false

inductive QuietExt : List Act → List Act → Prop
  | refl (l : List Act) : QuietExt l l
  | cons {a : Act} {l' l : List Act} : a.isQuiet = true → QuietExt l' l → QuietExt (a :: l') l

@[simp] theorem quietExt_refl (l : List Act) : QuietExt l l := .refl l

@[simp] theorem quietExt_cons {a : Act} {l' l : List Act} (ha : a.isQuiet = true)
    (h : QuietExt l' l) : QuietExt (a :: l') l :=
  .cons ha h

/-- Where the session thread is with respect to the PIN loop. -/
inductive Phase
  | setup | pinLoop | teardown | returned
  deriving DecidableEq, Repr

def Pc.phase : Pc → Phase
  | .pinRequest | .wait .pin | .wait .pinResume => .pinLoop
  | .senkushaInit | .senkushaRun | .randomBytes | .ecdhInit | .streamRun | .quitCtrl | .quit =>
    .teardown
  | .done => .returned
  | _ => .setup

theorem Pc.phase_eq_returned {p : Pc} : p.phase = .returned ↔ p = .done := by
  cases p <;> (try cases ‹WaitSite›) <;> simp [Pc.phase]

def KeepsSlot (c c' : Config) : Prop :=
  c'.shouldStop = c.shouldStop ∧ c'.ctrlFailed = c.ctrlFailed ∧
    c'.loginPinEntered = c.loginPinEntered ∧ c'.loginPin = c.loginPin ∧
    c'.loginPinSize = c.loginPinSize ∧ c'.assertFailed = c.assertFailed

def KeepsPin (c c' : Config) : Prop :=
  KeepsSlot c c' ∧ QuietExt c'.log c.log ∧ c'.pc ≠ .wait .pin

def KeepsEvents (c c' : Config) : Prop :=
  c'.pinIncorrect = c.pinIncorrect ∧ (c'.pc.phase = c.pc.phase ∨ c'.pc.phase = .teardown)

def Act.isSent : Act → Bool
  | .sent _ => true
  | _ => false

def Site.index : Site → Nat
  | .first => 0
  | .second => 1
  | .third => 2

/-- How many session requests can have been sent at a point: one for each call of
`session_thread_request_session` before the current one, and one for the current call once it
has sent its request. -/
def Pc.sentBound : Pc → Nat
  | .entry => 0
  | .req s (.recv ..) | .req s (.parse ..) | .req s (.decode ..) | .reqReturn s _ => s.index + 1
  | .req s _ => s.index
  | _ => 3

/-- At the return of a call of `session_thread_request_session` that failed, a quit reason is
set, unless the call reported a version mismatch with a known server target at a site that
tries again. -/
def ReturnReason (c : Config) : Prop :=
  ∀ s e, c.pc = .reqReturn s e → e ≠ .success →
    c.quitReason ≠ .none ∨
      (e = .versionMismatch ∧ s ≠ .third ∧ c.serverTarget.isUnknown = false)

/-- What one step of the session thread does, from a configuration that keeps the lock
table. -/
@[mk_iff] structure StepSpec (c c' : Config) : Prop where
  lockInv : LockInv c'
  keepsPin : c.pc.touchesPin = false → KeepsPin c c'
  keepsEvents : c.pc.touchesEvents = false → KeepsEvents c c'
  sent : c'.log.countP Act.isSent + c.pc.sentBound ≤ c.log.countP Act.isSent + c'.pc.sentBound
  returnReason : ReturnReason c'

variable {st : Setup} {c c' : Config} {o : Outcome}

theorem lockInv_init : LockInv (Config.init st) := ⟨rfl, rfl⟩

/-! ### The session thread

One case for each program point, then every branch of the code at that point. -/

theorem reportedMismatch_site {s : Site} {v server : String} {resp : SessionResponse}
    (h : Config.reportedMismatch st s v resp = some server) : s ≠ .third := by
  unfold Config.reportedMismatch at h
  split at h
  · split at h
    next hc => exact hc.2.1
    · cases h
  · cases h

theorem request_spec {s : Site} {r : ReqPc} (hpc : c.pc = .req s r) (hc : LockInv c)
    (h : sessionThreadRequestSession st c s r o = some c') :
    StepSpec c c' ∧ c'.pc.phase = .setup := by
  obtain ⟨hf, hl⟩ := hc
  rw [hpc] at hl
  suffices LockInv c' ∧ KeepsPin c c' ∧ c'.pinIncorrect = c.pinIncorrect ∧
      c'.pc.phase = .setup ∧ c'.log.countP Act.isSent + (Pc.req s r).sentBound ≤
        c.log.countP Act.isSent + c'.pc.sentBound ∧ ReturnReason c' by
    obtain ⟨h₁, h₂, h₃, h₄, h₅, h₆⟩ := this
    have hk : KeepsEvents c c' := ⟨h₃, .inl (by rw [h₄, hpc]; rfl)⟩
    exact ⟨⟨h₁, fun _ => h₂, fun _ => hk, hpc ▸ h₅, h₆⟩, h₄⟩
  cases r
  case' loop ais => cases ais
  all_goals
    simp only [sessionThreadRequestSession, Config.loopStep, Option.map_eq_some'] at h
    obtain ⟨_, -, rfl⟩ := h
    try simp only [Config.connectFailedEventually, Config.nameInfoStep, Config.socketStep,
      Config.connectStep, Config.formatHexStep, Config.sendStep, Config.recvStep,
      Config.parseStep, Config.decodeStep, Config.mismatchBranch, Config.reasonBranch]
    repeat' split
  all_goals (try have := reportedMismatch_site (by assumption))
  all_goals (try simp [*, LockInv, KeepsPin, KeepsSlot, KeepsEvents, ReturnReason, Config.lock,
    Config.unlock, Config.reqReturn, Config.goto, Config.record, Pc.holds, ReqPc.holds,
    Act.isQuiet, Pc.phase, Act.isSent, Pc.sentBound]) <;>
    first | omega | simp_all

theorem sessionThreadFunc_spec (hc : LockInv c) (h : sessionThreadFunc st c o = some c') :
    StepSpec c c' := by
  unfold sessionThreadFunc at h
  split at h
  case h_2 s r hpc => exact (request_spec hpc hc h).1
  all_goals
    obtain ⟨hf, hl⟩ := hc
    rename_i hpc
    rw [hpc] at hl
    rw [stepSpec_iff, hpc]
    (try split at h) <;>
      simp only [Option.map_eq_some', reduceCtorEq, false_and, exists_false] at h
  all_goals obtain ⟨_, -, rfl⟩ := h
  all_goals
    simp only [Config.entryStep, Config.afterRequest, Config.ctrlStartStep, Config.waitReturn,
      Config.pinRequestStep, Config.senkushaInitStep, Config.senkushaRunStep,
      Config.randomBytesStep, Config.ecdhInitStep, Config.streamRunStep, Config.quitCtrlStep,
      Config.quitStep, Config.checkStop, Config.ctrlFailedExit, Config.pinLoopHead,
      Config.forwardPin, Config.startRequest, Config.quitTo]
    repeat' split
  all_goals simp [*, LockInv, KeepsPin, KeepsSlot, KeepsEvents, Config.lock, Config.unlock,
    Config.waitOn, Config.goto, Config.record, Pc.holds, ReqPc.holds, Pc.touchesPin,
    Pc.touchesEvents, Act.isQuiet, Pc.phase, Act.isSent, Pc.sentBound, Site.index,
    ReturnReason]

theorem waitReturn_pin_cases :
    ((c.waitReturn .pin).pc = .quitCtrl ∧ (c.waitReturn .pin).log = c.log ∧
        KeepsSlot c (c.waitReturn .pin) ∧ (c.waitReturn .pin).pinIncorrect = c.pinIncorrect) ∨
      (c.shouldStop = false ∧ c.ctrlFailed = false ∧
        c.waitReturn .pin = c.lock.forwardPin) := by
  simp only [Config.waitReturn, Config.checkStop, Config.ctrlFailedExit, Config.quitTo]
  split
  · exact .inl (by simp [KeepsSlot, Config.lock, Config.unlock, Config.goto])
  split
  · exact .inl (by simp [KeepsSlot, Config.lock, Config.unlock, Config.goto])
  exact .inr (by simp_all [Config.lock])

/-! ### The other threads -/

theorem others_blocked (hl : c.locked = true) :
    step st c .stop = none ∧ (∀ pin, step st c (.setLoginPin pin true) = none) ∧
      ∀ f, step st c (.ctrl f) = none := by
  simp [step, hl]

theorem step_lockInv {i : Input} (hc : LockInv c) (h : step st c i = some c') : LockInv c' := by
  cases i with
  | session o => exact (sessionThreadFunc_spec hc h).lockInv
  | stop | setLoginPin | ctrl f =>
    simp only [step] at h
    repeat' split at h
    all_goals cases h
    all_goals first | exact hc | (try cases f) <;> exact hc

theorem reachable_lockInv (hc : Reachable st c) : LockInv c := by
  induction hc with
  | init => exact lockInv_init
  | step _ h ih => exact step_lockInv ih h

/-! ### The lock discipline -/

/-- Over every run and every outcome of the collaborators, the session thread never locks
`state_mutex` while holding it, never unlocks it while not holding it, and never waits on
`state_cond` without it: its locks and unlocks alternate, starting with the lock of line 354.
It holds the mutex at every return of `session_thread_request_session`, and does not hold it at
`chiaki_ctrl_stop` and `chiaki_ctrl_join` (`quit_ctrl`), at the `QUIT` event (`quit`) or once it
has returned. -/
theorem session_thread_lock_discipline (hc : Reachable st c) :
    c.mutexFaults = [] ∧ (∀ s e, c.pc = .reqReturn s e → c.locked = true) ∧
      (c.pc = .quitCtrl ∨ c.pc = .quit ∨ c.pc = .done → c.locked = false) := by
  obtain ⟨hf, hl⟩ := reachable_lockInv hc
  refine ⟨hf, fun s e hpc => by simp [hl, hpc, Pc.holds], ?_⟩
  rintro (hpc | hpc | hpc) <;> simp [hl, hpc, Pc.holds]

set_option maxRecDepth 100000 in
theorem session_thread_lock_discipline_returned :
    Reachable (exampleSetup [⟨.inet, 0⟩])
        (exampleRun [⟨.inet, 0⟩] (ctrlStarted .unknown ++ [.session .noCall])) ∧
      (exampleRun [⟨.inet, 0⟩] (ctrlStarted .unknown ++ [.session .noCall])).pc = .done ∧
      (exampleRun [⟨.inet, 0⟩]
        (ctrlStarted .unknown ++ [.session .noCall])).mutexFaults = [] ∧
      (∀ s e, (exampleRun [⟨.inet, 0⟩] (ctrlStarted .unknown ++ [.session .noCall])).pc =
          .reqReturn s e →
        (exampleRun [⟨.inet, 0⟩]
          (ctrlStarted .unknown ++ [.session .noCall])).locked = true) ∧
      ((exampleRun [⟨.inet, 0⟩] (ctrlStarted .unknown ++ [.session .noCall])).pc = .quitCtrl ∨
          (exampleRun [⟨.inet, 0⟩] (ctrlStarted .unknown ++ [.session .noCall])).pc = .quit ∨
          (exampleRun [⟨.inet, 0⟩] (ctrlStarted .unknown ++ [.session .noCall])).pc = .done →
        (exampleRun [⟨.inet, 0⟩]
          (ctrlStarted .unknown ++ [.session .noCall])).locked = false) :=
  have hc := reachable_exampleRun (by decide)
  ⟨hc, by decide, session_thread_lock_discipline hc⟩

/-- Inside `getnameinfo`, inside `chiaki_senkusha_run` and while the embedder's callback
handles a `LOGIN_PIN_REQUEST`, the session thread holds `state_mutex`, so the other threads'
critical sections wait for these calls to return. -/
theorem others_blocked_in_calls (hc : Reachable st c)
    (hpc : (∃ s ai rest, c.pc = .req s (.nameInfo ai rest)) ∨ c.pc = .senkushaRun ∨
      c.pc = .pinRequest) :
    step st c .stop = none ∧ (∀ pin, step st c (.setLoginPin pin true) = none) ∧
      ∀ f, step st c (.ctrl f) = none := by
  apply others_blocked
  rw [(reachable_lockInv hc).2]
  rcases hpc with ⟨s, ai, rest, hpc⟩ | hpc | hpc <;> simp [hpc, Pc.holds, ReqPc.holds]

def inNameInfo : Config := exampleRun [⟨.inet, 0⟩] [.session .noCall, .session (.posix true)]

theorem others_blocked_in_calls_nameInfo :
    Reachable (exampleSetup [⟨.inet, 0⟩]) inNameInfo ∧
      ((∃ s ai rest, inNameInfo.pc = .req s (.nameInfo ai rest)) ∨
        inNameInfo.pc = .senkushaRun ∨ inNameInfo.pc = .pinRequest) ∧
      step (exampleSetup [⟨.inet, 0⟩]) inNameInfo .stop = none ∧
      (∀ pin, step (exampleSetup [⟨.inet, 0⟩]) inNameInfo (.setLoginPin pin true) = none) ∧
      ∀ f, step (exampleSetup [⟨.inet, 0⟩]) inNameInfo (.ctrl f) = none := by
  have hc : Reachable (exampleSetup [⟨.inet, 0⟩]) inNameInfo := reachable_exampleRun (by decide)
  have hpc : (∃ s ai rest, inNameInfo.pc = .req s (.nameInfo ai rest)) ∨
      inNameInfo.pc = .senkushaRun ∨ inNameInfo.pc = .pinRequest :=
    .inl ⟨.first, ⟨.inet, 0⟩, [], by decide⟩
  exact ⟨hc, hpc, others_blocked_in_calls hc hpc⟩

set_option maxRecDepth 100000 in
/-- Runs of a session with one candidate that reach `getnameinfo`, `chiaki_senkusha_run` and
the callback of the first `LOGIN_PIN_REQUEST`; at each of them neither `chiaki_session_stop` nor
`chiaki_session_set_login_pin` can take `state_mutex`. -/
theorem blocking_calls_hold_state_mutex :
    (run (exampleSetup [⟨.inet, 0⟩]) (Config.init (exampleSetup [⟨.inet, 0⟩]))
        [.session .noCall, .session (.posix true)]).map
        (fun c => (c.pc, (step (exampleSetup [⟨.inet, 0⟩]) c .stop).isNone &&
          (step (exampleSetup [⟨.inet, 0⟩]) c (.setLoginPin [0x31] true)).isNone)) =
        some (.req .first (.nameInfo ⟨.inet, 0⟩ []), true) ∧
      (run (exampleSetup [⟨.inet, 0⟩]) (Config.init (exampleSetup [⟨.inet, 0⟩]))
        (ctrlStarted .success ++
          [.ctrl .sessionIdReceived, .session .noCall, .session (.code .success)])).map
        (fun c => (c.pc, (step (exampleSetup [⟨.inet, 0⟩]) c .stop).isNone &&
          (step (exampleSetup [⟨.inet, 0⟩]) c (.setLoginPin [0x31] true)).isNone)) =
        some (.senkushaRun, true) ∧
      (run (exampleSetup [⟨.inet, 0⟩]) (Config.init (exampleSetup [⟨.inet, 0⟩]))
        (ctrlStarted .success ++ [.ctrl .loginPinRequested, .session .noCall])).map
        (fun c => (c.pc, (step (exampleSetup [⟨.inet, 0⟩]) c .stop).isNone &&
          (step (exampleSetup [⟨.inet, 0⟩]) c (.setLoginPin [0x31] true)).isNone)) =
        some (.pinRequest, true) := by
  decide

end Chiaki.Session
