import Mathlib.Tactic.MkIffOfInductiveProp
import Chiaki.Session.Thread

/-! What a step does to the target, the server target, the version string of the request in
flight and the sockets, said once in `StepFrame`. -/

namespace Chiaki.Session

def Pc.sock? : Pc → Option Nat
  | .req _ (.connect _ _ k) | .req _ (.formatHex k) | .req _ (.send k _) | .req _ (.recv k _)
  | .req _ (.parse k _) | .req _ (.decode k _) => some k
  | _ => none

def Pc.version? : Pc → Option String
  | .req _ (.send _ request) => some request.rpVersion
  | .req _ (.recv _ v) | .req _ (.parse _ v) => some v
  | _ => none

def Act.opened? : Act → Option Nat
  | .socketOpen k => some k
  | _ => none

def Act.closed? : Act → Option Nat
  | .socketClose k => some k
  | _ => none

def openedSockets (l : List Act) : List Nat := l.filterMap Act.opened?

def closedSockets (l : List Act) : List Nat := l.filterMap Act.closed?

def VersionAt (c : Config) : Prop :=
  ∀ v, c.pc.version? = some v → rpVersionString c.target = some v

/-- A step leaves the sockets alone, opens a fresh one that the thread then holds, or closes
the one the thread held. -/
def SockStep (c c' : Config) : Prop :=
  c.fresh ≤ c'.fresh ∧
    ((openedSockets c'.log = openedSockets c.log ∧ closedSockets c'.log = closedSockets c.log ∧
        c'.pc.sock? = c.pc.sock?) ∨
      (c.pc.sock? = none ∧ c'.pc.sock? = some c.fresh ∧ c.fresh < c'.fresh ∧
        openedSockets c'.log = c.fresh :: openedSockets c.log ∧
        closedSockets c'.log = closedSockets c.log) ∨
      (∃ k, c.pc.sock? = some k ∧ c'.pc.sock? = none ∧
        openedSockets c'.log = openedSockets c.log ∧
        closedSockets c'.log = k :: closedSockets c.log))

/-- What one step of the system does to the target, the server target, the request in flight
and the sockets, and where a call of `session_thread_request_session` starts. -/
@[mk_iff] structure StepFrame (st : Setup) (c c' : Config) : Prop where
  target : c'.target = c.target ∨
    ((∃ s e, c.pc = .reqReturn s e) ∧ c'.target = c.serverTarget ∧
      c.serverTarget.isUnknown = false)
  serverTarget : c'.serverTarget = c.serverTarget ∨ c'.serverTarget = .ps4Unknown ∨
    c'.serverTarget = .ps4_9 ∨ ∃ v, c'.serverTarget = rpVersionParse v st.connectInfo.ps5
  version : VersionAt c → VersionAt c'
  invalidData : ∀ s, c'.pc = .reqReturn s .invalidData →
    c'.pc = c.pc ∨ rpVersionString c.target = none
  sockets : rpVersionString c.target ≠ none → SockStep c c'
  enter : ∀ s r, c'.pc = .req s r →
    (∃ r₀, c.pc = .req s r₀) ∨ r = .loop st.connectInfo.hostAddrinfos

variable {st : Setup} {c c' : Config} {o : Outcome}

@[simp] theorem exists_rpVersionParse_eq (v : String) (ps5 : Bool) :
    ∃ v', rpVersionParse v ps5 = rpVersionParse v' ps5 :=
  ⟨v, rfl⟩

theorem request_frame {s : Site} {r : ReqPc} (hpc : c.pc = .req s r)
    (h : sessionThreadRequestSession st c s r o = some c') : StepFrame st c c' := by
  cases r
  case' loop ais => cases ais
  all_goals
    simp only [sessionThreadRequestSession, Config.loopStep, Option.map_eq_some'] at h
    obtain ⟨_, -, rfl⟩ := h
    try simp only [Config.connectFailedEventually, Config.nameInfoStep, Config.socketStep,
      Config.connectStep, Config.formatHexStep, Config.sendStep, Config.recvStep,
      Config.parseStep, Config.decodeStep, Config.mismatchBranch, Config.reasonBranch]
    repeat' split
  all_goals
    rw [stepFrame_iff]
    simp [*, VersionAt, SockStep, Pc.sock?, Pc.version?, openedSockets, closedSockets,
      Act.opened?, Act.closed?, Config.record, Config.goto, Config.lock, Config.unlock,
      Config.reqReturn]

theorem sessionThreadFunc_frame (h : sessionThreadFunc st c o = some c') : StepFrame st c c' := by
  unfold sessionThreadFunc at h
  split at h
  case h_2 s r hpc => exact request_frame hpc h
  case h_3 s e hpc =>
    simp only [Option.map_eq_some'] at h
    obtain ⟨_, -, rfl⟩ := h
    rcases c.afterRequest_cases st s e with ⟨_, -, hk, -, h'⟩ | ⟨-, -, h'⟩ | ⟨-, h'⟩ <;>
      rw [h', stepFrame_iff] <;>
      simp [*, VersionAt, SockStep, Pc.sock?, Pc.version?, Config.startRequest,
        Config.goto, Config.quitTo, Config.unlock, Config.waitOn]
  all_goals
    rename_i hpc
    (try split at h) <;>
      simp only [Option.map_eq_some', reduceCtorEq, false_and, exists_false] at h
  all_goals obtain ⟨_, -, rfl⟩ := h
  all_goals
    simp only [Config.entryStep, Config.ctrlStartStep, Config.waitReturn,
      Config.pinRequestStep, Config.senkushaInitStep, Config.senkushaRunStep,
      Config.randomBytesStep, Config.ecdhInitStep, Config.streamRunStep, Config.quitCtrlStep,
      Config.quitStep, Config.checkStop, Config.ctrlFailedExit, Config.pinLoopHead,
      Config.forwardPin, Config.startRequest, Config.quitTo]
    repeat' split
  all_goals
    rw [stepFrame_iff]
    simp [hpc, VersionAt, SockStep, Pc.sock?, Pc.version?, openedSockets, closedSockets,
      Act.opened?, Act.closed?, Config.record, Config.goto, Config.lock, Config.unlock,
      Config.waitOn]

theorem step_frame {i : Input} (h : step st c i = some c') : StepFrame st c c' := by
  cases i with
  | session o => exact sessionThreadFunc_frame h
  | stop | setLoginPin | ctrl f =>
    simp only [step] at h
    repeat' split at h
    all_goals cases h
    all_goals
      (try cases f) <;> rw [stepFrame_iff] <;>
      simp [VersionAt, SockStep, openedSockets, closedSockets, Act.opened?, Act.closed?,
        Config.sessionStop, Config.sessionSetLoginPin, Config.ctrlSetFlag, Config.record] <;>
      exact fun _ r h => .inl ⟨r, h⟩

end Chiaki.Session
