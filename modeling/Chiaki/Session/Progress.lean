import Chiaki.Session.Events
import Chiaki.Session.Stop

/-! Progress of the session thread over whole runs: a step budget that every step lowers but
the `LOGIN_PIN_REQUEST` event, so a stopped session returns and a running one blocks only in
the wait for the PIN. -/

namespace Chiaki.Session

def Setup.candidateCount (st : Setup) : Nat := st.connectInfo.hostAddrinfos.length

/-- The steps left in a call of `session_thread_request_session` before it returns, from a
point of the call: four for each candidate not yet given up, one for each point after the
loop. -/
def ReqPc.budget : ReqPc → Nat
  | .loop ais => 4 * ais.length + 5
  | .nameInfo _ rest => 4 * rest.length + 8
  | .socket _ rest => 4 * rest.length + 7
  | .connect _ rest _ => 4 * rest.length + 6
  | .formatHex _ => 5
  | .send .. => 4
  | .recv .. => 3
  | .parse .. => 2
  | .decode .. => 1

def Site.budget (n : Nat) : Site → Nat
  | .first => 8 * n + 23
  | .second => 4 * n + 17
  | .third => 11

/-- The step budget of the session thread at a point, with `n` candidates: every step of the
session thread lowers it, except the `LOGIN_PIN_REQUEST` event, which raises it by two. -/
def Pc.budget (n : Nat) : Pc → Nat
  | .entry => 12 * n + 29
  | .req s r => s.budget n + r.budget
  | .reqReturn s _ => s.budget n
  | .wait .settle => 10
  | .ctrlStart | .wait .pin => 9
  | .wait .ctrlStartup | .wait .pinResume => 8
  | .pinRequest | .senkushaInit => 7
  | .senkushaRun => 6
  | .randomBytes => 5
  | .ecdhInit => 4
  | .streamRun => 3
  | .quitCtrl => 2
  | .quit => 1
  | .done => 0

variable {st : Setup} {c c' : Config} {o : Outcome}

theorem ReqPc.budget_pos (r : ReqPc) : 0 < r.budget := by
  cases r <;> simp [ReqPc.budget]

theorem Site.budget_ge (n : Nat) (s : Site) : 11 ≤ s.budget n := by
  cases s <;> simp [Site.budget]

theorem Site.budget_le (n : Nat) (s : Site) : s.budget n ≤ 8 * n + 23 := by
  cases s <;> simp only [Site.budget] <;> omega

theorem request_budget {s : Site} {r : ReqPc}
    (h : sessionThreadRequestSession st c s r o = some c') :
    (∃ r', c'.pc = .req s r' ∧ r'.budget < r.budget) ∨ ∃ e, c'.pc = .reqReturn s e := by
  cases r
  case' loop ais => cases ais
  all_goals
    simp only [sessionThreadRequestSession, Config.loopStep, Option.map_eq_some'] at h
    obtain ⟨_, -, rfl⟩ := h
    simp only [Config.connectFailedEventually, Config.nameInfoStep, Config.socketStep,
      Config.connectStep, Config.formatHexStep, Config.sendStep, Config.recvStep,
      Config.parseStep, Config.decodeStep, Config.reqReturn, Config.goto_pc, Config.lock_pc,
      Config.unlock_pc, Config.record_pc, apply_ite Config.pc]
    repeat' split
  all_goals first
    | exact .inr ⟨_, rfl⟩
    | exact .inl ⟨_, rfl, by simp only [ReqPc.budget, List.length_cons]; omega⟩

theorem waitReturn_budget (n : Nat) (w : WaitSite) :
    (c.waitReturn w).pc.budget n < (Pc.wait w).budget n := by
  cases w <;>
    simp only [Config.waitReturn, Config.checkStop, Config.ctrlFailedExit, Config.pinLoopHead,
      Config.quitTo, Config.goto_pc, Config.lock_pc, Config.unlock_pc, Config.forwardPin_pc,
      apply_ite Config.pc]
  all_goals repeat' split
  all_goals simp [Pc.budget]

theorem sessionThreadFunc_budget (h : sessionThreadFunc st c o = some c')
    (hp : c.pc ≠ .pinRequest) :
    c'.pc.budget st.candidateCount < c.pc.budget st.candidateCount := by
  unfold sessionThreadFunc at h
  split at h
  case h_2 s r hpc =>
    rw [hpc]
    have := r.budget_pos
    rcases request_budget h with ⟨r', h', hr⟩ | ⟨e, h'⟩ <;> rw [h'] <;> simp only [Pc.budget] <;>
      omega
  case h_5 w hpc =>
    split at h
    · simp only [Option.map_eq_some'] at h
      obtain ⟨_, -, rfl⟩ := h
      rw [hpc]
      exact waitReturn_budget _ w
    · cases h
  case h_6 hpc => exact absurd hpc hp
  case h_14 => cases h
  all_goals
    rename_i hpc
    simp only [Option.map_eq_some'] at h
    obtain ⟨_, -, rfl⟩ := h
    rw [hpc]
  case h_3 s e _ =>
    have := Site.budget_ge st.candidateCount s
    rcases c.afterRequest_cases st s e with ⟨_, -, -, hs, h'⟩ | ⟨-, -, h'⟩ | ⟨-, h'⟩ <;>
      rw [h']
    · rcases hs with ⟨rfl, rfl⟩ | ⟨rfl, rfl⟩ <;>
        simp [Config.startRequest, Pc.budget, Site.budget, ReqPc.budget,
          Setup.candidateCount] <;> omega
    · simp [Config.quitTo, Pc.budget]; omega
    · simp [Pc.budget]; omega
  all_goals
    simp only [Config.entryStep, Config.ctrlStartStep, Config.senkushaInitStep,
      Config.senkushaRunStep, Config.randomBytesStep, Config.ecdhInitStep, Config.streamRunStep,
      Config.quitCtrlStep, Config.quitStep, Config.checkStop, Config.startRequest, Config.quitTo,
      Config.goto_pc, Config.waitOn_pc, Config.record_pc, Config.unlock_pc, Config.lock_pc,
      apply_ite Config.pc]
    repeat' split
  all_goals simp [Pc.budget, Site.budget, ReqPc.budget, Setup.candidateCount] <;> omega

def Input.isSession : Input → Bool
  | .session _ => true
  | _ => false

def Event.isPinRequest : Event → Bool
  | .loginPinRequest _ => true
  | .quit .. => false

def pinRequestCount (l : List Act) : Nat := (events l).countP Event.isPinRequest

theorem pinRequestCount_cons {a : Act} {l : List Act} (h : a.event? = none) :
    pinRequestCount (a :: l) = pinRequestCount l := by
  rw [pinRequestCount, events_cons h, pinRequestCount]

theorem step_pinRequestCount {i : Input} (hl : LockInv c) (h : step st c i = some c') :
    pinRequestCount c'.log = pinRequestCount c.log ∨
      (i.isSession = true ∧ c.pc = .pinRequest ∧ c'.pc = .wait .pin ∧
        pinRequestCount c'.log = pinRequestCount c.log + 1) := by
  cases i with
  | session o =>
    cases ht : c.pc.touchesPin
    · exact .inl (congrArg (List.countP _)
        ((sessionThreadFunc_spec hl h).keepsPin ht).2.1.events_eq)
    rcases Pc.touchesPin_eq_true.1 ht with hpc | hpc | hpc <;>
      simp only [step, sessionThreadFunc, hpc, Option.map_eq_some'] at h
    · obtain ⟨_, -, rfl⟩ := h
      refine .inr ⟨rfl, hpc, rfl, ?_⟩
      simp [pinRequestCount, Config.pinRequestStep, Config.record, Event.isPinRequest]
    · obtain ⟨_, -, rfl⟩ := h
      left
      simp [pinRequestCount, Config.quitStep, Config.record, Event.isPinRequest]
    · split at h
      · simp only [Option.map_eq_some'] at h
        obtain ⟨_, -, rfl⟩ := h
        left
        rcases waitReturn_pin_cases (c := c) with ⟨-, hl', -⟩ | ⟨-, -, heq⟩
        · rw [hl']
        · rw [heq, Config.forwardPin_log, pinRequestCount_cons (a := .ctrlSetLoginPin _ _) rfl,
            Config.lock_log]
      · cases h
  | stop | setLoginPin | ctrl f =>
    left
    simp only [step] at h
    repeat' split at h
    all_goals cases h
    all_goals first | rfl | (try cases f) <;>
      simp [Config.sessionStop, Config.sessionSetLoginPin, Config.ctrlSetFlag, Config.record,
        pinRequestCount_cons, Act.event?]

theorem step_potential {i : Input} (hl : LockInv c) (h : step st c i = some c') :
    i.isSession.toNat + c'.pc.budget st.candidateCount +
        3 * pinRequestCount c.log ≤
      c.pc.budget st.candidateCount + 3 * pinRequestCount c'.log := by
  rcases step_pinRequestCount hl h with hk | ⟨hi, hpc, hpc', hk⟩
  · cases i with
    | session o =>
      have hp : c.pc ≠ .pinRequest := by
        intro hpc
        simp only [step, sessionThreadFunc, hpc, Option.map_eq_some'] at h
        obtain ⟨_, -, rfl⟩ := h
        simp [pinRequestCount, Config.pinRequestStep, Config.record, Event.isPinRequest] at hk
      have := sessionThreadFunc_budget h hp
      simp only [Input.isSession, Bool.toNat_true, hk]
      omega
    | stop | setLoginPin | ctrl =>
      rw [step_pc_other h nofun, hk]
      simp [Input.isSession]
  · rw [hi, hpc, hpc', hk]
    simp [Pc.budget]
    omega

theorem run_potential {is : List Input} (hc : Reachable st c) (h : run st c is = some c') :
    is.countP Input.isSession + c'.pc.budget st.candidateCount +
        3 * pinRequestCount c.log ≤
      c.pc.budget st.candidateCount + 3 * pinRequestCount c'.log := by
  induction is generalizing c with
  | nil => cases h; simp
  | cons i is ih =>
    simp only [run, Option.bind_eq_some] at h
    obtain ⟨c₁, h₁, h₂⟩ := h
    have hs := step_potential (reachable_lockInv hc) h₁
    have hr := ih (hc.step h₁) h₂
    rw [List.countP_cons]
    cases hb : i.isSession <;> simp only [hb, Bool.toNat_true, Bool.toNat_false] at hs ⊢ <;>
      simp <;> omega

/-! ### Progress -/

def Pc.someOutcome : Pc → Outcome
  | .req _ (.loop []) => .noCall
  | .req _ (.loop (_ :: _)) | .req _ (.socket ..) | .req _ (.send ..) => .posix true
  | .req _ (.nameInfo ..) => .name none
  | .req _ (.connect ..) | .req _ (.formatHex _) | .req _ (.recv ..) | .ctrlStart
  | .senkushaInit | .randomBytes | .ecdhInit => .code .success
  | .req _ (.parse ..) => .http none
  | .req _ (.decode ..) => .base64 none
  | .senkushaRun => .probe .success 0 0 0
  | .streamRun => .stream .success none
  | _ => .noCall

theorem WaitSite.mayReturn_of_ne_pin {w : WaitSite} (hw : w ≠ .pin) (c : Config) :
    w.mayReturn c = true := by
  cases w <;> simp_all [WaitSite.mayReturn, WaitSite.timeoutMs, uint64Max]

theorem WaitSite.mayReturn_of_shouldStop (w : WaitSite) (hs : c.shouldStop = true) :
    w.mayReturn c = true := by
  cases w <;> simp [WaitSite.mayReturn, WaitSite.pred, Config.checkStatePred,
    Config.checkStatePredCtrlStart, Config.checkStatePredPin, hs]

theorem sessionThreadFunc_someOutcome (hd : c.pc ≠ .done)
    (hw : ∀ w, c.pc = .wait w → w.mayReturn c = true) :
    (sessionThreadFunc st c c.pc.someOutcome).isSome = true := by
  unfold sessionThreadFunc
  split
  case h_2 s r hpc =>
    rw [hpc]
    cases r
    case loop ais => cases ais <;> simp [Pc.someOutcome, sessionThreadRequestSession,
      Config.loopStep, Outcome.noCall?, Outcome.posix?]
    all_goals simp [Pc.someOutcome, sessionThreadRequestSession, Outcome.posix?, Outcome.name?,
      Outcome.code?, Outcome.http?, Outcome.base64?]
  case h_5 w hpc => simp [hpc, hw w hpc, Pc.someOutcome, Outcome.noCall?]
  case h_14 hpc => exact absurd hpc hd
  all_goals
    rename_i hpc
    simp [hpc, Pc.someOutcome, Outcome.noCall?, Outcome.code?, Outcome.probe?, Outcome.stream?]

theorem step_shouldStop {i : Input} (hl : LockInv c) (h : step st c i = some c')
    (hs : c.shouldStop = true) : c'.shouldStop = true := by
  cases i with
  | session o =>
    cases ht : c.pc.touchesPin
    · rw [((sessionThreadFunc_spec hl h).keepsPin ht).1.1, hs]
    rcases Pc.touchesPin_eq_true.1 ht with hpc | hpc | hpc <;>
      simp only [step, sessionThreadFunc, hpc, Option.map_eq_some'] at h
    · obtain ⟨_, -, rfl⟩ := h
      simpa [Config.pinRequestStep, Config.record, Config.waitOn] using hs
    · obtain ⟨_, -, rfl⟩ := h
      simpa [Config.quitStep, Config.record, Config.goto] using hs
    · split at h
      · simp only [Option.map_eq_some'] at h
        obtain ⟨_, -, rfl⟩ := h
        rw [waitReturn_shouldStop, hs]
      · cases h
  | stop | setLoginPin | ctrl f =>
    simp only [step] at h
    repeat' split at h
    all_goals cases h
    all_goals first | exact hs | (try cases f) <;>
      simp [Config.sessionStop, Config.sessionSetLoginPin, Config.ctrlSetFlag, Config.record, hs]

/-! ### The step budget over whole runs -/

theorem Pc.budget_eq_zero {n : Nat} {p : Pc} : p.budget n = 0 ↔ p = .done := by
  constructor
  · intro h
    cases p <;> (try cases ‹WaitSite›) <;> (try cases ‹Site›) <;>
      simp_all [Pc.budget, Site.budget]
  · rintro rfl; rfl

theorem reachable_budget_le (hc : Reachable st c) :
    c.pc.budget st.candidateCount ≤ 12 * st.candidateCount + 29 := by
  have hl := reachable_loopInv hc
  have hn : st.candidateCount = st.connectInfo.hostAddrinfos.length := rfl
  cases hpc : c.pc with
  | req s r =>
    have := Site.budget_le st.candidateCount s
    cases r <;> simp only [Pc.budget, ReqPc.budget]
    case loop => have := (hl s _ _ hpc rfl).length_le; omega
    case nameInfo | socket | connect =>
      have := (hl s _ _ hpc rfl).length_le
      simp only [List.length_cons] at this
      omega
    all_goals omega
  | reqReturn s e =>
    have := Site.budget_le st.candidateCount s
    simp only [Pc.budget]
    omega
  | wait w => cases w <;> simp [Pc.budget]
  | _ => simp [Pc.budget]

/-- In every run of the system from a freshly initialized session, whatever the collaborators
return and however `chiaki_session_stop`, `chiaki_session_set_login_pin` and the control
channel interleave, the session thread has taken at most `12·n + 29 + 3·k` steps, where `n` is
the number of address candidates and `k` the number of `LOGIN_PIN_REQUEST` events it has sent:
apart from the PIN loop, each round of which asks the embedder for a PIN, `session_thread_func`
never loops, and the candidate loops and the retries of the session request end. -/
theorem session_steps_bounded {is : List Input} (h : run st (Config.init st) is = some c) :
    is.countP Input.isSession ≤
      12 * st.candidateCount + 29 + 3 * pinRequestCount c.log := by
  have := run_potential .init h
  have h0 : pinRequestCount (Config.init st).log = 0 := rfl
  rw [h0, show (Config.init st).pc = .entry from rfl, Pc.budget] at this
  omega

def pinRequested : List Input :=
  ctrlStarted .success ++ [.ctrl .loginPinRequested, .session .noCall, .session .noCall]

def atPinWait : Config := exampleRun [⟨.inet, 0⟩] pinRequested

set_option maxRecDepth 100000 in
theorem run_pinRequested :
    run (exampleSetup [⟨.inet, 0⟩]) (Config.init (exampleSetup [⟨.inet, 0⟩])) pinRequested =
      some atPinWait := by
  decide

theorem reachable_atPinWait : Reachable (exampleSetup [⟨.inet, 0⟩]) atPinWait :=
  Reachable.run _ .init run_pinRequested

set_option maxRecDepth 100000 in
theorem atPinWait_pc : atPinWait.pc = .wait .pin := by
  decide

theorem session_steps_bounded_pinRequested :
    run (exampleSetup [⟨.inet, 0⟩]) (Config.init (exampleSetup [⟨.inet, 0⟩])) pinRequested =
        some atPinWait ∧
      pinRequested.countP Input.isSession ≤
        12 * (exampleSetup [⟨.inet, 0⟩]).candidateCount + 29 +
          3 * pinRequestCount atPinWait.log :=
  ⟨run_pinRequested, session_steps_bounded run_pinRequested⟩

theorem run_stopped {is : List Input} (hc : Reachable st c) (hs : c.shouldStop = true)
    (h : run st c is = some c') :
    pinRequestCount c'.log = pinRequestCount c.log ∧
      is.countP Input.isSession + c'.pc.budget st.candidateCount ≤
        c.pc.budget st.candidateCount := by
  induction is generalizing c with
  | nil => cases h; simp
  | cons i is ih =>
    simp only [run, Option.bind_eq_some] at h
    obtain ⟨c₁, h₁, h₂⟩ := h
    have hl := reachable_lockInv hc
    have hk : pinRequestCount c₁.log = pinRequestCount c.log := by
      rcases step_pinRequestCount hl h₁ with hk | ⟨-, hpc, -⟩
      · exact hk
      · have := reachable_stopInv hc (by rw [hpc]; rfl)
        rw [hs] at this; cases this
    have hp := step_potential hl h₁
    obtain ⟨hk', hr⟩ := ih (hc.step h₁) (step_shouldStop hl h₁ hs) h₂
    refine ⟨hk'.trans hk, ?_⟩
    rw [List.countP_cons]
    cases hb : i.isSession <;> simp only [hb, hk, Bool.toNat_true, Bool.toNat_false] at hp ⊢ <;>
      simp <;> omega

/-- Once `chiaki_session_stop` has set `should_stop`, the session thread is never blocked
before it returns: at every point but its return some outcome of its collaborator lets it step,
every wait returning at once. Every run from there, whatever the collaborators return and
however the other threads interleave, sends no further `LOGIN_PIN_REQUEST` and contains at most
`Pc.budget` steps of the session thread, at most `12·n + 29` for `n` candidates; after that many
the thread has returned (`Pc.budget_eq_zero`). -/
theorem stopped_session_returns (hc : Reachable st c) (hs : c.shouldStop = true) :
    (c.pc ≠ .done → ∃ o c', step st c (.session o) = some c') ∧
      c.pc.budget st.candidateCount ≤
        12 * st.candidateCount + 29 ∧
      ∀ is c', run st c is = some c' →
        pinRequestCount c'.log = pinRequestCount c.log ∧
        is.countP Input.isSession + c'.pc.budget st.candidateCount ≤
          c.pc.budget st.candidateCount := by
  refine ⟨fun hd => ?_, ?_, fun is c' h => run_stopped hc hs h⟩
  · have : (sessionThreadFunc st c c.pc.someOutcome).isSome = true :=
      sessionThreadFunc_someOutcome hd fun w _ => WaitSite.mayReturn_of_shouldStop w hs
    obtain ⟨c', h'⟩ := Option.isSome_iff_exists.1 this
    exact ⟨_, c', h'⟩
  · exact reachable_budget_le hc

def stoppedAtPinWait : Config := exampleRun [⟨.inet, 0⟩] (pinRequested ++ [.stop])

set_option maxRecDepth 100000 in
theorem stopped_session_returns_atPinWait :
    Reachable (exampleSetup [⟨.inet, 0⟩]) stoppedAtPinWait ∧ stoppedAtPinWait.shouldStop = true ∧
      (stoppedAtPinWait.pc ≠ .done →
        ∃ o c', step (exampleSetup [⟨.inet, 0⟩]) stoppedAtPinWait (.session o) = some c') ∧
      stoppedAtPinWait.pc.budget (exampleSetup [⟨.inet, 0⟩]).candidateCount ≤
        12 * (exampleSetup [⟨.inet, 0⟩]).candidateCount + 29 ∧
      ∀ is c', run (exampleSetup [⟨.inet, 0⟩]) stoppedAtPinWait is = some c' →
        pinRequestCount c'.log = pinRequestCount stoppedAtPinWait.log ∧
        is.countP Input.isSession +
            c'.pc.budget (exampleSetup [⟨.inet, 0⟩]).candidateCount ≤
          stoppedAtPinWait.pc.budget
            (exampleSetup [⟨.inet, 0⟩]).candidateCount := by
  have hc : Reachable (exampleSetup [⟨.inet, 0⟩]) stoppedAtPinWait :=
    reachable_exampleRun (by decide)
  have hs : stoppedAtPinWait.shouldStop = true := by decide
  exact ⟨hc, hs, stopped_session_returns hc hs⟩

/-- In every reachable state the session thread, unless it has returned, can take a step, or
it waits for the PIN with neither a PIN entered, a stop nor a failure of the control channel.
There `state_mutex` is free: `chiaki_session_stop` and `chiaki_session_set_login_pin` can run,
and after either the wait returns. -/
theorem session_thread_blocks_only_for_pin (hc : Reachable st c) (hd : c.pc ≠ .done) :
    (∃ o c', step st c (.session o) = some c') ∨
      (c.pc = .wait .pin ∧ c.checkStatePredPin = false ∧
        (∃ c₁ c₂, step st c .stop = some c₁ ∧ step st c₁ (.session .noCall) = some c₂) ∧
        ∀ pin, ∃ c₁ c₂, step st c (.setLoginPin pin true) = some c₁ ∧
          step st c₁ (.session .noCall) = some c₂) := by
  by_cases hw : ∀ w, c.pc = .wait w → w.mayReturn c = true
  · have : (sessionThreadFunc st c c.pc.someOutcome).isSome = true :=
      sessionThreadFunc_someOutcome hd hw
    obtain ⟨c', h'⟩ := Option.isSome_iff_exists.1 this
    exact .inl ⟨_, c', h'⟩
  push_neg at hw
  obtain ⟨w, hpc, hr⟩ := hw
  obtain rfl : w = .pin := by
    by_contra hne
    rw [WaitSite.mayReturn_of_ne_pin hne] at hr
    exact hr rfl
  have hlk : c.locked = false := by
    rw [(reachable_lockInv hc).2, hpc]; rfl
  refine .inr ⟨hpc, by simpa [WaitSite.mayReturn_pin] using hr,
    ⟨c.sessionStop, c.sessionStop.waitReturn .pin, by simp [step, hlk], ?_⟩,
    fun pin => ⟨c.sessionSetLoginPin pin, (c.sessionSetLoginPin pin).waitReturn .pin,
      by simp [step, hlk], ?_⟩⟩ <;>
    simp [step, sessionThreadFunc, Config.sessionStop, Config.sessionSetLoginPin, Config.record,
      hpc, WaitSite.mayReturn_pin, Config.checkStatePredPin, Outcome.noCall?]

theorem session_thread_blocks_only_for_pin_atPinWait :
    Reachable (exampleSetup [⟨.inet, 0⟩]) atPinWait ∧ atPinWait.pc ≠ .done ∧
      ((∃ o c', step (exampleSetup [⟨.inet, 0⟩]) atPinWait (.session o) = some c') ∨
        (atPinWait.pc = .wait .pin ∧ atPinWait.checkStatePredPin = false ∧
          (∃ c₁ c₂, step (exampleSetup [⟨.inet, 0⟩]) atPinWait .stop = some c₁ ∧
            step (exampleSetup [⟨.inet, 0⟩]) c₁ (.session .noCall) = some c₂) ∧
          ∀ pin, ∃ c₁ c₂, step (exampleSetup [⟨.inet, 0⟩]) atPinWait (.setLoginPin pin true) =
              some c₁ ∧ step (exampleSetup [⟨.inet, 0⟩]) c₁ (.session .noCall) = some c₂)) := by
  have hd : atPinWait.pc ≠ .done := by rw [atPinWait_pc]; nofun
  exact ⟨reachable_atPinWait, hd, session_thread_blocks_only_for_pin reachable_atPinWait hd⟩

end Chiaki.Session
