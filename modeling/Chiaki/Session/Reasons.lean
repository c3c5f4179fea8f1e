import Chiaki.Session.Events

/-! The quit reason carried by the `QUIT` event: which exits of the session thread set one, and
runs of the exits that do not. -/

namespace Chiaki.Session

variable {st : Setup} {c c' : Config} {i : Input}

theorem returnReason_init : ReturnReason (Config.init st) := by
  intro _ _ h
  cases h

theorem step_returnReason (hl : LockInv c) (hr : ReturnReason c) (h : step st c i = some c') :
    ReturnReason c' := by
  cases i with
  | session o => exact (sessionThreadFunc_spec hl h).returnReason
  | stop | setLoginPin | ctrl f =>
    simp only [step] at h
    repeat' split at h
    all_goals cases h
    all_goals first | exact hr | (try cases f) <;>
      simpa [ReturnReason, Config.sessionStop, Config.sessionSetLoginPin, Config.ctrlSetFlag,
        Config.record] using hr

theorem reachable_returnReason (hc : Reachable st c) : ReturnReason c := by
  induction hc with
  | init => exact returnReason_init
  | step hr h ih => exact step_returnReason (reachable_lockInv hr) ih h

theorem afterRequest_quit {s : Site} {e : ErrorCode} (h : (c.afterRequest st s e).pc = .quit) :
    e ≠ .success ∧
      ¬(e = .versionMismatch ∧ s ≠ .third ∧ c.serverTarget.isUnknown = false) ∧
      (c.afterRequest st s e).quitReason = c.quitReason := by
  rcases c.afterRequest_cases st s e with ⟨_, -, -, -, h'⟩ | ⟨he, hr, h'⟩ | ⟨-, h'⟩ <;>
    rw [h'] at h ⊢
  case inr.inl => exact ⟨he, hr, rfl⟩
  all_goals simp [Config.startRequest] at h

/-- In every run, a failed session request that ends the run quits with a reason: the step
from the return of `session_thread_request_session` to `quit` leaves a quit reason set. -/
theorem request_failure_quit_reason {s : Site} {e : ErrorCode} (hc : Reachable st c)
    (hpc : c.pc = .reqReturn s e) (h : step st c i = some c') (hq : c'.pc = .quit) :
    c'.quitReason ≠ .none := by
  have hl : c.locked = true := by rw [(reachable_lockInv hc).2, hpc]; rfl
  cases i with
  | session o =>
    simp only [step, sessionThreadFunc, hpc, Option.map_eq_some'] at h
    obtain ⟨_, -, rfl⟩ := h
    obtain ⟨he, hr, hreason⟩ := afterRequest_quit hq
    rw [hreason]
    exact (reachable_returnReason hc s e hpc he).resolve_right hr
  | stop | ctrl => simp [step, hl] at h
  | setLoginPin =>
    simp [step, hl] at h
    rw [← h.2, hpc] at hq
    cases hq

def refusedOnly : List Input :=
  [.session .noCall] ++ connectAttempt .connectionRefused ++ [.session .noCall]

set_option maxRecDepth 100000 in
theorem request_failure_quit_reason_refused :
    Reachable (exampleSetup [⟨.inet, 0⟩]) (exampleRun [⟨.inet, 0⟩] refusedOnly) ∧
      (exampleRun [⟨.inet, 0⟩] refusedOnly).pc = .reqReturn .first .network ∧
      step (exampleSetup [⟨.inet, 0⟩]) (exampleRun [⟨.inet, 0⟩] refusedOnly) (.session .noCall) =
        some (exampleRun [⟨.inet, 0⟩] (refusedOnly ++ [.session .noCall])) ∧
      (exampleRun [⟨.inet, 0⟩] (refusedOnly ++ [.session .noCall])).pc = .quit ∧
      (exampleRun [⟨.inet, 0⟩] (refusedOnly ++ [.session .noCall])).quitReason ≠ .none := by
  have hc : Reachable (exampleSetup [⟨.inet, 0⟩]) (exampleRun [⟨.inet, 0⟩] refusedOnly) :=
    reachable_exampleRun (by decide)
  have hpc : (exampleRun [⟨.inet, 0⟩] refusedOnly).pc = .reqReturn .first .network := by decide
  have h : step (exampleSetup [⟨.inet, 0⟩]) (exampleRun [⟨.inet, 0⟩] refusedOnly)
      (.session .noCall) = some (exampleRun [⟨.inet, 0⟩] (refusedOnly ++ [.session .noCall])) := by
    decide
  have hq : (exampleRun [⟨.inet, 0⟩] (refusedOnly ++ [.session .noCall])).pc = .quit := by decide
  exact ⟨hc, hpc, h, hq, request_failure_quit_reason hc hpc h hq⟩

def ExitsWithReason (c : Config) : Prop :=
  c.pc = .quitCtrl ∨ c.pc = .quit → c.quitReason ≠ .none

theorem exitsWithReason_of_pc (h : c.pc ≠ .quitCtrl) (h' : c.pc ≠ .quit) :
    ExitsWithReason c := by
  rintro (hq | hq) <;> contradiction

theorem ctrlFailedExit_exitsWithReason : ExitsWithReason c.ctrlFailedExit := fun _ => by
  unfold Config.ctrlFailedExit
  split <;> simp_all [Config.quitTo, Config.unlock, Config.goto]

theorem pinLoopHead_exitsWithReason : ExitsWithReason c.pinLoopHead := by
  unfold Config.pinLoopHead
  split
  · exact exitsWithReason_of_pc (by simp) (by simp)
  split
  · exact exitsWithReason_of_pc (by simp) (by simp)
  · exact ctrlFailedExit_exitsWithReason

theorem checkStop_exitsWithReason {l : Pc} {k : Config → Config} (hk : ExitsWithReason (k c)) :
    ExitsWithReason (c.checkStop l k) := by
  unfold Config.checkStop
  split
  · intro _; simp [Config.quitTo, Config.unlock, Config.goto]
  · exact hk

theorem waitReturn_exitsWithReason (w : WaitSite) : ExitsWithReason (c.waitReturn w) := by
  cases w with
  | settle =>
    exact exitsWithReason_of_pc (by simp [Config.waitReturn]) (by simp [Config.waitReturn])
  | ctrlStartup =>
    refine checkStop_exitsWithReason ?_
    split
    · exact ctrlFailedExit_exitsWithReason
    · exact pinLoopHead_exitsWithReason
  | pin =>
    refine checkStop_exitsWithReason ?_
    split
    · exact ctrlFailedExit_exitsWithReason
    · exact exitsWithReason_of_pc (by simp) (by simp)
  | pinResume => exact checkStop_exitsWithReason pinLoopHead_exitsWithReason

theorem streamRunStep_exitsWithReason {e : ErrorCode} {reasonStr : Option String} :
    ExitsWithReason (c.streamRunStep e reasonStr) := fun _ => by
  unfold Config.streamRunStep
  repeat' split
  all_goals simp [Config.lock, Config.unlock, Config.goto, Config.record]

/-- The points whose failure exits go to `quit` or `quit_ctrl` without setting a quit reason:
`chiaki_ctrl_start`, `chiaki_senkusha_init`, `chiaki_senkusha_run`,
`chiaki_random_bytes_crypt` and `chiaki_ecdh_init`. -/
def Pc.exitKeepsReason : Pc → Bool
  | .ctrlStart | .senkushaInit | .senkushaRun | .randomBytes | .ecdhInit => true
  | _ => false

/-- In every run, a step of the session thread that leaves for `quit_ctrl` or `quit` with no
quit reason set is the failure exit of one of the five calls of `Pc.exitKeepsReason`: every
other exit sets a reason. -/
theorem quit_without_reason_exits {o : Outcome} (hc : Reachable st c)
    (h : sessionThreadFunc st c o = some c') (hq : c'.pc = .quitCtrl ∨ c'.pc = .quit)
    (hpc : c.pc ≠ .quitCtrl) (hn : c'.quitReason = .none) : c.pc.exitKeepsReason = true := by
  unfold sessionThreadFunc at h
  split at h
  case h_2 s r hpc' =>
    have := (request_spec hpc' (reachable_lockInv hc) h).2
    rcases hq with hq | hq <;> simp [hq, Pc.phase] at this
  case h_3 s e hpc' =>
    simp only [Option.map_eq_some'] at h
    obtain ⟨_, -, rfl⟩ := h
    rcases hq with hq | hq
    · rcases c.afterRequest_cases st s e with ⟨_, -, -, -, h'⟩ | ⟨-, -, h'⟩ | ⟨-, h'⟩ <;>
        rw [h'] at hq <;> simp [Config.startRequest, Config.quitTo] at hq
    · obtain ⟨he, hr, hreason⟩ := afterRequest_quit hq
      exact absurd (hreason.symm.trans hn)
        ((reachable_returnReason hc s e hpc' he).resolve_right hr)
  case h_12 hpc' => exact absurd hpc' hpc
  all_goals
    rename_i hpc'
    simp only [hpc', Pc.exitKeepsReason]
  all_goals
    (try split at h) <;>
      simp only [Option.map_eq_some', reduceCtorEq, false_and, exists_false] at h
  all_goals obtain ⟨_, -, rfl⟩ := h
  · exact absurd hn (checkStop_exitsWithReason
      (exitsWithReason_of_pc (by simp [Config.startRequest]) (by simp [Config.startRequest])) hq)
  · exact absurd hn (waitReturn_exitsWithReason _ hq)
  · exact absurd hn (exitsWithReason_of_pc (by simp [Config.pinRequestStep])
      (by simp [Config.pinRequestStep]) hq)
  · exact absurd hn (streamRunStep_exitsWithReason hq)
  · rcases hq with hq | hq <;> simp [Config.quitStep] at hq

def atCtrlStart : Config :=
  exampleRun [⟨.inet, 0⟩]
    ([.session .noCall] ++ connectAttempt .success ++ accepted ++
      [.session .noCall, .session .noCall])

def ctrlStartFailed : Config := exampleRun [⟨.inet, 0⟩] (ctrlStarted .unknown)

set_option maxRecDepth 100000 in
theorem quit_without_reason_exits_ctrlStart :
    Reachable (exampleSetup [⟨.inet, 0⟩]) atCtrlStart ∧
      sessionThreadFunc (exampleSetup [⟨.inet, 0⟩]) atCtrlStart (.code .unknown) =
        some ctrlStartFailed ∧
      (ctrlStartFailed.pc = .quitCtrl ∨ ctrlStartFailed.pc = .quit) ∧
      atCtrlStart.pc ≠ .quitCtrl ∧ ctrlStartFailed.quitReason = .none ∧
      atCtrlStart.pc.exitKeepsReason = true := by
  have hc : Reachable (exampleSetup [⟨.inet, 0⟩]) atCtrlStart := reachable_exampleRun (by decide)
  have h : sessionThreadFunc (exampleSetup [⟨.inet, 0⟩]) atCtrlStart (.code .unknown) =
      some ctrlStartFailed := by decide
  have hq : ctrlStartFailed.pc = .quitCtrl ∨ ctrlStartFailed.pc = .quit := by decide
  have hpc : atCtrlStart.pc ≠ .quitCtrl := by decide
  have hn : ctrlStartFailed.quitReason = .none := by decide
  exact ⟨hc, h, hq, hpc, hn, quit_without_reason_exits hc h hq hpc hn⟩

set_option maxRecDepth 100000 in
/-- After a successful session request, `chiaki_ctrl_start` fails and the session thread quits
at once: the `QUIT` event, the only event of the run, carries `CHIAKI_QUIT_REASON_NONE`. -/
theorem ctrl_start_failure_quits_without_reason :
    (run (exampleSetup [⟨.inet, 0⟩]) (Config.init (exampleSetup [⟨.inet, 0⟩]))
        (ctrlStarted .unknown ++ [.session .noCall])).map (fun c => (c.pc, events c.log)) =
      some (.done, [.quit .none none]) := by
  decide

set_option maxRecDepth 100000 in
/-- After the control channel received the session id, `chiaki_senkusha_run` returns
`CHIAKI_ERR_CANCELED`: the session thread goes to `quit_ctrl` without setting a reason, and the
`QUIT` event carries `CHIAKI_QUIT_REASON_NONE`, not `CHIAKI_QUIT_REASON_STOPPED`. -/
theorem senkusha_cancel_quits_without_stopped :
    (run (exampleSetup [⟨.inet, 0⟩]) (Config.init (exampleSetup [⟨.inet, 0⟩]))
        (ctrlStarted .success ++
          [.ctrl .sessionIdReceived, .session .noCall, .session (.code .success),
            .session (.probe .canceled 0 0 0), .session .noCall, .session .noCall])).map
        (fun c => (c.pc, events c.log)) =
      some (.done, [.quit .none none]) := by
  decide

def refusedThenConnected : List Input :=
  [.session .noCall] ++ connectAttempt .connectionRefused ++ connectAttempt .success ++ accepted

set_option maxRecDepth 100000 in
/-- With two candidates, the first refused and the second connected, the session request returns
`CHIAKI_ERR_SUCCESS` with the quit reason still `SESSION_REQUEST_CONNECTION_REFUSED`; when the
control channel then fails, `ctrl_failed` keeps that reason and the `QUIT` event carries it. -/
theorem recovered_refusal_reason_is_kept :
    (run (exampleSetup [⟨.inet, 0⟩, ⟨.inet, 1⟩])
        (Config.init (exampleSetup [⟨.inet, 0⟩, ⟨.inet, 1⟩]))
        refusedThenConnected).map (fun c => (c.pc, c.quitReason)) =
      some (.reqReturn .first .success, .sessionRequestConnectionRefused) ∧
    (run (exampleSetup [⟨.inet, 0⟩, ⟨.inet, 1⟩])
        (Config.init (exampleSetup [⟨.inet, 0⟩, ⟨.inet, 1⟩]))
        (refusedThenConnected ++
          [.session .noCall, .session .noCall, .session (.code .success), .ctrl .failed,
            .session .noCall, .session .noCall, .session .noCall])).map
        (fun c => (c.pc, events c.log)) =
      some (.done, [.quit .sessionRequestConnectionRefused none]) := by
  decide

end Chiaki.Session
