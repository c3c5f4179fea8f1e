import Chiaki.Session.Steps
import Chiaki.Session.Sockets

/-! What the session thread does once `chiaki_session_stop` has set `should_stop`, and the
settling wait (line 400), which has no `CHECK_STOP` after it. -/

namespace Chiaki.Session

/-- The points the session thread reaches from a `CHECK_STOP` without releasing
`state_mutex` in between. -/
def Pc.checked : Pc → Bool
  | .pinRequest | .senkushaInit | .senkushaRun | .randomBytes | .ecdhInit => true
  | _ => false

theorem Pc.holds_of_checked {p : Pc} (h : p.checked = true) : p.holds = true := by
  cases p <;> simp_all [Pc.checked, Pc.holds]

theorem Pc.phase_of_checked {p : Pc} (h : p.checked = true) : p.phase ≠ .setup := by
  cases p <;> simp_all [Pc.checked, Pc.phase]

def StopInv (c : Config) : Prop := c.pc.checked = true → c.shouldStop = false

variable {st : Setup} {c c' : Config} {o : Outcome} {i : Input}

theorem waitReturn_shouldStop (w : WaitSite) : (c.waitReturn w).shouldStop = c.shouldStop := by
  cases w <;>
    simp [Config.waitReturn, Config.checkStop, Config.ctrlFailedExit, Config.pinLoopHead,
      Config.forwardPin, Config.lock, Config.unlock, Config.quitTo, Config.goto, Config.record,
      Config.waitOn, apply_ite Config.shouldStop]

theorem waitReturn_stopped (w : WaitSite) (hs : c.shouldStop = true) :
    (c.waitReturn w).pc.checked = false := by
  cases w <;> simp [Config.waitReturn, Config.checkStop, Config.lock, Config.quitTo, hs, Pc.checked]

theorem waitReturn_checked (w : WaitSite) (h : (c.waitReturn w).pc.checked = true) :
    (c.waitReturn w).shouldStop = false := by
  cases hs : c.shouldStop
  · rw [waitReturn_shouldStop, hs]
  · rw [waitReturn_stopped w hs] at h; cases h

theorem sessionThreadFunc_checked (hl : LockInv c) (h : sessionThreadFunc st c o = some c')
    (hc : c'.pc.checked = true) :
    c'.shouldStop = false ∨ (c.pc.checked = true ∧ c'.shouldStop = c.shouldStop) := by
  have hk := (sessionThreadFunc_spec hl h).keepsPin
  unfold sessionThreadFunc at h
  split at h
  case h_2 s r hpc => exact absurd (request_spec hpc hl h).2 (Pc.phase_of_checked hc)
  case h_5 w hpc =>
    split at h
    · simp only [Option.map_eq_some'] at h
      obtain ⟨_, -, rfl⟩ := h
      exact .inl (waitReturn_checked w hc)
    · cases h
  case h_14 => cases h
  all_goals
    rename_i hpc
    try exact .inr ⟨by rw [hpc]; rfl, (hk (by rw [hpc]; rfl)).1.1⟩
  all_goals
    simp only [Option.map_eq_some'] at h
    obtain ⟨_, -, rfl⟩ := h
  case h_3 s e _ =>
    rcases c.afterRequest_cases st s e with ⟨_, -, -, -, h'⟩ | ⟨-, -, h'⟩ | ⟨-, h'⟩ <;>
      simp [h', Config.startRequest, Config.quitTo, Pc.checked] at hc
  all_goals
    simp only [Config.entryStep, Config.ctrlStartStep, Config.pinRequestStep,
      Config.streamRunStep, Config.quitCtrlStep, Config.quitStep, Config.checkStop,
      Config.startRequest, Config.quitTo, Config.goto_pc, Config.waitOn_pc,
      apply_ite Config.pc, apply_ite Pc.checked] at hc
    simp [Pc.checked] at hc

theorem stopInv_init : StopInv (Config.init st) := by
  simp [StopInv, Config.init, Pc.checked]

theorem step_stopInv (hl : LockInv c) (hs : StopInv c) (h : step st c i = some c') :
    StopInv c' := by
  intro hc
  cases i with
  | session o =>
    rcases sessionThreadFunc_checked hl h hc with h' | ⟨hc, h'⟩
    · exact h'
    · exact h' ▸ hs hc
  | stop | setLoginPin | ctrl f =>
    rw [step_pc_other h nofun] at hc
    have hlk : c.locked = true := hl.2.trans (Pc.holds_of_checked hc)
    simp only [step, hlk, reduceIte, Bool.not_eq_true'] at h
    (try split at h) <;> cases h
    all_goals exact hs hc

theorem reachable_stopInv (hc : Reachable st c) : StopInv c := by
  induction hc with
  | init => exact stopInv_init
  | step hr h ih => exact step_stopInv (reachable_lockInv hr) ih h

/-- In every run, when the session thread is at the `LOGIN_PIN_REQUEST` event or about to call
`chiaki_senkusha_init`, `chiaki_senkusha_run`, `chiaki_random_bytes_crypt` or
`chiaki_ecdh_init`, it holds `state_mutex` and `should_stop` is unset: no stop has run since the
`CHECK_STOP` that let it through. -/
theorem checked_calls_not_stopped (hc : Reachable st c)
    (hpc : c.pc = .pinRequest ∨ c.pc = .senkushaInit ∨ c.pc = .senkushaRun ∨
      c.pc = .randomBytes ∨ c.pc = .ecdhInit) :
    c.locked = true ∧ c.shouldStop = false := by
  have hck : c.pc.checked = true := by
    rcases hpc with h | h | h | h | h <;> rw [h] <;> rfl
  exact ⟨(reachable_lockInv hc).2.trans (Pc.holds_of_checked hck), reachable_stopInv hc hck⟩

def atSenkushaInit : Config :=
  exampleRun [⟨.inet, 0⟩] (ctrlStarted .success ++ [.ctrl .sessionIdReceived, .session .noCall])

set_option maxRecDepth 100000 in
theorem checked_calls_not_stopped_senkushaInit :
    Reachable (exampleSetup [⟨.inet, 0⟩]) atSenkushaInit ∧
      atSenkushaInit.pc = .senkushaInit ∧
      atSenkushaInit.locked = true ∧ atSenkushaInit.shouldStop = false := by
  have hc : Reachable (exampleSetup [⟨.inet, 0⟩]) atSenkushaInit :=
    reachable_exampleRun (by decide)
  have hpc : atSenkushaInit.pc = .senkushaInit := by decide
  exact ⟨hc, hpc, checked_calls_not_stopped hc (.inr (.inl hpc))⟩

/-- The first request succeeds, `chiaki_session_stop` runs during the settling wait, and the
wait returns. -/
def stoppedInSettle : List Input :=
  [.session .noCall] ++ connectAttempt .success ++ accepted ++
    [.session .noCall, .stop, .session .noCall]

set_option maxRecDepth 100000 in
/-- `chiaki_session_stop` runs while the session thread is in the settling wait: the wait returns
with `state_mutex` taken back and `should_stop` set, and since no `CHECK_STOP` follows it the
session thread calls `chiaki_ctrl_start` after the stop. -/
theorem ctrl_start_after_stop :
    (run (exampleSetup [⟨.inet, 0⟩]) (Config.init (exampleSetup [⟨.inet, 0⟩]))
        stoppedInSettle).map (fun c => (c.pc, c.locked, c.shouldStop)) =
      some (.ctrlStart, true, true) ∧
    (run (exampleSetup [⟨.inet, 0⟩]) (Config.init (exampleSetup [⟨.inet, 0⟩]))
        (stoppedInSettle ++ [.session (.code .success)])).map (fun c => c.log.take 2) =
      some [.call .ctrlStart, .stop] := by
  decide

end Chiaki.Session
