import Chiaki.Session.Teardown
import Mathlib.Data.List.Chain

/-! The order of the collaborator calls of `session_thread_func`: every call of the handshake
is made at most once, after all the calls before it, and the stream setup waits for the
session id. -/

namespace Chiaki.Session

/-- The place of a collaborator call in the handshake; the calls of the session request share
place 0. -/
def Callee.order : Callee → Nat
  | .getnameinfo | .connect | .recv => 0
  | .ctrlStart => 1
  | .senkushaInit => 2
  | .senkushaRun => 3
  | .randomBytesCrypt => 4
  | .ecdhInit => 5
  | .streamConnectionRun => 6
  | .ctrlStop => 7
  | .ctrlJoin => 8

def Act.call? : Act → Option Callee
  | .call f => some f
  | _ => none

def calls (l : List Act) : List Callee := l.filterMap Act.call?

def Follows (later earlier : Nat) : Prop := earlier < later ∨ (earlier = 0 ∧ later = 0)

instance : DecidableRel Follows := fun _ _ => inferInstanceAs (Decidable (_ ∨ _))

instance : IsTrans Nat Follows := ⟨fun _ _ _ h₁ h₂ => by unfold Follows at *; omega⟩

/-- The least place of a call the session thread can still make from a point. -/
def Pc.nextOrder : Pc → Nat
  | .entry | .req .. | .reqReturn .. | .wait .settle => 0
  | .ctrlStart => 1
  | .wait .ctrlStartup | .wait .pin | .wait .pinResume | .pinRequest | .senkushaInit => 2
  | .senkushaRun => 3
  | .randomBytes => 4
  | .ecdhInit => 5
  | .streamRun => 6
  | .quitCtrl => 7
  | .quit | .done => 9

theorem chain_follows_mono {p q : Nat} {l : List Nat} (h : l.Chain Follows p) (hpq : p ≤ q) :
    l.Chain Follows q := by
  cases l with
  | nil => exact .nil
  | cons x l =>
    rw [List.chain_cons] at h ⊢
    refine ⟨?_, h.2⟩
    unfold Follows at *; omega

theorem Pc.nextOrder_of_running {p : Pc} (h : p.ctrlStage = .running) : 2 ≤ p.nextOrder := by
  cases p <;> (try cases ‹WaitSite›) <;> simp_all [Pc.ctrlStage, Pc.nextOrder]

def CallOrderInv (c : Config) : Prop :=
  ((calls c.log).map Callee.order).Chain Follows c.pc.nextOrder

variable {st : Setup} {c c' : Config} {o : Outcome} {i : Input}

theorem request_calls {s : Site} {r : ReqPc}
    (h : sessionThreadRequestSession st c s r o = some c') :
    calls c'.log = calls c.log ∨
      ∃ f : Callee, calls c'.log = f :: calls c.log ∧ f.order = 0 := by
  cases r
  case' loop ais => cases ais
  all_goals
    simp only [sessionThreadRequestSession, Config.loopStep, Option.map_eq_some'] at h
    obtain ⟨_, -, rfl⟩ := h
    simp only [Config.connectFailedEventually, Config.nameInfoStep, Config.socketStep,
      Config.connectStep, Config.formatHexStep, Config.sendStep, Config.recvStep,
      Config.parseStep, Config.decodeStep, Config.mismatchBranch, Config.reasonBranch,
      Config.reqReturn, Config.goto_log, Config.lock_log, Config.unlock_log, Config.record_log,
      apply_ite Config.log, apply_ite calls, calls, List.filterMap_cons, Act.call?, true_or]
  all_goals repeat' split
  all_goals first | exact .inl rfl | exact .inr ⟨_, rfl, rfl⟩

theorem waitReturn_calls (w : WaitSite) :
    calls (c.waitReturn w).log = calls c.log ∧
      (Pc.wait w).nextOrder ≤ (c.waitReturn w).pc.nextOrder := by
  have hs := (waitReturn_ctrlCalls (c := c) w).1
  cases w
  case settle => exact ⟨rfl, Nat.zero_le _⟩
  case pin =>
    refine ⟨?_, Pc.nextOrder_of_running hs⟩
    rcases waitReturn_pin_cases (c := c) with ⟨-, hl, -⟩ | ⟨-, -, heq⟩
    · rw [hl]
    · simp [heq, calls, Act.call?]
  case ctrlStartup => exact ⟨by rw [waitReturn_ctrlStartup_cases.1], Pc.nextOrder_of_running hs⟩
  case pinResume =>
    refine ⟨?_, Pc.nextOrder_of_running hs⟩
    simp only [Config.waitReturn, Config.checkStop]
    split
    · rfl
    · rw [(pinLoopHead_ctrlCalls _).2]; rfl

theorem sessionThreadFunc_callOrderInv (hi : CallOrderInv c)
    (h : sessionThreadFunc st c o = some c') : CallOrderInv c' := by
  unfold CallOrderInv at hi ⊢
  unfold sessionThreadFunc at h
  split at h
  case h_2 s r hpc =>
    rw [hpc] at hi
    have h0 : c'.pc.nextOrder = 0 := by
      rcases request_budget h with ⟨r', h', -⟩ | ⟨e, h'⟩ <;> rw [h'] <;> rfl
    rw [h0]
    rcases request_calls h with hl | ⟨f, hl, hf⟩
    · rw [hl]; exact hi
    · rw [hl, List.map_cons, hf]; exact .cons (.inr ⟨rfl, rfl⟩) hi
  case h_5 w hpc =>
    split at h
    · simp only [Option.map_eq_some'] at h
      obtain ⟨_, -, rfl⟩ := h
      rw [(waitReturn_calls w).1]
      exact chain_follows_mono hi (hpc ▸ (waitReturn_calls w).2)
    · cases h
  case h_14 => cases h
  all_goals
    simp only [Option.map_eq_some'] at h
    obtain ⟨_, -, rfl⟩ := h
  case h_3 s e hpc _ =>
    rw [hpc] at hi
    rcases c.afterRequest_cases st s e with ⟨_, -, -, -, h'⟩ | ⟨-, -, h'⟩ | ⟨-, h'⟩ <;>
      rw [h'] <;> exact chain_follows_mono hi (Nat.zero_le _)
  all_goals
    rename_i hpc _
    rw [hpc] at hi
    simp only [Config.entryStep, Config.ctrlStartStep, Config.pinRequestStep,
      Config.senkushaInitStep, Config.senkushaRunStep, Config.randomBytesStep,
      Config.ecdhInitStep, Config.streamRunStep, Config.quitCtrlStep, Config.quitStep,
      Config.checkStop, Config.startRequest, Config.quitTo]
    repeat' split
  all_goals
    simp only [Config.goto_log, Config.lock_log, Config.unlock_log, Config.record_log,
      Config.waitOn_log, Config.goto_pc, Config.lock_pc, Config.unlock_pc, Config.record_pc,
      Config.waitOn_pc, calls, List.filterMap_cons, Act.call?, List.map_cons, Pc.nextOrder,
      Callee.order] at hi ⊢
  all_goals first
    | exact chain_follows_mono hi (by decide)
    | exact .cons (by decide) (chain_follows_mono hi (by decide))
    | exact .cons (by decide) (.cons (by decide) (chain_follows_mono hi (by decide)))

theorem step_calls_other (h : step st c i = some c') (hi : ∀ o, i ≠ .session o) :
    calls c'.log = calls c.log := by
  cases i with
  | session o => exact absurd rfl (hi o)
  | stop | setLoginPin | ctrl f =>
    simp only [step] at h
    repeat' split at h
    all_goals cases h
    all_goals (try cases f) <;>
      simp [Config.sessionStop, Config.sessionSetLoginPin, Config.ctrlSetFlag, Config.record,
        calls, Act.call?]

theorem step_callOrderInv (hi : CallOrderInv c) (h : step st c i = some c') :
    CallOrderInv c' := by
  cases i with
  | session o => exact sessionThreadFunc_callOrderInv hi h
  | stop | setLoginPin | ctrl f =>
    rw [CallOrderInv, step_pc_other h nofun, step_calls_other h nofun]
    exact hi

theorem reachable_callOrderInv (hc : Reachable st c) : CallOrderInv c := by
  induction hc with
  | init => exact .nil
  | step _ h ih => exact step_callOrderInv ih h

/-- In every run, any two collaborator calls of the session thread are in the order of the
handshake: a later call is at a later place, or both are calls of the session request. So
`chiaki_ctrl_start`, `chiaki_senkusha_init`, `chiaki_senkusha_run`,
`chiaki_random_bytes_crypt`, `chiaki_ecdh_init`, `chiaki_stream_connection_run`,
`chiaki_ctrl_stop` and `chiaki_ctrl_join` are each called at most once, in this order and after
every call of the session request. -/
theorem calls_follow_handshake (hc : Reachable st c) :
    (calls c.log).Pairwise (fun later earlier => Follows later.order earlier.order) ∧
      ((calls c.log).filter fun f => f.order != 0).Nodup := by
  have hp : (calls c.log).Pairwise (fun later earlier => Follows later.order earlier.order) :=
    List.pairwise_map.1 (List.pairwise_cons.1 (reachable_callOrderInv hc).pairwise).2
  refine ⟨hp, (hp.filter _).imp_of_mem ?_⟩
  intro f g hf _ hfg heq
  subst heq
  simp only [List.mem_filter, bne_iff_ne, ne_eq] at hf
  unfold Follows at hfg
  omega

theorem calls_follow_handshake_atPinWait :
    (calls atPinWait.log).Pairwise (fun later earlier => Follows later.order earlier.order) ∧
      ((calls atPinWait.log).filter fun f => f.order != 0).Nodup :=
  calls_follow_handshake reachable_atPinWait

/-! ### The session id before the stream setup

The control channel sets `ctrl_session_id_received` when the console sends the session id, and
nothing resets it. The head of the PIN loop goes on to `chiaki_senkusha_init` only with the flag
set (line 452), so the calls from Senkusha to the stream connection all run after the report. -/

def Pc.inStreamSetup : Pc → Bool
  | .senkushaInit | .senkushaRun | .randomBytes | .ecdhInit | .streamRun => true
  | _ => false

theorem pinLoopHead_sessionIdFlag (d : Config) :
    d.pinLoopHead.ctrlSessionIdReceived = d.ctrlSessionIdReceived ∧
      (d.pinLoopHead.pc.inStreamSetup = true → d.ctrlSessionIdReceived = true) := by
  unfold Config.pinLoopHead Config.ctrlFailedExit
  split
  · exact ⟨rfl, nofun⟩
  split
  · exact ⟨rfl, fun _ => ‹_›⟩
  · exact ⟨rfl, nofun⟩

theorem waitReturn_sessionIdFlag (w : WaitSite) :
    (c.waitReturn w).ctrlSessionIdReceived = c.ctrlSessionIdReceived ∧
      ((c.waitReturn w).pc.inStreamSetup = true → c.ctrlSessionIdReceived = true) := by
  cases w <;> simp only [Config.waitReturn, Config.checkStop]
  case settle => exact ⟨rfl, nofun⟩
  case ctrlStartup =>
    split
    · exact ⟨rfl, nofun⟩
    split
    · exact ⟨rfl, nofun⟩
    exact pinLoopHead_sessionIdFlag _
  case pin =>
    split
    · exact ⟨rfl, nofun⟩
    split
    · exact ⟨rfl, nofun⟩
    refine ⟨?_, by simp [Pc.inStreamSetup]⟩
    simp only [Config.forwardPin]; split <;> rfl
  case pinResume =>
    split
    · exact ⟨rfl, nofun⟩
    exact pinLoopHead_sessionIdFlag _

theorem sessionThreadFunc_sessionIdFlag (h : sessionThreadFunc st c o = some c') :
    c'.ctrlSessionIdReceived = c.ctrlSessionIdReceived ∧
      (c'.pc.inStreamSetup = true →
        c.pc.inStreamSetup = true ∨ c.ctrlSessionIdReceived = true) := by
  unfold sessionThreadFunc at h
  split at h
  case h_2 s r hpc =>
    refine ⟨(request_keeps_flags h).2.1, fun h' => ?_⟩
    rcases request_budget h with ⟨r', hr, -⟩ | ⟨e, hr⟩ <;> rw [hr] at h' <;> cases h'
  case h_5 w hpc =>
    split at h
    · simp only [Option.map_eq_some'] at h
      obtain ⟨_, -, rfl⟩ := h
      exact (waitReturn_sessionIdFlag w).imp_right fun hw h' => .inr (hw h')
    · cases h
  case h_14 => cases h
  all_goals
    simp only [Option.map_eq_some'] at h
    obtain ⟨_, -, rfl⟩ := h
  case h_3 s e hpc _ =>
    rcases c.afterRequest_cases st s e with ⟨_, -, -, -, h'⟩ | ⟨-, -, h'⟩ | ⟨-, h'⟩ <;>
      rw [h'] <;> exact ⟨rfl, nofun⟩
  all_goals
    rename_i hpc _
    simp only [Config.entryStep, Config.ctrlStartStep, Config.pinRequestStep,
      Config.senkushaInitStep, Config.senkushaRunStep, Config.randomBytesStep,
      Config.ecdhInitStep, Config.streamRunStep, Config.quitCtrlStep, Config.quitStep,
      Config.checkStop, Config.startRequest, Config.quitTo, Config.goto, Config.lock,
      Config.unlock, Config.record, Config.waitOn, apply_ite Config.ctrlSessionIdReceived,
      apply_ite Config.pc, apply_ite Pc.inStreamSetup, hpc, ite_self]
    simp only [Pc.inStreamSetup, ite_self, Bool.false_eq_true, false_implies, true_or,
      implies_true, and_self]

theorem step_log_suffix (hl : LockInv c) (h : step st c i = some c') : c.log <:+ c'.log := by
  rcases step_dialogueEntries hl h with ⟨l₀, hlog, -⟩ | ⟨-, a, hlog⟩
  · exact ⟨l₀, hlog.symm⟩
  · exact ⟨[a], hlog.symm⟩

def SessionIdInv (c : Config) : Prop :=
  (c.ctrlSessionIdReceived = true → .ctrlFlag .sessionIdReceived ∈ c.log) ∧
    (c.pc.inStreamSetup = true → c.ctrlSessionIdReceived = true)

theorem step_sessionIdInv (hl : LockInv c) (hi : SessionIdInv c) (h : step st c i = some c') :
    SessionIdInv c' := by
  have hs := step_log_suffix hl h
  cases i with
  | session o =>
    obtain ⟨hf, hp⟩ := sessionThreadFunc_sessionIdFlag h
    refine ⟨fun h' => hs.subset (hi.1 (hf ▸ h')), fun h' => hf ▸ ?_⟩
    rcases hp h' with h'' | h''
    · exact hi.2 h''
    · exact h''
  | stop | setLoginPin | ctrl f =>
    rw [SessionIdInv, step_pc_other h nofun]
    refine ⟨fun h' => ?_, fun h' => ?_⟩
    all_goals
      simp only [step] at h
      repeat' split at h
      all_goals cases h
    all_goals (try cases f) <;>
      simp_all [SessionIdInv, Config.sessionStop, Config.sessionSetLoginPin, Config.ctrlSetFlag,
        Config.record]

theorem reachable_sessionIdInv (hc : Reachable st c) : SessionIdInv c := by
  induction hc with
  | init => exact ⟨nofun, nofun⟩
  | step hr h ih => exact step_sessionIdInv (reachable_lockInv hr) ih h

/-- In every run, from the call of `chiaki_senkusha_init` to the return of
`chiaki_stream_connection_run` the control channel has reported the session id:
`ctrl_session_id_received` is set, and the trace holds the report. The session thread sets up
the stream only after the control channel's session id. -/
theorem stream_setup_after_session_id (hc : Reachable st c)
    (hpc : c.pc = .senkushaInit ∨ c.pc = .senkushaRun ∨ c.pc = .randomBytes ∨
      c.pc = .ecdhInit ∨ c.pc = .streamRun) :
    c.ctrlSessionIdReceived = true ∧ .ctrlFlag .sessionIdReceived ∈ c.log := by
  have hs : c.pc.inStreamSetup = true := by
    rcases hpc with h | h | h | h | h <;> rw [h] <;> rfl
  have hi := reachable_sessionIdInv hc
  exact ⟨hi.2 hs, hi.1 (hi.2 hs)⟩

set_option maxRecDepth 100000 in
theorem stream_setup_after_session_id_senkushaInit :
    Reachable (exampleSetup [⟨.inet, 0⟩]) atSenkushaInit ∧
      atSenkushaInit.pc = .senkushaInit ∧ atSenkushaInit.ctrlSessionIdReceived = true ∧
      .ctrlFlag .sessionIdReceived ∈ atSenkushaInit.log := by
  have hc : Reachable (exampleSetup [⟨.inet, 0⟩]) atSenkushaInit :=
    reachable_exampleRun (by decide)
  have hpc : atSenkushaInit.pc = .senkushaInit := by decide
  exact ⟨hc, hpc, stream_setup_after_session_id hc (.inl hpc)⟩

end Chiaki.Session
