import Chiaki.Session.PinRequests

/-! The end of `session_thread_func`, the labels `quit_ctrl` and `quit` (lines 523–536): the
control channel's thread is stopped and joined on every path that started it, and
`quit_reason_str` is set only by a remote disconnect. -/

namespace Chiaki.Session

/-- Where the session thread is with respect to the control channel's thread. -/
inductive CtrlStage
  | before
  | running
  | after
  deriving DecidableEq, Repr

def Pc.ctrlStage : Pc → CtrlStage
  | .wait .ctrlStartup | .wait .pin | .wait .pinResume | .pinRequest | .senkushaInit
  | .senkushaRun | .randomBytes | .ecdhInit | .streamRun | .quitCtrl => .running
  | .quit | .done => .after
  | _ => .before

def Act.isCtrlCall : Act → Bool
  | .call .ctrlStart | .call .ctrlStop | .call .ctrlJoin => true
  | _ => false

def ctrlCalls (l : List Act) : List Act := l.filter Act.isCtrlCall

variable {st : Setup} {c c' : Config} {o : Outcome} {i : Input}

theorem request_ctrlCalls {s : Site} {r : ReqPc}
    (h : sessionThreadRequestSession st c s r o = some c') :
    ctrlCalls c'.log = ctrlCalls c.log := by
  cases r
  case' loop ais => cases ais
  all_goals
    simp only [sessionThreadRequestSession, Config.loopStep, Option.map_eq_some'] at h
    obtain ⟨_, -, rfl⟩ := h
    simp only [Config.connectFailedEventually, Config.nameInfoStep, Config.socketStep,
      Config.connectStep, Config.formatHexStep, Config.sendStep, Config.recvStep,
      Config.parseStep, Config.decodeStep, Config.mismatchBranch, Config.reasonBranch,
      Config.reqReturn, Config.goto_log, Config.lock_log, Config.unlock_log, Config.record_log,
      apply_ite Config.log, apply_ite ctrlCalls]
  all_goals repeat' split
  all_goals simp [ctrlCalls, Act.isCtrlCall]

theorem pinLoopHead_ctrlCalls (d : Config) :
    d.pinLoopHead.pc.ctrlStage = .running ∧ d.pinLoopHead.log = d.log := by
  unfold Config.pinLoopHead Config.ctrlFailedExit
  split
  · exact ⟨rfl, rfl⟩
  split <;> exact ⟨rfl, rfl⟩

theorem waitReturn_ctrlCalls (w : WaitSite) :
    (c.waitReturn w).pc.ctrlStage = (Pc.wait w).ctrlStage ∧
      ctrlCalls (c.waitReturn w).log = ctrlCalls c.log := by
  cases w <;> simp only [Config.waitReturn, Config.checkStop]
  case settle => exact ⟨rfl, rfl⟩
  case ctrlStartup =>
    split
    · exact ⟨rfl, rfl⟩
    split
    · exact ⟨rfl, rfl⟩
    exact (pinLoopHead_ctrlCalls _).imp id (congrArg ctrlCalls)
  case pin =>
    split
    · exact ⟨rfl, rfl⟩
    split
    · exact ⟨rfl, rfl⟩
    simp [ctrlCalls, Act.isCtrlCall, Pc.ctrlStage]
  case pinResume =>
    split
    · exact ⟨rfl, rfl⟩
    exact (pinLoopHead_ctrlCalls _).imp id (congrArg ctrlCalls)

theorem sessionThreadFunc_ctrlCalls (h : sessionThreadFunc st c o = some c') :
    (c'.pc.ctrlStage = c.pc.ctrlStage ∧ ctrlCalls c'.log = ctrlCalls c.log) ∨
      (c.pc = .ctrlStart ∧ c'.pc.ctrlStage ≠ .before ∧
        ctrlCalls c'.log = .call .ctrlStart :: ctrlCalls c.log) ∨
      (c.pc = .quitCtrl ∧ c'.pc = .quit ∧
        ctrlCalls c'.log = .call .ctrlJoin :: .call .ctrlStop :: ctrlCalls c.log) ∨
      (c.pc.ctrlStage = .before ∧ c'.pc = .quit ∧ ctrlCalls c'.log = ctrlCalls c.log) := by
  unfold sessionThreadFunc at h
  split at h
  case h_2 s r hpc =>
    refine .inl ⟨?_, request_ctrlCalls h⟩
    rcases request_budget h with ⟨r', h', -⟩ | ⟨e, h'⟩ <;> rw [h', hpc] <;> rfl
  case h_5 w hpc =>
    split at h
    · simp only [Option.map_eq_some'] at h
      obtain ⟨_, -, rfl⟩ := h
      exact .inl (hpc ▸ waitReturn_ctrlCalls w)
    · cases h
  case h_14 => cases h
  all_goals
    simp only [Option.map_eq_some'] at h
    obtain ⟨_, -, rfl⟩ := h
  case h_3 s e hpc _ =>
    rcases c.afterRequest_cases st s e with ⟨_, -, -, -, h'⟩ | ⟨-, -, h'⟩ | ⟨-, h'⟩ <;>
      simp [h', hpc, Config.startRequest, Config.quitTo, Config.unlock, Config.goto,
        Config.waitOn, Pc.ctrlStage]
  all_goals
    rename_i hpc _
    simp only [Config.entryStep, Config.ctrlStartStep, Config.pinRequestStep,
      Config.senkushaInitStep, Config.senkushaRunStep, Config.randomBytesStep,
      Config.ecdhInitStep, Config.streamRunStep, Config.quitCtrlStep, Config.quitStep,
      Config.checkStop, Config.startRequest, Config.quitTo]
    repeat' split
  all_goals simp [hpc, Config.lock, Config.unlock, Config.goto, Config.record, Config.waitOn,
    Pc.ctrlStage, ctrlCalls, Act.isCtrlCall]

theorem step_ctrlCalls_other (h : step st c i = some c') (hi : ∀ o, i ≠ .session o) :
    ctrlCalls c'.log = ctrlCalls c.log := by
  cases i with
  | session o => exact absurd rfl (hi o)
  | stop | setLoginPin | ctrl f =>
    simp only [step] at h
    repeat' split at h
    all_goals cases h
    all_goals (try cases f) <;>
      simp [Config.sessionStop, Config.sessionSetLoginPin, Config.ctrlSetFlag, Config.record,
        ctrlCalls, Act.isCtrlCall]

theorem step_ctrlCalls (h : step st c i = some c') :
    (c'.pc.ctrlStage = c.pc.ctrlStage ∧ ctrlCalls c'.log = ctrlCalls c.log) ∨
      (c.pc = .ctrlStart ∧ c'.pc.ctrlStage ≠ .before ∧
        ctrlCalls c'.log = .call .ctrlStart :: ctrlCalls c.log) ∨
      (c.pc = .quitCtrl ∧ c'.pc = .quit ∧
        ctrlCalls c'.log = .call .ctrlJoin :: .call .ctrlStop :: ctrlCalls c.log) ∨
      (c.pc.ctrlStage = .before ∧ c'.pc = .quit ∧ ctrlCalls c'.log = ctrlCalls c.log) := by
  cases i with
  | session o => exact sessionThreadFunc_ctrlCalls h
  | stop | setLoginPin | ctrl f =>
    exact .inl ⟨by rw [step_pc_other h nofun], step_ctrlCalls_other h nofun⟩

/-- The calls into the control channel's thread at each stage: none before its start, the start
while it runs, and from `quit` on none, a start that failed, or the start, the stop and the
join. -/
def CtrlInv (c : Config) : Prop :=
  match c.pc.ctrlStage with
  | .before => ctrlCalls c.log = []
  | .running => ctrlCalls c.log = [.call .ctrlStart]
  | .after => ctrlCalls c.log = [] ∨ ctrlCalls c.log = [.call .ctrlStart] ∨
      ctrlCalls c.log = [.call .ctrlJoin, .call .ctrlStop, .call .ctrlStart]

theorem ctrlInv_init : CtrlInv (Config.init st) := rfl

theorem step_ctrlInv (hi : CtrlInv c) (h : step st c i = some c') : CtrlInv c' := by
  unfold CtrlInv at *
  rcases step_ctrlCalls h with ⟨hs, hl⟩ | ⟨hpc, hs, hl⟩ | ⟨hpc, hpc', hl⟩ |
    ⟨hs, hpc', hl⟩
  · rw [hs, hl]; exact hi
  · rw [hpc] at hi
    rw [hl, show ctrlCalls c.log = [] from hi]
    revert hs; cases c'.pc.ctrlStage <;> simp
  · rw [hpc] at hi
    rw [hpc', hl, show ctrlCalls c.log = [.call .ctrlStart] from hi]
    simp [Pc.ctrlStage]
  · rw [hs] at hi
    rw [hpc', hl, show ctrlCalls c.log = [] from hi]
    simp [Pc.ctrlStage]

theorem reachable_ctrlInv (hc : Reachable st c) : CtrlInv c := by
  induction hc with
  | init => exact ctrlInv_init
  | step _ h ih => exact step_ctrlInv ih h

/-- The session thread runs the control channel with only its start made, or has passed
`quit_ctrl`, which stopped and joined it. -/
def CtrlShutdown (c : Config) : Prop :=
  (c.pc.ctrlStage = .running ∧ ctrlCalls c.log = [.call .ctrlStart]) ∨
    (c.pc.ctrlStage = .after ∧
      ctrlCalls c.log = [.call .ctrlJoin, .call .ctrlStop, .call .ctrlStart])

theorem step_ctrlShutdown (hs : CtrlShutdown c) (h : step st c i = some c') :
    CtrlShutdown c' := by
  rcases step_ctrlCalls h with ⟨hs', hl⟩ | ⟨hpc, -⟩ | ⟨hpc, hpc', hl⟩ | ⟨hb, -⟩
  · rw [CtrlShutdown, hs', hl]; exact hs
  · rcases hs with ⟨h', -⟩ | ⟨h', -⟩ <;> rw [hpc] at h' <;> cases h'
  · rcases hs with ⟨-, h'⟩ | ⟨h', -⟩
    · exact .inr ⟨by rw [hpc']; rfl, by rw [hl, h']⟩
    · rw [hpc] at h'; cases h'
  · rcases hs with ⟨h', -⟩ | ⟨h', -⟩ <;> rw [hb] at h' <;> cases h'

theorem run_ctrlShutdown {is : List Input} (hs : CtrlShutdown c) (h : run st c is = some c') :
    CtrlShutdown c' := by
  induction is generalizing c with
  | nil => cases h; exact hs
  | cons i is ih =>
    simp only [run, Option.bind_eq_some] at h
    obtain ⟨c₁, h₁, h₂⟩ := h
    exact ih (step_ctrlShutdown hs h₁) h₂

/-- The control channel's thread is stopped and joined on every path that started it, and on no
other. In every run, `session_thread_func` calls `chiaki_ctrl_start` at most once, and
`chiaki_ctrl_stop` and `chiaki_ctrl_join` only after it, once each and in that order; while the
control channel runs (from a successful start to `quit_ctrl`) the start is the only one of these
calls made; and from every such point, whatever the collaborators return and however the other
threads interleave, every run that takes the session thread to `quit` has made the stop and the
join. -/
theorem ctrl_stopped_and_joined (hc : Reachable st c) :
    (ctrlCalls c.log = [] ∨ ctrlCalls c.log = [.call .ctrlStart] ∨
      ctrlCalls c.log = [.call .ctrlJoin, .call .ctrlStop, .call .ctrlStart]) ∧
    (c.pc.ctrlStage = .running → ctrlCalls c.log = [.call .ctrlStart]) ∧
    ∀ is c', c.pc.ctrlStage = .running → run st c is = some c' → c'.pc.ctrlStage = .after →
      ctrlCalls c'.log = [.call .ctrlJoin, .call .ctrlStop, .call .ctrlStart] := by
  have hi := reachable_ctrlInv hc
  unfold CtrlInv at hi
  refine ⟨?_, fun hr => ?_, fun is c' hr h ha => ?_⟩
  · split at hi <;> simp_all
  · rw [hr] at hi; exact hi
  · rw [hr] at hi
    rcases run_ctrlShutdown (.inl ⟨hr, hi⟩) h with ⟨h', -⟩ | ⟨-, h'⟩
    · rw [ha] at h'; cases h'
    · exact h'

theorem ctrl_stopped_and_joined_atPinWait :
    Reachable (exampleSetup [⟨.inet, 0⟩]) atPinWait ∧
      (ctrlCalls atPinWait.log = [] ∨ ctrlCalls atPinWait.log = [.call .ctrlStart] ∨
        ctrlCalls atPinWait.log = [.call .ctrlJoin, .call .ctrlStop, .call .ctrlStart]) ∧
      (atPinWait.pc.ctrlStage = .running → ctrlCalls atPinWait.log = [.call .ctrlStart]) ∧
      ∀ is c', atPinWait.pc.ctrlStage = .running →
        run (exampleSetup [⟨.inet, 0⟩]) atPinWait is = some c' → c'.pc.ctrlStage = .after →
        ctrlCalls c'.log = [.call .ctrlJoin, .call .ctrlStop, .call .ctrlStart] :=
  ⟨reachable_atPinWait, ctrl_stopped_and_joined reachable_atPinWait⟩

/-! ### The PIN dialogue while the control channel runs -/

def Act.inPinDialogue : Act → Bool
  | .event (.loginPinRequest _) | .ctrlSetLoginPin .. => true
  | _ => false

def DialogueWhileRunning : List Act → Prop
  | [] => True
  | a :: l =>
    (a.inPinDialogue = true → ctrlCalls l = [.call .ctrlStart]) ∧ DialogueWhileRunning l

theorem DialogueWhileRunning.append {l l' : List Act} (h : DialogueWhileRunning l)
    (hl : ∀ a ∈ l', a.inPinDialogue = false) : DialogueWhileRunning (l' ++ l) := by
  induction l' with
  | nil => exact h
  | cons a l' ih =>
    refine ⟨fun ha => ?_, ih fun b hb => hl b (.tail _ hb)⟩
    rw [hl a (.head _)] at ha; cases ha

theorem DialogueWhileRunning.entry {l newer older : List Act} {a : Act}
    (h : DialogueWhileRunning l) (hl : l = newer ++ a :: older) (ha : a.inPinDialogue = true) :
    ctrlCalls older = [.call .ctrlStart] := by
  subst hl
  induction newer with
  | nil => exact h.1 ha
  | cons b newer ih => exact ih h.2

theorem Act.inPinDialogue_of_isQuiet {a : Act} (h : a.isQuiet = true) :
    a.inPinDialogue = false := by
  cases a <;> first | rfl | cases h

theorem QuietExt.exists_append {l' l : List Act} (h : QuietExt l' l) :
    ∃ l₀, l' = l₀ ++ l ∧ ∀ a ∈ l₀, a.inPinDialogue = false := by
  induction h with
  | refl => exact ⟨[], rfl, nofun⟩
  | @cons a _ _ ha _ ih =>
    obtain ⟨l₀, rfl, hl₀⟩ := ih
    refine ⟨a :: l₀, rfl, fun b hb => ?_⟩
    rcases List.mem_cons.1 hb with rfl | hb
    · exact Act.inPinDialogue_of_isQuiet ha
    · exact hl₀ b hb

theorem step_dialogueEntries (hl : LockInv c) (h : step st c i = some c') :
    (∃ l₀, c'.log = l₀ ++ c.log ∧ ∀ a ∈ l₀, a.inPinDialogue = false) ∨
      ((c.pc = .pinRequest ∨ c.pc = .wait .pin) ∧ ∃ a, c'.log = a :: c.log) := by
  cases i with
  | stop | setLoginPin | ctrl f =>
    left
    simp only [step] at h
    repeat' split at h
    all_goals cases h
    all_goals first
      | exact ⟨[], rfl, nofun⟩
      | (try cases f) <;>
          exact ⟨[_], rfl, by simp [Act.inPinDialogue]⟩
  | session o =>
    simp only [step] at h
    cases ht : c.pc.touchesPin
    · exact .inl ((sessionThreadFunc_spec hl h).keepsPin ht).2.1.exists_append
    rcases Pc.touchesPin_eq_true.1 ht with hpc | hpc | hpc <;>
      simp only [sessionThreadFunc, hpc, Option.map_eq_some'] at h
    · obtain ⟨_, -, rfl⟩ := h
      exact .inr ⟨.inl hpc, _, rfl⟩
    · obtain ⟨_, -, rfl⟩ := h
      exact .inl ⟨[_], rfl, by simp [Act.inPinDialogue]⟩
    · split at h
      · simp only [Option.map_eq_some'] at h
        obtain ⟨_, -, rfl⟩ := h
        rcases waitReturn_pin_cases (c := c) with ⟨-, hl', -⟩ | ⟨-, -, heq⟩
        · exact .inl ⟨[], hl', nofun⟩
        · exact .inr ⟨.inr hpc, _, by rw [heq, Config.forwardPin_log, Config.lock_log]⟩
      · cases h

theorem step_dialogueWhileRunning (hl : LockInv c) (hi : CtrlInv c)
    (hd : DialogueWhileRunning c.log) (h : step st c i = some c') :
    DialogueWhileRunning c'.log := by
  rcases step_dialogueEntries hl h with ⟨l₀, hlog, hl₀⟩ | ⟨hpc, a, hlog⟩
  · rw [hlog]; exact hd.append hl₀
  · rw [hlog]
    refine ⟨fun _ => ?_, hd⟩
    unfold CtrlInv at hi
    rcases hpc with hpc | hpc <;> rw [hpc] at hi <;> exact hi

theorem reachable_dialogueWhileRunning (hc : Reachable st c) : DialogueWhileRunning c.log := by
  induction hc with
  | init => trivial
  | step hr h ih =>
    exact step_dialogueWhileRunning (reachable_lockInv hr) (reachable_ctrlInv hr) ih h

/-- In every run, the session thread asks the embedder for a PIN and hands a PIN to the control
channel only while the control channel's thread runs: each `LOGIN_PIN_REQUEST` event and each
`chiaki_ctrl_set_login_pin` comes after `chiaki_ctrl_start` and before `chiaki_ctrl_stop`. -/
theorem pin_dialogue_while_ctrl_runs (hc : Reachable st c) :
    ∀ newer a older, c.log = newer ++ a :: older → a.inPinDialogue = true →
      ctrlCalls older = [.call .ctrlStart] :=
  fun _ _ _ hl ha => (reachable_dialogueWhileRunning hc).entry hl ha

theorem pin_dialogue_while_ctrl_runs_atPinWait :
    Reachable (exampleSetup [⟨.inet, 0⟩]) atPinWait ∧
      ∀ newer a older, atPinWait.log = newer ++ a :: older → a.inPinDialogue = true →
        ctrlCalls older = [.call .ctrlStart] :=
  ⟨reachable_atPinWait, pin_dialogue_while_ctrl_runs reachable_atPinWait⟩

/-! ### The reason string -/

theorem sessionThreadFunc_quitReasonStr (h : sessionThreadFunc st c o = some c') :
    c'.quitReasonStr = c.quitReasonStr ∨
      (c'.quitReason = .streamConnectionRemoteDisconnected ∧ c'.pc = .quitCtrl) := by
  unfold sessionThreadFunc at h
  split at h
  case h_2 => exact .inl (request_keeps_flags h).2.2
  case h_5 w _ =>
    split at h
    · simp only [Option.map_eq_some'] at h
      obtain ⟨_, -, rfl⟩ := h
      left
      cases w <;>
        simp only [Config.waitReturn, Config.checkStop, Config.ctrlFailedExit,
          Config.pinLoopHead, Config.forwardPin, Config.quitTo, Config.goto, Config.lock,
          Config.unlock, Config.record, Config.waitOn, apply_ite Config.quitReasonStr, ite_self]
    · cases h
  case h_14 => cases h
  all_goals
    simp only [Option.map_eq_some'] at h
    obtain ⟨_, -, rfl⟩ := h
  case h_11 =>
    simp only [Config.streamRunStep]
    split
    · exact .inr ⟨rfl, rfl⟩
    · left
      simp only [Config.record, Config.lock, Config.unlock, Config.goto,
        apply_ite Config.quitReasonStr, ite_self]
  case' h_3 s _ _ _ => cases s
  all_goals
    left
    simp only [Config.entryStep, Config.afterRequest, Config.ctrlStartStep,
      Config.pinRequestStep, Config.senkushaInitStep, Config.senkushaRunStep,
      Config.randomBytesStep, Config.ecdhInitStep, Config.quitCtrlStep, Config.quitStep,
      Config.checkStop, Config.startRequest, Config.quitTo, Config.goto, Config.lock,
      Config.unlock, Config.record, Config.waitOn, apply_ite Config.quitReasonStr, ite_self]

theorem sessionThreadFunc_quitEvents (hl : LockInv c) (h : sessionThreadFunc st c o = some c')
    (hp : c.pc ≠ .quit) (r : QuitReason) (s : Option String)
    (he : Event.quit r s ∈ events c'.log) : Event.quit r s ∈ events c.log := by
  cases ht : c.pc.touchesPin
  · rwa [((sessionThreadFunc_spec hl h).keepsPin ht).2.1.events_eq] at he
  rcases Pc.touchesPin_eq_true.1 ht with hpc | hpc | hpc
  · simp only [sessionThreadFunc, hpc, Option.map_eq_some'] at h
    obtain ⟨_, -, rfl⟩ := h
    simpa [Config.pinRequestStep, Config.record] using he
  · exact absurd hpc hp
  · simp only [sessionThreadFunc, hpc] at h
    split at h
    · simp only [Option.map_eq_some'] at h
      obtain ⟨_, -, rfl⟩ := h
      rcases waitReturn_pin_cases (c := c) with ⟨-, hl', -⟩ | ⟨-, -, heq⟩
      · rwa [hl'] at he
      · simpa [heq, events_cons, Act.event?] using he
    · cases h

theorem sessionThreadFunc_teardown (h : sessionThreadFunc st c o = some c')
    (hp : c.pc = .quitCtrl ∨ c.pc = .quit) :
    c'.quitReason = c.quitReason ∧ c'.quitReasonStr = c.quitReasonStr ∧
      (c'.pc = .quit ∨ c'.pc = .done) ∧
      ∀ r s, Event.quit r s ∈ events c'.log →
        Event.quit r s ∈ events c.log ∨ (r = c.quitReason ∧ s = c.quitReasonStr) := by
  rcases hp with hpc | hpc <;> simp only [sessionThreadFunc, hpc, Option.map_eq_some'] at h <;>
    obtain ⟨_, -, rfl⟩ := h
  · simp [Config.quitCtrlStep, Config.record, Config.goto, events_cons, Act.event?]
    exact fun _ _ => .inl
  · simp [Config.quitStep, Config.record, Config.goto]
    exact fun _ _ => Or.symm

def ReasonStrInv (c : Config) : Prop :=
  (c.quitReasonStr.isSome = true → c.quitReason = .streamConnectionRemoteDisconnected ∧
      (c.pc = .quitCtrl ∨ c.pc = .quit ∨ c.pc = .done)) ∧
    ∀ r s, Event.quit r s ∈ events c.log → s.isSome = true →
      r = .streamConnectionRemoteDisconnected

theorem reasonStrInv_init : ReasonStrInv (Config.init st) := by
  simp [ReasonStrInv, Config.init, events]

theorem step_reasonStrInv (hl : LockInv c) (hi : ReasonStrInv c) (h : step st c i = some c') :
    ReasonStrInv c' := by
  obtain ⟨hstr, hev⟩ := hi
  cases i with
  | stop | setLoginPin | ctrl f =>
    simp only [step] at h
    repeat' split at h
    all_goals cases h
    all_goals first | exact ⟨hstr, hev⟩ | (try cases f) <;>
      simpa [ReasonStrInv, Config.sessionStop, Config.sessionSetLoginPin, Config.ctrlSetFlag,
        Config.record, events_cons, Act.event?] using (⟨hstr, hev⟩ : ReasonStrInv c)
  | session o =>
    simp only [step] at h
    by_cases ht : c.pc = .quitCtrl ∨ c.pc = .quit
    · obtain ⟨hr, hs, hpc', hq⟩ := sessionThreadFunc_teardown h ht
      refine ⟨fun h' => ?_, fun r s he hs' => ?_⟩
      · rw [hs] at h'
        exact ⟨hr ▸ (hstr h').1, by rcases hpc' with h'' | h'' <;> simp [h'']⟩
      · rcases hq r s he with he | ⟨rfl, rfl⟩
        · exact hev r s he hs'
        · exact (hstr hs').1
    have hnone : c.quitReasonStr = none := by
      cases hq : c.quitReasonStr with
      | none => rfl
      | some _ =>
        rcases (hstr (by simp [hq])).2 with hpc | hpc | hpc
        · exact absurd (.inl hpc) ht
        · exact absurd (.inr hpc) ht
        · simp [sessionThreadFunc, hpc] at h
    refine ⟨fun h' => ?_, fun r s he => hev r s
      (sessionThreadFunc_quitEvents hl h (fun hq => ht (.inr hq)) r s he)⟩
    rcases sessionThreadFunc_quitReasonStr h with h'' | h''
    · rw [h'', hnone] at h'; cases h'
    · exact ⟨h''.1, .inl h''.2⟩

theorem reachable_reasonStrInv (hc : Reachable st c) : ReasonStrInv c := by
  induction hc with
  | init => exact reasonStrInv_init
  | step hr h ih => exact step_reasonStrInv (reachable_lockInv hr) ih h

/-- In every run, `quit_reason_str` is set only together with
`STREAM_CONNECTION_REMOTE_DISCONNECTED`, so every `QUIT` event handed to the embedder that
carries a reason string carries that reason: the string is the remote's disconnect reason and
nothing else. -/
theorem quit_reason_str_only_remote_disconnect (hc : Reachable st c) :
    (c.quitReasonStr.isSome = true → c.quitReason = .streamConnectionRemoteDisconnected) ∧
      ∀ r s, Event.quit r s ∈ events c.log → s.isSome = true →
        r = .streamConnectionRemoteDisconnected :=
  have hi := reachable_reasonStrInv hc
  ⟨fun h => (hi.1 h).1, hi.2⟩

/-- The whole session up to the stream connection, which the remote ends with a reason. -/
def remoteDisconnected : Config :=
  exampleRun [⟨.inet, 0⟩] (ctrlStarted .success ++
    [.ctrl .sessionIdReceived, .session .noCall, .session (.code .success),
      .session (.probe .success 1454 1454 1000), .session (.code .success),
      .session (.code .success), .session (.stream .disconnected (some "Server shutting down")),
      .session .noCall, .session .noCall])

set_option maxRecDepth 100000 in
theorem quit_reason_str_only_remote_disconnect_remoteDisconnected :
    Reachable (exampleSetup [⟨.inet, 0⟩]) remoteDisconnected ∧
      remoteDisconnected.pc = .done ∧
      remoteDisconnected.quitReasonStr = some "Server shutting down" ∧
      (remoteDisconnected.quitReasonStr.isSome = true →
        remoteDisconnected.quitReason = .streamConnectionRemoteDisconnected) ∧
      ∀ r s, Event.quit r s ∈ events remoteDisconnected.log → s.isSome = true →
        r = .streamConnectionRemoteDisconnected := by
  have hc : Reachable (exampleSetup [⟨.inet, 0⟩]) remoteDisconnected :=
    reachable_exampleRun (by decide)
  exact ⟨hc, by decide, by decide, quit_reason_str_only_remote_disconnect hc⟩

end Chiaki.Session
