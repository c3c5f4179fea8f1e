import Chiaki.Session.Progress

/-! The PIN dialogue of the PIN loop (lines 418–449): every `LOGIN_PIN_REQUEST` answers a
request of the control channel, and the events and the forwarded PINs alternate. -/

namespace Chiaki.Session

variable {st : Setup} {c c' : Config} {o : Outcome} {i : Input}

theorem request_keeps_flags {s : Site} {r : ReqPc}
    (h : sessionThreadRequestSession st c s r o = some c') :
    c'.ctrlLoginPinRequested = c.ctrlLoginPinRequested ∧
      c'.ctrlSessionIdReceived = c.ctrlSessionIdReceived ∧
      c'.quitReasonStr = c.quitReasonStr := by
  cases r
  case' loop ais => cases ais
  all_goals
    simp only [sessionThreadRequestSession, Config.loopStep, Option.map_eq_some'] at h
    obtain ⟨_, -, rfl⟩ := h
    simp only [Config.connectFailedEventually, Config.nameInfoStep, Config.socketStep,
      Config.connectStep, Config.formatHexStep, Config.sendStep, Config.recvStep,
      Config.parseStep, Config.decodeStep, Config.mismatchBranch, Config.reasonBranch,
      Config.reqReturn, Config.goto, Config.lock, Config.unlock, Config.record,
      apply_ite Config.ctrlLoginPinRequested, apply_ite Config.ctrlSessionIdReceived,
      apply_ite Config.quitReasonStr, ite_self, and_true, true_and]
  all_goals repeat' split
  all_goals first | rfl | exact ⟨rfl, rfl⟩ | exact ⟨rfl, rfl, rfl⟩

theorem forwardPin_ctrlLoginPinRequested :
    c.forwardPin.ctrlLoginPinRequested = c.ctrlLoginPinRequested := by
  simp only [Config.forwardPin]; split <;> rfl

theorem pinLoopHead_pinFlag (d : Config) :
    (d.pinLoopHead.ctrlLoginPinRequested = d.ctrlLoginPinRequested ∧
        d.pinLoopHead.pc ≠ .pinRequest) ∨
      (d.ctrlLoginPinRequested = true ∧ d.pinLoopHead.ctrlLoginPinRequested = false ∧
        d.pinLoopHead.pc = .pinRequest) := by
  unfold Config.pinLoopHead
  split
  · exact .inr ⟨‹_›, rfl, rfl⟩
  · left
    split <;> simp [Config.goto, Config.ctrlFailedExit, Config.quitTo, Config.unlock]

theorem waitReturn_pinFlag (w : WaitSite) :
    ((c.waitReturn w).ctrlLoginPinRequested = c.ctrlLoginPinRequested ∧
        (c.waitReturn w).pc ≠ .pinRequest) ∨
      (c.ctrlLoginPinRequested = true ∧ (c.waitReturn w).ctrlLoginPinRequested = false ∧
        (c.waitReturn w).pc = .pinRequest) := by
  cases w <;> simp only [Config.waitReturn, Config.checkStop]
  case ctrlStartup =>
    split
    · simp [Config.lock, Config.quitTo, Config.unlock, Config.goto]
    split
    · simp [Config.lock, Config.ctrlFailedExit, Config.quitTo, Config.unlock, Config.goto]
    exact pinLoopHead_pinFlag _
  case pinResume =>
    split
    · simp [Config.lock, Config.quitTo, Config.unlock, Config.goto]
    exact pinLoopHead_pinFlag _
  all_goals repeat' split
  all_goals simp [Config.lock, Config.unlock, Config.goto, Config.ctrlFailedExit, Config.quitTo,
    forwardPin_ctrlLoginPinRequested]

theorem sessionThreadFunc_pinFlag (h : sessionThreadFunc st c o = some c') :
    (c'.ctrlLoginPinRequested = c.ctrlLoginPinRequested ∧ c'.pc ≠ .pinRequest) ∨
      (c.ctrlLoginPinRequested = true ∧ c'.ctrlLoginPinRequested = false ∧
        c'.pc = .pinRequest) := by
  unfold sessionThreadFunc at h
  split at h
  case h_2 s r hpc =>
    refine .inl ⟨(request_keeps_flags h).1, ?_⟩
    rcases request_budget h with ⟨r', h', -⟩ | ⟨e, h'⟩ <;> rw [h'] <;> nofun
  case h_5 w hpc =>
    split at h
    · simp only [Option.map_eq_some'] at h
      obtain ⟨_, -, rfl⟩ := h
      exact waitReturn_pinFlag w
    · cases h
  case h_14 => cases h
  all_goals
    simp only [Option.map_eq_some'] at h
    obtain ⟨_, -, rfl⟩ := h
    left
  case h_3 s e _ _ =>
    rcases c.afterRequest_cases st s e with ⟨_, -, -, -, h'⟩ | ⟨-, -, h'⟩ | ⟨-, h'⟩ <;>
      simp [h', Config.startRequest, Config.quitTo, Config.unlock, Config.goto, Config.waitOn]
  all_goals
    simp only [Config.entryStep, Config.ctrlStartStep, Config.pinRequestStep,
      Config.senkushaInitStep, Config.senkushaRunStep, Config.randomBytesStep,
      Config.ecdhInitStep, Config.streamRunStep, Config.quitCtrlStep, Config.quitStep,
      Config.checkStop, Config.startRequest, Config.quitTo]
    repeat' split
  all_goals simp [Config.lock, Config.unlock, Config.goto, Config.record, Config.waitOn]

def ctrlPinRequestCount (l : List Act) : Nat := l.count (.ctrlFlag .loginPinRequested)

theorem QuietExt.ctrlPinRequestCount_eq {l' l : List Act} (h : QuietExt l' l) :
    ctrlPinRequestCount l' = ctrlPinRequestCount l := by
  induction h with
  | refl => rfl
  | @cons a _ _ ha _ ih =>
    rw [← ih]
    cases a <;> simp_all [ctrlPinRequestCount, Act.isQuiet, List.count_cons]

theorem sessionThreadFunc_ctrlPinRequestCount (hl : LockInv c)
    (h : sessionThreadFunc st c o = some c') :
    ctrlPinRequestCount c'.log = ctrlPinRequestCount c.log := by
  cases ht : c.pc.touchesPin
  · exact ((sessionThreadFunc_spec hl h).keepsPin ht).2.1.ctrlPinRequestCount_eq
  rcases Pc.touchesPin_eq_true.1 ht with hpc | hpc | hpc <;>
    simp only [sessionThreadFunc, hpc, Option.map_eq_some'] at h
  · obtain ⟨_, -, rfl⟩ := h
    simp [ctrlPinRequestCount, Config.pinRequestStep, Config.record, List.count_cons]
  · obtain ⟨_, -, rfl⟩ := h
    simp [ctrlPinRequestCount, Config.quitStep, Config.record, List.count_cons]
  · split at h
    · simp only [Option.map_eq_some'] at h
      obtain ⟨_, -, rfl⟩ := h
      rcases waitReturn_pin_cases (c := c) with ⟨-, hl', -⟩ | ⟨-, -, heq⟩
      · rw [hl']
      · simp [heq, ctrlPinRequestCount, List.count_cons]
    · cases h

/-- Each PIN request of the control channel is pending in `ctrl_login_pin_requested`, about to
be answered by the `LOGIN_PIN_REQUEST` event, answered, or lost: the requests outnumber the
events. -/
def PinRequestInv (c : Config) : Prop :=
  pinRequestCount c.log + c.ctrlLoginPinRequested.toNat + (if c.pc = .pinRequest then 1 else 0) ≤
    ctrlPinRequestCount c.log

theorem pinRequestInv_init : PinRequestInv (Config.init st) := by
  simp [PinRequestInv, Config.init, pinRequestCount, ctrlPinRequestCount, events]

theorem step_pinRequestInv (hl : LockInv c) (hi : PinRequestInv c) (h : step st c i = some c') :
    PinRequestInv c' := by
  unfold PinRequestInv at *
  cases i with
  | session o =>
    rw [sessionThreadFunc_ctrlPinRequestCount hl h]
    rcases step_pinRequestCount hl h with hk | ⟨-, hpc, hpc', hk⟩ <;>
      rcases sessionThreadFunc_pinFlag h with ⟨hf, hp⟩ | ⟨hf, hf', hp⟩
    · rw [hk, hf, if_neg hp]; omega
    · rw [hf] at hi
      simp only [hk, hf', hp, Bool.toNat_true, Bool.toNat_false, ↓reduceIte] at hi ⊢
      omega
    · rw [hpc] at hi
      rw [hk, hf, if_neg hp]
      simp only [↓reduceIte] at hi
      omega
    · rw [hpc'] at hp; cases hp
  | stop | setLoginPin | ctrl f =>
    simp only [step] at h
    repeat' split at h
    all_goals cases h
    all_goals first | exact hi | (try cases f) <;>
      simp [Config.sessionStop, Config.sessionSetLoginPin, Config.ctrlSetFlag, Config.record,
        ctrlPinRequestCount, pinRequestCount_cons, Act.event?, List.count_cons] at hi ⊢ <;> omega

theorem reachable_pinRequestInv (hc : Reachable st c) : PinRequestInv c := by
  induction hc with
  | init => exact pinRequestInv_init
  | step hr h ih => exact step_pinRequestInv (reachable_lockInv hr) ih h

/-- In every run, however the control channel interleaves with the session thread, each time
the control channel sets `ctrl_login_pin_requested` leads to at most one `LOGIN_PIN_REQUEST`
event. The events sent, the request pending in the flag and the event about to be sent are
together at most the number of times the control channel set the flag. So the session thread
never asks the embedder for a PIN the control channel did not request, nor twice for one
request; two requests set before the thread clears the flag are answered once. -/
theorem pin_requests_follow_ctrl (hc : Reachable st c) :
    pinRequestCount c.log + c.ctrlLoginPinRequested.toNat +
        (if c.pc = .pinRequest then 1 else 0) ≤
      c.log.count (.ctrlFlag .loginPinRequested) :=
  reachable_pinRequestInv hc

theorem pin_requests_follow_ctrl_atPinWait :
    Reachable (exampleSetup [⟨.inet, 0⟩]) atPinWait ∧
      pinRequestCount atPinWait.log + atPinWait.ctrlLoginPinRequested.toNat +
          (if atPinWait.pc = .pinRequest then 1 else 0) ≤
        atPinWait.log.count (.ctrlFlag .loginPinRequested) :=
  ⟨reachable_atPinWait, pin_requests_follow_ctrl reachable_atPinWait⟩

/-! ### Events and forwarded PINs -/

def pinDialogue : List Act → List Bool
  | [] => []
  | .event (.loginPinRequest _) :: l => true :: pinDialogue l
  | .ctrlSetLoginPin .. :: l => false :: pinDialogue l
  | _ :: l => pinDialogue l

def alternating : Nat → List Bool
  | 0 => []
  | k + 1 => decide (k % 2 = 0) :: alternating k

theorem QuietExt.pinDialogue_eq {l' l : List Act} (h : QuietExt l' l) :
    pinDialogue l' = pinDialogue l := by
  induction h with
  | refl => rfl
  | @cons a _ _ ha _ ih =>
    rw [← ih]
    cases a <;> simp_all [pinDialogue, Act.isQuiet]

/-- How many entries of the dialogue a point allows: an odd number while the session thread
waits for the PIN, any number from `senkusha` on, an even number elsewhere. -/
def DialogueAt (p : Pc) (k : Nat) : Prop :=
  if p = .wait .pin then k % 2 = 1
  else if p.phase = .teardown ∨ p.phase = .returned then True
  else k % 2 = 0

def DialogueInv (c : Config) : Prop :=
  ∃ k, pinDialogue c.log = alternating k ∧ DialogueAt c.pc k

theorem dialogueInv_init : DialogueInv (Config.init st) :=
  ⟨0, rfl, by simp [DialogueAt, Config.init, Pc.phase]⟩

theorem step_dialogueInv (hl : LockInv c) (hi : DialogueInv c) (h : step st c i = some c') :
    DialogueInv c' := by
  obtain ⟨k, hk, hat⟩ := hi
  cases i with
  | stop | setLoginPin | ctrl f =>
    refine ⟨k, ?_, step_pc_other h nofun ▸ hat⟩
    simp only [step] at h
    repeat' split at h
    all_goals cases h
    all_goals (try cases f) <;>
      simp [hk, Config.sessionStop, Config.sessionSetLoginPin, Config.ctrlSetFlag,
        Config.record, pinDialogue]
  | session o =>
  have hs := sessionThreadFunc_spec hl h
  cases ht : c.pc.touchesPin
  · obtain ⟨-, hq, hp⟩ := hs.keepsPin ht
    refine ⟨k, hq.pinDialogue_eq ▸ hk, ?_⟩
    unfold DialogueAt at hat ⊢
    rw [if_neg hp]
    split at hat
    · rename_i hw; rw [hw] at ht; cases ht
    split at hat
    · rename_i hd
      have he : c.pc.touchesEvents = false := by
        cases hd' : c.pc.touchesEvents
        · rfl
        · rcases Pc.touchesEvents_eq_true.1 hd' with h' | h' | h' | h' <;>
            simp [h', Pc.phase, Pc.touchesPin] at hd ht
      rcases (hs.keepsEvents he).2 with h' | h' <;> simp [h', hd]
    · split <;> trivial
  rcases Pc.touchesPin_eq_true.1 ht with hpc | hpc | hpc <;>
    simp only [step, sessionThreadFunc, hpc, Option.map_eq_some'] at h
  · obtain ⟨_, -, rfl⟩ := h
    have hk2 : k % 2 = 0 := by simpa [DialogueAt, hpc, Pc.phase] using hat
    refine ⟨k + 1, by simp [Config.pinRequestStep, Config.record, pinDialogue, alternating, hk,
      hk2], ?_⟩
    simp [DialogueAt, Config.pinRequestStep]
    omega
  · obtain ⟨_, -, rfl⟩ := h
    refine ⟨k, by simp [Config.quitStep, Config.record, pinDialogue, hk], ?_⟩
    simp [DialogueAt, Config.quitStep, Pc.phase]
  · split at h
    · simp only [Option.map_eq_some'] at h
      obtain ⟨_, -, rfl⟩ := h
      simp only [DialogueAt, hpc, if_true] at hat
      rcases waitReturn_pin_cases (c := c) with ⟨hq, hl', -⟩ | ⟨-, -, heq⟩
      · exact ⟨k, hl' ▸ hk, by simp [DialogueAt, hq, Pc.phase]⟩
      · have hk2 : ¬k % 2 = 0 := by omega
        refine ⟨k + 1, by simp [heq, pinDialogue, alternating, hk, hk2], ?_⟩
        simp [heq, DialogueAt, Pc.phase]
        omega
    · cases h

theorem reachable_dialogueInv (hc : Reachable st c) : DialogueInv c := by
  induction hc with
  | init => exact dialogueInv_init
  | step hr h ih => exact step_dialogueInv (reachable_lockInv hr) ih h

/-- In every run, the `LOGIN_PIN_REQUEST` events and the PINs forwarded to the control channel
with `chiaki_ctrl_set_login_pin` alternate, beginning with an event: the embedder is asked for a
PIN again only after the PIN it entered went to the control channel, and while the session
thread waits for the PIN the latest of them is the event. -/
theorem pin_dialogue_alternates (hc : Reachable st c) :
    ∃ k, pinDialogue c.log = alternating k ∧ (c.pc = .wait .pin → k % 2 = 1) := by
  obtain ⟨k, hk, hat⟩ := reachable_dialogueInv hc
  refine ⟨k, hk, fun hw => ?_⟩
  simpa [DialogueAt, hw] using hat

theorem pin_dialogue_alternates_atPinWait :
    Reachable (exampleSetup [⟨.inet, 0⟩]) atPinWait ∧
      ∃ k, pinDialogue atPinWait.log = alternating k ∧
        (atPinWait.pc = .wait .pin → k % 2 = 1) :=
  ⟨reachable_atPinWait, pin_dialogue_alternates reachable_atPinWait⟩

end Chiaki.Session
