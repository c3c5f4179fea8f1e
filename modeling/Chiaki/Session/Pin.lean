import Chiaki.Session.Steps

/-! The PIN slot of a session, written by `chiaki_session_set_login_pin` from any thread and
consumed by the PIN loop of `session_thread_func`, and the PINs the loop forwards to the
control channel. -/

namespace Chiaki.Session

/-- The buffer of the most recent `chiaki_session_set_login_pin` since the most recent
forward to the control channel, in a trace whose newest entry comes first. -/
def pendingPin : List Act → Option PinBuf
  | [] => none
  | .setLoginPin b :: _ => some b
  | .ctrlSetLoginPin .. :: _ => none
  | _ :: l => pendingPin l

def requestedSinceForward : List Act → Bool
  | [] => false
  | .event (.loginPinRequest _) :: _ => true
  | .ctrlSetLoginPin .. :: _ => false
  | _ :: l => requestedSinceForward l

/-- Every `chiaki_ctrl_set_login_pin` of a trace forwards the buffer and the size of the most
recent `chiaki_session_set_login_pin` since the forward before it (so no buffer is forwarded
twice), follows a `LOGIN_PIN_REQUEST` emitted since that forward, and precedes every
`chiaki_session_stop` and every failure of the control channel. -/
def ForwardsOk : List Act → Prop
  | [] => True
  | a :: l =>
    (∀ pin size, a = .ctrlSetLoginPin pin size →
      ∃ b, pin = some b ∧ pendingPin l = some b ∧ size = b.bytes.length ∧
        requestedSinceForward l = true ∧ .stop ∉ l ∧ .ctrlFlag .failed ∉ l) ∧ ForwardsOk l

def Act.neutral : Act → Bool
  | .setLoginPin _ | .ctrlSetLoginPin .. | .stop | .ctrlFlag .failed => false
  | _ => true

/-- Two traces agree on the pending PIN, on the forwards, on the stops and on the failures of
the control channel. -/
def PinAgrees (l' l : List Act) : Prop :=
  pendingPin l' = pendingPin l ∧ (ForwardsOk l' ↔ ForwardsOk l) ∧
    (.stop ∈ l' ↔ .stop ∈ l) ∧
    (.ctrlFlag .failed ∈ l' ↔ .ctrlFlag .failed ∈ l)

variable {a : Act} {l l' l'' : List Act}

theorem pinAgrees_cons (ha : a.neutral = true) : PinAgrees (a :: l) l := by
  cases a <;> (try cases ‹CtrlFlag›) <;>
    simp_all [Act.neutral, PinAgrees, pendingPin, ForwardsOk]

theorem PinAgrees.trans (h : PinAgrees l'' l') (h' : PinAgrees l' l) : PinAgrees l'' l :=
  ⟨h.1.trans h'.1, h.2.1.trans h'.2.1, h.2.2.1.trans h'.2.2.1, h.2.2.2.trans h'.2.2.2⟩

theorem QuietExt.pinAgrees (h : QuietExt l' l) : PinAgrees l' l := by
  induction h with
  | refl => exact ⟨rfl, .rfl, .rfl, .rfl⟩
  | @cons a _ _ ha _ ih =>
    exact (pinAgrees_cons (by cases a <;> simp_all [Act.isQuiet, Act.neutral])).trans ih

theorem mem_of_pendingPin {b : PinBuf} (h : pendingPin l = some b) : .setLoginPin b ∈ l := by
  induction l with
  | nil => cases h
  | cons a l ih => cases a <;> simp_all [pendingPin]

theorem ForwardsOk.forward {newer older : List Act} {pin : Option PinBuf} {size : Nat}
    (h : ForwardsOk (newer ++ .ctrlSetLoginPin pin size :: older)) :
    ∃ b, pin = some b ∧ pendingPin older = some b ∧ size = b.bytes.length ∧
      requestedSinceForward older = true ∧ .stop ∉ older ∧ .ctrlFlag .failed ∉ older := by
  induction newer with
  | nil => exact h.1 pin size rfl
  | cons _ _ ih => exact ih h.2

def SlotInv (c : Config) : Prop :=
  c.loginPin = pendingPin c.log ∧ c.loginPin.isSome = c.loginPinEntered ∧
    ∀ b, c.loginPin = some b → c.loginPinSize = b.bytes.length

structure PinInv (c : Config) : Prop where
  slot : SlotInv c
  assertion : c.assertFailed = false
  forwards : ForwardsOk c.log
  stop : c.shouldStop = true ↔ .stop ∈ c.log
  failed : c.ctrlFailed = true ↔ .ctrlFlag .failed ∈ c.log
  requested : c.pc = .wait .pin → requestedSinceForward c.log = true

variable {st : Setup} {c c' : Config}

theorem pinInv_init : PinInv (Config.init st) :=
  ⟨⟨rfl, rfl, by simp [Config.init]⟩, rfl, trivial, by simp [Config.init],
    by simp [Config.init],
    by simp [Config.init]⟩

theorem PinInv.of_agrees (h : PinInv c) (hk : KeepsSlot c c') (hl : PinAgrees c'.log c.log)
    (hr : c'.pc = .wait .pin → requestedSinceForward c'.log = true) : PinInv c' := by
  obtain ⟨hs, hf, he, hp, hz, ha⟩ := hk
  obtain ⟨⟨hslot, hsome, hsize⟩, hassert, hfw, hstop, hfail, -⟩ := h
  refine ⟨⟨?_, ?_, ?_⟩, ha.trans hassert, hl.2.1.2 hfw, ?_, ?_, hr⟩
  · rw [hp, hl.1, hslot]
  · rw [hp, he, hsome]
  · intro b hb; rw [hz]; exact hsize b (hp ▸ hb)
  · rw [hs, hl.2.2.1, hstop]
  · rw [hf, hl.2.2.2, hfail]

theorem PinInv.keepsPin (h : PinInv c) (hk : KeepsPin c c') : PinInv c' :=
  h.of_agrees hk.1 hk.2.1.pinAgrees fun hpc => absurd hpc hk.2.2

/-! ### The steps that touch the slot -/

theorem PinInv.pinRequestStep (h : PinInv c) : PinInv c.pinRequestStep :=
  h.of_agrees (by simp [KeepsSlot, Config.pinRequestStep, Config.waitOn, Config.record])
    (pinAgrees_cons rfl) fun _ => rfl

theorem PinInv.quitStep (h : PinInv c) : PinInv c.quitStep :=
  h.of_agrees (by simp [KeepsSlot, Config.quitStep, Config.goto, Config.record])
    (pinAgrees_cons rfl) (by simp [Config.quitStep])

theorem PinInv.forwardPin (h : PinInv c) (hpc : c.pc = .wait .pin) (hs : c.shouldStop = false)
    (hf : c.ctrlFailed = false) (he : c.loginPinEntered = true) : PinInv c.forwardPin := by
  obtain ⟨⟨hslot, hsome, hsize⟩, hassert, hfw, hstop, hfail, hreq⟩ := h
  obtain ⟨b, hb⟩ := Option.isSome_iff_exists.1 (hsome.trans he)
  have hfw' : ForwardsOk (.ctrlSetLoginPin (some b) c.loginPinSize :: c.log) :=
    ⟨fun _ _ heq => by
      cases heq
      exact ⟨b, rfl, hslot ▸ hb, hsize b hb, hreq hpc, by simpa [hs] using hstop,
        by simpa [hf] using hfail⟩, hfw⟩
  refine ⟨⟨?_, rfl, ?_⟩, ?_, ?_, ?_, ?_, ?_⟩ <;>
    simp_all [Config.forwardPin, Config.waitOn, Config.record, pendingPin]

theorem PinInv.waitReturn_pin (h : PinInv c) (hpc : c.pc = .wait .pin)
    (hw : WaitSite.mayReturn .pin c = true) : PinInv (c.waitReturn .pin) := by
  have hagree : PinAgrees c.log c.log := ⟨rfl, .rfl, .rfl, .rfl⟩
  rcases waitReturn_pin_cases (c := c) with ⟨hq, hlog, hk, -⟩ | ⟨hs, hf, heq⟩
  · exact h.of_agrees hk (hlog ▸ hagree) (by simp [hq])
  · have hlock : PinInv c.lock := h.of_agrees (by simp [KeepsSlot, Config.lock]) hagree
      fun _ => h.requested hpc
    rw [heq]
    refine hlock.forwardPin hpc hs hf ?_
    simpa [WaitSite.mayReturn_pin, Config.checkStatePredPin, hs, hf] using hw

/-! ### The other threads -/

theorem PinInv.sessionStop (h : PinInv c) : PinInv c.sessionStop := by
  obtain ⟨⟨hslot, hsome, hsize⟩, hassert, hfw, hstop, hfail, hreq⟩ := h
  refine ⟨⟨?_, hsome, hsize⟩, hassert, ⟨by simp, hfw⟩, ?_, ?_, ?_⟩ <;>
    simp_all [Config.sessionStop, Config.record, pendingPin, requestedSinceForward]

theorem PinInv.sessionSetLoginPin (h : PinInv c) (pin : List UInt8) :
    PinInv (c.sessionSetLoginPin pin) := by
  obtain ⟨-, hassert, hfw, hstop, hfail, hreq⟩ := h
  refine ⟨⟨?_, ?_, ?_⟩, hassert, ⟨by simp, hfw⟩, ?_, ?_, ?_⟩ <;>
    simp_all [Config.sessionSetLoginPin, Config.record, pendingPin, requestedSinceForward]

theorem PinInv.ctrlSetFlag (h : PinInv c) (f : CtrlFlag) : PinInv (c.ctrlSetFlag f) := by
  obtain ⟨⟨hslot, hsome, hsize⟩, hassert, hfw, hstop, hfail, hreq⟩ := h
  cases f <;>
    refine ⟨⟨?_, hsome, hsize⟩, hassert, ⟨by simp, hfw⟩, ?_, ?_, ?_⟩ <;>
    simp_all [Config.ctrlSetFlag, Config.record, pendingPin, requestedSinceForward]

/-! ### Every run -/

theorem step_pinInv {i : Input} (hl : LockInv c) (hp : PinInv c) (h : step st c i = some c') :
    PinInv c' := by
  cases i with
  | session o =>
    cases ht : c.pc.touchesPin
    · exact hp.keepsPin ((sessionThreadFunc_spec hl h).keepsPin ht)
    rcases Pc.touchesPin_eq_true.1 ht with hpc | hpc | hpc <;>
      simp only [step, sessionThreadFunc, hpc, Option.map_eq_some'] at h
    · obtain ⟨_, -, rfl⟩ := h
      exact hp.pinRequestStep
    · obtain ⟨_, -, rfl⟩ := h
      exact hp.quitStep
    · split at h
      · simp only [Option.map_eq_some'] at h
        obtain ⟨_, -, rfl⟩ := h
        exact hp.waitReturn_pin hpc ‹_›
      · cases h
  | stop =>
    simp only [step] at h
    split at h <;> cases h
    exact hp.sessionStop
  | setLoginPin pin ok =>
    simp only [step] at h
    split at h
    · cases h
      exact hp
    split at h <;> cases h
    exact hp.sessionSetLoginPin pin
  | ctrl f =>
    simp only [step] at h
    split at h <;> cases h
    exact hp.ctrlSetFlag f

theorem reachable_pinInv (hc : Reachable st c) : PinInv c := by
  induction hc with
  | init => exact pinInv_init
  | step hr h ih => exact step_pinInv (reachable_lockInv hr) ih h

/-- Over every interleaving of `chiaki_session_set_login_pin`, the PIN loop and the control
channel: the PIN slot holds a buffer exactly when `login_pin_entered` is set; that buffer is
the one installed by the most recent `set_login_pin` since the last forward, and
`login_pin_size` is that call's size; a `set_login_pin` whose `malloc` fails changes nothing;
and the `assert` of line 439 has never failed. -/
theorem login_pin_slot_consistent (hc : Reachable st c) :
    (c.loginPin.isSome = true ↔ c.loginPinEntered = true) ∧
      (∀ b, c.loginPin = some b →
        pendingPin c.log = some b ∧ .setLoginPin b ∈ c.log ∧
          c.loginPinSize = b.bytes.length) ∧
      (∀ pin, step st c (.setLoginPin pin false) = some c) ∧ c.assertFailed = false := by
  obtain ⟨⟨hslot, hsome, hsize⟩, hassert, -⟩ := reachable_pinInv hc
  refine ⟨by rw [hsome], fun b hb => ?_, fun _ => rfl, hassert⟩
  have hpend : pendingPin c.log = some b := hslot ▸ hb
  exact ⟨hpend, mem_of_pendingPin hpend, hsize b hb⟩

/-- Every `chiaki_ctrl_set_login_pin` of a run forwards, with its size, the buffer of the most
recent `chiaki_session_set_login_pin` before it, which came after the forward before it (so no
buffer is forwarded twice); a `LOGIN_PIN_REQUEST` was emitted between that forward and it; and
neither `chiaki_session_stop` nor a failure of the control channel came before it, where
`should_stop` and `ctrl_failed` are set exactly once these happened. -/
theorem login_pin_forwards (hc : Reachable st c) :
    (∀ newer older pin size, c.log = newer ++ .ctrlSetLoginPin pin size :: older →
      ∃ b, pin = some b ∧ pendingPin older = some b ∧ size = b.bytes.length ∧
        requestedSinceForward older = true ∧ .stop ∉ older ∧ .ctrlFlag .failed ∉ older) ∧
      (c.shouldStop = true ↔ .stop ∈ c.log) ∧
      (c.ctrlFailed = true ↔ .ctrlFlag .failed ∈ c.log) := by
  obtain ⟨-, -, hfw, hstop, hfail, -⟩ := reachable_pinInv hc
  exact ⟨fun _ _ _ _ hlog => (hlog ▸ hfw).forward, hstop, hfail⟩

def pinEntered : List Input :=
  ctrlStarted .success ++
    [.ctrl .loginPinRequested, .session .noCall, .session .noCall,
      .setLoginPin [0x31, 0x32, 0x33, 0x34] true]

set_option maxRecDepth 100000 in
theorem login_pin_slot_consistent_entered :
    Reachable (exampleSetup [⟨.inet, 0⟩]) (exampleRun [⟨.inet, 0⟩] pinEntered) ∧
      (exampleRun [⟨.inet, 0⟩] pinEntered).pc = .wait .pin ∧
      ((exampleRun [⟨.inet, 0⟩] pinEntered).loginPin.isSome = true ↔
        (exampleRun [⟨.inet, 0⟩] pinEntered).loginPinEntered = true) ∧
      (∀ b, (exampleRun [⟨.inet, 0⟩] pinEntered).loginPin = some b →
        pendingPin (exampleRun [⟨.inet, 0⟩] pinEntered).log = some b ∧
          .setLoginPin b ∈ (exampleRun [⟨.inet, 0⟩] pinEntered).log ∧
          (exampleRun [⟨.inet, 0⟩] pinEntered).loginPinSize = b.bytes.length) ∧
      (∀ pin, step (exampleSetup [⟨.inet, 0⟩]) (exampleRun [⟨.inet, 0⟩] pinEntered)
        (.setLoginPin pin false) = some (exampleRun [⟨.inet, 0⟩] pinEntered)) ∧
      (exampleRun [⟨.inet, 0⟩] pinEntered).assertFailed = false :=
  have hc := reachable_exampleRun (by decide)
  ⟨hc, by decide, login_pin_slot_consistent hc⟩

set_option maxRecDepth 100000 in
theorem login_pin_forwards_forwarded :
    Reachable (exampleSetup [⟨.inet, 0⟩])
        (exampleRun [⟨.inet, 0⟩] (pinEntered ++ [.session .noCall])) ∧
      (exampleRun [⟨.inet, 0⟩] (pinEntered ++ [.session .noCall])).pc = .wait .pinResume ∧
      (∀ newer older pin size,
        (exampleRun [⟨.inet, 0⟩] (pinEntered ++ [.session .noCall])).log =
          newer ++ .ctrlSetLoginPin pin size :: older →
        ∃ b, pin = some b ∧ pendingPin older = some b ∧ size = b.bytes.length ∧
          requestedSinceForward older = true ∧ .stop ∉ older ∧
          .ctrlFlag .failed ∉ older) ∧
      ((exampleRun [⟨.inet, 0⟩] (pinEntered ++ [.session .noCall])).shouldStop = true ↔
        .stop ∈ (exampleRun [⟨.inet, 0⟩] (pinEntered ++ [.session .noCall])).log) ∧
      ((exampleRun [⟨.inet, 0⟩] (pinEntered ++ [.session .noCall])).ctrlFailed = true ↔
        .ctrlFlag .failed ∈
          (exampleRun [⟨.inet, 0⟩] (pinEntered ++ [.session .noCall])).log) :=
  have hc := reachable_exampleRun (by decide)
  ⟨hc, by decide, login_pin_forwards hc⟩

end Chiaki.Session
