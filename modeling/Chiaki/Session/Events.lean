import Chiaki.Session.Pin

/-! The events the session thread hands to the embedder's callback: `LOGIN_PIN_REQUEST`s, the
first with `pin_incorrect` unset, and one `QUIT` once the thread returns. -/

namespace Chiaki.Session

def Act.event? : Act → Option Event
  | .event e => some e
  | _ => none

def events (l : List Act) : List Event := l.filterMap Act.event?

def pinRequests : Nat → List Event
  | 0 => []
  | k + 1 => .loginPinRequest (decide (0 < k)) :: pinRequests k

theorem pinRequests_reverse (k : Nat) :
    (pinRequests k).reverse = (List.range k).map fun i => .loginPinRequest (decide (0 < i)) := by
  induction k with
  | zero => rfl
  | succ k ih => simp [pinRequests, ih, List.range_succ]

/-- The events so far in each phase of the session thread, with the `pin_incorrect` of the PIN
loop. -/
def EventsAt : Phase → List Event → Bool → Prop
  | .setup, es, _ => es = []
  | .pinLoop, es, incorrect => ∃ k, es = pinRequests k ∧ incorrect = decide (0 < k)
  | .teardown, es, _ => ∃ k, es = pinRequests k
  | .returned, es, _ => ∃ k r s, es = .quit r s :: pinRequests k

def EventInv (c : Config) : Prop := EventsAt c.pc.phase (events c.log) c.pinIncorrect

variable {a : Act} {l l' : List Act}

@[simp] theorem events_event (e : Event) : events (.event e :: l) = e :: events l := rfl

theorem events_cons {a : Act} (h : a.event? = none) : events (a :: l) = events l := by
  simp [events, h]

theorem QuietExt.events_eq (h : QuietExt l' l) : events l' = events l := by
  induction h with
  | refl => rfl
  | @cons a _ _ ha _ ih =>
    rw [← ih]
    exact events_cons (by cases a <;> simp_all [Act.isQuiet, Act.event?])

theorem EventsAt.teardown {p : Phase} {es : List Event} {i i' : Bool} (h : EventsAt p es i)
    (hp : p ≠ .returned) : EventsAt .teardown es i' := by
  cases p with
  | setup => exact ⟨0, h⟩
  | pinLoop => exact h.imp fun _ => And.left
  | teardown => exact h
  | returned => exact absurd rfl hp

variable {st : Setup} {c c' : Config}

theorem eventInv_init : EventInv (Config.init st) := rfl

theorem EventInv.phase_eq (h : EventInv c) {p : Phase} (hp : c.pc.phase = p) :
    EventsAt p (events c.log) c.pinIncorrect := by
  rw [← hp]; exact h

theorem EventInv.of_keeps (h : EventInv c) (hl : events c'.log = events c.log)
    (hk : KeepsEvents c c') (hne : c.pc.phase ≠ .returned) : EventInv c' := by
  obtain ⟨hi, hp | hp⟩ := hk
  · rw [EventInv, hp, hl, hi]; exact h
  · rw [EventInv, hp, hl]; exact h.teardown hne

theorem EventInv.pinRequestStep (h : EventInv c) (hpc : c.pc = .pinRequest) :
    EventInv c.pinRequestStep := by
  obtain ⟨k, he, hi⟩ := h.phase_eq (p := .pinLoop) (by simp [hpc, Pc.phase])
  exact ⟨k + 1,
    by simp [Config.pinRequestStep, Config.waitOn, Config.record, he, hi, pinRequests],
    by simp [Config.pinRequestStep, Config.waitOn]⟩

theorem EventInv.quitStep (h : EventInv c) (hpc : c.pc = .quit) : EventInv c.quitStep := by
  obtain ⟨k, he⟩ := h.phase_eq (p := .teardown) (by simp [hpc, Pc.phase])
  exact ⟨k, c.quitReason, c.quitReasonStr,
    by simp [Config.quitStep, Config.goto, Config.record, he]⟩

theorem waitReturn_ctrlStartup_cases :
    (c.waitReturn .ctrlStartup).log = c.log ∧
      ((c.waitReturn .ctrlStartup).pc.phase = .teardown ∨
        (c.waitReturn .ctrlStartup).pc = .pinRequest ∧
          (c.waitReturn .ctrlStartup).pinIncorrect = false) := by
  simp only [Config.waitReturn, Config.checkStop, Config.ctrlFailedExit, Config.pinLoopHead,
    Config.quitTo]
  repeat' split
  all_goals simp [Config.lock, Config.unlock, Config.goto, Pc.phase]

theorem EventInv.waitReturn_ctrlStartup (h : EventInv c) (hpc : c.pc = .wait .ctrlStartup) :
    EventInv (c.waitReturn .ctrlStartup) := by
  have he : events c.log = [] := h.phase_eq (p := .setup) (by simp [hpc, Pc.phase])
  obtain ⟨hl, hp | ⟨hp, hi⟩⟩ := waitReturn_ctrlStartup_cases (c := c) <;>
    rw [EventInv, hl, he]
  · rw [hp]; exact ⟨0, rfl⟩
  · rw [hp, hi]; exact ⟨0, rfl, rfl⟩

theorem EventInv.waitReturn_pin (h : EventInv c) (hpc : c.pc = .wait .pin) :
    EventInv (c.waitReturn .pin) := by
  rcases waitReturn_pin_cases (c := c) with ⟨hq, hl, -⟩ | ⟨-, -, heq⟩
  · rw [EventInv, hq, hl]
    exact h.teardown (by simp [hpc, Pc.phase])
  · rw [heq, EventInv, Config.forwardPin_pc, Config.forwardPin_log, Config.forwardPin_pinIncorrect,
      events_cons (a := .ctrlSetLoginPin _ _) rfl]
    exact h.phase_eq (by simp [hpc, Pc.phase])

theorem step_eventInv {i : Input} (hl : LockInv c) (he : EventInv c)
    (h : step st c i = some c') : EventInv c' := by
  cases i with
  | session o =>
    have hne : c.pc.phase ≠ .returned := by
      intro hp
      simp [step, sessionThreadFunc, Pc.phase_eq_returned.1 hp] at h
    cases ht : c.pc.touchesEvents
    · have hs := sessionThreadFunc_spec hl h
      exact he.of_keeps (hs.keepsPin (Pc.touchesPin_eq_false ht)).2.1.events_eq (hs.keepsEvents ht)
        hne
    rcases Pc.touchesEvents_eq_true.1 ht with hpc | hpc | hpc | hpc <;>
      simp only [step, sessionThreadFunc, hpc, Option.map_eq_some'] at h
    · split at h
      · simp only [Option.map_eq_some'] at h
        obtain ⟨_, -, rfl⟩ := h
        exact he.waitReturn_ctrlStartup hpc
      · cases h
    · obtain ⟨_, -, rfl⟩ := h
      exact he.pinRequestStep hpc
    · obtain ⟨_, -, rfl⟩ := h
      exact he.quitStep hpc
    · split at h
      · simp only [Option.map_eq_some'] at h
        obtain ⟨_, -, rfl⟩ := h
        exact he.waitReturn_pin hpc
      · cases h
  | stop | setLoginPin | ctrl f =>
    simp only [step] at h
    repeat' split at h
    all_goals cases h
    all_goals first | exact he | (try cases f) <;>
      simpa [EventInv, Config.sessionStop, Config.sessionSetLoginPin, Config.ctrlSetFlag,
        Config.record, events_cons, Act.event?] using he

theorem reachable_eventInv (hc : Reachable st c) : EventInv c := by
  induction hc with
  | init => exact eventInv_init
  | step hr h ih => exact step_eventInv (reachable_lockInv hr) ih h

/-- In every run of `session_thread_func` that returns, the events handed to the embedder's
callback, in the order they were sent, are `k` `LOGIN_PIN_REQUEST`s, the first with
`pin_incorrect` unset and every later one with it set, and then one `QUIT`. -/
theorem session_events_of_return (hc : Reachable st c) (hdone : c.pc = .done) :
    ∃ k r s, (events c.log).reverse =
      (List.range k).map (fun i => .loginPinRequest (decide (0 < i))) ++ [.quit r s] := by
  obtain ⟨k, r, s, he⟩ :=
    (reachable_eventInv hc).phase_eq (p := .returned) (by simp [hdone, Pc.phase])
  exact ⟨k, r, s, by rw [he, List.reverse_cons, pinRequests_reverse]⟩

set_option maxRecDepth 100000 in
theorem session_events_of_return_stopped :
    Reachable (exampleSetup [⟨.inet, 0⟩]) (exampleRun [⟨.inet, 0⟩]
        (pinEntered ++ [.session .noCall, .stop, .session .noCall, .session .noCall,
          .session .noCall])) ∧
      (exampleRun [⟨.inet, 0⟩] (pinEntered ++ [.session .noCall, .stop, .session .noCall,
        .session .noCall, .session .noCall])).pc = .done ∧
      ∃ k r s, (events (exampleRun [⟨.inet, 0⟩] (pinEntered ++ [.session .noCall, .stop,
          .session .noCall, .session .noCall, .session .noCall])).log).reverse =
        (List.range k).map (fun i => .loginPinRequest (decide (0 < i))) ++ [.quit r s] :=
  have hc := reachable_exampleRun (by decide)
  have hdone := by decide
  ⟨hc, hdone, session_events_of_return hc hdone⟩

end Chiaki.Session
