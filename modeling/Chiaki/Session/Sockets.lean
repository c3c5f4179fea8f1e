import Mathlib.Data.List.Nodup
import Chiaki.Session.Target

/-! The sockets and the candidate loop of `session_thread_request_session`: every socket a
call opens is closed exactly once before it returns, and the loop stops at the first connect
that succeeds or is canceled. -/

namespace Chiaki.Session

/-- The candidates not yet given up at a point of the candidate loop, the current one first. -/
def ReqPc.candidates : ReqPc → Option (List AddrInfo)
  | .loop ais => some ais
  | .nameInfo ai rest | .socket ai rest | .connect ai rest _ => some (ai :: rest)
  | _ => none

theorem count_socketOpen (l : List Act) (k : Nat) :
    l.count (.socketOpen k) = (openedSockets l).count k := by
  induction l with
  | nil => rfl
  | cons a l ih =>
    cases a <;> simp [openedSockets, Act.opened?, List.count_cons, ih] at *

theorem count_socketClose (l : List Act) (k : Nat) :
    l.count (.socketClose k) = (closedSockets l).count k := by
  induction l with
  | nil => rfl
  | cons a l ih =>
    cases a <;> simp [closedSockets, Act.closed?, List.count_cons, ih] at *

variable {st : Setup} {c c' : Config} {i : Input} {o : Outcome}

structure SockInv (c : Config) : Prop where
  nodup : (openedSockets c.log).Nodup
  fresh : ∀ k ∈ openedSockets c.log, k < c.fresh
  closed : (c.pc.sock?.toList ++ closedSockets c.log).Perm (openedSockets c.log)

theorem sockInv_init : SockInv (Config.init st) where
  nodup := List.nodup_nil
  fresh _ h := by cases h
  closed := .nil

theorem SockInv.step (hi : SockInv c) (hs : SockStep c c') : SockInv c' := by
  obtain ⟨hf, ⟨ho, hcl, hk⟩ | ⟨hn, hk, hlt, ho, hcl⟩ | ⟨k, hk, hn, ho, hcl⟩⟩ := hs
  · refine ⟨ho ▸ hi.nodup, fun k hk' => ?_, by rw [ho, hcl, hk]; exact hi.closed⟩
    exact Nat.lt_of_lt_of_le (hi.fresh k (ho ▸ hk')) hf
  · have hnew : c.fresh ∉ openedSockets c.log := fun h => Nat.lt_irrefl _ (hi.fresh _ h)
    have hcl' := hi.closed
    rw [hn] at hcl'
    refine ⟨by rw [ho]; exact List.nodup_cons.2 ⟨hnew, hi.nodup⟩, fun k hk' => ?_,
      by rw [ho, hcl, hk]; exact hcl'.cons c.fresh⟩
    rw [ho] at hk'
    rcases List.mem_cons.1 hk' with rfl | hk'
    · exact hlt
    · exact Nat.lt_trans (hi.fresh k hk') hlt
  · have hcl' := hi.closed
    rw [hk] at hcl'
    refine ⟨ho ▸ hi.nodup, fun k hk' => ?_, by rw [ho, hcl, hn]; exact hcl'⟩
    exact Nat.lt_of_lt_of_le (hi.fresh k (ho ▸ hk')) hf

theorem reachable_sockInv (hc : Reachable st c) : SockInv c := by
  induction hc with
  | init => exact sockInv_init
  | step hr h ih =>
    exact ih.step ((step_frame h).sockets (rpVersionString_ne_none (reachable_targetInv hr).known))

theorem connectStep_pc {s : Site} {ai : AddrInfo} {rest : List AddrInfo} {sock : Nat}
    {e : ErrorCode} :
    (c.connectStep s ai rest sock e).pc =
      if e = .canceled then .reqReturn s .network
      else if e ≠ .success then .req s (.loop rest) else .req s (.formatHex sock) := by
  unfold Config.connectStep Config.connectFailedEventually Config.reqReturn
  split_ifs <;> rfl

theorem connectStep_hostAddrinfoSelected {s : Site} {ai : AddrInfo} {rest : List AddrInfo}
    {sock : Nat} {e : ErrorCode} :
    (c.connectStep s ai rest sock e).hostAddrinfoSelected =
      if e = .success then some ai else c.hostAddrinfoSelected := by
  unfold Config.connectStep Config.connectFailedEventually Config.reqReturn
  split_ifs <;> simp_all [Config.record, Config.lock, Config.goto]

theorem Outcome.eq_code {o : Outcome} {e : ErrorCode} (h : o.code? = some e) : o = .code e := by
  cases o <;> simp_all [Outcome.code?]

theorem connectStep_outcome {s : Site} {ai : AddrInfo} {rest : List AddrInfo} {sock : Nat}
    {e : ErrorCode} :
    (e = .success → (c.connectStep s ai rest sock e).pc = .req s (.formatHex sock) ∧
      (c.connectStep s ai rest sock e).hostAddrinfoSelected = some ai) ∧
    (e = .canceled → (c.connectStep s ai rest sock e).pc = .reqReturn s .network ∧
      (c.connectStep s ai rest sock e).hostAddrinfoSelected = c.hostAddrinfoSelected) ∧
    (e ≠ .success → e ≠ .canceled → (c.connectStep s ai rest sock e).pc = .req s (.loop rest) ∧
      (c.connectStep s ai rest sock e).hostAddrinfoSelected = c.hostAddrinfoSelected) := by
  rw [connectStep_pc, connectStep_hostAddrinfoSelected]
  refine ⟨?_, ?_, fun hs hc => by simp [hs, hc]⟩ <;> rintro rfl <;> simp

theorem request_connect {s : Site} {ai : AddrInfo} {rest : List AddrInfo} {sock : Nat}
    (h : sessionThreadRequestSession st c s (.connect ai rest sock) o = some c') :
    ∃ e, o = .code e ∧ c' = c.connectStep s ai rest sock e := by
  simp only [sessionThreadRequestSession, Option.map_eq_some'] at h
  obtain ⟨e, ho, rfl⟩ := h
  exact ⟨e, Outcome.eq_code ho, rfl⟩

theorem request_loop {s : Site} {r : ReqPc}
    (h : sessionThreadRequestSession st c s r o = some c') :
    (∀ ai rest, r.candidates = some (ai :: rest) → (∀ sock, r ≠ .connect ai rest sock) →
      c'.hostAddrinfoSelected = c.hostAddrinfoSelected ∧
      ∃ r', c'.pc = .req s r' ∧ (r'.candidates = some (ai :: rest) ∨ r'.candidates = some rest)) ∧
    (r.candidates = some [] → c'.pc = .reqReturn s .network) ∧
    (r.candidates = none → c'.hostAddrinfoSelected = c.hostAddrinfoSelected ∧
      ((∃ r', c'.pc = .req s r' ∧ r'.candidates = none) ∨ ∃ e, c'.pc = .reqReturn s e)) := by
  cases r
  case loop ais =>
    cases ais <;>
      simp only [sessionThreadRequestSession, Config.loopStep, Option.map_eq_some'] at h <;>
      obtain ⟨_, -, rfl⟩ := h
    · simp [ReqPc.candidates, Config.connectFailedEventually, Config.reqReturn]
    · split <;> simp [ReqPc.candidates, Config.goto]
  case connect ai rest sock =>
    refine ⟨fun _ _ hr hne => ?_, nofun, nofun⟩
    cases hr
    exact absurd rfl (hne sock)
  all_goals
    simp only [sessionThreadRequestSession, Option.map_eq_some'] at h
    obtain ⟨_, -, rfl⟩ := h
    simp only [ReqPc.candidates, reduceCtorEq, false_implies, implies_true, true_and,
      forall_const, Option.some.injEq]
    simp only [Config.nameInfoStep, Config.socketStep, Config.formatHexStep, Config.sendStep,
      Config.recvStep, Config.parseStep, Config.decodeStep, Config.mismatchBranch,
      Config.reasonBranch]
    repeat' split
  all_goals simp [ReqPc.candidates, Config.reqReturn, Config.record, Config.goto, Config.lock,
    Config.unlock]

def LoopInv (st : Setup) (c : Config) : Prop :=
  ∀ s r l, c.pc = .req s r → r.candidates = some l → l <:+ st.connectInfo.hostAddrinfos

theorem step_pc_other {f : Input} (h : step st c f = some c') (hf : ∀ o, f ≠ .session o) :
    c'.pc = c.pc := by
  cases f with
  | session o => exact absurd rfl (hf o)
  | stop | setLoginPin | ctrl f =>
    simp only [step] at h
    repeat' split at h
    all_goals cases h
    all_goals (try cases f) <;> rfl

theorem step_loopInv (hi : LoopInv st c) (h : step st c i = some c') : LoopInv st c' := by
  intro s r l hpc' hl
  rcases (step_frame h).enter s r hpc' with ⟨r₀, hpc⟩ | rfl
  · have hsuf := hi s r₀
    cases i with
    | session o =>
      have h' : sessionThreadRequestSession st c s r₀ o = some c' := by
        simpa [step, sessionThreadFunc, hpc] using h
      obtain ⟨hcons, hnil, hnone⟩ := request_loop h'
      rcases hr₀ : r₀.candidates with _ | _ | ⟨ai, rest⟩
      · obtain ⟨-, ⟨r', hr', hn⟩ | ⟨e, he⟩⟩ := hnone hr₀ <;> rw [hpc'] at *
        · cases hr'; rw [hn] at hl; cases hl
        · cases he
      · have := hnil hr₀; rw [hpc'] at this; cases this
      · have hs := hsuf _ hpc hr₀
        by_cases hconn : ∃ sock, r₀ = .connect ai rest sock
        · obtain ⟨sock, rfl⟩ := hconn
          obtain ⟨e, -, rfl⟩ := request_connect h'
          rw [connectStep_pc] at hpc'
          split_ifs at hpc' <;> cases hpc'
          · cases hl; exact (List.suffix_cons _ _).trans hs
          · cases hl
        · obtain ⟨-, r', hr', h1 | h1⟩ := hcons ai rest hr₀ fun sock h => hconn ⟨sock, h⟩ <;>
            rw [hpc'] at hr' <;> cases hr' <;> rw [h1] at hl <;> cases hl
          · exact hs
          · exact (List.suffix_cons _ _).trans hs
    | stop | setLoginPin | ctrl =>
      rw [step_pc_other h (fun _ => nofun), hpc] at hpc'
      cases hpc'
      exact hsuf l hpc hl
  · cases hl
    exact List.suffix_refl _

theorem reachable_loopInv (hc : Reachable st c) : LoopInv st c := by
  induction hc with
  | init => intro _ _ _ h; cases h
  | step _ h ih => exact step_loopInv ih h

/-- Every call of `session_thread_request_session` in a run, with any candidates and any outcome
of each step. No socket is closed more often than it was opened or opened twice, and when the
call returns every socket opened has been closed exactly once. The candidate loop stays on a
suffix of `host_addrinfos`. Away from a connect, a step goes on with the same candidate or the
next one and selects none. The connect ends the loop on `SUCCESS`, with the candidate selected,
and on `CANCELED`, with the return; on any other code it goes on with the next candidate. With
no candidate left the call returns; past the loop it never comes back to it and keeps the
selected candidate. -/
theorem session_request_sockets_and_candidates (hc : Reachable st c) :
    (∀ k, c.log.count (.socketClose k) ≤ c.log.count (.socketOpen k) ∧
      c.log.count (.socketOpen k) ≤ 1) ∧
    (∀ s e, c.pc = .reqReturn s e →
      ∀ k, c.log.count (.socketClose k) = c.log.count (.socketOpen k)) ∧
    (∀ s r l, c.pc = .req s r → r.candidates = some l → l <:+ st.connectInfo.hostAddrinfos) ∧
    (∀ s r ai rest o c', c.pc = .req s r → r.candidates = some (ai :: rest) →
      (∀ sock, r ≠ .connect ai rest sock) → step st c (.session o) = some c' →
        c'.hostAddrinfoSelected = c.hostAddrinfoSelected ∧
        ∃ r', c'.pc = .req s r' ∧
          (r'.candidates = some (ai :: rest) ∨ r'.candidates = some rest)) ∧
    (∀ s ai rest sock o c', c.pc = .req s (.connect ai rest sock) →
      step st c (.session o) = some c' → ∃ e, o = .code e ∧
        (e = .success → c'.pc = .req s (.formatHex sock) ∧ c'.hostAddrinfoSelected = some ai) ∧
        (e = .canceled → c'.pc = .reqReturn s .network ∧
          c'.hostAddrinfoSelected = c.hostAddrinfoSelected) ∧
        (e ≠ .success → e ≠ .canceled → c'.pc = .req s (.loop rest) ∧
          c'.hostAddrinfoSelected = c.hostAddrinfoSelected)) ∧
    (∀ s o c', c.pc = .req s (.loop []) → step st c (.session o) = some c' →
      c'.pc = .reqReturn s .network) ∧
    (∀ s r o c', c.pc = .req s r → r.candidates = none → step st c (.session o) = some c' →
      c'.hostAddrinfoSelected = c.hostAddrinfoSelected ∧
        ((∃ r', c'.pc = .req s r' ∧ r'.candidates = none) ∨ ∃ e, c'.pc = .reqReturn s e)) := by
  have hs := reachable_sockInv hc
  have hreq : ∀ s r o c', c.pc = .req s r → step st c (.session o) = some c' →
      sessionThreadRequestSession st c s r o = some c' := fun s r o c' hpc h => by
    simpa [step, sessionThreadFunc, hpc] using h
  refine ⟨fun k => ?_, fun s e hpc k => ?_, reachable_loopInv hc,
    fun s r ai rest o c' hpc hr hne h => (request_loop (hreq s r o c' hpc h)).1 ai rest hr hne,
    fun s ai rest sock o c' hpc h => ?_,
    fun s o c' hpc h => (request_loop (hreq _ _ o c' hpc h)).2.1 rfl,
    fun s r o c' hpc hr h => (request_loop (hreq s r o c' hpc h)).2.2 hr⟩
  · have hcount := hs.closed.count_eq k
    rw [List.count_append] at hcount
    rw [count_socketOpen, count_socketClose]
    exact ⟨by omega, List.nodup_iff_count_le_one.1 hs.nodup k⟩
  · have hcount := hs.closed.count_eq k
    rw [hpc] at hcount
    simpa [count_socketOpen, count_socketClose, Pc.sock?] using hcount
  · obtain ⟨e, rfl, rfl⟩ := request_connect (hreq _ _ _ _ hpc h)
    exact ⟨e, rfl, connectStep_outcome⟩

def atConnect : Config :=
  exampleRun [⟨.inet, 0⟩] ([.session .noCall] ++ (connectAttempt .success).take 3)

set_option maxRecDepth 100000 in
theorem session_request_sockets_and_candidates_atConnect :
    Reachable (exampleSetup [⟨.inet, 0⟩]) atConnect ∧
    atConnect.pc = .req .first (.connect ⟨.inet, 0⟩ [] 0) ∧
    (∀ k, atConnect.log.count (.socketClose k) ≤ atConnect.log.count (.socketOpen k) ∧
      atConnect.log.count (.socketOpen k) ≤ 1) ∧
    (∀ s e, atConnect.pc = .reqReturn s e →
      ∀ k, atConnect.log.count (.socketClose k) = atConnect.log.count (.socketOpen k)) ∧
    (∀ s r l, atConnect.pc = .req s r → r.candidates = some l →
      l <:+ (exampleSetup [⟨.inet, 0⟩]).connectInfo.hostAddrinfos) ∧
    (∀ s r ai rest o c', atConnect.pc = .req s r → r.candidates = some (ai :: rest) →
      (∀ sock, r ≠ .connect ai rest sock) →
      step (exampleSetup [⟨.inet, 0⟩]) atConnect (.session o) = some c' →
        c'.hostAddrinfoSelected = atConnect.hostAddrinfoSelected ∧
        ∃ r', c'.pc = .req s r' ∧
          (r'.candidates = some (ai :: rest) ∨ r'.candidates = some rest)) ∧
    (∀ s ai rest sock o c', atConnect.pc = .req s (.connect ai rest sock) →
      step (exampleSetup [⟨.inet, 0⟩]) atConnect (.session o) = some c' → ∃ e, o = .code e ∧
        (e = .success → c'.pc = .req s (.formatHex sock) ∧ c'.hostAddrinfoSelected = some ai) ∧
        (e = .canceled → c'.pc = .reqReturn s .network ∧
          c'.hostAddrinfoSelected = atConnect.hostAddrinfoSelected) ∧
        (e ≠ .success → e ≠ .canceled → c'.pc = .req s (.loop rest) ∧
          c'.hostAddrinfoSelected = atConnect.hostAddrinfoSelected)) ∧
    (∀ s o c', atConnect.pc = .req s (.loop []) →
      step (exampleSetup [⟨.inet, 0⟩]) atConnect (.session o) = some c' →
      c'.pc = .reqReturn s .network) ∧
    (∀ s r o c', atConnect.pc = .req s r → r.candidates = none →
      step (exampleSetup [⟨.inet, 0⟩]) atConnect (.session o) = some c' →
      c'.hostAddrinfoSelected = atConnect.hostAddrinfoSelected ∧
        ((∃ r', c'.pc = .req s r' ∧ r'.candidates = none) ∨ ∃ e, c'.pc = .reqReturn s e)) := by
  have hc : Reachable (exampleSetup [⟨.inet, 0⟩]) atConnect := reachable_exampleRun (by decide)
  have hpc : atConnect.pc = .req .first (.connect ⟨.inet, 0⟩ [] 0) := by decide
  exact ⟨hc, hpc, session_request_sockets_and_candidates hc⟩

end Chiaki.Session
