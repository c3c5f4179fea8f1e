import Chiaki.Session.Frame

/-! The session's target: always known, so every request carries a version string, and of the
session's family but for the `5.0` fallback; the request buffer fits every request. -/

namespace Chiaki.Session

variable {st : Setup} {c c' : Config} {i : Input}

/-- The target is known, the request in flight carries its version string, and the session
thread has not returned `INVALID_DATA`. -/
structure TargetInv (c : Config) : Prop where
  known : c.target.isUnknown = false
  version : VersionAt c
  noInvalidData : ∀ s, c.pc ≠ .reqReturn s .invalidData

theorem targetInv_init : TargetInv (Config.init st) where
  known := by unfold Config.init; split <;> rfl
  version _ h := by simp [Config.init, Pc.version?] at h
  noInvalidData _ h := by cases h

theorem rpVersionString_ne_none {t : Target} (h : t.isUnknown = false) :
    rpVersionString t ≠ none := by
  cases t <;> simp_all [rpVersionString, Target.isUnknown]

theorem step_targetInv (hi : TargetInv c) (h : step st c i = some c') : TargetInv c' := by
  have hf := step_frame h
  refine ⟨?_, hf.version hi.version, fun s hs => ?_⟩
  · rcases hf.target with ht | ⟨-, ht, hk⟩ <;> rw [ht]
    · exact hi.known
    · exact hk
  · rcases hf.invalidData s hs with hp | hv
    · exact hi.noInvalidData s (hp ▸ hs)
    · exact rpVersionString_ne_none hi.known hv

theorem reachable_targetInv (hc : Reachable st c) : TargetInv c := by
  induction hc with
  | init => exact targetInv_init
  | step _ h ih => exact step_targetInv ih h

/-- In every reachable state the session's target is `PS4_8`, `PS4_9`, `PS4_10` or `PS5_1`,
so it has a version string; `session_thread_request_session` never returns `INVALID_DATA`
(lines 700–706), and the version string compared with the server's at line 782 is the
target's. -/
theorem session_target_known (hc : Reachable st c) :
    (c.target = .ps4_8 ∨ c.target = .ps4_9 ∨ c.target = .ps4_10 ∨ c.target = .ps5_1) ∧
      (rpVersionString c.target).isSome = true ∧ (∀ s, c.pc ≠ .reqReturn s .invalidData) ∧
      ∀ s sock v, c.pc = .req s (.parse sock v) → rpVersionString c.target = some v := by
  have hi := reachable_targetInv hc
  refine ⟨?_, by rw [rpVersionString_isSome, hi.known]; rfl, hi.noInvalidData,
    fun s sock v hpc => hi.version v (by rw [hpc]; rfl)⟩
  have := hi.known
  revert this
  cases c.target <;> simp [Target.isUnknown]

def atParse : Config :=
  exampleRun [⟨.inet, 0⟩]
    ([.session .noCall] ++ connectAttempt .success ++
      [.session (.code .success), .session (.posix true), .session (.code .success)])

set_option maxRecDepth 100000 in
theorem session_target_known_atParse :
    Reachable (exampleSetup [⟨.inet, 0⟩]) atParse ∧
      atParse.pc = .req .first (.parse 0 "10.0") ∧
      (atParse.target = .ps4_8 ∨ atParse.target = .ps4_9 ∨ atParse.target = .ps4_10 ∨
        atParse.target = .ps5_1) ∧
      (rpVersionString atParse.target).isSome = true ∧
      (∀ s, atParse.pc ≠ .reqReturn s .invalidData) ∧
      ∀ s sock v, atParse.pc = .req s (.parse sock v) →
        rpVersionString atParse.target = some v := by
  have hc : Reachable (exampleSetup [⟨.inet, 0⟩]) atParse := reachable_exampleRun (by decide)
  exact ⟨hc, by decide, session_target_known hc⟩

structure FamilyInv (st : Setup) (c : Config) : Prop where
  target : c.target.isPs5 = st.connectInfo.ps5 ∨
    (st.connectInfo.ps5 = true ∧ c.target = .ps4_9)
  serverTarget : c.serverTarget.isPs5 = st.connectInfo.ps5 ∨ c.serverTarget = .ps4_9 ∨
    c.serverTarget = .ps4Unknown

theorem familyInv_init : FamilyInv st (Config.init st) where
  target := .inl (by unfold Config.init; split <;> simp_all [Target.isPs5])
  serverTarget := .inr (.inr rfl)

theorem step_familyInv (hi : FamilyInv st c) (h : step st c i = some c') :
    FamilyInv st c' := by
  have hf := step_frame h
  constructor
  · rcases hf.target with ht | ⟨-, ht, hk⟩ <;> rw [ht]
    · exact hi.target
    · rcases hi.serverTarget with hs | hs | hs
      · exact .inl hs
      · rw [hs]
        cases hp : st.connectInfo.ps5
        · exact .inl rfl
        · exact .inr ⟨rfl, rfl⟩
      · rw [hs] at hk; cases hk
  · rcases hf.serverTarget with hs | hs | hs | ⟨v, hs⟩ <;> rw [hs]
    · exact hi.serverTarget
    · exact .inr (.inr rfl)
    · exact .inr (.inl rfl)
    · exact .inl (rpVersionParse_isPs5 _ _)

theorem reachable_familyInv (hc : Reachable st c) : FamilyInv st c := by
  induction hc with
  | init => exact familyInv_init
  | step _ h ih => exact step_familyInv ih h

/-- In every reachable state the target is of the family `connect_info.ps5` selects, or the
session is a PS5 session whose target is `PS4_9`, written by the `5.0` fallback. -/
theorem session_target_family (hc : Reachable st c) :
    c.target.isPs5 = st.connectInfo.ps5 ∨ (st.connectInfo.ps5 = true ∧ c.target = .ps4_9) :=
  (reachable_familyInv hc).target

def examplePs5Setup (hosts : List AddrInfo) : Setup :=
  ⟨exampleReasons,
    ⟨true, [0x61, 0x62, 0x63, 0x64] ++ List.replicate 12 0, by decide, hosts⟩⟩

/-- The first response is a 403 with the application reason `80` (`RP_VERSION`) and
`RP-Version: 5.0`; the second request is formatted on a connected socket. -/
def fiveZeroRetry : List Input :=
  [.session .noCall] ++ connectAttempt .success ++
    exchange ⟨403, [⟨"RP-Application-Reason", "80"⟩, ⟨"RP-Version", "5.0"⟩]⟩ ++
    [.session .noCall] ++ connectAttempt .success ++ [.session (.code .success)]

def fiveZeroRetried : Config :=
  (run (examplePs5Setup [⟨.inet, 0⟩]) (Config.init (examplePs5Setup [⟨.inet, 0⟩]))
    fiveZeroRetry).getD (Config.init (examplePs5Setup [⟨.inet, 0⟩]))

set_option maxRecDepth 100000 in
theorem session_target_family_fiveZero :
    Reachable (examplePs5Setup [⟨.inet, 0⟩]) fiveZeroRetried ∧
      (fiveZeroRetried.target.isPs5 = (examplePs5Setup [⟨.inet, 0⟩]).connectInfo.ps5 ∨
        ((examplePs5Setup [⟨.inet, 0⟩]).connectInfo.ps5 = true ∧
          fiveZeroRetried.target = .ps4_9)) := by
  have hr : run (examplePs5Setup [⟨.inet, 0⟩]) (Config.init (examplePs5Setup [⟨.inet, 0⟩]))
      fiveZeroRetry = some fiveZeroRetried := by decide
  have hc : Reachable (examplePs5Setup [⟨.inet, 0⟩]) fiveZeroRetried := Reachable.run _ .init hr
  exact ⟨hc, session_target_family hc⟩

set_option maxRecDepth 100000 in
/-- A PS5 session whose first response reports a version mismatch with `RP-Version: 5.0`: the
`5.0` fallback writes `PS4_9` into `server_target`, the target becomes `PS4_9`, a PS4 target,
and the second request is a PS4 request, with the path `/sce/rp/session` and
`Rp-Version: 9.0`. -/
theorem ps5_session_takes_ps4_target :
    (examplePs5Setup [⟨.inet, 0⟩]).connectInfo.ps5 = true ∧
      (run (examplePs5Setup [⟨.inet, 0⟩]) (Config.init (examplePs5Setup [⟨.inet, 0⟩]))
          fiveZeroRetry).map (fun c => (c.target, c.target.isPs5, c.pc)) =
        some (.ps4_9, false,
          .req .second (.send 1 ⟨"/sce/rp/session", "192.168.1.2", "61626364", "9.0"⟩)) := by
  decide

/-! ### The request buffer -/

/-- The request buffer of 512 bytes holds every session request whose hostname has at most 324
bytes: with the 16 bytes of the regist key, the longest path and the longest version string,
the text takes at most 187 bytes besides the hostname. In every run, when `format_hex`
succeeds on a connection to such a host, the size check of line 711 passes and the request
goes out, with nothing else changed. -/
theorem session_request_fits {s : Site} {sock : Nat} (hc : Reachable st c)
    (hpc : c.pc = .req s (.formatHex sock)) (hh : c.hostname.utf8ByteSize ≤ 324) :
    ∃ req, step st c (.session (.code .success)) =
      some (c.goto (.req s (.send sock req))) := by
  obtain ⟨v, hv⟩ := Option.ne_none_iff_exists'.1
    (rpVersionString_ne_none (reachable_targetInv hc).known)
  let req : SessionRequest := ⟨requestPath c.target, c.hostname,
    formatHex (st.connectInfo.registKey.take (registKeyLen st.connectInfo.registKey)), v⟩
  have hsize := SessionRequest.text_utf8ByteSize req
  simp only [req, formatHex_utf8ByteSize, List.length_take] at hsize
  have := st.connectInfo.registKey_length
  have := registKeyLen_le st.connectInfo.registKey
  have := requestPath_utf8ByteSize_le c.target
  have := rpVersionString_utf8ByteSize_le hv
  refine ⟨req, ?_⟩
  simp only [step, sessionThreadFunc, hpc, sessionThreadRequestSession, Outcome.code?,
    Option.map_some', Config.formatHexStep, hv, ne_eq, not_true_eq_false, reduceIte]
  rw [if_neg (by omega)]

def atFormatHex : Config :=
  exampleRun [⟨.inet, 0⟩] ([.session .noCall] ++ connectAttempt .success)

set_option maxRecDepth 100000 in
theorem session_request_fits_atFormatHex :
    Reachable (exampleSetup [⟨.inet, 0⟩]) atFormatHex ∧
      atFormatHex.pc = .req .first (.formatHex 0) ∧ atFormatHex.hostname.utf8ByteSize ≤ 324 ∧
      ∃ req, step (exampleSetup [⟨.inet, 0⟩]) atFormatHex (.session (.code .success)) =
        some (atFormatHex.goto (.req .first (.send 0 req))) := by
  have hc : Reachable (exampleSetup [⟨.inet, 0⟩]) atFormatHex :=
    reachable_exampleRun (by decide)
  have hpc : atFormatHex.pc = .req .first (.formatHex 0) := by decide
  have hh : atFormatHex.hostname.utf8ByteSize ≤ 324 := by decide
  exact ⟨hc, hpc, hh, session_request_fits hc hpc hh⟩

end Chiaki.Session
