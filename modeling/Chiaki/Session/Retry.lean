import Chiaki.Session.Reasons

/-! The retries of the session request: at most three requests go out in a run, and a retry
follows a version mismatch while `server_target` is known. -/

namespace Chiaki.Session

def Act.sent? : Act → Option SessionRequest
  | .sent req => some req
  | _ => none

def sentRequests (l : List Act) : List SessionRequest := l.filterMap Act.sent?

theorem sentRequests_length (l : List Act) : (sentRequests l).length = l.countP Act.isSent := by
  induction l with
  | nil => rfl
  | cons a l ih => cases a <;> simp_all [sentRequests, Act.sent?, Act.isSent]

theorem Pc.sentBound_le (p : Pc) : p.sentBound ≤ 3 := by
  cases p with
  | req s r => cases s <;> cases r <;> simp [Pc.sentBound, Site.index]
  | reqReturn s => cases s <;> simp [Pc.sentBound, Site.index]
  | _ => simp [Pc.sentBound]

variable {st : Setup} {c c' : Config} {i : Input}

def SentInv (c : Config) : Prop := c.log.countP Act.isSent ≤ c.pc.sentBound

theorem step_sentInv (hl : LockInv c) (hs : SentInv c) (h : step st c i = some c') :
    SentInv c' := by
  cases i with
  | session o =>
    have := (sessionThreadFunc_spec hl h).sent
    unfold SentInv at *
    omega
  | stop | setLoginPin | ctrl f =>
    simp only [step] at h
    repeat' split at h
    all_goals cases h
    all_goals first | exact hs | (try cases f) <;>
      simpa [SentInv, Config.sessionStop, Config.sessionSetLoginPin, Config.ctrlSetFlag,
        Config.record, Act.isSent] using hs

theorem reachable_sentInv (hc : Reachable st c) : SentInv c := by
  induction hc with
  | init => exact Nat.zero_le _
  | step hr h ih => exact step_sentInv (reachable_lockInv hr) ih h

/-- The first response is a 403 with the application reason `80` (`RP_VERSION`) and
`RP-Version: 9.0`, the second a 403 with the application reason `80` and no `RP-Version`. -/
def staleRetry : List Input :=
  [.session .noCall] ++ connectAttempt .success ++
    exchange ⟨403, [⟨"RP-Application-Reason", "80"⟩, ⟨"RP-Version", "9.0"⟩]⟩ ++
    [.session .noCall] ++ connectAttempt .success ++
    exchange ⟨403, [⟨"RP-Application-Reason", "80"⟩]⟩ ++
    [.session .noCall] ++ connectAttempt .success ++
    [.session (.code .success), .session (.posix true)]

set_option maxRecDepth 100000 in
/-- A PS4 session whose first request (`Rp-Version: 10.0`) is answered with a version mismatch
reporting `9.0` sends its second request with `Rp-Version: 9.0`; the second response reports a
version mismatch but no `RP-Version`, and a third request still goes out, again with
`Rp-Version: 9.0`, because `server_target` kept the value the first response gave it. -/
theorem third_request_after_response_without_version :
    (parseSessionResponse ⟨403, [⟨"RP-Application-Reason", "80"⟩]⟩).rpVersion = none ∧
      (run (exampleSetup [⟨.inet, 0⟩]) (Config.init (exampleSetup [⟨.inet, 0⟩]))
          staleRetry).map
          (fun c => (sentRequests c.log).map SessionRequest.rpVersion) =
        some ["9.0", "9.0", "10.0"] := by
  decide

/-- In every run, at most three session requests are sent. -/
theorem session_requests_at_most_three (hc : Reachable st c) : (sentRequests c.log).length ≤ 3 :=
  sentRequests_length c.log ▸ Nat.le_trans (reachable_sentInv hc) c.pc.sentBound_le

set_option maxRecDepth 100000 in
theorem session_requests_at_most_three_staleRetry :
    Reachable (exampleSetup [⟨.inet, 0⟩]) (exampleRun [⟨.inet, 0⟩] staleRetry) ∧
      (sentRequests (exampleRun [⟨.inet, 0⟩] staleRetry).log).length ≤ 3 := by
  have hc : Reachable (exampleSetup [⟨.inet, 0⟩]) (exampleRun [⟨.inet, 0⟩] staleRetry) :=
    reachable_exampleRun (by decide)
  exact ⟨hc, session_requests_at_most_three hc⟩

end Chiaki.Session
