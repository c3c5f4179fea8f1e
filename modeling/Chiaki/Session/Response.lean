import Mathlib.Data.Nat.Digits
import Chiaki.Session.Target

/-! The classification of the response by `session_thread_request_session`: the header loop of
`parse_session_response`, the application reason it reads, and where each response leads. -/

namespace Chiaki

def lastHeader (p : String → Bool) (headers : List HttpHeader) : Option String :=
  (headers.reverse.find? fun h => p h.key).map HttpHeader.value

/-- `N`: the value of the last header whose key is `RP-Nonce`. -/
def rpNonceOf (http : HttpResponse) : Option String :=
  lastHeader (fun k => k = "RP-Nonce") http.headers

/-- `V`: the value of the last header whose key is `RP-Version`, ignoring case. -/
def rpVersionOf (http : HttpResponse) : Option String :=
  lastHeader (fun k => strcasecmpEq k "RP-Version") http.headers

/-- `A`: the value of the last header whose key is `RP-Application-Reason`, read in base 16,
or 0 when there is none. -/
def applicationReasonOf (http : HttpResponse) : UInt32 :=
  ((lastHeader (fun k => k = "RP-Application-Reason") http.headers).map fun a =>
    UInt32.ofNat (strtoulHex a)).getD 0

theorem lastHeader_nil (p : String → Bool) : lastHeader p [] = none := rfl

theorem lastHeader_cons (p : String → Bool) (h : HttpHeader) (hs : List HttpHeader) :
    lastHeader p (h :: hs) = (lastHeader p hs).or (if p h.key then some h.value else none) := by
  simp only [lastHeader, List.reverse_cons, List.find?_append, List.find?_cons, List.find?_nil]
  cases hp : p h.key <;> cases List.find? (fun h => p h.key) hs.reverse <;> simp [hp]

theorem foldl_readHeader (hs : List HttpHeader) (r : SessionResponse) :
    hs.foldl readHeader r =
      { r with
        errorCode := ((lastHeader (fun k => k = "RP-Application-Reason") hs).map fun a =>
          UInt32.ofNat (strtoulHex a)).getD r.errorCode
        nonce := (lastHeader (fun k => k = "RP-Nonce") hs).or r.nonce
        rpVersion := (lastHeader (fun k => strcasecmpEq k "RP-Version") hs).or r.rpVersion } := by
  induction hs generalizing r with
  | nil => rfl
  | cons h hs ih =>
    have hnv : strcasecmpEq "RP-Nonce" "RP-Version" = false := by decide
    have hav : strcasecmpEq "RP-Application-Reason" "RP-Version" = false := by decide
    rw [List.foldl_cons, ih]
    by_cases hn : h.key = "RP-Nonce"
    · simp [readHeader, lastHeader_cons, hn, hnv, Option.or_assoc]
    by_cases hv : strcasecmpEq h.key "RP-Version" = true
    · have ha : h.key ≠ "RP-Application-Reason" := fun ha => by rw [ha, hav] at hv; cases hv
      simp [readHeader, lastHeader_cons, hn, hv, ha, Option.or_assoc]
    by_cases ha : h.key = "RP-Application-Reason"
    · simp [readHeader, lastHeader_cons, ha, hav]
      cases lastHeader (fun k => k = "RP-Application-Reason") hs <;> rfl
    · simp [readHeader, lastHeader_cons, hn, hv, ha]

theorem parseSessionResponse_eq (http : HttpResponse) :
    parseSessionResponse http =
      ⟨applicationReasonOf http, rpNonceOf http, rpVersionOf http,
        http.code == 200 && (rpNonceOf http).isSome⟩ := by
  simp [parseSessionResponse, foldl_readHeader, applicationReasonOf, rpNonceOf, rpVersionOf]

/-! ### The application reason in hexadecimal

A console writes `RP-Application-Reason` in hexadecimal. `strtoul(value, NULL, 16)` reads back
every value up to `ULONG_MAX` written with or without a `0x` or `0X` prefix, so the error code
`parse_session_response` stores is the reason written, in its low 32 bits. -/

/-- The base-16 text of `n` in which a console writes a reason, most significant digit first, in
lowercase (empty for 0). -/
def hexText (n : Nat) : String := ⟨(Nat.digits 16 n).reverse.map Nat.digitChar⟩

theorem hexDigitVal?_digitChar {d : Nat} (h : d < 16) : hexDigitVal? (Nat.digitChar d) = some d :=
  have hd : ∀ d : Fin 16, hexDigitVal? (Nat.digitChar d) = some d := by decide
  hd ⟨d, h⟩

theorem digitChar_not_lead {d : Nat} (h : d < 16) :
    isCSpace (Nat.digitChar d) = false ∧ Nat.digitChar d ≠ '-' ∧ Nat.digitChar d ≠ '+' ∧
      (Nat.digitChar d = '0' → d = 0) :=
  have hd : ∀ d : Fin 16, isCSpace (Nat.digitChar d) = false ∧ Nat.digitChar d ≠ '-' ∧
      Nat.digitChar d ≠ '+' ∧ (Nat.digitChar d = '0' → d.val = 0) := by decide
  hd ⟨d, h⟩

theorem hexPrefixValue_digits (L : List Nat) (hL : ∀ d ∈ L, d < 16) (acc : Nat) :
    hexPrefixValue (L.map Nat.digitChar) acc = L.foldl (fun a d => a * 16 + d) acc := by
  induction L generalizing acc with
  | nil => rfl
  | cons d L ih =>
    simp only [List.map_cons, hexPrefixValue, List.foldl_cons,
      hexDigitVal?_digitChar (hL d (.head _))]
    exact ih (fun d hd => hL d (.tail _ hd)) _

theorem foldl_digits_reverse (n : Nat) :
    (Nat.digits 16 n).reverse.foldl (fun a d => a * 16 + d) 0 = n := by
  rw [List.foldl_reverse]
  conv_rhs => rw [← Nat.ofDigits_digits 16 n]
  induction Nat.digits 16 n with
  | nil => rfl
  | cons d L ih => simp only [List.foldr_cons, Nat.ofDigits_cons, Nat.cast_id, ih]; omega

theorem strtoulHex_of_lead (c : Char) (rest : List Char) (hs : isCSpace c = false)
    (hm : c ≠ '-') (hp : c ≠ '+') (h0 : c ≠ '0') :
    strtoulHex ⟨c :: rest⟩ = min (hexPrefixValue (c :: rest) 0) ulongMax := by
  unfold strtoulHex
  delta strtoulHex.match_1 strtoulHex.match_2
  simp only [String.toList, List.dropWhile_cons, hs, Bool.false_eq_true, reduceIte, hm, hp, h0,
    dite_false]
  split <;> omega

theorem strtoulHex_of_0x (x c : Char) (rest : List Char) (hx : x = 'x' ∨ x = 'X')
    (hc : (hexDigitVal? c).isSome = true) :
    strtoulHex ⟨'0' :: x :: c :: rest⟩ = min (hexPrefixValue (c :: rest) 0) ulongMax := by
  have h0 : isCSpace '0' = false ∧ '0' ≠ '-' ∧ '0' ≠ '+' := by decide
  have hx' : (decide (x = 'x') || decide (x = 'X')) = true := by
    rcases hx with rfl | rfl <;> rfl
  unfold strtoulHex
  delta strtoulHex.match_1 strtoulHex.match_2
  simp only [String.toList, List.dropWhile_cons, h0, Bool.false_eq_true, reduceIte, dite_false,
    dite_true, hx', hc, Bool.and_self]
  split <;> omega

theorem strtoulHex_hexText {n : Nat} (hn : n ≤ ulongMax) :
    strtoulHex (hexText n) = n ∧ strtoulHex ("0x" ++ hexText n) = n ∧
      strtoulHex ("0X" ++ hexText n) = n := by
  have hlt : ∀ d ∈ (Nat.digits 16 n).reverse, d < 16 := fun d hd =>
    Nat.digits_lt_base (by decide) (List.mem_reverse.1 hd)
  have hv := hexPrefixValue_digits _ hlt 0
  rw [foldl_digits_reverse] at hv
  rcases hL : (Nat.digits 16 n).reverse with _ | ⟨d, L⟩
  · obtain rfl : n = 0 := by simpa [Nat.digits_eq_nil_iff_eq_zero] using hL
    have h0 : hexText 0 = "" := by simp [hexText]
    rw [h0]
    decide
  have hn0 : n ≠ 0 := by rintro rfl; simp at hL
  have hd0 : d ≠ 0 := by
    have hdl : Nat.digits 16 n = L.reverse ++ [d] := by
      rw [← List.reverse_reverse (Nat.digits 16 n), hL]; simp
    have := Nat.getLast_digit_ne_zero 16 hn0
    simpa [hdl] using this
  have hd : d < 16 := hlt d (by rw [hL]; exact .head _)
  have hdig : (hexDigitVal? (Nat.digitChar d)).isSome = true := by
    rw [hexDigitVal?_digitChar hd]; rfl
  obtain ⟨hs, hm, hp, h0⟩ := digitChar_not_lead hd
  rw [hL] at hv
  have htext : hexText n = ⟨Nat.digitChar d :: L.map Nat.digitChar⟩ := by simp [hexText, hL]
  rw [htext]
  refine ⟨?_, ?_, ?_⟩
  · rw [strtoulHex_of_lead _ _ hs hm hp (fun h => hd0 (h0 h))]
    simp only [List.map_cons] at hv
    rw [hv]; omega
  · show strtoulHex ⟨'0' :: 'x' :: Nat.digitChar d :: L.map Nat.digitChar⟩ = n
    rw [strtoulHex_of_0x _ _ _ (.inl rfl) hdig]
    simp only [List.map_cons] at hv
    rw [hv]; omega
  · show strtoulHex ⟨'0' :: 'X' :: Nat.digitChar d :: L.map Nat.digitChar⟩ = n
    rw [strtoulHex_of_0x _ _ _ (.inr rfl) hdig]
    simp only [List.map_cons] at hv
    rw [hv]; omega

/-- `parse_session_response` reads back every application reason a console writes in
hexadecimal: when the last `RP-Application-Reason` header holds the hexadecimal text of `n`,
with or without a `0x` or `0X` prefix, and `n` fits in an `unsigned long`, the error code is
`n` in 32 bits. -/
theorem application_reason_round_trip (http : HttpResponse) {n : Nat} {a : String}
    (hn : n ≤ ulongMax)
    (ha : lastHeader (fun k => k = "RP-Application-Reason") http.headers = some a)
    (hw : a = hexText n ∨ a = "0x" ++ hexText n ∨ a = "0X" ++ hexText n) :
    (parseSessionResponse http).errorCode = UInt32.ofNat n := by
  have hr := strtoulHex_hexText hn
  rw [parseSessionResponse_eq]
  simp only [applicationReasonOf, ha, Option.map_some', Option.getD_some]
  rcases hw with rfl | rfl | rfl
  exacts [congrArg _ hr.1, congrArg _ hr.2.1, congrArg _ hr.2.2]

/-- A response whose application reason is `0x80`, the reason the example setups take for
`RP_VERSION`. -/
theorem application_reason_round_trip_rpVersion :
    (parseSessionResponse
        ⟨200, [⟨"RP-Application-Reason", "0x" ++ hexText 0x80⟩]⟩).errorCode =
      UInt32.ofNat 0x80 :=
  application_reason_round_trip _ (by decide) (by simp [lastHeader]) (.inr (.inl rfl))

end Chiaki

namespace Chiaki.Session

/-- The condition of the version-mismatch branch, in the words of the spec: the application
reason is `RP_VERSION` or `UNKNOWN`, the call passes `target_out`, and the response reports an
RP-Version other than the version string of the target. -/
def ReportsMismatch (st : Setup) (s : Site) (t : Target) (http : HttpResponse) : Prop :=
  (applicationReasonOf http = st.reasons.rpVersion ∨
      applicationReasonOf http = st.reasons.unknown) ∧
    s ≠ .third ∧ ∃ V, rpVersionOf http = some V ∧ rpVersionString t ≠ some V

/-- The target the version-mismatch branch writes to `*target_out` for the server's `V`. -/
def writtenTarget (ps5 : Bool) (V : String) : Target :=
  if (rpVersionParse V ps5).isUnknown ∧ V = "5.0" then .ps4_9 else rpVersionParse V ps5

variable {st : Setup} {c : Config}

theorem step_parse {s : Site} {sock : Nat} {v : String} (hpc : c.pc = .req s (.parse sock v))
    (http : Option HttpResponse) :
    step st c (.session (.http http)) = some (c.parseStep st s sock v http) := by
  simp [step, sessionThreadFunc, hpc, sessionThreadRequestSession, Outcome.http?]

theorem step_decode {s : Site} {sock : Nat} {n : String} (hpc : c.pc = .req s (.decode sock n))
    (b : Option (List UInt8)) :
    step st c (.session (.base64 b)) = some (c.decodeStep s sock b) := by
  simp [step, sessionThreadFunc, hpc, sessionThreadRequestSession, Outcome.base64?]

variable {s : Site} {sock : Nat} {v : String} {http : HttpResponse}

theorem parseStep_nonce (h200 : http.code = 200) {n : String} (hn : rpNonceOf http = some n) :
    c.parseStep st s sock v (some http) = c.goto (.req s (.decode sock n)) := by
  simp [Config.parseStep, parseSessionResponse_eq, h200, hn]

theorem decodeStep_outcome (b : Option (List UInt8)) :
    (∃ bytes, b = some bytes ∧ bytes.length = 16 ∧
        (c.decodeStep s sock b).pc = .reqReturn s .success ∧
        (c.decodeStep s sock b).nonce = bytes) ∨
      ((∀ bytes, b = some bytes → bytes.length ≠ 16) ∧
        (c.decodeStep s sock b).pc = .reqReturn s .unknown ∧
        (c.decodeStep s sock b).quitReason = .sessionRequestUnknown) := by
  rcases b with _ | bytes
  · simp [Config.decodeStep, Config.reqReturn, Config.record, Config.goto]
  · by_cases hl : bytes.length = 16 <;>
      simp [Config.decodeStep, Config.reqReturn, Config.record, Config.goto, rpcryptKeySize, hl]

theorem parseStep_mismatch (hv : rpVersionString c.target = some v)
    (hna : ¬(http.code = 200 ∧ (rpNonceOf http).isSome)) (hm : ReportsMismatch st s c.target http) :
    (c.parseStep st s sock v (some http)).pc = .reqReturn s .versionMismatch ∧
      ∀ V, rpVersionOf http = some V →
        (c.parseStep st s sock v (some http)).serverTarget = writtenTarget st.connectInfo.ps5 V ∧
        (c.parseStep st s sock v (some http)).quitReason =
          if (writtenTarget st.connectInfo.ps5 V).isUnknown then .sessionRequestRpVersionMismatch
          else c.quitReason := by
  obtain ⟨hA, hs, V, hV, hne⟩ := hm
  simp only [Config.parseStep, parseSessionResponse_eq]
  split
  · rename_i h200 _
    exact absurd (by simpa using h200) hna
  · have hvV : v ≠ V := fun h => hne (h ▸ hv)
    simp only [Config.reportedMismatch, hV, if_pos (show _ ∧ _ ∧ _ from ⟨hA, hs, hvV⟩)]
    refine ⟨rfl, fun V' hV' => ?_⟩
    obtain rfl : V = V' := Option.some.inj hV'
    by_cases h5 : V = "5.0"
    · subst h5
      cases ht : (rpVersionParse "5.0" st.connectInfo.ps5).isUnknown <;>
        simp [Config.mismatchBranch, writtenTarget, ht, Config.reqReturn, Config.record,
          Config.goto]
    · cases ht : (rpVersionParse V st.connectInfo.ps5).isUnknown <;>
        simp [Config.mismatchBranch, writtenTarget, ht, h5, Config.reqReturn, Config.record,
          Config.goto]

theorem parseStep_reason (hv : rpVersionString c.target = some v)
    (hna : ¬(http.code = 200 ∧ (rpNonceOf http).isSome))
    (hm : ¬ReportsMismatch st s c.target http) :
    (c.parseStep st s sock v (some http)).serverTarget = c.serverTarget ∧
      (c.parseStep st s sock v (some http)).quitReason =
        (if applicationReasonOf http = st.reasons.inUse then .sessionRequestRpInUse
        else if applicationReasonOf http = st.reasons.crash then .sessionRequestRpCrash
        else if applicationReasonOf http = st.reasons.rpVersion then
          .sessionRequestRpVersionMismatch
        else .sessionRequestUnknown) ∧
      (c.parseStep st s sock v (some http)).pc =
        .reqReturn s
          (if applicationReasonOf http = st.reasons.rpVersion then .versionMismatch
          else .unknown) := by
  simp only [Config.parseStep, parseSessionResponse_eq]
  split
  · rename_i h200 _
    exact absurd (by simpa using h200) hna
  · have hr : Config.reportedMismatch st s v ⟨applicationReasonOf http, rpNonceOf http,
        rpVersionOf http, http.code == 200 && (rpNonceOf http).isSome⟩ = none := by
      simp only [Config.reportedMismatch]
      split
      · rename_i V hV
        refine if_neg fun ⟨hA, hs, hvV⟩ => hm ⟨hA, hs, V, hV, fun h => hvV ?_⟩
        exact Option.some.inj (hv.symm.trans h)
      · rfl
    have hd := st.reasons.distinct
    simp only [List.nodup_cons, List.mem_cons, List.mem_singleton] at hd
    simp only [hr, Config.reasonBranch]
    split_ifs <;> simp_all [Config.reqReturn, Config.record, Config.goto]

/-- The response to any call of `session_thread_request_session` made in a run, with any status
and any header list. (a) A status of 200 with a nonce `N` leads to the decoding of `N`; the call
returns `SUCCESS` with the decoded bytes in `session->nonce` when `N` decodes to sixteen bytes,
and `UNKNOWN` with `SESSION_REQUEST_UNKNOWN` otherwise. (b) Otherwise, when the response reports
a version mismatch, the call returns `VERSION_MISMATCH` and writes `writtenTarget` to
`*target_out`, setting `SESSION_REQUEST_RP_VERSION_MISMATCH` only when that target is unknown.
(c) Otherwise it leaves `*target_out` alone and sets the quit reason of the application
reason (`SESSION_REQUEST_RP_IN_USE`, `_RP_CRASH`, `_RP_VERSION_MISMATCH`, or `_UNKNOWN` for any
other), returning `VERSION_MISMATCH` for `RP_VERSION` and `UNKNOWN` for the others. -/
theorem session_response_outcome (hc : Reachable st c) (hpc : c.pc = .req s (.parse sock v))
    (http : HttpResponse) :
    (http.code = 200 → ∀ n, rpNonceOf http = some n →
      ∃ c₁, step st c (.session (.http (some http))) = some c₁ ∧
        c₁.pc = .req s (.decode sock n) ∧
        ∀ b, ∃ c₂, step st c₁ (.session (.base64 b)) = some c₂ ∧
          ((∃ bytes, b = some bytes ∧ bytes.length = 16 ∧
              c₂.pc = .reqReturn s .success ∧ c₂.nonce = bytes) ∨
            ((∀ bytes, b = some bytes → bytes.length ≠ 16) ∧
              c₂.pc = .reqReturn s .unknown ∧ c₂.quitReason = .sessionRequestUnknown))) ∧
    (¬(http.code = 200 ∧ (rpNonceOf http).isSome) → ReportsMismatch st s c.target http →
      ∃ c₁, step st c (.session (.http (some http))) = some c₁ ∧
        c₁.pc = .reqReturn s .versionMismatch ∧
        ∀ V, rpVersionOf http = some V →
          c₁.serverTarget = writtenTarget st.connectInfo.ps5 V ∧
          c₁.quitReason =
            if (writtenTarget st.connectInfo.ps5 V).isUnknown then
              .sessionRequestRpVersionMismatch
            else c.quitReason) ∧
    (¬(http.code = 200 ∧ (rpNonceOf http).isSome) → ¬ReportsMismatch st s c.target http →
      ∃ c₁, step st c (.session (.http (some http))) = some c₁ ∧
        c₁.serverTarget = c.serverTarget ∧
        c₁.quitReason =
          (if applicationReasonOf http = st.reasons.inUse then .sessionRequestRpInUse
          else if applicationReasonOf http = st.reasons.crash then .sessionRequestRpCrash
          else if applicationReasonOf http = st.reasons.rpVersion then
            .sessionRequestRpVersionMismatch
          else .sessionRequestUnknown) ∧
        c₁.pc = .reqReturn s
          (if applicationReasonOf http = st.reasons.rpVersion then .versionMismatch
          else .unknown)) := by
  have hv : rpVersionString c.target = some v :=
    (reachable_targetInv hc).version v (by rw [hpc]; rfl)
  refine ⟨fun h200 n hn => ?_, fun hna hm => ⟨_, step_parse hpc _, parseStep_mismatch hv hna hm⟩,
    fun hna hm => ⟨_, step_parse hpc _, parseStep_reason hv hna hm⟩⟩
  rw [step_parse hpc, parseStep_nonce h200 hn]
  exact ⟨_, rfl, rfl, fun b => ⟨_, step_decode rfl b, decodeStep_outcome b⟩⟩

def acceptedResponse : HttpResponse := ⟨200, [⟨"RP-Nonce", "AAAAAAAAAAAAAAAAAAAAAA=="⟩]⟩

set_option maxRecDepth 100000 in
theorem session_response_outcome_accepted :
    Reachable (exampleSetup [⟨.inet, 0⟩]) atParse ∧ atParse.pc = .req .first (.parse 0 "10.0") ∧
    (acceptedResponse.code = 200 → ∀ n, rpNonceOf acceptedResponse = some n →
      ∃ c₁, step (exampleSetup [⟨.inet, 0⟩]) atParse
          (.session (.http (some acceptedResponse))) = some c₁ ∧
        c₁.pc = .req .first (.decode 0 n) ∧
        ∀ b, ∃ c₂, step (exampleSetup [⟨.inet, 0⟩]) c₁ (.session (.base64 b)) = some c₂ ∧
          ((∃ bytes, b = some bytes ∧ bytes.length = 16 ∧
              c₂.pc = .reqReturn .first .success ∧ c₂.nonce = bytes) ∨
            ((∀ bytes, b = some bytes → bytes.length ≠ 16) ∧
              c₂.pc = .reqReturn .first .unknown ∧ c₂.quitReason = .sessionRequestUnknown))) ∧
    (¬(acceptedResponse.code = 200 ∧ (rpNonceOf acceptedResponse).isSome) →
      ReportsMismatch (exampleSetup [⟨.inet, 0⟩]) .first atParse.target acceptedResponse →
      ∃ c₁, step (exampleSetup [⟨.inet, 0⟩]) atParse
          (.session (.http (some acceptedResponse))) = some c₁ ∧
        c₁.pc = .reqReturn .first .versionMismatch ∧
        ∀ V, rpVersionOf acceptedResponse = some V →
          c₁.serverTarget = writtenTarget (exampleSetup [⟨.inet, 0⟩]).connectInfo.ps5 V ∧
          c₁.quitReason =
            if (writtenTarget (exampleSetup [⟨.inet, 0⟩]).connectInfo.ps5 V).isUnknown then
              .sessionRequestRpVersionMismatch
            else atParse.quitReason) ∧
    (¬(acceptedResponse.code = 200 ∧ (rpNonceOf acceptedResponse).isSome) →
      ¬ReportsMismatch (exampleSetup [⟨.inet, 0⟩]) .first atParse.target acceptedResponse →
      ∃ c₁, step (exampleSetup [⟨.inet, 0⟩]) atParse
          (.session (.http (some acceptedResponse))) = some c₁ ∧
        c₁.serverTarget = atParse.serverTarget ∧
        c₁.quitReason =
          (if applicationReasonOf acceptedResponse = (exampleSetup [⟨.inet, 0⟩]).reasons.inUse
          then .sessionRequestRpInUse
          else if applicationReasonOf acceptedResponse = (exampleSetup [⟨.inet, 0⟩]).reasons.crash
          then .sessionRequestRpCrash
          else if applicationReasonOf acceptedResponse =
            (exampleSetup [⟨.inet, 0⟩]).reasons.rpVersion then .sessionRequestRpVersionMismatch
          else .sessionRequestUnknown) ∧
        c₁.pc = .reqReturn .first
          (if applicationReasonOf acceptedResponse = (exampleSetup [⟨.inet, 0⟩]).reasons.rpVersion
          then .versionMismatch else .unknown)) := by
  have hc : Reachable (exampleSetup [⟨.inet, 0⟩]) atParse := reachable_exampleRun (by decide)
  have hpc : atParse.pc = .req .first (.parse 0 "10.0") := by decide
  exact ⟨hc, hpc, session_response_outcome hc hpc acceptedResponse⟩

end Chiaki.Session
