import Chiaki.Session.State

/-! `session_thread_request_session`: the candidate loop, the request, and the classification
of the response, one step for each collaborator call. -/

namespace Chiaki.Session

/-- What the collaborator called by a step returned: `posix` for `malloc`, `socket` and
`send`; `name` for `getnameinfo`; `code` for the calls returning a `ChiakiErrorCode`; `http`
for `chiaki_http_response_parse`; `base64` for `chiaki_base64_decode`; `probe` for
`chiaki_senkusha_run` with the values it wrote; `stream` for `chiaki_stream_connection_run`
with the `strdup` of its disconnect reason. A step that calls nothing takes `noCall`. -/
inductive Outcome
  | noCall
  | posix (ok : Bool)
  | name (host : Option String)
  | code (e : ErrorCode)
  | http (response : Option HttpResponse)
  | base64 (bytes : Option (List UInt8))
  | probe (e : ErrorCode) (mtuIn mtuOut rttUs : Nat)
  | stream (e : ErrorCode) (reasonStr : Option String)
  deriving DecidableEq, Repr

namespace Outcome

def noCall? : Outcome → Option Unit
  | noCall => some ()
  | _ => none

def posix? : Outcome → Option Bool
  | posix ok => some ok
  | _ => none

def name? : Outcome → Option (Option String)
  | name host => some host
  | _ => none

def code? : Outcome → Option ErrorCode
  | code e => some e
  | _ => none

def http? : Outcome → Option (Option HttpResponse)
  | http r => some r
  | _ => none

def base64? : Outcome → Option (Option (List UInt8))
  | base64 b => some b
  | _ => none

def probe? : Outcome → Option (ErrorCode × Nat × Nat × Nat)
  | probe e i o r => some (e, i, o, r)
  | _ => none

def stream? : Outcome → Option (ErrorCode × Option String)
  | stream e s => some (e, s)
  | _ => none

end Outcome

variable (st : Setup)

namespace Config

variable (c : Config) (s : Site)

/-- Returning from the call at site `s` with `err`. -/
def reqReturn (err : ErrorCode) : Config := c.goto (.reqReturn s err)

/-- Lines 655–661: the loop ended without a connected socket. -/
def connectFailedEventually : Config :=
  { c with
    quitReason := if c.quitReason = QuitReason.none then .sessionRequestUnknown else c.quitReason }
    |>.reqReturn s .network

/-- The loop head: `malloc` of the candidate's address, then its family. -/
def loopStep : List AddrInfo → Outcome → Option Config
  | [], o => o.noCall?.map fun _ => c.connectFailedEventually s
  | ai :: rest, o => o.posix?.map fun ok =>
    if ok && (ai.family == .inet || ai.family == .inet6) then c.goto (.req s (.nameInfo ai rest))
    else c.goto (.req s (.loop rest))

/-- `getnameinfo` writes the numeric host name. -/
def nameInfoStep (ai : AddrInfo) (rest : List AddrInfo) (host : Option String) : Config :=
  let c := c.record (.call .getnameinfo)
  match host with
  | none => c.goto (.req s (.loop rest))
  | some h => { c with hostname := h }.goto (.req s (.socket ai rest))

/-- `socket`, then `state_mutex` is released for the connect. -/
def socketStep (ai : AddrInfo) (rest : List AddrInfo) (ok : Bool) : Config :=
  if ok then
    ({ c with fresh := c.fresh + 1 }.record (.socketOpen c.fresh)).unlock.goto
      (.req s (.connect ai rest c.fresh))
  else c.goto (.req s (.loop rest))

/-- The connect returns and `state_mutex` is taken back (lines 625–651). -/
def connectStep (ai : AddrInfo) (rest : List AddrInfo) (sock : Nat) (e : ErrorCode) : Config :=
  let c := (c.record (.call .connect)).lock
  if e = .canceled then
    ({ c with quitReason := .stopped }.record (.socketClose sock)).connectFailedEventually s
  else if e ≠ .success then
    ({ c with
        quitReason :=
          if e = ErrorCode.connectionRefused then .sessionRequestConnectionRefused else .none
      }.record (.socketClose sock)).goto (.req s (.loop rest))
  else { c with hostAddrinfoSelected := some ai }.goto (.req s (.formatHex sock))

/-- Lines 682–716: the regist key in hexadecimal, the version string and the request. -/
def formatHexStep (sock : Nat) (e : ErrorCode) : Config :=
  let key := st.connectInfo.registKey
  if e ≠ .success then
    { c.record (.socketClose sock) with quitReason := .sessionRequestUnknown }.reqReturn s .unknown
  else
    match rpVersionString c.target with
    | none => { c with quitReason := .sessionRequestUnknown }.reqReturn s .invalidData
    | some v =>
      let req : SessionRequest :=
        ⟨requestPath c.target, c.hostname, formatHex (key.take (registKeyLen key)), v⟩
      if 512 ≤ req.text.utf8ByteSize then
        { c.record (.socketClose sock) with
            quitReason := .sessionRequestUnknown }.reqReturn s .unknown
      else c.goto (.req s (.send sock req))

/-- `send`, then `state_mutex` is released for the receive. -/
def sendStep (sock : Nat) (req : SessionRequest) (ok : Bool) : Config :=
  if ok then ((c.record (.sent req)).unlock).goto (.req s (.recv sock req.rpVersion))
  else
    { c.record (.socketClose sock) with quitReason := .sessionRequestUnknown }.reqReturn s .network

/-- The receive returns and `state_mutex` is taken back (lines 734–749). -/
def recvStep (sock : Nat) (v : String) (e : ErrorCode) : Config :=
  let c := (c.record (.call .recv)).lock
  if e ≠ .success then
    { c.record (.socketClose sock) with
        quitReason := if e = ErrorCode.canceled then .stopped else .sessionRequestUnknown
      }.reqReturn s .network
  else c.goto (.req s (.parse sock v))

/-- The server's RP-Version, when the response reports a version mismatch that the caller
asked to hear about: the condition of line 780. -/
def reportedMismatch (v : String) (resp : SessionResponse) : Option String :=
  match resp.rpVersion with
  | some server =>
    if (resp.errorCode = st.reasons.rpVersion ∨ resp.errorCode = st.reasons.unknown) ∧
        s ≠ .third ∧ v ≠ server then some server else none
  | none => none

/-- Lines 784–799: `*target_out` from the server's RP-Version. -/
def mismatchBranch (server : String) : Config :=
  let t := rpVersionParse server st.connectInfo.ps5
  if !t.isUnknown then { c with serverTarget := t }
  else if server = "5.0" then { c with serverTarget := .ps4_9 }
  else { c with serverTarget := t, quitReason := .sessionRequestRpVersionMismatch }

/-- Lines 803–819: the quit reason for the application reason, and the error returned. -/
def reasonBranch (errorCode : UInt32) : Config × ErrorCode :=
  if errorCode = st.reasons.inUse then ({ c with quitReason := .sessionRequestRpInUse }, .unknown)
  else if errorCode = st.reasons.crash then
    ({ c with quitReason := .sessionRequestRpCrash }, .unknown)
  else if errorCode = st.reasons.rpVersion then
    ({ c with quitReason := .sessionRequestRpVersionMismatch }, .versionMismatch)
  else ({ c with quitReason := .sessionRequestUnknown }, .unknown)

/-- The response is parsed; a success goes on to decode the nonce (lines 751–824). -/
def parseStep (sock : Nat) (v : String) : Option HttpResponse → Config
  | none =>
    { c.record (.socketClose sock) with quitReason := .sessionRequestUnknown }.reqReturn s .network
  | some http =>
    let resp := parseSessionResponse http
    -- a successful response has a nonce
    match resp.success, resp.nonce with
    | true, some nonce => c.goto (.req s (.decode sock nonce))
    | _, _ =>
      let (c, r) : Config × ErrorCode :=
        match reportedMismatch st s v resp with
        | some server => (mismatchBranch st c server, .versionMismatch)
        | none => reasonBranch st c resp.errorCode
      (c.record (.socketClose sock)).reqReturn s r

/-- The nonce is decoded into `session->nonce` (lines 767–779), then the socket is closed. -/
def decodeStep (sock : Nat) (bytes : Option (List UInt8)) : Config :=
  let (c, r) : Config × ErrorCode :=
    match bytes with
    | some n =>
      if n.length = rpcryptKeySize then ({ c with nonce := n }, .success)
      else ({ c with quitReason := .sessionRequestUnknown }, .unknown)
    | none => ({ c with quitReason := .sessionRequestUnknown }, .unknown)
  (c.record (.socketClose sock)).reqReturn s r

end Config

/-- `session_thread_request_session`, called at site `s`: one step from program point `r`,
when `o` is an outcome of the collaborator called there. -/
def sessionThreadRequestSession (c : Config) (s : Site) : ReqPc → Outcome → Option Config
  | .loop ais, o => c.loopStep s ais o
  | .nameInfo ai rest, o => o.name?.map (c.nameInfoStep s ai rest)
  | .socket ai rest, o => o.posix?.map (c.socketStep s ai rest)
  | .connect ai rest sock, o => o.code?.map (c.connectStep s ai rest sock)
  | .formatHex sock, o => o.code?.map (c.formatHexStep st s sock)
  | .send sock req, o => o.posix?.map (c.sendStep s sock req)
  | .recv sock v, o => o.code?.map (c.recvStep s sock v)
  | .parse sock v, o => o.http?.map (c.parseStep st s sock v)
  | .decode sock _, o => o.base64?.map (c.decodeStep s sock)

end Chiaki.Session
