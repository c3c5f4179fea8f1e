import Mathlib.Data.String.Basic
import Chiaki.Basic

/-! The session-init request that `session_thread_request_session` sends and the reading of
the response headers by `parse_session_response`, with the C library calls they rely on. -/

namespace Chiaki

/-- `SESSION_PORT`. -/
def sessionPort : Nat := 9295

/-- A header of a parsed HTTP response (`ChiakiHttpHeader`). -/
structure HttpHeader where
  key : String
  value : String
  deriving DecidableEq, Repr

/-- What `chiaki_http_response_parse` hands back: the status code and the header list. -/
structure HttpResponse where
  code : Nat
  headers : List HttpHeader
  deriving DecidableEq, Repr

/-- `isspace` in the C locale. -/
def isCSpace (c : Char) : Bool :=
  c = ' ' || c = '\t' || c = '\n' || c = '\x0b' || c = '\x0c' || c = '\r'

/-- The value of a base-16 digit, in either case. -/
def hexDigitVal? (c : Char) : Option Nat :=
  if '0' ≤ c ∧ c ≤ '9' then some (c.toNat - '0'.toNat)
  else if 'a' ≤ c ∧ c ≤ 'f' then some (c.toNat - 'a'.toNat + 10)
  else if 'A' ≤ c ∧ c ≤ 'F' then some (c.toNat - 'A'.toNat + 10)
  else none

/-- The value of the longest prefix of base-16 digits, accumulated onto `acc`. -/
def hexPrefixValue : List Char → Nat → Nat
  | [], acc => acc
  | c :: cs, acc =>
    match hexDigitVal? c with
    | some d => hexPrefixValue cs (acc * 16 + d)
    | none => acc

/-- `ULONG_MAX` for the 64-bit `unsigned long` of the LP64 targets. -/
def ulongMax : Nat := Nat.pow 2 64 - 1

/-- `strtoul(s, NULL, 16)`: leading white space, an optional sign, an optional `0x` or `0X`
before the digits, the longest run of digits; `ULONG_MAX` when the value does not fit and
the value negated modulo `2^64` after a minus sign. -/
def strtoulHex (s : String) : Nat :=
  let cs := s.toList.dropWhile isCSpace
  let (neg, cs) : Bool × List Char :=
    match cs with
    | '-' :: r => (true, r)
    | '+' :: r => (false, r)
    | r => (false, r)
  let cs :=
    match cs with
    | '0' :: x :: d :: r => if (x = 'x' || x = 'X') && (hexDigitVal? d).isSome then d :: r else cs
    | _ => cs
  let v := hexPrefixValue cs 0
  if ulongMax < v then ulongMax else if neg then (Nat.pow 2 64 - v) % Nat.pow 2 64 else v

/-- `strcasecmp(a, b) == 0` in the C locale. -/
def strcasecmpEq (a b : String) : Bool :=
  a.toList.map Char.toLower == b.toList.map Char.toLower

/-- `SessionResponse`: the three headers read from a response, and whether it succeeded. -/
structure SessionResponse where
  errorCode : UInt32
  nonce : Option String
  rpVersion : Option String
  success : Bool
  deriving DecidableEq, Repr

/-- One turn of the header loop of `parse_session_response`. -/
def readHeader (r : SessionResponse) (h : HttpHeader) : SessionResponse :=
  if h.key = "RP-Nonce" then { r with nonce := some h.value }
  else if strcasecmpEq h.key "RP-Version" then { r with rpVersion := some h.value }
  else if h.key = "RP-Application-Reason" then
    { r with errorCode := UInt32.ofNat (strtoulHex h.value) }
  else r

/-- `parse_session_response`. -/
def parseSessionResponse (http : HttpResponse) : SessionResponse :=
  let r := http.headers.foldl readHeader ⟨0, none, none, false⟩
  { r with success := http.code == 200 && r.nonce.isSome }

/-- The fields `session_request_fmt` is filled with. -/
structure SessionRequest where
  path : String
  host : String
  registKeyHex : String
  rpVersion : String
  deriving DecidableEq, Repr

/-- The text `snprintf` writes for a request. -/
def SessionRequest.text (r : SessionRequest) : String :=
  "GET " ++ r.path ++ " HTTP/1.1\r\n" ++
  "Host: " ++ r.host ++ ":" ++ toString sessionPort ++ "\r\n" ++
  "User-Agent: remoteplay Windows\r\n" ++
  "Connection: close\r\n" ++
  "Content-Length: 0\r\n" ++
  "RP-Registkey: " ++ r.registKeyHex ++ "\r\n" ++
  "Rp-Version: " ++ r.rpVersion ++ "\r\n" ++
  "\r\n"

theorem utf8ByteSize_append (s t : String) :
    (s ++ t).utf8ByteSize = s.utf8ByteSize + t.utf8ByteSize :=
  String.utf8Len_append s.data t.data

set_option maxRecDepth 2000 in
theorem SessionRequest.text_utf8ByteSize (r : SessionRequest) :
    r.text.utf8ByteSize = 130 + r.path.utf8ByteSize + r.host.utf8ByteSize +
      r.registKeyHex.utf8ByteSize + r.rpVersion.utf8ByteSize := by
  have h : ("GET " ++ " HTTP/1.1\r\n" ++ "Host: " ++ ":" ++ toString sessionPort ++ "\r\n" ++
      "User-Agent: remoteplay Windows\r\n" ++ "Connection: close\r\n" ++
      "Content-Length: 0\r\n" ++ "RP-Registkey: " ++ "\r\n" ++ "Rp-Version: " ++ "\r\n" ++
      "\r\n").utf8ByteSize = 130 := rfl
  simp only [SessionRequest.text, utf8ByteSize_append] at h ⊢
  omega

/-- The request path chosen from the target. -/
def requestPath (t : Target) : String :=
  if t = .ps4_8 ∨ t = .ps4_9 then "/sce/rp/session"
  else if t.isPs5 then "/sie/ps5/rp/sess/init"
  else "/sie/ps4/rp/sess/init"

theorem requestPath_utf8ByteSize_le (t : Target) : (requestPath t).utf8ByteSize ≤ 21 := by
  unfold requestPath
  split
  · decide
  split <;> decide

theorem rpVersionString_utf8ByteSize_le {t : Target} {v : String}
    (h : rpVersionString t = some v) : v.utf8ByteSize ≤ 4 := by
  cases t <;> simp only [rpVersionString, Option.some.injEq, reduceCtorEq] at h <;> subst h <;>
    decide

/-- `regist_key_len`: the number of bytes of `regist_key` before its first zero byte. -/
def registKeyLen (key : List UInt8) : Nat :=
  (key.takeWhile (· ≠ 0)).length

theorem registKeyLen_le (key : List UInt8) : registKeyLen key ≤ key.length :=
  (List.takeWhile_sublist _).length_le

/-- Modelled from the spec: the text `format_hex` (in `utils.h`, which is not in src/)
writes, two lowercase hexadecimal digits per byte. -/
def formatHex (bytes : List UInt8) : String :=
  ⟨bytes.flatMap fun b => [Nat.digitChar (b.toNat / 16), Nat.digitChar (b.toNat % 16)]⟩

theorem digitChar_utf8Size {d : Nat} (h : d < 16) : (Nat.digitChar d).utf8Size = 1 :=
  have hd : ∀ d : Fin 16, (Nat.digitChar d).utf8Size = 1 := by decide
  hd ⟨d, h⟩

theorem formatHex_utf8ByteSize (bytes : List UInt8) :
    (formatHex bytes).utf8ByteSize = 2 * bytes.length := by
  induction bytes with
  | nil => rfl
  | cons b bytes ih =>
    have hb := b.toNat_lt
    simp only [formatHex, String.utf8ByteSize_mk, List.flatMap_cons, String.utf8Len_append,
      String.utf8Len_cons, String.utf8Len_nil, List.length_cons] at ih ⊢
    rw [ih, digitChar_utf8Size (by omega), digitChar_utf8Size (by omega)]
    omega

end Chiaki
