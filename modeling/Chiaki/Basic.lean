import Mathlib.Logic.Basic
import Mathlib.Tactic.SplitIfs

/-! Values of the session layer of `session.c`: console targets, error codes, quit reasons
and the events a session hands to its embedder. -/

namespace Chiaki

/-- Modelled from the spec: `ChiakiTarget` (declared in `session.h`, which is not in src/),
a console family together with its Remote Play protocol version. -/
inductive Target
  | ps4Unknown | ps4_8 | ps4_9 | ps4_10 | ps5Unknown | ps5_1
  deriving DecidableEq, Repr

/-- Modelled from the spec: `chiaki_target_is_ps5`. -/
def Target.isPs5 : Target → Bool
  | .ps5Unknown | .ps5_1 => true
  | _ => false

/-- Modelled from the spec: `chiaki_target_is_unknown`. -/
def Target.isUnknown : Target → Bool
  | .ps4Unknown | .ps5Unknown => true
  | _ => false

@[simp] theorem Target.isUnknown_ps4_9 : Target.ps4_9.isUnknown = false := rfl

/-- `chiaki_rp_version_string`; `none` is the `NULL` it returns for the unknown targets. -/
def rpVersionString : Target → Option String
  | .ps4_8 => some "8.0"
  | .ps4_9 => some "9.0"
  | .ps4_10 => some "10.0"
  | .ps5_1 => some "1.0"
  | _ => none

/-- `chiaki_rp_version_parse`. -/
def rpVersionParse (rpVersionStr : String) (isPs5 : Bool) : Target :=
  if isPs5 then
    if rpVersionStr = "1.0" then .ps5_1 else .ps5Unknown
  else if rpVersionStr = "8.0" then .ps4_8
  else if rpVersionStr = "9.0" then .ps4_9
  else if rpVersionStr = "10.0" then .ps4_10
  else .ps4Unknown

/-- Modelled from the spec: the `ChiakiErrorCode` values that `session.c` and the contracts
of its collaborators name (`common.h` is not in src/). Every other code a collaborator can
return takes the branches that `unknown` takes. -/
inductive ErrorCode
  | success | unknown | parseAddr | memory | network | connectionRefused | invalidData
  | canceled | versionMismatch | disconnected
  deriving DecidableEq, Repr

/-- `ChiakiQuitReason`. -/
inductive QuitReason
  | none | stopped
  | sessionRequestUnknown | sessionRequestConnectionRefused | sessionRequestRpInUse
  | sessionRequestRpCrash | sessionRequestRpVersionMismatch
  | ctrlUnknown | ctrlConnectionRefused | ctrlConnectFailed
  | streamConnectionUnknown | streamConnectionRemoteDisconnected
  deriving DecidableEq, Repr

/-- `ChiakiEvent`, restricted to the two kinds the session thread emits. -/
inductive Event
  | loginPinRequest (pinIncorrect : Bool)
  | quit (reason : QuitReason) (reasonStr : Option String)
  deriving DecidableEq, Repr

/-- The `CHIAKI_RP_APPLICATION_REASON_*` constants. They are declared in `session.h`, which
is not in src/, so they are parameters; the `switch` statements of `session.c` over them only
compile when their cases differ. -/
structure ApplicationReasons where
  registFailed : UInt32
  invalidPsnId : UInt32
  inUse : UInt32
  crash : UInt32
  rpVersion : UInt32
  unknown : UInt32
  distinct : [registFailed, invalidPsnId, inUse, crash, rpVersion].Nodup

/-- Modelled from the spec: `CHIAKI_RPCRYPT_KEY_SIZE`. -/
def rpcryptKeySize : Nat := 16

theorem rpVersionParse_isPs5 (v : String) (isPs5 : Bool) :
    (rpVersionParse v isPs5).isPs5 = isPs5 := by
  cases isPs5 <;> simp only [rpVersionParse, Bool.false_eq_true, ↓reduceIte] <;> split_ifs <;> rfl

theorem rpVersionParse_rpVersionString {t : Target} {v : String}
    (h : rpVersionString t = some v) : rpVersionParse v t.isPs5 = t := by
  cases t <;> simp only [rpVersionString, Option.some.injEq, reduceCtorEq] at h <;> subst h <;>
    decide

theorem rpVersionString_rpVersionParse {v : String} {isPs5 : Bool}
    (h : (rpVersionParse v isPs5).isUnknown = false) :
    rpVersionString (rpVersionParse v isPs5) = some v := by
  cases isPs5 <;> simp only [rpVersionParse, Bool.false_eq_true, ↓reduceIte] at h ⊢ <;>
    split_ifs at h ⊢ <;> first | (subst_vars; rfl) | cases h

theorem rpVersionString_isSome {t : Target} : (rpVersionString t).isSome = !t.isUnknown := by
  cases t <;> rfl

/-- `chiaki_rp_version_string` and `chiaki_rp_version_parse` are inverse: a target has the
string `v` exactly when it is known and `v` parses back to it in its own family. -/
theorem rp_version_round_trip (t : Target) (v : String) :
    rpVersionString t = some v ↔ t.isUnknown = false ∧ rpVersionParse v t.isPs5 = t := by
  constructor
  · intro h
    refine ⟨?_, rpVersionParse_rpVersionString h⟩
    have := rpVersionString_isSome (t := t)
    rw [h] at this
    simpa using this.symm
  · rintro ⟨hk, hp⟩
    rw [← hp] at hk ⊢
    exact rpVersionString_rpVersionParse hk

end Chiaki
