import CredentialHelper.Identity
import CredentialHelper.Failure.Cause
import CredentialHelper.Validation.Field

/-!
# Tokens

A token is an opaque text with a type and, if it is known, the moment of its expiry. It is usable
if it is not empty and does not expire within the next ten seconds. The two rules differ in a token
without a known expiry: `isValid` refuses it, `isLive` takes it as one that never expires.
-/

namespace CredentialHelper

structure Token where
  value : Text
  type : Text := Default.bearer
  expiry : Option Moment := none
  deriving DecidableEq, Repr

namespace Token

open Validation

def formName : String := "Token"

/-- A token from three fields, of which the value has to be there. -/
def ofMembers (members : Members) : Except Report Token :=
  let value := required "value" readText members
  let type := optional "token_type" readText Default.bearer members
  let expiry := optional "expiry" readOptionalMoment none members
  match value, type, expiry with
  | .ok value, .ok type, .ok expiry => .ok ⟨value, type, expiry⟩
  | _, _, _ => .error ⟨formName, value.issues ++ type.issues ++ expiry.issues⟩

def ofJson : Json → Except Report Token
  | .object members => ofMembers members
  | _ => .error ⟨formName, [⟨[], .record formName⟩]⟩

def expiryJson (expiry : Option Moment) : Json :=
  match expiry with
  | none => .null
  | some m => Json.ofString m.stamp

def toJson (t : Token) : Json :=
  .ofMembers [("value", .string t.value), ("token_type", .string t.type),
    ("expiry", expiryJson t.expiry)]

/-- Whether an expiry is more than some seconds after an instant. Both have to lie in range on the
scale of UTC. -/
def outlastsBy (seconds : Int) (expiry : Moment) (now : Instant) : Except RangeError Bool :=
  match expiry.utc?, now.addSeconds? seconds with
  | some expiry, some limit => .ok (decide (limit < expiry))
  | _, _ => .error .date

def outlasts (expiry now : Moment) : Except RangeError Bool :=
  match now.utc? with
  | none => .error .date
  | some now => outlastsBy Default.expirySkew expiry now

/-- Whether the token can be used at a moment. A token without a known expiry cannot. -/
def isValid (t : Token) (now : Moment) : Except RangeError Bool :=
  if t.value.isEmpty then .ok false
  else match t.expiry with
    | none => .ok false
    | some expiry => outlasts expiry now

/-- Whether the token can be used at a moment. A token without a known expiry never expires. -/
def isLive (t : Token) (now : Moment) : Except RangeError Bool :=
  if !t.value.isEmpty && t.expiry.isNone then .ok true else t.isValid now

end Token

end CredentialHelper
