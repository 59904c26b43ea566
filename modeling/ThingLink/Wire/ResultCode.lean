/-!
# Result codes

A gateway answers every request with one of eight verdicts.  Each has a number
on the wire (a signed byte) and a name; `ofWire?` and `ofName?` read them back.
Four of the failures are permanent: sending the same request again cannot help.
-/

namespace ThingLink

/-- A gateway's verdict on a request. -/
inductive ResultCode where
  | success
  | error
  | invalid
  | permission
  | cloudFailure
  | registerFailure
  | credentialUnauthorized
  | protocolMismatch
  deriving DecidableEq, Repr, Inhabited

namespace ResultCode

def all : List ResultCode :=
  [success, error, invalid, permission, cloudFailure, registerFailure,
    credentialUnauthorized, protocolMismatch]

/-- The number that stands for a code on the wire: 0 down to -7. -/
def wire : ResultCode → Int8
  | success => 0
  | error => -1
  | invalid => -2
  | permission => -3
  | cloudFailure => -4
  | registerFailure => -5
  | credentialUnauthorized => -6
  | protocolMismatch => -7

def name : ResultCode → String
  | success => "SUCCESS"
  | error => "ERROR"
  | invalid => "INVALID"
  | permission => "PERMISSION"
  | cloudFailure => "CLOUD_FAILURE"
  | registerFailure => "REGISTER_FAILURE"
  | credentialUnauthorized => "CREDENTIAL_UNAUTHORIZED"
  | protocolMismatch => "PROTOCOL_MISMATCH"

def ofWire? (n : Int8) : Option ResultCode :=
  all.find? (·.wire = n)

def ofName? (s : String) : Option ResultCode :=
  all.find? (·.name = s)

@[simp] theorem ofWire?_wire (code : ResultCode) : ofWire? code.wire = some code := by
  cases code <;> decide

theorem ofWire?_eq_some_iff {n : Int8} {code : ResultCode} :
    ofWire? n = some code ↔ code.wire = n := by
  constructor
  · intro h
    simpa using List.find?_some h
  · rintro rfl
    exact ofWire?_wire code

/-- The failures that the same request would meet again. -/
def permanent : List ResultCode :=
  [invalid, permission, credentialUnauthorized, protocolMismatch]

def isPermanent (code : ResultCode) : Bool :=
  permanent.contains code

/-- Whether the same request may succeed when it is sent again. -/
def isRetryable : ResultCode → Bool
  | error | cloudFailure | registerFailure => true
  | _ => false

theorem isRetryable_iff (code : ResultCode) :
    code.isRetryable = true ↔ code ≠ success ∧ code.isPermanent = false := by
  cases code <;> decide

end ResultCode

end ThingLink
