import ThingLink.Link.Error

/-!
# Retry policies

One attempt of a handshake succeeds, fails in a way that is tried again, or
fails for good.  `Policy.classify` decides which: by default every failure is
tried again, and a policy may make verdicts and lost connections final.
-/

namespace ThingLink

inductive RetryReason where
  | rejected (code : ResultCode)
  | call (error : CallError)
  deriving DecidableEq, Repr

namespace RetryReason

/-- Whether the next attempt is unlikely to end otherwise. -/
def isPermanent : RetryReason → Bool
  | rejected code => code.isPermanent
  | call error => !error.isRetryable

def message : RetryReason → String
  | rejected code => "gateway answered " ++ code.name
  | call error => error.message

end RetryReason

inductive RegistrationError where
  /-- The gateway answered with a failure that the policy makes final. -/
  | rejected (method : Method) (code : ResultCode)
  | invalidRequest (cause : ProtocolError)
  | call (error : CallError)
  deriving DecidableEq, Repr

namespace RegistrationError

def message : RegistrationError → String
  | rejected method code => "gateway rejected " ++ method.name ++ ": " ++ code.name
  | invalidRequest cause => "invalid request: " ++ cause.message
  | call error => error.message

/-- The wordings of the errors behind this one, outermost first. -/
def causes : RegistrationError → List String
  | rejected .. => []
  | invalidRequest cause => cause.message :: cause.causes
  | call error => error.causes

end RegistrationError

inductive Outcome (ρ : Type) where
  | success (response : ρ)
  | retryable (reason : RetryReason)
  | fatal (error : RegistrationError)
  deriving DecidableEq

/-- Which failed attempts end a handshake. -/
structure Policy where
  fatalCodes : List ResultCode := []
  /-- Whether a connection that is closed or fails is final. -/
  fatalDisconnect : Bool := false
  deriving DecidableEq, Repr

namespace Policy

def lenient : Policy := {}

def withFatalCodes (p : Policy) (codes : List ResultCode) : Policy :=
  { p with fatalCodes := p.fatalCodes ++ codes }

def withFatalDisconnect (p : Policy) (final : Bool) : Policy :=
  { p with fatalDisconnect := final }

/-- The policy that stops at permanent verdicts and at lost connections. -/
def strict : Policy :=
  (lenient.withFatalCodes ResultCode.permanent).withFatalDisconnect true

def classify (p : Policy) (m : Method) : Except CallError m.Response → Outcome m.Response
  | .ok response =>
      -- success comes first, so it cannot be made final
      let code := m.result response
      if code = .success then .success response
      else if p.fatalCodes.contains code then .fatal (.rejected m code)
      else .retryable (.rejected code)
  -- errors that pass on the same connection are retried under every policy
  | .error e =>
      if e.isRetryable || !p.fatalDisconnect then .retryable (.call e)
      else .fatal (.call e)

/-! ## Chains of policy steps -/

inductive Step where
  | fatalCodes (codes : List ResultCode)
  | fatalDisconnect (final : Bool)
  deriving DecidableEq, Repr

def apply (p : Policy) : Step → Policy
  | .fatalCodes codes => p.withFatalCodes codes
  | .fatalDisconnect final => p.withFatalDisconnect final

def applyAll (p : Policy) (steps : List Step) : Policy :=
  steps.foldl apply p

theorem mem_fatalCodes_applyAll {p : Policy} {steps : List Step} {code : ResultCode} :
    code ∈ (p.applyAll steps).fatalCodes
      ↔ code ∈ p.fatalCodes ∨ ∃ codes, Step.fatalCodes codes ∈ steps ∧ code ∈ codes := by
  induction steps generalizing p with
  | nil => simp [applyAll]
  | cons step steps ih =>
      have := ih (p := p.apply step)
      simp only [applyAll, List.foldl_cons] at this ⊢
      rw [this]
      cases step <;>
        simp [apply, withFatalCodes, withFatalDisconnect, or_assoc, or_and_right, exists_or]

end Policy

end ThingLink
