import ThingLink.Proofs.Handshake.Attempts

/-!
# Operations

An operation is what a driver is asked for: to register a thing or to authenticate it.  Both
begin in the initial state and leave nothing of earlier operations but the transport.
-/

namespace ThingLink

inductive Operation where
  | register (deviceId : UInt64) (deviceName : String)
  | authenticate (credentials : Credentials)

namespace Operation

def method : Operation → Method
  | register .. => .registerThing
  | authenticate _ => .authThing

abbrev Result : Operation → Type
  | register .. => Driver.Registration
  | authenticate _ => Nat

/-- The request that is sent with every attempt, unless it cannot be made. -/
def request? : (o : Operation) → Except ProtocolError o.method.Request
  | register deviceId deviceName => RegisterRequest.make deviceId deviceName
  | authenticate credentials => .ok ⟨credentials⟩

/-- The line that an operation logs before its first attempt. -/
def line : (o : Operation) → o.method.Request → LogLine
  | register .., request => .registering request
  | authenticate credentials, _ => .authenticating credentials

/-- What is made of a response and the number of its attempt. -/
def result : (o : Operation) → o.method.Response × Nat → o.Result
  | register .., (response, attempts) => ⟨attempts, response.credentials⟩
  | authenticate _, (_, attempts) => attempts

end Operation

namespace Driver

variable {σ : Type} [Transport σ]

def perform (d : Driver σ) : (o : Operation) → Horizon → (budget now : Nat) → Progress σ o.Result
  | .register deviceId deviceName, horizon, budget, now =>
      d.register deviceId deviceName horizon budget now
  | .authenticate credentials, horizon, budget, now =>
      d.authenticate credentials horizon budget now

section Performed

variable {o : Operation} (horizon : Horizon) (budget now : Nat)

theorem perform_of_error (d : Driver σ) {cause : ProtocolError}
    (refused : o.request? = .error cause) :
    d.perform o horizon budget now
      = ⟨some (now, .error (.invalidRequest cause)), [], { d with state := .initial }⟩ := by
  cases o with
  | register deviceId deviceName =>
    simp only [Operation.request?] at refused
    simp only [perform, register, refused]
  | authenticate credentials => cases refused

theorem perform_of_ok (d : Driver σ) {request : o.method.Request}
    (made : o.request? = .ok request) :
    d.perform o horizon budget now
      = ((drive o.method request horizon budget 0 now { d with state := .initial }).after
          (logAt now [o.line request])).map o.result := by
  cases o with
  | register deviceId deviceName =>
    simp only [Operation.request?] at made
    simp only [perform, register, made]
    rfl
  | authenticate credentials =>
    cases made
    rfl

theorem perform_unrecorded (d : Driver (Recorded σ)) (o : Operation) :
    (d.perform o horizon budget now).unrecorded = d.unrecorded.perform o horizon budget now := by
  cases o with
  | register deviceId deviceName =>
    exact d.register_unrecorded horizon budget now deviceId deviceName
  | authenticate credentials => exact d.authenticate_unrecorded horizon budget now credentials

/-- An operation does not know in which state its driver was. -/
theorem perform_fresh (d : Driver σ) (o : Operation) (state : DriverState) :
    { d with state }.perform o horizon budget now = d.perform o horizon budget now := by
  cases o <;> rfl

theorem perform_driver (d : Driver σ) (o : Operation) :
    let left := (d.perform o horizon budget now).driver
    left.backoff = d.backoff ∧ left.policy = d.policy := by
  cases made : o.request? with
  | error cause =>
    rw [perform_of_error horizon budget now d made]
    exact ⟨rfl, rfl⟩
  | ok request =>
    rw [perform_of_ok horizon budget now d made]
    exact drive_driver { d with state := .initial }

theorem perform_course (d : Driver σ) {request : o.method.Request}
    (made : o.request? = .ok request) :
    let progress := d.recorded.perform o horizon budget now
    Handshake.Course (m := o.method)
      { driver := { d with state := .initial }, request,
        result := fun response attempts => o.result (response, attempts),
        horizon, budget, attempt := 0, now }
      progress.driver.transport.calls progress.ended progress.driver.state := by
  obtain ⟨calls, kept, course⟩ := drive_course o.method request horizon budget 0 now
    { d.recorded with state := .initial }
  rw [perform_of_ok horizon budget now d.recorded made]
  rw [show calls = _ from kept.symm] at course
  exact course.map o.result

theorem perform_calls (d : Driver σ) {request : o.method.Request}
    (made : o.request? = .ok request) :
    (d.recorded.perform o horizon budget now).driver.transport.calls
      = callsMade o.method request horizon budget 0 now { d with state := .initial } := by
  rw [perform_of_ok horizon budget now d.recorded made]
  rfl

/-- An operation whose request can be made fails with what the policy makes final. -/
theorem perform_failed {d : Driver σ} {request : o.method.Request}
    (made : o.request? = .ok request) {time : Nat} {error : RegistrationError}
    (failed : (d.perform o horizon budget now).ended = some (time, .error error)) :
    ∃ answer, d.policy.classify o.method answer = .fatal error := by
  rw [perform_of_ok horizon budget now d made] at failed
  obtain ⟨⟨instant, result⟩, ended, same⟩ := Option.map_eq_some_iff.mp failed
  cases result with
  | ok result => exact nomatch same
  | error cause =>
    cases same
    exact exists_answer_of_error (d := { d with state := .initial }) ended

end Performed

end Driver

end ThingLink
