import ThingLink.Handshake.Policy

/-!
# What is made of an answer

A policy makes one of five things of an answer, each under its own condition.  `Judged` lists
them with their conditions, and `classify_eq_iff` says that `Policy.classify` follows this list.
-/

namespace ThingLink

namespace Policy

/-- What becomes of an answer, by the codes that are listed and by whether lost connections are
final. -/
inductive Judged (listed : ResultCode → Prop) (final : Bool) (m : Method) :
    Except CallError m.Response → Outcome m.Response → Prop where
  | success {response : m.Response} (code : m.result response = .success) :
      Judged listed final m (.ok response) (.success response)
  | rejected {response : m.Response} (failed : m.result response ≠ .success)
      (known : listed (m.result response)) :
      Judged listed final m (.ok response) (.fatal (.rejected m (m.result response)))
  | refused {response : m.Response} (failed : m.result response ≠ .success)
      (unknown : ¬listed (m.result response)) :
      Judged listed final m (.ok response) (.retryable (.rejected (m.result response)))
  | lost {e : CallError} (permanent : e.isRetryable = false) (ends : final = true) :
      Judged listed final m (.error e) (.fatal (.call e))
  | passing {e : CallError} (goesOn : e.isRetryable = true ∨ final = false) :
      Judged listed final m (.error e) (.retryable (.call e))

namespace Judged

variable {listed : ResultCode → Prop} {final : Bool} {m : Method}
  {answer : Except CallError m.Response} {outcome other : Outcome m.Response}

/-- An answer is judged in one way. -/
theorem unique (one : Judged listed final m answer outcome)
    (two : Judged listed final m answer other) : other = outcome := by
  cases one with
  | success code =>
    cases two with
    | success => rfl
    | rejected failed => exact absurd code failed
    | refused failed => exact absurd code failed
  | rejected failed known =>
    cases two with
    | success code => exact absurd code failed
    | rejected => rfl
    | refused _ unknown => exact absurd known unknown
  | refused failed unknown =>
    cases two with
    | success code => exact absurd code failed
    | rejected _ known => exact absurd known unknown
    | refused => rfl
  | lost permanent ends =>
    cases two with
    | lost => rfl
    | passing goesOn => simp [permanent, ends] at goesOn
  | passing goesOn =>
    cases two with
    | lost permanent ends => simp [permanent, ends] at goesOn
    | passing => rfl

theorem success_iff {response : m.Response} :
    Judged listed final m answer (.success response)
      ↔ answer = .ok response ∧ m.result response = .success := by
  constructor
  · intro judged
    cases judged with
    | success code => exact ⟨rfl, code⟩
  · rintro ⟨rfl, code⟩
    exact .success code

theorem rejected_iff {method : Method} {code : ResultCode} :
    Judged listed final m answer (.fatal (.rejected method code))
      ↔ method = m ∧ code ≠ .success ∧ listed code
          ∧ ∃ response, answer = .ok response ∧ m.result response = code := by
  constructor
  · intro judged
    cases judged with
    | rejected failed known => exact ⟨rfl, failed, known, _, rfl, rfl⟩
  · rintro ⟨rfl, failed, known, response, rfl, rfl⟩
    exact .rejected failed known

theorem refused_iff {code : ResultCode} :
    Judged listed final m answer (.retryable (.rejected code))
      ↔ code ≠ .success ∧ ¬listed code
          ∧ ∃ response, answer = .ok response ∧ m.result response = code := by
  constructor
  · intro judged
    cases judged with
    | refused failed unknown => exact ⟨failed, unknown, _, rfl, rfl⟩
  · rintro ⟨failed, unknown, response, rfl, rfl⟩
    exact .refused failed unknown

theorem lost_iff {e : CallError} :
    Judged listed final m answer (.fatal (.call e))
      ↔ answer = .error e ∧ e.isRetryable = false ∧ final = true := by
  constructor
  · intro judged
    cases judged with
    | lost permanent ends => exact ⟨rfl, permanent, ends⟩
  · rintro ⟨rfl, permanent, ends⟩
    exact .lost permanent ends

theorem passing_iff {e : CallError} :
    Judged listed final m answer (.retryable (.call e))
      ↔ answer = .error e ∧ (e.isRetryable = true ∨ final = false) := by
  constructor
  · intro judged
    cases judged with
    | passing goesOn => exact ⟨rfl, goesOn⟩
  · rintro ⟨rfl, goesOn⟩
    exact .passing goesOn

/-- That a response carries success is looked at before the lists. -/
theorem congr {others : ResultCode → Prop} (same : ∀ code ≠ .success, others code ↔ listed code)
    (judged : Judged listed final m answer outcome) : Judged others final m answer outcome := by
  cases judged with
  | success code => exact .success code
  | rejected failed known => exact .rejected failed ((same _ failed).mpr known)
  | refused failed unknown =>
    exact .refused failed fun known => unknown ((same _ failed).mp known)
  | lost permanent ends => exact .lost permanent ends
  | passing goesOn => exact .passing goesOn

end Judged

theorem classify_judged (p : Policy) (m : Method) (answer : Except CallError m.Response) :
    Judged (· ∈ p.fatalCodes) p.fatalDisconnect m answer (p.classify m answer) := by
  cases answer with
  | ok response =>
    simp only [classify, List.contains_eq_mem, decide_eq_true_eq]
    split
    · next code => exact .success code
    · next failed =>
      split
      · next known => exact .rejected failed known
      · next unknown => exact .refused failed unknown
  | error e =>
    simp only [classify, Bool.or_eq_true, Bool.not_eq_true']
    split
    · next goesOn => exact .passing goesOn
    · next stops =>
      rw [not_or, Bool.not_eq_true, Bool.not_eq_false] at stops
      exact .lost stops.1 stops.2

section Classified

variable {p : Policy} {m : Method} {answer : Except CallError m.Response} {e : CallError}

theorem classify_eq_iff {outcome : Outcome m.Response} :
    p.classify m answer = outcome ↔ Judged (· ∈ p.fatalCodes) p.fatalDisconnect m answer outcome := by
  constructor
  · rintro rfl
    exact p.classify_judged m answer
  · intro judged
    exact judged.unique (p.classify_judged m answer)

theorem classify_eq_success_iff {response : m.Response} :
    p.classify m answer = .success response
      ↔ answer = .ok response ∧ m.result response = .success :=
  classify_eq_iff.trans Judged.success_iff

theorem reason_of_ok {response : m.Response} {reason : RetryReason}
    (classified : p.classify m (.ok response) = .retryable reason) :
    reason = .rejected (m.result response) := by
  cases classify_eq_iff.mp classified
  rfl

theorem reason_of_error {reason : RetryReason}
    (classified : p.classify m (.error e) = .retryable reason) : reason = .call e := by
  cases classify_eq_iff.mp classified
  rfl

/-- No policy takes a reply for a request that cannot be made. -/
theorem classify_ne_invalidRequest {cause : ProtocolError} :
    p.classify m answer ≠ .fatal (.invalidRequest cause) :=
  fun fatal => nomatch classify_eq_iff.mp fatal

/-- An error that may pass on the same connection is tried again under every policy. -/
theorem classify_of_isRetryable (retryable : e.isRetryable = true) (p : Policy) (m : Method) :
    p.classify m (.error e) = .retryable (.call e) :=
  classify_eq_iff.mpr (.passing (.inl retryable))

theorem classify_timeout (p : Policy) (m : Method) :
    p.classify m (.error .timeout) = .retryable (.call .timeout) :=
  classify_of_isRetryable rfl p m

end Classified

end Policy

end ThingLink
