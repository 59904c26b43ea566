import ThingLink.Proofs.Handshake.Judgement
import ThingLink.Proofs.Handshake.Operation

/-!
# What a chain of policy steps means

A policy is made in steps from the lenient or the strict one.  What it makes of an answer depends
on two things only: which codes are listed anywhere in the chain, and what the chain says last
about lost connections.  Success comes before all lists, and a call that may pass on the same
connection is tried again whatever the chain says.
-/

namespace ThingLink

namespace Policy

/-! ## What is listed, and what is said last -/

/-- The policy that a chain begins with. -/
inductive Start where
  | lenient
  | strict

namespace Start

def policy : Start → Policy
  | lenient => .lenient
  | strict => .strict

def codes : Start → List ResultCode
  | lenient => []
  | strict => ResultCode.permanent

def finalDisconnect : Start → Bool
  | lenient => false
  | strict => true

end Start

/-- What a step says about lost connections, if it is about them. -/
def Step.disconnect? : Step → Option Bool
  | fatalCodes _ => none
  | fatalDisconnect final => some final

/-- That a code stands in one of the lists of a chain. -/
def Lists (start : Start) (steps : List Step) (code : ResultCode) : Prop :=
  code ∈ start.codes ∨ ∃ codes, Step.fatalCodes codes ∈ steps ∧ code ∈ codes

def lastDisconnect (start : Start) (steps : List Step) : Bool :=
  (steps.filterMap Step.disconnect?).getLast?.getD start.finalDisconnect

section Chains

variable {start : Start} {steps : List Step} {code : ResultCode}

theorem mem_fatalCodes_chain :
    code ∈ (start.policy.applyAll steps).fatalCodes ↔ Lists start steps code := by
  rw [mem_fatalCodes_applyAll, Lists]
  cases start <;> rfl

theorem fatalDisconnect_applyAll (p : Policy) (steps : List Step) :
    (p.applyAll steps).fatalDisconnect
      = (steps.filterMap Step.disconnect?).getLast?.getD p.fatalDisconnect := by
  induction steps generalizing p with
  | nil => rfl
  | cons step steps inductionHypothesis =>
    have rest := inductionHypothesis (p.apply step)
    rw [applyAll, List.foldl_cons, ← applyAll, rest]
    cases step with
    | fatalCodes codes => rfl
    | fatalDisconnect final =>
      -- what is said now is overruled by anything that is said later
      rw [List.filterMap_cons, Step.disconnect?, List.getLast?_cons]
      rfl

theorem fatalDisconnect_chain :
    (start.policy.applyAll steps).fatalDisconnect = lastDisconnect start steps := by
  rw [fatalDisconnect_applyAll, lastDisconnect]
  cases start <;> rfl

end Chains

/-! ## What is made of an answer -/

theorem classify_chain_iff {start : Start} {steps : List Step} {m : Method}
    {answer : Except CallError m.Response} {outcome : Outcome m.Response} :
    (start.policy.applyAll steps).classify m answer = outcome
      ↔ Judged (Lists start steps) (lastDisconnect start steps) m answer outcome := by
  rw [classify_eq_iff]
  simp only [mem_fatalCodes_chain, fatalDisconnect_chain]

/-- Chains make the same of all answers if they list the same failures and say the same of lost
connections, and only then. -/
theorem chains_agree_iff {start start' : Start} {steps steps' : List Step} :
    (∀ (m : Method) (answer : Except CallError m.Response),
        (start'.policy.applyAll steps').classify m answer
          = (start.policy.applyAll steps).classify m answer)
      ↔ (∀ code ≠ .success, Lists start' steps' code ↔ Lists start steps code)
          ∧ lastDisconnect start' steps' = lastDisconnect start steps := by
  constructor
  · intro agree
    refine ⟨fun code failed => ?_, ?_⟩
    · -- a response that carries the code tells whether it is listed
      have listed (start : Start) (steps : List Step) :
          (start.policy.applyAll steps).classify .authThing (.ok ⟨code⟩)
              = .fatal (.rejected .authThing code) ↔ Lists start steps code := by
        rw [classify_chain_iff, Judged.rejected_iff]
        exact ⟨fun both => both.2.2.1, fun known => ⟨rfl, failed, known, _, rfl, rfl⟩⟩
      rw [← listed, ← listed, agree]
    · have final (start : Start) (steps : List Step) :
          (start.policy.applyAll steps).classify .authThing (.error .connectionClosed)
              = .fatal (.call .connectionClosed) ↔ lastDisconnect start steps = true := by
        rw [classify_chain_iff, Judged.lost_iff]
        exact ⟨fun both => both.2.2, fun ends => ⟨rfl, rfl, ends⟩⟩
      rw [Bool.eq_iff_iff, ← final, ← final, agree]
  · rintro ⟨codes, disconnect⟩ m answer
    rw [classify_chain_iff, disconnect]
    exact (classify_chain_iff.mp rfl).congr codes

end Policy

/-- No operation ends with an error that may pass on the same connection. -/
theorem Driver.perform_ne_retryable {σ : Type} [Transport σ] (d : Driver σ) (o : Operation)
    (horizon : Horizon) (budget now : Nat) {time : Nat} {e : CallError}
    (retryable : e.isRetryable = true) :
    (d.perform o horizon budget now).ended ≠ some (time, .error (.call e)) := by
  intro failed
  cases made : o.request? with
  | error cause =>
    rw [perform_of_error horizon budget now d made] at failed
    cases failed
  | ok request =>
    obtain ⟨answer, fatal⟩ := perform_failed horizon budget now made failed
    cases Policy.classify_eq_iff.mp fatal with
    | lost permanent => exact absurd retryable (by simp [permanent])

namespace Policy

/-- What a chain makes of an answer: success if and only if the response carries it, a final
rejection if and only if another code is listed anywhere in the chain, a final error if and only
if it cannot pass and the chain has last made lost connections final, and in all other cases
another attempt.  Two chains are told apart by the listed failure codes and by what they say last
about lost connections alone, and errors that may pass end no operation under any policy. -/
theorem chain_meaning (start : Start) (steps : List Step) :
    let policy := start.policy.applyAll steps
    (∀ (m : Method) (answer : Except CallError m.Response),
        (∀ response, policy.classify m answer = .success response
            ↔ answer = .ok response ∧ m.result response = .success)
          ∧ (∀ method code, policy.classify m answer = .fatal (.rejected method code)
            ↔ method = m ∧ code ≠ .success ∧ Lists start steps code
                ∧ ∃ response, answer = .ok response ∧ m.result response = code)
          ∧ (∀ e, policy.classify m answer = .fatal (.call e)
            ↔ answer = .error e ∧ e.isRetryable = false ∧ lastDisconnect start steps = true)
          ∧ (∀ cause, policy.classify m answer ≠ .fatal (.invalidRequest cause))
          ∧ (∀ code, policy.classify m answer = .retryable (.rejected code)
            ↔ code ≠ .success ∧ ¬Lists start steps code
                ∧ ∃ response, answer = .ok response ∧ m.result response = code)
          ∧ ∀ e, policy.classify m answer = .retryable (.call e)
            ↔ answer = .error e ∧ (e.isRetryable = true ∨ lastDisconnect start steps = false))
      ∧ (∀ (start' : Start) (steps' : List Step),
          (∀ (m : Method) (answer : Except CallError m.Response),
              (start'.policy.applyAll steps').classify m answer = policy.classify m answer)
            ↔ (∀ code ≠ .success, Lists start' steps' code ↔ Lists start steps code)
                ∧ lastDisconnect start' steps' = lastDisconnect start steps)
      ∧ ∀ e : CallError, (e = .timeout ∨ (∃ cause, e = .decode cause)
            ∨ (∃ size max, e = .frameTooLarge size max)
            ∨ ∃ method got, e = .unexpectedResponse method got) →
          (∀ (p : Policy) (m : Method), p.classify m (.error e) = .retryable (.call e))
            ∧ ∀ {σ : Type} [Transport σ] (d : Driver σ) (o : Operation) (horizon : Horizon)
                (budget now time : Nat),
                (d.perform o horizon budget now).ended ≠ some (time, .error (.call e)) := by
  intro policy
  refine ⟨fun m answer => ⟨?_, ?_, ?_, ?_, ?_, ?_⟩, fun start' steps' => chains_agree_iff, ?_⟩
  · exact fun response => classify_chain_iff.trans Judged.success_iff
  · exact fun method code => classify_chain_iff.trans Judged.rejected_iff
  · exact fun e => classify_chain_iff.trans Judged.lost_iff
  · exact fun cause invalid => nomatch classify_chain_iff.mp invalid
  · exact fun code => classify_chain_iff.trans Judged.refused_iff
  · exact fun e => classify_chain_iff.trans Judged.passing_iff
  · intro e passes
    have retryable : e.isRetryable = true := by
      rcases passes with rfl | ⟨cause, rfl⟩ | ⟨size, max, rfl⟩ | ⟨method, got, rfl⟩ <;> rfl
    exact ⟨classify_of_isRetryable retryable, fun d o horizon budget now time =>
      d.perform_ne_retryable o horizon budget now retryable⟩

/-- A chain that lists success and a code twice, and takes back what it has said of lost
connections. -/
def wavering : List Step :=
  [.fatalCodes [.success, .error], .fatalDisconnect false, .fatalDisconnect true,
    .fatalCodes [.error, .cloudFailure]]

/-- A chain that lists one code more, and no longer stops at lost connections. -/
def relenting : List Step :=
  [.fatalCodes [.cloudFailure], .fatalDisconnect false]

theorem chain_meaning_wavering :
    let policy := Start.lenient.policy.applyAll wavering
    let other := Start.lenient.policy.applyAll
      [.fatalDisconnect true, .fatalCodes [.cloudFailure, .error]]
    let strict := Start.strict.policy.applyAll relenting
    let spelled := Start.lenient.policy.applyAll [.fatalCodes (.cloudFailure :: ResultCode.permanent)]
    policy.classify .authThing (.ok ⟨.success⟩) = .success ⟨.success⟩
      ∧ policy.classify .authThing (.ok ⟨.error⟩) = .fatal (.rejected .authThing .error)
      ∧ policy.classify .registerThing (.ok ⟨.invalid, none⟩) = .retryable (.rejected .invalid)
      ∧ policy.classify .authThing (.error .connectionClosed) = .fatal (.call .connectionClosed)
      ∧ policy.classify .authThing (.error .timeout) = .retryable (.call .timeout)
      ∧ other.classify .authThing (.ok ⟨.cloudFailure⟩)
          = policy.classify .authThing (.ok ⟨.cloudFailure⟩)
      ∧ strict.classify .registerThing (.ok ⟨.invalid, none⟩)
          = .fatal (.rejected .registerThing .invalid)
      ∧ strict.classify .authThing (.ok ⟨.error⟩) = .retryable (.rejected .error)
      ∧ strict.classify .authThing (.error .connectionClosed)
          = .retryable (.call .connectionClosed)
      ∧ Start.strict.policy.classify .authThing (.error .connectionClosed)
          = .fatal (.call .connectionClosed)
      ∧ spelled.classify .authThing (.ok ⟨.protocolMismatch⟩)
          = strict.classify .authThing (.ok ⟨.protocolMismatch⟩) := by
  intro policy other strict spelled
  obtain ⟨meaning, agree, passing⟩ := chain_meaning .lenient wavering
  have same := (agree .lenient [.fatalDisconnect true, .fatalCodes [.cloudFailure, .error]]).mpr
    ⟨fun code failed => by
      cases code <;> simp [Lists, wavering, Start.codes] at failed ⊢, rfl⟩
  obtain ⟨relents, agreeStrict, -⟩ := chain_meaning .strict relenting
  have sameStrict :=
    (agreeStrict .lenient [.fatalCodes (.cloudFailure :: ResultCode.permanent)]).mpr
      ⟨fun code _ => by simp [Lists, relenting, Start.codes, or_comm], rfl⟩
  obtain ⟨stops, -⟩ := chain_meaning .strict []
  refine ⟨((meaning _ _).1 _).mpr ⟨rfl, rfl⟩, ((meaning _ _).2.1 _ _).mpr ?_,
    ((meaning _ _).2.2.2.2.1 _).mpr ?_, ((meaning _ _).2.2.1 _).mpr ⟨rfl, rfl, rfl⟩,
    (passing .timeout (.inl rfl)).1 policy .authThing, same _ _,
    ((relents _ _).2.1 _ _).mpr ?_, ((relents _ _).2.2.2.2.1 _).mpr ?_,
    ((relents _ _).2.2.2.2.2 _).mpr ⟨rfl, .inr rfl⟩, ((stops _ _).2.2.1 _).mpr ⟨rfl, rfl, rfl⟩,
    sameStrict _ _⟩
  · exact ⟨rfl, by decide, by simp [Lists, wavering], _, rfl, rfl⟩
  · exact ⟨by decide, by simp [Lists, wavering, Start.codes], _, rfl, rfl⟩
  · exact ⟨rfl, by decide, by simp [Lists, Start.codes, ResultCode.permanent], _, rfl, rfl⟩
  · refine ⟨by decide, ?_, _, rfl, rfl⟩
    simp [Lists, relenting, Start.codes, ResultCode.permanent]

end Policy

end ThingLink
