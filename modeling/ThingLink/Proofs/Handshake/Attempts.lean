import ThingLink.Proofs.Handshake.Course

/-!
# Attempts, one by one

A handshake is a row of attempts: `Driver.drive` makes one attempt after the other for as long
as each says when the next one starts.  The calls of a handshake are those of its attempts.
-/

namespace ThingLink

/-- What comes of one attempt, and when the next one starts if there is one to follow. -/
structure Attempt (σ : Type) (m : Method) where
  progress : Progress σ (m.Response × Nat)
  wake : Option Nat

namespace Driver

section Steps

variable {σ : Type} [Transport σ]

/-- The attempt after `attempt`, made at `now`. -/
def attemptOnce (m : Method) (request : m.Request) (horizon : Horizon) (attempt now : Nat)
    (d : Driver σ) : Attempt σ m :=
  let attempt := nextAttempt attempt
  let invocation := invoke d.transport m request now horizon
  let d := { d with transport := invocation.after }
  match invocation.ended with
  | none => ⟨⟨none, invocation.journal, { d with state := .awaiting attempt }⟩, none⟩
  | some (time, answer) =>
      let outcome := d.policy.classify m answer
      let journal := invocation.journal ++ logAt time (outcomeLines m attempt d.backoff outcome)
      match outcome with
      | .success response =>
          ⟨⟨some (time, .ok (response, attempt)), journal, { d with state := .done attempt }⟩, none⟩
      | .fatal error =>
          ⟨⟨some (time, .error error), journal, { d with state := .failed attempt }⟩, none⟩
      | .retryable _ =>
          let wake := time + d.backoff
          ⟨⟨none, journal, { d with state := .retrying attempt }⟩,
            if horizon.reaches wake then some wake else none⟩

variable (m : Method) (request : m.Request) (horizon : Horizon) (budget attempt now : Nat)

/-- A handshake goes on after an attempt that is to be followed by another one. -/
theorem drive_succ (d : Driver σ) :
    let first := attemptOnce m request horizon attempt now d
    drive m request horizon (budget + 1) attempt now d
      = match first.wake with
        | none => first.progress
        | some wake =>
            (drive m request horizon budget (nextAttempt attempt) wake first.progress.driver).after
              first.progress.journal := by
  cases ended : (invoke d.transport m request now horizon).ended with
  | none => simp only [drive, attemptOnce, ended]
  | some answered =>
    obtain ⟨time, answer⟩ := answered
    cases classified : d.policy.classify m answer with
    | success response => simp only [drive, attemptOnce, ended, classified]
    | fatal error => simp only [drive, attemptOnce, ended, classified]
    | retryable reason =>
      simp only [drive, attemptOnce, ended, classified]
      by_cases watched : horizon.reaches (time + d.backoff)
      · rw [if_pos watched, if_pos watched]
      · rw [if_neg watched, if_neg watched]

variable {m request horizon budget attempt now}

theorem drive_last {d : Driver σ}
    (last : (attemptOnce m request horizon attempt now d).wake = none) :
    drive m request horizon (budget + 1) attempt now d
      = (attemptOnce m request horizon attempt now d).progress := by
  rw [drive_succ, last]

theorem drive_again {d : Driver σ} {wake : Nat}
    (again : (attemptOnce m request horizon attempt now d).wake = some wake) :
    let first := (attemptOnce m request horizon attempt now d).progress
    drive m request horizon (budget + 1) attempt now d
      = (drive m request horizon budget (nextAttempt attempt) wake first.driver).after
          first.journal := by
  rw [drive_succ, again]

/-- An attempt without a reply is the last one and leaves the handshake open. -/
theorem attemptOnce_pending (attempt : Nat) {d : Driver σ}
    (pending : (invoke d.transport m request now horizon).ended = none) :
    let first := attemptOnce m request horizon attempt now d
    first.progress.ended = none
      ∧ first.wake = none
      ∧ first.progress.journal = (invoke d.transport m request now horizon).journal := by
  unfold attemptOnce
  dsimp only
  rw [pending]
  exact ⟨rfl, rfl, rfl⟩

/-- An attempt ends the handshake with a success or a final failure. -/
theorem attemptOnce_ended (attempt : Nat) {d : Driver σ} {time : Nat}
    {answer : Except CallError m.Response}
    (ended : (invoke d.transport m request now horizon).ended = some (time, answer)) :
    (attemptOnce m request horizon attempt now d).progress.ended
      = match d.policy.classify m answer with
        | .success response => some (time, .ok (response, nextAttempt attempt))
        | .fatal error => some (time, .error error)
        | .retryable _ => none := by
  unfold attemptOnce
  dsimp only
  rw [ended]
  cases classified : d.policy.classify m answer <;> simp only [classified]

/-- An attempt that ends the handshake does so with the reply to its call, and with an error if
the policy makes the reply final. -/
theorem exists_answer_of_ended {d : Driver σ} {time : Nat}
    {result : Except RegistrationError (m.Response × Nat)}
    (came : (attemptOnce m request horizon attempt now d).progress.ended = some (time, result)) :
    ∃ answer, (invoke d.transport m request now horizon).ended = some (time, answer)
      ∧ ∀ error, result = .error error → d.policy.classify m answer = .fatal error := by
  cases ended : (invoke d.transport m request now horizon).ended with
  | none =>
    rw [(attemptOnce_pending attempt ended).1] at came
    cases came
  | some answered =>
    obtain ⟨instant, answer⟩ := answered
    rw [attemptOnce_ended attempt ended] at came
    cases classified : d.policy.classify m answer with
    | success response =>
      rw [classified] at came
      cases came
      exact ⟨answer, rfl, nofun⟩
    | fatal error =>
      rw [classified] at came
      cases came
      exact ⟨answer, rfl, fun error same => by cases same; exact classified⟩
    | retryable reason =>
      rw [classified] at came
      cases came

/-- An attempt is followed by another one a backoff after a reply that left the handshake open. -/
theorem exists_time_of_wake {d : Driver σ} {wake : Nat}
    (again : (attemptOnce m request horizon attempt now d).wake = some wake) :
    ∃ time answer, (invoke d.transport m request now horizon).ended = some (time, answer)
      ∧ wake = time + d.backoff
      ∧ (attemptOnce m request horizon attempt now d).progress.ended = none := by
  unfold attemptOnce at again ⊢
  dsimp only at again ⊢
  split at again
  · cases again
  · next time answer ended =>
    rw [ended]
    split at again
    · cases again
    · cases again
    · next reason classified =>
      obtain ⟨-, same⟩ := Option.ite_none_right_eq_some.mp again
      rw [classified]
      exact ⟨time, answer, rfl, (Option.some.inj same).symm, rfl⟩

theorem ended_of_wake {d : Driver σ} {wake : Nat}
    (again : (attemptOnce m request horizon attempt now d).wake = some wake) :
    (attemptOnce m request horizon attempt now d).progress.ended = none := by
  obtain ⟨time, answer, -, -, pending⟩ := exists_time_of_wake again
  exact pending

/-- An attempt logs what the policy makes of its reply. -/
theorem attemptOnce_journal (attempt : Nat) {d : Driver σ} {time : Nat}
    {answer : Except CallError m.Response}
    (ended : (invoke d.transport m request now horizon).ended = some (time, answer)) :
    (attemptOnce m request horizon attempt now d).progress.journal
      = (invoke d.transport m request now horizon).journal
        ++ logAt time
          (outcomeLines m (nextAttempt attempt) d.backoff (d.policy.classify m answer)) := by
  unfold attemptOnce
  dsimp only
  rw [ended]
  dsimp only
  split <;> rfl

theorem attemptOnce_backoff (d : Driver σ) :
    (attemptOnce m request horizon attempt now d).progress.driver.backoff = d.backoff := by
  unfold attemptOnce
  dsimp only
  split
  · rfl
  · split <;> rfl

theorem attemptOnce_policy (d : Driver σ) :
    (attemptOnce m request horizon attempt now d).progress.driver.policy = d.policy := by
  unfold attemptOnce
  dsimp only
  split
  · rfl
  · split <;> rfl

theorem drive_driver (d : Driver σ) :
    let left := (drive m request horizon budget attempt now d).driver
    left.backoff = d.backoff ∧ left.policy = d.policy := by
  induction budget generalizing attempt now d with
  | zero => exact ⟨rfl, rfl⟩
  | succ budget inductionHypothesis =>
    cases again : (attemptOnce m request horizon attempt now d).wake with
    | none =>
      rw [drive_last again]
      exact ⟨attemptOnce_backoff d, attemptOnce_policy d⟩
    | some wake =>
      rw [drive_again again]
      exact ⟨(inductionHypothesis _).1.trans (attemptOnce_backoff d),
        (inductionHypothesis _).2.trans (attemptOnce_policy d)⟩

/-- A handshake that fails does so with what the policy makes final. -/
theorem exists_answer_of_error {d : Driver σ} {time : Nat} {error : RegistrationError}
    (failed : (drive m request horizon budget attempt now d).ended = some (time, .error error)) :
    ∃ answer, d.policy.classify m answer = .fatal error := by
  induction budget generalizing attempt now d with
  | zero => exact nomatch failed
  | succ budget inductionHypothesis =>
    cases again : (attemptOnce m request horizon attempt now d).wake with
    | some wake =>
      rw [drive_again again] at failed
      obtain ⟨answer, fatal⟩ := inductionHypothesis failed
      rw [attemptOnce_policy] at fatal
      exact ⟨answer, fatal⟩
    | none =>
      rw [drive_last again] at failed
      obtain ⟨answer, -, final⟩ := exists_answer_of_ended failed
      exact ⟨answer, final error rfl⟩

end Steps

/-! ## The calls of a handshake -/

section Calls

variable {σ : Type} [Transport σ] {m : Method} {request : m.Request} {horizon : Horizon}
  {budget attempt now : Nat}

/-- The call of an attempt. -/
def nextCall (d : Driver σ) (m : Method) (request : m.Request) (horizon : Horizon) (now : Nat) :
    Call σ :=
  ⟨d.transport, now, horizon, m.encode request⟩

theorem attemptOnce_recorded (d : Driver (Recorded σ)) :
    let kept := attemptOnce m request horizon attempt now d
    let plain := attemptOnce m request horizon attempt now d.unrecorded
    kept.progress.unrecorded = plain.progress
      ∧ kept.wake = plain.wake
      ∧ kept.progress.driver.transport.calls
        = d.transport.calls ++ [d.unrecorded.nextCall m request horizon now] := by
  unfold attemptOnce
  rw [invoke_recorded]
  dsimp only [unrecorded, withTransport]
  split
  · exact ⟨rfl, rfl, rfl⟩
  · split <;> exact ⟨rfl, rfl, rfl⟩

theorem wake_recorded (d : Driver (Recorded σ)) :
    (attemptOnce m request horizon attempt now d).wake
      = (attemptOnce m request horizon attempt now d.unrecorded).wake :=
  (attemptOnce_recorded d).2.1

theorem left_recorded (d : Driver (Recorded σ)) :
    (attemptOnce m request horizon attempt now d).progress.driver.unrecorded
      = (attemptOnce m request horizon attempt now d.unrecorded).progress.driver :=
  congrArg Progress.driver (attemptOnce_recorded d).1

theorem calls_recorded (d : Driver (Recorded σ)) :
    (attemptOnce m request horizon attempt now d).progress.driver.transport.calls
      = d.transport.calls ++ [d.unrecorded.nextCall m request horizon now] :=
  (attemptOnce_recorded d).2.2

/-- The calls that a handshake makes, the first one first. -/
def callsMade (m : Method) (request : m.Request) (horizon : Horizon) (budget attempt now : Nat)
    (d : Driver σ) : List (Call σ) :=
  (drive m request horizon budget attempt now d.recorded).driver.transport.calls

theorem drive_calls (d : Driver (Recorded σ)) :
    (drive m request horizon budget attempt now d).driver.transport.calls
      = d.transport.calls ++ callsMade m request horizon budget attempt now d.unrecorded := by
  unfold callsMade
  induction budget generalizing attempt now d with
  | zero => exact (List.append_nil _).symm
  | succ budget inductionHypothesis =>
    let plain := d.unrecorded.recorded
    cases again : (attemptOnce m request horizon attempt now d.unrecorded).wake with
    | none =>
      rw [drive_last ((wake_recorded d).trans again),
        drive_last ((wake_recorded plain).trans again), calls_recorded d, calls_recorded plain]
      rfl
    | some wake =>
      rw [drive_again ((wake_recorded d).trans again),
        drive_again ((wake_recorded plain).trans again)]
      dsimp only [Progress.after]
      rw [inductionHypothesis, inductionHypothesis (d := (attemptOnce m request horizon attempt now
        plain).progress.driver), left_recorded d, left_recorded plain, calls_recorded d,
        calls_recorded plain, List.append_assoc, List.append_assoc]
      rfl

theorem callsMade_last {d : Driver σ}
    (last : (attemptOnce m request horizon attempt now d).wake = none) :
    callsMade m request horizon (budget + 1) attempt now d
      = [d.nextCall m request horizon now] := by
  rw [callsMade, drive_last ((wake_recorded d.recorded).trans last), calls_recorded]
  rfl

theorem callsMade_again {d : Driver σ} {wake : Nat}
    (again : (attemptOnce m request horizon attempt now d).wake = some wake) :
    callsMade m request horizon (budget + 1) attempt now d
      = d.nextCall m request horizon now
        :: callsMade m request horizon budget (nextAttempt attempt) wake
          (attemptOnce m request horizon attempt now d).progress.driver := by
  rw [callsMade, drive_again ((wake_recorded d.recorded).trans again)]
  dsimp only [Progress.after]
  rw [drive_calls, calls_recorded, left_recorded d.recorded]
  rfl

end Calls

end Driver

end ThingLink
