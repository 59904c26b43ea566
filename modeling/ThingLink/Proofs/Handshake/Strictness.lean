import ThingLink.Proofs.Handshake.Judgement
import ThingLink.Proofs.Handshake.Operation

/-!
# Stricter policies

A policy is asked once for every reply, so the runs of one operation under two policies are the
same for as long as the policies say the same of the replies.  A policy that makes more failures
final says something else only of a failure that it makes final, and there its run stops.
-/

namespace ThingLink

namespace Policy

/-- That what one policy makes final, another one makes final too. -/
def NoStricterThan (p q : Policy) : Prop :=
  ∀ (m : Method) (answer : Except CallError m.Response) (error : RegistrationError),
    p.classify m answer = .fatal error → ∃ final, q.classify m answer = .fatal final

variable {p q : Policy} {m : Method} {answer : Except CallError m.Response}

theorem noStricterThan_of (codes : ∀ code ∈ p.fatalCodes, code ∈ q.fatalCodes)
    (disconnect : p.fatalDisconnect → q.fatalDisconnect) : p.NoStricterThan q := by
  intro m answer error fatal
  cases classify_eq_iff.mp fatal with
  | rejected failed known => exact ⟨_, classify_eq_iff.mpr (.rejected failed (codes _ known))⟩
  | lost permanent ends => exact ⟨_, classify_eq_iff.mpr (.lost permanent (disconnect ends))⟩

/-- The lenient policy makes nothing final. -/
theorem lenient_noStricterThan (q : Policy) : lenient.NoStricterThan q :=
  noStricterThan_of nofun nofun

/-- Policies do not differ in the reasons for which they try again. -/
theorem reason_eq {reason other : RetryReason} (one : p.classify m answer = .retryable reason)
    (two : q.classify m answer = .retryable other) : reason = other := by
  cases answer with
  | ok response => exact (reason_of_ok one).trans (reason_of_ok two).symm
  | error e => exact (reason_of_error one).trans (reason_of_error two).symm

/-- A stricter policy says something else only of what it makes final. -/
theorem NoStricterThan.classify_eq (weaker : p.NoStricterThan q)
    (goesOn : ∀ error, q.classify m answer ≠ .fatal error) :
    q.classify m answer = p.classify m answer := by
  cases general : p.classify m answer with
  | success response =>
    exact classify_eq_success_iff.mpr (classify_eq_success_iff.mp general)
  | fatal error =>
    obtain ⟨final, stops⟩ := weaker m answer error general
    exact absurd stops (goesOn final)
  | retryable reason =>
    cases strict : q.classify m answer with
    | success response =>
      have succeeded : p.classify m answer = .success response :=
        classify_eq_success_iff.mpr (classify_eq_success_iff.mp strict)
      exact nomatch succeeded.symm.trans general
    | fatal error => exact absurd strict (goesOn error)
    | retryable other => rw [reason_eq general strict]

end Policy

/-! ## One operation under two policies -/

def Driver.withPolicy {σ : Type} (d : Driver σ) (policy : Policy) : Driver σ :=
  { d with policy }

def Progress.withPolicy {σ α : Type} (progress : Progress σ α) (policy : Policy) : Progress σ α :=
  { progress with driver := progress.driver.withPolicy policy }

/-- A call that ends a handshake for good. -/
def Call.FinalUnder {σ : Type} [Transport σ] (policy : Policy) (m : Method) (call : Call σ) :
    Prop :=
  ∃ time error, call.outcome? policy m = some (time, .fatal error)

theorem Call.exists_first_final {σ : Type} [Transport σ] {policy : Policy} {m : Method}
    {calls : List (Call σ)} (final : ∃ call ∈ calls, call.FinalUnder policy m) :
    ∃ before call rest, calls = before ++ call :: rest ∧ call.FinalUnder policy m
      ∧ ∀ earlier ∈ before, ¬earlier.FinalUnder policy m := by
  classical
  have found : (calls.find? fun call => call.FinalUnder policy m).isSome :=
    List.find?_isSome.mpr (by simpa using final)
  obtain ⟨call, first⟩ := Option.isSome_iff_exists.mp found
  obtain ⟨holds, before, rest, split, earlier⟩ := List.find?_eq_some_iff_append.mp first
  exact ⟨before, call, rest, split, of_decide_eq_true holds, by simpa using earlier⟩

namespace Driver

variable {σ : Type} [Transport σ] {m : Method} {request : m.Request} {horizon : Horizon}
  {budget attempt now : Nat} {p q : Policy}

theorem outcome?_nextCall (d : Driver σ) (policy : Policy) :
    (d.nextCall m request horizon now).outcome? policy m
      = (invoke d.transport m request now horizon).ended.map
          fun (time, answer) => (time, policy.classify m answer) := by
  rw [invoke_ended, Option.map_map]
  rfl

theorem outcome?_nextCall_unrecorded (d : Driver (Recorded σ)) (policy : Policy) :
    (d.unrecorded.nextCall m request horizon now).outcome? policy m
      = (invoke d.transport m request now horizon).ended.map
          fun (time, answer) => (time, policy.classify m answer) := by
  rw [outcome?_nextCall, invoke_recorded]
  rfl

theorem wake_of_fatal {d : Driver σ} {time : Nat} {error : RegistrationError}
    (fatal : (d.nextCall m request horizon now).outcome? d.policy m = some (time, .fatal error)) :
    (attemptOnce m request horizon attempt now d).wake = none := by
  rw [outcome?_nextCall] at fatal
  obtain ⟨⟨time, answer⟩, ended, same⟩ := Option.map_eq_some_iff.mp fatal
  obtain ⟨rfl, classified⟩ := Prod.mk.inj same
  simp only [attemptOnce, ended, classified]

theorem attemptOnce_withPolicy (attempt : Nat) (d : Driver (Recorded σ))
    (agree : (d.unrecorded.nextCall m request horizon now).outcome? q m
      = (d.unrecorded.nextCall m request horizon now).outcome? p m) :
    attemptOnce m request horizon attempt now (d.withPolicy q)
      = ⟨(attemptOnce m request horizon attempt now (d.withPolicy p)).progress.withPolicy q,
        (attemptOnce m request horizon attempt now (d.withPolicy p)).wake⟩ := by
  rw [outcome?_nextCall_unrecorded, outcome?_nextCall_unrecorded] at agree
  cases ended : (invoke d.transport m request now horizon).ended with
  | none => simp only [attemptOnce, withPolicy, Progress.withPolicy, ended]
  | some answered =>
    obtain ⟨time, answer⟩ := answered
    rw [ended] at agree
    have same : q.classify m answer = p.classify m answer :=
      congrArg Prod.snd (Option.some.inj agree)
    simp only [attemptOnce, withPolicy, Progress.withPolicy, ended, same]
    cases p.classify m answer <;> rfl

omit [Transport σ] in
theorem withPolicy_self {d : Driver σ} (same : d.policy = p) : d.withPolicy p = d := by
  subst same
  rfl

theorem exists_callsMade_cons (m : Method) (request : m.Request) (horizon : Horizon)
    (budget attempt now : Nat) (d : Driver σ) :
    ∃ rest, callsMade m request horizon (budget + 1) attempt now d
      = d.nextCall m request horizon now :: rest := by
  cases again : (attemptOnce m request horizon attempt now d).wake with
  | none => exact ⟨[], callsMade_last again⟩
  | some wake => exact ⟨_, callsMade_again again⟩

/-- An attempt whose reply means the same to two policies is followed by the same handshake under
both, with the same driver but for the policy. -/
theorem exists_left {d : Driver (Recorded σ)} {wake : Nat} (budget : Nat)
    (agree : (d.unrecorded.nextCall m request horizon now).outcome? q m
      = (d.unrecorded.nextCall m request horizon now).outcome? p m)
    (again : (attemptOnce m request horizon attempt now (d.unrecorded.withPolicy p)).wake
      = some wake) :
    ∃ (left : Driver (Recorded σ)) (journal : Journal), left.backoff = d.backoff
      ∧ (∀ policy, policy = p ∨ policy = q →
          drive m request horizon (budget + 1) attempt now (d.withPolicy policy)
            = (drive m request horizon budget (nextAttempt attempt) wake
                (left.withPolicy policy)).after journal)
      ∧ ∀ policy, policy = p ∨ policy = q →
          callsMade m request horizon (budget + 1) attempt now (d.unrecorded.withPolicy policy)
            = d.unrecorded.nextCall m request horizon now
              :: callsMade m request horizon budget (nextAttempt attempt) wake
                (left.unrecorded.withPolicy policy) := by
  let first := attemptOnce m request horizon attempt now (d.withPolicy p)
  let second := attemptOnce m request horizon attempt now (d.withPolicy q)
  have same : second = ⟨first.progress.withPolicy q, first.wake⟩ :=
    attemptOnce_withPolicy attempt d agree
  have next : first.wake = some wake := (wake_recorded (d.withPolicy p)).trans again
  have nextToo : second.wake = some wake := (congrArg Attempt.wake same).trans next
  have againToo : (attemptOnce m request horizon attempt now (d.unrecorded.withPolicy q)).wake
      = some wake := (wake_recorded (d.withPolicy q)).symm.trans nextToo
  have kept : first.progress.driver.withPolicy p = first.progress.driver :=
    withPolicy_self (attemptOnce_policy (d.withPolicy p))
  have left : first.progress.driver.unrecorded.withPolicy p
      = (attemptOnce m request horizon attempt now (d.unrecorded.withPolicy p)).progress.driver :=
    (congrArg unrecorded kept).trans (left_recorded (d.withPolicy p))
  have leftToo : first.progress.driver.unrecorded.withPolicy q
      = (attemptOnce m request horizon attempt now (d.unrecorded.withPolicy q)).progress.driver :=
    (congrArg (·.progress.driver.unrecorded) same).symm.trans (left_recorded (d.withPolicy q))
  refine ⟨first.progress.driver, first.progress.journal, attemptOnce_backoff (d.withPolicy p),
    ?_, ?_⟩
  · rintro policy (rfl | rfl)
    · rw [drive_again next, kept]
    · exact (drive_again nextToo).trans (congrArg (fun second : Attempt (Recorded σ) m =>
        (drive m request horizon budget _ wake second.progress.driver).after
          second.progress.journal) same)
  · rintro policy (rfl | rfl)
    · rw [callsMade_again again, left]
      rfl
    · rw [callsMade_again againToo, leftToo]
      rfl

/-- A run depends on the policy only through what the policy makes of the replies. -/
theorem drive_withPolicy (d : Driver (Recorded σ))
    (agree : ∀ call ∈ callsMade m request horizon budget attempt now (d.unrecorded.withPolicy p),
      call.outcome? q m = call.outcome? p m) :
    drive m request horizon budget attempt now (d.withPolicy q)
      = (drive m request horizon budget attempt now (d.withPolicy p)).withPolicy q := by
  induction budget generalizing attempt now d with
  | zero => rfl
  | succ budget inductionHypothesis =>
    obtain ⟨rest, calls⟩ := exists_callsMade_cons m request horizon budget attempt now
      (d.unrecorded.withPolicy p)
    have first := agree _ (calls ▸ List.mem_cons_self)
    cases again : (attemptOnce m request horizon attempt now (d.unrecorded.withPolicy p)).wake with
    | none =>
      have last := (wake_recorded (d.withPolicy p)).trans again
      have same := attemptOnce_withPolicy attempt d first
      rw [drive_last last, drive_last ((congrArg Attempt.wake same).trans last), same]
    | some wake =>
      obtain ⟨left, journal, -, runs, calls⟩ := exists_left budget first again
      rw [runs p (.inl rfl), runs q (.inr rfl)]
      rw [calls p (.inl rfl)] at agree
      exact congrArg (Progress.after _)
        (inductionHypothesis left fun call member => agree call (List.mem_cons_of_mem _ member))

/-- More attempts begin with the calls of fewer. -/
theorem callsMade_take (d : Driver σ) {fewer : Nat} (order : fewer ≤ budget) :
    callsMade m request horizon fewer attempt now d
      = (callsMade m request horizon budget attempt now d).take fewer := by
  induction fewer generalizing budget attempt now d with
  | zero => rfl
  | succ fewer inductionHypothesis =>
    obtain ⟨budget, rfl⟩ : ∃ more, budget = more + 1 := ⟨budget - 1, by omega⟩
    cases again : (attemptOnce m request horizon attempt now d).wake with
    | none => rw [callsMade_last again, callsMade_last again, List.take_succ_cons, List.take_nil]
    | some wake =>
      rw [callsMade_again again, callsMade_again again, List.take_succ_cons,
        inductionHypothesis _ (Nat.le_of_succ_le_succ order)]

/-- The journal of a handshake begins with its first call and what is logged about the reply. -/
theorem exists_drive_journal (budget attempt : Nat) {d : Driver σ} {time : Nat}
    {answer : Except CallError m.Response}
    (ended : (invoke d.transport m request now horizon).ended = some (time, answer)) :
    ∃ rest, (drive m request horizon (budget + 1) attempt now d).journal
      = (invoke d.transport m request now horizon).journal
        ++ logAt time (outcomeLines m (nextAttempt attempt) d.backoff (d.policy.classify m answer))
        ++ rest := by
  have journal := attemptOnce_journal attempt ended
  cases again : (attemptOnce m request horizon attempt now d).wake with
  | none =>
    rw [drive_last again, journal]
    exact ⟨[], (List.append_nil _).symm⟩
  | some wake =>
    rw [drive_again again, ← journal]
    exact ⟨_, rfl⟩

end Driver

/-- That one progress stops with a call, at an instant and with an error, where another one may go
on: the two do the same up to the reply, and then they log what their policies make of it. -/
structure Progress.StopsWith {σ α : Type} [Transport σ] (m : Method) (backoff : Nat)
    (p : Policy) (call : Call σ) (attempts time : Nat) (error : RegistrationError)
    (general strict : Progress (Recorded σ) α) : Prop where
  ended : strict.ended = some (time, .error error)
  state : strict.driver.state = .failed attempts
  journal : ∃ shared rest outcome, call.outcome? p m = some (time, outcome)
    ∧ general.journal = shared ++ logAt time (outcomeLines m attempts backoff outcome) ++ rest
    ∧ strict.journal = shared ++ logAt time (outcomeLines m attempts backoff (.fatal error))

namespace Progress.StopsWith

variable {σ α β : Type} [Transport σ] {m : Method} {backoff attempts time : Nat} {p : Policy}
  {call : Call σ} {error : RegistrationError} {general strict : Progress (Recorded σ) α}

theorem after (stops : StopsWith m backoff p call attempts time error general strict)
    (earlier : Journal) :
    StopsWith m backoff p call attempts time error (general.after earlier)
      (strict.after earlier) where
  ended := stops.ended
  state := stops.state
  journal := by
    obtain ⟨shared, rest, outcome, replied, one, two⟩ := stops.journal
    refine ⟨earlier ++ shared, rest, outcome, replied, ?_, ?_⟩
    · simp only [Progress.after, one, List.append_assoc]
    · simp only [Progress.after, two, List.append_assoc]

theorem map (stops : StopsWith m backoff p call attempts time error general strict) (f : α → β) :
    StopsWith m backoff p call attempts time error (general.map f) (strict.map f) where
  ended := congrArg (Option.map _) stops.ended
  state := stops.state
  journal := stops.journal

end Progress.StopsWith

namespace Driver

variable {σ : Type} [Transport σ] {m : Method} {request : m.Request} {horizon : Horizon}
  {budget attempt now : Nat} {p q : Policy}

/-- A handshake stops with the first call that its policy makes final. -/
theorem drive_stops (d : Driver (Recorded σ)) {i : Nat} {call : Call σ} {time : Nat}
    {error : RegistrationError}
    (made : (callsMade m request horizon budget attempt now (d.unrecorded.withPolicy p))[i]?
      = some call)
    (agree : ∀ earlier ∈
        (callsMade m request horizon budget attempt now (d.unrecorded.withPolicy p)).take i,
      earlier.outcome? q m = earlier.outcome? p m)
    (fatal : call.outcome? q m = some (time, .fatal error)) :
    Progress.StopsWith m d.backoff p call (min (attempt + (i + 1)) maxAttempts) time error
        (drive m request horizon budget attempt now (d.withPolicy p))
        (drive m request horizon budget attempt now (d.withPolicy q))
      ∧ callsMade m request horizon budget attempt now (d.unrecorded.withPolicy q)
        = (callsMade m request horizon budget attempt now (d.unrecorded.withPolicy p)).take
            (i + 1) := by
  -- up to the final call the attempts are the same, so each step takes one call off both runs
  induction budget generalizing attempt now d i with
  | zero => exact nomatch made
  | succ budget inductionHypothesis =>
    cases i with
    | zero =>
      obtain ⟨rest, calls⟩ := exists_callsMade_cons m request horizon budget attempt now
        (d.unrecorded.withPolicy p)
      rw [calls] at made
      obtain rfl : d.unrecorded.nextCall m request horizon now = call := Option.some.inj made
      have replied := fatal
      rw [outcome?_nextCall_unrecorded] at replied
      obtain ⟨⟨time, answer⟩, ended, same⟩ := Option.map_eq_some_iff.mp replied
      obtain ⟨rfl, classified⟩ := Prod.mk.inj same
      refine ⟨?_, by rw [callsMade_last (wake_of_fatal fatal), calls]; rfl⟩
      rw [drive_fatal budget attempt (d := d.withPolicy q) ended classified]
      obtain ⟨more, journal⟩ := exists_drive_journal budget attempt (d := d.withPolicy p) ended
      refine ⟨rfl, rfl, _, more, _, ?_, journal, rfl⟩
      rw [outcome?_nextCall_unrecorded, ended]
      rfl
    | succ i =>
      cases again :
          (attemptOnce m request horizon attempt now (d.unrecorded.withPolicy p)).wake with
      | none =>
        rw [callsMade_last again] at made
        exact nomatch made
      | some wake =>
        obtain ⟨others, begun⟩ := exists_callsMade_cons m request horizon budget attempt now
          (d.unrecorded.withPolicy p)
        have first := agree _ (by rw [begun, List.take_succ_cons]; exact List.mem_cons_self)
        obtain ⟨left, journal, backoff, runs, calls⟩ := exists_left budget first again
        rw [calls p (.inl rfl)] at made agree
        rw [List.take_succ_cons] at agree
        obtain ⟨stops, stopped⟩ := inductionHypothesis left made fun earlier member =>
          agree earlier (List.mem_cons_of_mem _ member)
        rw [backoff, min_nextAttempt_add] at stops
        rw [runs p (.inl rfl), runs q (.inr rfl), calls p (.inl rfl), calls q (.inr rfl),
          List.take_succ_cons, stopped]
        exact ⟨stops.after journal, rfl⟩

/-! ## Operations under two policies -/

theorem outcome?_eq_of_noStricter (weaker : p.NoStricterThan q) {call : Call σ}
    (goesOn : ¬call.FinalUnder q m) : call.outcome? q m = call.outcome? p m := by
  unfold Call.FinalUnder at goesOn
  simp only [Call.outcome?] at goesOn ⊢
  cases ended : call.ended with
  | none => rfl
  | some replied =>
    obtain ⟨time, reply⟩ := replied
    rw [ended] at goesOn
    have same : q.classify m (m.judge reply) = p.classify m (m.judge reply) :=
      weaker.classify_eq fun error fatal => goesOn ⟨time, error, by rw [← fatal]; rfl⟩
    simp only [Option.map_some, same]

theorem perform_withPolicy (d : Driver σ) (o : Operation)
    (agree : ∀ call ∈
        ((d.withPolicy p).recorded.perform o horizon budget now).driver.transport.calls,
      call.outcome? q o.method = call.outcome? p o.method) :
    (d.withPolicy q).recorded.perform o horizon budget now
      = ((d.withPolicy p).recorded.perform o horizon budget now).withPolicy q := by
  cases made : o.request? with
  | error cause =>
    rw [perform_of_error horizon budget now (d.withPolicy q).recorded made,
      perform_of_error horizon budget now (d.withPolicy p).recorded made]
    rfl
  | ok request =>
    rw [perform_calls horizon budget now (d.withPolicy p) made] at agree
    have same := drive_withPolicy { d.recorded with state := .initial } agree
    rw [perform_of_ok horizon budget now (d.withPolicy q).recorded made,
      perform_of_ok horizon budget now (d.withPolicy p).recorded made]
    exact congrArg (fun progress =>
      (progress.after (logAt now [o.line request])).map o.result) same

theorem perform_stops (d : Driver σ) (o : Operation) {before rest : List (Call σ)} {call : Call σ}
    {time : Nat} {error : RegistrationError}
    (calls : ((d.withPolicy p).recorded.perform o horizon budget now).driver.transport.calls
      = before ++ call :: rest)
    (agree : ∀ earlier ∈ before, earlier.outcome? q o.method = earlier.outcome? p o.method)
    (fatal : call.outcome? q o.method = some (time, .fatal error)) :
    let general := (d.withPolicy p).recorded.perform o horizon budget now
    let strict := (d.withPolicy q).recorded.perform o horizon budget now
    Progress.StopsWith o.method d.backoff p call (min (before.length + 1) maxAttempts) time error
        general strict
      ∧ strict.driver.transport.calls = before ++ [call] := by
  cases made : o.request? with
  | error cause =>
    rw [perform_of_error horizon budget now (d.withPolicy p).recorded made] at calls
    exact absurd calls (by simp [recorded, withTransport])
  | ok request =>
    rw [perform_calls horizon budget now (d.withPolicy p) made] at calls
    let fresh : Driver (Recorded σ) := { d.recorded with state := .initial }
    have split : callsMade o.method request horizon budget 0 now (fresh.unrecorded.withPolicy p)
        = before ++ call :: rest := calls
    have shorter : (before ++ call :: rest).take (before.length + 1) = before ++ [call] := by
      rw [List.take_length_add_append, List.take_one]
      rfl
    have reached : (callsMade o.method request horizon budget 0 now
        (fresh.unrecorded.withPolicy p))[before.length]? = some call := by
      rw [split, List.getElem?_append_right (Nat.le_refl _), Nat.sub_self]
      rfl
    have goesOn : ∀ earlier ∈ (callsMade o.method request horizon budget 0 now
        (fresh.unrecorded.withPolicy p)).take before.length,
        earlier.outcome? q o.method = earlier.outcome? p o.method := by
      rw [split, List.take_left]
      exact agree
    obtain ⟨stops, stopped⟩ := drive_stops fresh reached goesOn fatal
    rw [split, shorter] at stopped
    rw [Nat.zero_add] at stops
    dsimp only
    rw [perform_calls horizon budget now (d.withPolicy q) made,
      perform_of_ok horizon budget now (d.withPolicy q).recorded made,
      perform_of_ok horizon budget now (d.withPolicy p).recorded made]
    exact ⟨(stops.after _).map o.result, stopped⟩

theorem perform_calls_take (d : Driver σ) (o : Operation) {fewer : Nat}
    (order : fewer ≤ budget) :
    (d.recorded.perform o horizon fewer now).driver.transport.calls
      = (d.recorded.perform o horizon budget now).driver.transport.calls.take fewer := by
  cases made : o.request? with
  | error cause =>
    rw [perform_of_error horizon fewer now d.recorded made,
      perform_of_error horizon budget now d.recorded made]
    exact List.take_nil.symm
  | ok request =>
    rw [perform_calls horizon fewer now d made, perform_calls horizon budget now d made]
    exact callsMade_take _ order

theorem perform_of_noFinal (weaker : p.NoStricterThan q) (d : Driver σ) (o : Operation)
    (goesOn : ∀ call ∈
        ((d.withPolicy p).recorded.perform o horizon budget now).driver.transport.calls,
      ¬call.FinalUnder q o.method) :
    (d.withPolicy q).recorded.perform o horizon budget now
      = ((d.withPolicy p).recorded.perform o horizon budget now).withPolicy q :=
  perform_withPolicy d o fun call member => outcome?_eq_of_noStricter weaker (goesOn call member)

/-- A run that succeeds under a policy is the run under any policy that is no stricter. -/
theorem perform_of_success (weaker : p.NoStricterThan q) (d : Driver σ) (o : Operation) {time : Nat}
    {result : o.Result}
    (succeeded : ((d.withPolicy q).recorded.perform o horizon budget now).ended
      = some (time, .ok result)) :
    (d.withPolicy q).recorded.perform o horizon budget now
      = ((d.withPolicy p).recorded.perform o horizon budget now).withPolicy q := by
  refine perform_of_noFinal weaker d o fun call member final => ?_
  obtain ⟨before, first, rest, calls, ⟨time', error, fatal⟩, goesOn⟩ :=
    Call.exists_first_final ⟨call, member, final⟩
  have agree (earlier : Call σ) (member : earlier ∈ before) :
      earlier.outcome? q o.method = earlier.outcome? p o.method :=
    outcome?_eq_of_noStricter weaker (goesOn earlier member)
  have failed := (perform_stops d o calls agree fatal).1.ended
  exact nomatch succeeded.symm.trans failed

/-- A stricter policy only stops earlier.  If it makes none of the failures final that are met, the
runs are the same; else they are the same up to the first failure that it makes final, and there
its run ends with that error.  So a run that succeeds under the stricter policy is the run under
the other one, and a run that succeeds under the strict policy is the run under the default. -/
theorem stricter_stops_earlier (weaker : p.NoStricterThan q) (d : Driver σ) (o : Operation)
    (horizon : Horizon) (budget now : Nat) :
    let run (policy : Policy) (budget : Nat) :=
      (d.withPolicy policy).recorded.perform o horizon budget now
    let general := run p budget
    let strict := run q budget
    ((∀ call ∈ general.driver.transport.calls, ¬call.FinalUnder q o.method) →
        strict = general.withPolicy q)
      ∧ (∀ before call rest time error,
          general.driver.transport.calls = before ++ call :: rest →
          (∀ earlier ∈ before, ¬earlier.FinalUnder q o.method) →
          call.outcome? q o.method = some (time, .fatal error) →
            general.StopsWith o.method d.backoff p call (min (before.length + 1) maxAttempts) time
                error strict
              ∧ strict.driver.transport.calls = before ++ [call]
              ∧ ∀ attempts ≤ before.length, run q attempts = (run p attempts).withPolicy q)
      ∧ (∀ time result, strict.ended = some (time, .ok result) → strict = general.withPolicy q)
      ∧ (∀ time result, (run .strict budget).ended = some (time, .ok result) →
          run .strict budget = (run .lenient budget).withPolicy .strict)
      -- to keep the calls changes nothing else
      ∧ ∀ policy, (run policy budget).unrecorded
          = (d.withPolicy policy).perform o horizon budget now := by
  intro run general strict
  refine ⟨perform_of_noFinal weaker d o, fun before call rest time error calls goesOn fatal => ?_,
    fun time result => perform_of_success weaker d o,
    fun time result => perform_of_success (Policy.lenient_noStricterThan .strict) d o,
    fun policy => (d.withPolicy policy).recorded.perform_unrecorded ..⟩
  have agree (earlier : Call σ) (member : earlier ∈ before) :
      earlier.outcome? q o.method = earlier.outcome? p o.method :=
    outcome?_eq_of_noStricter weaker (goesOn earlier member)
  obtain ⟨stops, made⟩ := perform_stops d o calls agree fatal
  refine ⟨stops, made, fun attempts few => perform_of_noFinal weaker d o ?_⟩
  have bound : (before ++ call :: rest).length ≤ budget := by
    rw [← calls, perform_calls_take (d.withPolicy p) o (Nat.le_refl budget)]
    exact List.length_take_le ..
  have shorter : attempts ≤ budget := by
    rw [List.length_append] at bound
    omega
  rw [perform_calls_take (d.withPolicy p) o shorter, calls, List.take_append_of_le_length few]
  exact fun call member => goesOn call (List.mem_of_mem_take member)

/-- A driver whose gateway lets the first request time out, calls the second one invalid, and
accepts the third one. -/
def misjudged : Driver ReplyScript where
  transport := ⟨[⟨5, .error .timeout⟩, ⟨3, .ok [0x11, 1, 0xFE]⟩, ⟨1, .ok [0x11, 1, 0]⟩]⟩
  backoff := 10

theorem stricter_stops_earlier_misjudged :
    let general := Policy.lenient.withFatalCodes [.permission]
    let run (policy : Policy) :=
      (misjudged.withPolicy policy).recorded.perform (.register 7 "lamp") none 5 0
    general.NoStricterThan .strict
      ∧ (run general).ended = some (29, .ok ⟨3, none⟩)
      ∧ (run .strict).ended = some (18, .error (.rejected .registerThing .invalid))
      ∧ (run .strict).driver.state = .failed 2
      ∧ (run .strict).driver.transport.calls.map Call.start = [0, 15] := by
  intro general run
  have weaker : general.NoStricterThan .strict := Policy.noStricterThan_of (by decide) nofun
  obtain ⟨-, stops, -⟩ :=
    stricter_stops_earlier weaker misjudged (.register 7 "lamp") none 5 0
  obtain ⟨stopping, calls, -⟩ := stops [_] _ [_] 18 (.rejected .registerThing .invalid) rfl
    (by
      intro earlier member
      rw [List.mem_singleton.mp member]
      rintro ⟨time, error, fatal⟩
      exact nomatch fatal)
    rfl
  refine ⟨weaker, rfl, stopping.ended, stopping.state, ?_⟩
  rw [show (run .strict).driver.transport.calls = _ from calls]
  rfl

end Driver

end ThingLink
