import ThingLink.Proofs.Handshake.Operation
import ThingLink.Proofs.Link.Watching

/-!
# Handshakes that are cut off

A handshake that is watched up to an instant is the whole one as far as it has come by then: its
attempts are the same under both horizons, until the call of one ends too late or the next one is
to start too late, and everything after that is later still.
-/

namespace ThingLink

/-! ## Invocations -/

section Invocations

variable {σ : Type} [Transport σ] {t : σ} {m : Method} {request : m.Request}
  {now last time : Nat} {answer : Except CallError m.Response}

theorem exchange_of_invoke_ended
    (ended : (invoke t m request now none).ended = some (time, answer)) :
    ∃ reply, (Transport.call t now none (m.encode request)).ended = some (time, reply) := by
  rw [invoke_ended] at ended
  obtain ⟨⟨time, reply⟩, replied, same⟩ := Option.map_eq_some_iff.mp ended
  cases same
  exact ⟨reply, replied⟩

theorem time_eq_of_mem_logAt {lines : List LogLine} {entry : Entry}
    (member : entry ∈ logAt time lines) : entry.time = time := by
  obtain ⟨line, -, rfl⟩ := List.mem_map.mp member
  rfl

variable [LawfulTransport σ]

theorem invoke_starts : ∀ entry ∈ (invoke t m request now none).journal, now ≤ entry.time := by
  rw [invoke_journal]
  intro entry member
  rcases List.mem_append.mp member with carried | logged
  · exact LawfulTransport.starts entry carried
  · obtain ⟨⟨time, reply⟩, ended, logged⟩ := List.mem_flatMap.mp logged
    rw [time_eq_of_mem_logAt logged]
    exact (LawfulTransport.ends (Option.mem_toList.mp ended)).1

theorem invoke_ends (ended : (invoke t m request now none).ended = some (time, answer)) :
    now ≤ time ∧ ∀ entry ∈ (invoke t m request now none).journal, entry.time ≤ time := by
  obtain ⟨reply, replied⟩ := exchange_of_invoke_ended ended
  obtain ⟨order, carried⟩ := LawfulTransport.ends replied
  refine ⟨order, ?_⟩
  rw [invoke_journal, replied]
  intro entry member
  rcases List.mem_append.mp member with before | logged
  · exact carried entry before
  · obtain ⟨⟨time, reply⟩, same, logged⟩ := List.mem_flatMap.mp logged
    cases List.mem_singleton.mp same
    exact Nat.le_of_eq (time_eq_of_mem_logAt logged)

theorem invoke_inTime (ended : (invoke t m request now none).ended = some (time, answer))
    (inTime : time ≤ last) :
    invoke t m request now (some last) = invoke t m request now none := by
  obtain ⟨reply, replied⟩ := exchange_of_invoke_ended ended
  simp only [invoke, LawfulTransport.inTime replied inTime]

theorem invoke_cutOff (order : now ≤ last)
    (late : ∀ time answer,
      (invoke t m request now none).ended = some (time, answer) → last < time) :
    (invoke t m request now (some last)).ended = none
      ∧ (invoke t m request now (some last)).journal
        = (invoke t m request now none).journal.upTo last := by
  have endsAfter : (Transport.call t now none (m.encode request)).EndsAfter last := by
    intro time reply replied
    refine late time (m.judge reply) ?_
    rw [invoke_ended, Call.ended, Call.exchange, replied]
    rfl
  obtain ⟨ended, journal⟩ := LawfulTransport.cutOff order endsAfter
  refine ⟨?_, ?_⟩
  · rw [invoke_ended, Call.ended, Call.exchange, ended]
    rfl
  · rw [invoke_journal, invoke_journal, ended, journal, Journal.upTo_append]
    refine congrArg (_ ++ ·) (Eq.symm (Journal.upTo_eq_nil fun entry member => ?_))
    obtain ⟨⟨time, reply⟩, replied, logged⟩ := List.mem_flatMap.mp member
    rw [time_eq_of_mem_logAt logged]
    exact endsAfter time reply (Option.mem_toList.mp replied)

end Invocations

/-! ## Time passes forward -/

namespace Progress

variable {σ α : Type}

/-- That nothing is done before an instant. -/
structure Starts (now : Nat) (p : Progress σ α) : Prop where
  journal : ∀ entry ∈ p.journal, now ≤ entry.time
  ended : ∀ time result, p.ended = some (time, result) → now ≤ time

def EndedBy (last : Nat) (p : Progress σ α) : Prop :=
  ∃ time result, p.ended = some (time, result) ∧ time ≤ last

theorem Starts.earlier {now earlier : Nat} {p : Progress σ α} (order : earlier ≤ now)
    (starts : p.Starts now) : p.Starts earlier where
  journal entry member := Nat.le_trans order (starts.journal entry member)
  ended time result ended := Nat.le_trans order (starts.ended time result ended)

theorem Starts.after {now : Nat} {p : Progress σ α} {journal : Journal} (starts : p.Starts now)
    (before : ∀ entry ∈ journal, now ≤ entry.time) : (p.after journal).Starts now where
  journal entry member := (List.mem_append.mp member).elim (before entry) (starts.journal entry)
  ended := starts.ended

end Progress

namespace Driver

section Forward

variable {σ : Type} [Transport σ] [LawfulTransport σ] {m : Method} {request : m.Request}
  {budget attempt now last wake : Nat}

theorem attemptOnce_starts (d : Driver σ) :
    (attemptOnce m request none attempt now d).progress.Starts now where
  journal := by
    cases ended : (invoke d.transport m request now none).ended with
    | none =>
      rw [(attemptOnce_pending attempt ended).2.2]
      exact invoke_starts
    | some answered =>
      obtain ⟨time, answer⟩ := answered
      rw [attemptOnce_journal attempt ended]
      intro entry member
      rcases List.mem_append.mp member with earlier | logged
      · exact invoke_starts entry earlier
      · rw [time_eq_of_mem_logAt logged]
        exact (invoke_ends ended).1
  ended time result came := by
    obtain ⟨answer, ended, -⟩ := exists_answer_of_ended came
    exact (invoke_ends ended).1

/-- The next attempt starts no earlier than a backoff after this one. -/
theorem le_wake {d : Driver σ}
    (again : (attemptOnce m request none attempt now d).wake = some wake) :
    now + d.backoff ≤ wake := by
  obtain ⟨time, answer, ended, rfl, -⟩ := exists_time_of_wake again
  exact Nat.add_le_add_right (invoke_ends ended).1 d.backoff

theorem drive_starts (d : Driver σ) : (drive m request none budget attempt now d).Starts now := by
  induction budget generalizing attempt now d with
  | zero => exact ⟨nofun, nofun⟩
  | succ budget inductionHypothesis =>
    cases again : (attemptOnce m request none attempt now d).wake with
    | none =>
      rw [drive_last again]
      exact attemptOnce_starts d
    | some wake =>
      rw [drive_again again]
      have order := Nat.le_trans (Nat.le_add_right now d.backoff) (le_wake again)
      exact ((inductionHypothesis _).earlier order).after (attemptOnce_starts d).journal

theorem callsMade_starts (d : Driver σ) :
    ∀ call ∈ callsMade m request none budget attempt now d, now ≤ call.start := by
  induction budget generalizing attempt now d with
  | zero => exact nofun
  | succ budget inductionHypothesis =>
    intro call member
    cases again : (attemptOnce m request none attempt now d).wake with
    | none =>
      rw [callsMade_last again, List.mem_singleton] at member
      subst member
      exact Nat.le_refl now
    | some wake =>
      rw [callsMade_again again, List.mem_cons] at member
      rcases member with rfl | member
      · exact Nat.le_refl now
      · have order := Nat.le_trans (Nat.le_add_right now d.backoff) (le_wake again)
        exact Nat.le_trans order (inductionHypothesis _ call member)

end Forward

end Driver

/-! ## How many calls there can be -/

section CallsBy

variable {σ : Type}

/-- The calls that were started by an instant, the instant itself included. -/
def callsBy (last : Nat) (calls : List (Call σ)) : List (Call σ) :=
  calls.filter (·.start ≤ last)

/-- The call, watched no longer than up to an instant. -/
def Call.watchedTo (last : Nat) (call : Call σ) : Call σ :=
  { call with horizon := some last }

variable {last : Nat} {call : Call σ} {calls : List (Call σ)}

theorem callsBy_cons_of_le (inTime : call.start ≤ last) :
    callsBy last (call :: calls) = call :: callsBy last calls :=
  List.filter_cons_of_pos (decide_eq_true inTime)

theorem callsBy_eq_nil (late : ∀ call ∈ calls, last < call.start) : callsBy last calls = [] :=
  List.filter_eq_nil_iff.mpr fun call member inTime =>
    Nat.not_le.mpr (late call member) (of_decide_eq_true inTime)

end CallsBy

namespace Driver

section Cuts

variable {σ : Type} [Transport σ] [LawfulTransport σ] {m : Method} {request : m.Request}
  {budget attempt now last : Nat}

/-- A backoff leaves time for so many calls only. -/
theorem callsBy_mul_backoff_le (d : Driver σ) (order : now ≤ last) :
    (callsBy last (callsMade m request none budget attempt now d)).length * d.backoff
      ≤ last - now + d.backoff := by
  induction budget generalizing attempt now d with
  | zero => simp [callsMade, drive, callsBy, recorded, withTransport]
  | succ budget inductionHypothesis =>
    have first : (d.nextCall m request none now).start ≤ last := order
    cases again : (attemptOnce m request none attempt now d).wake with
    | none =>
      rw [callsMade_last again, callsBy_cons_of_le first]
      simp [callsBy]
    | some wake =>
      have later := le_wake again
      rw [callsMade_again again, callsBy_cons_of_le first, List.length_cons, Nat.add_mul,
        Nat.one_mul]
      by_cases inTime : wake ≤ last
      · have few : (callsBy last (callsMade m request none budget (nextAttempt attempt) wake
            (attemptOnce m request none attempt now d).progress.driver)).length * _ ≤ _ :=
          inductionHypothesis _ inTime
        rw [attemptOnce_backoff] at few
        omega
      · have none : callsBy last (callsMade m request none budget (nextAttempt attempt) wake
            (attemptOnce m request .none attempt now d).progress.driver) = [] :=
          callsBy_eq_nil fun call member =>
            Nat.lt_of_lt_of_le (Nat.not_le.mp inTime) (callsMade_starts _ call member)
        rw [none]
        simp

end Cuts

end Driver

/-! ## Runs that are given up -/

namespace Progress

variable {σ α β : Type} {last : Nat} {whole cut : Progress σ α}

/-- That one progress is all that another one has come to by an instant. -/
structure CutAt (last : Nat) (whole cut : Progress σ α) : Prop where
  journal : cut.journal = whole.journal.upTo last
  finished : whole.EndedBy last → cut.ended = whole.ended ∧ cut.driver = whole.driver
  unfinished : ¬whole.EndedBy last → cut.ended = none

theorem CutAt.after {journal : Journal} (cuts : CutAt last whole cut)
    (early : ∀ entry ∈ journal, entry.time ≤ last) :
    CutAt last (whole.after journal) (cut.after journal) where
  journal := by
    simp only [Progress.after, Journal.upTo_append, Journal.upTo_eq_self early, cuts.journal]
  finished := cuts.finished
  unfinished := cuts.unfinished

/-- What starts only after an instant adds nothing to what has come by then. -/
theorem CutAt.of_late {first rest : Progress σ α} {wake : Nat} (late : last < wake)
    (starts : rest.Starts wake) (journal : cut.journal = first.journal.upTo last)
    (ended : cut.ended = none) : CutAt last (rest.after first.journal) cut where
  journal := by
    have nothing : rest.journal.upTo last = [] := Journal.upTo_eq_nil fun entry member =>
      Nat.lt_of_lt_of_le late (starts.journal entry member)
    simp only [Progress.after, Journal.upTo_append, nothing, List.append_nil, journal]
  finished := by
    rintro ⟨time, result, came, inTime⟩
    exact absurd (Nat.lt_of_lt_of_le late (starts.ended time result came)) (Nat.not_lt.mpr inTime)
  unfinished _ := ended

theorem endedBy_map (f : α → β) : (whole.map f).EndedBy last ↔ whole.EndedBy last := by
  constructor
  · rintro ⟨time, result, ended, inTime⟩
    obtain ⟨⟨time, result⟩, came, same⟩ := Option.map_eq_some_iff.mp ended
    cases same
    exact ⟨time, result, came, inTime⟩
  · rintro ⟨time, result, ended, inTime⟩
    exact ⟨time, _, Option.map_eq_some_iff.mpr ⟨_, ended, rfl⟩, inTime⟩

theorem CutAt.map (f : α → β) (cuts : CutAt last whole cut) :
    CutAt last (whole.map f) (cut.map f) where
  journal := cuts.journal
  finished ended := by
    obtain ⟨same, driver⟩ := cuts.finished ((endedBy_map f).mp ended)
    exact ⟨congrArg (Option.map _) same, driver⟩
  unfinished open' :=
    Option.map_eq_none_iff.mpr (cuts.unfinished fun ended => open' ((endedBy_map f).mpr ended))

end Progress

namespace Driver

section Cuts

variable {σ : Type} [Transport σ] [LawfulTransport σ] {m : Method} {request : m.Request}
  {budget attempt now last : Nat}

/-- An attempt whose call ends by the horizon does not notice it, save that it is not followed by
an attempt that would start only then. -/
theorem attemptOnce_inTime (attempt : Nat) {d : Driver σ} {time : Nat}
    {answer : Except CallError m.Response}
    (ended : (invoke d.transport m request now none).ended = some (time, answer))
    (inTime : time ≤ last) :
    let whole := attemptOnce m request none attempt now d
    let cut := attemptOnce m request (some last) attempt now d
    cut.progress = whole.progress
      ∧ cut.wake = whole.wake.filter (· ≤ last)
      ∧ (∀ entry ∈ whole.progress.journal, entry.time ≤ last)
      ∧ ∀ time result, whole.progress.ended = some (time, result) → time ≤ last := by
  intro whole cut
  have same := invoke_inTime ended inTime
  have early : ∀ entry ∈ whole.progress.journal, entry.time ≤ last := by
    rw [attemptOnce_journal attempt ended]
    intro entry member
    rcases List.mem_append.mp member with carried | logged
    · exact Nat.le_trans ((invoke_ends ended).2 entry carried) inTime
    · rw [time_eq_of_mem_logAt logged]
      exact inTime
  have ends (instant : Nat) (result : Except RegistrationError (m.Response × Nat))
      (came : whole.progress.ended = some (instant, result)) : instant ≤ last := by
    obtain ⟨answer, again, -⟩ := exists_answer_of_ended came
    cases ended.symm.trans again
    exact inTime
  refine ⟨?_, ?_, early, ends⟩
  all_goals
    simp only [whole, cut, attemptOnce, same, ended]
    cases d.policy.classify m answer <;> rfl

/-- An attempt whose call ends only after the horizon, if at all, is cut off there. -/
theorem attemptOnce_late (attempt : Nat) {d : Driver σ} (order : now ≤ last)
    (late : ∀ time answer,
      (invoke d.transport m request now none).ended = some (time, answer) → last < time) :
    let whole := attemptOnce m request none attempt now d
    let cut := attemptOnce m request (some last) attempt now d
    cut.progress.ended = none
      ∧ cut.wake = none
      ∧ cut.progress.journal = whole.progress.journal.upTo last
      ∧ (∀ wake, whole.wake = some wake → last < wake)
      ∧ ∀ time result, whole.progress.ended = some (time, result) → last < time := by
  intro whole cut
  obtain ⟨pending, journal⟩ := invoke_cutOff order late
  obtain ⟨ended, alone, written⟩ := attemptOnce_pending attempt pending
  refine ⟨ended, alone, ?_, ?_, ?_⟩
  · rw [written, journal]
    cases ended : (invoke d.transport m request now none).ended with
    | none => rw [(attemptOnce_pending attempt ended).2.2]
    | some answered =>
      obtain ⟨time, answer⟩ := answered
      have nothing (lines : List LogLine) : (logAt time lines).upTo last = [] :=
        Journal.upTo_eq_nil fun entry member => by
          rw [time_eq_of_mem_logAt member]
          exact late time answer ended
      rw [attemptOnce_journal attempt ended, Journal.upTo_append, nothing, List.append_nil]
  · intro wake again
    obtain ⟨time, answer, ended, rfl, -⟩ := exists_time_of_wake again
    exact Nat.lt_of_lt_of_le (late time answer ended) (Nat.le_add_right ..)
  · intro time result came
    obtain ⟨answer, ended, -⟩ := exists_answer_of_ended came
    exact late time answer ended

theorem callsBy_callsMade_late {d : Driver σ} {wake : Nat} (late : last < wake) :
    callsBy last (callsMade m request none budget attempt wake d) = [] :=
  callsBy_eq_nil fun call member => Nat.lt_of_lt_of_le late (callsMade_starts d call member)

/-- A handshake that is watched up to an instant is the whole one as far as it has come by then. -/
theorem drive_cutAt (d : Driver σ) (order : now ≤ last) :
    (drive m request none budget attempt now d).CutAt last
        (drive m request (some last) budget attempt now d)
      ∧ callsMade m request (some last) budget attempt now d
        = (callsBy last (callsMade m request none budget attempt now d)).map
            (.watchedTo last) := by
  -- the attempts are the same under both horizons, until one ends or is to start too late
  induction budget generalizing attempt now d with
  | zero => exact ⟨⟨rfl, nofun, fun _ => rfl⟩, rfl⟩
  | succ budget inductionHypothesis =>
    have first : (d.nextCall m request none now).start ≤ last := order
    by_cases inTime : ∃ time answer,
        (invoke d.transport m request now none).ended = some (time, answer) ∧ time ≤ last
    · obtain ⟨time, answer, ended, inTime⟩ := inTime
      obtain ⟨same, wakes, early, inTime⟩ := attemptOnce_inTime attempt ended inTime
      cases again : (attemptOnce m request none attempt now d).wake with
      | none =>
        have alone : (attemptOnce m request (some last) attempt now d).wake = none := by
          rw [wakes, again]
          rfl
        rw [drive_last again, drive_last alone, callsMade_last again, callsMade_last alone, same,
          callsBy_cons_of_le first]
        refine ⟨⟨(Journal.upTo_eq_self early).symm, fun _ => ⟨rfl, rfl⟩, fun goesOn => ?_⟩, rfl⟩
        refine Option.eq_none_iff_forall_not_mem.mpr fun (time, result) ended => goesOn ?_
        exact ⟨time, result, ended, inTime _ _ ended⟩
      | some wake =>
        by_cases soon : wake ≤ last
        · have next : (attemptOnce m request (some last) attempt now d).wake = some wake := by
            rw [wakes, again]
            exact Option.filter_some_pos (decide_eq_true soon)
          obtain ⟨cuts, calls⟩ := @inductionHypothesis (nextAttempt attempt) wake
            (attemptOnce m request none attempt now d).progress.driver soon
          rw [drive_again again, drive_again next, callsMade_again again, callsMade_again next,
            same, callsBy_cons_of_le first, calls]
          exact ⟨cuts.after early, rfl⟩
        · have alone : (attemptOnce m request (some last) attempt now d).wake = none := by
            rw [wakes, again]
            exact Option.filter_some_neg (by simpa using soon)
          have late : last < wake := Nat.not_le.mp soon
          rw [drive_again again, drive_last alone, callsMade_again again, callsMade_last alone,
            same, callsBy_cons_of_le first, callsBy_callsMade_late late]
          exact ⟨.of_late late (drive_starts _) (Journal.upTo_eq_self early).symm
            (ended_of_wake again), rfl⟩
    · have late (time : Nat) (answer : Except CallError m.Response)
          (ended : (invoke d.transport m request now none).ended = some (time, answer)) :
          last < time := Nat.not_le.mp fun soon => inTime ⟨time, answer, ended, soon⟩
      obtain ⟨pending, alone, journal, wakes, after⟩ := attemptOnce_late attempt order late
      rw [drive_last alone, callsMade_last alone]
      cases again : (attemptOnce m request none attempt now d).wake with
      | none =>
        rw [drive_last again, callsMade_last again, callsBy_cons_of_le first]
        refine ⟨⟨journal, ?_, fun _ => pending⟩, rfl⟩
        rintro ⟨time, result, ended, soon⟩
        exact absurd (after time result ended) (Nat.not_lt.mpr soon)
      | some wake =>
        rw [drive_again again, callsMade_again again, callsBy_cons_of_le first,
          callsBy_callsMade_late (wakes wake again)]
        exact ⟨.of_late (wakes wake again) (drive_starts _) journal pending, rfl⟩

end Cuts

/-! ## The number of attempts that are given -/

/-- More attempts than are made make no difference. -/
theorem drive_budget {σ : Type} [Transport σ] {m : Method} {request : m.Request}
    {horizon : Horizon} {budget more attempt now : Nat} (d : Driver (Recorded σ))
    (order : budget ≤ more)
    (enough : (callsMade m request horizon more attempt now d.unrecorded).length ≤ budget) :
    drive m request horizon budget attempt now d = drive m request horizon more attempt now d := by
  induction budget generalizing more attempt now d with
  | zero =>
    cases more with
    | zero => rfl
    | succ more =>
      cases again : (attemptOnce m request horizon attempt now d.unrecorded).wake with
      | none =>
        rw [callsMade_last again] at enough
        exact nomatch enough
      | some wake =>
        rw [callsMade_again again] at enough
        exact nomatch enough
  | succ budget inductionHypothesis =>
    obtain ⟨more, rfl⟩ : ∃ fewer, more = fewer + 1 := ⟨more - 1, by omega⟩
    cases again : (attemptOnce m request horizon attempt now d.unrecorded).wake with
    | none =>
      have last := (wake_recorded d).trans again
      rw [drive_last last, drive_last last]
    | some wake =>
      have next := (wake_recorded d).trans again
      rw [callsMade_again again, ← left_recorded d] at enough
      rw [drive_again next, drive_again next]
      exact congrArg (Progress.after _) (inductionHypothesis _ (Nat.le_of_succ_le_succ order)
        (Nat.le_of_succ_le_succ enough))

end Driver

end ThingLink
