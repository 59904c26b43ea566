import ThingLink.Proofs.Handshake.Cutoff

/-!
# Abandoned operations

An operation that is abandoned at an instant has done what it would have done by then, and it is
unfinished if it would not have ended by then.  The driver can be used again: of the operation
that was abandoned, nothing is left but what has become of the transport.
-/

namespace ThingLink

/-! ## Unfinished handshakes -/

/-- A handshake that has not ended waits for the reply to its last call, or for its next call. -/
theorem Handshake.Course.unfinished {σ α : Type} [Transport σ] {m : Method} {h : Handshake σ α m}
    {calls : List (Call σ)} {state : DriverState} (course : h.Course calls none state)
    (positive : 0 < h.budget) :
    let attempts := min (h.attempt + calls.length) maxAttempts
    state = .awaiting attempts ∨ state = .retrying attempts := by
  intro attempts
  obtain ⟨first, made, -⟩ := course.first positive
  obtain ⟨bound, -⟩ := List.getElem?_eq_some_iff.mp made
  have counted : calls.length - 1 + 1 = calls.length := Nat.sub_add_cancel bound
  have last : calls[calls.length - 1]? = some (calls[calls.length - 1]) :=
    List.getElem?_eq_getElem (Nat.sub_lt bound Nat.one_pos)
  have decided := course.decided _ _ last
  unfold Decided at decided
  dsimp only at decided
  rw [counted] at decided
  split at decided
  · exact .inl decided.state
  · exact nomatch decided.ended
  · exact nomatch decided.ended
  · split at decided
    · obtain ⟨next, made, -⟩ := decided
      obtain ⟨bound, -⟩ := List.getElem?_eq_some_iff.mp made
      exact absurd bound (Nat.lt_irrefl _)
    · exact .inr decided.state

/-! ## Operations that are given up -/

/-- That an operation is another one, the whole one, given up at an instant. -/
structure Progress.GivenUpAt {σ α : Type} (last : Nat) (whole given : Progress (Recorded σ) α) :
    Prop where
  calls : given.driver.transport.calls
    = (callsBy last whole.driver.transport.calls).map (.watchedTo last)
  journal : given.journal = whole.journal.upTo last
  unfinished : given.ended = none ↔ ¬whole.EndedBy last
  /-- To give up what is over changes nothing. -/
  finished : whole.EndedBy last →
    given.ended = whole.ended ∧ given.driver.unrecorded = whole.driver.unrecorded
  waiting : given.ended = none →
    let attempts := min given.driver.transport.calls.length maxAttempts
    given.driver.state = .awaiting attempts ∨ given.driver.state = .retrying attempts

theorem Progress.CutAt.unfinished_iff {σ α : Type} {last : Nat} {whole cut : Progress σ α}
    (cuts : CutAt last whole cut) : cut.ended = none ↔ ¬whole.EndedBy last := by
  refine ⟨fun goesOn came => ?_, cuts.unfinished⟩
  have same := (cuts.finished came).1
  obtain ⟨time, result, ended, -⟩ := came
  exact nomatch goesOn.symm.trans (same.trans ended)

namespace Driver

section Abandoned

variable {σ : Type} [Transport σ]

/-- The first call of an operation is made at once. -/
theorem callsBy_perform_pos (d : Driver σ) {o : Operation} {request : o.method.Request}
    {now last : Nat} (order : now ≤ last) (made : o.request? = .ok request) :
    0 < (callsBy last (d.recorded.perform o none 1 now).driver.transport.calls).length := by
  obtain ⟨first, called, start, -⟩ := (d.perform_course none 1 now made).first Nat.one_pos
  refine List.length_pos_of_mem (List.mem_filter.mpr ⟨List.mem_of_getElem? called, ?_⟩)
  rw [start]
  exact decide_eq_true order

variable [LawfulTransport σ]

theorem perform_cutAt (d : Driver σ) (o : Operation) {budget now last : Nat} (order : now ≤ last) :
    (d.perform o none budget now).CutAt last (d.perform o (some last) budget now) := by
  cases made : o.request? with
  | error cause =>
    rw [perform_of_error none budget now d made, perform_of_error (some last) budget now d made]
    refine ⟨rfl, fun _ => ⟨rfl, rfl⟩, fun goesOn => absurd ?_ goesOn⟩
    exact ⟨now, _, rfl, order⟩
  | ok request =>
    rw [perform_of_ok none budget now d made, perform_of_ok (some last) budget now d made]
    refine .map o.result (.after (drive_cutAt _ order).1 fun entry member => ?_)
    rw [time_eq_of_mem_logAt member]
    exact order

theorem perform_givenUpAt (d : Driver σ) (o : Operation) {budget now last : Nat}
    (order : now ≤ last) (positive : ∀ request, o.request? = .ok request → 0 < budget) :
    (d.recorded.perform o none budget now).GivenUpAt last
      (d.recorded.perform o (some last) budget now) := by
  have cuts : (d.recorded.perform o none budget now).unrecorded.CutAt last
      (d.recorded.perform o (some last) budget now).unrecorded := by
    rw [perform_unrecorded, perform_unrecorded]
    exact d.perform_cutAt o order
  refine ⟨?_, cuts.journal, cuts.unfinished_iff, cuts.finished, fun goesOn => ?_⟩
  · cases made : o.request? with
    | error cause =>
      rw [perform_of_error none budget now d.recorded made,
        perform_of_error (some last) budget now d.recorded made]
      rfl
    | ok request =>
      rw [d.perform_calls none budget now made, d.perform_calls (some last) budget now made]
      exact (drive_cutAt _ order).2
  · cases made : o.request? with
    | error cause =>
      rw [perform_of_error (some last) budget now d.recorded made] at goesOn
      exact nomatch goesOn
    | ok request =>
      have course := d.perform_course (some last) budget now made
      dsimp only at course
      rw [goesOn] at course
      simpa using course.unfinished (positive request made)

/-- An operation that makes few calls by an instant may make no more of them. -/
theorem perform_budget (d : Driver σ) (o : Operation) {budget more now last : Nat}
    (order : now ≤ last) (fewer : budget ≤ more)
    (enough : (callsBy last (d.recorded.perform o none more now).driver.transport.calls).length
      ≤ budget) :
    d.recorded.perform o (some last) budget now = d.recorded.perform o (some last) more now := by
  cases made : o.request? with
  | error cause =>
    rw [perform_of_error (some last) budget now d.recorded made,
      perform_of_error (some last) more now d.recorded made]
  | ok request =>
    have calls : callsMade o.method request (some last) more 0 now { d with state := .initial }
        = _ := (drive_cutAt _ order).2
    rw [d.perform_calls none more now made, ← List.length_map (Call.watchedTo last),
      ← calls] at enough
    rw [perform_of_ok (some last) budget now d.recorded made,
      perform_of_ok (some last) more now d.recorded made,
      drive_budget { d.recorded with state := .initial } fewer enough]

theorem callsBy_perform_le (d : Driver σ) (o : Operation) {budget now limit : Nat}
    (pauses : 0 < d.backoff) :
    (callsBy (now + limit) (d.recorded.perform o none budget now).driver.transport.calls).length
      ≤ limit / d.backoff + 1 := by
  cases made : o.request? with
  | error cause =>
    rw [perform_of_error none budget now d.recorded made]
    exact Nat.zero_le _
  | ok request =>
    rw [d.perform_calls none budget now made, ← Nat.add_div_right limit pauses,
      Nat.le_div_iff_mul_le pauses]
    refine Nat.le_trans (callsBy_mul_backoff_le _ (Nat.le_add_right now limit)) ?_
    rw [Nat.add_sub_cancel_left]

/-- A driver can be abandoned at any time and used again.  Of an operation that makes only so many
calls by an instant, to give it up then leaves the calls, the writes and the lines that the whole
operation has made by then, and a result if the whole operation has one by then.  Otherwise the
state tells how many calls there were, and the next operation runs as it would with a new driver
over the transport that is left.  A backoff leaves time for so many calls only. -/
theorem abandoned_anywhere (d : Driver σ) (o : Operation) (now limit : Nat) :
    let last := now + limit
    let whole (budget : Nat) := d.recorded.perform o none budget now
    let callsInTime (budget : Nat) := (callsBy last (whole budget).driver.transport.calls).length
    (0 < d.backoff → ∀ budget, callsInTime budget ≤ limit / d.backoff + 1)
      ∧ ∀ few, (∀ budget, callsInTime budget ≤ few) → ∀ budget more, few ≤ budget → few ≤ more →
          let given := d.recorded.perform o (some last) budget now
          let left := given.driver.unrecorded
          (whole more).GivenUpAt last given
            ∧ given.unrecorded = d.perform o (some last) budget now
            ∧ ∀ (next : Operation) (horizon : Horizon) (budget now : Nat),
                left.recorded.perform next horizon budget now
                  = Driver.perform
                      (recorded { transport := left.transport, backoff := d.backoff,
                                  policy := d.policy })
                      next horizon budget now := by
  intro last whole callsInTime
  have order : now ≤ last := Nat.le_add_right now limit
  refine ⟨fun pauses budget => d.callsBy_perform_le o pauses,
    fun few enough budget more spare ample => ?_⟩
  intro given left
  have same : given = d.recorded.perform o (some last) more now := by
    rcases Nat.le_total budget more with fewer | fewer
    · exact d.perform_budget o order fewer (Nat.le_trans (enough more) spare)
    · exact (d.perform_budget o order fewer (Nat.le_trans (enough budget) ample)).symm
  have positive (request : o.method.Request) (made : o.request? = .ok request) : 0 < more :=
    Nat.lt_of_lt_of_le (d.callsBy_perform_pos order made) (Nat.le_trans (enough 1) ample)
  obtain ⟨backoff, policy⟩ := d.recorded.perform_driver (some last) budget now o
  refine ⟨same ▸ d.perform_givenUpAt o order positive, d.recorded.perform_unrecorded .., ?_⟩
  intro next horizon budget now
  have fresh : recorded { transport := left.transport, backoff := d.backoff, policy := d.policy }
      = { left.recorded with state := .initial } := by
    rw [← show left.backoff = d.backoff from backoff, ← show left.policy = d.policy from policy]
    rfl
  rw [fresh]
  exact (perform_fresh horizon budget now left.recorded next .initial).symm

/-- A driver whose gateway sends the first byte of a response early and the rest of it late. -/
def hesitant : Driver Channel where
  transport := .over { arrivals := [⟨3, .ok [0x11]⟩, ⟨20, .ok [1, 0]⟩] } { requestTimeout := 10 }
  backoff := 5

/-- Given up during its second call, a registration leaves the byte that has come, and the next
registration ends with the response. -/
theorem abandoned_anywhere_hesitant :
    let given := hesitant.recorded.perform (.register 7 "lamp") (some 17) 4 0
    let next := given.driver.unrecorded.recorded.perform (.register 7 "lamp") none 1 17
    given.ended = none
      ∧ given.driver.state = .awaiting 2
      ∧ given.driver.transport.calls.map Call.start = [0, 15]
      ∧ next.ended = some (20, .ok ⟨1, none⟩) := by
  intro given next
  obtain ⟨calls, giveUp⟩ := abandoned_anywhere hesitant (.register 7 "lamp") 0 17
  obtain ⟨cut, -, again⟩ := giveUp 4 (calls (by decide)) 4 4 (Nat.le_refl 4) (Nat.le_refl 4)
  have unfinished : given.ended = none := by
    refine cut.unfinished.mpr ?_
    rintro ⟨time, result, ended, inTime⟩
    cases ended
    exact absurd inTime (by decide)
  refine ⟨unfinished, (cut.waiting unfinished).resolve_right (by decide), ?_, ?_⟩
  · rw [cut.calls]
    rfl
  · exact (congrArg Progress.ended (again (.register 7 "lamp") none 1 17)).trans rfl

end Abandoned

end Driver

end ThingLink
