import ThingLink.Proofs.Link.Signals

/-!
# Waits and signals

A wait for a frame is decided by the signals that have come: by the frame in front of them, or
by the first mark behind bytes that make no frame.  It ends when they decide it, and it takes the
arrivals that bring the signals it is decided by, and no later ones.
-/

namespace ThingLink

/-! ## Looks and frames -/

theorem Frame.front?_eq_some_iff {bs : List UInt8} {f : Frame} :
    Frame.front? bs = some f ↔ ∃ rest, bs = f.bytes ++ rest := by
  constructor
  · intro found
    unfold Frame.front? at found
    split at found
    · next tag length rest =>
      split at found
      · next whole =>
        cases found
        have width : (rest.take length.toNat).length = length.toNat := List.length_take_of_le whole
        refine ⟨rest.drop length.toNat, ?_⟩
        simp [Frame.bytes, width]
      · cases found
    · cases found
  · rintro ⟨rest, rfl⟩
    have width := f.toNat_ofNat_length
    have whole : (UInt8.ofNat f.payload.length).toNat ≤ (f.payload ++ rest).length := by
      rw [width, List.length_append]
      exact Nat.le_add_right ..
    rw [Frame.bytes, List.cons_append, List.cons_append, Frame.front?, if_pos whole]
    simp only [width, List.take_left]

theorem Frame.not_unanswered_verdict (limit : Nat) (f : Frame) :
    ¬Unanswered (some (f.verdict limit)) := by
  unfold Frame.verdict
  split
  · exact not_unanswered_ok _
  · exact not_unanswered_frameTooLarge _ _

theorem Frame.size_eq_of_verdict {limit : Nat} {f g : Frame}
    (same : f.verdict limit = g.verdict limit) : f.size = g.size := by
  by_cases fits : g.size ≤ limit
  · have verdict : g.verdict limit = .ok g.bytes := if_pos fits
    obtain ⟨-, bytes⟩ := Frame.verdict_eq_ok_iff.mp (same.trans verdict)
    exact congrArg List.length bytes
  · have verdict : g.verdict limit = .error (.frameTooLarge g.size limit) := if_neg fits
    obtain ⟨-, sized, -⟩ := Frame.verdict_eq_frameTooLarge_iff.mp (same.trans verdict)
    exact sized.symm

namespace Receiver

/-- A look finds the frame that is in front once the bytes to be skipped are gone. -/
theorem take_front {limit skipping : Nat} {bs : List UInt8} {f : Frame}
    (minimum : headerSize ≤ limit) (front : Frame.front? (bs.drop skipping) = some f) :
    (take limit ⟨bs, skipping, none⟩).1.reply? limit = some (f.verdict limit)
      ∧ (take limit ⟨bs, skipping, none⟩).2 = ⟨bs.drop (skipping + f.size), 0, none⟩ := by
  obtain ⟨rest, split⟩ := Frame.front?_eq_some_iff.mp front
  have enough : skipping ≤ bs.length := by
    refine Nat.le_of_not_lt fun few => ?_
    rw [List.drop_of_length_le (Nat.le_of_lt few)] at split
    exact nomatch split
  have behind : bs.drop (skipping + f.size) = rest := by
    rw [← List.drop_drop, split, Frame.size, List.drop_left]
  rw [take_leftBehind enough, split, behind]
  exact take_bytes minimum f rest

theorem take_no_front {limit skipping : Nat} {bs : List UInt8}
    (none : Frame.front? (bs.drop skipping) = none) :
    (take limit ⟨bs, skipping, .none⟩).1.reply? limit = .none := by
  by_cases few : bs.length < skipping
  · rw [take_skipped few]
    rfl
  rw [take_leftBehind (Nat.not_lt.mp few)]
  generalize bs.drop skipping = ahead at none
  have look := takeFrom_look limit .none ahead
  generalize takeFrom limit .none ahead = result at look ⊢
  have whole {tag length : UInt8} {rest : List UInt8} (whole : length.toNat ≤ rest.length) :
      Frame.front? (tag :: length :: rest) ≠ .none := by
    simp [Frame.front?, whole]
  cases look with
  | short few => rfl
  | cut fits few => rfl
  | skipped large few => rfl
  | frame fits enough => exact absurd none (whole enough)
  | bare large empty further => exact absurd none (whole (empty ▸ Nat.zero_le _))
  | tooLarge large nonempty enough => exact absurd none (whole enough)

theorem reply?_take {limit skipping : Nat} {bs : List UInt8} (minimum : headerSize ≤ limit) :
    (take limit ⟨bs, skipping, none⟩).1.reply? limit
      = (Frame.front? (bs.drop skipping)).map (Frame.verdict limit) := by
  cases front : Frame.front? (bs.drop skipping) with
  | none => exact take_no_front front
  | some f => exact (take_front minimum front).1

/-! ## Waits -/

/-- What a receiver comes to by some signals, if they decide it. -/
def decision? (limit : Nat) (r : Receiver) (signals : List Signal) : Option Reply :=
  (((r.receive (leadingBytes signals)).take limit).1.reply? limit).or
    ((markError? signals).map .error)

theorem decision?_of_settled {limit : Nat} {r : Receiver} {reply : Reply} (signals : List Signal)
    (settled : (r.take limit).1.reply? limit = some reply) :
    r.decision? limit signals = some reply := by
  rw [decision?, take_receive_settled _ settled, settled]
  rfl

theorem decision?_nil {limit : Nat} {r : Receiver}
    (unsettled : (r.take limit).1.reply? limit = none) : r.decision? limit [] = none := by
  rw [decision?, leadingBytes_nil, receive_nil, unsettled]
  rfl

theorem decision?_mark {limit : Nat} {r : Receiver} {signals : List Signal} {e : CallError}
    (unsettled : (r.take limit).1.reply? limit = none) (bytes : leadingBytes signals = [])
    (mark : markError? signals = some e) : r.decision? limit signals = some (.error e) := by
  rw [decision?, bytes, receive_nil, unsettled, mark]
  rfl

theorem decision?_bytes {limit : Nat} {r : Receiver} (bs : List UInt8) (signals : List Signal)
    (unsettled : (r.take limit).1.reply? limit = none) :
    r.decision? limit (bs.map .byte ++ signals)
      = ((r.take limit).2.receive bs).decision? limit signals := by
  rw [decision?, leadingBytes_append, markError?_append, take_receive_unsettled _ unsettled,
    ← receive_receive]
  rfl

end Receiver

section Waits

variable {limit deadline now : Nat} {horizon : Horizon} {ends : Bool} {r : Receiver}
  {arrivals : List Arrival}

theorem expire_eq (deadline : Nat) (horizon : Horizon) :
    expire deadline horizon
      = if horizon.reaches deadline then some (deadline, .error .timeout) else none :=
  rfl

theorem Horizon.reaches_of_le {horizon : Horizon} {earlier later : Nat} (order : earlier ≤ later)
    (reaches : horizon.reaches later = true) : horizon.reaches earlier = true := by
  cases horizon with
  | none => rfl
  | some last =>
    have := of_decide_eq_true reaches
    exact decide_eq_true (Nat.le_trans order this)

/-- A wait ends when the signals decide it. -/
theorem awaitFrame_ends (limit : Nat) (ends : Bool) (r : Receiver) (arrivals : List Arrival)
    (soon : now ≤ deadline) (watched : horizon.reaches now) :
    ∃ time reply,
      EndsAt (fun t => r.decision? limit (signalsBy ends arrivals t)) now deadline time reply
        ∧ (awaitFrame limit deadline horizon ends arrivals now r).ended
          = if horizon.reaches time then some (time, reply) else none := by
  have at_once {reply : Reply}
      (decides : r.decision? limit (signalsBy ends arrivals now) = some reply) :
      EndsAt (fun t => r.decision? limit (signalsBy ends arrivals t)) now deadline now reply :=
    .decided (Nat.le_refl now) soon decides
      fun earlier notBefore before => absurd notBefore (Nat.not_le.mpr before)
  induction arrivals generalizing now r with
  | nil =>
    cases settles : (r.take limit).1.reply? limit with
    | some reply =>
      rw [awaitFrame_settled settles]
      exact ⟨now, reply, at_once (Receiver.decision?_of_settled _ settles),
        (if_pos watched).symm⟩
    | none =>
      rw [awaitFrame_nil settles]
      cases ends with
      | true =>
        have closed : r.decision? limit (signalsBy true [] now)
            = some (.error .connectionClosed) := by
          rw [signalsBy_nil]
          exact Receiver.decision?_mark settles rfl rfl
        exact ⟨now, _, at_once closed, (if_pos watched).symm⟩
      | false =>
        refine ⟨deadline, _, .expired fun time _ _ => ?_, rfl⟩
        rw [signalsBy_nil]
        exact Receiver.decision?_nil settles
  | cons next rest inductionHypothesis =>
    cases settles : (r.take limit).1.reply? limit with
    | some reply =>
      rw [awaitFrame_settled settles]
      exact ⟨now, reply, at_once (Receiver.decision?_of_settled _ settles),
        (if_pos watched).symm⟩
    | none =>
      -- nothing is decided before the next arrival is due
      have silent (time : Nat) (notBefore : now ≤ time) (early : time < max now next.due) :
          r.decision? limit (signalsBy ends (next :: rest) time) = none := by
        rw [signalsBy_of_later (by omega)]
        exact Receiver.decision?_nil settles
      have heard (time : Nat) (late : max now next.due ≤ time) :
          signalsBy ends (next :: rest) time = next.signals ++ signalsBy ends rest time :=
        signalsBy_of_due (Nat.le_trans (Nat.le_max_right ..) late)
      rw [awaitFrame_cons settles]
      split
      · next both =>
        simp only [Bool.and_eq_true, decide_eq_true_eq] at both
        obtain ⟨inTime, reached⟩ := both
        have marked {e : CallError}
            (bytes : leadingBytes (next.signals ++ signalsBy ends rest (max now next.due)) = [])
            (mark : markError? (next.signals ++ signalsBy ends rest (max now next.due)) = some e) :
            EndsAt (fun t => r.decision? limit (signalsBy ends (next :: rest) t)) now deadline
              (max now next.due) (.error e) := by
          refine .decided (Nat.le_max_left ..) inTime ?_ silent
          rw [heard _ (Nat.le_refl _)]
          exact Receiver.decision?_mark settles bytes mark
        split
        · next e failed =>
          have signals : next.signals = [.failure e] := by simp [Arrival.signals, failed]
          refine ⟨_, _, marked (e := .ofIo e) ?_ ?_, (if_pos reached).symm⟩
          · rw [signals]
            rfl
          · rw [signals]
            rfl
        · next ended =>
          have signals : next.signals = [.pause] := by simp [Arrival.signals, ended]
          refine ⟨_, _, marked (e := .connectionClosed) ?_ ?_, (if_pos reached).symm⟩
          · rw [signals]
            rfl
          · rw [signals]
            rfl
        · next bytes nonempty brings =>
          have signals : next.signals = bytes.map .byte := by simp [Arrival.signals, brings]
          obtain ⟨time, reply, ends, ended⟩ := inductionHypothesis
            (r := (r.take limit).2.receive bytes) inTime reached
            (fun decides => .decided (Nat.le_refl _) inTime decides
              fun earlier notBefore before => absurd notBefore (Nat.not_le.mpr before))
          refine ⟨time, reply, ends.later (Nat.le_max_left ..) silent fun t late => ?_, ended⟩
          rw [heard t late, signals]
          exact Receiver.decision?_bytes bytes _ settles
      · next missed =>
        by_cases inTime : max now next.due ≤ deadline
        -- the horizon is before the next arrival, and so before any end of the wait
        · obtain ⟨time, reply, ending⟩ := EndsAt.exists_end
            (fun t => r.decision? limit (signalsBy ends (next :: rest) t)) now deadline
          have unreached {later : Nat} (order : max now next.due ≤ later) :
              ¬horizon.reaches later := fun reaches =>
            missed (by simp [inTime, Horizon.reaches_of_le order reaches])
          refine ⟨time, reply, ending, ?_⟩
          rw [expire_eq, if_neg (unreached inTime),
            if_neg (unreached (ending.le_time inTime silent))]
        · exact ⟨deadline, _,
            .expired fun time notBefore notAfter => silent time notBefore (by omega), rfl⟩

end Waits

/-! ## What a wait uses up -/

/-- The instant at which a call is left: its end, or else the horizon. -/
inductive LeftAt (horizon : Horizon) : Option (Nat × Reply) → Nat → Prop where
  | ended (time : Nat) (reply : Reply) : LeftAt horizon (some (time, reply)) time
  | cutOff {last : Nat} (watched : horizon = some last) : LeftAt horizon none last

theorem LeftAt.of_expire {deadline now time : Nat} {horizon : Horizon} (soon : now ≤ deadline)
    (watched : horizon.reaches now) (left : LeftAt horizon (expire deadline horizon) time) :
    now ≤ time ∧ time ≤ deadline ∧ horizon.reaches time := by
  rw [expire_eq] at left
  split at left
  · next reached =>
    cases left
    exact ⟨soon, Nat.le_refl _, reached⟩
  · next unreached =>
    cases left with
    | cutOff last =>
      subst last
      have before : ¬deadline ≤ time := fun reached => unreached (decide_eq_true reached)
      exact ⟨of_decide_eq_true watched, Nat.le_of_not_le before, decide_eq_true (Nat.le_refl time)⟩

/-- A wait that is left at an instant has taken these arrivals: bytes that settle a reply, or
all that has come by then up to the first mark. -/
structure Waited.Takes (limit : Nat) (ends : Bool) (r : Receiver) (arrivals : List Arrival)
    (left : Nat) (waited : Waited) (taken : List Arrival) : Prop where
  split : arrivals = taken ++ waited.arrivals
  due : ∀ a ∈ taken, a.due ≤ left
  looked : waited.Looked limit r (arrivedBytes taken)
  settled : ((r.receive (arrivedBytes taken)).take limit).1.reply? limit ≠ none →
    taken.flatMap Arrival.signals = (arrivedBytes taken).map .byte
  unsettled : ((r.receive (arrivedBytes taken)).take limit).1.reply? limit = none →
    leadingBytes (signalsBy ends arrivals left) = arrivedBytes taken
      ∧ usedUp (signalsBy ends arrivals left) = (taken.flatMap Arrival.signals).length

namespace Waited.Takes

variable {limit left now : Nat} {ends : Bool} {r : Receiver} {arrivals : List Arrival}

theorem at_once {reply : Reply} (settles : (r.take limit).1.reply? limit = some reply) :
    Takes limit ends r arrivals left ⟨some (now, reply), (r.take limit).2, arrivals⟩ [] where
  split := rfl
  due := nofun
  looked := .settles settles
  settled _ := rfl
  unsettled unsettled := by
    rw [arrivedBytes_nil, Receiver.receive_nil, settles] at unsettled
    exact nomatch unsettled

/-- Nothing is taken when no byte has come. -/
theorem nothing {ended : Option (Nat × Reply)}
    (unsettled : (r.take limit).1.reply? limit = none)
    (unanswered : Unanswered (ended.map Prod.snd))
    (bytes : leadingBytes (signalsBy ends arrivals left) = [])
    (used : usedUp (signalsBy ends arrivals left) = 0) :
    Takes limit ends r arrivals left ⟨ended, (r.take limit).2, arrivals⟩ [] where
  split := rfl
  due := nofun
  looked := .unanswered unsettled unanswered
  settled _ := rfl
  unsettled _ := ⟨bytes, used⟩

theorem mark {next : Arrival} {rest : List Arrival} (signal : Signal)
    {ended : Option (Nat × Reply)} (due : next.due ≤ left) (signals : next.signals = [signal])
    (bytes : next.bytes = []) (used : ∀ more, usedUp (signal :: more) = 1)
    (silent : ∀ more, leadingBytes (signal :: more) = [])
    (unsettled : (r.take limit).1.reply? limit = none)
    (unanswered : Unanswered (ended.map Prod.snd)) :
    Takes limit ends r (next :: rest) left ⟨ended, (r.take limit).2, rest⟩ [next] where
  split := rfl
  due a member := by
    rw [List.mem_singleton.mp member]
    exact due
  looked := by
    rw [arrivedBytes_cons, bytes]
    exact .unanswered unsettled unanswered
  settled := by
    rw [arrivedBytes_cons, bytes, arrivedBytes_nil, List.append_nil, Receiver.receive_nil]
    exact fun settled => absurd unsettled settled
  unsettled _ := by
    rw [signalsBy_of_due due, signals, arrivedBytes_cons, bytes]
    simp [used, silent, signals]

theorem cons {next : Arrival} {rest taken : List Arrival} {waited : Waited} {bs : List UInt8}
    (due : next.due ≤ left) (signals : next.signals = bs.map .byte) (bytes : next.bytes = bs)
    (unsettled : (r.take limit).1.reply? limit = none)
    (takes : Takes limit ends ((r.take limit).2.receive bs) rest left waited taken) :
    Takes limit ends r (next :: rest) left waited (next :: taken) := by
  have same : (r.receive (arrivedBytes (next :: taken))).take limit
      = (((r.take limit).2.receive bs).receive (arrivedBytes taken)).take limit := by
    rw [arrivedBytes_cons, bytes, Receiver.take_receive_unsettled _ unsettled,
      Receiver.receive_receive]
  refine ⟨congrArg (next :: ·) takes.split, ?_, ?_, ?_, ?_⟩
  · exact List.forall_mem_cons.mpr ⟨due, takes.due⟩
  · rw [arrivedBytes_cons, bytes]
    exact takes.looked.after_unsettled unsettled
  · rw [same]
    intro settled
    rw [List.flatMap_cons, signals, takes.settled settled, arrivedBytes_cons, bytes,
      List.map_append]
  · rw [same]
    intro undecided
    obtain ⟨heard, used⟩ := takes.unsettled undecided
    rw [signalsBy_of_due due, signals, leadingBytes_append, usedUp_append, heard, used,
      arrivedBytes_cons, bytes, List.flatMap_cons, signals, List.length_append, List.length_map]
    exact ⟨rfl, rfl⟩

end Waited.Takes

theorem awaitFrame_takes {limit deadline now left : Nat} {horizon : Horizon} {ends : Bool}
    {r : Receiver} {arrivals : List Arrival} (soon : now ≤ deadline)
    (watched : horizon.reaches now) :
    let waited := awaitFrame limit deadline horizon ends arrivals now r
    LeftAt horizon waited.ended left →
      now ≤ left ∧ ∃ taken, waited.Takes limit ends r arrivals left taken := by
  intro waited
  induction arrivals generalizing now r with
  | nil =>
    cases settles : (r.take limit).1.reply? limit with
    | some reply =>
      rw [show waited = _ from awaitFrame_settled settles]
      intro leaves
      cases leaves
      exact ⟨Nat.le_refl _, [], .at_once settles⟩
    | none =>
      rw [show waited = _ from awaitFrame_nil settles]
      cases ends with
      | true =>
        intro leaves
        cases leaves
        refine ⟨Nat.le_refl _, [], .nothing settles .closed ?_ ?_⟩
        · rw [signalsBy_nil]
          rfl
        · rw [signalsBy_nil]
          rfl
      | false =>
        intro leaves
        refine ⟨(leaves.of_expire soon watched).1, [],
          .nothing settles (.expire deadline horizon) ?_ ?_⟩
        · rw [signalsBy_nil]
          rfl
        · rw [signalsBy_nil]
          rfl
  | cons next rest inductionHypothesis =>
    cases settles : (r.take limit).1.reply? limit with
    | some reply =>
      rw [show waited = _ from awaitFrame_settled settles]
      intro leaves
      cases leaves
      exact ⟨Nat.le_refl _, [], .at_once settles⟩
    | none =>
      rw [show waited = _ from awaitFrame_cons settles]
      have soonest : now ≤ max now next.due := Nat.le_max_left ..
      have due : next.due ≤ max now next.due := Nat.le_max_right ..
      split
      · next both =>
        simp only [Bool.and_eq_true, decide_eq_true_eq] at both
        obtain ⟨inTime, reached⟩ := both
        split
        · next e failed =>
          intro leaves
          cases leaves
          exact ⟨soonest, [next], .mark (.failure e) due (by simp [Arrival.signals, failed])
            (by simp [Arrival.bytes, failed]) (fun _ => rfl) (fun _ => rfl) settles (.ofIo e)⟩
        · next ended =>
          intro leaves
          cases leaves
          exact ⟨soonest, [next], .mark .pause due (by simp [Arrival.signals, ended])
            (by simp [Arrival.bytes, ended]) (fun _ => rfl) (fun _ => rfl) settles .closed⟩
        · next bytes nonempty brings =>
          intro leaves
          obtain ⟨later, taken, takes⟩ := inductionHypothesis inTime reached leaves
          exact ⟨Nat.le_trans soonest later, next :: taken,
            .cons (Nat.le_trans due later) (by simp [Arrival.signals, brings])
              (by simp [Arrival.bytes, brings]) settles takes⟩
      · next missed =>
        intro leaves
        obtain ⟨later, inTime, reached⟩ := leaves.of_expire soon watched
        -- what is next comes only after the wait is left
        have early : left < next.due := by
          refine Nat.lt_of_not_le fun come => missed ?_
          have order : max now next.due ≤ left := Nat.max_le.mpr ⟨later, come⟩
          simp [Nat.le_trans order inTime, Horizon.reaches_of_le order reached]
        refine ⟨later, [], .nothing settles (.expire deadline horizon) ?_ ?_⟩
        · rw [signalsBy_of_later early]
          rfl
        · rw [signalsBy_of_later early]
          rfl

end ThingLink
