import ThingLink.Proofs.Link.Turns

/-!
# Reports of oversized frames

The calls of a channel take up the frames of its stream one after the other, whatever
becomes of a call.  An oversized frame is taken up by the first call that has its header: if
the whole frame comes in during that call, it is reported, and else it is passed over without
a word by the calls that follow.
-/

namespace ThingLink

open ThingLink.Frame (startIn)

/-! ## Calls in a row -/

namespace Channel

/-- Calls that are made on a channel one after the other; in between nothing is received. -/
inductive Follows : Channel → List (Call Channel) → Channel → Prop where
  | nil {c d : Channel} (same : d.Continues c) : Follows c [] d
  | cons {c d : Channel} {call : Call Channel} {calls : List (Call Channel)}
      (same : call.before.Continues c) (rest : Follows call.after calls d) :
      Follows c (call :: calls) d

namespace Run

/-- The calls that steps make. -/
def calls (run : Run) : List Step → List (Call Channel)
  | [] => []
  | .call request patience :: steps =>
      ⟨run.channel, run.now, patience.map (run.now + ·), request⟩
        :: calls (run.step (.call request patience)) steps
  | .sleep span :: steps => calls (run.step (.sleep span)) steps
  | .close :: steps => calls (run.step .close) steps

theorem ends_steps (run : Run) (steps : List Step) :
    (run.steps steps).ends = run.ends ++ (run.calls steps).map Call.ended := by
  induction steps generalizing run with
  | nil => simp [Run.steps, calls]
  | cons s steps inductionHypothesis =>
    have later := inductionHypothesis (run.step s)
    cases s with
    | sleep span => exact later
    | close => exact later
    | call request patience =>
      exact later.trans (List.append_assoc run.ends [_] _)

theorem follows_calls {c : Channel} (run : Run) (steps : List Step)
    (same : run.channel.Continues c) : Follows c (run.calls steps) (run.steps steps).channel := by
  induction steps generalizing run c with
  | nil => exact .nil same
  | cons s steps inductionHypothesis =>
    cases s with
    | sleep span => exact inductionHypothesis (run.step (.sleep span)) same
    | close =>
      have closed : (run.step .close).channel.Continues c :=
        ⟨same.limit, same.receiver, same.arrivals⟩
      exact inductionHypothesis (run.step .close) closed
    | call request patience =>
      exact .cons same (inductionHypothesis (run.step (.call request patience)) ⟨rfl, rfl, rfl⟩)

end Run

end Channel

/-! ## Frames taken up -/

section Begun

variable (stream : ByteStream) (frames : List Frame) (limit : Nat)

/-- The frame that is next after a call: the one after the frame that was next before it, if the
call has waited for it and received what shows what becomes of it. -/
def Call.next (n : Nat) (call : Call Channel) : Nat :=
  match frames[n]? with
  | none => n
  | some f =>
      if call.sent ∧ startIn frames n + f.due limit ≤ call.after.received stream then n + 1 else n

/-- How many frames some calls have taken up. -/
def begun (calls : List (Call Channel)) : Nat :=
  calls.foldl (Call.next stream frames limit) 0

/-- Of some calls, the one with a number waits while a frame is the next one, and has its
header. -/
structure Meets (calls : List (Call Channel)) (k i : Nat) (call : Call Channel) : Prop where
  made : calls[k]? = some call
  sent : call.sent = true
  next : begun stream frames limit (calls.take k) = i
  header : startIn frames i + headerSize ≤ call.after.received stream

end Begun

section Turns

variable {stream : ByteStream} {frames : List Frame} {limit n : Nat} {call : Call Channel}
  {calls : List (Call Channel)}

theorem Call.next_of_due {f : Frame} (next : frames[n]? = some f) (sent : call.sent = true)
    (enough : startIn frames n + f.due limit ≤ call.after.received stream) :
    call.next stream frames limit n = n + 1 := by
  simp only [Call.next, next, sent, enough, true_and, if_true]

theorem Call.le_next (n : Nat) : n ≤ call.next stream frames limit n := by
  unfold Call.next
  split
  · exact Nat.le_refl n
  · split
    · exact Nat.le_succ n
    · exact Nat.le_refl n

theorem Frame.due_of_large {f : Frame} (large : limit < f.size) : f.due limit = headerSize :=
  if_neg (Nat.not_le.mpr large)

theorem Frame.due_le_size (f : Frame) : f.due limit ≤ f.size := by
  unfold due
  split
  · exact Nat.le_refl _
  · rw [f.size_eq_payload]
    exact Nat.le_add_right ..

theorem Call.Turn.next_eq {next : Nat} (turn : call.Turn stream frames limit n next) :
    call.next stream frames limit n = next := by
  cases turn with
  | unsent failed unanswered =>
    unfold Call.next
    split
    · rfl
    · simp [failed]
  | looked sent turn concluded =>
    cases turn with
    | @settled f next whole =>
      exact Call.next_of_due next sent (Nat.le_trans (Nat.add_le_add_left f.due_le_size _) whole)
    | leftBehind next large header part =>
      exact Call.next_of_due next sent (Frame.due_of_large large ▸ header)
    | waiting few =>
      unfold Call.next
      split
      · rfl
      · next f next => rw [if_neg fun both => absurd both.2 (Nat.not_le.mpr (few f next))]

namespace Call.Turn

variable {next : Nat}

theorem verdict {f : Frame} (turn : call.Turn stream frames limit n next)
    (ahead : frames[n]? = some f) (sent : call.sent = true)
    (whole : startIn frames n + f.size ≤ call.after.received stream) :
    call.reply? = some (f.verdict limit) := by
  cases turn with
  | unsent failed unanswered => exact absurd (failed.symm.trans sent) Bool.false_ne_true
  | looked _ turn concluded =>
    cases turn with
    | settled same _ =>
      obtain rfl := Option.some.inj (ahead.symm.trans same)
      exact concluded.eq_of_some
    | leftBehind same _ _ part =>
      obtain rfl := Option.some.inj (ahead.symm.trans same)
      exact absurd whole (Nat.not_le.mpr part)
    | waiting few =>
      have := few f ahead
      have : f.due limit ≤ f.size := f.due_le_size
      omega

theorem unanswered {f : Frame} (turn : call.Turn stream frames limit n next)
    (ahead : frames[n]? = some f)
    (part : call.after.received stream < startIn frames n + f.size) : Unanswered call.reply? := by
  cases turn with
  | unsent failed unanswered => exact unanswered
  | looked sent turn concluded =>
    cases turn with
    | settled same whole =>
      obtain rfl := Option.some.inj (ahead.symm.trans same)
      exact absurd whole (Nat.not_le.mpr part)
    | leftBehind _ _ _ _ => exact concluded.of_none
    | waiting _ => exact concluded.of_none

theorem exists_frame {reply : Reply} (turn : call.Turn stream frames limit n next)
    (replied : call.reply? = some reply) (answered : ¬Unanswered (some reply)) :
    ∃ f, frames[n]? = some f ∧ call.sent = true
      ∧ startIn frames n + f.size ≤ call.after.received stream ∧ reply = f.verdict limit := by
  cases turn with
  | unsent failed unanswered => exact absurd (replied ▸ unanswered) answered
  | looked sent turn concluded =>
    rw [replied] at concluded
    obtain rfl := concluded.eq_some_of_answered answered
    cases turn with
    | settled ahead whole => exact ⟨_, ahead, sent, whole, rfl⟩

end Call.Turn

theorem begun_take_succ {k : Nat} (made : calls[k]? = some call) :
    begun stream frames limit (calls.take (k + 1))
      = call.next stream frames limit (begun stream frames limit (calls.take k)) := by
  rw [begun, List.take_add_one, made, List.foldl_append]
  rfl

theorem begun_mono {j k : Nat} (order : j ≤ k) :
    begun stream frames limit (calls.take j) ≤ begun stream frames limit (calls.take k) := by
  induction order with
  | refl => exact Nat.le_refl _
  | @step k order inductionHypothesis =>
    refine Nat.le_trans inductionHypothesis ?_
    cases made : calls[k]? with
    | none =>
      have same : calls.take (k + 1) = calls.take k := by
        rw [List.take_add_one, made, Option.toList_none, List.append_nil]
      exact Nat.le_of_eq (congrArg (begun stream frames limit) same.symm)
    | some call =>
      rw [begun_take_succ made]
      exact Call.le_next _

/-- Each of the calls takes its turn at the frame that the calls before it leave as the next. -/
theorem Channel.Follows.turn {c d : Channel} {k : Nat} (minimum : headerSize ≤ limit)
    (follows : Channel.Follows c calls d) (standing : c.Standing stream frames limit n)
    (made : calls[k]? = some call) :
    call.Turn stream frames limit ((calls.take k).foldl (Call.next stream frames limit) n)
      ((calls.take (k + 1)).foldl (Call.next stream frames limit) n) := by
  induction follows generalizing n k with
  | nil same => exact nomatch made
  | @cons c d first calls same rest inductionHypothesis =>
    obtain ⟨next, turn, after⟩ := Call.turn_of_standing minimum (standing.continues same)
    cases k with
    | zero =>
      obtain rfl := Option.some.inj made
      rw [← turn.next_eq] at turn
      exact turn
    | succ k =>
      rw [← turn.next_eq] at after
      exact inductionHypothesis after made

namespace Meets

variable {i j k : Nat} {f : Frame} {other : Call Channel}

/-- The calls after the one that meets an oversized frame go on with the frame behind it. -/
theorem begun_succ (ahead : frames[i]? = some f) (large : limit < f.size)
    (meets : Meets stream frames limit calls k i call) :
    begun stream frames limit (calls.take (k + 1)) = i + 1 := by
  obtain ⟨made, sent, rfl, header⟩ := meets
  rw [begun_take_succ made]
  exact Call.next_of_due ahead sent (Frame.due_of_large large ▸ header)

/-- No two calls meet the same oversized frame. -/
theorem unique (ahead : frames[i]? = some f) (large : limit < f.size)
    (first : Meets stream frames limit calls k i call)
    (second : Meets stream frames limit calls j i other) : j = k := by
  have order {a b : Nat} {one two : Call Channel} (one : Meets stream frames limit calls a i one)
      (two : Meets stream frames limit calls b i two) : b ≤ a := by
    refine Nat.le_of_not_lt fun later => ?_
    have more : begun stream frames limit (calls.take (a + 1))
        ≤ begun stream frames limit (calls.take b) := begun_mono later
    rw [one.begun_succ ahead large, two.next] at more
    exact absurd more (Nat.not_succ_le_self i)
  exact Nat.le_antisymm (order first second) (order second first)

end Meets

end Turns

namespace Channel.Run

/-- Whatever is done with a channel, an oversized frame is reported at most once, and by the one
call that had its header first: the call reports it when the rest of the frame comes in before
the call ends, else it ends unanswered and no call reports the frame.  Either way the calls that
follow go on with the next frame.  No other report is made, and nothing but frames within the
limit is returned. -/
theorem oversized_reported_once (stream : ByteStream) (settings : ConnectionSettings) (now : Nat)
    (steps : List Step) (frames : List Frame)
    (minimum : headerSize ≤ settings.maxFrameSize)
    (incoming : arrivedBytes stream.arrivals <+: frames.flatMap Frame.bytes) :
    let limit := settings.maxFrameSize
    let run : Run := { channel := .over stream settings, now }
    let calls := run.calls steps
    let next (k : Nat) := begun stream frames limit (calls.take k)
    (run.steps steps).ends = calls.map Call.ended
      ∧ (∀ k i f call, frames[i]? = some f → limit < f.size →
          Meets stream frames limit calls k i call →
            next (k + 1) = i + 1
              ∧ (startIn frames i + f.size ≤ call.after.received stream →
                  call.reply? = some (.error (.frameTooLarge f.size limit)))
              ∧ (call.after.received stream < startIn frames i + f.size →
                  Unanswered call.reply?
                    ∧ ∀ j other size max, Meets stream frames limit calls j i other →
                        other.reply? ≠ some (.error (.frameTooLarge size max)))
              ∧ ∀ j other, Meets stream frames limit calls j i other → j = k)
      ∧ (∀ k call size max, calls[k]? = some call →
          call.reply? = some (.error (.frameTooLarge size max)) →
            ∃ i f, frames[i]? = some f ∧ limit < f.size ∧ Meets stream frames limit calls k i call
              ∧ startIn frames i + f.size ≤ call.after.received stream
              ∧ size = f.size ∧ max = limit)
      ∧ (∀ k call bytes, calls[k]? = some call → call.reply? = some (.ok bytes) →
          ∃ f, frames[next k]? = some f ∧ f.size ≤ limit ∧ f.bytes = bytes)
      ∧ ∀ k call f, calls[k]? = some call → call.sent = true → frames[next k]? = some f →
          startIn frames (next k) + f.size ≤ call.after.received stream →
            call.reply? = some (f.verdict limit) := by
  intro limit run calls next
  have turn {k : Nat} {call : Call Channel} (made : calls[k]? = some call) :
      call.Turn stream frames limit (next k) (next (k + 1)) :=
    (run.follows_calls steps ⟨rfl, rfl, rfl⟩).turn minimum (.start incoming) made
  refine ⟨run.ends_steps steps, ?_, ?_, ?_, ?_⟩
  · intro k i f call ahead large meets
    obtain ⟨made, sent, rfl, header⟩ := id meets
    refine ⟨meets.begun_succ ahead large, ?_, ?_, ?_⟩
    · intro whole
      rw [(turn made).verdict ahead sent whole,
        Frame.verdict_eq_frameTooLarge_iff.mpr ⟨large, rfl, rfl⟩]
    · intro part
      have unanswered := (turn made).unanswered ahead part
      refine ⟨unanswered, fun j other size max second reported => ?_⟩
      -- the only call that could report the frame is the one that has ended unanswered
      obtain rfl := meets.unique ahead large second
      obtain rfl := Option.some.inj (made.symm.trans second.made)
      exact not_unanswered_frameTooLarge size max (reported ▸ unanswered)
    · intro j other second
      exact meets.unique ahead large second
  · intro k call size max made replied
    obtain ⟨f, ahead, sent, whole, verdict⟩ :=
      (turn made).exists_frame replied (not_unanswered_frameTooLarge size max)
    obtain ⟨large, sized, bound⟩ := Frame.verdict_eq_frameTooLarge_iff.mp verdict.symm
    have header : startIn frames (next k) + headerSize ≤ call.after.received stream := by
      have := f.size_eq_payload
      omega
    exact ⟨next k, f, ahead, large, ⟨made, sent, rfl, header⟩, whole, sized, bound⟩
  · intro k call bytes made replied
    obtain ⟨f, ahead, sent, whole, verdict⟩ :=
      (turn made).exists_frame replied (not_unanswered_ok bytes)
    obtain ⟨fits, same⟩ := Frame.verdict_eq_ok_iff.mp verdict.symm
    exact ⟨f, ahead, fits, same⟩
  · intro k call f made sent ahead whole
    exact (turn made).verdict ahead sent whole

/-- A frame of five bytes whose payload comes fifty milliseconds after its header, one of six
bytes cut in two, and a response. -/
def slowStream : ByteStream where
  arrivals := [⟨0, .ok [0x99, 3]⟩, ⟨50, .ok [7, 7, 7, 0x77, 4, 1]⟩, ⟨60, .ok [1, 1, 1, 0x15, 1, 0]⟩]

/-- With ten milliseconds for a call, the first frame is left behind by the first call, and the
second call goes on with the second frame and reports it. -/
theorem oversized_reported_once_slowStream :
    let settings : ConnectionSettings := { requestTimeout := 10, maxFrameSize := 4 }
    let run : Run := { channel := .over slowStream settings, now := 0 }
    let calls := run.calls [.call [1] none, .sleep 40, .call [1] none]
    ∃ first second, calls = [first, second]
      ∧ Unanswered first.reply?
      ∧ (∀ size max, first.reply? ≠ some (.error (.frameTooLarge size max)))
      ∧ second.reply? = some (.error (.frameTooLarge 6 4)) := by
  intro settings run calls
  have minimum : headerSize ≤ settings.maxFrameSize := by decide
  obtain ⟨-, meets, -⟩ := oversized_reported_once slowStream settings 0
    [.call [1] none, .sleep 40, .call [1] none]
    [⟨0x99, [7, 7, 7], by decide⟩, ⟨0x77, [1, 1, 1, 1], by decide⟩, ⟨0x15, [0], by decide⟩]
    minimum ⟨[], rfl⟩
  have first := meets 0 0 _ _ rfl (by decide) ⟨rfl, rfl, rfl, by decide⟩
  have second := meets 1 1 _ _ rfl (by decide) ⟨rfl, rfl, rfl, by decide⟩
  have left := first.2.2.1 (by decide)
  refine ⟨_, _, rfl, left.1, fun size max => ?_, second.2.1 (by decide)⟩
  exact left.2 0 _ size max ⟨rfl, rfl, rfl, by decide⟩

end Channel.Run

end ThingLink
