import ThingLink.Proofs.Link.Delivery
import ThingLink.Proofs.Link.Oversized

/-!
# Limits without room for a header

Under a limit below the size of a header every frame is oversized, a bare one without a payload
too.  A look goes past a bare frame with nothing to skip, and its size is lost at the next header
or at the next call.  So the calls of a channel report the frames with a payload, one after the
other, and the bare ones are dropped without a word.
-/

namespace ThingLink

/-! ## Frames with a payload -/

namespace Frame

/-- Whether a frame has a payload. -/
def loaded (f : Frame) : Bool :=
  !f.payload.isEmpty

/-- The frames to the one with a number among those with a payload, this one included. -/
def through : List Frame → Nat → List Frame
  | [], _ => []
  | f :: frames, 0 => f :: if f.loaded then [] else through frames 0
  | f :: frames, n + 1 => f :: through frames (if f.loaded then n else n + 1)

theorem loaded_iff {f : Frame} : f.loaded = true ↔ f.payload ≠ [] := by
  simp [loaded]

theorem payload_eq_nil {f : Frame} (bare : ¬f.loaded) : f.payload = [] := by
  simpa [loaded] using bare

theorem through_append {bare : List Frame} (empty : ∀ g ∈ bare, ¬g.loaded) (frames : List Frame)
    (n : Nat) : through (bare ++ frames) n = bare ++ through frames n := by
  induction bare with
  | nil => rfl
  | cons g bare inductionHypothesis =>
    have first := empty g List.mem_cons_self
    have rest := inductionHypothesis fun h member => empty h (List.mem_cons_of_mem g member)
    cases n with
    | zero => rw [List.cons_append, through, if_neg first, rest, List.cons_append]
    | succ n => rw [List.cons_append, through, if_neg first, rest, List.cons_append]

theorem through_zero {f : Frame} (loaded : f.loaded) (frames : List Frame) :
    through (f :: frames) 0 = [f] := by
  rw [through, if_pos loaded]

theorem through_succ {f : Frame} (loaded : f.loaded) (frames : List Frame) (n : Nat) :
    through (f :: frames) (n + 1) = f :: through frames n := by
  rw [through, if_pos loaded]

theorem limit_lt_size {limit : Nat} (small : limit < headerSize) (f : Frame) : limit < f.size := by
  rw [f.size_eq_payload]
  exact Nat.lt_add_right _ small

end Frame

/-! ## Looks at bare frames -/

namespace Receiver

variable {limit : Nat}

/-- A look goes past bare frames and reports the first frame behind them that has a payload. -/
theorem takeFrom_behind_bare {bare : List Frame} {f : Frame} (small : limit < headerSize)
    (empty : ∀ g ∈ bare, ¬g.loaded) (loaded : f.loaded) (noted : Option Nat) (rest : List UInt8) :
    takeFrom limit noted (bare.flatMap Frame.bytes ++ (f.bytes ++ rest))
      = (.tooLarge f.size, ⟨rest, 0, none⟩) := by
  induction bare generalizing noted with
  | nil =>
    have width := f.toNat_ofNat_length
    have large := f.limit_lt_size small
    have nonempty : (UInt8.ofNat f.payload.length).toNat ≠ 0 := by
      rw [width]
      exact fun none => Frame.loaded_iff.mp loaded (List.length_eq_zero_iff.mp none)
    have whole : (UInt8.ofNat f.payload.length).toNat ≤ (f.payload ++ rest).length := by
      rw [width, List.length_append]
      exact Nat.le_add_right ..
    rw [f.size_eq] at large ⊢
    rw [List.flatMap_nil, List.nil_append, Frame.bytes, List.cons_append, List.cons_append,
      takeFrom_tooLarge large nonempty whole, width, List.drop_left]
    rfl
  | cons g bare inductionHypothesis =>
    have nothing := Frame.payload_eq_nil (empty g List.mem_cons_self)
    have large := g.limit_lt_size small
    rw [g.size_eq] at large
    have width : (UInt8.ofNat g.payload.length).toNat = 0 := by
      rw [nothing]
      rfl
    have rest := inductionHypothesis fun h member => empty h (List.mem_cons_of_mem g member)
    rw [List.flatMap_cons, List.append_assoc, Frame.bytes, List.cons_append, List.cons_append,
      takeFrom_bare large width, nothing, List.nil_append]
    exact rest _

/-- What is reported has a payload. -/
theorem Look.headerSize_lt {noted : Option Nat} {bs : List UInt8} {result : Found × Receiver}
    {size : Nat} (look : Look limit noted bs result) (found : result.1 = .tooLarge size) :
    headerSize < size := by
  induction look with
  | tooLarge large nonempty whole =>
    cases found
    exact Nat.lt_add_of_pos_right (Nat.pos_of_ne_zero nonempty)
  | bare large empty further inductionHypothesis => exact inductionHypothesis found
  | short few => cases found
  | cut fits few => cases found
  | frame fits whole => cases found
  | skipped large few => cases found

theorem headerSize_lt_of_tooLarge {r : Receiver} {size : Nat}
    (found : (r.forget.take limit).1 = .tooLarge size) : headerSize < size := by
  obtain ⟨buffer, skipping, noted⟩ := r
  rw [forget] at found
  dsimp only at found
  by_cases few : buffer.length < skipping
  · rw [take_skipped few] at found
    cases found
  · rw [take_leftBehind (Nat.not_lt.mp few)] at found
    exact (takeFrom_look limit none _).headerSize_lt found

end Receiver

/-- No call reports the size of a bare frame, whatever its stream brings. -/
theorem Call.headerSize_lt_reported {call : Call Channel} {size max : Nat}
    (reported : call.reply? = some (.error (.frameTooLarge size max))) : headerSize < size := by
  obtain ⟨r, settled⟩ := exists_settled reported (not_unanswered_frameTooLarge size max)
  generalize look : (r.forget.take call.before.limit).1 = found at settled
  cases found with
  | incomplete => exact nomatch settled
  | frame bytes => exact nomatch settled
  | tooLarge other =>
    cases settled
    exact Receiver.headerSize_lt_of_tooLarge look

/-! ## One call -/

/-- A call that was sent, is not abandoned before its deadline, and has a stream that delivers
some bytes until then. -/
structure Call.Awaits (stream : ByteStream) (settings : ConnectionSettings) (bytes : List UInt8)
    (call : Call Channel) : Prop where
  sent : call.sent = true
  watched : call.horizon.reaches (call.start + settings.requestTimeout) = true
  delivered : stream.Delivers bytes (call.start + settings.requestTimeout)

namespace Channel

/-- A call that ends with an answer has received the bytes of the look that settles it, and left
the rest of the stream alone. -/
theorem call_received_settled {c : Channel} {now time : Nat} {horizon : Horizon}
    {request : List UInt8} {reply : Reply} (sent : (c.dispatch request).2.1 = none)
    (watched : horizon.reaches now) (answered : ¬Unanswered (some reply))
    (ended : (c.call now horizon request).ended = some (time, reply)) :
    let exchange := c.call now horizon request
    ∃ bytes,
      let look := (c.receiver.forget.receive bytes).take c.limit
      look.1.reply? c.limit = some reply
        ∧ exchange.after.receiver = look.2
        ∧ ∀ t, time ≤ t → c.metBy t = (c.receiver.buffer ++ bytes).map .byte
          ++ signalsBy c.stream.ends exchange.after.stream.arrivals t := by
  intro exchange
  obtain ⟨same, receiver, arrivals, -⟩ := call_waited now horizon sent
  rw [same] at ended
  obtain ⟨-, taken, takes⟩ := awaitFrame_takes (Nat.le_add_right now c.timeout) watched
    (ended ▸ LeftAt.ended time reply)
  have concluded := takes.looked.concluded
  rw [ended] at concluded
  have settled := concluded.eq_some_of_answered answered
  have signals := takes.settled (settled ▸ Option.some_ne_none reply)
  refine ⟨arrivedBytes taken, settled, receiver.trans takes.looked.receiver, fun t late => ?_⟩
  rw [metBy, takes.split, ← arrivals,
    signalsBy_append fun a member => Nat.le_trans (takes.due a member) late, signals,
    List.map_append, List.append_assoc]

/-- A channel that has used up some frames of a stream and nothing behind them. -/
structure Abreast (stream : ByteStream) (settings : ConnectionSettings) (passed : List Frame)
    (now : Nat) (c : Channel) : Prop where
  limit : c.limit = settings.maxFrameSize
  timeout : c.timeout = settings.requestTimeout
  boundary : c.receiver.skipping = 0
  met : ∀ time, now ≤ time → signalsBy stream.ends stream.arrivals time
    = (passed.flatMap Frame.bytes).map .byte ++ c.metBy time

namespace Abreast

variable {stream : ByteStream} {settings : ConnectionSettings} {passed bare : List Frame}
  {f : Frame} {now : Nat} {horizon : Horizon} {request : List UInt8} {c : Channel}

theorem start (stream : ByteStream) (settings : ConnectionSettings) (now : Nat) :
    Abreast stream settings [] now (.over stream settings) :=
  ⟨rfl, rfl, rfl, fun _ _ => rfl⟩

theorem later {time : Nat} (abreast : Abreast stream settings passed now c) (order : now ≤ time) :
    Abreast stream settings passed time c :=
  { abreast with met := fun t notBefore => abreast.met t (Nat.le_trans order notBefore) }

/-- What a channel has received when a look finds a frame behind bare ones. -/
theorem look (abreast : Abreast stream settings passed now c)
    (small : settings.maxFrameSize < headerSize) (empty : ∀ g ∈ bare, ¬g.loaded)
    (loaded : f.loaded) {time : Nat} (order : now ≤ time)
    (delivered : stream.Delivers ((passed ++ (bare ++ [f])).flatMap Frame.bytes) time) :
    ∃ more, leadingBytes (c.metBy time) = (bare ++ [f]).flatMap Frame.bytes ++ more
      ∧ Receiver.take c.limit ⟨leadingBytes (c.metBy time), 0, none⟩
        = (.tooLarge f.size, ⟨more, 0, none⟩) := by
  obtain ⟨more, split⟩ := delivered
  rw [abreast.met time order, leadingBytes_append, List.flatMap_append, List.append_assoc] at split
  have ahead := (List.append_cancel_left split).symm
  refine ⟨more, ahead, ?_⟩
  rw [Receiver.take_leftBehind (Nat.zero_le _), List.drop_zero, ahead, List.flatMap_append,
    List.flatMap_singleton, List.append_assoc]
  exact Receiver.takeFrom_behind_bare (abreast.limit ▸ small) empty loaded none more

theorem forget_receive (abreast : Abreast stream settings passed now c) (bs : List UInt8) :
    c.receiver.forget.receive bs = ⟨c.receiver.buffer ++ bs, 0, none⟩ := by
  rw [Receiver.forget, Receiver.receive, abreast.boundary]

/-- A call reports the next frame with a payload, and with it the bare ones before are used up. -/
theorem call (abreast : Abreast stream settings passed now c)
    (small : settings.maxFrameSize < headerSize) (empty : ∀ g ∈ bare, ¬g.loaded)
    (loaded : f.loaded)
    (awaits : Call.Awaits stream settings ((passed ++ (bare ++ [f])).flatMap Frame.bytes)
      ⟨c, now, horizon, request⟩) :
    let exchange := c.call now horizon request
    ∃ time, now ≤ time
      ∧ exchange.ended = some (time, .error (.frameTooLarge f.size settings.maxFrameSize))
      ∧ Abreast stream settings (passed ++ (bare ++ [f])) time exchange.after := by
  intro exchange
  obtain ⟨sent, watched, delivered⟩ := awaits
  have sent : (c.dispatch request).2.1 = none := Option.isNone_iff_eq_none.mp sent
  have soon := Nat.le_add_right now c.timeout
  rw [← abreast.timeout] at watched delivered
  have begun := Horizon.reaches_of_le soon watched
  obtain ⟨more, ahead, look⟩ := abreast.look small empty loaded soon delivered
  have decided : c.receiver.forget.decision? c.limit
      (signalsBy c.stream.ends c.stream.arrivals (now + c.timeout))
        = some (.error (.frameTooLarge f.size c.limit)) := by
    rw [Receiver.decision?, abreast.forget_receive, ← leadingBytes_append, ← metBy, look]
    rfl
  obtain ⟨time, notBefore, notAfter, ended⟩ := call_ended_of_decided sent watched decided
  obtain ⟨bytes, settled, receiver,
      (met : ∀ t, time ≤ t → c.metBy t = _ ++ signalsBy _ exchange.after.stream.arrivals t)⟩ :=
    call_received_settled sent begun (not_unanswered_frameTooLarge f.size c.limit) ended
  -- a look at all that has come by the deadline is the look that has ended the call, with the
  -- bytes behind added
  have grown := Receiver.take_receive_settled
    (leadingBytes (signalsBy c.stream.ends exchange.after.stream.arrivals (now + c.timeout))) settled
  rw [← receiver, Receiver.receive_receive, abreast.forget_receive, ← List.append_assoc,
    ← leadingBytes_append, ← met _ notAfter, look, Prod.mk.injEq] at grown
  obtain ⟨-, kept⟩ := grown
  have boundary : exchange.after.receiver.skipping = 0 := (congrArg Receiver.skipping kept).symm
  have split : c.receiver.buffer ++ bytes
      = (bare ++ [f]).flatMap Frame.bytes ++ exchange.after.receiver.buffer := by
    rw [met _ notAfter, leadingBytes_append, show more = _ from congrArg Receiver.buffer kept,
      Receiver.receive, ← List.append_assoc] at ahead
    exact List.append_cancel_right ahead
  refine ⟨time, notBefore, abreast.limit ▸ ended, (c.call_limit ..).trans abreast.limit, ?_,
    boundary, fun t late => ?_⟩
  · rw [show exchange = _ from call_of_success sent]
    exact (c.dispatch_timeout request).trans abreast.timeout
  · have ends : exchange.after.stream.ends = c.stream.ends := (call_waited now horizon sent).2.2.2
    rw [abreast.met t (Nat.le_trans notBefore late), met t late, split, metBy, ends]
    simp only [List.flatMap_append, List.map_append, List.append_assoc]

end Abreast

/-! ## Runs -/

namespace Run

variable {stream : ByteStream} {settings : ConnectionSettings}

/-- From a channel that is abreast of its stream on, the calls report the frames with a payload. -/
theorem reported_of_abreast {run : Run} {passed frames : List Frame} (steps : List Step)
    (small : settings.maxFrameSize < headerSize)
    (abreast : Abreast stream settings passed run.now run.channel)
    (awaited : ∀ n call, (run.calls steps)[n]? = some call →
      n < (frames.filter Frame.loaded).length →
        call.Awaits stream settings ((passed ++ Frame.through frames n).flatMap Frame.bytes))
    {n : Nat} {f : Frame} {call : Call Channel}
    (next : (frames.filter Frame.loaded)[n]? = some f) (made : (run.calls steps)[n]? = some call) :
    call.reply? = some (.error (.frameTooLarge f.size settings.maxFrameSize)) := by
  induction steps generalizing run passed frames n with
  | nil => exact nomatch made
  | cons s steps inductionHypothesis =>
    cases s with
    | sleep span =>
      have rested : Abreast stream settings passed (run.step (.sleep span)).now
          (run.step (.sleep span)).channel :=
        abreast.later (Nat.le_add_right run.now span)
      exact inductionHypothesis rested awaited next made
    | close =>
      have closed : Abreast stream settings passed (run.step .close).now
          (run.step .close).channel :=
        { abreast with met := abreast.met }
      exact inductionHypothesis closed awaited next made
    | call request patience =>
      cases split : frames.filter Frame.loaded with
      | nil =>
        rw [split] at next
        exact nomatch next
      | cons g others =>
        obtain ⟨bare, rest, rfl, empty, loaded, rfl⟩ := List.filter_eq_cons_iff.mp split
        have first := awaited 0 _ rfl (by simp [split])
        rw [Frame.through_append empty, Frame.through_zero loaded] at first
        obtain ⟨time, -, ended, after⟩ := abreast.call small empty loaded first
        have reached : Abreast stream settings (passed ++ (bare ++ [g]))
            (run.step (.call request patience)).now
            (run.step (.call request patience)).channel := by
          simp only [step, ended]
          exact after
        rw [split] at next
        cases n with
        | zero =>
          cases next
          cases made
          exact congrArg (Option.map Prod.snd) ended
        | succ n =>
          refine inductionHypothesis reached (fun m later made inside => ?_) next made
          have awaits := awaited (m + 1) later made (by simpa [split] using inside)
          rw [Frame.through_append empty, Frame.through_succ loaded] at awaits
          simpa only [List.append_assoc, List.singleton_append] using awaits

/-- Under a limit without room for a header, the calls of a channel report the frames with a
payload, each call the next one that is delivered in time, however the stream is cut.  A bare frame
is never reported, so the calls report frame by frame only as long as no bare one is among them. -/
theorem bare_frames_dropped (stream : ByteStream) (settings : ConnectionSettings) (now : Nat)
    (steps : List Step) (frames : List Frame) (small : settings.maxFrameSize < headerSize) :
    let limit := settings.maxFrameSize
    let run : Run := { channel := .over stream settings, now }
    let calls := run.calls steps
    let reports (call : Call Channel) (f : Frame) :=
      call.reply? = some (.error (.frameTooLarge f.size limit))
    (∀ (n : Nat) call, calls[n]? = some call → n < (frames.filter Frame.loaded).length →
        call.Awaits stream settings ((Frame.through frames n).flatMap Frame.bytes)) →
      (run.steps steps).ends = calls.map Call.ended
        ∧ (∀ (n : Nat) f call, (frames.filter Frame.loaded)[n]? = some f → calls[n]? = some call →
            reports call f)
        ∧ (∀ call ∈ calls, ∀ f, reports call f → f.payload ≠ [])
        ∧ ((∀ (n : Nat) f call, frames[n]? = some f → calls[n]? = some call → reports call f)
            ↔ ∀ f ∈ frames.take calls.length, f.payload ≠ []) := by
  intro limit run calls reports awaited
  have reported (n : Nat) (f : Frame) (call : Call Channel)
      (next : (frames.filter Frame.loaded)[n]? = some f) (made : calls[n]? = some call) :
      reports call f :=
    reported_of_abreast steps small (.start stream settings now) awaited next made
  have unreported (call : Call Channel) (f : Frame) (reported : reports call f) :
      f.payload ≠ [] := by
    have sized := Call.headerSize_lt_reported reported
    rw [f.size_eq_payload] at sized
    exact List.ne_nil_of_length_pos (Nat.pos_of_lt_add_right sized)
  refine ⟨run.ends_steps steps, reported, fun call _ => unreported call, ?_⟩
  constructor
  · intro every f member
    obtain ⟨n, next⟩ := List.mem_iff_getElem?.mp member
    rw [List.getElem?_take] at next
    split at next
    · next inside => exact unreported _ f (every n f _ next (List.getElem?_eq_getElem inside))
    · cases next
  · intro loaded n f call next made
    -- the first frames all have a payload, so they keep their numbers among those that have one
    have kept : (frames.take calls.length).filter Frame.loaded = frames.take calls.length :=
      List.filter_eq_self.mpr fun f member => Frame.loaded_iff.mpr (loaded f member)
    have inside : n < calls.length := (List.getElem?_eq_some_iff.mp made).1
    have among : (frames.take calls.length)[n]? = some f := by
      rw [List.getElem?_take_of_lt inside, next]
    obtain ⟨others, front⟩ : frames.take calls.length <+: frames.filter Frame.loaded := by
      rw [← kept]
      exact (List.take_prefix calls.length frames).filter _
    refine reported n f call ?_ made
    rw [← front, List.getElem?_append_left (List.getElem?_eq_some_iff.mp among).1, among]

/-- A bare frame and one with a payload. -/
def bareFirst : ByteStream where
  arrivals := [⟨0, .ok [0x15, 0]⟩, ⟨0, .ok [0x77, 1, 5]⟩]

/-- The first call reports the second frame, though the first one is there as well, and nothing is
left for the second call. -/
theorem bareFirst_unreported :
    let settings : ConnectionSettings := { requestTimeout := 100, maxFrameSize := 1 }
    let frames : List Frame := [⟨0x15, [], by decide⟩, ⟨0x77, [5], by decide⟩]
    let run : Run := { channel := .over bareFirst settings, now := 0 }
    let calls := run.calls [.call [1] none, .call [1] none]
    settings.maxFrameSize < headerSize
      ∧ (∀ call ∈ calls, call.Awaits bareFirst settings (frames.flatMap Frame.bytes))
      ∧ calls.map Call.reply?
        = [some (.error (.frameTooLarge 3 1)), some (.error .timeout)]
      ∧ ¬∀ (n : Nat) f call, frames[n]? = some f → calls[n]? = some call →
          call.reply? = some (.error (.frameTooLarge f.size settings.maxFrameSize)) := by
  intro settings frames run calls
  refine ⟨by decide, fun call made => ?_, rfl, fun every => ?_⟩
  · simp only [calls, Run.calls, List.mem_cons, List.not_mem_nil, or_false] at made
    rcases made with rfl | rfl
    · exact ⟨rfl, rfl, [], rfl⟩
    · exact ⟨rfl, rfl, [], rfl⟩
  · have first : some (Except.error (CallError.frameTooLarge 3 1)) = _ := every 0 _ _ rfl rfl
    cases first

/-- Four frames, two of them bare, cut in the middle of headers. -/
def sparse : ByteStream where
  arrivals := [⟨3, .ok [0x99]⟩, ⟨5, .ok [0, 0x15]⟩, ⟨9, .ok [1, 7, 0x11]⟩, ⟨40, .ok [0, 0x77, 2]⟩,
    ⟨41, .ok [8, 8]⟩]

theorem bare_frames_dropped_sparse :
    let settings : ConnectionSettings := { requestTimeout := 20, maxFrameSize := 1 }
    let run : Run := { channel := .over sparse settings, now := 0 }
    let calls := run.calls [.call [1] none, .sleep 15, .call [1] none]
    ∃ first second, calls = [first, second]
      ∧ first.reply? = some (.error (.frameTooLarge 3 1))
      ∧ second.reply? = some (.error (.frameTooLarge 4 1)) := by
  intro settings run calls
  have dropped := bare_frames_dropped sparse settings 0 [.call [1] none, .sleep 15, .call [1] none]
    [⟨0x99, [], by decide⟩, ⟨0x15, [7], by decide⟩, ⟨0x11, [], by decide⟩, ⟨0x77, [8, 8], by decide⟩]
    (by decide)
  obtain ⟨-, reported, -⟩ := dropped fun n call made inside => by
    match n, made with
    | 0, made =>
      cases made
      exact ⟨rfl, rfl, [0x11], rfl⟩
    | 1, made =>
      cases made
      exact ⟨rfl, rfl, [], rfl⟩
    | n + 2, made => exact nomatch made
  exact ⟨_, _, rfl, reported 0 _ _ rfl rfl, reported 1 _ _ rfl rfl⟩

end Run

end Channel

end ThingLink
