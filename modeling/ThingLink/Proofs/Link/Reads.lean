import ThingLink.Proofs.Link.Conservation
import ThingLink.Proofs.Link.Cuts
import ThingLink.Proofs.Link.Deadline
import ThingLink.Proofs.Link.Oversized

/-!
# What a channel holds when it reads

A channel reads from its stream whenever a look has found nothing yet.  What it holds then is
small, however much it has received before: either it is skipping a frame and has buffered nothing,
or its buffer is the beginning of one frame within the limit and no size is noted.  The reads are
those that a recorded call keeps, and to keep them changes nothing.
-/

namespace ThingLink

/-! ## Recorded reads -/

/-- A read: what the stream has still to bring, and the receiver that waits for it. -/
structure Reading where
  arrivals : List Arrival
  receiver : Receiver

/-- A wait for a frame that keeps its reads, the first one first. -/
def awaitRecorded (limit deadline : Nat) (horizon : Horizon) (ends : Bool) :
    List Arrival → Nat → Receiver → List Reading × Waited
  | arrivals, now, receiver =>
      match receiver.take limit with
      | (.frame bytes, receiver) => ([], ⟨some (now, .ok bytes), receiver, arrivals⟩)
      | (.tooLarge size, receiver) =>
          ([], ⟨some (now, .error (.frameTooLarge size limit)), receiver, arrivals⟩)
      | (.incomplete, receiver) =>
          match arrivals with
          | [] =>
              if ends then
                ([⟨[], receiver⟩], ⟨some (now, .error .connectionClosed), receiver, []⟩)
              else ([⟨[], receiver⟩], ⟨expire deadline horizon, receiver, []⟩)
          | next :: rest =>
              let reading : Reading := ⟨next :: rest, receiver⟩
              let due := max now next.due
              if due ≤ deadline && horizon.reaches due then
                match next.content with
                | .error e => ([reading], ⟨some (due, .error (.ofIo e)), receiver, rest⟩)
                | .ok [] => ([reading], ⟨some (due, .error .connectionClosed), receiver, rest⟩)
                | .ok bytes =>
                    let later :=
                      awaitRecorded limit deadline horizon ends rest due (receiver.receive bytes)
                    (reading :: later.1, later.2)
              else ([reading], ⟨expire deadline horizon, receiver, next :: rest⟩)

namespace Channel

/-- A call that keeps the reads of its wait. -/
def callRecorded (c : Channel) (now : Nat) (horizon : Horizon) (request : List UInt8) :
    List Reading × Exchange Channel :=
  let (pieces, failure, c) := c.dispatch request
  match failure with
  | some e => ([], ⟨some (now, .error (.ofIo e)), writesAt now pieces, c⟩)
  | none =>
      let (readings, waited) := awaitRecorded c.limit (now + c.timeout) horizon c.stream.ends
        c.stream.arrivals now c.receiver
      let stream := { c.stream with arrivals := waited.arrivals }
      (readings,
        ⟨waited.ended, writesAt now pieces, { c with receiver := waited.receiver, stream }⟩)

end Channel

def Call.recorded (call : Call Channel) : List Reading × Exchange Channel :=
  call.before.callRecorded call.start call.horizon call.request

section Recording

variable {limit deadline now : Nat} {horizon : Horizon} {ends : Bool} {r : Receiver}
  {arrivals : List Arrival}

theorem awaitRecorded_waited : (awaitRecorded limit deadline horizon ends arrivals now r).2
    = awaitFrame limit deadline horizon ends arrivals now r := by
  induction arrivals generalizing now r with
  | nil =>
    rw [awaitRecorded.eq_def, awaitFrame.eq_def]
    dsimp only
    generalize r.take limit = look
    obtain ⟨found, after⟩ := look
    cases found with
    | incomplete => cases ends <;> rfl
    | frame bytes => rfl
    | tooLarge size => rfl
  | cons next rest inductionHypothesis =>
    rw [awaitRecorded.eq_def, awaitFrame.eq_def]
    dsimp only
    generalize r.take limit = look
    obtain ⟨found, after⟩ := look
    cases found with
    | frame bytes => rfl
    | tooLarge size => rfl
    | incomplete =>
      dsimp only
      split
      · generalize next.content = content
        cases content with
        | error e => rfl
        | ok bytes =>
          cases bytes with
          | nil => rfl
          | cons byte bytes => exact inductionHypothesis
      · rfl

/-- A read is made when a look at everything received before has found nothing yet, and with what
this look has left. -/
theorem awaitRecorded_looked :
    ∀ reading ∈ (awaitRecorded limit deadline horizon ends arrivals now r).1,
      ∃ taken, arrivals = taken ++ reading.arrivals
        ∧ (r.receive (arrivedBytes taken)).take limit = (.incomplete, reading.receiver) := by
  have first {r after : Receiver} (arrivals : List Arrival)
      (look : r.take limit = (.incomplete, after)) :
      ∀ reading ∈ [Reading.mk arrivals after], ∃ taken, arrivals = taken ++ reading.arrivals
        ∧ (r.receive (arrivedBytes taken)).take limit = (.incomplete, reading.receiver) := by
    intro reading member
    obtain rfl := List.mem_singleton.mp member
    exact ⟨[], rfl, (congrArg (Receiver.take limit) r.receive_nil).trans look⟩
  fun_induction awaitRecorded limit deadline horizon ends arrivals now r with
  | case1 | case2 => exact nofun
  | case3 now r after look | case4 now r after look => exact first [] look
  | case5 now r after look next rest
  | case6 now r after look next rest
  | case8 now r after look next rest => exact first (next :: rest) look
  -- a read that brings bytes, and the wait that goes on with them
  | case7 now r after look next rest reading _ _ bytes _ content _ inductionHypothesis =>
    intro read member
    rcases List.mem_cons.mp member with now | later
    · exact first (next :: rest) look read (now ▸ List.mem_singleton_self reading)
    · obtain ⟨taken, split, looked⟩ := inductionHypothesis read later
      have brought : next.bytes = bytes := by simp [Arrival.bytes, content]
      have unsettled : (r.take limit).1.reply? limit = none := by
        rw [look]
        rfl
      refine ⟨next :: taken, congrArg (next :: ·) split, ?_⟩
      rw [arrivedBytes_cons, brought, Receiver.take_receive_unsettled _ unsettled, look,
        ← Receiver.receive_receive]
      exact looked

/-- Whatever a wait takes off its stream, it takes by one of its reads. -/
theorem exists_reading_of_taken {left : List Arrival} (behind : left <:+ arrivals)
    (taken :
      (awaitFrame limit deadline horizon ends arrivals now r).arrivals.length < left.length) :
    ∃ reading ∈ (awaitRecorded limit deadline horizon ends arrivals now r).1,
      reading.arrivals = left := by
  rw [← awaitRecorded_waited] at taken
  fun_induction awaitRecorded limit deadline horizon ends arrivals now r with
  -- nothing is taken off the stream
  | case1 | case2 | case3 | case4 | case8 => exact absurd behind.length_le (Nat.not_le.mpr taken)
  | case5 | case6 =>
    obtain rfl := behind.eq_of_length_le taken
    exact ⟨_, List.mem_singleton_self _, rfl⟩
  | case7 now r after look next rest reading _ _ bytes _ content _ inductionHypothesis =>
    rcases List.suffix_cons_iff.mp behind with rfl | further
    · exact ⟨reading, List.mem_cons_self, rfl⟩
    · obtain ⟨read, member, same⟩ := inductionHypothesis further taken
      exact ⟨read, List.mem_cons_of_mem reading member, same⟩

end Recording

namespace Call

variable {call : Call Channel}

/-- To keep the reads of a call changes nothing else. -/
theorem recorded_exchange (call : Call Channel) : call.recorded.2 = call.exchange := by
  rw [exchange_eq, recorded, Channel.callRecorded]
  cases sent : (call.before.dispatch call.request).2.1 with
  | some e =>
    rw [Channel.call_of_failure sent]
    simp only [sent]
  | none =>
    rw [Channel.call_of_success sent]
    simp only [sent, awaitRecorded_waited]

/-- Nothing is read for a request that was not sent. -/
theorem recorded_of_failure {e : IoError}
    (failed : (call.before.dispatch call.request).2.1 = some e) : call.recorded.1 = [] := by
  simp only [recorded, Channel.callRecorded, failed]

theorem recorded_of_success (sent : (call.before.dispatch call.request).2.1 = none) :
    call.recorded.1 = (awaitRecorded call.before.limit (call.start + call.before.timeout)
      call.horizon call.before.stream.ends call.before.stream.arrivals call.start
      call.before.receiver.forget).1 := by
  simp only [recorded, Channel.callRecorded, sent, Channel.dispatch_receiver,
    Channel.dispatch_arrivals, Channel.dispatch_limit, Channel.dispatch_timeout,
    Channel.dispatch_ends]

theorem recorded_looked {reading : Reading} (made : reading ∈ call.recorded.1) :
    ∃ taken, call.before.stream.arrivals = taken ++ reading.arrivals
      ∧ (call.before.receiver.forget.receive (arrivedBytes taken)).take call.before.limit
        = (.incomplete, reading.receiver) := by
  cases sent : (call.before.dispatch call.request).2.1 with
  | some e =>
    rw [recorded_of_failure sent] at made
    exact nomatch made
  | none =>
    rw [recorded_of_success sent] at made
    exact awaitRecorded_looked reading made

/-- Whatever a call takes off its stream, it takes by one of its reads. -/
theorem exists_reading {left : List Arrival} (behind : left <:+ call.before.stream.arrivals)
    (taken : call.after.stream.arrivals.length < left.length) :
    ∃ reading ∈ call.recorded.1, reading.arrivals = left := by
  rw [after, exchange_eq] at taken
  cases sent : (call.before.dispatch call.request).2.1 with
  | some e =>
    rw [Channel.call_of_failure sent, Channel.dispatch_arrivals] at taken
    exact absurd behind.length_le (Nat.not_le.mpr taken)
  | none =>
    rw [(Channel.call_waited call.start call.horizon sent).2.2.1] at taken
    rw [recorded_of_success sent]
    exact exists_reading_of_taken behind taken

end Call

/-! ## Receivers that are ready to read -/

namespace Receiver

/-- A frame of so many bytes is being skipped: its header and the beginning of its payload are the
last bytes received, and the rest of its payload is what has still to be skipped. -/
def Skips (limit : Nat) (received : List UInt8) (size : Nat) (r : Receiver) : Prop :=
  ∃ (frames : List Frame) (tag length : UInt8) (gone : List UInt8),
    received = frames.flatMap Frame.bytes ++ tag :: length :: gone
      ∧ size = (Header.mk tag length).frameSize
      ∧ limit < size
      ∧ gone.length + r.skipping = length.toNat
      ∧ 0 < r.skipping

/-- What a receiver holds when a channel reads that has received some bytes. -/
structure Poised (limit : Nat) (received : List UInt8) (r : Receiver) : Prop where
  skipping_le : r.skipping ≤ maxPayload
  emptied : 0 < r.skipping → r.buffer = []
  unnoted : r.skipping = 0 → r.oversized = none
  /-- Unless a frame is being skipped, the buffer stands behind whole frames and is the beginning
  of one frame within the limit, but not all of it. -/
  begun : r.skipping = 0 → ∃ (frames : List Frame) (f : Frame),
    received = frames.flatMap Frame.bytes ++ r.buffer
      ∧ f.size ≤ limit ∧ r.buffer <+: f.bytes ∧ r.buffer ≠ f.bytes
  length_lt : r.buffer.length < limit ∧ r.buffer.length < maxFrame
  /-- The size that is noted is the size of the frame being skipped. -/
  noted : ∀ size, r.oversized = some size → r.Skips limit received size

section Poised

variable {limit : Nat} {received bs : List UInt8} {frames : List Frame}

theorem Poised.skipping {tag length : UInt8} {gone : List UInt8} {missing : Nat}
    {noted : Option Nat} (minimum : headerSize ≤ limit)
    (split : received = frames.flatMap Frame.bytes ++ tag :: length :: gone)
    (large : limit < (Header.mk tag length).frameSize)
    (width : gone.length + missing = length.toNat) (positive : 0 < missing)
    (sized : ∀ size, noted = some size → size = (Header.mk tag length).frameSize) :
    Poised limit received ⟨[], missing, noted⟩ where
  skipping_le := by
    have := length.toNat_lt
    simp only [maxPayload]
    omega
  emptied _ := rfl
  unnoted boundary := absurd boundary (Nat.ne_of_gt positive)
  begun boundary := absurd boundary (Nat.ne_of_gt positive)
  length_lt := ⟨Nat.lt_of_lt_of_le (Nat.zero_lt_succ 1) minimum, Nat.zero_lt_succ _⟩
  noted size same :=
    ⟨frames, tag, length, gone, split, sized size same, sized size same ▸ large, width, positive⟩

theorem Poised.beginning {f : Frame} (split : received = frames.flatMap Frame.bytes ++ bs)
    (fits : f.size ≤ limit) (front : bs <+: f.bytes) (part : bs.length < f.size) :
    Poised limit received ⟨bs, 0, none⟩ where
  skipping_le := Nat.zero_le _
  emptied positive := absurd positive (Nat.lt_irrefl 0)
  unnoted _ := rfl
  begun _ :=
    ⟨frames, f, split, fits, front, fun same => Nat.ne_of_lt part (congrArg List.length same)⟩
  length_lt :=
    ⟨Nat.lt_of_lt_of_le part fits, Nat.lt_of_lt_of_le part (f.size_eq ▸ f.header.frameSize_le)⟩
  noted _ := nofun

end Poised

end Receiver

/-- Fewer bytes than a header are the beginning of a bare frame. -/
theorem Frame.exists_of_short {bs : List UInt8} (few : bs.length < headerSize) :
    ∃ f : Frame, f.size = headerSize ∧ bs <+: f.bytes :=
  match bs, few with
  | [], _ => ⟨⟨0, [], Nat.zero_le _⟩, rfl, List.nil_prefix⟩
  | [tag], _ => ⟨⟨tag, [], Nat.zero_le _⟩, rfl, List.prefix_append [tag] _⟩

/-- A header and fewer bytes than it announces are the beginning of a frame of the announced
size. -/
theorem Frame.exists_of_cut (tag length : UInt8) {rest : List UInt8}
    (few : rest.length < length.toNat) :
    ∃ f : Frame, f.size = (Header.mk tag length).frameSize ∧ tag :: length :: rest <+: f.bytes := by
  have whole : length.toNat ≤ (rest ++ List.replicate length.toNat 0).length := by
    rw [List.length_append, List.length_replicate]
    exact Nat.le_add_left ..
  obtain ⟨f, front, sized⟩ := exists_front tag length whole
  refine ⟨f, sized, ?_⟩
  rw [front, List.take_append, List.take_of_length_le (Nat.le_of_lt few)]
  exact List.prefix_append (tag :: length :: rest) _

/-- Once the rest of a skipped frame is there, the bytes behind it start on a frame boundary. -/
theorem Accounted.exists_boundary {limit : Nat} {received : List UInt8}
    {brought : List (List UInt8)} {r : Receiver} (account : Accounted limit received brought r)
    (enough : r.skipping ≤ r.buffer.length) :
    ∃ frames : List Frame, received = frames.flatMap Frame.bytes ++ r.buffer.drop r.skipping := by
  obtain ⟨frames, skipped, rfl, gone, -⟩ := account
  rcases Nat.eq_zero_or_pos r.skipping with boundary | positive
  · rw [boundary] at gone ⊢
    cases gone with
    | nothing => exact ⟨frames, by simp⟩
    | begun positive => exact absurd positive (Nat.lt_irrefl 0)
  · obtain ⟨f, completed, -⟩ := gone.exists_completed positive enough
    refine ⟨frames ++ [f], ?_⟩
    rw [List.append_assoc, ← completed, List.flatMap_append, List.flatMap_singleton,
      List.append_assoc]

namespace Receiver

variable {limit : Nat} {received : List UInt8} {brought : List (List UInt8)} {r : Receiver}

theorem takeFrom_poised {frames : List Frame} {bs : List UInt8} (minimum : headerSize ≤ limit)
    (split : received = frames.flatMap Frame.bytes ++ bs)
    (found : (takeFrom limit none bs).1 = .incomplete) :
    (takeFrom limit none bs).2.Poised limit received := by
  have look := takeFrom_look limit none bs
  generalize takeFrom limit none bs = result at look found ⊢
  cases look with
  | short few =>
    obtain ⟨f, sized, front⟩ := Frame.exists_of_short few
    exact .beginning split (sized ▸ minimum) front (sized ▸ few)
  | @cut _ tag length rest fits few =>
    obtain ⟨f, sized, front⟩ := Frame.exists_of_cut tag length few
    refine .beginning split (sized ▸ fits) front ?_
    simp only [sized, Header.frameSize, headerSize, List.length_cons]
    omega
  | frame fits whole => cases found
  | bare large empty further => exact absurd empty (nonempty_of_large minimum large)
  | skipped large few =>
    have width := Nat.add_sub_of_le (Nat.le_of_lt few)
    exact .skipping minimum split large width (Nat.sub_pos_of_lt few)
      fun size same => (Option.some.inj same).symm
  | tooLarge large nonempty whole => cases found

/-- A look that has found nothing yet leaves a receiver that is ready to read, when no size of an
earlier call is noted. -/
theorem take_poised (minimum : headerSize ≤ limit) (account : Accounted limit received brought r)
    (forgotten : r.oversized = none) (found : (r.take limit).1 = .incomplete) :
    (r.take limit).2.Poised limit received := by
  obtain ⟨buffer, skipping, noted⟩ := r
  cases forgotten
  by_cases few : buffer.length < skipping
  · rw [take_skipped few]
    obtain ⟨frames, skipped, rfl, gone, -⟩ := account
    have further := gone.append few
    rw [List.append_assoc]
    generalize skipped ++ buffer = skipped at further ⊢
    generalize missing : skipping - buffer.length = left at further ⊢
    cases further with
    | nothing => omega
    | begun positive oversized width => exact .skipping minimum rfl oversized width positive nofun
  · have enough : skipping ≤ buffer.length := Nat.not_lt.mp few
    rw [take_leftBehind enough] at found ⊢
    obtain ⟨frames, split⟩ := account.exists_boundary enough
    exact takeFrom_poised minimum split found

/-- Only a look that has found nothing yet leaves a size behind. -/
theorem incomplete_of_noted {size : Nat} (minimum : headerSize ≤ limit)
    (forgotten : r.oversized = none) (noted : (r.take limit).2.oversized = some size) :
    (r.take limit).1 = .incomplete := by
  obtain ⟨buffer, skipping, earlier⟩ := r
  cases forgotten
  by_cases few : buffer.length < skipping
  · rw [take_skipped few]
  · rw [take_leftBehind (Nat.not_lt.mp few)] at noted ⊢
    generalize buffer.drop skipping = ahead at noted ⊢
    have look := takeFrom_look limit none ahead
    generalize takeFrom limit none ahead = result at look noted ⊢
    cases look with
    | short few => rfl
    | cut fits few => rfl
    | frame fits whole => cases noted
    | bare large empty further => exact absurd empty (nonempty_of_large minimum large)
    | skipped large few => rfl
    | tooLarge large nonempty whole => cases noted

end Receiver

/-! ## Calls and runs -/

namespace Call

variable {call : Call Channel} {received : List UInt8} {brought : List (List UInt8)}

theorem reading_poised {reading : Reading} (minimum : headerSize ≤ call.before.limit)
    (account : Accounted call.before.limit received brought call.before.receiver)
    (made : reading ∈ call.recorded.1) :
    ∃ taken, call.before.stream.arrivals = taken ++ reading.arrivals
      ∧ reading.receiver.Poised call.before.limit (received ++ arrivedBytes taken) := by
  obtain ⟨taken, split, look⟩ := recorded_looked made
  have poised := Receiver.take_poised minimum (account.forget.receive (arrivedBytes taken)) rfl
    (congrArg Prod.fst look)
  rw [look] at poised
  exact ⟨taken, split, poised⟩

/-- A size that a call leaves noted is the size of a frame that is still being skipped. -/
theorem skips_of_noted (call : Call Channel) {size : Nat} (minimum : headerSize ≤ call.before.limit)
    (account : Accounted call.before.limit received brought call.before.receiver)
    (noted : call.after.receiver.oversized = some size) :
    ∃ taken, call.before.stream.arrivals = taken ++ call.after.stream.arrivals
      ∧ call.after.receiver.Skips call.before.limit (received ++ arrivedBytes taken) size := by
  cases outcome : (call.before.dispatch call.request).2.1 with
  | some e =>
    -- a request that was not sent leaves no size noted
    rw [after, call.exchange_eq.trans (Channel.call_of_failure outcome), Channel.dispatch_receiver]
      at noted
    cases noted
  | none =>
    obtain ⟨taken, split, -, look, -⟩ := looked_of_sent (Option.isNone_iff_eq_none.mpr outcome)
    have grown := account.forget.receive (arrivedBytes taken)
    rw [look] at noted
    have found := Receiver.incomplete_of_noted minimum rfl noted
    refine ⟨taken, split, ?_⟩
    rw [look]
    exact (Receiver.take_poised minimum grown rfl found).noted size noted

end Call

namespace Channel.Run

/-- A call of a run is made on the channel that some of the steps have left. -/
theorem exists_steps_of_mem_calls {run : Run} {steps : List Step} {call : Call Channel}
    (made : call ∈ run.calls steps) :
    ∃ earlier, earlier <+: steps ∧ call.before = (run.steps earlier).channel := by
  induction steps generalizing run with
  | nil => exact nomatch made
  | cons s steps inductionHypothesis =>
    have later (made : call ∈ (run.step s).calls steps) :
        ∃ earlier, earlier <+: s :: steps ∧ call.before = (run.steps earlier).channel := by
      obtain ⟨earlier, front, before⟩ := inductionHypothesis made
      exact ⟨s :: earlier, List.cons_prefix_cons.mpr ⟨rfl, front⟩, before⟩
    cases s with
    | sleep span => exact later made
    | close => exact later made
    | call request patience =>
      rcases List.mem_cons.mp made with rfl | made
      · exact ⟨[], List.nil_prefix, rfl⟩
      · exact later made

/-- A size that is noted between steps is the size of the frame being skipped. -/
def NotedSkips (limit : Nat) (arrivals : List Arrival) (run : Run) : Prop :=
  ∀ size, run.channel.receiver.oversized = some size →
    ∃ taken, arrivals = taken ++ run.channel.stream.arrivals
      ∧ run.channel.receiver.Skips limit (arrivedBytes taken) size

variable {limit : Nat} {arrivals : List Arrival} {run : Run}

theorem NotedSkips.step (minimum : headerSize ≤ limit)
    (accounted : run.ArrivalsAccounted limit arrivals) (noted : run.NotedSkips limit arrivals)
    (s : Step) : (run.step s).NotedSkips limit arrivals := by
  cases s with
  | sleep span => exact noted
  | close => exact noted
  | call request patience =>
    obtain ⟨rfl, taken, split, account⟩ := accounted
    intro size left
    let call : Call Channel := ⟨run.channel, run.now, patience.map (run.now + ·), request⟩
    obtain ⟨more, further, skips⟩ := call.skips_of_noted minimum account left
    refine ⟨taken ++ more, ?_, ?_⟩
    · rw [split, List.append_assoc]
      exact congrArg (taken ++ ·) further
    · rw [arrivedBytes_append]
      exact skips

theorem NotedSkips.steps (minimum : headerSize ≤ limit)
    (accounted : run.ArrivalsAccounted limit arrivals) (noted : run.NotedSkips limit arrivals)
    (steps : List Step) : (run.steps steps).NotedSkips limit arrivals := by
  induction steps generalizing run with
  | nil => exact noted
  | cons s steps inductionHypothesis =>
    exact inductionHypothesis (accounted.step s) (noted.step minimum accounted s)

/-- Under a limit with room for a header, a channel is poised whenever it reads, whatever its
stream brings and however its calls end: it skips one oversized frame and has nothing buffered, or
its buffer is a part of one frame within the limit.  All that it receives comes by these reads.  A
size that is still noted after some steps is the size of the frame being skipped.  And whatever a
receiver holds, a look cuts off no more than there is, and looks again once at most. -/
theorem reads_poised (stream : ByteStream) (settings : ConnectionSettings) (now : Nat)
    (steps : List Step) (minimum : headerSize ≤ settings.maxFrameSize) :
    let limit := settings.maxFrameSize
    let run : Run := { channel := .over stream settings, now }
    let last := (run.steps steps).channel
    (∀ call ∈ run.calls steps,
        call.recorded.2 = call.exchange
          ∧ (∀ left, left <:+ call.before.stream.arrivals →
              call.after.stream.arrivals.length < left.length →
                ∃ reading ∈ call.recorded.1, reading.arrivals = left)
          ∧ ∀ reading ∈ call.recorded.1, ∃ taken,
              stream.arrivals = taken ++ reading.arrivals
                ∧ reading.receiver.Poised limit (arrivedBytes taken))
      ∧ (∀ size, last.receiver.oversized = some size →
          ∃ taken, stream.arrivals = taken ++ last.stream.arrivals
            ∧ last.receiver.Skips limit (arrivedBytes taken) size)
      ∧ ∀ r : Receiver, r.takeWithin? limit 1 = some (r.take limit) := by
  intro limit run last
  have fresh : run.ArrivalsAccounted limit stream.arrivals := ⟨rfl, [], rfl, .start⟩
  refine ⟨fun call made => ⟨call.recorded_exchange, fun left => Call.exists_reading,
    fun reading read => ?_⟩, ?_, Receiver.takeWithin?_one minimum⟩
  · obtain ⟨earlier, -, before⟩ := exists_steps_of_mem_calls made
    obtain ⟨same, taken, split, account⟩ := fresh.steps earlier
    rw [← before] at same split account
    have room : headerSize ≤ call.before.limit := same ▸ minimum
    rw [← same] at account ⊢
    obtain ⟨more, further, poised⟩ := Call.reading_poised room account read
    refine ⟨taken ++ more, ?_, ?_⟩
    · rw [split, further, List.append_assoc]
    · rw [arrivedBytes_append]
      exact poised
  · have unnoted : run.NotedSkips limit stream.arrivals := fun size => nofun
    exact unnoted.steps minimum fresh steps

/-- A frame of five bytes whose payload drips in, a part of a response behind it. -/
def dripping : ByteStream where
  arrivals := [⟨0, .ok [0x99, 3, 7]⟩, ⟨50, .ok [7, 7, 0x15]⟩, ⟨60, .ok [1, 0]⟩]

/-- The first call is abandoned while it skips, with the size of the frame noted; the second one
reads on without it, and runs out of time behind the first byte of the response. -/
theorem reads_poised_dripping :
    let settings : ConnectionSettings := { requestTimeout := 10, maxFrameSize := 4 }
    let run : Run := { channel := .over dripping settings, now := 0 }
    let calls := run.calls [.call [1] (some 5), .sleep 40, .call [1] none]
    headerSize ≤ settings.maxFrameSize
      ∧ (calls.flatMap fun call => call.recorded.1.map Reading.receiver)
        = [{}, ⟨[], 2, some 5⟩, ⟨[], 2, none⟩, ⟨[0x15], 0, none⟩]
      ∧ (∀ call ∈ calls, ∀ reading ∈ call.recorded.1, ∃ taken,
          dripping.arrivals = taken ++ reading.arrivals
            ∧ reading.receiver.Poised 4 (arrivedBytes taken))
      ∧ Receiver.takeWithin? 4 1 ⟨[0x99, 3, 7], 0, none⟩ = some (.incomplete, ⟨[], 2, some 5⟩) := by
  intro settings run calls
  have minimum : headerSize ≤ settings.maxFrameSize := by decide
  obtain ⟨poised, -, looks⟩ := reads_poised dripping settings 0
    [.call [1] (some 5), .sleep 40, .call [1] none] minimum
  exact ⟨minimum, rfl, fun call made => (poised call made).2.2, looks _⟩

end Channel.Run

end ThingLink
