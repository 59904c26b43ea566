import ThingLink.Proofs.Link.Run
import ThingLink.Proofs.Link.Segmentation

/-!
# Nothing that arrives is lost

Whatever arrives at a channel is used up frame by frame.  At any moment the bytes that
have arrived are the whole frames used up so far, the part of an oversized frame that is
already skipped, and the buffer, in this order; and the frames within the limit are the
ones that calls have brought, each of them once.
-/

namespace ThingLink

/-! ## Accounts of the received bytes -/

/-- What is gone of the frame that is being skipped while `missing` bytes of it are still
to come.  When none is missing, no frame is being skipped. -/
inductive Skipped (limit : Nat) : (missing : Nat) → List UInt8 → Prop where
  | nothing : Skipped limit 0 []
  | begun {tag length : UInt8} {gone : List UInt8} {missing : Nat} (positive : 0 < missing)
      (oversized : limit < (Header.mk tag length).frameSize)
      (split : gone.length + missing = length.toNat) :
      Skipped limit missing (tag :: length :: gone)

/-- The received bytes are whole frames, then what is gone of the frame being skipped,
then the buffer; and the frames within the limit have been brought. -/
def Accounted (limit : Nat) (received : List UInt8) (brought : List (List UInt8))
    (r : Receiver) : Prop :=
  ∃ (frames : List Frame) (skipped : List UInt8),
    received = frames.flatMap Frame.bytes ++ skipped ++ r.buffer
      ∧ Skipped limit r.skipping skipped
      ∧ brought = (frames.filter (·.size ≤ limit)).map Frame.bytes

theorem Frame.exists_front (tag length : UInt8) {rest : List UInt8}
    (enough : length.toNat ≤ rest.length) :
    ∃ f : Frame, f.bytes = tag :: length :: rest.take length.toNat
      ∧ f.size = (Header.mk tag length).frameSize := by
  have width : (rest.take length.toNat).length = length.toNat := by
    rw [List.length_take]
    omega
  have fits : (rest.take length.toNat).length ≤ maxPayload := by
    have := length.toNat_lt
    rw [width, maxPayload]
    omega
  -- the length byte is the one that was read, since exactly that many bytes are taken
  have announced : UInt8.ofNat (rest.take length.toNat).length = length := by
    rw [width, UInt8.ofNat_toNat]
  refine ⟨⟨tag, rest.take length.toNat, fits⟩, ?_, ?_⟩
  · rw [Frame.bytes, announced]
  · rw [Frame.size_eq, Frame.header, announced]

theorem Skipped.exists_completed {limit missing : Nat} {skipped buffer : List UInt8}
    (gone : Skipped limit missing skipped) (positive : 0 < missing)
    (enough : missing ≤ buffer.length) :
    ∃ f : Frame, f.bytes ++ buffer.drop missing = skipped ++ buffer ∧ limit < f.size := by
  cases gone with
  | nothing => exact absurd positive (Nat.lt_irrefl 0)
  | @begun tag length gone _ _ oversized split =>
    have whole : length.toNat ≤ (gone ++ buffer).length := by
      rw [List.length_append]
      omega
    obtain ⟨f, front, sized⟩ := Frame.exists_front tag length whole
    refine ⟨f, ?_, sized ▸ oversized⟩
    have payload : (gone ++ buffer).take length.toNat = gone ++ buffer.take missing := by
      rw [← split, List.take_length_add_append]
    simp [front, payload]

theorem Skipped.append {limit missing : Nat} {skipped more : List UInt8}
    (gone : Skipped limit missing skipped) (few : more.length < missing) :
    Skipped limit (missing - more.length) (skipped ++ more) := by
  cases gone with
  | nothing => exact absurd few (Nat.not_lt_zero _)
  | @begun tag length gone _ positive oversized split =>
    have longer : (gone ++ more).length + (missing - more.length) = length.toNat := by
      rw [List.length_append]
      omega
    exact .begun (Nat.sub_pos_of_lt few) oversized longer

namespace Accounted

variable {limit : Nat} {received : List UInt8} {brought : List (List UInt8)} {r : Receiver}

theorem start : Accounted limit [] [] {} :=
  ⟨[], [], rfl, .nothing, rfl⟩

theorem receive (account : Accounted limit received brought r) (more : List UInt8) :
    Accounted limit (received ++ more) brought (r.receive more) := by
  obtain ⟨frames, skipped, split, gone, filtered⟩ := account
  refine ⟨frames, skipped, ?_, gone, filtered⟩
  rw [split, Receiver.receive, List.append_assoc _ r.buffer]

-- the size that is forgotten is not part of the account
theorem forget (account : Accounted limit received brought r) :
    Accounted limit received brought r.forget :=
  account

theorem after_frames (account : Accounted limit received brought r) (earlier : List Frame) :
    Accounted limit (earlier.flatMap Frame.bytes ++ received)
      ((earlier.filter (·.size ≤ limit)).map Frame.bytes ++ brought) r := by
  obtain ⟨frames, skipped, rfl, gone, rfl⟩ := account
  refine ⟨earlier ++ frames, skipped, ?_, gone, ?_⟩
  · simp only [List.flatMap_append, List.append_assoc]
  · rw [List.filter_append, List.map_append]

theorem after_oversized {f : Frame} (account : Accounted limit received brought r)
    (oversized : limit < f.size) : Accounted limit (f.bytes ++ received) brought r := by
  have := account.after_frames [f]
  rwa [List.filter_cons_of_neg (by simpa using oversized), List.filter_nil, List.map_nil,
    List.nil_append, List.flatMap_singleton] at this

end Accounted

namespace Receiver

theorem takeFrom_accounted (limit : Nat) (noted : Option Nat) (bs : List UInt8) :
    Accounted limit bs (broughtBy ((takeFrom limit noted bs).1.reply? limit))
      (takeFrom limit noted bs).2 := by
  have look := takeFrom_look limit noted bs
  generalize takeFrom limit noted bs = result at look ⊢
  induction look with
  | short few => exact ⟨[], [], rfl, .nothing, rfl⟩
  | cut fits few => exact ⟨[], [], rfl, .nothing, rfl⟩
  | @frame noted tag length rest fits whole =>
    obtain ⟨f, front, sized⟩ := Frame.exists_front tag length whole
    refine ⟨[f], [], ?_, .nothing, ?_⟩
    · simp [front]
    · have small : f.size ≤ limit := sized ▸ fits
      simp [small, front, broughtBy, Found.reply?]
  | @bare noted tag length rest result large empty further inductionHypothesis =>
    have enough : length.toNat ≤ rest.length := by omega
    obtain ⟨f, front, sized⟩ := Frame.exists_front tag length enough
    have header : f.bytes = [tag, length] := by
      rw [front, empty, List.take_zero]
    have passed := inductionHypothesis.after_oversized (f := f) (sized ▸ large)
    rwa [header] at passed
  | @skipped noted tag length rest large few =>
    have missing : rest.length + (length.toNat - rest.length) = length.toNat := by omega
    refine ⟨[], tag :: length :: rest, by simp, ?_, rfl⟩
    exact .begun (Nat.sub_pos_of_lt few) large missing
  | @tooLarge noted tag length rest large nonempty whole =>
    obtain ⟨f, front, sized⟩ := Frame.exists_front tag length whole
    refine ⟨[f], [], ?_, .nothing, ?_⟩
    · simp [front]
    · have oversized : ¬f.size ≤ limit := Nat.not_le.mpr (sized ▸ large)
      simp [oversized, broughtBy, Found.reply?]

/-- A look keeps the account: a skipped frame gets longer or is complete, and what the
look brings is counted as brought. -/
theorem take_accounted {limit : Nat} {received : List UInt8} {brought : List (List UInt8)}
    {r : Receiver} (account : Accounted limit received brought r) :
    Accounted limit received (brought ++ broughtBy ((r.take limit).1.reply? limit))
      (r.take limit).2 := by
  obtain ⟨frames, skipped, rfl, gone, rfl⟩ := account
  obtain ⟨buffer, skipping, noted⟩ := r
  dsimp only at gone ⊢
  rw [List.append_assoc]
  apply Accounted.after_frames
  by_cases few : buffer.length < skipping
  · rw [take_skipped few]
    exact ⟨[], skipped ++ buffer, by simp, gone.append few, rfl⟩
  have enough : skipping ≤ buffer.length := Nat.not_lt.mp few
  by_cases boundary : skipping = 0
  · subst boundary
    cases gone with
    | nothing => exact takeFrom_accounted limit noted buffer
    | begun positive => exact absurd positive (Nat.lt_irrefl 0)
  -- the skipped frame ends here, so what follows it starts on a frame boundary
  have positive : 0 < skipping := Nat.pos_of_ne_zero boundary
  obtain ⟨f, completed, large⟩ := gone.exists_completed positive enough
  rw [← completed]
  refine Accounted.after_oversized ?_ large
  cases noted with
  | some size =>
    rw [take_tooLarge positive enough]
    exact ⟨[], [], rfl, .nothing, rfl⟩
  | none =>
    rw [take_leftBehind enough]
    exact takeFrom_accounted limit none (buffer.drop skipping)

end Receiver

/-! ## Waits, calls and runs -/

/-- A wait brings what its one look brings: an end without an answer brings no frame. -/
theorem Concluded.broughtBy_eq {found reply? : Option Reply} (concluded : Concluded found reply?) :
    broughtBy reply? = broughtBy found := by
  cases concluded with
  | settled reply => rfl
  | unsettled unanswered => cases unanswered <;> rfl

theorem awaitFrame_accounted {limit deadline : Nat} {horizon : Horizon} {ends : Bool}
    {arrivals : List Arrival} {now : Nat} {r : Receiver} {received : List UInt8}
    {brought : List (List UInt8)} (account : Accounted limit received brought r) :
    let waited := awaitFrame limit deadline horizon ends arrivals now r
    ∃ taken, arrivals = taken ++ waited.arrivals
      ∧ Accounted limit (received ++ arrivedBytes taken)
        (brought ++ broughtBy (waited.ended.map Prod.snd)) waited.receiver := by
  intro waited
  obtain ⟨taken, split, looked⟩ :=
    awaitFrame_looked limit deadline horizon ends arrivals now r
  refine ⟨taken, split, ?_⟩
  rw [looked.concluded.broughtBy_eq, looked.receiver]
  exact Receiver.take_accounted (account.receive (arrivedBytes taken))

theorem Channel.call_accounted {c : Channel} {received : List UInt8} {brought : List (List UInt8)}
    (account : Accounted c.limit received brought c.receiver) (now : Nat) (horizon : Horizon)
    (request : List UInt8) :
    let exchange := c.call now horizon request
    ∃ taken, c.stream.arrivals = taken ++ exchange.after.stream.arrivals
      ∧ Accounted c.limit (received ++ arrivedBytes taken)
        (brought ++ broughtBy (exchange.ended.map Prod.snd)) exchange.after.receiver := by
  intro exchange
  dsimp only [exchange]
  cases sent : (c.dispatch request).2.1 with
  | some e =>
    rw [call_of_failure sent]
    exact ⟨[], (c.dispatch_arrivals request).symm, by simpa [broughtBy] using account.forget⟩
  | none =>
    rw [call_of_success sent]
    simp only [dispatch_receiver, dispatch_arrivals, dispatch_limit]
    exact awaitFrame_accounted account.forget

namespace Channel.Run

def ArrivalsAccounted (limit : Nat) (arrivals : List Arrival) (run : Run) : Prop :=
  run.channel.limit = limit
    ∧ ∃ taken, arrivals = taken ++ run.channel.stream.arrivals
      ∧ Accounted limit (arrivedBytes taken) run.frames run.channel.receiver

theorem ArrivalsAccounted.step {limit : Nat} {arrivals : List Arrival} {run : Run}
    (accounted : run.ArrivalsAccounted limit arrivals) (s : Step) :
    (run.step s).ArrivalsAccounted limit arrivals := by
  obtain ⟨rfl, taken, split, account⟩ := accounted
  cases s with
  | sleep span => exact ⟨rfl, taken, split, account⟩
  | close => exact ⟨rfl, taken, split, account⟩
  | call request patience =>
    obtain ⟨more, further, account⟩ :=
      call_accounted account run.now (patience.map (run.now + ·)) request
    refine ⟨call_limit .., taken ++ more, ?_, ?_⟩
    · rw [List.append_assoc, channel_step_call, ← further, ← split]
    · rw [arrivedBytes_append, frames_step_call, channel_step_call]
      exact account

theorem ArrivalsAccounted.steps {limit : Nat} {arrivals : List Arrival} {run : Run}
    (accounted : run.ArrivalsAccounted limit arrivals) (steps : List Step) :
    (run.steps steps).ArrivalsAccounted limit arrivals := by
  induction steps generalizing run with
  | nil => exact accounted
  | cons s steps inductionHypothesis => exact inductionHypothesis (accounted.step s)

/-- After any steps on a new channel, what has arrived is the whole frames used up, what
is gone of the frame being skipped, and the buffer; and the calls have brought the frames
within the limit, in order and each once. -/
theorem arrivals_conserved (stream : ByteStream) (settings : ConnectionSettings) (now : Nat)
    (steps : List Step) :
    let run := Run.steps { channel := .over stream settings, now } steps
    ∃ (taken : List Arrival) (frames : List Frame) (skipped : List UInt8),
      stream.arrivals = taken ++ run.channel.stream.arrivals
        ∧ arrivedBytes taken
          = frames.flatMap Frame.bytes ++ skipped ++ run.channel.receiver.buffer
        ∧ Skipped settings.maxFrameSize run.channel.receiver.skipping skipped
        ∧ run.frames
          = (frames.filter (·.size ≤ settings.maxFrameSize)).map Frame.bytes := by
  have fresh : ArrivalsAccounted settings.maxFrameSize stream.arrivals
      { channel := .over stream settings, now } :=
    ⟨rfl, [], rfl, .start⟩
  obtain ⟨-, taken, split, frames, skipped, received, gone, brought⟩ := fresh.steps steps
  exact ⟨taken, frames, skipped, split, received, gone, brought⟩

end Channel.Run

end ThingLink
