import ThingLink.Link.Channel
import ThingLink.Proofs.Link.Look

/-!
# Cuts of the stream do not matter

A look that finds nothing yet and a second look after more bytes find together what
one look at all the bytes finds.  A wait whose arrivals are all there is therefore one
look at everything that they bring, however the bytes are cut into reads.
-/

namespace ThingLink

/-! ## What arrives -/

def Arrival.bytes (a : Arrival) : List UInt8 :=
  match a.content with
  | .ok bytes => bytes
  | .error _ => []

def arrivedBytes (arrivals : List Arrival) : List UInt8 :=
  arrivals.flatMap Arrival.bytes

@[simp] theorem arrivedBytes_nil : arrivedBytes [] = [] :=
  rfl

@[simp] theorem arrivedBytes_cons (a : Arrival) (arrivals : List Arrival) :
    arrivedBytes (a :: arrivals) = a.bytes ++ arrivedBytes arrivals :=
  List.flatMap_cons

@[simp] theorem arrivedBytes_append (xs ys : List Arrival) :
    arrivedBytes (xs ++ ys) = arrivedBytes xs ++ arrivedBytes ys :=
  List.flatMap_append

structure Arrival.Ready (now : Nat) (a : Arrival) : Prop where
  due : a.due ≤ now
  nonempty : a.bytes ≠ []

theorem Arrival.Ready.later {now later : Nat} {a : Arrival} (ready : a.Ready now)
    (order : now ≤ later) : a.Ready later :=
  ⟨Nat.le_trans ready.due order, ready.nonempty⟩

/-! ## Looks at a growing buffer -/

namespace Receiver

/-- A look carried on after more bytes have arrived: one that found nothing looks again. -/
def resume (limit : Nat) (more : List UInt8) : Found × Receiver → Found × Receiver
  | (.incomplete, r) => (r.receive more).take limit
  | (found, r) => (found, r.receive more)

theorem resume_skipped {limit skipping : Nat} {buffer more : List UInt8} {noted : Option Nat}
    (few : buffer.length < skipping) :
    resume limit more (.incomplete, ⟨[], skipping - buffer.length, noted⟩)
      = take limit ⟨buffer ++ more, skipping, noted⟩ := by
  have lengths : (buffer ++ more).length = buffer.length + more.length := List.length_append
  rw [resume, receive, List.nil_append]
  by_cases still : (buffer ++ more).length < skipping
  · have fewer : more.length < skipping - buffer.length := by omega
    rw [take_skipped still, take_skipped fewer, lengths, Nat.sub_add_eq]
  · have missing : skipping - buffer.length ≤ more.length := by omega
    have enough : skipping ≤ (buffer ++ more).length := Nat.not_lt.mp still
    have dropped : (buffer ++ more).drop skipping = more.drop (skipping - buffer.length) := by
      rw [List.drop_append, List.drop_of_length_le (Nat.le_of_lt few), List.nil_append]
    cases noted with
    | some size =>
      rw [take_tooLarge (Nat.zero_lt_of_lt few) enough, take_tooLarge (Nat.sub_pos_of_lt few) missing,
        dropped]
    | none => rw [take_leftBehind enough, take_leftBehind missing, dropped]

theorem takeFrom_append (limit : Nat) (noted : Option Nat) (bs more : List UInt8) :
    takeFrom limit noted (bs ++ more) = resume limit more (takeFrom limit noted bs) := by
  have look := takeFrom_look limit noted bs
  generalize takeFrom limit noted bs = result at look ⊢
  induction look with
  -- nothing was taken off the buffer, so the second look starts over
  | short few => rfl
  | cut fits few => rfl
  | @frame noted tag length rest fits whole =>
    have still : length.toNat ≤ (rest ++ more).length :=
      Nat.le_trans whole (List.prefix_append rest more).length_le
    rw [List.cons_append, List.cons_append, takeFrom_frame fits still,
      List.take_append_of_le_length whole, List.drop_append_of_le_length whole]
    rfl
  | bare large empty further inductionHypothesis =>
    rw [List.cons_append, List.cons_append, takeFrom_bare large empty]
    exact inductionHypothesis
  -- the first look has dropped the header already and knows only how much is missing
  | @skipped noted tag length rest large few =>
    rw [List.cons_append, List.cons_append, resume_skipped few]
    by_cases still : (rest ++ more).length < length.toNat
    · rw [takeFrom_skipped large still, take_skipped still]
    · have enough : length.toNat ≤ (rest ++ more).length := Nat.not_lt.mp still
      have positive : 0 < length.toNat := Nat.zero_lt_of_lt few
      rw [takeFrom_tooLarge large (Nat.ne_of_gt positive) enough, take_tooLarge positive enough]
  | @tooLarge noted tag length rest large nonempty whole =>
    have still : length.toNat ≤ (rest ++ more).length :=
      Nat.le_trans whole (List.prefix_append rest more).length_le
    rw [List.cons_append, List.cons_append, takeFrom_tooLarge large nonempty still,
      List.drop_append_of_le_length whole]
    rfl

/-- A look at a buffer that has grown is the earlier look carried on. -/
theorem take_receive (limit : Nat) (r : Receiver) (more : List UInt8) :
    (r.receive more).take limit = resume limit more (r.take limit) := by
  obtain ⟨buffer, skipping, noted⟩ := r
  by_cases few : buffer.length < skipping
  · rw [take_skipped few, resume_skipped few, receive]
  have enough : skipping ≤ buffer.length := Nat.not_lt.mp few
  have still : skipping ≤ (buffer ++ more).length :=
    Nat.le_trans enough (List.prefix_append buffer more).length_le
  by_cases boundary : skipping = 0
  · subst boundary
    exact takeFrom_append limit noted buffer more
  -- the last byte of the skipped frame is there; only a noted frame ends the look
  cases noted with
  | some size =>
    rw [receive, take_tooLarge (Nat.pos_of_ne_zero boundary) still,
      take_tooLarge (Nat.pos_of_ne_zero boundary) enough, resume, receive,
      List.drop_append_of_le_length enough]
    exact fun none => nomatch none
  | none =>
    rw [receive, take_leftBehind still, take_leftBehind enough, ← takeFrom_append,
      List.drop_append_of_le_length enough]

theorem take_receive_settled {limit : Nat} {r : Receiver} {reply : Reply} (more : List UInt8)
    (settled : (r.take limit).1.reply? limit = some reply) :
    (r.receive more).take limit = ((r.take limit).1, (r.take limit).2.receive more) := by
  rw [take_receive]
  generalize r.take limit = look at settled ⊢
  obtain ⟨found, r'⟩ := look
  cases found <;> cases settled <;> rfl

theorem take_receive_unsettled {limit : Nat} {r : Receiver} (more : List UInt8)
    (unsettled : (r.take limit).1.reply? limit = none) :
    (r.receive more).take limit = ((r.take limit).2.receive more).take limit := by
  rw [take_receive]
  generalize r.take limit = look at unsettled ⊢
  obtain ⟨found, r'⟩ := look
  cases found <;> cases unsettled
  rfl

@[simp] theorem receive_nil (r : Receiver) : r.receive [] = r := by
  simp [receive]

@[simp] theorem receive_receive (r : Receiver) (bs more : List UInt8) :
    (r.receive bs).receive more = r.receive (bs ++ more) := by
  simp [receive]

end Receiver

/-! ## Waits -/

section Waits

variable {limit deadline now : Nat} {horizon : Horizon} {ends : Bool} {r : Receiver}

theorem awaitFrame_settled {arrivals : List Arrival} {reply : Reply}
    (settled : (r.take limit).1.reply? limit = some reply) :
    awaitFrame limit deadline horizon ends arrivals now r
      = ⟨some (now, reply), (r.take limit).2, arrivals⟩ := by
  unfold awaitFrame
  generalize r.take limit = look at settled ⊢
  obtain ⟨found, r'⟩ := look
  cases found <;> cases settled <;> rfl

theorem awaitFrame_nil (unsettled : (r.take limit).1.reply? limit = none) :
    awaitFrame limit deadline horizon ends [] now r
      = ⟨if ends then some (now, .error .connectionClosed) else expire deadline horizon,
        (r.take limit).2, []⟩ := by
  unfold awaitFrame
  generalize r.take limit = look at unsettled ⊢
  obtain ⟨found, r'⟩ := look
  cases found <;> cases unsettled
  cases ends <;> rfl

theorem awaitFrame_cons {next : Arrival} {rest : List Arrival}
    (unsettled : (r.take limit).1.reply? limit = none) :
    awaitFrame limit deadline horizon ends (next :: rest) now r
      = if max now next.due ≤ deadline && horizon.reaches (max now next.due) then
          match next.content with
          | .error e => ⟨some (max now next.due, .error (.ofIo e)), (r.take limit).2, rest⟩
          | .ok [] => ⟨some (max now next.due, .error .connectionClosed), (r.take limit).2, rest⟩
          | .ok bytes =>
              awaitFrame limit deadline horizon ends rest (max now next.due)
                ((r.take limit).2.receive bytes)
        else ⟨expire deadline horizon, (r.take limit).2, next :: rest⟩ := by
  rw [awaitFrame.eq_def]
  dsimp only
  generalize r.take limit = look at unsettled ⊢
  obtain ⟨found, r'⟩ := look
  cases found <;> cases unsettled
  rfl

theorem awaitFrame_ready {next : Arrival} {rest : List Arrival} (soon : now ≤ deadline)
    (watched : horizon.reaches now) (ready : next.Ready now)
    (unsettled : (r.take limit).1.reply? limit = none) :
    awaitFrame limit deadline horizon ends (next :: rest) now r
      = awaitFrame limit deadline horizon ends rest now ((r.take limit).2.receive next.bytes) := by
  rw [awaitFrame_cons unsettled, Nat.max_eq_left ready.due]
  simp only [soon, watched, decide_true, Bool.and_self, if_true]
  have nonempty := ready.nonempty
  unfold Arrival.bytes at nonempty ⊢
  split
  · next failed => simp [failed] at nonempty
  · next ended => simp [ended] at nonempty
  · next brings => simp [brings]

/-- If one look at everything that can be read settles a reply, a wait ends at once with
that reply, and what it leaves behind is what the look leaves behind. -/
theorem awaitFrame_available {arrivals : List Arrival} {reply : Reply} (soon : now ≤ deadline)
    (watched : horizon.reaches now) (ready : ∀ a ∈ arrivals, a.Ready now)
    (settled : ((r.receive (arrivedBytes arrivals)).take limit).1.reply? limit = some reply) :
    let waited := awaitFrame limit deadline horizon ends arrivals now r
    waited.ended = some (now, reply)
      ∧ waited.arrivals <:+ arrivals
      ∧ waited.receiver.receive (arrivedBytes waited.arrivals)
        = ((r.receive (arrivedBytes arrivals)).take limit).2 := by
  -- either a look settles the reply before all arrivals are read, and the rest is left on
  -- the stream, or the next arrival moves into the buffer and the total stays the same
  induction arrivals generalizing r with
  | nil =>
    rw [arrivedBytes_nil, Receiver.receive_nil] at settled ⊢
    rw [awaitFrame_settled settled]
    exact ⟨rfl, List.suffix_rfl, Receiver.receive_nil _⟩
  | cons next rest inductionHypothesis =>
    cases first : (r.take limit).1.reply? limit with
    | some earlier =>
      rw [Receiver.take_receive_settled _ first] at settled ⊢
      rw [awaitFrame_settled first]
      cases first.symm.trans settled
      exact ⟨rfl, List.suffix_rfl, rfl⟩
    | none =>
      rw [awaitFrame_ready soon watched (ready next List.mem_cons_self) first]
      rw [Receiver.take_receive_unsettled _ first, arrivedBytes_cons,
        ← Receiver.receive_receive] at settled ⊢
      obtain ⟨ended, left, kept⟩ :=
        inductionHypothesis (fun a member => ready a (List.mem_cons_of_mem next member)) settled
      exact ⟨ended, left.trans (List.suffix_cons next rest), kept⟩

end Waits

/-! ## Waits as one look -/

/-- The ends of a call that brings neither a frame nor the report of one: it was abandoned,
or nothing came in time, or the stream ended or failed. -/
inductive Unanswered : Option Reply → Prop where
  | abandoned : Unanswered none
  | timeout : Unanswered (some (.error .timeout))
  | closed : Unanswered (some (.error .connectionClosed))
  | failed (e : IoError) : Unanswered (some (.error (.io e)))

theorem Unanswered.ofIo (e : IoError) : Unanswered (some (.error (.ofIo e))) := by
  unfold CallError.ofIo
  split
  · exact .closed
  · exact .failed e

theorem Unanswered.expire (deadline : Nat) (horizon : Horizon) :
    Unanswered ((expire deadline horizon).map Prod.snd) := by
  unfold ThingLink.expire
  split
  · exact .timeout
  · exact .abandoned

theorem not_unanswered_frameTooLarge (size max : Nat) :
    ¬Unanswered (some (.error (.frameTooLarge size max))) :=
  nofun

theorem not_unanswered_ok (bytes : List UInt8) : ¬Unanswered (some (.ok bytes)) :=
  nofun

/-- A call that has settled a reply ends with it, and a call that has not ends unanswered. -/
inductive Concluded : Option Reply → Option Reply → Prop where
  | settled (reply : Reply) : Concluded (some reply) (some reply)
  | unsettled {reply? : Option Reply} (unanswered : Unanswered reply?) : Concluded none reply?

theorem Concluded.eq_of_some {reply : Reply} {reply? : Option Reply}
    (concluded : Concluded (some reply) reply?) : reply? = some reply := by
  cases concluded
  rfl

theorem Concluded.of_none {reply? : Option Reply} (concluded : Concluded none reply?) :
    Unanswered reply? := by
  cases concluded
  assumption

theorem Concluded.eq_some_of_answered {found : Option Reply} {reply : Reply}
    (concluded : Concluded found (some reply)) (answered : ¬Unanswered (some reply)) :
    found = some reply := by
  cases concluded with
  | settled => rfl
  | unsettled unanswered => exact absurd unanswered answered

/-- A wait that comes to one look at what it has received. -/
structure Waited.Looked (limit : Nat) (r : Receiver) (received : List UInt8) (waited : Waited) :
    Prop where
  receiver : waited.receiver = ((r.receive received).take limit).2
  concluded : Concluded (((r.receive received).take limit).1.reply? limit)
    (waited.ended.map Prod.snd)

namespace Waited.Looked

variable {limit now : Nat} {r : Receiver} {arrivals : List Arrival}

theorem settles {reply : Reply} (settled : (r.take limit).1.reply? limit = some reply) :
    Looked limit r [] ⟨some (now, reply), (r.take limit).2, arrivals⟩ where
  receiver := by rw [Receiver.receive_nil]
  concluded := by
    rw [Receiver.receive_nil, settled]
    exact .settled reply

theorem unanswered {ended : Option (Nat × Reply)}
    (unsettled : (r.take limit).1.reply? limit = none)
    (unanswered : Unanswered (ended.map Prod.snd)) :
    Looked limit r [] ⟨ended, (r.take limit).2, arrivals⟩ where
  receiver := by rw [Receiver.receive_nil]
  concluded := by
    rw [Receiver.receive_nil, unsettled]
    exact .unsettled unanswered

theorem after_unsettled {bs more : List UInt8} {waited : Waited}
    (unsettled : (r.take limit).1.reply? limit = none)
    (looked : waited.Looked limit ((r.take limit).2.receive bs) more) :
    waited.Looked limit r (bs ++ more) := by
  have same : (r.receive (bs ++ more)).take limit
      = (((r.take limit).2.receive bs).receive more).take limit := by
    rw [Receiver.take_receive_unsettled _ unsettled, Receiver.receive_receive]
  exact ⟨same ▸ looked.receiver, same ▸ looked.concluded⟩

end Waited.Looked

/-- However a wait ends, it comes to one look at everything that it has received. -/
theorem awaitFrame_looked (limit deadline : Nat) (horizon : Horizon) (ends : Bool)
    (arrivals : List Arrival) (now : Nat) (r : Receiver) :
    let waited := awaitFrame limit deadline horizon ends arrivals now r
    ∃ taken, arrivals = taken ++ waited.arrivals ∧ waited.Looked limit r (arrivedBytes taken) := by
  -- the program looks after every arrival; looks that settle nothing leave a receiver from
  -- which the next look finds what one look at all the bytes would have found
  induction arrivals generalizing now r with
  | nil =>
    refine ⟨[], ?_⟩
    cases settles : (r.take limit).1.reply? limit with
    | some reply =>
      rw [awaitFrame_settled settles]
      exact ⟨rfl, .settles settles⟩
    | none =>
      rw [awaitFrame_nil settles]
      refine ⟨rfl, .unanswered settles ?_⟩
      cases ends with
      | true => exact .closed
      | false => exact .expire deadline horizon
  | cons next rest inductionHypothesis =>
    cases settles : (r.take limit).1.reply? limit with
    | some reply =>
      rw [awaitFrame_settled settles]
      exact ⟨[], rfl, .settles settles⟩
    | none =>
      rw [awaitFrame_cons settles]
      split
      · split
        -- an error and the end of the stream bring no bytes
        · next e failed =>
          have nothing : next.bytes = [] := by simp [Arrival.bytes, failed]
          refine ⟨[next], rfl, ?_⟩
          rw [arrivedBytes_cons, nothing]
          exact .unanswered settles (.ofIo e)
        · next ended =>
          have nothing : next.bytes = [] := by simp [Arrival.bytes, ended]
          refine ⟨[next], rfl, ?_⟩
          rw [arrivedBytes_cons, nothing]
          exact .unanswered settles .closed
        · next bytes nonempty brings =>
          have brought : next.bytes = bytes := by simp [Arrival.bytes, brings]
          obtain ⟨taken, split, looked⟩ :=
            inductionHypothesis (max now next.due) ((r.take limit).2.receive bytes)
          refine ⟨next :: taken, congrArg (next :: ·) split, ?_⟩
          rw [arrivedBytes_cons, brought]
          exact looked.after_unsettled settles
      · exact ⟨[], rfl, .unanswered settles (.expire deadline horizon)⟩

end ThingLink
