import ThingLink.Proofs.Link.Run
import ThingLink.Proofs.Link.Segmentation

/-!
# A backlog of frames

A channel with whole frames waiting on its stream answers every call at once with the
next of them: the frame itself, or the report that it is too large.  Nothing else that
is done with the channel uses a frame up.
-/

namespace ThingLink

/-! ## Streams that take everything -/

def WriteResult.Succeeds : WriteResult → Prop
  | .accept most => 0 < most
  | .fail _ => False

/-- A stream whose writes and flushes all succeed. -/
structure ByteStream.Writable (stream : ByteStream) : Prop where
  writes : ∀ result ∈ stream.writes, result.Succeeds
  flushes : ∀ result ∈ stream.flushes, result = none

theorem writeAll_succeeds (results : List WriteResult) (bs : List UInt8)
    (succeeds : ∀ result ∈ results, result.Succeeds) :
    (writeAll results bs).failure = none ∧ (writeAll results bs).left <:+ results := by
  fun_induction writeAll results bs with
  | case1 results => exact ⟨rfl, List.suffix_rfl⟩
  | case2 bs => exact ⟨rfl, List.suffix_rfl⟩
  | case3 e results bs => exact absurd (succeeds _ List.mem_cons_self) id
  | case4 results bs => exact absurd (succeeds _ List.mem_cons_self) (Nat.lt_irrefl 0)
  | case5 most results bs _ _ rest inductionHypothesis =>
    obtain ⟨sent, left⟩ :=
      inductionHypothesis fun result member => succeeds result (List.mem_cons_of_mem _ member)
    exact ⟨sent, left.trans (List.suffix_cons _ results)⟩

def Journal.written (j : Journal) : List UInt8 :=
  j.flatMap fun e => match e.act with
    | .write bytes => bytes
    | _ => []

@[simp] theorem Journal.written_append (j k : Journal) :
    written (j ++ k) = written j ++ written k :=
  List.flatMap_append

namespace Channel

@[simp] theorem written_writesAt (now : Nat) (pieces : List (List UInt8)) :
    (writesAt now pieces).written = pieces.flatten := by
  rw [Journal.written, writesAt, List.flatMap_map, List.flatten_eq_flatMap]
  rfl

theorem dispatch_writable {c : Channel} (writable : c.stream.Writable) (request : List UInt8) :
    (c.dispatch request).2.1 = none
      ∧ (c.dispatch request).1.flatten = request
      ∧ (c.dispatch request).2.2.stream.Writable := by
  obtain ⟨sent, left⟩ := writeAll_succeeds c.stream.writes request writable.writes
  obtain ⟨lost, split, all⟩ := writeAll_pieces c.stream.writes request
  have whole : (writeAll c.stream.writes request).pieces.flatten = request := by
    rw [all sent, List.append_nil] at split
    exact split.symm
  have remaining : ∀ result ∈ (writeAll c.stream.writes request).left, result.Succeeds :=
    fun result member => writable.writes result (left.subset member)
  simp only [dispatch, send, sent]
  cases flushes : c.stream.flushes with
  | nil => exact ⟨rfl, whole, remaining, by simp [popResult]⟩
  | cons first rest =>
    have succeeds := writable.flushes
    rw [flushes] at succeeds
    exact ⟨succeeds first List.mem_cons_self, whole, remaining,
      fun result member => succeeds result (List.mem_cons_of_mem first member)⟩

end Channel

/-! ## Frames in front of a look -/

/-- What a call makes of a frame under a limit. -/
def Frame.verdict (limit : Nat) (f : Frame) : Reply :=
  if f.size ≤ limit then .ok f.bytes else .error (.frameTooLarge f.size limit)

theorem Frame.verdict_eq_ok_iff {limit : Nat} {f : Frame} {bs : List UInt8} :
    f.verdict limit = .ok bs ↔ f.size ≤ limit ∧ f.bytes = bs := by
  by_cases fits : f.size ≤ limit <;> simp [verdict, fits]

theorem Frame.verdict_eq_frameTooLarge_iff {limit : Nat} {f : Frame} {size max : Nat} :
    f.verdict limit = .error (.frameTooLarge size max)
      ↔ limit < f.size ∧ size = f.size ∧ max = limit := by
  unfold verdict
  split
  · next fits => simp [Nat.not_lt.mpr fits]
  · next large => simp [Nat.lt_of_not_le large, eq_comm]

theorem Receiver.take_bytes {limit : Nat} (minimum : headerSize ≤ limit) (f : Frame)
    (rest : List UInt8) :
    (take limit ⟨f.bytes ++ rest, 0, none⟩).1.reply? limit = some (f.verdict limit)
      ∧ (take limit ⟨f.bytes ++ rest, 0, none⟩).2 = ⟨rest, 0, none⟩ := by
  have width := f.toNat_ofNat_length
  have whole : (UInt8.ofNat f.payload.length).toNat ≤ (f.payload ++ rest).length := by
    rw [width, List.length_append]
    omega
  have onBoundary : take limit ⟨f.bytes ++ rest, 0, none⟩ = takeFrom limit none (f.bytes ++ rest) :=
    rfl
  rw [onBoundary, Frame.bytes, List.cons_append, List.cons_append, Frame.verdict, f.size_eq]
  by_cases fits : f.header.frameSize ≤ limit
  · rw [takeFrom_frame fits whole, if_pos fits, width, List.take_left, List.drop_left]
    exact ⟨rfl, rfl⟩
  -- a bare header is never above the limit, so the frame is not looked past
  · have nonempty := nonempty_of_large minimum (Nat.lt_of_not_le fits)
    rw [takeFrom_tooLarge (Nat.lt_of_not_le fits) nonempty whole, if_neg fits, width, List.drop_left]
    exact ⟨rfl, rfl⟩

namespace Channel

/-! ## Calls on a backlog -/

/-- A channel for which whole frames are waiting: behind what is buffered already, all
their bytes can be read. -/
structure Backlog (limit now : Nat) (frames : List Frame) (c : Channel) : Prop where
  limited : c.limit = limit
  minimum : headerSize ≤ limit
  writable : c.stream.Writable
  boundary : c.receiver.skipping = 0
  ready : ∀ a ∈ c.stream.arrivals, a.Ready now
  waiting : c.receiver.buffer ++ arrivedBytes c.stream.arrivals = frames.flatMap Frame.bytes

namespace Backlog

variable {limit now : Nat} {frames : List Frame} {c : Channel}

theorem later {time : Nat} (backlog : Backlog limit now frames c) (order : now ≤ time) :
    Backlog limit time frames c :=
  { backlog with ready := fun a member => (backlog.ready a member).later order }

theorem call {f : Frame} {horizon : Horizon} (backlog : Backlog limit now (f :: frames) c)
    (watched : horizon.reaches now) (request : List UInt8) :
    let exchange := c.call now horizon request
    exchange.ended = some (now, f.verdict limit)
      ∧ exchange.journal.written = request
      ∧ Backlog limit now frames exchange.after := by
  obtain ⟨rfl, minimum, writable, boundary, ready, waiting⟩ := backlog
  obtain ⟨sent, whole, writable⟩ := dispatch_writable writable request
  -- a new call forgets the oversized frame of an earlier one, and none is being skipped
  have everything : c.receiver.forget.receive (arrivedBytes c.stream.arrivals)
      = ⟨f.bytes ++ frames.flatMap Frame.bytes, 0, none⟩ := by
    rw [← List.flatMap_cons, ← waiting, ← boundary]
    rfl
  obtain ⟨settled, left⟩ := Receiver.take_bytes minimum f (frames.flatMap Frame.bytes)
  rw [← everything] at settled left
  have soon : now ≤ now + (c.dispatch request).2.2.timeout := Nat.le_add_right ..
  obtain ⟨ended, behind, kept⟩ := awaitFrame_available soon watched ready settled
  rw [left] at kept
  rw [call_of_success sent]
  simp only [dispatch_receiver, dispatch_arrivals, dispatch_limit, written_writesAt]
  refine ⟨ended, whole, ?_⟩
  exact {
    limited := rfl
    minimum := minimum
    writable := ⟨writable.writes, writable.flushes⟩
    boundary := congrArg Receiver.skipping kept
    ready := fun a member => ready a (behind.subset member)
    waiting := congrArg Receiver.buffer kept }

end Backlog

/-! ## Steps on a backlog -/

def Step.isCall : Step → Bool
  | .call .. => true
  | .sleep _ | .close => false

namespace Run

variable {limit : Nat} {frames : List Frame} {run : Run}

theorem step_call_backlog {f : Frame} (backlog : Backlog limit run.now (f :: frames) run.channel)
    (request : List UInt8) (patience : Option Nat) :
    let next := run.step (.call request patience)
    next.replies = run.replies ++ [f.verdict limit]
      ∧ Backlog limit next.now frames next.channel := by
  have watched := Horizon.reaches_patience run.now patience
  obtain ⟨ended, -, behind⟩ := backlog.call watched request
  simp only [step, replies, ended, List.filterMap_append]
  exact ⟨rfl, behind⟩

/-- Whatever is done with a channel, its calls get the waiting frames one by one, in
order. -/
theorem replies_backlog (backlog : Backlog limit run.now frames run.channel) (steps : List Step)
    (enough : steps.countP Step.isCall ≤ frames.length) :
    (run.steps steps).replies
      = run.replies ++ (frames.take (steps.countP Step.isCall)).map (Frame.verdict limit) := by
  induction steps generalizing run frames with
  | nil => simp [Run.steps]
  | cons s steps inductionHypothesis =>
    cases s with
    | sleep span =>
      have kept : Backlog limit (run.step (.sleep span)).now frames run.channel :=
        backlog.later (Nat.le_add_right run.now span)
      exact inductionHypothesis kept enough
    | close =>
      have kept : Backlog limit (run.step .close).now frames (run.step .close).channel :=
        { backlog with writable := ⟨backlog.writable.writes, backlog.writable.flushes⟩ }
      exact inductionHypothesis kept enough
    | call request patience =>
      have calls : (Step.call request patience :: steps).countP Step.isCall
          = steps.countP Step.isCall + 1 :=
        List.countP_cons_of_pos rfl
      rw [calls] at enough ⊢
      cases frames with
      | nil => exact absurd enough (Nat.not_succ_le_zero _)
      | cons f frames =>
        obtain ⟨replied, behind⟩ := step_call_backlog backlog request patience
        have rest := inductionHypothesis behind (Nat.le_of_succ_le_succ enough)
        rw [replied, List.append_assoc] at rest
        exact rest

end Run

end Channel

end ThingLink
