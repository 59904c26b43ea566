import ThingLink.Link.Conversation
import ThingLink.Proofs.Link.Deadline

/-!
# Calls that are watched for a while

A horizon only cuts off: a call that ends by the horizon is the call that is watched without an
end, and of a call that would last longer, all has happened that is due by then.  Every transport
of a driver is lawful in this sense.
-/

namespace ThingLink

/-! ## Beginnings of journals -/

/-- What a journal tells of the time up to an instant, the instant itself included. -/
def Journal.upTo (last : Nat) (journal : Journal) : Journal :=
  journal.filter (·.time ≤ last)

namespace Journal

variable {last : Nat} {journal : Journal}

@[simp] theorem upTo_append (last : Nat) (earlier later : Journal) :
    upTo last (earlier ++ later) = upTo last earlier ++ upTo last later :=
  List.filter_append ..

theorem upTo_eq_self (early : ∀ entry ∈ journal, entry.time ≤ last) :
    journal.upTo last = journal :=
  List.filter_eq_self.mpr fun entry member => decide_eq_true (early entry member)

theorem upTo_eq_nil (late : ∀ entry ∈ journal, last < entry.time) : journal.upTo last = [] :=
  List.filter_eq_nil_iff.mpr fun entry member early =>
    Nat.not_le.mpr (late entry member) (of_decide_eq_true early)

end Journal

/-! ## Lawful transports -/

/-- A call that is watched without an end has one after the instant, or none at all. -/
def Exchange.EndsAfter {σ : Type} (last : Nat) (exchange : Exchange σ) : Prop :=
  ∀ time reply, exchange.ended = some (time, reply) → last < time

/-- A transport on which time passes forward and which a horizon changes in nothing that happens
by then. -/
class LawfulTransport (σ : Type) [Transport σ] : Prop where
  starts {t : σ} {now : Nat} {request : List UInt8} :
    ∀ entry ∈ (Transport.call t now none request).journal, now ≤ entry.time
  ends {t : σ} {now time : Nat} {request : List UInt8} {reply : Reply} :
    (Transport.call t now none request).ended = some (time, reply) →
      now ≤ time
        ∧ ∀ entry ∈ (Transport.call t now none request).journal, entry.time ≤ time
  inTime {t : σ} {now last time : Nat} {request : List UInt8} {reply : Reply} :
    (Transport.call t now none request).ended = some (time, reply) → time ≤ last →
      Transport.call t now (some last) request = Transport.call t now none request
  cutOff {t : σ} {now last : Nat} {request : List UInt8} : now ≤ last →
    (Transport.call t now none request).EndsAfter last →
      (Transport.call t now (some last) request).ended = none
        ∧ (Transport.call t now (some last) request).journal
          = (Transport.call t now none request).journal.upTo last

/-! ## Replies from a list -/

instance : LawfulTransport ReplyScript where
  starts {script now request} entry member := by
    simp only [Transport.call, ReplyScript.call] at member
    split at member <;> exact Nat.le_of_eq (congrArg Entry.time (List.mem_singleton.mp member)).symm
  ends {script now time request reply} ended := by
    simp only [Transport.call, ReplyScript.call] at ended ⊢
    split at ended
    · cases ended
      simp
    · cases ended
      simp
  inTime {script now last time request reply} ended inTime := by
    simp only [Transport.call, ReplyScript.call] at ended ⊢
    split at ended
    · rfl
    · cases ended
      simp [Horizon.reaches, inTime]
  cutOff {script now last request} order late := by
    simp only [Transport.call, ReplyScript.call, Exchange.EndsAfter] at late ⊢
    split at late
    · exact absurd (late now _ rfl) (Nat.not_lt.mpr order)
    · have missed := late _ _ rfl
      simp [Horizon.reaches, Journal.upTo, order, missed]

/-! ## Channels -/

section Waits

variable {limit deadline now last time : Nat} {ends : Bool} {r : Receiver}
  {arrivals : List Arrival} {reply : Reply}

theorem le_of_awaitFrame_ended (soon : now ≤ deadline)
    (ended : (awaitFrame limit deadline none ends arrivals now r).ended = some (time, reply)) :
    now ≤ time := by
  have leaves : LeftAt none (some (time, reply)) time := .ended time reply
  rw [← ended] at leaves
  exact (awaitFrame_takes soon (Horizon.reaches_none now) leaves).1

/-- A wait that ends by the horizon does not notice it. -/
theorem awaitFrame_inTime (soon : now ≤ deadline)
    (ended : (awaitFrame limit deadline none ends arrivals now r).ended = some (time, reply))
    (inTime : time ≤ last) :
    awaitFrame limit deadline (some last) ends arrivals now r
      = awaitFrame limit deadline none ends arrivals now r := by
  have expires {deadline : Nat} (expired : expire deadline none = some (time, reply)) :
      expire deadline (some last) = expire deadline none := by
    cases expired
    exact if_pos (decide_eq_true inTime)
  induction arrivals generalizing now r with
  | nil =>
    cases settles : (r.take limit).1.reply? limit with
    | some reply => rw [awaitFrame_settled settles, awaitFrame_settled settles]
    | none =>
      rw [awaitFrame_nil settles] at ended
      rw [awaitFrame_nil settles, awaitFrame_nil settles]
      cases ends with
      | true => rfl
      | false => exact congrArg (Waited.mk · _ []) (expires ended)
  | cons next rest inductionHypothesis =>
    cases settles : (r.take limit).1.reply? limit with
    | some reply => rw [awaitFrame_settled settles, awaitFrame_settled settles]
    | none =>
      rw [awaitFrame_cons settles] at ended
      rw [awaitFrame_cons settles, awaitFrame_cons settles]
      by_cases due : max now next.due ≤ deadline
      · simp only [due, decide_true, Horizon.reaches_none, Bool.and_self, if_true] at ended ⊢
        -- the wait ends no earlier than this arrival comes
        have reached : Horizon.reaches (some last) (max now next.due) := by
          refine decide_eq_true (Nat.le_trans ?_ inTime)
          split at ended
          · cases ended
            exact Nat.le_refl _
          · cases ended
            exact Nat.le_refl _
          · exact le_of_awaitFrame_ended due ended
        simp only [reached, Bool.and_self, if_true]
        cases content : next.content with
        | error e => rfl
        | ok bytes =>
          rw [content] at ended
          cases bytes with
          | nil => rfl
          | cons byte bytes => exact inductionHypothesis due ended
      · simp only [due, decide_false, Bool.false_and, Bool.false_eq_true, if_false] at ended ⊢
        exact congrArg (Waited.mk · _ (next :: rest)) (expires ended)

/-- A wait that ends only after the horizon is cut off there. -/
theorem awaitFrame_cutOff (soon : now ≤ deadline) (order : now ≤ last)
    (late : ∀ time reply,
      (awaitFrame limit deadline none ends arrivals now r).ended = some (time, reply) →
        last < time) :
    (awaitFrame limit deadline (some last) ends arrivals now r).ended = none := by
  have watched : Horizon.reaches (some last) now := decide_eq_true order
  obtain ⟨time, reply, ending, ended⟩ :=
    awaitFrame_ends limit ends r arrivals soon (Horizon.reaches_none now)
  obtain ⟨time', reply', ending', ended'⟩ := awaitFrame_ends limit ends r arrivals soon watched
  obtain ⟨rfl, rfl⟩ := ending.unique ending'
  have after := late _ _ ended
  rw [ended', if_neg]
  exact fun reached => Nat.not_le.mpr after (of_decide_eq_true reached)

end Waits

namespace Channel

theorem time_eq_of_mem_writesAt {now : Nat} {pieces : List (List UInt8)} {entry : Entry}
    (member : entry ∈ writesAt now pieces) : entry.time = now := by
  obtain ⟨bytes, -, rfl⟩ := List.mem_map.mp member
  rfl

theorem call_starts {c : Channel} {now : Nat} {request : List UInt8} (horizon : Horizon) :
    ∀ entry ∈ (c.call now horizon request).journal, entry.time = now := by
  rw [call_journal]
  exact fun entry => time_eq_of_mem_writesAt

theorem le_of_call_ended {c : Channel} {now time : Nat} {request : List UInt8} {reply : Reply}
    (ended : (c.call now none request).ended = some (time, reply)) : now ≤ time := by
  cases sent : (c.dispatch request).2.1 with
  | some e =>
    rw [call_of_failure sent] at ended
    cases ended
    exact Nat.le_refl now
  | none =>
    rw [call_of_success sent] at ended
    exact le_of_awaitFrame_ended (Nat.le_add_right ..) ended

instance : LawfulTransport Channel where
  starts entry member := Nat.le_of_eq (call_starts none entry member).symm
  ends ended :=
    ⟨le_of_call_ended ended, fun entry member =>
      Nat.le_trans (Nat.le_of_eq (call_starts none entry member)) (le_of_call_ended ended)⟩
  inTime {c now last time request reply} ended inTime := by
    simp only [Transport.call] at ended ⊢
    cases sent : (c.dispatch request).2.1 with
    | some e => rw [call_of_failure sent, call_of_failure sent]
    | none =>
      rw [call_of_success sent] at ended
      rw [call_of_success sent, call_of_success sent]
      rw [awaitFrame_inTime (Nat.le_add_right ..) ended inTime]
  cutOff {c now last request} order late := by
    simp only [Transport.call, Exchange.EndsAfter] at late ⊢
    constructor
    · cases sent : (c.dispatch request).2.1 with
      | some e =>
        rw [call_of_failure sent] at late
        exact absurd (late now _ rfl) (Nat.not_lt.mpr order)
      | none =>
        rw [call_of_success sent] at late ⊢
        exact awaitFrame_cutOff (Nat.le_add_right ..) order late
    · rw [Journal.upTo_eq_self, call_journal, call_journal]
      exact fun entry member => Nat.le_trans (Nat.le_of_eq (call_starts none entry member)) order

end Channel

/-! ## Conversations -/

/-- A gateway answers a request at once, so only the channel waits. -/
instance : LawfulTransport Conversation where
  starts {c now request} := LawfulTransport.starts (t := (c.answer now request).channel)
  ends {c now time request reply} := LawfulTransport.ends (t := (c.answer now request).channel)
  inTime {c now last time request reply} ended inTime := by
    have same := LawfulTransport.inTime (t := (c.answer now request).channel) ended inTime
    simp only [Transport.call, Conversation.call] at same ⊢
    rw [same]
  cutOff {c now last request} := LawfulTransport.cutOff (t := (c.answer now request).channel)

end ThingLink
