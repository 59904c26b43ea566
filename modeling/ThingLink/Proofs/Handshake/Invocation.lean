import ThingLink.Proofs.Handshake.Course
import ThingLink.Proofs.Link.Turns
import ThingLink.Proofs.Wire.Increments
import ThingLink.Proofs.Wire.RoundTrip

/-!
# One call for one invocation

An invocation makes one call and judges what it brings.  The verdict is exact: a reply is a
response if it begins with the frame of one, it is malformed if no message can be decoded from it,
and else it is a message of another kind.  What a channel returns is always a whole frame, so on a
channel no reply is ever cut short.
-/

namespace ThingLink

/-! ## Verdicts on replies -/

namespace Method

variable {m : Method} {reply : List UInt8} {message : Message}

theorem judge_ok_eq_ok_iff {response : m.Response} :
    m.judge (.ok reply) = .ok response
      ↔ ∃ rest, reply = (m.responseMessage response).encode ++ rest := by
  rw [judge_eq_ok_iff, ← Message.decode_eq_ok_iff]
  constructor
  · rintro ⟨bytes, same, decoded⟩
    cases same
    exact decoded
  · intro decoded
    exact ⟨reply, rfl, decoded⟩

theorem judge_of_other (decoded : Message.decode reply = .ok message)
    (other : ∀ response, message ≠ m.responseMessage response) :
    m.judge (.ok reply) = .error (.unexpectedResponse m message.kind) := by
  have none : m.response? message = none := by
    cases found : m.response? message with
    | none => rfl
    | some response => exact absurd (response?_eq_some_iff.mp found) (other response)
  simp only [judge, decoded, none]

theorem judge_ok_eq_decode_iff {e : DecodeError} :
    m.judge (.ok reply) = .error (.decode e) ↔ Message.decode reply = .error e := by
  cases decoded : Message.decode reply with
  | error e' => simp [judge, decoded]
  | ok message =>
    cases found : m.response? message <;> simp [judge, decoded, found]

end Method

/-! ## What a channel returns -/

namespace Channel

variable {c : Channel} {now time : Nat} {horizon : Horizon} {request : List UInt8}

/-- A frame that a call returns is as long as its header announces. -/
theorem call_frame_measured {frame : List UInt8}
    (returned : (c.call now horizon request).ended = some (time, .ok frame)) :
    ∃ header, Header.parse? frame = some header
      ∧ frame.length = header.frameSize
      ∧ header.frameSize ≤ c.limit := by
  have replied : (Call.mk c now horizon request).reply? = some (.ok frame) :=
    congrArg (Option.map Prod.snd) returned
  obtain ⟨r, settled⟩ := Call.exists_settled replied (not_unanswered_ok frame)
  exact Receiver.frame_measured (Found.reply?_eq_ok_iff.mp settled)

/-- What a call fails with comes from the stream, the clock or the limit. -/
theorem call_error_cases {error : CallError}
    (failed : (c.call now horizon request).ended = some (time, .error error)) :
    error = .timeout ∨ error = .connectionClosed ∨ (∃ cause, error = .io cause)
      ∨ ∃ size, error = .frameTooLarge size c.limit := by
  have replied : (Call.mk c now horizon request).reply? = some (.error error) :=
    congrArg (Option.map Prod.snd) failed
  by_cases unanswered : Unanswered (some (.error error))
  · cases unanswered with
    | timeout => exact .inl rfl
    | closed => exact .inr (.inl rfl)
    | failed cause => exact .inr (.inr (.inl ⟨cause, rfl⟩))
  · obtain ⟨r, settled⟩ := Call.exists_settled replied unanswered
    generalize (r.forget.take c.limit).1 = found at settled
    cases found with
    | incomplete => exact nomatch settled
    | frame bytes => exact nomatch settled
    | tooLarge size =>
      cases settled
      exact .inr (.inr (.inr ⟨size, rfl⟩))

theorem invoke_ne_truncated (m : Method) (request : m.Request) {needed available : Nat} :
    (invoke c m request now horizon).ended
      ≠ some (time, .error (.decode (.truncated needed available))) := by
  intro truncated
  rw [invoke_ended] at truncated
  obtain ⟨⟨instant, reply⟩, ended, judged⟩ := Option.map_eq_some_iff.mp truncated
  obtain ⟨-, judged⟩ := Prod.mk.inj judged
  cases reply with
  -- the channel has no errors of the decoder to pass on
  | error error =>
    cases judged
    rcases call_error_cases ended with same | same | ⟨cause, same⟩ | ⟨size, same⟩ <;>
      exact nomatch same
  | ok frame =>
    obtain ⟨header, parsed, measured, -⟩ := call_frame_measured ended
    have whole := Message.not_truncated_of_whole parsed (Nat.le_of_eq measured.symm)
    exact whole ⟨needed, available, Method.judge_ok_eq_decode_iff.mp judged⟩

end Channel

/-! ## Invocations -/

/-- An invocation makes exactly one call, with the encoding of its request, and ends when the call
ends.  An error of the call is passed on as it is.  A reply brings a response exactly if it begins
with the frame of that response, and a decoding error exactly if it does not decode; what is left
is a message of another kind.  On a channel, with whatever limit and stream, a reply is as long as
its header announces and so is never cut short, and a call fails only because of the stream, the
clock or the limit. -/
theorem invoke_calls_once :
    (∀ (σ : Type) [Transport σ] (t : σ) (m : Method) (request : m.Request) (now : Nat)
        (horizon : Horizon),
        let call : Call σ := ⟨t, now, horizon, m.encode request⟩
        let invocation := invoke t m request now horizon
        let recorded := invoke (⟨t, []⟩ : Recorded σ) m request now horizon
        recorded.after.calls = [call]
          ∧ recorded.ended = invocation.ended
          ∧ invocation.after = call.after
          ∧ Message.decode call.request = .ok (m.requestMessage request)
          ∧ (call.ended = none → invocation.ended = none)
          ∧ (∀ time error, call.ended = some (time, .error error) →
              invocation.ended = some (time, .error error))
          ∧ ∀ time reply, call.ended = some (time, .ok reply) →
            ∃ verdict, invocation.ended = some (time, verdict)
              ∧ (∀ response, verdict = .ok response
                ↔ ∃ rest, reply = (m.responseMessage response).encode ++ rest)
              ∧ (∀ e, verdict = .error (.decode e) ↔ Message.decode reply = .error e)
              ∧ ∀ message, Message.decode reply = .ok message →
                (∀ response, message ≠ m.responseMessage response) →
                  verdict = .error (.unexpectedResponse m message.kind))
      ∧ ∀ (c : Channel) (now : Nat) (horizon : Horizon),
        (∀ request time frame, (c.call now horizon request).ended = some (time, .ok frame) →
          ∃ header, Header.parse? frame = some header ∧ frame.length = header.frameSize)
        ∧ (∀ request time error, (c.call now horizon request).ended = some (time, .error error) →
          error = .timeout ∨ error = .connectionClosed ∨ (∃ cause, error = .io cause)
            ∨ ∃ size, error = .frameTooLarge size c.limit)
        ∧ ∀ (m : Method) (request : m.Request) time needed available,
          (invoke c m request now horizon).ended
            ≠ some (time, .error (.decode (.truncated needed available))) := by
  constructor
  · intro σ _ t m request now horizon call invocation recorded
    have kept := invoke_recorded ⟨t, []⟩ m request now horizon
    have ended : invocation.ended = call.ended.map _ := invoke_ended t m request now horizon
    refine ⟨?_, ?_, ?_, ?_, ?_, ?_, ?_⟩
    · rw [show recorded = _ from kept]
      rfl
    · rw [show recorded = _ from kept]
    · exact invoke_after t m request now horizon
    · have whole := Message.decode_encode_append (m.requestMessage request) []
      rwa [List.append_nil] at whole
    · intro waiting
      rw [ended, waiting]
      rfl
    · intro time error failed
      rw [ended, failed]
      rfl
    · intro time reply replied
      refine ⟨m.judge (.ok reply), ?_, fun response => Method.judge_ok_eq_ok_iff,
        fun e => Method.judge_ok_eq_decode_iff, fun message => Method.judge_of_other⟩
      rw [ended, replied]
      rfl
  · intro c now horizon
    refine ⟨?_, ?_, ?_⟩
    · intro request time frame returned
      obtain ⟨header, parsed, measured, -⟩ := Channel.call_frame_measured returned
      exact ⟨header, parsed, measured⟩
    · intro request time error
      exact Channel.call_error_cases
    · intro m request time needed available
      exact Channel.invoke_ne_truncated m request

/-- A stream on which `bytes` arrive at 4. -/
def answering (bytes : List UInt8) : ByteStream where
  arrivals := [⟨4, .ok bytes⟩]

theorem invoke_calls_once_answering :
    let request : RegisterRequest := ⟨7, "lamp", by decide⟩
    let on (bytes : List UInt8) := Channel.over (answering bytes) { requestTimeout := 20 }
    (invoke (on [0x11, 1, 0xFD, 0x15]) .registerThing request 0 none).ended
        = some (4, .ok ⟨.permission, none⟩)
      ∧ (invoke (on [0x15, 1, 0]) .registerThing request 0 none).ended
        = some (4, .error (.unexpectedResponse .registerThing .authResponse))
      ∧ (invoke (on [0x11, 1, 0x7F]) .registerThing request 0 none).ended
        = some (4, .error (.decode (.unknownResult 127)))
      ∧ (invoke (on [0x11, 2, 0]) .registerThing request 0 none).ended
        = some (20, .error .timeout) := by
  intro request on
  obtain ⟨invocations, -⟩ := invoke_calls_once
  have settles (bytes : List UInt8) :=
    invocations Channel (on bytes) .registerThing request 0 none
  refine ⟨?_, ?_, ?_, ?_⟩
  · obtain ⟨-, -, -, -, -, -, replied⟩ := settles [0x11, 1, 0xFD, 0x15]
    obtain ⟨verdict, ended, response, -, -⟩ := replied 4 [0x11, 1, 0xFD] rfl
    rwa [(response ⟨.permission, none⟩).mpr ⟨[], rfl⟩] at ended
  · obtain ⟨-, -, -, -, -, -, replied⟩ := settles [0x15, 1, 0]
    obtain ⟨verdict, ended, -, -, other⟩ := replied 4 [0x15, 1, 0] rfl
    rwa [other (.authResponse ⟨.success⟩) rfl (fun response => nofun)] at ended
  · obtain ⟨-, -, -, -, -, -, replied⟩ := settles [0x11, 1, 0x7F]
    obtain ⟨verdict, ended, -, malformed, -⟩ := replied 4 [0x11, 1, 0x7F] rfl
    rwa [(malformed (.unknownResult 127)).mpr rfl] at ended
  · obtain ⟨-, -, -, -, -, failed, -⟩ := settles [0x11, 2, 0]
    exact failed 20 .timeout rfl

end ThingLink
