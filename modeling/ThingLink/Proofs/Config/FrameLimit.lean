import ThingLink.Proofs.Handshake.Invocation
import ThingLink.Proofs.Link.Delivery
import ThingLink.Proofs.Run.Effects

/-!
# Which replies a configuration lets through

The largest frame of a configuration is not checked, only moved to a size that a frame can have.
A reply that is delivered in time is received exactly if it is within the configured size, and no
reply is longer than a response that issues credentials.  A configuration for smaller frames is
valid all the same, and a thing under it asks again for credentials that it has been given.
-/

namespace ThingLink

open Text (bytes)

/-! ## Replies as frames -/

namespace Message

theorem payload_fits (m : Message) : m.payload.length ≤ maxPayload := by
  have := m.payloadSize_le
  simp only [Credentials.wireSize, uuidSize, tokenSize] at this
  rw [payload_length, maxPayload]
  omega

def frame (m : Message) : Frame :=
  ⟨m.kind.tag, m.payload, m.payload_fits⟩

theorem frame_bytes (m : Message) : m.frame.bytes = m.encode := by
  rw [Frame.bytes, frame, payload_length]
  rfl

theorem frame_size (m : Message) : m.frame.size = m.encode.length :=
  congrArg List.length m.frame_bytes

theorem headerSize_lt_encode (m : Message) : headerSize < m.encode.length := by
  have positive : 0 < m.payloadSize := by
    cases m with
    | registerRequest r => exact Nat.add_pos_left (Nat.zero_lt_succ 7) _
    | registerResponse r => exact Nat.add_pos_left Nat.one_pos _
    | authRequest r => exact Nat.zero_lt_succ 75
    | authResponse r => exact Nat.one_pos
  rw [encode_length]
  omega

/-- A response with credentials is as long as a message can be. -/
theorem encode_length_issued (code : ResultCode) (c : Credentials) :
    (registerResponse ⟨code, some c⟩).encode.length = 79 :=
  encode_length _

end Message

/-! ## Limits of configured connections -/

namespace Config

theorem headerSize_le_connection (c : Config) : headerSize ≤ c.connection.maxFrameSize :=
  (ConnectionSettings.withMaxFrameSize_bounds _ _).1

/-- Frames with a payload do not notice that the limit was moved. -/
theorem frame_fits_iff (c : Config) {f : Frame} (nonempty : headerSize < f.size) :
    f.size ≤ c.connection.maxFrameSize ↔ f.size ≤ c.gateway.maxFrameSize.toNat := by
  have most := f.header.frameSize_le
  rw [← f.size_eq] at most
  simp only [connection, ConnectionSettings.withMaxFrameSize]
  omega

/-- What the first call under a configuration makes of a reply. -/
def received (c : Config) (reply : List UInt8) : Reply :=
  if reply.length ≤ c.gateway.maxFrameSize.toNat then .ok reply
  else .error (.frameTooLarge reply.length c.connection.maxFrameSize)

theorem verdict_frame (c : Config) (m : Message) :
    m.frame.verdict c.connection.maxFrameSize = c.received m.encode := by
  have fits := c.frame_fits_iff (m.frame_size ▸ m.headerSize_lt_encode)
  rw [m.frame_size] at fits
  rw [Frame.verdict, received, m.frame_size, m.frame_bytes]
  simp only [fits]

theorem call_received {c : Config} {stream : ByteStream} {horizon : Horizon}
    {request : List UInt8} {m : Message} (now : Nat)
    (sent : ((Channel.over stream c.connection).dispatch request).2.1 = none)
    (watched : horizon.reaches (now + c.connection.requestTimeout))
    (delivered : stream.Delivers m.encode (now + c.connection.requestTimeout)) :
    ∃ time, now ≤ time ∧ time ≤ now + c.connection.requestTimeout
      ∧ ((Channel.over stream c.connection).call now horizon request).ended
        = some (time, c.received m.encode) := by
  rw [← c.verdict_frame m]
  rw [← m.frame_bytes] at delivered
  exact Channel.call_delivered c.headerSize_le_connection sent watched delivered

end Config

/-! ## Registrations with one attempt -/

namespace Driver

variable {σ : Type} [Transport σ] {d : Driver σ} {deviceId : UInt64} {deviceName : String}
  {registers : RegisterRequest} {horizon : Horizon} {now time : Nat}
  {answer : Except CallError RegisterResponse}

theorem register_success {response : RegisterResponse} (budget : Nat)
    (made : RegisterRequest.make deviceId deviceName = .ok registers)
    (ended : (invoke d.transport .registerThing registers now horizon).ended = some (time, answer))
    (success : d.policy.classify .registerThing answer = .success response) :
    (d.register deviceId deviceName horizon (budget + 1) now).ended
      = some (time, .ok ⟨1, response.credentials⟩) := by
  have first := drive_success (d := { d with state := .initial }) budget 0 ended success
  simp only [register, made, Progress.map, Progress.after]
  rw [first]
  rfl

theorem register_retryable {reason : RetryReason}
    (made : RegisterRequest.make deviceId deviceName = .ok registers)
    (ended : (invoke d.transport .registerThing registers now horizon).ended = some (time, answer))
    (retryable : d.policy.classify .registerThing answer = .retryable reason) :
    (d.register deviceId deviceName horizon 1 now).driver.state = .retrying 1 := by
  simp only [register, made, Progress.map, Progress.after]
  by_cases watched : horizon.reaches (time + d.backoff)
  · rw [drive_retryable (d := { d with state := .initial }) 0 0 ended retryable watched]
    rfl
  · rw [drive_cutOff (d := { d with state := .initial }) 0 0 ended retryable watched]
    rfl

end Driver

/-! ## Replies under a valid configuration -/

namespace Config

theorem all_fit_iff {size : Nat} :
    (∀ (m : Method) (response : m.Response), (m.responseMessage response).encode.length ≤ size)
      ↔ 79 ≤ size := by
  constructor
  · intro fits
    have issued := fits .registerThing ⟨.success, some Driver.heldCredentials⟩
    exact Nat.le_trans (Nat.le_of_eq (Message.encode_length_issued ..).symm) issued
  · intro enough m response
    exact Nat.le_trans (Message.encode_length_le _) enough

theorem classify_received (c : Config) (policy : Policy) {response : RegisterResponse}
    (accepted : response.result = .success) :
    let reply := (Message.registerResponse response).encode
    let outcome := policy.classify .registerThing (Method.registerThing.judge (c.received reply))
    (reply.length ≤ c.gateway.maxFrameSize.toNat → outcome = .success response)
      ∧ (¬reply.length ≤ c.gateway.maxFrameSize.toNat →
        outcome = .retryable (.call (.frameTooLarge reply.length c.connection.maxFrameSize))) := by
  intro reply outcome
  constructor
  · intro fits
    have answer : Method.registerThing.judge (c.received reply) = .ok response := by
      rw [received, if_pos fits]
      exact Method.judge_ok_eq_ok_iff.mpr ⟨[], (List.append_nil reply).symm⟩
    exact Policy.classify_eq_success_iff.mpr ⟨answer, accepted⟩
  · intro large
    have refused : c.received reply
        = .error (.frameTooLarge reply.length c.connection.maxFrameSize) := if_neg large
    simp only [outcome, refused]
    rfl

/-- The driver of a thing that has connected and not asked for anything. -/
def driverOver (c : Config) (stream : ByteStream) : Driver Channel :=
  { transport := .over stream c.connection, backoff := c.retry.backoff.toNat, policy := c.policy }

/-- Under a valid configuration the first call brings a reply that is delivered in time exactly as
it is if the reply is within the configured size, and else reports its size.  Every reply is within
the size exactly if 79 bytes are.  A registration that is accepted succeeds with its first attempt
if the reply is within the size, and else is tried again. -/
theorem replies_within_size {c : Config} (valid : c.validate = .ok ()) (stream : ByteStream)
    (now : Nat) (horizon : Horizon)
    (watched : horizon.reaches (now + c.connection.requestTimeout)) :
    let deadline := now + c.connection.requestTimeout
    let fits (m : Message) := m.encode.length ≤ c.gateway.maxFrameSize.toNat
    (∀ (m : Method) (response : m.Response) (request : List UInt8),
        let reply := (m.responseMessage response).encode
        let channel := Channel.over stream c.connection
        (channel.dispatch request).2.1 = none →
        stream.Delivers reply deadline →
          ∃ time, now ≤ time ∧ time ≤ deadline
            ∧ (channel.call now horizon request).ended
              = some (time, if fits (m.responseMessage response) then .ok reply
                else .error (.frameTooLarge reply.length c.connection.maxFrameSize)))
      ∧ ((∀ (m : Method) (response : m.Response), fits (m.responseMessage response))
        ↔ 79 ≤ c.gateway.maxFrameSize.toNat)
      ∧ ∃ registers, RegisterRequest.make c.thing.id c.thing.name = .ok registers
        ∧ ∀ response : RegisterResponse, response.result = .success →
          ((c.driverOver stream).transport.dispatch
            (Message.registerRequest registers).encode).2.1 = none →
          stream.Delivers (Message.registerResponse response).encode deadline →
            (fits (.registerResponse response) →
              ∃ time, now ≤ time ∧ time ≤ deadline ∧ ∀ budget,
                ((c.driverOver stream).register c.thing.id c.thing.name horizon (budget + 1)
                  now).ended = some (time, .ok ⟨1, response.credentials⟩))
            ∧ (¬fits (.registerResponse response) →
              ((c.driverOver stream).register c.thing.id c.thing.name horizon 1 now).driver.state
                = .retrying 1) := by
  intro deadline fits
  refine ⟨?_, all_fit_iff, ?_⟩
  · intro m response request reply channel sent delivered
    exact call_received now sent watched delivered
  · have named := name_length_le valid
    refine ⟨⟨c.thing.id, c.thing.name, named⟩, dif_pos named, ?_⟩
    intro response accepted sent delivered
    obtain ⟨time, notBefore, notAfter, ended⟩ := call_received now sent watched delivered
    obtain ⟨success, retryable⟩ := c.classify_received c.policy accepted
    have invoked : (invoke (c.driverOver stream).transport .registerThing
        ⟨c.thing.id, c.thing.name, named⟩ now horizon).ended
          = some (time, Method.registerThing.judge (c.received _)) :=
      (invoke_ended ..).trans (congrArg (Option.map _) ended)
    refine ⟨fun within => ⟨time, notBefore, notAfter, fun budget => ?_⟩, fun large => ?_⟩
    · exact Driver.register_success budget (dif_pos named) invoked (success within)
    · exact Driver.register_retryable (dif_pos named) invoked (retryable large)

/-- The reply to a new thing. -/
def issuedReply : List UInt8 :=
  (Message.registerResponse ⟨.success, some Driver.heldCredentials⟩).encode

/-- A gateway that answers with credentials, cut into two reads. -/
def issuing : ByteStream where
  arrivals := [⟨40, .ok (issuedReply.take 30)⟩, ⟨90, .ok (issuedReply.drop 30)⟩]

theorem issuing_writable : issuing.Writable where
  writes := nofun
  flushes := nofun

theorem issuing_delivers {time : Nat} (late : 90 ≤ time) :
    issuing.Delivers issuedReply time := by
  have ready : ∀ a ∈ issuing.arrivals, a.Ready time := by
    simp only [issuing, List.forall_mem_cons]
    exact ⟨⟨Nat.le_trans (by decide) late, by decide⟩, ⟨late, by decide⟩, nofun⟩
  have whole : arrivedBytes issuing.arrivals = issuedReply := by decide
  rw [← whole]
  exact ByteStream.delivers_of_ready (List.append_nil _).symm ready

/-- The default configuration receives credentials with the first attempt. -/
theorem replies_within_size_issuing :
    let c : Config := {}
    c.validate = .ok ()
      ∧ ∃ time, time ≤ 10000
        ∧ ((c.driverOver issuing).register c.thing.id c.thing.name none 1 0).ended
          = some (time, .ok ⟨1, some Driver.heldCredentials⟩) := by
  intro c
  obtain ⟨-, -, registers, -, registered⟩ :=
    replies_within_size (c := c) rfl issuing 0 none (Horizon.reaches_none _)
  obtain ⟨succeeds, -⟩ := registered ⟨.success, some Driver.heldCredentials⟩ rfl
    (Channel.dispatch_writable issuing_writable _).1 (issuing_delivers (by decide))
  obtain ⟨time, -, soon, ended⟩ := succeeds (by decide)
  exact ⟨rfl, time, Nat.le_trans soon (by decide), ended 0⟩

/-- A configuration for frames of 78 bytes is valid, and its first call refuses credentials that
are delivered in time. -/
theorem issuing_refused :
    let c : Config := { gateway := { maxFrameSize := 78 } }
    let request := (Message.registerRequest ⟨c.thing.id, c.thing.name, by decide⟩).encode
    let channel := Channel.over issuing c.connection
    c.validate = .ok ()
      ∧ (channel.dispatch request).2.1 = none
      ∧ issuing.Delivers issuedReply (0 + c.connection.requestTimeout)
      ∧ ∃ time, (channel.call 0 none request).ended
        = some (time, .error (.frameTooLarge 79 78)) := by
  intro c request channel
  have sent : (channel.dispatch request).2.1 = none :=
    (Channel.dispatch_writable issuing_writable request).1
  have delivered : issuing.Delivers issuedReply (0 + c.connection.requestTimeout) :=
    issuing_delivers (by decide)
  obtain ⟨time, -, -, ended⟩ := call_received 0 sent (Horizon.reaches_none _) delivered
  exact ⟨rfl, sent, delivered, time, ended⟩

end Config

end ThingLink
