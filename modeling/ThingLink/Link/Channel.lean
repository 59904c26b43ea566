import ThingLink.Link.Receiver
import ThingLink.Link.Stream
import ThingLink.Link.Transport

/-!
# Channels

A channel carries calls over a byte stream.  A call writes its whole request,
then waits for one frame; a single deadline holds for the whole wait, however
the frame is cut up.  What has been received when a call ends stays with the
channel, so that a frame that came too late is completed by the next call.
-/

namespace ThingLink

def defaultMaxFrame : Nat := 100

def defaultPort : UInt16 := 8884

/-- How to connect to a gateway.  Spans are in milliseconds. -/
structure ConnectionSettings where
  host : String := "localhost"
  port : UInt16 := defaultPort
  connectTimeout : Nat := 10000
  requestTimeout : Nat := 10000
  maxFrameSize : Nat := defaultMaxFrame
  deriving DecidableEq

namespace ConnectionSettings

def address (s : ConnectionSettings) : String :=
  s.host ++ ":" ++ Text.decimal s.port.toNat

/-- The settings with another frame limit, moved to the nearest size that a frame
can have. -/
def withMaxFrameSize (s : ConnectionSettings) (size : Nat) : ConnectionSettings :=
  { s with maxFrameSize := max headerSize (min size maxFrame) }

theorem withMaxFrameSize_bounds (s : ConnectionSettings) (size : Nat) :
    headerSize ≤ (s.withMaxFrameSize size).maxFrameSize
      ∧ (s.withMaxFrameSize size).maxFrameSize ≤ maxFrame := by
  simp only [withMaxFrameSize, maxFrame, headerSize, maxPayload]
  omega

end ConnectionSettings

/-- A channel: a stream, the receiving side, and the two limits of a call. -/
structure Channel where
  stream : ByteStream
  timeout : Nat
  limit : Nat
  receiver : Receiver := {}

def Channel.over (stream : ByteStream) (settings : ConnectionSettings) : Channel :=
  { stream, timeout := settings.requestTimeout, limit := settings.maxFrameSize }

/-! ## Waiting for a frame -/

/-- What waiting for a frame came to: its end, if it has one within the horizon,
and what is left behind. -/
structure Waited where
  ended : Option (Nat × Reply)
  receiver : Receiver
  arrivals : List Arrival

/-- The end of a wait for which nothing more arrives in time: the deadline, unless
the horizon comes first. -/
def expire (deadline : Nat) (horizon : Horizon) : Option (Nat × Reply) :=
  if horizon.reaches deadline then some (deadline, .error .timeout) else none

def awaitFrame (limit deadline : Nat) (horizon : Horizon) (ends : Bool) :
    List Arrival → Nat → Receiver → Waited
  | arrivals, now, receiver =>
      match receiver.take limit with
      | (.frame bytes, receiver) => ⟨some (now, .ok bytes), receiver, arrivals⟩
      | (.tooLarge size, receiver) =>
          ⟨some (now, .error (.frameTooLarge size limit)), receiver, arrivals⟩
      | (.incomplete, receiver) =>
          match arrivals with
          | [] =>
              if ends then ⟨some (now, .error .connectionClosed), receiver, []⟩
              else ⟨expire deadline horizon, receiver, []⟩
          | next :: rest =>
              -- an arrival at the deadline itself still counts
              let due := max now next.due
              if due ≤ deadline && horizon.reaches due then
                match next.content with
                | .error e => ⟨some (due, .error (.ofIo e)), receiver, rest⟩
                -- a read of no bytes is the end of the stream
                | .ok [] => ⟨some (due, .error .connectionClosed), receiver, rest⟩
                | .ok bytes =>
                    awaitFrame limit deadline horizon ends rest due (receiver.receive bytes)
              else ⟨expire deadline horizon, receiver, next :: rest⟩

namespace Channel

/-! ## Calls -/

def popResult : List (Option IoError) → Option IoError × List (Option IoError)
  | [] => (none, [])
  | result :: rest => (result, rest)

/-- The channel after a request was written, and the error that stopped this. -/
def send (c : Channel) (request : List UInt8) : List (List UInt8) × Option IoError × Channel :=
  let written := writeAll c.stream.writes request
  let stream := { c.stream with writes := written.left }
  match written.failure with
  | some e => (written.pieces, some e, { c with stream })
  | none =>
      let (flushed, flushes) := popResult c.stream.flushes
      (written.pieces, flushed, { c with stream := { stream with flushes } })

def call (c : Channel) (now : Nat) (horizon : Horizon) (request : List UInt8) :
    Exchange Channel :=
  let (pieces, failure, c) := { c with receiver := c.receiver.forget }.send request
  let journal := pieces.map fun bytes => ⟨now, .write bytes⟩
  match failure with
  -- nothing is read for a request that was not sent
  | some e => ⟨some (now, .error (.ofIo e)), journal, c⟩
  | none =>
      let waited :=
        awaitFrame c.limit (now + c.timeout) horizon c.stream.ends c.stream.arrivals now c.receiver
      ⟨waited.ended, journal,
        { c with receiver := waited.receiver, stream := { c.stream with arrivals := waited.arrivals } }⟩

instance : Transport Channel := ⟨Channel.call⟩

def close (c : Channel) (now : Nat) : Except CallError Unit × Journal × Channel :=
  let (failure, shutdowns) := popResult c.stream.shutdowns
  let outcome := match failure with
    | some e => .error (.ofIo e)
    | none => .ok ()
  (outcome, [⟨now, .shutdown⟩], { c with stream := { c.stream with shutdowns } })

end Channel

end ThingLink
