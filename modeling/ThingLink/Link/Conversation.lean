import ThingLink.Link.Channel

/-!
# Conversations with a gateway

A gateway that answers the requests of one connection from a list: the first request
with the first reply, and so on.  A reply is any bytes at all.  When a request finds
no reply left, the gateway hangs up.
-/

namespace ThingLink

class Connection (σ : Type) extends Transport σ where
  close (connection : σ) (now : Nat) : Except CallError Unit × Journal × σ

instance : Connection Channel := ⟨Channel.close⟩

/-- A channel to a gateway that answers from a list. -/
structure Conversation where
  channel : Channel
  replies : List (List UInt8)
  heard : List (List UInt8) := []

namespace Conversation

def opened (settings : ConnectionSettings) (replies : List (List UInt8)) : Conversation :=
  ⟨Channel.over {} settings, replies, []⟩

/-- The conversation once the gateway has dealt with a request at an instant. -/
def answer (c : Conversation) (now : Nat) (request : List UInt8) : Conversation :=
  let stream := c.channel.stream
  if stream.ends then c
  else
    let (stream, replies) :=
      match c.replies with
      | [] => ({ stream with ends := true }, [])
      -- a reply of no bytes is silence, not the end of the stream
      | [] :: replies => (stream, replies)
      | reply :: replies =>
          ({ stream with arrivals := stream.arrivals ++ [⟨now, .ok reply⟩] }, replies)
    ⟨{ c.channel with stream }, replies, c.heard ++ [request]⟩

def call (c : Conversation) (now : Nat) (horizon : Horizon) (request : List UInt8) :
    Exchange Conversation :=
  let c := c.answer now request
  let exchange := c.channel.call now horizon request
  ⟨exchange.ended, exchange.journal, { c with channel := exchange.after }⟩

def close (c : Conversation) (now : Nat) : Except CallError Unit × Journal × Conversation :=
  let (outcome, journal, channel) := c.channel.close now
  (outcome, journal, { c with channel })

instance : Connection Conversation where
  call := call
  close := close

end Conversation

/-! ## Connecting -/

namespace LogLine

def connectionSource : String := "knot_thing_client::connection"

def connecting (s : ConnectionSettings) : LogLine :=
  ⟨.info, connectionSource, "Connecting to " ++ s.address⟩

end LogLine

namespace IoError

def refused : IoError :=
  ⟨.other, "Connection refused (os error 111)"⟩

def timedOut : IoError :=
  ⟨.other, "timed out"⟩

end IoError

def connected {σ : Type} (s : ConnectionSettings) : Except IoError σ → Except CallError σ
  | .ok connection => .ok connection
  | .error e => .error (.connect s.address e)

end ThingLink
