import ThingLink.Handshake.Driver
import ThingLink.Link.Channel

/-!
# Handshakes within a time limit

A handshake has no last attempt of its own, so one that is watched for a while
is given as many attempts as can possibly happen in that while.  Between two
attempts the clock moves on by the backoff; without a backoff, an attempt that
takes no time uses up something that the transport holds in stock.
-/

namespace ThingLink

/-- A transport that can count its stock: how many calls it may end without any
time passing, one after the other. -/
class Supplied (σ : Type) extends Transport σ where
  stock : σ → Nat

instance : Supplied ReplyScript where
  stock script := script.left.length

def Arrival.weight (a : Arrival) : Nat :=
  match a.content with
  | .ok bytes => bytes.length + 1
  | .error _ => 1

instance : Supplied Channel where
  stock c := c.receiver.buffer.length + c.stream.arrivals.foldr (·.weight + ·) 0
    + c.stream.writes.length + c.stream.flushes.length

namespace Driver

variable {σ : Type} [Supplied σ]

/-- As many attempts as can happen within `limit` milliseconds. -/
def attemptsWithin (d : Driver σ) (limit : Nat) : Nat :=
  -- without a pause the clock or the stock has to move for another attempt
  if d.backoff = 0 then limit + Supplied.stock d.transport + 1 else limit / d.backoff + 1

def registerWithin (d : Driver σ) (deviceId : UInt64) (deviceName : String) (now limit : Nat) :
    Progress σ Registration :=
  d.register deviceId deviceName (some (now + limit)) (d.attemptsWithin limit) now

def authenticateWithin (d : Driver σ) (credentials : Credentials) (now limit : Nat) :
    Progress σ Nat :=
  d.authenticate credentials (some (now + limit)) (d.attemptsWithin limit) now

end Driver

end ThingLink
