import ThingLink.Link.Error
import ThingLink.Link.Journal

/-!
# Transports

A transport carries one request and brings back one reply.  Time passes only
while it waits.  A caller may watch up to a `Horizon`: work that is due exactly
then is still done, and a wait that would last longer is cut off there.
`ReplyScript` is the simplest transport: it answers from a list.
-/

namespace ThingLink

/-- The last instant that is watched; `none` never ends. -/
abbrev Horizon := Option Nat

def Horizon.reaches (h : Horizon) (time : Nat) : Bool :=
  match h with
  | none => true
  | some last => time ≤ last

@[simp] theorem Horizon.reaches_none (time : Nat) : reaches none time = true :=
  rfl

/-- The outcome of a call at the transport: raw reply bytes, or an error. -/
abbrev Reply := Except CallError (List UInt8)

structure Exchange (σ : Type) where
  /-- The reply and its instant, or nothing if the call is still waiting. -/
  ended : Option (Nat × Reply)
  journal : Journal
  after : σ

class Transport (σ : Type) where
  /-- Carries a request from the instant `now` on, watched up to a horizon. -/
  call (transport : σ) (now : Nat) (horizon : Horizon) (request : List UInt8) : Exchange σ

/-! ## Replies from a list -/

structure ScriptedReply where
  delay : Nat
  reply : Reply

/-- A transport that answers from a list.  When the list is used up, every call
times out at once. -/
structure ReplyScript where
  left : List ScriptedReply

def ReplyScript.call (script : ReplyScript) (now : Nat) (horizon : Horizon)
    (request : List UInt8) : Exchange ReplyScript :=
  let journal := [⟨now, .request request⟩]
  match script.left with
  -- there is nothing to wait for, so the timeout takes no time
  | [] => ⟨some (now, .error .timeout), journal, script⟩
  | next :: rest =>
      let due := now + next.delay
      ⟨if horizon.reaches due then some (due, next.reply) else none, journal, ⟨rest⟩⟩

instance : Transport ReplyScript := ⟨ReplyScript.call⟩

end ThingLink
