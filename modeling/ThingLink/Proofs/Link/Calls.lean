import ThingLink.Link.Transport

/-!
# Calls that are kept

A call is what was asked of a transport: in which state it was, when, watched how far, and
with which request.  `Recorded` is a transport that keeps the calls made on it and is the
recorded transport in everything else.
-/

namespace ThingLink

structure Call (σ : Type) where
  before : σ
  start : Nat
  horizon : Horizon
  request : List UInt8

namespace Call

variable {σ : Type} [Transport σ]

def exchange (call : Call σ) : Exchange σ :=
  Transport.call call.before call.start call.horizon call.request

/-- The reply and its instant, or nothing for a call that was abandoned. -/
def ended (call : Call σ) : Option (Nat × Reply) :=
  call.exchange.ended

def reply? (call : Call σ) : Option Reply :=
  call.ended.map Prod.snd

def after (call : Call σ) : σ :=
  call.exchange.after

end Call

structure Recorded (σ : Type) where
  inner : σ
  /-- The calls made so far, the first one first. -/
  calls : List (Call σ) := []

namespace Recorded

variable {σ : Type} [Transport σ]

def call (t : Recorded σ) (now : Nat) (horizon : Horizon) (request : List UInt8) :
    Exchange (Recorded σ) :=
  let call : Call σ := ⟨t.inner, now, horizon, request⟩
  ⟨call.ended, call.exchange.journal, ⟨call.after, t.calls ++ [call]⟩⟩

instance : Transport (Recorded σ) := ⟨Recorded.call⟩

end Recorded

end ThingLink
