import ThingLink.Link.Method

/-!
# What can go wrong in a call

A call to the gateway fails in one of the ways of `CallError`; some of them may
pass when the same request is sent again on the same channel (`isRetryable`).
-/

namespace ThingLink

open Text (decimal)

inductive IoKind where
  | unexpectedEof
  | connectionReset
  | brokenPipe
  | interrupted
  | other
  deriving DecidableEq, Repr

structure IoError where
  kind : IoKind
  text : String
  deriving DecidableEq, Repr

def IoError.endsConnection (e : IoError) : Bool :=
  match e.kind with
  | .unexpectedEof | .connectionReset | .brokenPipe => true
  | .interrupted | .other => false

inductive CallError where
  | connect (address : String) (cause : IoError)
  | io (cause : IoError)
  | connectionClosed
  | timeout
  | frameTooLarge (size max : Nat)
  | decode (cause : DecodeError)
  | protocol (cause : ProtocolError)
  | unexpectedResponse (method : Method) (got : MessageKind)
  deriving DecidableEq, Repr

namespace CallError

/-- The error of a call whose stream failed: a lost connection has a name of its
own, all else is passed on. -/
def ofIo (e : IoError) : CallError :=
  if e.endsConnection then connectionClosed else io e

/-- Whether the same request may succeed when it is sent again on the channel. -/
def isRetryable : CallError → Bool
  | timeout | decode _ | frameTooLarge .. | unexpectedResponse .. => true
  | connect .. | io _ | connectionClosed | protocol _ => false

def message : CallError → String
  | connect address cause => "failed to connect to " ++ address ++ ": " ++ cause.text
  | io cause => "I/O error: " ++ cause.text
  | connectionClosed => "connection closed"
  | timeout => "request timeout"
  | frameTooLarge size max =>
      "frame too large: " ++ decimal size ++ " bytes (max " ++ decimal max ++ ")"
  | decode cause => "decode error: " ++ cause.message
  | protocol cause => "protocol error: " ++ cause.message
  | unexpectedResponse method got =>
      "unexpected response to " ++ method.name ++ ": got " ++ got.name

/-- The wordings of the errors behind this one, outermost first. -/
def causes : CallError → List String
  | connect _ cause => [cause.text]
  | io cause => [cause.text]
  | decode cause => [cause.message]
  | protocol cause => cause.message :: cause.causes
  | connectionClosed | timeout | frameTooLarge .. | unexpectedResponse .. => []

theorem ofIo_eq (e : IoError) :
    ofIo e = if e.kind ∈ [.unexpectedEof, .connectionReset, .brokenPipe] then connectionClosed
      else io e := by
  rw [ofIo, IoError.endsConnection]
  cases e.kind <;> rfl

theorem isRetryable_ofIo (e : IoError) : (ofIo e).isRetryable = false := by
  unfold ofIo
  split <;> rfl

end CallError

end ThingLink
