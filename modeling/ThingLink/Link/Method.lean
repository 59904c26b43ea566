import ThingLink.Wire.Message

/-!
# Methods

The two operations that a thing asks of its gateway.  Each has a request, a kind
of response, and a name in texts; `Method.response?` picks the response of a
method out of a message, and `response?_eq_some_iff` says that it picks nothing
else.
-/

namespace ThingLink

inductive Method where
  | registerThing
  | authThing
  deriving DecidableEq, Repr

namespace Method

def name : Method → String
  | registerThing => "register_thing"
  | authThing => "auth_thing"

abbrev Request : Method → Type
  | registerThing => RegisterRequest
  | authThing => AuthRequest

abbrev Response : Method → Type
  | registerThing => RegisterResponse
  | authThing => AuthResponse

def requestMessage : (m : Method) → m.Request → Message
  | registerThing, r => .registerRequest r
  | authThing, r => .authRequest r

def responseMessage : (m : Method) → m.Response → Message
  | registerThing, r => .registerResponse r
  | authThing, r => .authResponse r

def response? : (m : Method) → Message → Option m.Response
  | registerThing, .registerResponse r => some r
  | authThing, .authResponse r => some r
  | _, _ => none

def result : (m : Method) → m.Response → ResultCode
  | registerThing, r => r.result
  | authThing, r => r.result

theorem response?_eq_some_iff {m : Method} {message : Message} {r : m.Response} :
    m.response? message = some r ↔ message = m.responseMessage r := by
  cases m <;> cases message <;> simp [response?, responseMessage]

end Method

end ThingLink
