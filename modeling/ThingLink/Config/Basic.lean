import ThingLink.Config.DeviceId
import ThingLink.Handshake.Policy
import ThingLink.Link.Channel

/-!
# Configurations

What a run can be told: which gateway to connect to, which thing to be, and when to
try again.  A configuration may be impossible to run with; `validate` says so.
-/

namespace ThingLink

open Text (decimal bytes)

def defaultDeviceId : UInt64 := 0x0123456789abcdef

/-- The gateway to connect to.  Timeouts are in seconds. -/
structure GatewayConfig where
  host : String := "localhost"
  port : UInt16 := defaultPort
  connectTimeout : UInt64 := 10
  requestTimeout : UInt64 := 10
  maxFrameSize : UInt64 := UInt64.ofNat defaultMaxFrame
  deriving DecidableEq

structure ThingConfig where
  id : UInt64 := defaultDeviceId
  name : String := "Test"
  credentialsFile : String := "storage.json"
  schemaFile : Option String := none
  dataFile : Option String := none
  deriving DecidableEq

structure RetryConfig where
  /-- The pause between attempts, in milliseconds. -/
  backoff : UInt64 := 2000
  strict : Bool := false
  deriving DecidableEq

structure Config where
  gateway : GatewayConfig := {}
  thing : ThingConfig := {}
  retry : RetryConfig := {}
  deriving DecidableEq

inductive ConfigProblem where
  | emptyHost
  | zeroPort
  | zeroTimeout
  | nameTooLong (length : Nat)
  deriving DecidableEq, Repr

def ConfigProblem.message : ConfigProblem → String
  | emptyHost => "gateway host must not be empty"
  | zeroPort => "gateway port must not be 0"
  | zeroTimeout => "request timeout must be at least 1 second"
  | nameTooLong length =>
      "thing name is " ++ decimal length ++ " bytes, max is " ++ decimal maxNameSize

namespace Config

/-- Checks that a configuration is possible to run with; the first problem wins. -/
def validate (c : Config) : Except ConfigProblem Unit :=
  if c.gateway.host.isEmpty then .error .emptyHost
  else if c.gateway.port = 0 then .error .zeroPort
  else if c.gateway.requestTimeout = 0 then .error .zeroTimeout
  else if maxNameSize < (bytes c.thing.name).length then
    .error (.nameTooLong (bytes c.thing.name).length)
  else .ok ()

def connection (c : Config) : ConnectionSettings :=
  let settings : ConnectionSettings :=
    { host := c.gateway.host
      port := c.gateway.port
      connectTimeout := c.gateway.connectTimeout.toNat * 1000
      requestTimeout := c.gateway.requestTimeout.toNat * 1000 }
  settings.withMaxFrameSize c.gateway.maxFrameSize.toNat

def policy (c : Config) : Policy :=
  if c.retry.strict then .strict else .lenient

end Config

end ThingLink
