import ThingLink.Config.Basic

/-!
# Layers of a configuration

A configuration starts from the defaults or a file.  Variables of the environment go
over it, and flags of the command line over those.  A variable that does not read as
a value of its field changes nothing.
-/

namespace ThingLink

open Text (readUnsigned readBool?)

/-! ## Texts as values -/

def readPort? (text : String) : Option UInt16 :=
  (readUnsigned 10 UInt16.size text.toList).toOption.map UInt16.ofNat

def readWord? (text : String) : Option UInt64 :=
  (readUnsigned 10 UInt64.size text.toList).toOption.map UInt64.ofNat

def readDeviceId? (text : String) : Option UInt64 :=
  (readDeviceId text).toOption

/-! ## Variables -/

abbrev Variables := String → Option String

namespace Config

def variableNames : List String :=
  ["KNOT_THING_HOST", "KNOT_THING_PORT", "KNOT_THING_CONNECT_TIMEOUT", "KNOT_THING_TIMEOUT",
   "KNOT_THING_MAX_FRAME_SIZE", "KNOT_THING_ID", "KNOT_THING_NAME", "KNOT_THING_CREDENTIALS",
   "KNOT_THING_SCHEMA", "KNOT_THING_DATA", "KNOT_THING_BACKOFF_MS", "KNOT_THING_RETRY_STRICT"]

/-- The configuration with variables over it. -/
def withVariables (c : Config) (lookup : Variables) : Config where
  gateway :=
    { host := (lookup "KNOT_THING_HOST").getD c.gateway.host
      port := ((lookup "KNOT_THING_PORT").bind readPort?).getD c.gateway.port
      connectTimeout :=
        ((lookup "KNOT_THING_CONNECT_TIMEOUT").bind readWord?).getD c.gateway.connectTimeout
      requestTimeout :=
        ((lookup "KNOT_THING_TIMEOUT").bind readWord?).getD c.gateway.requestTimeout
      maxFrameSize :=
        ((lookup "KNOT_THING_MAX_FRAME_SIZE").bind readWord?).getD c.gateway.maxFrameSize }
  thing :=
    { id := ((lookup "KNOT_THING_ID").bind readDeviceId?).getD c.thing.id
      name := (lookup "KNOT_THING_NAME").getD c.thing.name
      credentialsFile := (lookup "KNOT_THING_CREDENTIALS").getD c.thing.credentialsFile
      schemaFile := (lookup "KNOT_THING_SCHEMA").or c.thing.schemaFile
      dataFile := (lookup "KNOT_THING_DATA").or c.thing.dataFile }
  retry :=
    { backoff := ((lookup "KNOT_THING_BACKOFF_MS").bind readWord?).getD c.retry.backoff
      strict := ((lookup "KNOT_THING_RETRY_STRICT").bind readBool?).getD c.retry.strict }

end Config

/-! ## Flags -/

structure Flags where
  credentialsFile : Option String := none
  id : Option UInt64 := none
  name : Option String := none
  schema : Option String := none
  data : Option String := none
  host : Option String := none
  port : Option UInt16 := none
  timeout : Option UInt64 := none
  backoff : Option UInt64 := none
  strict : Bool := false
  config : Option String := none
  /-- Whether to leave after the handshake. -/
  once : Bool := false
  debug : Bool := false
  deriving DecidableEq

namespace Config

/-- The configuration with flags over it. -/
def withFlags (c : Config) (flags : Flags) : Config where
  gateway :=
    { c.gateway with
      host := flags.host.getD c.gateway.host
      port := flags.port.getD c.gateway.port
      requestTimeout := flags.timeout.getD c.gateway.requestTimeout }
  thing :=
    { id := flags.id.getD c.thing.id
      name := flags.name.getD c.thing.name
      credentialsFile := flags.credentialsFile.getD c.thing.credentialsFile
      schemaFile := flags.schema.or c.thing.schemaFile
      dataFile := flags.data.or c.thing.dataFile }
  retry :=
    { backoff := flags.backoff.getD c.retry.backoff
      strict := flags.strict || c.retry.strict }

end Config

end ThingLink
