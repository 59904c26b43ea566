import ThingLink.Config.Basic

/-!
# Fields of a configuration

The twelve values that make up a configuration, by name.  A configuration is what its fields are,
so that what is said of every field is said of the whole.
-/

namespace ThingLink.Config

inductive Field where
  | host
  | port
  | connectTimeout
  | requestTimeout
  | maxFrameSize
  | id
  | name
  | credentialsFile
  | schemaFile
  | dataFile
  | backoff
  | strict
  deriving DecidableEq, Repr

namespace Field

abbrev Value : Field → Type
  | host | name | credentialsFile => String
  | port => UInt16
  | connectTimeout | requestTimeout | maxFrameSize | id | backoff => UInt64
  | schemaFile | dataFile => Option String
  | strict => Bool

def get (c : Config) : (f : Field) → f.Value
  | host => c.gateway.host
  | port => c.gateway.port
  | connectTimeout => c.gateway.connectTimeout
  | requestTimeout => c.gateway.requestTimeout
  | maxFrameSize => c.gateway.maxFrameSize
  | id => c.thing.id
  | name => c.thing.name
  | credentialsFile => c.thing.credentialsFile
  | schemaFile => c.thing.schemaFile
  | dataFile => c.thing.dataFile
  | backoff => c.retry.backoff
  | strict => c.retry.strict

end Field

theorem ext_fields {c d : Config} (same : ∀ f : Field, f.get c = f.get d) : c = d := by
  obtain ⟨⟨host, port, connectTimeout, requestTimeout, maxFrameSize⟩,
    ⟨id, name, credentialsFile, schemaFile, dataFile⟩, ⟨backoff, strict⟩⟩ := c
  obtain rfl : host = d.gateway.host := same .host
  obtain rfl : port = d.gateway.port := same .port
  obtain rfl : connectTimeout = d.gateway.connectTimeout := same .connectTimeout
  obtain rfl : requestTimeout = d.gateway.requestTimeout := same .requestTimeout
  obtain rfl : maxFrameSize = d.gateway.maxFrameSize := same .maxFrameSize
  obtain rfl : id = d.thing.id := same .id
  obtain rfl : name = d.thing.name := same .name
  obtain rfl : credentialsFile = d.thing.credentialsFile := same .credentialsFile
  obtain rfl : schemaFile = d.thing.schemaFile := same .schemaFile
  obtain rfl : dataFile = d.thing.dataFile := same .dataFile
  obtain rfl : backoff = d.retry.backoff := same .backoff
  obtain rfl : strict = d.retry.strict := same .strict
  rfl

end ThingLink.Config
