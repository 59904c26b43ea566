import ThingLink.Config.Basic
import ThingLink.Text.Shown
import ThingLink.Yaml.Printer

/-!
# Configurations in YAML

A configuration is a mapping of three sections, each of which is a mapping of its
fields.  What is left out keeps its default, and unknown keys do not matter.
`Config.toNode` gives every field, in a fixed order.
-/

namespace ThingLink

open Text (decimal shown floatText)
open Yaml (Node Scalar)

structure DocumentFault where
  /-- The keys on the way to the fault, with points between them. -/
  path : String
  text : String
  deriving DecidableEq, Repr

def DocumentFault.message (f : DocumentFault) : String :=
  if f.path.isEmpty then f.text else f.path ++ ": " ++ f.text

namespace Yaml

def Scalar.describe : Scalar → String
  | .quoted text => "string " ++ shown text
  | .plain text =>
      match meaning text with
      | .null => "unit value"
      | .bool b => if b then "boolean `true`" else "boolean `false`"
      | .natural n => describeInteger n
      | .signed i => describeInteger i
      | .float x => "floating point `" ++ floatText floatStyle x ++ "`"
      | .text => "string " ++ shown text

def Node.describe : Node → String
  | .scalar s => s.describe
  | .sequence _ => "sequence"
  | .mapping _ => "map"

def Node.wrongKind {α : Type} (n : Node) (path expected : String) : Except DocumentFault α :=
  .error ⟨path, "invalid type: " ++ n.describe ++ ", expected " ++ expected⟩

/-! ## Fields -/

/-- A text, whatever its scalar would mean elsewhere. -/
def Node.asText (expected path : String) : Node → Except DocumentFault String
  | .scalar s => .ok s.text
  | n => n.wrongKind path expected

def Node.asOptionalText (expected path : String) : Node → Except DocumentFault (Option String)
  | .scalar (.plain text) => .ok (if isNull text then none else some text)
  | n => (n.asText expected path).map some

def Node.asNatural (bound : Nat) (name path : String) (n : Node) : Except DocumentFault Nat :=
  match n with
  | .scalar (.plain text) =>
      match natural? wordBound text with
      | some k =>
          if k < bound then .ok k
          else .error ⟨path, "invalid value: integer `" ++ decimal k ++ "`, expected " ++ name⟩
      | none => n.wrongKind path name
  | _ => n.wrongKind path name

def Node.asBool (path : String) (n : Node) : Except DocumentFault Bool :=
  match n with
  | .scalar (.plain text) =>
      match bool? text with
      | some b => .ok b
      | none => n.wrongKind path "a boolean"
  | _ => n.wrongKind path "a boolean"

/-- A device id, as a number or as a text.  The faults of a value that is neither are
those of the section around it. -/
def Node.asDeviceId (owner path : String) (n : Node) : Except DocumentFault UInt64 :=
  let ofText (text : String) : Except DocumentFault UInt64 :=
    match readDeviceId text with
    | .ok id => .ok id
    | .error e => .error ⟨owner, e.message⟩
  let neither : Except DocumentFault UInt64 :=
    .error ⟨owner, "data did not match any variant of untagged enum RawId"⟩
  match n with
  | .scalar (.quoted text) => ofText text
  | .scalar (.plain text) =>
      match meaning text with
      | .text => ofText text
      | .natural k => if k < wordBound then .ok (UInt64.ofNat k) else n.wrongKind path "any value"
      | .signed i =>
          if i = 0 then .ok 0
          else if i < Int64.minValue.toInt then n.wrongKind path "any value"
          else neither
      | _ => neither
  | _ => neither

/-! ## Sections -/

structure Setting (σ : Type) where
  name : String
  /-- Reads the field into a section; the paths are those of the section and the field. -/
  read : (owner path : String) → Node → σ → Except DocumentFault σ

def joinPath (owner name : String) : String :=
  if owner.isEmpty then name else owner ++ "." ++ name

/-- Reads the entries of a section.  Known keys come once. -/
def readEntries {σ : Type} (owner : String) (settings : List (Setting σ)) (seen : List String)
    (value : σ) : List (Node × Node) → Except DocumentFault σ
  | [] => .ok value
  | (key, content) :: rest => do
      let name ← key.asText "field identifier" owner
      match settings.find? (·.name = name) with
      | none => readEntries owner settings seen value rest
      | some setting =>
          if seen.contains name then
            .error ⟨owner, "duplicate field `" ++ name ++ "`"⟩
          else
            let value ← setting.read owner (joinPath owner name) content value
            readEntries owner settings (name :: seen) value rest

/-- Reads a section.  Where nothing stands, it is all defaults. -/
def readSection {σ : Type} (kind : String) (settings : List (Setting σ)) (defaults : σ)
    (path : String) (n : Node) : Except DocumentFault σ :=
  match n with
  | .mapping entries => readEntries path settings [] defaults entries
  | .scalar (.plain "") => .ok defaults
  | n => n.wrongKind path ("struct " ++ kind)

end Yaml

open Yaml (Setting readSection)

/-! ## Reading configurations -/

namespace GatewayConfig

def settings : List (Setting GatewayConfig) :=
  [⟨"host", fun _ path n c => do pure { c with host := ← n.asText "a string" path }⟩,
   ⟨"port", fun _ path n c => do
      pure { c with port := UInt16.ofNat (← n.asNatural UInt16.size "u16" path) }⟩,
   ⟨"connect_timeout_secs", fun _ path n c => do
      pure { c with connectTimeout := UInt64.ofNat (← n.asNatural Yaml.wordBound "u64" path) }⟩,
   ⟨"request_timeout_secs", fun _ path n c => do
      pure { c with requestTimeout := UInt64.ofNat (← n.asNatural Yaml.wordBound "u64" path) }⟩,
   ⟨"max_frame_size", fun _ path n c => do
      pure { c with maxFrameSize := UInt64.ofNat (← n.asNatural Yaml.wordBound "usize" path) }⟩]

end GatewayConfig

namespace ThingConfig

def settings : List (Setting ThingConfig) :=
  [⟨"id", fun owner path n c => do pure { c with id := ← n.asDeviceId owner path }⟩,
   ⟨"name", fun _ path n c => do pure { c with name := ← n.asText "a string" path }⟩,
   ⟨"credentials_file", fun _ path n c => do
      pure { c with credentialsFile := ← n.asText "path string" path }⟩,
   ⟨"schema_file", fun _ path n c => do
      pure { c with schemaFile := ← n.asOptionalText "path string" path }⟩,
   ⟨"data_file", fun _ path n c => do
      pure { c with dataFile := ← n.asOptionalText "path string" path }⟩]

end ThingConfig

namespace RetryConfig

def settings : List (Setting RetryConfig) :=
  [⟨"backoff_ms", fun _ path n c => do
      pure { c with backoff := UInt64.ofNat (← n.asNatural Yaml.wordBound "u64" path) }⟩,
   ⟨"strict", fun _ path n c => do pure { c with strict := ← n.asBool path }⟩]

end RetryConfig

namespace Config

def settings : List (Setting Config) :=
  [⟨"gateway", fun _ path n c => do
      pure { c with gateway := ← readSection "GatewayConfig" GatewayConfig.settings {} path n }⟩,
   ⟨"thing", fun _ path n c => do
      pure { c with thing := ← readSection "ThingConfig" ThingConfig.settings {} path n }⟩,
   ⟨"retry", fun _ path n c => do
      pure { c with retry := ← readSection "RetryConfig" RetryConfig.settings {} path n }⟩]

def ofNode (n : Node) : Except DocumentFault Config :=
  readSection "Config" settings {} "" n

/-! ## Writing configurations -/

def numberScalar (n : Nat) : Scalar :=
  .plain (decimal n)

def optionalScalar : Option String → Scalar
  | some text => .quoted text
  | none => .plain "null"

def sections (c : Config) : List (String × List (String × Scalar)) :=
  [("gateway",
      [("host", .quoted c.gateway.host),
       ("port", numberScalar c.gateway.port.toNat),
       ("connect_timeout_secs", numberScalar c.gateway.connectTimeout.toNat),
       ("request_timeout_secs", numberScalar c.gateway.requestTimeout.toNat),
       ("max_frame_size", numberScalar c.gateway.maxFrameSize.toNat)]),
   ("thing",
      [("id", .quoted (deviceIdText c.thing.id)),
       ("name", .quoted c.thing.name),
       ("credentials_file", .quoted c.thing.credentialsFile),
       ("schema_file", optionalScalar c.thing.schemaFile),
       ("data_file", optionalScalar c.thing.dataFile)]),
   ("retry",
      [("backoff_ms", numberScalar c.retry.backoff.toNat),
       ("strict", .plain (if c.retry.strict then "true" else "false"))])]

def toNode (c : Config) : Node :=
  Node.ofSections c.sections

def print (c : Config) : String :=
  Yaml.printSections c.sections

end Config

end ThingLink
