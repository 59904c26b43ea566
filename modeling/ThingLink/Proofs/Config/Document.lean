import ThingLink.Proofs.Config.Fields
import ThingLink.Proofs.Yaml.Entries

/-!
# Configurations written and read back

A configuration is read back from the mapping that it is written to.  Where keys of the mapping
are deleted, whole sections or single fields of them, exactly the fields that these keys hold are
read as their defaults.
-/

namespace ThingLink

open Yaml

/-! ## Deleted keys -/

namespace Yaml

def Node.keyText : Node → String
  | .scalar s => s.text
  | _ => ""

/-- A mapping with only some of its keys. -/
def Node.keepKeys (kept : String → Bool) : Node → Node
  | .mapping entries => .mapping (entries.filter fun entry => kept entry.1.keyText)
  | n => n

/-- Keys that are deleted from a document of sections. -/
structure Deletion where
  sections : List String
  /-- Fields, each by the name of its section and its own. -/
  fields : List (String × String)

namespace Deletion

def keepsSection (d : Deletion) (name : String) : Bool :=
  !d.sections.contains name

def keepsField (d : Deletion) (name key : String) : Bool :=
  !d.fields.contains (name, key)

/-- What is left of a document. -/
def remaining (d : Deletion) : Node → Node
  | .mapping entries =>
      .mapping ((entries.filter fun entry => d.keepsSection entry.1.keyText).map
        fun (key, content) => (key, content.keepKeys (d.keepsField key.keyText)))
  | n => n

end Deletion

end Yaml

/-! ## Scalars read back -/

section Scalars

variable (owner path : String)

theorem asNatural_numberScalar {bound n : Nat} (name : String) (fits : n < bound)
    (word : bound ≤ wordBound) :
    (Node.scalar (Config.numberScalar n)).asNatural bound name path = .ok n := by
  have read := natural?_decimal (Nat.lt_of_lt_of_le fits word)
  simp only [Config.numberScalar, Node.asNatural, read, fits, if_true]

theorem asWord_numberScalar (name : String) (n : UInt64) :
    (Node.scalar (Config.numberScalar n.toNat)).asNatural wordBound name path = .ok n.toNat :=
  asNatural_numberScalar path name n.toNat_lt (Nat.le_refl _)

theorem asDeviceId_deviceIdText (id : UInt64) :
    (Node.scalar (.quoted (deviceIdText id))).asDeviceId owner path = .ok id := by
  simp only [Node.asDeviceId, readDeviceId_deviceIdText]

theorem asOptionalText_optionalScalar (expected : String) (text : Option String) :
    (Node.scalar (Config.optionalScalar text)).asOptionalText expected path = .ok text := by
  cases text with
  | none => rfl
  | some text => rfl

theorem asBool_strict (b : Bool) :
    (Node.scalar (.plain (if b then "true" else "false"))).asBool path = .ok b := by
  cases b <;> rfl

end Scalars

/-! ## Sections as rows -/

theorem bind_pure_of_ok {ε α β : Type} {read : Except ε α} {a : α} {put : α → β} {b : β}
    (found : read = .ok a) (same : put a = b) : (do pure (put (← read))) = Except.ok b := by
  rw [found, ← same]
  rfl

namespace GatewayConfig

def rows (c : GatewayConfig) : List (Row GatewayConfig) :=
  [⟨"host", .scalar (.quoted c.host), fun g => { g with host := c.host }⟩,
   ⟨"port", .scalar (Config.numberScalar c.port.toNat), fun g => { g with port := c.port }⟩,
   ⟨"connect_timeout_secs", .scalar (Config.numberScalar c.connectTimeout.toNat),
      fun g => { g with connectTimeout := c.connectTimeout }⟩,
   ⟨"request_timeout_secs", .scalar (Config.numberScalar c.requestTimeout.toNat),
      fun g => { g with requestTimeout := c.requestTimeout }⟩,
   ⟨"max_frame_size", .scalar (Config.numberScalar c.maxFrameSize.toNat),
      fun g => { g with maxFrameSize := c.maxFrameSize }⟩]

theorem rows_read (c : GatewayConfig) : ∀ row ∈ c.rows, row.Reads settings := by
  simp only [rows, List.forall_mem_cons]
  refine ⟨⟨_, rfl, ?_⟩, ⟨_, rfl, ?_⟩, ⟨_, rfl, ?_⟩, ⟨_, rfl, ?_⟩, ⟨_, rfl, ?_⟩, nofun⟩
  · intro owner path record
    rfl
  · intro owner path record
    exact bind_pure_of_ok (asNatural_numberScalar path "u16" c.port.toNat_lt (by decide))
      (by rw [UInt16.ofNat_toNat])
  · intro owner path record
    exact bind_pure_of_ok (asWord_numberScalar path "u64" _) (by rw [UInt64.ofNat_toNat])
  · intro owner path record
    exact bind_pure_of_ok (asWord_numberScalar path "u64" _) (by rw [UInt64.ofNat_toNat])
  · intro owner path record
    exact bind_pure_of_ok (asWord_numberScalar path "usize" _) (by rw [UInt64.ofNat_toNat])

theorem rows_legible (c : GatewayConfig) : Row.Legible settings c.rows where
  reads := c.rows_read
  distinct := (by decide : ["host", "port", "connect_timeout_secs", "request_timeout_secs",
    "max_frame_size"].Nodup)

theorem rows_hold (c : GatewayConfig) :
    Row.Hold c.rows "host" host c.host
      ∧ Row.Hold c.rows "port" port c.port
      ∧ Row.Hold c.rows "connect_timeout_secs" connectTimeout c.connectTimeout
      ∧ Row.Hold c.rows "request_timeout_secs" requestTimeout c.requestTimeout
      ∧ Row.Hold c.rows "max_frame_size" maxFrameSize c.maxFrameSize := by
  refine ⟨⟨?_, ?_⟩, ⟨?_, ?_⟩, ⟨?_, ?_⟩, ⟨?_, ?_⟩, ⟨?_, ?_⟩⟩ <;> simp [rows]

end GatewayConfig

namespace ThingConfig

def rows (c : ThingConfig) : List (Row ThingConfig) :=
  [⟨"id", .scalar (.quoted (deviceIdText c.id)), fun t => { t with id := c.id }⟩,
   ⟨"name", .scalar (.quoted c.name), fun t => { t with name := c.name }⟩,
   ⟨"credentials_file", .scalar (.quoted c.credentialsFile),
      fun t => { t with credentialsFile := c.credentialsFile }⟩,
   ⟨"schema_file", .scalar (Config.optionalScalar c.schemaFile),
      fun t => { t with schemaFile := c.schemaFile }⟩,
   ⟨"data_file", .scalar (Config.optionalScalar c.dataFile),
      fun t => { t with dataFile := c.dataFile }⟩]

theorem rows_read (c : ThingConfig) : ∀ row ∈ c.rows, row.Reads settings := by
  simp only [rows, List.forall_mem_cons]
  refine ⟨⟨_, rfl, ?_⟩, ⟨_, rfl, ?_⟩, ⟨_, rfl, ?_⟩, ⟨_, rfl, ?_⟩, ⟨_, rfl, ?_⟩, nofun⟩
  · intro owner path record
    exact bind_pure_of_ok (asDeviceId_deviceIdText owner path c.id) rfl
  · intro owner path record
    rfl
  · intro owner path record
    rfl
  · intro owner path record
    exact bind_pure_of_ok (asOptionalText_optionalScalar path "path string" c.schemaFile) rfl
  · intro owner path record
    exact bind_pure_of_ok (asOptionalText_optionalScalar path "path string" c.dataFile) rfl

theorem rows_legible (c : ThingConfig) : Row.Legible settings c.rows where
  reads := c.rows_read
  distinct := (by decide : ["id", "name", "credentials_file", "schema_file", "data_file"].Nodup)

theorem rows_hold (c : ThingConfig) :
    Row.Hold c.rows "id" id c.id
      ∧ Row.Hold c.rows "name" name c.name
      ∧ Row.Hold c.rows "credentials_file" credentialsFile c.credentialsFile
      ∧ Row.Hold c.rows "schema_file" schemaFile c.schemaFile
      ∧ Row.Hold c.rows "data_file" dataFile c.dataFile := by
  refine ⟨⟨?_, ?_⟩, ⟨?_, ?_⟩, ⟨?_, ?_⟩, ⟨?_, ?_⟩, ⟨?_, ?_⟩⟩ <;> simp [rows]

end ThingConfig

namespace RetryConfig

def rows (c : RetryConfig) : List (Row RetryConfig) :=
  [⟨"backoff_ms", .scalar (Config.numberScalar c.backoff.toNat),
      fun r => { r with backoff := c.backoff }⟩,
   ⟨"strict", .scalar (.plain (if c.strict then "true" else "false")),
      fun r => { r with strict := c.strict }⟩]

theorem rows_read (c : RetryConfig) : ∀ row ∈ c.rows, row.Reads settings := by
  simp only [rows, List.forall_mem_cons]
  refine ⟨⟨_, rfl, ?_⟩, ⟨_, rfl, ?_⟩, nofun⟩
  · intro owner path record
    exact bind_pure_of_ok (asWord_numberScalar path "u64" _) (by rw [UInt64.ofNat_toNat])
  · intro owner path record
    exact bind_pure_of_ok (asBool_strict path c.strict) rfl

theorem rows_legible (c : RetryConfig) : Row.Legible settings c.rows where
  reads := c.rows_read
  distinct := (by decide : ["backoff_ms", "strict"].Nodup)

theorem rows_hold (c : RetryConfig) :
    Row.Hold c.rows "backoff_ms" backoff c.backoff
      ∧ Row.Hold c.rows "strict" strict c.strict := by
  refine ⟨⟨?_, ?_⟩, ⟨?_, ?_⟩⟩ <;> simp [rows]

end RetryConfig

/-! ## What is left of a section -/

namespace Yaml

variable {ρ : Type}

/-- The rows of a section that are left. -/
def Deletion.keptRows (d : Deletion) (name : String) (rows : List (Row ρ)) : List (Row ρ) :=
  rows.filter fun row => d.keepsField name row.name

/-- A section that is left, with what is left of it. -/
def Deletion.sectionRow (d : Deletion) (name : String) (rows : List (Row ρ)) (defaults : ρ)
    (put : ρ → Config → Config) : Row Config :=
  ⟨name, .mapping ((d.keptRows name rows).map Row.entry),
    put (Row.overlay (d.keptRows name rows) defaults)⟩

theorem keepKeys_rows (kept : String → Bool) (rows : List (Row ρ)) :
    (Node.mapping (rows.map Row.entry)).keepKeys kept
      = .mapping ((rows.filter fun row => kept row.name).map Row.entry) := by
  rw [Node.keepKeys, List.filter_map]
  rfl

end Yaml

/-! ## Whole configurations -/

namespace Config

/-- The sections of a configuration, without the deleted fields of each. -/
def sectionRows (c : Config) (d : Deletion) : List (Row Config) :=
  [d.sectionRow "gateway" c.gateway.rows {} fun g e => { e with gateway := g },
   d.sectionRow "thing" c.thing.rows {} fun t e => { e with thing := t },
   d.sectionRow "retry" c.retry.rows {} fun r e => { e with retry := r }]

section Reading

variable (c : Config) (d : Deletion)

theorem sectionRows_read : ∀ row ∈ c.sectionRows d, row.Reads settings := by
  simp only [sectionRows, List.forall_mem_cons]
  refine ⟨⟨_, rfl, ?_⟩, ⟨_, rfl, ?_⟩, ⟨_, rfl, ?_⟩, nofun⟩
  · intro owner path record
    exact bind_pure_of_ok ((c.gateway.rows_legible.filter _).readSection "GatewayConfig" path {}) rfl
  · intro owner path record
    exact bind_pure_of_ok ((c.thing.rows_legible.filter _).readSection "ThingConfig" path {}) rfl
  · intro owner path record
    exact bind_pure_of_ok ((c.retry.rows_legible.filter _).readSection "RetryConfig" path {}) rfl

theorem sectionRows_legible : Row.Legible settings (c.sectionRows d) where
  reads := c.sectionRows_read d
  distinct := (by decide : ["gateway", "thing", "retry"].Nodup)

theorem remaining_toNode :
    d.remaining c.toNode
      = .mapping (((c.sectionRows d).filter fun row => d.keepsSection row.name).map Row.entry) := by
  have written : c.toNode = .mapping
      [(.scalar (.plain "gateway"), .mapping (c.gateway.rows.map Row.entry)),
        (.scalar (.plain "thing"), .mapping (c.thing.rows.map Row.entry)),
        (.scalar (.plain "retry"), .mapping (c.retry.rows.map Row.entry))] := rfl
  rw [written]
  simp only [Deletion.remaining, Node.keyText, Scalar.text, sectionRows, Deletion.sectionRow,
    List.filter_cons]
  -- each of the sections is left or deleted as a whole
  cases d.keepsSection "gateway" <;> cases d.keepsSection "thing" <;>
    cases d.keepsSection "retry" <;>
    simp [Row.entry, keepKeys_rows, Deletion.keptRows]

/-- What is read back when some keys are deleted. -/
def withDefaults : Config :=
  Row.overlay ((c.sectionRows d).filter fun row => d.keepsSection row.name) {}

theorem ofNode_remaining : ofNode (d.remaining c.toNode) = .ok (c.withDefaults d) := by
  rw [remaining_toNode]
  exact ((c.sectionRows_legible d).filter _).readSection "Config" "" {}

theorem sectionRows_hold :
    Row.Hold (c.sectionRows d) "gateway" gateway
        (Row.overlay (d.keptRows "gateway" c.gateway.rows) {})
      ∧ Row.Hold (c.sectionRows d) "thing" thing (Row.overlay (d.keptRows "thing" c.thing.rows) {})
      ∧ Row.Hold (c.sectionRows d) "retry" retry
        (Row.overlay (d.keptRows "retry" c.retry.rows) {}) := by
  refine ⟨⟨?_, ?_⟩, ⟨?_, ?_⟩, ⟨?_, ?_⟩⟩ <;> simp [sectionRows, Deletion.sectionRow]

end Reading

namespace Field

/-- The keys that lead to a field: that of its section and its own. -/
def path : Field → String × String
  | host => ("gateway", "host")
  | port => ("gateway", "port")
  | connectTimeout => ("gateway", "connect_timeout_secs")
  | requestTimeout => ("gateway", "request_timeout_secs")
  | maxFrameSize => ("gateway", "max_frame_size")
  | id => ("thing", "id")
  | name => ("thing", "name")
  | credentialsFile => ("thing", "credentials_file")
  | schemaFile => ("thing", "schema_file")
  | dataFile => ("thing", "data_file")
  | backoff => ("retry", "backoff_ms")
  | strict => ("retry", "strict")

/-- Whether the section of a field or the field itself is deleted. -/
def Deleted (f : Field) (d : Deletion) : Prop :=
  f.path.1 ∈ d.sections ∨ f.path ∈ d.fields

instance (f : Field) (d : Deletion) : Decidable (f.Deleted d) :=
  inferInstanceAs (Decidable (_ ∨ _))

end Field

section Fields

variable {c : Config} {d : Deletion}

theorem get_withDefaults_of_hold {ρ α : Type} {name key : String} {rows : List (Row ρ)}
    {part : Config → ρ} {get : ρ → α} {value : α}
    (whole : Row.Hold (c.sectionRows d) name part
      (Row.overlay (d.keptRows name rows) (part {})))
    (field : Row.Hold rows key get value) :
    get (part (c.withDefaults d))
      = if name ∈ d.sections ∨ (name, key) ∈ d.fields then get (part {}) else value := by
  have outer : part (c.withDefaults d) = _ := whole.get_filter d.keepsSection {}
  have inner : get (Row.overlay (d.keptRows name rows) (part {})) = _ :=
    field.get_filter (d.keepsField name) (part {})
  rw [outer]
  by_cases gone : name ∈ d.sections
  · simp [Deletion.keepsSection, gone]
  · by_cases lost : (name, key) ∈ d.fields <;>
      simp [Deletion.keepsSection, Deletion.keepsField, gone, lost, inner]

theorem get_withDefaults (f : Field) :
    f.get (c.withDefaults d) = if f.Deleted d then f.get {} else f.get c := by
  obtain ⟨gateway, thing, retry⟩ := c.sectionRows_hold d
  obtain ⟨host, port, connectTimeout, requestTimeout, maxFrameSize⟩ := c.gateway.rows_hold
  obtain ⟨id, name, credentialsFile, schemaFile, dataFile⟩ := c.thing.rows_hold
  obtain ⟨backoff, strict⟩ := c.retry.rows_hold
  cases f with
  | host => exact get_withDefaults_of_hold gateway host
  | port => exact get_withDefaults_of_hold gateway port
  | connectTimeout => exact get_withDefaults_of_hold gateway connectTimeout
  | requestTimeout => exact get_withDefaults_of_hold gateway requestTimeout
  | maxFrameSize => exact get_withDefaults_of_hold gateway maxFrameSize
  | id => exact get_withDefaults_of_hold thing id
  | name => exact get_withDefaults_of_hold thing name
  | credentialsFile => exact get_withDefaults_of_hold thing credentialsFile
  | schemaFile => exact get_withDefaults_of_hold thing schemaFile
  | dataFile => exact get_withDefaults_of_hold thing dataFile
  | backoff => exact get_withDefaults_of_hold retry backoff
  | strict => exact get_withDefaults_of_hold retry strict

/-- When nothing is deleted, everything is read back. -/
theorem ofNode_toNode (c : Config) : ofNode c.toNode = .ok c := by
  have whole : (Deletion.mk [] []).remaining c.toNode = c.toNode := rfl
  have same : c.withDefaults ⟨[], []⟩ = c := by
    refine ext_fields fun f => ?_
    rw [get_withDefaults]
    refine if_neg ?_
    rintro (inSection | inField)
    · exact nomatch inSection
    · exact nomatch inField
  have read := c.ofNode_remaining ⟨[], []⟩
  rwa [whole, same] at read

end Fields

/-- A configuration is read back from what it is written to.  If keys are deleted from that,
whole sections or single fields, what is left is read as the configuration with exactly the fields
of these keys at their defaults. -/
theorem document_remaining (c : Config) :
    (∀ d : Deletion, ∃ e, ofNode (d.remaining c.toNode) = .ok e
        ∧ ∀ f : Field, f.get e = if f.Deleted d then f.get {} else f.get c)
      ∧ ofNode c.toNode = .ok c
      ∧ ∀ other : Config, other.toNode = c.toNode → other = c := by
  refine ⟨?_, c.ofNode_toNode, ?_⟩
  · intro d
    exact ⟨c.withDefaults d, c.ofNode_remaining d, get_withDefaults⟩
  · intro other same
    have read := other.ofNode_toNode
    rw [same, c.ofNode_toNode] at read
    exact (Except.ok.inj read).symm

end Config

end ThingLink
