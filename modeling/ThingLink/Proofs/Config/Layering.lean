import Mathlib.Logic.Function.Basic
import ThingLink.Config.Layers
import ThingLink.Proofs.Config.Fields
import ThingLink.Proofs.Text.Numeral

/-!
# Layers, field by field

Every field of a layered configuration has the value of the highest layer that gives it one: its
flag, or else its variable if that reads as a value of the field, or else what lies under them.
No other flag and no other variable matters to it.
-/

namespace ThingLink.Config

open Text (Numeral readUnsigned readUnsigned_eq_ok_iff readBool?)

/-- A configuration under the variables and the flags of a run. -/
def layered (base : Config) (lookup : Variables) (flags : Flags) : Config :=
  (base.withVariables lookup).withFlags flags

/-! ## Numbers -/

/-- A type of bounded numbers reads its numerals. -/
theorem readNumber?_eq_some_iff {α : Type} {bound : Nat} {toNat : α → Nat} {ofNat : Nat → α}
    {cs : List Char} {value : α} (bounded : ∀ a, toNat a < bound)
    (ofNat_toNat : ∀ a, ofNat (toNat a) = a) (toNat_ofNat : ∀ n < bound, toNat (ofNat n) = n) :
    (readUnsigned 10 bound cs).toOption.map ofNat = some value
      ↔ Numeral 10 cs (toNat value) := by
  have positive : 0 < bound := Nat.zero_lt_of_lt (bounded value)
  constructor
  · intro read
    cases found : readUnsigned 10 bound cs with
    | error e => simp [found, Except.toOption] at read
    | ok n =>
      obtain ⟨numeral, below⟩ := (readUnsigned_eq_ok_iff positive).mp found
      have same : ofNat n = value := by simpa [found, Except.toOption] using read
      rwa [← same, toNat_ofNat n below]
  · intro numeral
    have found := (readUnsigned_eq_ok_iff positive).mpr ⟨numeral, bounded value⟩
    rw [found]
    exact congrArg some (ofNat_toNat value)

/-! ## What the layers give to a field -/

namespace Field

def variableName : Field → String
  | host => "KNOT_THING_HOST"
  | port => "KNOT_THING_PORT"
  | connectTimeout => "KNOT_THING_CONNECT_TIMEOUT"
  | requestTimeout => "KNOT_THING_TIMEOUT"
  | maxFrameSize => "KNOT_THING_MAX_FRAME_SIZE"
  | id => "KNOT_THING_ID"
  | name => "KNOT_THING_NAME"
  | credentialsFile => "KNOT_THING_CREDENTIALS"
  | schemaFile => "KNOT_THING_SCHEMA"
  | dataFile => "KNOT_THING_DATA"
  | backoff => "KNOT_THING_BACKOFF_MS"
  | strict => "KNOT_THING_RETRY_STRICT"

theorem variableName_injective : Function.Injective variableName := by
  intro f g same
  cases f <;> cases g <;> first | rfl | exact absurd same (by decide)

/-- The value that a field is given by a flag.  Two of the fields have no flag, and that of the
last one has no other value than to be set. -/
def flag? (flags : Flags) : (f : Field) → Option f.Value
  | host => flags.host
  | port => flags.port
  | connectTimeout => none
  | requestTimeout => flags.timeout
  | maxFrameSize => none
  | id => flags.id
  | name => flags.name
  | credentialsFile => flags.credentialsFile
  | schemaFile => flags.schema.map some
  | dataFile => flags.data.map some
  | backoff => flags.backoff
  | strict => if flags.strict then some true else none

/-- What the text of a variable means to a field. -/
def Reads (text : String) : (f : Field) → f.Value → Prop
  | host, value | name, value | credentialsFile, value => value = text
  | schemaFile, value | dataFile, value => value = some text
  | port, value => Numeral 10 text.toList value.toNat
  | connectTimeout, value | requestTimeout, value | maxFrameSize, value | backoff, value =>
      Numeral 10 text.toList value.toNat
  | id, value => readDeviceId text = .ok value
  | strict, value => text = if value then "true" else "false"

def read? (text : String) : (f : Field) → Option f.Value
  | host | name | credentialsFile => some text
  | schemaFile | dataFile => some (some text)
  | port => readPort? text
  | connectTimeout | requestTimeout | maxFrameSize | backoff => readWord? text
  | id => readDeviceId? text
  | strict => readBool? text

theorem read?_eq_some_iff {text : String} {f : Field} {value : f.Value} :
    f.read? text = some value ↔ f.Reads text value := by
  cases f with
  | host | name | credentialsFile | schemaFile | dataFile =>
    exact Option.some_inj.trans eq_comm
  | port =>
    exact readNumber?_eq_some_iff UInt16.toNat_lt (fun _ => UInt16.ofNat_toNat) fun _ below =>
      UInt16.toNat_ofNat_of_lt below
  | connectTimeout | requestTimeout | maxFrameSize | backoff =>
    exact readNumber?_eq_some_iff UInt64.toNat_lt (fun _ => UInt64.ofNat_toNat) fun _ below =>
      UInt64.toNat_ofNat_of_lt below
  | id =>
    simp only [read?, readDeviceId?, Reads]
    cases readDeviceId text <;> simp [Except.toOption]
  | strict =>
    simp only [read?, Reads, readBool?]
    split
    · cases value <;> simp
    · cases value <;> simp
    · next notTrue notFalse =>
      cases value with
      | false => exact ⟨nofun, fun same => absurd same notFalse⟩
      | true => exact ⟨nofun, fun same => absurd same notTrue⟩

theorem getD_map_some {α : Type} (given fallback : Option α) :
    (given.map some).getD fallback = given.or fallback := by
  cases given <;> rfl

section Layers

variable (c : Config) (lookup : Variables) (flags : Flags) (f : Field)

theorem get_withVariables :
    f.get (c.withVariables lookup) = ((lookup f.variableName).bind f.read?).getD (f.get c) := by
  cases f with
  | port | connectTimeout | requestTimeout | maxFrameSize | id | backoff | strict => rfl
  | host | name | credentialsFile =>
    exact congrArg (Option.getD · _) (Option.bind_fun_some _).symm
  | schemaFile | dataFile =>
    refine (getD_map_some _ _).symm.trans (congrArg (Option.getD · _) ?_)
    exact Option.map_eq_bind.trans rfl

theorem get_withFlags : f.get (c.withFlags flags) = (f.flag? flags).getD (f.get c) := by
  cases f with
  | host | port | connectTimeout | requestTimeout | maxFrameSize | id | name | credentialsFile
    | backoff => rfl
  | schemaFile | dataFile => exact (getD_map_some _ _).symm
  | strict =>
    simp only [flag?]
    cases set : flags.strict <;> simp [withFlags, get, set]

/-- A field after both layers. -/
theorem get_layered :
    f.get (c.layered lookup flags)
      = (f.flag? flags).getD (((lookup f.variableName).bind f.read?).getD (f.get c)) := by
  rw [layered, get_withFlags, get_withVariables]

end Layers

end Field

/-! ## The highest layer -/

/-- The value of the highest layer that gives one to a field. -/
inductive Settles (base : Config) (lookup : Variables) (flags : Flags) (f : Field) :
    f.Value → Prop where
  | byFlag {value : f.Value} (given : f.flag? flags = some value) :
      Settles base lookup flags f value
  | byVariable {value : f.Value} {text : String} (unflagged : f.flag? flags = none)
      (set : lookup f.variableName = some text) (reads : f.Reads text value) :
      Settles base lookup flags f value
  | byBase (unflagged : f.flag? flags = none)
      (unusable : ∀ text, lookup f.variableName = some text → ∀ value, ¬f.Reads text value) :
      Settles base lookup flags f (f.get base)

section Layered

variable (base : Config) (lookup : Variables) (flags : Flags)

theorem bind_read?_eq_none_iff {f : Field} :
    (lookup f.variableName).bind f.read? = none
      ↔ ∀ text, lookup f.variableName = some text → ∀ value, ¬f.Reads text value := by
  rw [Option.bind_eq_none_iff]
  refine forall₂_congr fun text set => ?_
  rw [Option.eq_none_iff_forall_ne_some]
  exact forall_congr' fun value => not_congr Field.read?_eq_some_iff

theorem settles_iff (f : Field) (value : f.Value) :
    f.get (base.layered lookup flags) = value ↔ Settles base lookup flags f value := by
  rw [Field.get_layered]
  constructor
  · rintro rfl
    cases given : f.flag? flags with
    | some value => exact .byFlag given
    | none =>
      cases usable : (lookup f.variableName).bind f.read? with
      | some value =>
        obtain ⟨text, set, read⟩ := Option.bind_eq_some_iff.mp usable
        exact .byVariable given set (Field.read?_eq_some_iff.mp read)
      | none => exact .byBase given ((bind_read?_eq_none_iff lookup).mp usable)
  · intro settles
    cases settles with
    | byFlag given => rw [given, Option.getD_some]
    | byVariable unflagged set reads =>
      rw [unflagged, Option.getD_none, set, Option.bind_some, Field.read?_eq_some_iff.mpr reads,
        Option.getD_some]
    | byBase unflagged unusable =>
      rw [unflagged, Option.getD_none, (bind_read?_eq_none_iff lookup).mpr unusable,
        Option.getD_none]

/-- A field does not notice what lies over or under other fields. -/
theorem get_layered_congr {base other : Config} {lookup others : Variables} {flags given : Flags}
    {f : Field} (under : f.get other = f.get base)
    (environment : others f.variableName = lookup f.variableName)
    (flagged : f.flag? given = f.flag? flags) :
    f.get (other.layered others given) = f.get (base.layered lookup flags) := by
  rw [Field.get_layered, Field.get_layered, under, environment, flagged]

/-- To unset a variable that does not read as a value changes nothing. -/
theorem layered_unset {f : Field} {text : String} (set : lookup f.variableName = some text)
    (unusable : ∀ value, ¬f.Reads text value) :
    base.layered (Function.update lookup f.variableName none) flags
      = base.layered lookup flags := by
  refine ext_fields fun g => ?_
  rw [Field.get_layered, Field.get_layered]
  by_cases same : g = f
  · subst same
    have unread : (lookup g.variableName).bind g.read? = none := by
      refine (bind_read?_eq_none_iff lookup).mpr fun text' set' => ?_
      rw [Option.some.inj (set.symm.trans set')] at unusable
      exact unusable
    rw [Function.update_self, Option.bind_none, unread]
  · have apart : g.variableName ≠ f.variableName :=
      fun shared => same (Field.variableName_injective shared)
    rw [Function.update_of_ne apart]

theorem layered_layered :
    (base.layered lookup flags).layered lookup flags = base.layered lookup flags := by
  refine ext_fields fun f => ?_
  rw [Field.get_layered, Field.get_layered]
  cases f.flag? flags with
  | some value => rfl
  | none => cases (lookup f.variableName).bind f.read? <;> rfl

/-- The flag only switches strictness on. -/
theorem strict_layered_iff :
    (base.layered lookup flags).retry.strict = true
      ↔ flags.strict = true ∨ (base.withVariables lookup).retry.strict = true := by
  rw [layered, withFlags, Bool.or_eq_true]

end Layered

/-- Every field of a configuration under variables and flags has the value of the highest layer
that gives it one.  It depends on its own flag, its own variable and what lies under it alone; a
variable that does not read as a value is as good as unset; the flag for strictness only switches
it on; and the same layers once more change nothing. -/
theorem layers_settle (base : Config) (lookup : Variables) (flags : Flags) :
    let c := base.layered lookup flags
    (∀ (f : Field) (value : f.Value), f.get c = value ↔ Settles base lookup flags f value)
      ∧ (∀ (f : Field) (other : Config) (others : Variables) (given : Flags),
        f.get other = f.get base → others f.variableName = lookup f.variableName →
          f.flag? given = f.flag? flags → f.get (other.layered others given) = f.get c)
      ∧ (∀ f g : Field, f.variableName = g.variableName → f = g)
      ∧ (∀ (f : Field) (text : String), lookup f.variableName = some text →
        (∀ value, ¬f.Reads text value) →
          base.layered (Function.update lookup f.variableName none) flags = c)
      ∧ (c.retry.strict = true
        ↔ flags.strict = true ∨ (base.withVariables lookup).retry.strict = true)
      ∧ c.layered lookup flags = c := by
  intro c
  refine ⟨?_, ?_, ?_, ?_, ?_, ?_⟩
  · intro f value
    exact settles_iff base lookup flags f value
  · intro f other others given under environment flagged
    exact get_layered_congr under environment flagged
  · intro f g same
    exact Field.variableName_injective same
  · intro f text set unusable
    exact layered_unset base lookup flags set unusable
  · exact strict_layered_iff base lookup flags
  · exact layered_layered base lookup flags

/-- A flag, a variable that reads as a number, one that does not, and a field without either. -/
theorem layers_settle_mixed :
    let lookup : Variables := fun name =>
      if name = "KNOT_THING_PORT" then some "+080"
      else if name = "KNOT_THING_TIMEOUT" then some "1e3" else none
    let c := layered {} lookup { host := some "lamp.local", strict := true }
    c.gateway.host = "lamp.local"
      ∧ c.gateway.port = 80
      ∧ c.gateway.requestTimeout = 10
      ∧ c.thing.name = "Test"
      ∧ c.retry.strict = true := by
  intro lookup c
  obtain ⟨settles, -, -, -, strict, -⟩ :=
    layers_settle {} lookup { host := some "lamp.local", strict := true }
  have port : Field.Reads "+080" .port 80 := .plus ⟨by decide, [0, 8, 0], rfl, rfl⟩
  have timeout : ∀ text, lookup "KNOT_THING_TIMEOUT" = some text →
      ∀ value, ¬Field.Reads text .requestTimeout value := by
    rintro text ⟨⟩ value reads
    exact nomatch Field.read?_eq_some_iff.mpr reads
  refine ⟨?_, ?_, ?_, ?_, ?_⟩
  · exact (settles .host "lamp.local").mpr (.byFlag rfl)
  · exact (settles .port 80).mpr (.byVariable rfl rfl port)
  · exact (settles .requestTimeout 10).mpr (.byBase rfl timeout)
  · exact (settles .name "Test").mpr (.byBase rfl nofun)
  · exact strict.mpr (.inl rfl)

end ThingLink.Config
