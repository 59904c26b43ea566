import Mathlib.Data.Fintype.Card
import ThingLink.Fixtures

/-!
# Valid fixtures

Fixtures are valid when their schema declares no sensor twice and all their readings are of
declared sensors.  `validate` accepts these and refuses all others, for the first entry of the
schema that declares a sensor again, or if there is none, for the first reading of a sensor that
is not declared.
-/

namespace ThingLink.Fixtures

/-! ## The first id that comes again -/

section Repeats

variable {seen ids : List UInt8} {id : UInt8}

theorem firstRepeated?_eq_none_iff :
    firstRepeated? seen ids = none ↔ ids.Nodup ∧ ∀ x ∈ ids, x ∉ seen := by
  induction ids generalizing seen with
  | nil => simp [firstRepeated?]
  | cons x rest inductionHypothesis =>
    by_cases known : x ∈ seen
    · simp [firstRepeated?, known]
    · simp only [firstRepeated?, List.contains_eq_mem, known, decide_false, Bool.false_eq_true,
        if_false, inductionHypothesis, List.nodup_cons, List.mem_cons, not_or, forall_eq_or_imp,
        not_false_eq_true, true_and]
      constructor
      · rintro ⟨distinct, fresh⟩
        exact ⟨⟨fun again => (fresh x again).1 rfl, distinct⟩, fun y member => (fresh y member).2⟩
      · rintro ⟨⟨once, distinct⟩, fresh⟩
        exact ⟨distinct, fun y member => ⟨fun same => once (same ▸ member), fresh y member⟩⟩

/-- The ids before the one that is found do not repeat, and it repeats one of them. -/
theorem firstRepeated?_eq_some_iff :
    firstRepeated? seen ids = some id
      ↔ ∃ before after, ids = before ++ id :: after
          ∧ firstRepeated? seen before = none ∧ (id ∈ seen ∨ id ∈ before) := by
  induction ids generalizing seen with
  | nil => simp [firstRepeated?]
  | cons x rest inductionHypothesis =>
    by_cases known : x ∈ seen
    · simp only [firstRepeated?, List.contains_eq_mem, known, decide_true, if_true,
        Option.some.injEq]
      constructor
      · rintro rfl
        exact ⟨[], rest, rfl, rfl, .inl known⟩
      · rintro ⟨before, after, split, none, -⟩
        cases before with
        | nil => exact (List.cons.inj split).1
        | cons y before =>
          obtain ⟨rfl, -⟩ := List.cons.inj split
          exact absurd known ((firstRepeated?_eq_none_iff.mp none).2 x List.mem_cons_self)
    · have moved (before : List UInt8) :
          firstRepeated? seen (x :: before) = firstRepeated? (x :: seen) before := by
        simp [firstRepeated?, known]
      rw [moved, inductionHypothesis]
      constructor
      · rintro ⟨before, after, rfl, none, again⟩
        refine ⟨x :: before, after, rfl, (moved before).trans none, ?_⟩
        simpa only [List.mem_cons, or_assoc, or_left_comm] using again
      · rintro ⟨before, after, split, none, again⟩
        cases before with
        | nil =>
          obtain ⟨rfl, -⟩ := List.cons.inj split
          simp [known] at again
        | cons y before =>
          obtain ⟨rfl, rfl⟩ := List.cons.inj split
          refine ⟨before, after, rfl, (moved before).symm.trans none, ?_⟩
          simpa only [List.mem_cons, or_assoc, or_left_comm] using again

end Repeats

/-! ## What validation decides -/

/-- A schema that declares no sensor twice. -/
def DeclaresOnce (schema : List SchemaEntry) : Prop :=
  schema.Pairwise fun earlier later => earlier.sensorId ≠ later.sensorId

def Declares (schema : List SchemaEntry) (id : UInt8) : Prop :=
  ∃ entry ∈ schema, entry.sensorId = id

structure Valid (f : Fixtures) : Prop where
  once : DeclaresOnce f.schema
  declared : ∀ reading ∈ f.data, Declares f.schema reading.sensorId

section Validation

variable {schema : List SchemaEntry} {f : Fixtures} {id : UInt8}

theorem mem_ids_iff : id ∈ schema.map (·.sensorId) ↔ Declares schema id :=
  List.mem_map

theorem declaresOnce_iff :
    DeclaresOnce schema ↔ firstRepeated? [] (schema.map (·.sensorId)) = none := by
  rw [firstRepeated?_eq_none_iff, List.Nodup, List.pairwise_map]
  simp [DeclaresOnce]

/-- There are not enough ids for a schema that is longer than this. -/
theorem length_le_of_declaresOnce (once : DeclaresOnce schema) : schema.length ≤ UInt8.size := by
  have distinct : (schema.map fun entry => entry.sensorId.toFin).Nodup := by
    rw [List.Nodup, List.pairwise_map]
    exact once.imp fun differ same => differ (UInt8.toFin_inj.mp same)
  simpa using distinct.length_le_card

/-- The entry that is found repeats the id of an earlier one, and no entry before it does. -/
theorem firstRepeated?_ids_eq_some_iff :
    firstRepeated? [] (schema.map (·.sensorId)) = some id
      ↔ ∃ before entry after, schema = before ++ entry :: after ∧ entry.sensorId = id
          ∧ Declares before id ∧ DeclaresOnce before := by
  simp only [firstRepeated?_eq_some_iff, List.not_mem_nil, false_or]
  constructor
  · rintro ⟨ids, later, split, none, again⟩
    obtain ⟨before, behind, rfl, rfl, rest⟩ := List.map_eq_append_iff.mp split
    obtain ⟨entry, after, rfl, same, -⟩ := List.map_eq_cons_iff.mp rest
    exact ⟨before, entry, after, rfl, same, mem_ids_iff.mp again, declaresOnce_iff.mpr none⟩
  · rintro ⟨before, entry, after, rfl, rfl, again, once⟩
    exact ⟨before.map (·.sensorId), after.map (·.sensorId), by simp, declaresOnce_iff.mp once,
      mem_ids_iff.mpr again⟩

theorem validate_eq_duplicateSensor_iff :
    f.validate = .error (.duplicateSensor id)
      ↔ firstRepeated? [] (f.schema.map (·.sensorId)) = some id := by
  unfold validate
  dsimp only
  split
  · next found => simp [found]
  · next none =>
    rw [none]
    split <;> simp

/-- The first reading of a sensor that a schema does not declare. -/
def firstUnknown? (f : Fixtures) : Option DataEntry :=
  f.data.find? fun reading => !(f.schema.map (·.sensorId)).contains reading.sensorId

theorem validate_of_once (once : DeclaresOnce f.schema) :
    f.validate = match f.firstUnknown? with
      | some reading => .error (.unknownSensor reading.sensorId)
      | none => .ok () := by
  simp only [validate, declaresOnce_iff.mp once]
  rfl

theorem firstUnknown?_eq_none_iff :
    f.firstUnknown? = none ↔ ∀ reading ∈ f.data, Declares f.schema reading.sensorId := by
  simp [firstUnknown?, ← mem_ids_iff]

theorem firstUnknown?_eq_some_iff {reading : DataEntry} :
    f.firstUnknown? = some reading
      ↔ ¬Declares f.schema reading.sensorId
          ∧ ∃ before after, f.data = before ++ reading :: after
              ∧ ∀ earlier ∈ before, Declares f.schema earlier.sensorId := by
  simp [firstUnknown?, List.find?_eq_some_iff_append, ← mem_ids_iff]

theorem once_of_not_duplicate (accepted : ∀ id, f.validate ≠ .error (.duplicateSensor id)) :
    DeclaresOnce f.schema := by
  rw [declaresOnce_iff, Option.eq_none_iff_forall_ne_some]
  exact fun id found => accepted id (validate_eq_duplicateSensor_iff.mpr found)

/-- The first reading of a sensor that is not declared is what a schema without repeats is
refused for. -/
theorem validate_eq_unknownSensor_iff :
    f.validate = .error (.unknownSensor id)
      ↔ DeclaresOnce f.schema ∧ ∃ before reading after, f.data = before ++ reading :: after
          ∧ reading.sensorId = id ∧ ¬Declares f.schema id
          ∧ ∀ earlier ∈ before, Declares f.schema earlier.sensorId := by
  constructor
  · intro refused
    have once : DeclaresOnce f.schema :=
      once_of_not_duplicate fun other found => nomatch refused.symm.trans found
    rw [validate_of_once once] at refused
    split at refused
    · next reading found =>
      cases refused
      obtain ⟨unknown, before, after, split, earlier⟩ := firstUnknown?_eq_some_iff.mp found
      exact ⟨once, before, reading, after, split, rfl, unknown, earlier⟩
    · cases refused
  · rintro ⟨once, before, reading, after, split, rfl, unknown, earlier⟩
    have found : f.firstUnknown? = some reading :=
      firstUnknown?_eq_some_iff.mpr ⟨unknown, before, after, split, earlier⟩
    rw [validate_of_once once, found]

theorem validate_eq_ok_iff : f.validate = .ok () ↔ f.Valid := by
  constructor
  · intro accepted
    have once : DeclaresOnce f.schema :=
      once_of_not_duplicate fun id found => nomatch accepted.symm.trans found
    rw [validate_of_once once] at accepted
    split at accepted
    · cases accepted
    · next none => exact ⟨once, firstUnknown?_eq_none_iff.mp none⟩
  · rintro ⟨once, declared⟩
    rw [validate_of_once once, firstUnknown?_eq_none_iff.mpr declared]

theorem exists_duplicate_of_not_once (repeats : ¬DeclaresOnce f.schema) :
    ∃ id, f.validate = .error (.duplicateSensor id) := by
  rw [declaresOnce_iff] at repeats
  obtain ⟨id, found⟩ := Option.ne_none_iff_exists'.mp repeats
  exact ⟨id, validate_eq_duplicateSensor_iff.mpr found⟩

theorem exists_unknown_of_once (once : DeclaresOnce f.schema) (invalid : ¬f.Valid) :
    ∃ id, f.validate = .error (.unknownSensor id) := by
  rw [validate_of_once once]
  cases found : f.firstUnknown? with
  | none => exact absurd ⟨once, firstUnknown?_eq_none_iff.mp found⟩ invalid
  | some reading => exact ⟨_, rfl⟩

end Validation

/-! ## What is loaded -/

theorem lamp_valid : lamp.Valid where
  once := List.pairwise_singleton _ _
  declared reading member := by
    rw [List.mem_singleton.mp member]
    exact ⟨_, List.mem_singleton_self _, rfl⟩

section Loading

variable {files : Files} {schemaPath dataPath : String} {f : Fixtures}

/-- Fixtures that are read from files are the ones that are valid. -/
theorem load_of_read {schema : List SchemaEntry} {data : List DataEntry}
    (schemaRead : readFile files SchemaEntry.ofDocument schemaPath = .ok schema)
    (dataRead : readFile files DataEntry.ofDocument dataPath = .ok data) :
    load files (some schemaPath) (some dataPath)
      = (validate ⟨schema, data⟩).map fun _ => ⟨schema, data⟩ := by
  simp only [load, schemaRead, dataRead, bind, Except.bind]
  cases validate ⟨schema, data⟩ <;> rfl

theorem valid_of_load {schemaPath? dataPath? : Option String}
    (loaded : load files schemaPath? dataPath? = .ok f) : f.Valid := by
  cases schemaPath? with
  | none =>
    cases loaded
    exact lamp_valid
  | some schemaPath =>
    cases dataPath? with
    | none => cases loaded
    | some dataPath =>
      cases schemaRead : readFile files SchemaEntry.ofDocument schemaPath with
      | error e => simp [load, schemaRead, bind, Except.bind] at loaded
      | ok schema =>
        cases dataRead : readFile files DataEntry.ofDocument dataPath with
        | error e => simp [load, schemaRead, dataRead, bind, Except.bind] at loaded
        | ok data =>
          rw [load_of_read schemaRead dataRead] at loaded
          cases accepted : validate ⟨schema, data⟩ with
          | error e => simp [accepted, Except.map] at loaded
          | ok =>
            rw [accepted] at loaded
            cases loaded
            exact validate_eq_ok_iff.mp accepted

end Loading

/-- Validation accepts the valid fixtures.  It refuses others for the first entry of the schema
that declares a sensor again, and only if there is none, for the first reading of a sensor that
is not declared.  How often a sensor is read does not matter, what is loaded is valid, and a
schema with more entries than there are ids is refused. -/
theorem validate_names_first_offender (f : Fixtures) :
    (f.validate = .ok () ↔ f.Valid)
      ∧ (∀ id, f.validate = .error (.duplicateSensor id)
          ↔ ∃ before entry after, f.schema = before ++ entry :: after ∧ entry.sensorId = id
              ∧ Declares before id ∧ DeclaresOnce before)
      ∧ (∀ id, f.validate = .error (.unknownSensor id)
          ↔ DeclaresOnce f.schema ∧ ∃ before reading after, f.data = before ++ reading :: after
              ∧ reading.sensorId = id ∧ ¬Declares f.schema id
              ∧ ∀ earlier ∈ before, Declares f.schema earlier.sensorId)
      ∧ (¬DeclaresOnce f.schema → ∃ id, f.validate = .error (.duplicateSensor id))
      ∧ (DeclaresOnce f.schema → ¬f.Valid → ∃ id, f.validate = .error (.unknownSensor id))
      ∧ (f.Valid → ∀ data : List DataEntry,
          (∀ reading ∈ data, ∃ other ∈ f.data, other.sensorId = reading.sensorId) →
            { f with data }.validate = .ok ())
      ∧ (UInt8.size < f.schema.length → ∃ id, f.validate = .error (.duplicateSensor id))
      ∧ (∀ files schemaPath? dataPath?, load files schemaPath? dataPath? = .ok f →
          f.Valid ∧ f.schema.length ≤ UInt8.size)
      ∧ ∀ files schemaPath dataPath,
          readFile files SchemaEntry.ofDocument schemaPath = .ok f.schema →
          readFile files DataEntry.ofDocument dataPath = .ok f.data →
            load files (some schemaPath) (some dataPath) = f.validate.map fun _ => f := by
  refine ⟨validate_eq_ok_iff, fun id => ?_, fun id => validate_eq_unknownSensor_iff,
    exists_duplicate_of_not_once, exists_unknown_of_once, ?_, ?_, ?_, ?_⟩
  · rw [validate_eq_duplicateSensor_iff, firstRepeated?_ids_eq_some_iff]
  · rintro ⟨once, declared⟩ data again
    refine validate_eq_ok_iff.mpr ⟨once, fun reading member => ?_⟩
    obtain ⟨other, known, same⟩ := again reading member
    exact same ▸ declared other known
  · intro long
    exact exists_duplicate_of_not_once fun once =>
      absurd (length_le_of_declaresOnce once) (Nat.not_le.mpr long)
  · intro files schemaPath? dataPath? loaded
    have valid := valid_of_load loaded
    exact ⟨valid, length_le_of_declaresOnce valid.once⟩
  · intro files schemaPath dataPath schemaRead dataRead
    exact load_of_read schemaRead dataRead

/-- The third entry is the first one that declares a sensor again, and the reading is of a sensor
that is not declared. -/
def repetitive : Fixtures where
  schema := [⟨1, 3, 0, 9, "a"⟩, ⟨2, 3, 0, 9, "b"⟩, ⟨2, 3, 0, 9, "c"⟩, ⟨1, 3, 0, 9, "d"⟩]
  data := [⟨9, .bool true⟩]

def stray : Fixtures where
  schema := []
  data := [⟨9, .bool true⟩]

def strayFiles : Files :=
  ⟨[(["s"], .file (Text.bytes "\x7b\"schema\":[]\x7d")),
    (["d"], .file (Text.bytes "\x7b\"data\":[\x7b\"sensor_id\":9,\"value\":true\x7d]\x7d"))]⟩

/-- Whether a data file has brought one reading, which is true.  Values may be floats, so lists of
readings have no decidable equality. -/
def readsTrue (id : UInt8) : Except FixtureError (List DataEntry) → Bool
  | .ok [⟨sensorId, .bool value⟩] => sensorId == id && value
  | _ => false

theorem eq_of_readsTrue {id : UInt8} {read : Except FixtureError (List DataEntry)}
    (seen : readsTrue id read = true) : read = .ok [⟨id, .bool true⟩] := by
  unfold readsTrue at seen
  split at seen
  · next sensorId value =>
    obtain ⟨rfl, rfl⟩ : sensorId = id ∧ value = true := by simpa using seen
    rfl
  · cases seen

def crowded : Fixtures where
  schema := List.replicate 257 ⟨1, 3, 0, 9, "a"⟩
  data := []

theorem validate_names_first_offender_repetitive :
    (¬DeclaresOnce repetitive.schema ∧ repetitive.validate = .error (.duplicateSensor 2))
      ∧ (DeclaresOnce stray.schema ∧ ¬stray.Valid
          ∧ load strayFiles (some "s") (some "d") = .error (.unknownSensor 9))
      ∧ (lamp.Valid ∧ validate ⟨lamp.schema, lamp.data ++ lamp.data⟩ = .ok ())
      ∧ (UInt8.size < crowded.schema.length
          ∧ ∃ id, crowded.validate = .error (.duplicateSensor id))
      ∧ (load {} none none = .ok lamp ∧ lamp.schema.length ≤ UInt8.size) := by
  have schemaRead : readFile strayFiles SchemaEntry.ofDocument "s" = .ok stray.schema := by
    decide +kernel
  have dataRead : readFile strayFiles DataEntry.ofDocument "d" = .ok stray.data :=
    eq_of_readsTrue (by decide +kernel)
  obtain ⟨-, duplicate, -⟩ := validate_names_first_offender repetitive
  obtain ⟨-, -, unknown, -, -, -, -, -, loads⟩ := validate_names_first_offender stray
  obtain ⟨-, -, -, -, -, again, -, loaded, -⟩ := validate_names_first_offender lamp
  obtain ⟨-, -, -, -, -, -, long, -, -⟩ := validate_names_first_offender crowded
  have twice : repetitive.validate = .error (.duplicateSensor 2) :=
    (duplicate 2).mpr ⟨repetitive.schema.take 2, ⟨2, 3, 0, 9, "c"⟩, repetitive.schema.drop 3, rfl,
      rfl, ⟨⟨2, 3, 0, 9, "b"⟩, List.mem_cons_of_mem _ List.mem_cons_self, rfl⟩,
      by simp [DeclaresOnce, repetitive]⟩
  have undeclared : ¬Declares stray.schema 9 := by simp [Declares, stray]
  have once : DeclaresOnce stray.schema := List.Pairwise.nil
  have lit : lamp.Valid := (loaded {} none none rfl).1
  have more : UInt8.size < crowded.schema.length := by
    rw [crowded, List.length_replicate]
    decide
  refine ⟨⟨?_, twice⟩, ⟨once, ?_, ?_⟩, ⟨lit, ?_⟩, ⟨more, long more⟩, rfl,
    (loaded {} none none rfl).2⟩
  · simp [DeclaresOnce, repetitive]
  · exact fun valid => undeclared (valid.declared _ List.mem_cons_self)
  · rw [loads _ _ _ schemaRead dataRead,
      (unknown 9).mpr
        ⟨once, [], _, [], rfl, rfl, undeclared, fun _ member => absurd member List.not_mem_nil⟩]
    rfl
  · exact again lit (lamp.data ++ lamp.data) fun reading member =>
      ⟨reading, (List.mem_append.mp member).elim id id, rfl⟩

end ThingLink.Fixtures
