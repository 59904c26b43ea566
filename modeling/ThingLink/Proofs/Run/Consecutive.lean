import ThingLink.Run
import ThingLink.Proofs.Documents.Stored
import ThingLink.Proofs.Handshake.Course
import ThingLink.Proofs.Handshake.Judgement

/-!
# Consecutive runs

A run that registers saves the credentials of the response that ends its registration, and a
run that finds them authenticates with them: what was received with one connection is sent with
the next one, byte for byte, by way of the credentials file.
-/

namespace ThingLink

open Text (bytes)

/-! ## Recorded runs -/

instance {σ : Type} [Connection σ] : Connection (Recorded σ) where
  close t now :=
    let (outcome, journal, inner) := Connection.close t.inner now
    (outcome, journal, { t with inner })

namespace Surroundings

/-- The surroundings with a connection that keeps its calls. -/
def recorded {σ : Type} (s : Surroundings σ) : Surroundings (Recorded σ) :=
  { s with connect := fun settings => (s.connect settings).map fun connection => ⟨connection, []⟩ }

end Surroundings

def Report.unrecorded {σ : Type} (r : Report (Recorded σ)) : Report σ :=
  { r with connection := r.connection.map Recorded.inner }

/-- The calls that a run has made on its connection. -/
def Report.calls {σ : Type} (r : Report (Recorded σ)) : List (Call σ) :=
  (r.connection.map Recorded.calls).getD []

section Endings

variable {σ : Type} [Connection σ] (p : Prepared) (once : Bool) (interrupt : Option Nat)
  (horizon : Horizon) (now : Nat) (printed : List String) (files : Files)

/-- A run that is past its handshake holds its connection or closes it. -/
theorem finish_cases (c : σ) :
    ∃ ended journal connection,
      p.finish once interrupt horizon now c printed files
          = ⟨ended, journal, printed, files, some connection⟩
        ∧ (connection = c ∨ ∃ time, connection = (Connection.close c time).2.2) := by
  cases once with
  | true => exact ⟨_, _, _, rfl, .inr ⟨now, rfl⟩⟩
  | false =>
    cases interrupt with
    | none => exact ⟨_, _, _, rfl, .inl rfl⟩
    | some time =>
      by_cases reached : horizon.reaches (max now time)
      · simp only [Prepared.finish, Option.map_some, reached, if_true]
        exact ⟨_, _, _, rfl, .inr ⟨max now time, rfl⟩⟩
      · simp only [Prepared.finish, Option.map_some, reached]
        exact ⟨_, _, _, rfl, .inl rfl⟩

theorem finish_files (c : σ) :
    (p.finish once interrupt horizon now c printed files).files = files := by
  obtain ⟨ended, journal, connection, finished, -⟩ :=
    finish_cases p once interrupt horizon now printed files c
  rw [finished]

theorem finish_calls (t : Recorded σ) :
    (p.finish once interrupt horizon now t printed files).calls = t.calls := by
  obtain ⟨ended, journal, connection, finished, rfl | ⟨time, rfl⟩⟩ :=
    finish_cases p once interrupt horizon now printed files t
  · rw [finished]
    rfl
  · rw [finished]
    rfl

theorem finish_unrecorded (t : Recorded σ) :
    (p.finish once interrupt horizon now t printed files).unrecorded
      = p.finish once interrupt horizon now t.inner printed files := by
  cases once with
  | true => rfl
  | false =>
    cases interrupt with
    | none => rfl
    | some time =>
      by_cases reached : horizon.reaches (max now time)
      · simp only [Prepared.finish, Option.map_some, reached, if_true]
        rfl
      · simp only [Prepared.finish, Option.map_some, reached]
        rfl

end Endings

section Handshakes

variable {σ : Type} [Connection σ] (p : Prepared) (once : Bool) (interrupt : Option Nat)
  (horizon : Horizon) (budget : Nat) (files : Files)

theorem authenticate_calls (t : Recorded σ) (c : Credentials) :
    (p.authenticate once interrupt horizon budget files t c).calls
      = ((p.driver t).authenticate c horizon budget 0).driver.transport.calls := by
  unfold Prepared.authenticate
  dsimp only
  split
  · rfl
  · rfl
  · exact finish_calls ..

theorem register_calls (t : Recorded σ) :
    (p.register once interrupt horizon budget files t).calls
      = ((p.driver t).register p.config.thing.id p.config.thing.name horizon budget
          0).driver.transport.calls := by
  unfold Prepared.register
  dsimp only
  split
  · rfl
  · rfl
  · split
    · exact finish_calls ..
    · split
      · rfl
      · exact finish_calls ..

theorem authenticate_unrecorded (t : Recorded σ) (c : Credentials) :
    (p.authenticate once interrupt horizon budget files t c).unrecorded
      = p.authenticate once interrupt horizon budget files t.inner c := by
  have driven : (p.driver t.inner).authenticate c horizon budget 0 = _ :=
    ((p.driver t).authenticate_unrecorded horizon budget 0 c).symm
  unfold Prepared.authenticate
  rw [driven]
  generalize (p.driver t).authenticate c horizon budget 0 = progress
  obtain ⟨ended, journal, driver⟩ := progress
  cases ended with
  | none => rfl
  | some ended =>
    obtain ⟨time, result⟩ := ended
    cases result with
    | error e => rfl
    | ok attempts => exact congrArg (Report.after _) (finish_unrecorded ..)

theorem register_unrecorded (t : Recorded σ) :
    (p.register once interrupt horizon budget files t).unrecorded
      = p.register once interrupt horizon budget files t.inner := by
  have driven : (p.driver t.inner).register p.config.thing.id p.config.thing.name horizon budget 0
      = _ :=
    ((p.driver t).register_unrecorded horizon budget 0 p.config.thing.id p.config.thing.name).symm
  unfold Prepared.register
  rw [driven]
  generalize (p.driver t).register p.config.thing.id p.config.thing.name horizon budget 0 = progress
  obtain ⟨ended, journal, driver⟩ := progress
  cases ended with
  | none => rfl
  | some ended =>
    obtain ⟨time, result⟩ := ended
    cases result with
    | error e => rfl
    | ok r =>
      obtain ⟨attempts, credentials⟩ := r
      cases credentials with
      | none => exact congrArg (Report.after _) (finish_unrecorded ..)
      | some c =>
        dsimp only [Progress.unrecorded]
        cases CredentialStore.save files p.config.thing.credentialsFile c with
        | error e => rfl
        | ok files => exact congrArg (Report.after _) (finish_unrecorded ..)

theorem converse_unrecorded (t : Recorded σ) :
    (p.converse once interrupt horizon budget files t).unrecorded
      = p.converse once interrupt horizon budget files t.inner := by
  unfold Prepared.converse
  cases p.credentials with
  | none => exact register_unrecorded ..
  | some c => exact authenticate_unrecorded ..

end Handshakes

section Runs

variable {σ : Type} [Connection σ] (s : Surroundings σ) (flags : Flags) (horizon : Horizon)
  (budget : Nat)

omit [Connection σ] in
theorem prepare_recorded :
    prepare s.recorded.files s.recorded.lookup flags = prepare s.files s.lookup flags :=
  rfl

/-- To keep the calls of a run changes nothing else. -/
theorem run_unrecorded :
    (run s.recorded flags horizon budget).unrecorded = run s flags horizon budget := by
  unfold run
  rw [prepare_recorded]
  obtain ⟨before, prepared⟩ := prepare s.files s.lookup flags
  cases prepared with
  | error e => rfl
  | ok p =>
    cases reached : s.connect p.config.connection with
    | error e =>
      simp only [Surroundings.recorded, reached]
      rfl
    | ok connection =>
      simp only [Surroundings.recorded, reached]
      exact congrArg (Report.after _) (converse_unrecorded ..)

/-- A run that is prepared and connected comes to its conversation. -/
theorem run_converse {p : Prepared} {connection : σ}
    (prepared : (prepare s.files s.lookup flags).2 = .ok p)
    (reached : s.connect p.config.connection = .ok connection) :
    ∃ journal, run s flags horizon budget
      = (p.converse flags.once s.interrupt horizon budget s.files connection).after journal := by
  unfold run
  generalize prepare s.files s.lookup flags = both at prepared
  obtain ⟨before, result⟩ := both
  obtain rfl : result = .ok p := prepared
  simp only [reached]
  exact ⟨_, rfl⟩

theorem connected_of_call {p : Prepared} {call : Call σ}
    (prepared : (prepare s.files s.lookup flags).2 = .ok p)
    (last : (run s.recorded flags horizon budget).calls.getLast? = some call) :
    ∃ connection, s.connect p.config.connection = .ok connection := by
  cases reached : s.connect p.config.connection with
  | ok connection => exact ⟨connection, rfl⟩
  | error e =>
    unfold run at last
    rw [prepare_recorded] at last
    generalize prepare s.files s.lookup flags = both at prepared last
    obtain ⟨before, result⟩ := both
    obtain rfl : result = .ok p := prepared
    simp only [Surroundings.recorded, reached] at last
    exact nomatch last

/-- A recorded run that is prepared and connected comes to its conversation. -/
theorem run_recorded_converse {p : Prepared} {connection : σ}
    (prepared : (prepare s.files s.lookup flags).2 = .ok p)
    (reached : s.connect p.config.connection = .ok connection) :
    ∃ journal, run s.recorded flags horizon budget
      = (p.converse flags.once s.interrupt horizon budget s.files
          (⟨connection, []⟩ : Recorded σ)).after journal :=
  run_converse s.recorded flags horizon budget prepared (congrArg (Except.map _) reached)

end Runs

/-! ## Credentials on the wire -/

/-- The bytes of a response that accepts a thing and carries these credentials. -/
theorem decode_issued (c : Credentials) {bs : List UInt8}
    (front : [0x11, 77, 0] ++ bytes c.uuid ++ bytes c.token <+: bs) :
    Message.decode bs = .ok (.registerResponse ⟨.success, some c⟩) := by
  obtain ⟨rest, rfl⟩ := front
  have encoded : [0x11, 77, 0] ++ bytes c.uuid ++ bytes c.token
      = (Message.registerResponse ⟨.success, some c⟩).encode := by
    rw [List.append_assoc]
    rfl
  rw [encoded]
  exact Message.decode_encode_append _ rest

/-! ## Registration -/

/-- A registration whose last call was answered with an acceptance and credentials ends with
these credentials. -/
theorem Driver.register_ended {σ : Type} [Transport σ] {d : Driver (Recorded σ)}
    {deviceId : UInt64} {deviceName : String} {horizon : Horizon} {budget now : Nat}
    {call : Call σ} {bs : List UInt8} {c : Credentials} (new : d.transport.calls = [])
    (last : (d.register deviceId deviceName horizon budget now).driver.transport.calls.getLast?
      = some call)
    (replied : call.reply? = some (.ok bs))
    (issued : Message.decode bs = .ok (.registerResponse ⟨.success, some c⟩)) :
    ∃ time attempts, (d.register deviceId deviceName horizon budget now).ended
      = some (time, .ok ⟨attempts, some c⟩) := by
  have named : (bytes deviceName).length ≤ maxNameSize := by
    refine Nat.le_of_not_lt fun tooLong => ?_
    -- a name that is too long ends the registration without a call
    rw [d.register_tooLong tooLong] at last
    exact absurd (last.symm.trans (congrArg List.getLast? new)) nofun
  obtain ⟨calls, kept, course⟩ := d.register_course horizon budget now deviceId deviceName named
  rw [kept, new, List.nil_append] at last
  obtain ⟨⟨time, reply⟩, ended, rfl⟩ := Option.map_eq_some_iff.mp replied
  have judged : Method.registerThing.judge (.ok bs) = .ok ⟨.success, some c⟩ :=
    Method.judge_eq_ok_iff.mpr ⟨bs, rfl, issued⟩
  have success : d.policy.classify .registerThing (Method.registerThing.judge (.ok bs))
      = .success ⟨.success, some c⟩ := Policy.classify_eq_success_iff.mpr ⟨judged, rfl⟩
  obtain ⟨attempts, came⟩ := course.ended_of_success last (call.outcome?_of_ended ended success)
  exact ⟨time, attempts, came⟩

/-- A run that is given credentials with its last reply saves them, unless it fails to. -/
theorem register_saves {σ : Type} [Connection σ] {p : Prepared} {once : Bool}
    {interrupt : Option Nat} {horizon : Horizon} {budget : Nat} {files : Files}
    {connection : Recorded σ} {call : Call σ} {bs : List UInt8} {c : Credentials}
    (new : connection.calls = [])
    (last : (p.register once interrupt horizon budget files connection).calls.getLast? = some call)
    (replied : call.reply? = some (.ok bs))
    (issued : Message.decode bs = .ok (.registerResponse ⟨.success, some c⟩))
    (saved : ∀ e, (p.register once interrupt horizon budget files connection).ended
      ≠ some (.error (.store e))) :
    CredentialStore.save files p.config.thing.credentialsFile c
      = .ok (p.register once interrupt horizon budget files connection).files := by
  rw [register_calls] at last
  obtain ⟨time, attempts, ended⟩ :=
    Driver.register_ended (d := p.driver connection) new last replied issued
  unfold Prepared.register at saved ⊢
  simp only [ended] at saved ⊢
  cases stored : CredentialStore.save files p.config.thing.credentialsFile c with
  | error e =>
    simp only [stored] at saved
    exact absurd rfl (saved e)
  | ok after =>
    exact congrArg Except.ok (finish_files ..).symm

/-! ## Two runs -/

namespace Surroundings

/-- A run that finds no credentials at a path and is given some: its last reply accepts the thing
with a UUID and a token of these bytes, and it does not fail to save them. -/
structure Issues {σ : Type} [Connection σ] (s : Surroundings σ) (flags : Flags)
    (horizon : Horizon) (budget : Nat) (path : String) (u t : List UInt8) : Prop where
  without : ∃ p, (prepare s.files s.lookup flags).2 = .ok p ∧ p.credentials = none
    ∧ p.config.thing.credentialsFile = path
  answered : ∃ call bs, (run s.recorded flags horizon budget).calls.getLast? = some call
    ∧ call.reply? = some (.ok bs) ∧ [0x11, 77, 0] ++ u ++ t <+: bs
  saved : ∀ e, (run s flags horizon budget).ended ≠ some (.error (.store e))

/-- A run whose inputs other than the credentials load and validate, and that connects. -/
structure Reaches {σ : Type} (s : Surroundings σ) (flags : Flags) (config : Config)
    (connection : σ) : Prop where
  loads : ∃ loaded, Config.load s.files s.lookup flags.config = .ok loaded
    ∧ loaded.withFlags flags = config
  validates : config.validate = .ok ()
  fixtures : ∃ f, Fixtures.load s.files config.thing.schemaFile config.thing.dataFile = .ok f
  connects : s.connect config.connection = .ok connection

/-- A run that issues credentials leaves a file from which they are loaded. -/
theorem Issues.stored {σ : Type} [Connection σ] {s : Surroundings σ} {flags : Flags}
    {horizon : Horizon} {budget : Nat} {path : String} {c : Credentials}
    (issues : s.Issues flags horizon budget path (bytes c.uuid) (bytes c.token)) :
    CredentialStore.load (run s flags horizon budget).files path = .ok (some c) := by
  obtain ⟨p, prepared, without, rfl⟩ := issues.without
  obtain ⟨call, bs, last, replied, front⟩ := issues.answered
  obtain ⟨connection, reached⟩ := connected_of_call s flags horizon budget prepared last
  obtain ⟨journal, ran⟩ := run_recorded_converse s flags horizon budget prepared reached
  have saved := issues.saved
  rw [← run_unrecorded] at saved ⊢
  rw [ran, Prepared.converse, without] at saved last ⊢
  exact CredentialStore.load_save (register_saves rfl last replied (decode_issued c front) saved)

/-- A run that finds credentials at its path comes to authenticate with them. -/
theorem Reaches.prepared {σ : Type} {s : Surroundings σ} {flags : Flags} {config : Config}
    {connection : σ} {c : Credentials}
    (reaches : s.Reaches flags config connection)
    (found : CredentialStore.load s.files config.thing.credentialsFile = .ok (some c)) :
    ∃ f, (prepare s.files s.lookup flags).2 = .ok ⟨config, f, some c⟩ := by
  obtain ⟨loaded, loads, rfl⟩ := reaches.loads
  obtain ⟨f, fixtures⟩ := reaches.fixtures
  refine ⟨f, ?_⟩
  simp only [prepare, loads, prepareWith, reaches.validates, fixtures, found, orFail, bind,
    Except.bind, pure, Except.pure]

end Surroundings

/-- What a registration was given is what the next run authenticates with: when a run that
found no credentials was given some and has saved them, and their file is as that run has left
it, then the next run to connect sends the bytes of the UUID and the token that were received,
and sends no other request. -/
theorem credentials_survive {σ τ : Type} [Connection σ] [Connection τ] (first : Surroundings σ)
    (second : Surroundings τ) (flags flagsAgain : Flags) (horizon horizonAgain : Horizon)
    (budget budgetAgain : Nat) (path : String) (u t : List UInt8) (config : Config)
    (connection : τ) (uuid : isUuid u = true) (token : isToken t = true)
    (issues : first.Issues flags horizon budget path u t)
    (untouched : second.files.read path = (run first flags horizon budget).files.read path)
    (samePath : config.thing.credentialsFile = path)
    (reaches : second.Reaches flagsAgain config connection) :
    let again := run second.recorded flagsAgain horizonAgain budgetAgain
    (∀ call ∈ again.calls, call.request = [0x14, 76] ++ u ++ t)
      ∧ (0 < budgetAgain → again.calls ≠ [])
      -- to keep the calls changes nothing else
      ∧ again.unrecorded = run second flagsAgain horizonAgain budgetAgain := by
  intro again
  obtain ⟨c, rfl, rfl⟩ := Credentials.exists_of_valid uuid token
  -- from the wire to the file, and from the file to the second run
  have found : CredentialStore.load second.files path = .ok (some c) :=
    (CredentialStore.load_congr untouched).trans issues.stored
  rw [← samePath] at found
  obtain ⟨f, prepared⟩ := reaches.prepared found
  obtain ⟨journal, ran⟩ :=
    run_recorded_converse second flagsAgain horizonAgain budgetAgain prepared reaches.connects
  let driver : Driver (Recorded τ) := Prepared.driver ⟨config, f, some c⟩ ⟨connection, []⟩
  have called : again.calls
      = (driver.authenticate c horizonAgain budgetAgain 0).driver.transport.calls := by
    rw [show again = _ from ran]
    exact authenticate_calls ..
  obtain ⟨calls, kept, course⟩ := driver.authenticate_course horizonAgain budgetAgain 0 c
  rw [kept] at called
  rw [called]
  -- every call of a handshake carries its request, and a handshake that may call does
  refine ⟨fun call member => (course.carries call member).1, fun positive => ?_,
    run_unrecorded second flagsAgain horizonAgain budgetAgain⟩
  obtain ⟨call, made, -⟩ := course.first positive
  intro none
  rw [show calls = [] from none] at made
  exact nomatch made

/-- A UUID in digits of both cases. -/
def mixedUuid : List UInt8 :=
  bytes "C1a0F2b4-5D6e-4f70-8A9b-0c1D2e3F4a5B"

/-- A token of quotation marks, backslashes and control characters, and of letters. -/
def wildToken : List UInt8 :=
  [0x22, 0x5C, 0x00, 0x0A, 0x1F, 0x7F, 0x2F, 0x75] ++ List.replicate 32 0x78

/-- A run without any files whose gateway accepts the thing with its first answer. -/
def newThing : Surroundings Conversation where
  files := {}
  lookup _ := none
  connect settings := .ok (.opened settings [[0x11, 77, 0] ++ mixedUuid ++ wildToken])

/-- A run on the files that the first run has left, whose gateway accepts the credentials. -/
def knownThing : Surroundings Conversation where
  files := (run newThing { once := true } none 1).files
  lookup _ := none
  connect settings := .ok (.opened settings [[0x15, 1, 0]])

theorem credentials_survive_knownThing :
    isUuid mixedUuid = true ∧ isToken wildToken = true
      ∧ (∀ call ∈ (run knownThing.recorded { once := true } none 1).calls,
          call.request = [0x14, 76] ++ mixedUuid ++ wildToken)
      ∧ (run knownThing.recorded { once := true } none 1).calls ≠ [] := by
  have uuid : isUuid mixedUuid = true := by decide
  have token : isToken wildToken = true := by decide
  have issues : newThing.Issues { once := true } none 1 "storage.json" mixedUuid wildToken :=
    { without := ⟨_, rfl, rfl, rfl⟩
      answered := ⟨_, _, rfl, rfl, List.prefix_refl _⟩
      saved := fun e failed => nomatch failed }
  have reaches : knownThing.Reaches { once := true } {} (.opened {} [[0x15, 1, 0]]) :=
    ⟨⟨{}, rfl, rfl⟩, rfl, ⟨.lamp, rfl⟩, rfl⟩
  obtain ⟨requests, called, -⟩ := credentials_survive newThing knownThing { once := true }
    { once := true } none none 1 1 "storage.json" mixedUuid wildToken {} _ uuid token issues rfl rfl
    reaches
  exact ⟨uuid, token, requests, called (by decide)⟩

end ThingLink
