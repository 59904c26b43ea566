import ThingLink.Proofs.Handshake.Attribution
import ThingLink.Proofs.Handshake.Operation
import ThingLink.Proofs.Run.Consecutive

/-!
# Effects of a run

A run connects only when everything that it needs has loaded and is valid.  Then it makes one
operation: it registers if there is no credentials file, and authenticates if there are credentials
in it.  It changes no file but that one, and that one only to keep what a registration has brought.
-/

namespace ThingLink

open Text (bytes)

/-! ## Before the connection -/

theorem CredentialStore.load_eq_none_iff {files : Files} {path : String} :
    load files path = .ok none ↔ files.read path = .error .notFound := by
  unfold load
  split
  · next missing => simp [missing]
  · next e present failed =>
    exact ⟨nofun, fun missing => absurd (Except.error.inj (failed.symm.trans missing)) present⟩
  · next text found =>
    rw [found]
    split <;> simp

theorem Config.name_length_le {c : Config} (valid : c.validate = .ok ()) :
    (bytes c.thing.name).length ≤ maxNameSize := by
  unfold validate at valid
  split at valid
  · exact nomatch valid
  split at valid
  · exact nomatch valid
  split at valid
  · exact nomatch valid
  split at valid
  · exact nomatch valid
  · next short => exact Nat.le_of_not_lt short

/-- What a run needs before it connects: its configuration is read and valid, and its fixtures and
its credentials are read. -/
structure Surroundings.Loads {σ : Type} (s : Surroundings σ) (flags : Flags) (p : Prepared) :
    Prop where
  config : ∃ loaded, Config.load s.files s.lookup flags.config = .ok loaded
    ∧ loaded.withFlags flags = p.config
  valid : p.config.validate = .ok ()
  fixtures : Fixtures.load s.files p.config.thing.schemaFile p.config.thing.dataFile
    = .ok p.fixtures
  credentials : CredentialStore.load s.files p.config.thing.credentialsFile = .ok p.credentials

theorem prepareWith_eq_ok_iff {files : Files} {config : Config} {p : Prepared} :
    prepareWith files config = .ok p
      ↔ config = p.config ∧ config.validate = .ok ()
        ∧ Fixtures.load files config.thing.schemaFile config.thing.dataFile = .ok p.fixtures
        ∧ CredentialStore.load files config.thing.credentialsFile = .ok p.credentials := by
  obtain ⟨config', fixtures, credentials⟩ := p
  unfold prepareWith
  cases valid : config.validate with
  | error e => simp [orFail, bind, Except.bind]
  | ok u =>
    cases readFixtures : Fixtures.load files config.thing.schemaFile config.thing.dataFile with
    | error e => simp [orFail, bind, Except.bind]
    | ok f =>
      cases readCredentials : CredentialStore.load files config.thing.credentialsFile with
      | error e => simp [orFail, bind, Except.bind]
      | ok c => simp [orFail, bind, Except.bind, pure, Except.pure]

theorem prepare_eq_ok_iff {σ : Type} {s : Surroundings σ} {flags : Flags} {p : Prepared} :
    (prepare s.files s.lookup flags).2 = .ok p ↔ s.Loads flags p := by
  unfold prepare
  cases loaded : Config.load s.files s.lookup flags.config with
  | error e =>
    refine ⟨nofun, fun loads => ?_⟩
    obtain ⟨config, found, -⟩ := loads.config
    exact nomatch loaded.symm.trans found
  | ok config =>
    refine prepareWith_eq_ok_iff.trans ⟨?_, ?_⟩
    · rintro ⟨same, valid, fixtures, credentials⟩
      rw [same] at valid fixtures credentials
      exact ⟨⟨config, loaded, same⟩, valid, fixtures, credentials⟩
    · rintro ⟨⟨config', found, same⟩, valid, fixtures, credentials⟩
      obtain rfl : config = config' := Except.ok.inj (loaded.symm.trans found)
      rw [same]
      exact ⟨rfl, valid, fixtures, credentials⟩

/-! ## The operation of a run -/

namespace Prepared

/-- What a run asks of its gateway. -/
def operation (p : Prepared) : Operation :=
  match p.credentials with
  | none => .register p.config.thing.id p.config.thing.name
  | some c => .authenticate c

/-- Once its operation is over, a run cannot fail with an error of it. -/
theorem finish_not_failed {σ : Type} [Connection σ] {p : Prepared} {once : Bool}
    {interrupt : Option Nat} {horizon : Horizon} {now : Nat} {connection : σ}
    {printed : List String} {files : Files} {e : RegistrationError} :
    (p.finish once interrupt horizon now connection printed files).ended
      ≠ some (.error (.handshake e)) := by
  have closed (outcome : Except CallError Unit) :
      some (orFail .call outcome) ≠ some (.error (.handshake e)) := by
    cases outcome <;> exact nofun
  unfold finish
  dsimp only
  split
  · exact closed _
  · split
    · split
      · exact closed _
      · exact nofun
    · exact nofun

section Operations

variable {σ : Type} [Connection σ] (p : Prepared) (once : Bool) (interrupt : Option Nat)
  (horizon : Horizon) (budget : Nat) (files : Files)

theorem converse_calls (t : Recorded σ) :
    (p.converse once interrupt horizon budget files t).calls
      = ((p.driver t).perform p.operation horizon budget 0).driver.transport.calls := by
  unfold converse operation
  cases p.credentials with
  | none => exact register_calls p once interrupt horizon budget files t
  | some c => exact authenticate_calls p once interrupt horizon budget files t c

theorem authenticate_failed (connection : σ) (c : Credentials) {e : RegistrationError}
    (failed : (p.authenticate once interrupt horizon budget files connection c).ended
      = some (.error (.handshake e))) :
    ∃ time, ((p.driver connection).authenticate c horizon budget 0).ended
      = some (time, .error e) := by
  unfold authenticate at failed
  dsimp only at failed
  split at failed
  · exact nomatch failed
  · next time error ended =>
    cases failed
    exact ⟨time, ended⟩
  · exact absurd failed finish_not_failed

theorem register_failed (connection : σ) {e : RegistrationError}
    (failed : (p.register once interrupt horizon budget files connection).ended
      = some (.error (.handshake e))) :
    ∃ time, ((p.driver connection).register p.config.thing.id p.config.thing.name horizon budget
      0).ended = some (time, .error e) := by
  unfold register at failed
  dsimp only at failed
  split at failed
  · exact nomatch failed
  · next time error ended =>
    cases failed
    exact ⟨time, ended⟩
  · split at failed
    · exact absurd failed finish_not_failed
    · split at failed
      · exact nomatch failed
      · exact absurd failed finish_not_failed

/-- A run fails with the error of its operation. -/
theorem converse_failed (connection : σ) {e : RegistrationError}
    (failed : (p.converse once interrupt horizon budget files connection).ended
      = some (.error (.handshake e))) :
    ∃ time, ((p.driver connection).perform p.operation horizon budget 0).ended
      = some (time, .error e) := by
  unfold converse at failed
  unfold operation
  cases held : p.credentials with
  | none =>
    rw [held] at failed
    exact p.register_failed once interrupt horizon budget files connection failed
  | some c =>
    rw [held] at failed
    exact p.authenticate_failed once interrupt horizon budget files connection c failed

theorem authenticate_files (connection : σ) (c : Credentials) :
    (p.authenticate once interrupt horizon budget files connection c).files = files := by
  unfold authenticate
  dsimp only
  split
  · rfl
  · rfl
  · exact finish_files ..

/-- A registration changes the files only to keep the credentials that it has ended with. -/
theorem register_files (connection : σ) :
    let report := p.register once interrupt horizon budget files connection
    report.files = files
      ∨ ∃ time attempts c, ((p.driver connection).register p.config.thing.id p.config.thing.name
            horizon budget 0).ended = some (time, .ok ⟨attempts, some c⟩)
          ∧ CredentialStore.save files p.config.thing.credentialsFile c = .ok report.files := by
  unfold register
  dsimp only
  split
  · exact .inl rfl
  · exact .inl rfl
  · next time r ended =>
    obtain ⟨attempts, credentials⟩ := r
    cases credentials with
    | none => exact .inl (finish_files ..)
    | some c =>
      dsimp only
      split
      · exact .inl rfl
      · next after saved =>
        refine .inr ⟨time, attempts, c, ended, saved.trans ?_⟩
        exact congrArg Except.ok (finish_files ..).symm

end Operations

/-- The requests that a run can make, as its name is short enough. -/
theorem operation_request (p : Prepared) (valid : p.config.validate = .ok ()) :
    ∃ request, p.operation.request? = .ok request
      ∧ (p.credentials = none → ∃ registers : RegisterRequest,
          registers.deviceId = p.config.thing.id ∧ registers.deviceName = p.config.thing.name
            ∧ p.operation.method.encode request = (Message.registerRequest registers).encode)
      ∧ ∀ c, p.credentials = some c →
          p.operation.method.encode request = (Message.authRequest ⟨c⟩).encode := by
  unfold operation
  cases p.credentials with
  | none =>
    have named := Config.name_length_le valid
    exact ⟨⟨p.config.thing.id, p.config.thing.name, named⟩, dif_pos named,
      fun _ => ⟨_, rfl, rfl, rfl⟩, nofun⟩
  | some c => exact ⟨⟨c⟩, rfl, nofun, fun c same => by cases same; rfl⟩

end Prepared

/-! ## Whole runs -/

section Runs

variable {σ : Type} [Connection σ] {s : Surroundings σ} {flags : Flags} {horizon : Horizon}
  {budget : Nat} {p : Prepared}

theorem prepare_ne_handshake {files : Files} {lookup : Variables} {cause : RegistrationError} :
    (prepare files lookup flags).2 ≠ .error (.handshake cause) := by
  unfold prepare
  cases Config.load files lookup flags.config with
  | error e => exact nofun
  | ok config =>
    unfold prepareWith
    dsimp only
    cases (config.withFlags flags).validate with
    | error e => exact nofun
    | ok u =>
      cases Fixtures.load files (config.withFlags flags).thing.schemaFile
          (config.withFlags flags).thing.dataFile with
      | error e => exact nofun
      | ok f =>
        cases CredentialStore.load files (config.withFlags flags).thing.credentialsFile with
        | error e => exact nofun
        | ok c => exact nofun

/-- A run that is refused something that it needs does not look at its connection. -/
theorem run_unprepared (refused : ∀ p, ¬s.Loads flags p) (horizon : Horizon) (budget : Nat) :
    ∃ e journal, (∀ cause, e ≠ .handshake cause)
      ∧ ∀ connect : ConnectionSettings → Except IoError (Recorded σ),
        run { s.recorded with connect } flags horizon budget
          = ⟨some (.error e), journal, [], s.files, none⟩ := by
  cases prepared : (prepare s.files s.lookup flags).2 with
  | ok p => exact absurd (prepare_eq_ok_iff.mp prepared) (refused p)
  | error e =>
    refine ⟨e, (prepare s.files s.lookup flags).1, fun cause same => ?_, fun connect => ?_⟩
    · exact prepare_ne_handshake (same ▸ prepared)
    · unfold run
      rw [prepare_recorded]
      dsimp only
      rw [prepared]
      rfl

/-- A run that has what it needs fails to connect or comes to its conversation. -/
theorem run_prepared (loads : s.Loads flags p) (horizon : Horizon) (budget : Nat) :
    (∃ e journal, run s.recorded flags horizon budget
        = ⟨some (.error (.call e)), journal, [], s.files, none⟩)
      ∨ ∃ connection journal, run s.recorded flags horizon budget
        = (p.converse flags.once s.interrupt horizon budget s.files
            (⟨connection, []⟩ : Recorded σ)).after journal := by
  have prepared := prepare_eq_ok_iff.mpr loads
  cases reached : s.connect p.config.connection with
  | ok connection =>
    obtain ⟨journal, ran⟩ := run_recorded_converse s flags horizon budget prepared reached
    exact .inr ⟨connection, journal, ran⟩
  | error e =>
    unfold run
    rw [prepare_recorded]
    generalize prepare s.files s.lookup flags = both at prepared
    obtain ⟨before, result⟩ := both
    obtain rfl : result = .ok p := prepared
    simp only [Surroundings.recorded, reached]
    exact .inl ⟨_, _, rfl⟩

/-- Every call of a run carries the request of its operation. -/
theorem run_requests (loads : s.Loads flags p) {request : p.operation.method.Request}
    (made : p.operation.request? = .ok request) :
    ∀ call ∈ (run s.recorded flags horizon budget).calls,
      call.request = p.operation.method.encode request := by
  obtain ⟨e, journal, ran⟩ | ⟨connection, journal, ran⟩ := run_prepared loads horizon budget
  · rw [ran]
    exact nofun
  · have calls : (run s.recorded flags horizon budget).calls = _ :=
      (congrArg Report.calls ran).trans (p.converse_calls ..)
    have course := (p.driver connection).perform_course horizon budget 0 made
    rw [calls]
    exact fun call member => (course.carries call member).1

/-- The operation of a run does not fail because of its request. -/
theorem run_ended_ne_invalidRequest (loads : s.Loads flags p) {cause : ProtocolError} :
    (run s.recorded flags horizon budget).ended
      ≠ some (.error (.handshake (.invalidRequest cause))) := by
  intro failed
  obtain ⟨e, journal, ran⟩ | ⟨connection, journal, ran⟩ := run_prepared loads horizon budget
  · rw [ran] at failed
    exact nomatch failed
  · rw [ran] at failed
    obtain ⟨time, ended⟩ := p.converse_failed _ _ _ _ _ _ failed
    obtain ⟨request, made, -⟩ := p.operation_request loads.valid
    obtain ⟨answer, fatal⟩ := Driver.perform_failed horizon budget 0 made ended
    exact Policy.classify_ne_invalidRequest fatal

/-- That a run has kept the credentials that its last reply has brought: it has written their
document to the place of the credentials file, and changed no other place. -/
structure Surroundings.Keeps (s : Surroundings σ) (report : Report (Recorded σ)) (path : String)
    (c : Credentials) : Prop where
  without : s.files.read path = .error .notFound
  answered : ∃ call bs, report.calls.getLast? = some call ∧ call.reply? = some (.ok bs)
    ∧ Message.decode bs = .ok (.registerResponse ⟨.success, some c⟩)
  written : ∃ place, s.files.resolve path = .ok place
    ∧ report.files.get? place = some (.file (bytes c.document))
    ∧ ∀ other, other ≠ place → report.files.get? other = s.files.get? other
  readBack : report.files.read path = .ok c.document ∧ Credentials.ofDocument c.document = .ok c

theorem saved_place {files after : Files} {path : String} {c : Credentials}
    (saved : CredentialStore.save files path c = .ok after) :
    (∃ place, files.resolve path = .ok place
        ∧ after.get? place = some (.file (bytes c.document))
        ∧ ∀ other, other ≠ place → after.get? other = files.get? other)
      ∧ after.read path = .ok c.document := by
  unfold CredentialStore.save at saved
  split at saved
  · exact nomatch saved
  · next written =>
    cases saved
    obtain ⟨place, resolved, -, free, rfl⟩ := Files.write_eq_ok_iff.mp written
    exact ⟨⟨place, resolved, Files.get?_put (Files.isGiven_eq_false_of_free free),
      fun other apart => Files.get?_put_of_ne apart⟩, Files.read_write written⟩

/-- A registration that ends with credentials has them from its last reply. -/
theorem Driver.register_answered {d : Driver σ} {deviceId : UInt64} {deviceName : String}
    {now time attempts : Nat} {c : Credentials}
    (ended : (d.recorded.register deviceId deviceName horizon budget now).ended
      = some (time, .ok ⟨attempts, some c⟩)) :
    ∃ call bs,
      (d.recorded.register deviceId deviceName horizon budget now).driver.transport.calls.getLast?
          = some call
        ∧ call.reply? = some (.ok bs)
        ∧ Message.decode bs = .ok (.registerResponse ⟨.success, some c⟩) := by
  cases made : RegisterRequest.make deviceId deviceName with
  | error cause =>
    simp only [register, made] at ended
    cases ended
  | ok request =>
    have course := d.perform_course horizon budget now (o := .register deviceId deviceName) made
    dsimp only [perform] at course
    rw [ended] at course
    obtain ⟨i, call, reply, response, called, last, replied, judged, accepted⟩ :=
      course.exists_last_of_ok
    have final : (d.recorded.register deviceId deviceName horizon budget
        now).driver.transport.calls.getLast? = some call := by
      rw [List.getLast?_eq_getElem?, last]
      exact called
    have success : call.outcome? d.policy .registerThing = some (time, .success response) :=
      call.outcome?_of_ended replied (Policy.classify_eq_success_iff.mpr ⟨judged, accepted⟩)
    -- what the registration ended with was made of the response to its last call
    obtain ⟨attempts', came⟩ := course.ended_of_success final success
    obtain ⟨result, credentials⟩ := response
    cases came
    obtain rfl : result = .success := accepted
    obtain ⟨bs, rfl, decoded⟩ := Method.judge_eq_ok_iff.mp judged
    refine ⟨call, bs, final, ?_, decoded⟩
    rw [Call.reply?, replied]
    rfl

/-- A run changes the files only to keep the credentials that it was given. -/
theorem run_files (loads : s.Loads flags p) (horizon : Horizon) (budget : Nat) :
    let report := run s.recorded flags horizon budget
    report.files = s.files ∨ ∃ c, s.Keeps report p.config.thing.credentialsFile c := by
  intro report
  obtain ⟨e, journal, ran⟩ | ⟨connection, journal, ran⟩ := run_prepared loads horizon budget
  · exact .inl (congrArg Report.files ran)
  · cases held : p.credentials with
    | some c =>
      refine .inl ((congrArg Report.files ran).trans ?_)
      rw [Prepared.converse, held]
      exact p.authenticate_files ..
    | none =>
      have without := loads.credentials
      rw [held] at without
      have conversed : report = (p.register flags.once s.interrupt horizon budget s.files
          (⟨connection, []⟩ : Recorded σ)).after journal := by
        rw [show report = _ from ran, Prepared.converse, held]
      rcases p.register_files flags.once s.interrupt horizon budget s.files
        (⟨connection, []⟩ : Recorded σ) with same | ⟨time, attempts, c, ended, saved⟩
      · exact .inl ((congrArg Report.files conversed).trans same)
      · obtain ⟨call, bs, last, answered⟩ :=
          Driver.register_answered (d := p.driver connection) ended
        obtain ⟨place, reads⟩ := saved_place saved
        have missing := CredentialStore.load_eq_none_iff.mp without
        refine .inr ⟨c, missing, ⟨call, bs, ?_, answered⟩, ?_, ?_⟩
        · rw [conversed]
          exact (congrArg List.getLast? (register_calls ..)).trans last
        · rw [conversed]
          exact place
        · rw [conversed]
          exact ⟨reads, c.ofDocument_document⟩

/-- What a whole run does outside of itself.  It does not look at its connection unless everything
that it needs is read and valid.  All its calls register if there is no credentials file, and all
authenticate if there are credentials in it.  It changes no file unless its registration has ended
with credentials, and then only the credentials file, to the document of exactly these.  It never
fails because of its request, since a valid configuration has a name that fits. -/
theorem run_effects (s : Surroundings σ) (flags : Flags) (horizon : Horizon) (budget : Nat) :
    let report := run s.recorded flags horizon budget
    ((∀ p, ¬s.Loads flags p) → report.connection = none ∧ report.files = s.files
        ∧ ∀ connect, run { s.recorded with connect } flags horizon budget = report)
      ∧ (∀ p, s.Loads flags p →
          let path := p.config.thing.credentialsFile
          (s.files.read path = .error .notFound → ∀ call ∈ report.calls,
              ∃ registers : RegisterRequest, registers.deviceId = p.config.thing.id
                ∧ registers.deviceName = p.config.thing.name
                ∧ call.request = (Message.registerRequest registers).encode)
            ∧ (∀ c, CredentialStore.load s.files path = .ok (some c) → ∀ call ∈ report.calls,
                call.request = (Message.authRequest ⟨c⟩).encode)
            ∧ (report.files = s.files ∨ ∃ c, s.Keeps report path c))
      ∧ (∀ cause, report.ended ≠ some (.error (.handshake (.invalidRequest cause))))
      ∧ (∀ config : Config, config.validate = .ok () →
          ∃ request, RegisterRequest.make config.thing.id config.thing.name = .ok request)
      -- to keep the calls changes nothing else
      ∧ report.unrecorded = run s flags horizon budget := by
  intro report
  refine ⟨fun refused => ?_, fun p loads => ⟨fun missing call member => ?_, fun c found => ?_,
    run_files loads horizon budget⟩, fun cause failed => ?_, fun config valid => ?_,
    run_unrecorded s flags horizon budget⟩
  · obtain ⟨e, journal, -, ran⟩ := run_unprepared refused horizon budget
    have same : report = _ := ran s.recorded.connect
    rw [same]
    exact ⟨rfl, rfl, ran⟩
  · obtain ⟨request, made, registers, -⟩ := p.operation_request loads.valid
    have without : p.credentials = none :=
      Except.ok.inj (loads.credentials.symm.trans (CredentialStore.load_eq_none_iff.mpr missing))
    obtain ⟨registers, deviceId, deviceName, encoded⟩ := registers without
    exact ⟨registers, deviceId, deviceName, (run_requests loads made call member).trans encoded⟩
  · obtain ⟨request, made, -, authenticates⟩ := p.operation_request loads.valid
    have held : p.credentials = some c := Except.ok.inj (loads.credentials.symm.trans found)
    exact fun call member =>
      (run_requests loads made call member).trans (authenticates c held)
  · by_cases loads : ∃ p, s.Loads flags p
    · obtain ⟨p, loads⟩ := loads
      exact run_ended_ne_invalidRequest loads failed
    · obtain ⟨e, journal, other, ran⟩ :=
        run_unprepared (not_exists.mp loads) horizon budget
      rw [show report = _ from ran s.recorded.connect] at failed
      cases failed
      exact other _ rfl
  · exact ⟨_, dif_pos (Config.name_length_le valid)⟩

/-- The first run of a new thing registers it and keeps what it was given. -/
theorem run_effects_newThing :
    let report := run newThing.recorded { once := true } none 1
    newThing.Loads { once := true } ⟨{}, .lamp, none⟩
      ∧ (∀ call ∈ report.calls, ∃ registers : RegisterRequest,
          call.request = (Message.registerRequest registers).encode)
      ∧ ∃ c, newThing.Keeps report "storage.json" c := by
  intro report
  have loads : newThing.Loads { once := true } ⟨{}, .lamp, none⟩ :=
    ⟨⟨{}, rfl, rfl⟩, rfl, rfl, rfl⟩
  obtain ⟨-, prepared, -⟩ := run_effects newThing { once := true } none 1
  obtain ⟨registers, -, kept⟩ := prepared _ loads
  refine ⟨loads, fun call member => ?_, kept.resolve_left fun same => ?_⟩
  · obtain ⟨request, -, -, sent⟩ := registers rfl call member
    exact ⟨request, sent⟩
  · exact nomatch congrArg (fun files => files.entries.length) same

end Runs

end ThingLink
