import ThingLink.Config.Load
import ThingLink.CredentialStore
import ThingLink.Fixtures
import ThingLink.Handshake.Driver
import ThingLink.Link.Conversation

/-!
# Runs

A run loads its configuration, its fixtures and its credentials, and only then
connects.  With credentials it authenticates; without, it registers and saves the
credentials that it is given.  Then it holds the connection until it is interrupted,
unless it is to leave at once.  `run` gives what happens up to a horizon.
-/

namespace ThingLink

open Text (decimal)

/-! ## What is around a run -/

structure Surroundings (σ : Type) where
  files : Files
  lookup : Variables
  /-- What comes of connecting. -/
  connect : ConnectionSettings → Except IoError σ
  interrupt : Option Nat := none

inductive RunError where
  | config (error : ConfigError)
  | fixtures (error : FixtureError)
  | store (error : StoreError)
  | call (error : CallError)
  | handshake (error : RegistrationError)
  deriving DecidableEq, Repr

def RunError.message : RunError → String
  | config error => error.message
  | fixtures error => error.message
  | store error => error.message
  | call error => error.message
  | handshake error => error.message

/-- What a run comes to by the horizon. -/
structure Report (σ : Type) where
  ended : Option (Except RunError Unit)
  journal : Journal
  printed : List String
  files : Files
  connection : Option σ

def Report.after {σ : Type} (earlier : Journal) (r : Report σ) : Report σ :=
  { r with journal := earlier ++ r.journal }

/-! ## Lines of the log -/

namespace LogLine

def runSource : String := "knot_thing"

def loadedConfig (path : String) : LogLine :=
  ⟨.info, runSource, "Loaded config from " ++ path⟩

def usingCredentials (path : String) : LogLine :=
  ⟨.info, runSource, "Using credentials from " ++ path⟩

def withoutCredentials : LogLine :=
  ⟨.warn, runSource, "Gateway accepted the registration without credentials"⟩

def pendingFixtures (f : Fixtures) : LogLine :=
  ⟨.info, runSource,
    decimal f.schema.length ++ " schema entries and " ++ decimal f.data.length
      ++ " data entries pending"⟩

def holding : LogLine :=
  ⟨.info, runSource, "Holding connection open, press Ctrl-C to exit"⟩

def interrupted : LogLine :=
  ⟨.info, runSource, "Interrupted, closing connection"⟩

end LogLine

/-! ## Before the connection -/

structure Prepared where
  config : Config
  fixtures : Fixtures
  credentials : Option Credentials

def orFail {ε α : Type} (wrap : ε → RunError) : Except ε α → Except RunError α
  | .ok a => .ok a
  | .error e => .error (wrap e)

/-- Checks a configuration, then loads the fixtures and the credentials. -/
def prepareWith (files : Files) (config : Config) : Except RunError Prepared := do
  orFail (.config ∘ .invalid) config.validate
  let fixtures ← orFail .fixtures
    (Fixtures.load files config.thing.schemaFile config.thing.dataFile)
  let credentials ← orFail .store (CredentialStore.load files config.thing.credentialsFile)
  pure ⟨config, fixtures, credentials⟩

def prepare (files : Files) (lookup : Variables) (flags : Flags) :
    Journal × Except RunError Prepared :=
  match Config.load files lookup flags.config with
  | .error e => ([], .error (.config e))
  | .ok config =>
      (logAt 0 (flags.config.map LogLine.loadedConfig).toList,
        prepareWith files (config.withFlags flags))

/-! ## The connection -/

namespace Prepared

variable {σ : Type} [Connection σ]

def driver (p : Prepared) (connection : σ) : Driver σ :=
  { transport := connection, backoff := p.config.retry.backoff.toNat, policy := p.config.policy }

def registeredLine (r : Driver.Registration) : String :=
  match r.credentials with
  | some c => "Registered thing " ++ c.uuid ++ " after " ++ decimal r.attempts ++ " attempt(s)"
  | none => "Registered after " ++ decimal r.attempts ++ " attempt(s)"

def authenticatedLine (c : Credentials) (attempts : Nat) : String :=
  "Authenticated thing " ++ c.uuid ++ " after " ++ decimal attempts ++ " attempt(s)"

/-- Holds the connection until the interrupt, unless it is to be left at once, and
closes it. -/
def finish (p : Prepared) (once : Bool) (interrupt : Option Nat) (horizon : Horizon) (now : Nat)
    (connection : σ) (printed : List String) (files : Files) : Report σ :=
  let pending := logAt now [.pendingFixtures p.fixtures]
  let close (time : Nat) (journal : Journal) : Report σ :=
    let (outcome, closing, connection) := Connection.close connection time
    ⟨some (orFail .call outcome), journal ++ closing, printed, files, some connection⟩
  if once then close now pending
  else
    let held := pending ++ logAt now [.holding]
    match interrupt.map (max now) with
    | some time =>
        if horizon.reaches time then close time (held ++ logAt time [.interrupted])
        else ⟨none, held, printed, files, some connection⟩
    | none => ⟨none, held, printed, files, some connection⟩

/-- Registers, and saves the credentials that come of it. -/
def register (p : Prepared) (once : Bool) (interrupt : Option Nat) (horizon : Horizon)
    (budget : Nat) (files : Files) (connection : σ) : Report σ :=
  let progress :=
    (p.driver connection).register p.config.thing.id p.config.thing.name horizon budget 0
  let connection := progress.driver.transport
  let report (ended : Option (Except RunError Unit)) : Report σ :=
    ⟨ended, progress.journal, [], files, some connection⟩
  match progress.ended with
  | none => report none
  | some (_, .error e) => report (some (.error (.handshake e)))
  | some (now, .ok r) =>
      let printed := [registeredLine r]
      match r.credentials with
      | none =>
          (p.finish once interrupt horizon now connection printed files).after
            (progress.journal ++ logAt now [.withoutCredentials])
      | some c =>
          match CredentialStore.save files p.config.thing.credentialsFile c with
          | .error e => report (some (.error (.store e)))
          | .ok files =>
              (p.finish once interrupt horizon now connection printed files).after progress.journal

def authenticate (p : Prepared) (once : Bool) (interrupt : Option Nat) (horizon : Horizon)
    (budget : Nat) (files : Files) (connection : σ) (c : Credentials) : Report σ :=
  let progress := (p.driver connection).authenticate c horizon budget 0
  let connection := progress.driver.transport
  let journal := logAt 0 [.usingCredentials p.config.thing.credentialsFile] ++ progress.journal
  match progress.ended with
  | none => ⟨none, journal, [], files, some connection⟩
  | some (_, .error e) => ⟨some (.error (.handshake e)), journal, [], files, some connection⟩
  | some (now, .ok attempts) =>
      (p.finish once interrupt horizon now connection [authenticatedLine c attempts] files).after
        journal

/-- Registers or authenticates, as there are credentials or not. -/
def converse (p : Prepared) (once : Bool) (interrupt : Option Nat) (horizon : Horizon)
    (budget : Nat) (files : Files) (connection : σ) : Report σ :=
  match p.credentials with
  | none => p.register once interrupt horizon budget files connection
  | some c => p.authenticate once interrupt horizon budget files connection c

end Prepared

/-! ## Whole runs -/

/-- A run up to a horizon and for at most `budget` attempts. -/
def run {σ : Type} [Connection σ] (s : Surroundings σ) (flags : Flags) (horizon : Horizon)
    (budget : Nat) : Report σ :=
  let (before, prepared) := prepare s.files s.lookup flags
  match prepared with
  | .error e => ⟨some (.error e), before, [], s.files, none⟩
  | .ok p =>
      let settings := p.config.connection
      let before := before ++ logAt 0 [.connecting settings]
      match connected settings (s.connect settings) with
      | .error e => ⟨some (.error (.call e)), before, [], s.files, none⟩
      | .ok connection =>
          (p.converse flags.once s.interrupt horizon budget s.files connection).after before

end ThingLink
