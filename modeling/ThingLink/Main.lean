import Std.Async.DNS
import Std.Async.Signal
import Std.Async.TCP
import Std.Async.Timer
import ThingLink.Shell

/-!
# The program

The program gives `run` what it needs and does what `run` says.  While a run goes on,
the program takes the report up to the present instant again and again, each time with
all that has come from the gateway so far, and does what is new in the report.  What
comes is dated later than every report already taken, so that a later report only adds
to an earlier one.
-/

namespace ThingLink.Program

open Std.Async Std.Net

/-! ## Files -/

def pathOf (place : Place) : String :=
  if place.isEmpty then "." else String.intercalate "/" place

def entryAt (place : Place) : IO (Option FileEntry) := do
  try return some (.file (← IO.FS.readBinFile (pathOf place)).data.toList)
  catch
    | .inappropriateType none 21 _ => return some .directory
    | _ => return none

/-- The known files with all that is on the way of a path. -/
def withPath (files : Files) (path : String) : IO Files := do
  let mut files := files
  let mut place : Place := if path.toList.head? = some '/' then ["/"] else []
  for name in Files.pathNames path do
    match files.step place name with
    | .error _ => return files
    | .ok next =>
        place := next
        if (files.get? place).isNone then
          if let some entry ← entryAt place then files := files.put place entry
  return files

def withPaths (files : Files) (paths : List String) : IO Files :=
  paths.foldlM withPath files

def saveChanges (before after : Files) : IO Unit := do
  for (place, entry) in after.entries do
    if before.get? place ≠ some entry then
      if let .file content := entry then IO.FS.writeBinFile (pathOf place) ⟨⟨content⟩⟩

/-! ## Connecting -/

def ioError (e : IO.Error) : IoError :=
  let text := toString e
  if text.contains "connection refused" then .refused
  else if text.contains "connection reset" then ⟨.connectionReset, text⟩
  else if text.contains "broken pipe" then ⟨.brokenPipe, text⟩
  else ⟨.other, text⟩

def within {α : Type} (task : AsyncTask α) : Nat → IO (Except IoError α)
  | 0 => return .error .timedOut
  | left + 1 => do
      if ← IO.hasFinished task then
        try return .ok (← task.block)
        catch e => return .error (ioError e)
      else
        IO.sleep 1
        within task left

/-- The gateway's socket, with the first of its addresses that answers in time. -/
def dial (s : ConnectionSettings) : IO (Except IoError TCP.Socket.Client) := do
  let addresses ← within (← (DNS.getAddrInfo s.host "" none).toIO) (s.connectTimeout + 1)
  match addresses with
  | .error e => return .error e
  | .ok addresses =>
      let mut outcome : Except IoError TCP.Socket.Client := .error .refused
      for address in addresses do
        let socket ← TCP.Socket.Client.mk
        let target : SocketAddress := match address with
          | .v4 a => .v4 ⟨a, s.port⟩
          | .v6 a => .v6 ⟨a, s.port⟩
        match ← within (← (socket.connect target).toIO) (s.connectTimeout + 1) with
        | .ok () => return .ok socket
        | .error e => outcome := .error e
      return outcome

/-! ## Following a run -/

structure Call where
  files : Files
  lookup : Variables
  flags : Flags

structure Events where
  arrivals : List Arrival := []
  ends : Bool := false
  interrupt : Option Nat := none

def Call.report (call : Call) (connected : Except IoError Unit) (events : Events) (now : Nat) :
    Report Channel :=
  let connect (s : ConnectionSettings) : Except IoError Channel := do
    connected
    pure (Channel.over { arrivals := events.arrivals, ends := events.ends } s)
  run { files := call.files, lookup := call.lookup, connect, interrupt := events.interrupt }
    call.flags (some now) (now + 1)

structure Done where
  printed : Nat := 0
  noted : Nat := 0
  traffic : Nat := 0

def display (done : Done) (view : ShellView) : IO Done := do
  for line in view.noted.drop done.noted do IO.eprintln line
  for line in view.printed.drop done.printed do IO.println line
  (← IO.getStdout).flush
  return { done with printed := view.printed.length, noted := view.noted.length }

def transmit (socket : TCP.Socket.Client) (done : Done) (journal : Journal) : IO Done := do
  let traffic := journal.traffic
  for entry in traffic.drop done.traffic do
    try
      match entry.act with
      | .write bytes => (socket.send ⟨⟨bytes⟩⟩).block
      | .shutdown => socket.shutdown.block
      | .request _ | .log _ => pure ()
    catch _ => pure ()
  return { done with traffic := traffic.length }

def pause : Std.Time.Millisecond.Offset := 5

def listen (socket : TCP.Socket.Client) : IO (Option (Except IoError (List UInt8))) := do
  try
    let waited : Async (Option (Option ByteArray)) := do
      Selectable.one
        #[.case (socket.recvSelector 4096) fun bytes => pure (some bytes),
          .case (← Selector.sleep pause) fun _ => pure none]
    return (← waited.block).map fun bytes =>
      .ok (match bytes with
        | some bytes => bytes.data.toList
        | none => [])
  catch e => return some (.error (ioError e))

def Events.receive (events : Events) (now : Nat) (content : Except IoError (List UInt8)) : Events :=
  let ends := match content with
    | .ok (_ :: _) => false
    | _ => true
  { events with arrivals := events.arrivals ++ [⟨now, content⟩], ends }

/-- Follows a run to its end, and gives its exit code.  `interrupted` is the wait for an
interrupt, which begins when the connection is held. -/
partial def follow (call : Call) (socket : TCP.Socket.Client) (start : Nat)
    (interrupted : Option (AsyncTask Int)) (events : Events) (done : Done) : IO UInt32 := do
  let now := (← IO.monoMsNow) - start
  let report := call.report (.ok ()) events now
  let done ← transmit socket done report.journal
  saveChanges call.files report.files
  let view := report.view call.lookup
  let done ← display done view
  if report.ended.isSome then return view.exit.toUInt32
  let held := report.journal.logLines.contains .holding
  let interrupted ← match interrupted with
    | none => if held then some <$> (← Signal.Waiter.mk .sigint false).wait else pure none
    | some task => pure (some task)
  let later := now + 1
  let events ← if events.ends then
      IO.sleep 5
      pure events
    else
      match ← listen socket with
      | none => pure events
      | some content => pure (events.receive later content)
  let events ← match interrupted with
    | none => pure events
    | some task =>
        if events.interrupt.isNone && (← IO.hasFinished task) then
          pure { events with interrupt := some later }
        else pure events
  follow call socket start interrupted events done

def perform (call : Call) : IO UInt32 := do
  let before := call.report (.error .refused) {} 0
  match (prepare call.files call.lookup call.flags).2 with
  | .error _ =>
      let view := before.view call.lookup
      discard (display {} view)
      return view.exit.toUInt32
  | .ok prepared =>
      let noted := (before.view call.lookup).noted.dropLast
      let done ← display {} ⟨0, [], noted⟩
      match ← dial prepared.config.connection with
      | .error e =>
          let view := (call.report (.error e) {} 0).view call.lookup
          discard (display done view)
          return view.exit.toUInt32
      | .ok socket =>
          follow call socket (← IO.monoMsNow) none {} done

def readVariables : IO Variables := do
  let values ← (configVariable :: logVariable :: Config.variableNames).filterMapM fun name => do
    return (← IO.getEnv name).map (name, ·)
  return fun name => values.lookup name

def start (arguments : List String) : IO UInt32 := do
  let lookup ← readVariables
  match Flags.ofArguments lookup arguments with
  | .error stop =>
      let view := stop.view lookup
      discard (display {} view)
      return view.exit.toUInt32
  | .ok flags =>
      let files ← withPaths {} flags.config.toList
      let files ← match Config.load files lookup flags.config with
        | .error _ => pure files
        | .ok config =>
            let thing := (config.withFlags flags).thing
            withPaths files
              (thing.credentialsFile :: (thing.schemaFile.toList ++ thing.dataFile.toList))
      perform ⟨files, lookup, flags⟩

end ThingLink.Program

def main (arguments : List String) : IO UInt32 :=
  ThingLink.Program.start arguments
