import GraphStore.CommandLine.Files
import GraphStore.CommandLine.Help
import GraphStore.CommandLine.LogFilter
import GraphStore.Http.Basic
import GraphStore.Json.Writer
import GraphStore.Worker.Settings
import GraphStore.Worker.Switch

/-!
# Running the command

`CommandLine.run` answers a call: given the files that the call names and a network, it says
with what code the command ends and what it prints.  Messages are printed as compact JSON, one
on a line, those for the server before those for the user interface.
-/

namespace GraphStore

/-- How the command ends. -/
structure Ending where
  code : Nat
  output : List String
  /-- The line that sums up a replay, on standard error. -/
  summary : Option String
  deriving DecidableEq

namespace Ending

def success (output : List String) : Ending := ⟨0, output, none⟩

def failure : Ending := ⟨1, [], none⟩

/-- The end with a log filter that is none.  A cut inside a character cannot be made, and the
command breaks off. -/
def ofFault : LogFilter.Fault → Ending
  | .malformed => failure
  | .brokenCharacter => ⟨101, [], none⟩

/-- The end without a task. -/
def ofStop : Stop → Ending
  | .help topic => success topic.lines
  | .version => success [versionLine]
  | .usage => ⟨2, [], none⟩

end Ending

namespace CommandLine

/-- The settings that a call asks for. -/
def settings? (files : Files) : Option String → Option WorkerSettings
  | none => some .default
  | some path => do
    let text ← Text.Utf8.decode? (← files path)
    (WorkerSettings.ofDocument text).toOption

/-- The lines of the messages of an emission. -/
def messageLines (emission : Emission) : List String :=
  emission.socket.map (fun m => (Wire.write m).compact) ++
    emission.messages.map (fun m => (Wire.write m).compact)

def decimal (n : Nat) : String := String.ofList (decimalDigits n)

/-- The line that sums up a replay. -/
def summaryLine (t : ReplayTotals) : String :=
  decimal t.responses ++ " responses, " ++ decimal t.skipped ++ " skipped: " ++
    decimal t.tally.new ++ " new, " ++ decimal t.tally.updated ++ " updated, " ++
    decimal t.tally.unchanged ++ " unchanged"

/-- Replay a capture into a workspace while `current` is on display. -/
def replay (settings : WorkerSettings) (workspace current : String) (capture : List UInt8) :
    Ending :=
  let w := (Worker.new settings.store).activate current
  match w.replay workspace capture with
  | (_, .ok totals, emission) => ⟨0, messageLines emission, some (summaryLine totals)⟩
  | (_, .error _, _) => .failure

/-- Settle the responses to a switch, one after another. -/
def settleAll (w : Worker) (emission : Emission) :
    Progress → List (Endpoint × Except WorkerError Json) →
      Option (Except WorkerError Outcome) × Emission
  | .ended result, _ => (some result, emission)
  | .pending _, [] => (none, emission)
  | .pending switch, (endpoint, response) :: rest =>
    let (w, progress, emission') := switch.settle w endpoint response
    settleAll w (emission ++ emission') progress rest

/-- Switch to a workspace as a user, over a network. -/
def switch (settings : WorkerSettings) (network : Network) (workspace user : String) : Ending :=
  let w := (Worker.new settings.store).signIn user
  match Switch.start w workspace with
  | (_, .error _) => .failure
  | (w, .ok s) =>
    let ask (endpoint : Endpoint) :=
      (endpoint, (network.fetch settings.baseUrl endpoint.path workspace).result)
    match settleAll w .none (.pending s) ([.edges, .metadata, .vertices].map ask) with
    | (some (.ok _), emission) => .success (messageLines emission)
    | _ => .failure

def perform (files : Files) (network : Network) (settings : WorkerSettings) : Task → Ending
  | .replay workspace current file =>
    match files file with
    | none => .failure
    | some capture => replay settings workspace (current.getD workspace) capture
  | .switch workspace user => switch settings network workspace user

/-- Answer a call. -/
def run (files : Files) (network : Network) (args : List String) : Ending :=
  match Invocation.ofArguments args with
  | .error stop => .ofStop stop
  | .ok invocation =>
    match settings? files invocation.settings with
    | none => .failure
    | some settings =>
      match LogFilter.check settings.logFilter with
      | .error fault => .ofFault fault
      | .ok () => perform files network settings invocation.task

end CommandLine

/-- The paths of the files that a call names. -/
def Invocation.paths (i : Invocation) : List String :=
  i.settings.toList ++ match i.task with
    | .replay _ _ file => [file]
    | .switch _ _ => []

end GraphStore
