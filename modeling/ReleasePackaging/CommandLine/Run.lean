import ReleasePackaging.CommandLine.Usage
import ReleasePackaging.Config.Load
import ReleasePackaging.Logging.Manager
import ReleasePackaging.Release.Build

/-!
# A run from the command line

A run reads the command line, loads the configuration, sets logging up, carries the release out and
shuts logging down again, whatever has happened. A failure ends the run with a status of one and a
line on the error output; other faults are not caught. A release that succeeds is followed by the
paths of its archives, one to a line.
-/
namespace ReleasePackaging.CommandLine

/-- What a run finds: how programs are launched, how directories are removed, what becomes of the bytes
of an archive, the modules that hooks are loaded from, the name by which the host reports itself, and
the variables of the environment. -/
structure Machine where
  launcher : Toolchain.Launcher
  remover : TreeAction.Remover
  device : Archive.Device
  modules : Hook.Modules
  host : String
  environment : List (String × String)

/-- How a run ends: with a status, or already when its command line was read. -/
inductive Exit where
  | status (n : Nat)
  | usage (n : Nat)
  deriving DecidableEq, Repr

def Exit.number : Exit → Nat
  | .status n | .usage n => n

def say (text : String) : Action ε Unit :=
  modify fun w => { w with logging := { w.logging with out := w.logging.out ++ text } }

def complain (text : String) : Action ε Unit :=
  modify fun w => { w with logging := { w.logging with err := w.logging.err ++ text } }

def releaseLogger : String := "tonpack.builder"

def runLogger : String := "tonpack.cli"

def Machine.equipment (m : Machine) : Equipment :=
  ⟨m.launcher, m.remover, m.device, .logger releaseLogger⟩

def reportFailure (f : Failure) : Action Fault Unit := do
  (Event.mk .error "Release build failed" [(.str "error", .str f.text)]).emit (.logger runLogger)
  complain s!"Error: {f.text}\n"

/-- Reports a failure, which leaves no report of the release, and passes any other fault on. -/
def recover : Fault → Action Fault (Option Report)
  | .failure f => do
    reportFailure f
    return none
  | f => throw f

/-- Prepares and carries out a release. Gives no report if it fails. -/
def attempt (m : Machine) (c : Config) : Action Fault (Option Report) :=
  tryCatch
    (do
      let r ← Action.onTree (Release.prepare m.modules m.host c none)
      return some (← r.build m.equipment))
    recover

/-- Carries a release out between the set-up and the shut-down of logging. -/
def carryOut (m : Machine) (c : Config) : Action Fault Exit := do
  let (manager, result) ← (Logging.Manager.ofEntries c.logging).setUp
  Action.ofResult result
  let outcome ← (attempt m c).outcome
  let _ ← manager.shutDown
  match ← Action.ofResult outcome with
  | none => return .status 1
  | some report => do
    say (String.join (report.archives.map fun p => s!"{p}\n"))
    return .status 0

/-- Loads the configuration that some arguments ask for and carries the release out. -/
def start (m : Machine) (a : Arguments) : Action Fault Exit := do
  match Config.load (← get).tree (a.config.map Path.ofString) m.environment a.overrides with
  | .ok c => carryOut m c
  | .error (.failure f) => do
    complain s!"Error loading configuration: {f.text}\n"
    return .status 1
  | .error f => throw f

def run (m : Machine) (words : List String) : Action Fault Exit := do
  match read words with
  | .ok .help => do
    say helpText
    return .usage 0
  | .ok (.run a) => start m a
  | .error f => do
    complain (complaint f)
    return .usage 2

end ReleasePackaging.CommandLine
