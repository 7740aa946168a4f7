import BlocklistSync.Log
import BlocklistSync.MailServer.Command
import BlocklistSync.MailServer.Report
import BlocklistSync.Settings.Basic
import BlocklistSync.Text.Lowercase

/-! Driving the mail server through its programs: both literal maps are indexed, then the server is
reloaded if it runs. A command that fails is logged and reported, and stops nothing. -/
namespace BlocklistSync

/-- Where a controller is within one application of the maps. -/
inductive Phase
  | idle
  | indexing
  | reloading
  deriving Repr, DecidableEq

namespace Controller

/-- The phase of a controller that has just been made, and the one that it goes back to. -/
def restingPhase : Phase := .idle

/-- The fault of a command that did not end with success; else its output. -/
def outcome (c : Command) : CommandResult → Result String
  | .notStarted cause => .error (.command c.line "spawn error" cause.message)
  | .ended (.exited 0) output _ => .ok (Text.Utf8.decodeLenient output)
  | .ended ending _ errors =>
    .error (.command c.line ending.describe (Text.trim (Text.Utf8.decodeLenient errors)))

/-- One command that was run: the phase it was run in, and what came of it. -/
structure Trace where
  phase : Phase
  command : Command
  result : CommandResult
  deriving Repr, DecidableEq

/-- What a sequence of commands leaves: the runner's state, the phase that the controller is in,
what was run, and what was logged. -/
structure After (σ α : Type) where
  state : σ
  phase : Phase
  value : α
  trace : List Trace
  log : Log

def indexCommand (s : CommandSettings) (path : String) : Command := ⟨s.indexer, [path]⟩
def statusCommand (s : CommandSettings) : Command := ⟨s.control, ["status"]⟩
def reloadCommand (s : CommandSettings) : Command := ⟨s.control, ["reload"]⟩
def queryCommand (s : CommandSettings) : Command := ⟨s.query, ["-m"]⟩

def indexFailureLine (path : String) (f : Fault) : LogLine :=
  .warn .controller s!"Indexing {path} failed: {f.message}"

def reloadFailureLine (f : Fault) : LogLine :=
  .warn .controller s!"Postfix reload failed: {f.message}"

def reloadingLine : LogLine := .info .controller "Reloading postfix"
def notRunning : String := "mail server not running"

def summaryLine (failures : Nat) : LogLine :=
  .warn .controller
    s!"Postfix apply finished with {failures} failed step(s); will retry on the next change"

variable {σ : Type}

def call (run : Runner σ) (state : σ) (phase : Phase) (c : Command) : After σ (Result String) :=
  let (state, r) := run state c
  ⟨state, phase, outcome c r, [⟨phase, c, r⟩], []⟩

def index (run : Runner σ) (s : CommandSettings) (state : σ) (phase : Phase) (path : String) :
    After σ StepOutcome :=
  let a := call run state phase (indexCommand s path)
  match a.value with
  | .ok _ => ⟨a.state, a.phase, .done, a.trace, []⟩
  | .error f => ⟨a.state, a.phase, .failed f, a.trace, [indexFailureLine path f]⟩

/-- A server that does not run needs no reload. -/
def reload (run : Runner σ) (s : CommandSettings) (state : σ) (phase : Phase) :
    After σ StepOutcome :=
  let a := call run state phase (statusCommand s)
  match a.value with
  | .error _ => ⟨a.state, a.phase, .skipped notRunning, a.trace, []⟩
  | .ok _ =>
    let b := call run a.state a.phase (reloadCommand s)
    match b.value with
    | .ok _ => ⟨b.state, b.phase, .done, a.trace ++ b.trace, [reloadingLine]⟩
    | .error f =>
      ⟨b.state, b.phase, .failed f, a.trace ++ b.trace, [reloadingLine, reloadFailureLine f]⟩

def summary (r : ApplyReport) : Log := if r.isSuccess then [] else [summaryLine r.failures]

/-- Only the literal maps are indexed; the server reads the pattern maps as they are. The phase
changes before the first map, before the server is asked, and at the end. -/
def apply (run : Runner σ) (s : CommandSettings) (state : σ) (paths : MapPaths) :
    After σ ApplyReport :=
  let a := index run s state .indexing paths.enforceLiteral
  let b := index run s a.state a.phase paths.testLiteral
  let c := reload run s b.state .reloading
  let report : ApplyReport :=
    ⟨[(paths.enforceLiteral, a.value), (paths.testLiteral, b.value)], c.value⟩
  ⟨c.state, restingPhase, report, a.trace ++ b.trace ++ c.trace,
    a.log ++ b.log ++ c.log ++ summary report⟩

/-- Some part of the text reads `pcre` in lower case. -/
def listsPatternMaps (output : String) : Bool :=
  let rec go : List Char → Bool
    | [] => false
    | c :: cs => "pcre".toList.isPrefixOf (c :: cs) || go cs
  go (Text.lower output).toList

def probeFailureLine (s : CommandSettings) (f : Fault) : LogLine :=
  .error .controller <| "Could not verify pattern map support via `" ++ s.query ++ " -m`: " ++
    f.message

/-- Whether the server knows pattern maps; if it cannot be asked, it does not. -/
def probeIn (run : Runner σ) (s : CommandSettings) (state : σ) (phase : Phase) : After σ Bool :=
  let a := call run state phase (queryCommand s)
  match a.value with
  | .ok output => ⟨a.state, a.phase, listsPatternMaps output, a.trace, []⟩
  | .error f => ⟨a.state, a.phase, false, a.trace, [probeFailureLine s f]⟩

def probe (run : Runner σ) (s : CommandSettings) (state : σ) : After σ Bool :=
  probeIn run s state restingPhase

end Controller
end BlocklistSync
