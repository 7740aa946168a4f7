import BlocklistSync.MailServer.Controller
import Mathlib.Data.Nat.Notation

/-! Handing the maps over to the mail server, whatever its programs do: end with any status, die of
a signal, never start, write any bytes, or answer differently from one run to the next. A controller
runs the same commands in the same order each time; only the reload depends on what came before
it. -/
namespace BlocklistSync

def CommandResult.isSuccess : CommandResult → Bool
  | .ended (.exited code) _ _ => code == 0
  | .ended (.killed _) _ _ | .notStarted _ => false

namespace Controller

variable {σ : Type} (run : Runner σ) (s : CommandSettings)

/-- What running the commands one after the other gives: their results, and the state that is
left. -/
inductive Ran : σ → List Trace → σ → Prop
  | nil (state : σ) : Ran state [] state
  | cons {state state' last : σ} {t : Trace} {ts : List Trace} :
      run state t.command = (state', t.result) → Ran state' ts last → Ran state (t :: ts) last

theorem Ran.single (state : σ) (phase : Phase) (c : Command) :
    Ran run state [⟨phase, c, (run state c).2⟩] (run state c).1 :=
  .cons rfl (.nil _)

variable {run} in
theorem Ran.append {state mid last : σ} {ts us : List Trace} (h : Ran run state ts mid)
    (h' : Ran run mid us last) :
    Ran run state (ts ++ us) last := by
  induction h with
  | nil => exact h'
  | cons hrun _ ih => exact .cons hrun (ih h')

section Steps

def stepOf (c : Command) (r : CommandResult) : StepOutcome :=
  match outcome c r with
  | .ok _ => .done
  | .error f => .failed f

theorem isSuccess_iff_outcome {c : Command} {r : CommandResult} :
    r.isSuccess ↔ ∃ output, outcome c r = .ok output := by
  cases r with
  | notStarted cause => simp [CommandResult.isSuccess, outcome]
  | ended ending output errors =>
    cases ending with
    | killed signal => simp [CommandResult.isSuccess, outcome]
    | exited code => cases code <;> simp [CommandResult.isSuccess, outcome]

theorem isFailed_stepOf (c : Command) (r : CommandResult) :
    (stepOf c r).isFailed = !r.isSuccess := by
  have hiff := isSuccess_iff_outcome (c := c) (r := r)
  unfold stepOf
  cases ho : outcome c r with
  | ok output => simp [StepOutcome.isFailed, hiff.mpr ⟨output, ho⟩]
  | error f =>
    rw [ho] at hiff
    simpa [StepOutcome.isFailed] using hiff

def warningOf (line : Fault → LogLine) : StepOutcome → Log
  | .failed f => [line f]
  | .done | .skipped _ => []

theorem length_warningOf (line : Fault → LogLine) (step : StepOutcome) :
    (warningOf line step).length = step.isFailed.toNat := by
  cases step <;> rfl

/-- One warning for each failed step of a report, in the order of the steps. -/
def stepWarnings (r : ApplyReport) : Log :=
  r.indexing.flatMap (fun (path, step) => warningOf (indexFailureLine path) step) ++
    warningOf reloadFailureLine r.reload

theorem length_stepWarnings (r : ApplyReport) : (stepWarnings r).length = r.failures := by
  rw [stepWarnings, List.length_append, length_warningOf, ApplyReport.failures]
  congr 1
  induction r.indexing with
  | nil => rfl
  | cons map rest ih =>
    rw [List.flatMap_cons, List.length_append, ih, length_warningOf, List.countP_cons, Nat.add_comm]
    cases map.2.isFailed <;> rfl

def warnings (log : Log) : Log := log.filter (·.level = .warn)

@[simp] theorem warnings_append (log log' : Log) :
    warnings (log ++ log') = warnings log ++ warnings log' :=
  List.filter_append ..

theorem warnings_warningOf {line : Fault → LogLine} (hline : ∀ f, (line f).level = .warn)
    (step : StepOutcome) :
    warnings (warningOf line step) = warningOf line step := by
  cases step with
  | done | skipped => rfl
  | failed f => simp [warnings, warningOf, hline]

end Steps

theorem index_eq (state : σ) (phase : Phase) (path : String) :
    index run s state phase path =
      ⟨(run state (indexCommand s path)).1, phase,
        stepOf (indexCommand s path) (run state (indexCommand s path)).2,
        [⟨phase, indexCommand s path, (run state (indexCommand s path)).2⟩],
        warningOf (indexFailureLine path)
          (stepOf (indexCommand s path) (run state (indexCommand s path)).2)⟩ := by
  unfold index call stepOf
  dsimp only
  cases outcome (indexCommand s path) (run state (indexCommand s path)).2 <;> rfl

/-- What reloading leaves: the result of asking for the server, and that of the reload if the server
runs. -/
structure Reloads (state : σ) (phase : Phase) (status : CommandResult)
    (reloaded : Option CommandResult) (a : After σ StepOutcome) : Prop where
  ran : Ran run state a.trace a.state
  trace : a.trace = ⟨phase, statusCommand s, status⟩ ::
    (reloaded.map (⟨phase, reloadCommand s, ·⟩)).toList
  due : reloaded.isSome = status.isSuccess
  value : a.value = reloaded.elim (.skipped notRunning) (stepOf (reloadCommand s))
  warnings : warnings a.log = warningOf reloadFailureLine a.value
  phase : a.phase = phase

theorem exists_reloads (state : σ) (phase : Phase) :
    ∃ status reloaded, Reloads run s state phase status reloaded (reload run s state phase) := by
  have hiff := isSuccess_iff_outcome (c := statusCommand s) (r := (run state (statusCommand s)).2)
  have hran := Ran.single run state phase (statusCommand s)
  unfold reload call
  dsimp only
  generalize run state (statusCommand s) = asked at *
  cases ho : outcome (statusCommand s) asked.2 with
  | error f =>
    rw [ho] at hiff
    exact ⟨asked.2, none, hran, rfl, (by simpa using hiff), rfl, rfl, rfl⟩
  | ok output =>
    have hup : asked.2.isSuccess := hiff.mpr ⟨output, ho⟩
    have hboth := hran.append (.single run asked.1 phase (reloadCommand s))
    refine ⟨asked.2, some (run asked.1 (reloadCommand s)).2, ?_⟩
    dsimp only
    generalize run asked.1 (reloadCommand s) = answered at *
    cases hr : outcome (reloadCommand s) answered.2 with
    | ok output' => exact ⟨hboth, rfl, hup.symm, (by simp [stepOf, hr]), rfl, rfl⟩
    | error f => exact ⟨hboth, rfl, hup.symm, (by simp [stepOf, hr]), rfl, rfl⟩

/-- One application of the maps, as told by the results of its commands. -/
structure Applies (state : σ) (paths : MapPaths) (first second status : CommandResult)
    (reloaded : Option CommandResult) (a : After σ ApplyReport) : Prop where
  ran : Ran run state a.trace a.state
  trace : a.trace = [⟨.indexing, indexCommand s paths.enforceLiteral, first⟩,
    ⟨.indexing, indexCommand s paths.testLiteral, second⟩, ⟨.reloading, statusCommand s, status⟩] ++
      (reloaded.map (⟨.reloading, reloadCommand s, ·⟩)).toList
  reloadDue : reloaded.isSome = status.isSuccess
  indexing : a.value.indexing = [(paths.enforceLiteral,
    stepOf (indexCommand s paths.enforceLiteral) first),
    (paths.testLiteral, stepOf (indexCommand s paths.testLiteral) second)]
  reload : a.value.reload = reloaded.elim (.skipped notRunning) (stepOf (reloadCommand s))
  failures : a.value.failures = ([first, second] ++ reloaded.toList).countP (!·.isSuccess)
  success : a.value.isSuccess ↔ a.value.failures = 0
  warned : warnings a.log = stepWarnings a.value ++
    if a.value.failures = 0 then [] else [summaryLine a.value.failures]
  warnedOnce : (stepWarnings a.value).length = a.value.failures
  phase : a.phase = .idle

theorem isFailed_reload (reloaded : Option CommandResult) :
    (reloaded.elim (.skipped notRunning) (stepOf (reloadCommand s))).isFailed.toNat =
      reloaded.toList.countP (!·.isSuccess) := by
  cases reloaded with
  | none => rfl
  | some r =>
    rw [Option.elim_some, isFailed_stepOf, Option.toList_some, List.countP_singleton]
    cases r.isSuccess <;> rfl

theorem isSuccess_iff (r : ApplyReport) : r.isSuccess ↔ r.failures = 0 := by
  simp [ApplyReport.isSuccess]

theorem warnings_summary (r : ApplyReport) :
    warnings (summary r) = if r.failures = 0 then [] else [summaryLine r.failures] := by
  unfold summary
  simp only [isSuccess_iff]
  split <;> rfl

theorem exists_applies (state : σ) (paths : MapPaths) :
    ∃ first second status reloaded,
      Applies run s state paths first second status reloaded (apply run s state paths) := by
  have hfirst := Ran.single run state .indexing (indexCommand s paths.enforceLiteral)
  unfold apply
  rw [index_eq]
  dsimp only
  generalize run state (indexCommand s paths.enforceLiteral) = a at *
  have hsecond := Ran.single run a.1 .indexing (indexCommand s paths.testLiteral)
  rw [index_eq]
  dsimp only
  generalize run a.1 (indexCommand s paths.testLiteral) = b at *
  obtain ⟨status, reloaded, hreload⟩ := exists_reloads run s b.1 .reloading
  generalize reload run s b.1 .reloading = c at *
  refine ⟨a.2, b.2, status, reloaded, (hfirst.append hsecond).append hreload.ran, ?_, hreload.due,
    rfl, hreload.value, ?_, isSuccess_iff _, ?_, length_stepWarnings _, rfl⟩
  · rw [hreload.trace]
    rfl
  · rw [ApplyReport.failures, hreload.value, isFailed_reload, List.countP_append]
    simp only [List.countP_cons, List.countP_nil, isFailed_stepOf]
  · have hlevel (path : String) (f : Fault) : (indexFailureLine path f).level = .warn := rfl
    rw [warnings_append, warnings_append, warnings_append, warnings_summary, hreload.warnings,
      warnings_warningOf (hlevel _), warnings_warningOf (hlevel _), stepWarnings]
    simp

/-- What a controller is asked to do. -/
inductive Call
  | apply (paths : MapPaths)
  | probe

/-- A controller between two calls: what its programs have made of their state, the phase that it is
in, and all that it ran so far. -/
structure Standing (σ : Type) where
  state : σ
  phase : Phase
  trace : List Trace

def perform (c : Standing σ) : Call → Standing σ
  | .apply paths =>
    let a := apply run s c.state paths
    ⟨a.state, a.phase, c.trace ++ a.trace⟩
  | .probe =>
    let a := probeIn run s c.state c.phase
    ⟨a.state, a.phase, c.trace ++ a.trace⟩

def after (start : σ) (calls : List Call) : Standing σ :=
  calls.foldl (perform run s) ⟨start, restingPhase, []⟩

/-- Asking for the kinds of maps runs one command and leaves the phase as it is. -/
theorem exists_answer (state : σ) (phase : Phase) :
    let a := probeIn run s state phase
    ∃ answer, Ran run state a.trace a.state ∧ a.trace = [⟨phase, queryCommand s, answer⟩] ∧
        a.phase = phase := by
  have hran := Ran.single run state phase (queryCommand s)
  refine ⟨(run state (queryCommand s)).2, ?_⟩
  unfold probeIn call
  dsimp only
  cases outcome (queryCommand s) (run state (queryCommand s)).2 <;> exact ⟨hran, rfl, rfl⟩

/-- A controller at rest, which has run what it says from the given state. -/
structure Rests (start : σ) (c : Standing σ) : Prop where
  ran : Ran run start c.trace c.state
  phase : c.phase = .idle

variable {run s} in
theorem Rests.perform {start : σ} {c : Standing σ} (h : Rests run start c) (call : Call) :
    Rests run start (perform run s c call) := by
  cases call with
  | apply paths =>
    obtain ⟨_, _, _, _, happlies⟩ := exists_applies run s c.state paths
    exact ⟨h.ran.append happlies.ran, happlies.phase⟩
  | probe =>
    obtain ⟨_, hran, -, hphase⟩ := exists_answer run s c.state c.phase
    exact ⟨h.ran.append hran, hphase.trans h.phase⟩

theorem rests_after (start : σ) (calls : List Call) :
    Rests run start (after run s start calls) := by
  unfold after
  have hnew : Rests run start ⟨start, restingPhase, []⟩ := ⟨.nil _, rfl⟩
  generalize (⟨start, restingPhase, []⟩ : Standing σ) = c at *
  induction calls generalizing c with
  | nil => exact hnew
  | cons call calls ih => exact ih _ (hnew.perform call)

/-- Whatever the programs have done in the calls so far and do in the next one, the controller is at
rest in between, and each application runs all its commands, reports on each of them and warns of
each failure once. -/
theorem applies_after_any_calls (start : σ) (calls : List Call) :
    let c := after run s start calls
    Ran run start c.trace c.state ∧ c.phase = .idle ∧
    (∀ paths, ∃ first second status reloaded,
      Applies run s c.state paths first second status reloaded (apply run s c.state paths)) ∧
    let a := probeIn run s c.state c.phase
    ∃ answer, Ran run c.state a.trace a.state ∧ a.trace = [⟨.idle, queryCommand s, answer⟩] ∧
        a.phase = .idle := by
  have hrests := rests_after run s start calls
  have hanswer := exists_answer run s (after run s start calls).state
    (after run s start calls).phase
  dsimp only at hanswer ⊢
  rw [hrests.phase] at hanswer ⊢
  exact ⟨hrests.ran, rfl, exists_applies run s _, hanswer⟩

end Controller
end BlocklistSync
