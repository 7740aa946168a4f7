import BlocklistSync.Settings.Basic
import BlocklistSync.Settings.Error

/-! Checks that settings must pass before the daemon runs on them. -/
namespace BlocklistSync.Settings

def validateInterval (s : Settings) : Except SettingsError Unit :=
  match Duration.ofBinarySeconds s.checkSeconds with
  | .error e => .error (.unusableInterval s.checkSeconds e)
  | .ok d => if d.nanos < minCheckInterval.nanos then .error (.intervalTooShort s.checkSeconds)
      else .ok ()

def validateBackoff (s : Settings) : Except SettingsError Unit :=
  if s.backoff.initialMs = 0 then .error .noInitialDelay
  else if s.backoff.ceilingMs < s.backoff.initialMs then
    .error (.initialAboveCeiling s.backoff.initialMs s.backoff.ceilingMs)
  else .ok ()

def validate (s : Settings) : Except SettingsError Unit := do
  s.validateInterval
  s.validateBackoff

theorem validate_eq_ok_iff (s : Settings) :
    s.validate = .ok () ↔ s.validateInterval = .ok () ∧ s.validateBackoff = .ok () := by
  unfold validate
  cases s.validateInterval <;> cases s.validateBackoff <;> simp [bind, Except.bind]

end BlocklistSync.Settings
