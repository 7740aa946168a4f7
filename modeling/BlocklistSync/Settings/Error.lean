import BlocklistSync.Duration
import BlocklistSync.Number.Natural
import BlocklistSync.SystemError
import BlocklistSync.Text.Quoted

/-! What can be wrong with the settings. -/
namespace BlocklistSync

inductive SettingsError
  | unreadable (cause : IoError)
  | malformed
  | notANumber (key value : String) (cause : Number.DecimalError)
  | notANatural (key value : String) (cause : Number.NaturalError)
  | unusableInterval (seconds : Number.Binary64) (cause : Duration.SecondsError)
  | intervalTooShort (seconds : Number.Binary64)
  | noInitialDelay
  | initialAboveCeiling (initialMs ceilingMs : UInt64)
  deriving Repr, DecidableEq

namespace SettingsError

def headline : SettingsError → String
  | unreadable _ => "Failed to read config file"
  | malformed => "Failed to parse config TOML"
  | notANumber key value _ => s!"{key} is not a number: {Text.quoted value}"
  | notANatural key value _ => s!"{key} is not a non-negative integer: {Text.quoted value}"
  | unusableInterval seconds cause =>
    s!"check interval is not a usable number of seconds ({seconds.toText}): {cause.message}"
  | intervalTooShort seconds => s!"check interval must be at least 1ms, got {seconds.toText}s"
  | noInitialDelay => "initial backoff must be at least 1ms"
  | initialAboveCeiling initial ceiling =>
    s!"initial backoff ({initial.toNat}ms) exceeds backoff ceiling ({ceiling.toNat}ms)"

def cause? : SettingsError → Option String
  | unreadable cause => some cause.message
  | notANumber _ _ cause => some cause.message
  | notANatural _ _ cause => some cause.message
  | _ => none

def message (e : SettingsError) : String :=
  match e.cause? with
  | some cause => s!"{e.headline}: {cause}"
  | none => e.headline

end SettingsError
end BlocklistSync
