import BlocklistSync.Settings.Basic
import BlocklistSync.Settings.Error
import BlocklistSync.Text.Lowercase

/-! Settings overridden by environment variables, one after the other in a fixed order. The first
value that does not read ends it: what came before stays overridden. -/
namespace BlocklistSync

abbrev Environment := String → Option String

namespace Settings

structure Override where
  key : String
  apply : String → Settings → Except SettingsError Settings

namespace Override

def text (key : String) (put : String → Settings → Settings) : Override :=
  ⟨key, fun v s => .ok (put v s)⟩

/-- White space around a number does not count. -/
def number (key : String) (put : Number.Binary64 → Settings → Settings) : Override :=
  ⟨key, fun v s =>
    match Number.Binary64.read (Text.trim v) with
    | .ok x => .ok (put x s)
    | .error e => .error (.notANumber key v e)⟩

def natural (key : String) (put : UInt64 → Settings → Settings) : Override :=
  ⟨key, fun v s =>
    match Number.readNatural (UInt64.size - 1) (Text.trim v) with
    | .ok n => .ok (put n.toUInt64 s)
    | .error e => .error (.notANatural key v e)⟩

end Override

open Override in
def overrides : List Override :=
  [text "BLOCKER_DB_URL" fun v s => { s with storeUrl := v },
   number "BLOCKER_INTERVAL" fun v s => { s with checkSeconds := v },
   text "POSTFIX_DIR" fun v s => { s with mapDirectory := v },
   text "BLOCKER_PID_FILE" fun v s => { s with pidFile := v },
   text "BLOCKER_POSTMAP_BIN" fun v s => { s with commands := { s.commands with indexer := v } },
   text "BLOCKER_POSTFIX_BIN" fun v s => { s with commands := { s.commands with control := v } },
   text "BLOCKER_POSTCONF_BIN" fun v s => { s with commands := { s.commands with query := v } },
   text "BLOCKER_LOG_LEVEL" fun v s => { s with logLevel := Text.lower v },
   natural "BLOCKER_BACKOFF_INITIAL_MS" fun v s =>
     { s with backoff := { s.backoff with initialMs := v } },
   natural "BLOCKER_BACKOFF_MAX_MS" fun v s =>
     { s with backoff := { s.backoff with ceilingMs := v } },
   natural "BLOCKER_STATS_INTERVAL" fun v s =>
     { s with stats := { s.stats with intervalSeconds := v } }]

/-- The settings as far as they were overridden, and the error that ended it. -/
def override (env : Environment) : List Override → Settings → Settings × Option SettingsError
  | [], s => (s, none)
  | o :: rest, s =>
    match env o.key with
    | none => override env rest s
    | some v =>
      match o.apply v s with
      | .ok s' => override env rest s'
      | .error e => (s, some e)

def applyEnvironment (env : Environment) (s : Settings) : Settings × Option SettingsError :=
  override env overrides s

end Settings
end BlocklistSync
