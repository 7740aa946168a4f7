import BlocklistSync.Settings.Basic
import BlocklistSync.Settings.Error
import BlocklistSync.Toml.Document

/-! Settings from a TOML document. Whatever the document leaves out has its default: in a section
that is given each missing field its own, and a section that is missing is that of settings without
a document. Keys that mean nothing are passed over; a known key must hold a value of its type. -/
namespace BlocklistSync.Settings.Document
open BlocklistSync.Toml

def asString : Value → Option String
  | .string s => some s
  | _ => none

def asBoolean : Value → Option Bool
  | .boolean b => some b
  | _ => none

/-- A whole number will do where a fraction is expected. -/
def asNumber : Value → Option Number.Binary64
  | .float x => some x
  | .integer i => some (.ofInt i)
  | _ => none

def asNatural : Value → Option UInt64
  | .integer i => if 0 ≤ i then some i.toNat.toUInt64 else none
  | _ => none

/-- A field of a section: its name, and how its value changes the section. -/
structure Field (σ : Type) where
  name : String
  set : Value → σ → Option σ

def field {σ α : Type} (name : String) (read : Value → Option α) (put : α → σ → σ) : Field σ :=
  ⟨name, fun v s => (read v).map (put · s)⟩

def ofEntries {σ : Type} (fields : List (Field σ)) : List (String × Value) → σ → Option σ
  | [], s => some s
  | (k, v) :: rest, s =>
    match fields.find? (·.name == k) with
    | some f => (f.set v s).bind (ofEntries fields rest)
    | none => ofEntries fields rest s

/-- An array gives the fields in their own order; those it does not reach have their defaults. -/
def ofItems {σ : Type} : List (Field σ) → List Value → σ → Option σ
  | f :: fields, v :: rest, s => (f.set v s).bind (ofItems fields rest)
  | _, _, s => some s

/-- A section, and what it is while none of its fields has been read. -/
def section? {σ : Type} (fields : List (Field σ)) (unset : σ) : Value → Option σ
  | .table entries => ofEntries fields entries unset
  | .array items => ofItems fields items unset
  | .dateTime _ => some unset
  | _ => none

def commandFields : List (Field CommandSettings) :=
  [field "postmap" asString fun v s => { s with indexer := v },
   field "postfix" asString fun v s => { s with control := v },
   field "postconf" asString fun v s => { s with query := v }]

def unsetCommands : CommandSettings := ⟨Default.indexer, Default.control, Default.query⟩

def backoffFields : List (Field BackoffSettings) :=
  [field "initial_ms" asNatural fun v s => { s with initialMs := v },
   field "max_ms" asNatural fun v s => { s with ceilingMs := v }]

def unsetBackoff : BackoffSettings := ⟨Default.initialMs, Default.ceilingMs⟩

/-- The logging section has one field. -/
def loggingFields : List (Field String) := [field "level" asString fun v _ => v]

def unsetLogLevel : String := Default.logLevel

def statsFields : List (Field StatsSettings) :=
  [field "enable" asBoolean fun v s => { s with enabled := v },
   field "log_interval_seconds" asNatural fun v s => { s with intervalSeconds := v }]

def unsetStats : StatsSettings := ⟨Default.statsEnabled, Default.statsSeconds⟩

def fields : List (Field Settings) :=
  [field "db_url" asString fun v s => { s with storeUrl := v },
   field "check_interval_secs" asNumber fun v s => { s with checkSeconds := v },
   field "postfix_dir" asString fun v s => { s with mapDirectory := v },
   field "pid_file" asString fun v s => { s with pidFile := v },
   field "commands" (section? commandFields unsetCommands) fun v s => { s with commands := v },
   field "backoff" (section? backoffFields unsetBackoff) fun v s => { s with backoff := v },
   field "logging" (section? loggingFields unsetLogLevel) fun v s => { s with logLevel := v },
   field "stats" (section? statsFields unsetStats) fun v s => { s with stats := v }]

def unset : Settings where
  storeUrl := Default.storeUrl
  checkSeconds := Default.checkSeconds
  mapDirectory := Default.mapDirectory
  pidFile := Default.pidFile
  commands := {}
  backoff := {}
  logLevel := ({} : Settings).logLevel
  stats := {}

def settings? (text : String) : Option Settings := do
  ofEntries fields (← document? text) unset

end Document

def ofDocument (bytes : Bytes) : Except SettingsError Settings :=
  match Text.Utf8.decode? bytes with
  | none => .error (.unreadable .notText)
  | some text =>
    match Document.settings? text with
    | some s => .ok s
    | none => .error .malformed

end BlocklistSync.Settings
