import BlocklistSync.Proofs.Settings.Sections
import BlocklistSync.Settings.Load

/-! Settings that a document gives. Each of them has its own place there, in one of the sections or
outside all of them, and is read from that place or has its default, whatever else the document
leaves out. -/
namespace BlocklistSync

inductive Setting
  | storeUrl
  | checkSeconds
  | mapDirectory
  | pidFile
  | indexer
  | control
  | query
  | initialMs
  | ceilingMs
  | logLevel
  | statsEnabled
  | statsSeconds
  deriving DecidableEq

namespace Setting

def Value : Setting → Type
  | checkSeconds => Number.Binary64
  | initialMs | ceilingMs | statsSeconds => UInt64
  | statsEnabled => Bool
  | _ => String

def get : (k : Setting) → Settings → k.Value
  | storeUrl, s => s.storeUrl
  | checkSeconds, s => s.checkSeconds
  | mapDirectory, s => s.mapDirectory
  | pidFile, s => s.pidFile
  | indexer, s => s.commands.indexer
  | control, s => s.commands.control
  | query, s => s.commands.query
  | initialMs, s => s.backoff.initialMs
  | ceilingMs, s => s.backoff.ceilingMs
  | logLevel, s => s.logLevel
  | statsEnabled, s => s.stats.enabled
  | statsSeconds, s => s.stats.intervalSeconds

def put : (k : Setting) → k.Value → Settings → Settings
  | storeUrl, v, s => { s with storeUrl := v }
  | checkSeconds, v, s => { s with checkSeconds := v }
  | mapDirectory, v, s => { s with mapDirectory := v }
  | pidFile, v, s => { s with pidFile := v }
  | indexer, v, s => { s with commands := { s.commands with indexer := v } }
  | control, v, s => { s with commands := { s.commands with control := v } }
  | query, v, s => { s with commands := { s.commands with query := v } }
  | initialMs, v, s => { s with backoff := { s.backoff with initialMs := v } }
  | ceilingMs, v, s => { s with backoff := { s.backoff with ceilingMs := v } }
  | logLevel, v, s => { s with logLevel := v }
  | statsEnabled, v, s => { s with stats := { s.stats with enabled := v } }
  | statsSeconds, v, s => { s with stats := { s.stats with intervalSeconds := v } }

theorem get_put (k : Setting) (v : k.Value) (s : Settings) : k.get (k.put v s) = v := by
  cases k <;> rfl

theorem get_put_of_ne {j k : Setting} (h : j ≠ k) (v : k.Value) (s : Settings) :
    j.get (k.put v s) = j.get s := by
  cases k <;> cases j <;> first | rfl | exact absurd rfl h

section Document
open Settings.Document

def read : (k : Setting) → Toml.Value → Option k.Value
  | checkSeconds => asNumber
  | initialMs | ceilingMs | statsSeconds => asNatural
  | statsEnabled => asBoolean
  | storeUrl | mapDirectory | pidFile | indexer | control | query | logLevel => asString

variable {es : List (String × Toml.Value)}

/-- What a document gives for the setting, in a section or outside all of them. -/
def given? (es : List (String × Toml.Value)) : Setting → Option Toml.Value
  | storeUrl => es.lookup "db_url"
  | checkSeconds => es.lookup "check_interval_secs"
  | mapDirectory => es.lookup "postfix_dir"
  | pidFile => es.lookup "pid_file"
  | indexer => inSection es "commands" "postmap" 0
  | control => inSection es "commands" "postfix" 1
  | query => inSection es "commands" "postconf" 2
  | initialMs => inSection es "backoff" "initial_ms" 0
  | ceilingMs => inSection es "backoff" "max_ms" 1
  | logLevel => inSection es "logging" "level" 0
  | statsEnabled => inSection es "stats" "enable" 0
  | statsSeconds => inSection es "stats" "log_interval_seconds" 1

def documented (es : List (String × Toml.Value)) (k : Setting) : k.Value :=
  ((given? es k).bind k.read).getD (k.get {})

end Document

end Setting

namespace Settings.Document
open Toml

variable {es : List (String × Value)} {s : Settings}

theorem unset_eq : unset = {} := rfl

/-- A field that is left out is the same whether its section is there or not. -/
theorem unset_sections :
    ({} : Settings).commands = unsetCommands ∧ ({} : Settings).backoff = unsetBackoff ∧
    ({} : Settings).logLevel = unsetLogLevel ∧ ({} : Settings).stats = unsetStats :=
      ⟨rfl, rfl, rfl, rfl⟩

theorem owns_storeUrl : Owns fields 0 "db_url" asString Settings.storeUrl :=
  ⟨[], _, _, rfl, rfl, rfl, tells_field fun _ _ => rfl, by simp [apart_field]⟩

theorem owns_checkSeconds : Owns fields 1 "check_interval_secs" asNumber Settings.checkSeconds :=
  ⟨[_], _, _, rfl, rfl, rfl, tells_field fun _ _ => rfl, by simp [apart_field]⟩

theorem owns_mapDirectory : Owns fields 2 "postfix_dir" asString Settings.mapDirectory :=
  ⟨[_, _], _, _, rfl, rfl, rfl, tells_field fun _ _ => rfl, by simp [apart_field]⟩

theorem owns_pidFile : Owns fields 3 "pid_file" asString Settings.pidFile :=
  ⟨[_, _, _], _, _, rfl, rfl, rfl, tells_field fun _ _ => rfl, by simp [apart_field]⟩

theorem owns_commands :
    Owns fields 4 "commands" (section? commandFields unsetCommands) Settings.commands :=
  ⟨[_, _, _, _], _, _, rfl, rfl, rfl, tells_field fun _ _ => rfl, by simp [apart_field]⟩

theorem owns_backoff :
    Owns fields 5 "backoff" (section? backoffFields unsetBackoff) Settings.backoff :=
  ⟨[_, _, _, _, _], _, _, rfl, rfl, rfl, tells_field fun _ _ => rfl, by simp [apart_field]⟩

theorem owns_logLevel :
    Owns fields 6 "logging" (section? loggingFields unsetLogLevel) Settings.logLevel :=
  ⟨[_, _, _, _, _, _], _, _, rfl, rfl, rfl, tells_field fun _ _ => rfl, by simp [apart_field]⟩

theorem owns_stats : Owns fields 7 "stats" (section? statsFields unsetStats) Settings.stats :=
  ⟨[_, _, _, _, _, _, _], _, _, rfl, rfl, rfl, tells_field fun _ _ => rfl, by simp [apart_field]⟩

theorem owns_indexer : Owns commandFields 0 "postmap" asString CommandSettings.indexer :=
  ⟨[], _, _, rfl, rfl, rfl, tells_field fun _ _ => rfl, by simp [apart_field]⟩

theorem owns_control : Owns commandFields 1 "postfix" asString CommandSettings.control :=
  ⟨[_], _, _, rfl, rfl, rfl, tells_field fun _ _ => rfl, by simp [apart_field]⟩

theorem owns_query : Owns commandFields 2 "postconf" asString CommandSettings.query :=
  ⟨[_, _], _, _, rfl, rfl, rfl, tells_field fun _ _ => rfl, by simp [apart_field]⟩

theorem owns_initialMs : Owns backoffFields 0 "initial_ms" asNatural BackoffSettings.initialMs :=
  ⟨[], _, _, rfl, rfl, rfl, tells_field fun _ _ => rfl, by simp [apart_field]⟩

theorem owns_ceilingMs : Owns backoffFields 1 "max_ms" asNatural BackoffSettings.ceilingMs :=
  ⟨[_], _, _, rfl, rfl, rfl, tells_field fun _ _ => rfl, by simp [apart_field]⟩

theorem owns_level : Owns loggingFields 0 "level" asString id :=
  ⟨[], _, _, rfl, rfl, rfl, tells_field fun _ _ => rfl, by simp⟩

theorem owns_enabled : Owns statsFields 0 "enable" asBoolean StatsSettings.enabled :=
  ⟨[], _, _, rfl, rfl, rfl, tells_field fun _ _ => rfl, by simp [apart_field]⟩

theorem owns_intervalSeconds :
    Owns statsFields 1 "log_interval_seconds" asNatural StatsSettings.intervalSeconds :=
  ⟨[_], _, _, rfl, rfl, rfl, tells_field fun _ _ => rfl, by simp [apart_field]⟩

/-- Each setting is read from its own place, and is its default just if nothing is there. -/
theorem elim_given (hes : (Value.table es).WellKeyed) (h : ofEntries fields es {} = some s)
    (k : Setting) :
    (k.given? es).elim (some (k.get {})) k.read = some (k.get s) := by
  have hkeys := nodup_keys hes
  obtain ⟨hcommands, hbackoff, hlogLevel, hstats⟩ := unset_sections
  cases k with
  | storeUrl => exact owns_storeUrl.get_ofEntries hkeys h
  | checkSeconds => exact owns_checkSeconds.get_ofEntries hkeys h
  | mapDirectory => exact owns_mapDirectory.get_ofEntries hkeys h
  | pidFile => exact owns_pidFile.get_ofEntries hkeys h
  | indexer => exact owns_commands.get_inSection owns_indexer hes h hcommands
  | control => exact owns_commands.get_inSection owns_control hes h hcommands
  | query => exact owns_commands.get_inSection owns_query hes h hcommands
  | initialMs => exact owns_backoff.get_inSection owns_initialMs hes h hbackoff
  | ceilingMs => exact owns_backoff.get_inSection owns_ceilingMs hes h hbackoff
  | logLevel => exact owns_logLevel.get_inSection owns_level hes h hlogLevel
  | statsEnabled => exact owns_stats.get_inSection owns_enabled hes h hstats
  | statsSeconds => exact owns_stats.get_inSection owns_intervalSeconds hes h hstats

theorem get_eq_documented (hes : (Value.table es).WellKeyed) (h : ofEntries fields es {} = some s)
    (k : Setting) :
    k.get s = k.documented es := by
  have hread := elim_given hes h k
  rw [Setting.documented]
  cases hv : k.given? es with
  | none =>
    rw [hv, Option.elim_none] at hread
    exact (Option.some.inj hread).symm
  | some v =>
    rw [hv, Option.elim_some] at hread
    rw [Option.bind_some, hread, Option.getD_some]

def sectionNames : List String := ["commands", "backoff", "logging", "stats"]

/-- What the document gives for a section is one, and what it gives for a setting is of the
setting's type. -/
structure Fits (es : List (String × Value)) : Prop where
  sections : ∀ name ∈ sectionNames, ∀ v, es.lookup name = some v → IsSection v
  settings : ∀ (k : Setting) v, k.given? es = some v → (k.read v).isSome

theorem isSome_set_field {σ α : Type} {name : String} {read : Value → Option α} {put : α → σ → σ}
    {v : Value} {t : σ} :
    ((field name read put).set v t).isSome = (read v).isSome := Option.isSome_map

/-- A section that fits can be read, if each of its fields is that of a setting. -/
theorem Fits.isSome_section? {σ : Type} {inner : List (Field σ)} {default : σ} {key : String}
    {v : Value} (h : Fits es) (hes : (Value.table es).WellKeyed) (hkey : key ∈ sectionNames)
    (hv : es.lookup key = some v) (hinner : ∀ (place : ℕ) (f : Field σ), inner[place]? = some f →
      ∃ k : Setting, k.given? es = inSection es key f.name place ∧ ∀ w t,
        (f.set w t).isSome = (k.read w).isSome) :
    (section? inner default v).isSome := by
  refine Document.isSome_section? (h.sections key hkey v hv) (wellKeyed_of_lookup hes hv)
    fun place f w hf hw t => ?_
  obtain ⟨k, hk, hset⟩ := hinner place f hf
  rw [hset]
  exact h.settings k w (by rw [hk, inSection, hv, Option.bind_some, hw])

theorem Fits.isSome_ofEntries (h : Fits es) (hes : (Value.table es).WellKeyed) :
    (ofEntries fields es s).isSome := by
  refine Document.isSome_ofEntries fun e he f hf hname t => ?_
  have hlookup := lookup_of_mem (nodup_keys hes) he
  have hkeyed := wellKeyed_of_lookup hes hlookup
  rw [← hname] at hlookup
  simp only [fields, List.mem_cons, List.not_mem_nil, or_false] at hf
  rcases hf with rfl | rfl | rfl | rfl | rfl | rfl | rfl | rfl <;> rw [isSome_set_field]
  · exact h.settings .storeUrl e.2 hlookup
  · exact h.settings .checkSeconds e.2 hlookup
  · exact h.settings .mapDirectory e.2 hlookup
  · exact h.settings .pidFile e.2 hlookup
  · refine h.isSome_section? hes (by decide) hlookup fun place f hf => ?_
    match place, hf with
    | 0, rfl => exact ⟨.indexer, rfl, fun _ _ => isSome_set_field⟩
    | 1, rfl => exact ⟨.control, rfl, fun _ _ => isSome_set_field⟩
    | 2, rfl => exact ⟨.query, rfl, fun _ _ => isSome_set_field⟩
  · refine h.isSome_section? hes (by decide) hlookup fun place f hf => ?_
    match place, hf with
    | 0, rfl => exact ⟨.initialMs, rfl, fun _ _ => isSome_set_field⟩
    | 1, rfl => exact ⟨.ceilingMs, rfl, fun _ _ => isSome_set_field⟩
  · refine h.isSome_section? hes (by decide) hlookup fun place f hf => ?_
    match place, hf with
    | 0, rfl => exact ⟨.logLevel, rfl, fun _ _ => isSome_set_field⟩
  · refine h.isSome_section? hes (by decide) hlookup fun place f hf => ?_
    match place, hf with
    | 0, rfl => exact ⟨.statsEnabled, rfl, fun _ _ => isSome_set_field⟩
    | 1, rfl => exact ⟨.statsSeconds, rfl, fun _ _ => isSome_set_field⟩

theorem isSection_of_ofEntries (hes : (Value.table es).WellKeyed)
    (h : ofEntries fields es {} = some s) :
    ∀ name ∈ sectionNames, ∀ v, es.lookup name = some v → IsSection v := by
  have hkeys := nodup_keys hes
  simp only [sectionNames, List.forall_mem_cons]
  exact ⟨fun _ => owns_commands.isSection hkeys h, fun _ => owns_backoff.isSection hkeys h,
    fun _ => owns_logLevel.isSection hkeys h, fun _ => owns_stats.isSection hkeys h, nofun⟩

/-- A document is refused for what it gives, never for what it leaves out. -/
theorem exists_ofEntries_iff (hes : (Value.table es).WellKeyed) :
    (∃ s, ofEntries fields es {} = some s) ↔ Fits es := by
  constructor
  · rintro ⟨s, hs⟩
    refine ⟨isSection_of_ofEntries hes hs, fun k v hv => ?_⟩
    have hread := elim_given hes hs k
    rw [hv, Option.elim_some] at hread
    rw [hread]
    rfl
  · exact fun h => Option.isSome_iff_exists.mp (h.isSome_ofEntries hes)

end Settings.Document
end BlocklistSync
