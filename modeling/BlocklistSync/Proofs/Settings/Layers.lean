import BlocklistSync.Proofs.Settings.Given
import BlocklistSync.Proofs.Text.Utf8
import BlocklistSync.Settings.Load

/-! The layers of the settings. Each setting has the value of its variable if that is set, or else
the one that the document gives, or else its default, and no setting depends on where another one
comes from. The variables are taken in a fixed order, and the first whose value is not the number it
should be leaves its own setting and all later ones as they were. -/
namespace BlocklistSync

/-- The environment of a process, whose variables are bytes: one that is no text counts as not
set. -/
def Environment.ofBytes (raw : String → Option Bytes) : Environment :=
  fun key => (raw key).bind Text.Utf8.decode?

namespace Setting

section Variables
variable (env : Environment) (key : String)

def textOf : Option (Except SettingsError String) := (env key).map .ok

def loweredOf : Option (Except SettingsError String) := (env key).map fun v => .ok (Text.lower v)

def numberOf : Option (Except SettingsError Number.Binary64) :=
  (env key).map fun v => (Number.Binary64.read (Text.trim v)).mapError (.notANumber key v)

def naturalOf : Option (Except SettingsError UInt64) :=
  (env key).map fun v =>
    ((Number.readNatural (UInt64.size - 1) (Text.trim v)).map Nat.toUInt64).mapError
      (.notANatural key v)

end Variables

variable {env : Environment} {s : Settings} {j k : Setting} {ks before after : List Setting}
  {os : List Settings.Override} {o : Settings.Override} {e : SettingsError}

/-- What the variable of a setting says, if it has one and that is set: a value, or that it is not
the number it should be. -/
def inEnvironment (env : Environment) : (k : Setting) → Option (Except SettingsError k.Value)
  | storeUrl => textOf env "BLOCKER_DB_URL"
  | checkSeconds => numberOf env "BLOCKER_INTERVAL"
  | mapDirectory => textOf env "POSTFIX_DIR"
  | pidFile => textOf env "BLOCKER_PID_FILE"
  | indexer => textOf env "BLOCKER_POSTMAP_BIN"
  | control => textOf env "BLOCKER_POSTFIX_BIN"
  | query => textOf env "BLOCKER_POSTCONF_BIN"
  | logLevel => loweredOf env "BLOCKER_LOG_LEVEL"
  | initialMs => naturalOf env "BLOCKER_BACKOFF_INITIAL_MS"
  | ceilingMs => naturalOf env "BLOCKER_BACKOFF_MAX_MS"
  | statsSeconds => naturalOf env "BLOCKER_STATS_INTERVAL"
  | statsEnabled => none

/-- The settings that have a variable, in the order in which these are taken. -/
def consulted : List Setting :=
  [storeUrl, checkSeconds, mapDirectory, pidFile, indexer, control, query, logLevel, initialMs,
    ceilingMs, statsSeconds]

def fails (env : Environment) (k : Setting) : Bool :=
  match k.inEnvironment env with
  | some (.error _) => true
  | _ => false

def overriding? (env : Environment) (k : Setting) : Option k.Value :=
  (k.inEnvironment env).bind Except.toOption

theorem mem_consulted_or (env : Environment) (k : Setting) :
    k ∈ consulted ∨ k.inEnvironment env = none := by
  cases k with
  | statsEnabled => exact .inr rfl
  | _ => exact .inl (by decide)

/-- The override does to the settings what the variable of this one says. -/
def Consults (k : Setting) (o : Settings.Override) : Prop :=
  ∀ env s, (env o.key).map (o.apply · s) = (k.inEnvironment env).map fun r => r.map (k.put · s)

section Overrides
variable (key : String)

theorem map_text (put : String → Settings → Settings) (env : Environment) (s : Settings) :
    (env key).map ((Settings.Override.text key put).apply · s) = (textOf env key).map fun r => r.map
      (put · s) := by
  rw [textOf, Option.map_map]
  rfl

theorem map_lowered (put : String → Settings → Settings) (env : Environment) (s : Settings) :
    (env key).map ((Settings.Override.text key fun v => put (Text.lower v)).apply · s) =
      (loweredOf env key).map fun r => r.map (put · s) := by
  rw [loweredOf, Option.map_map]
  rfl

theorem map_number (put : Number.Binary64 → Settings → Settings) (env : Environment)
    (s : Settings) :
    (env key).map ((Settings.Override.number key put).apply · s) = (numberOf env key).map fun r =>
      r.map (put · s) := by
  rw [numberOf, Option.map_map]
  refine Option.map_congr fun v _ => ?_
  simp only [Settings.Override.number, Function.comp_apply]
  cases Number.Binary64.read (Text.trim v) <;> rfl

theorem map_natural (put : UInt64 → Settings → Settings) (env : Environment) (s : Settings) :
    (env key).map ((Settings.Override.natural key put).apply · s) =
      (naturalOf env key).map fun r => r.map (put · s) := by
  rw [naturalOf, Option.map_map]
  refine Option.map_congr fun v _ => ?_
  simp only [Settings.Override.natural, Function.comp_apply]
  cases Number.readNatural (UInt64.size - 1) (Text.trim v) <;> rfl

open Settings.Override in
theorem overrides_eq : Settings.overrides =
    [text "BLOCKER_DB_URL" (put storeUrl), number "BLOCKER_INTERVAL" (put checkSeconds),
      text "POSTFIX_DIR" (put mapDirectory), text "BLOCKER_PID_FILE" (put pidFile),
      text "BLOCKER_POSTMAP_BIN" (put indexer), text "BLOCKER_POSTFIX_BIN" (put control),
      text "BLOCKER_POSTCONF_BIN" (put query),
      text "BLOCKER_LOG_LEVEL" (fun v => put logLevel (Text.lower v)),
      natural "BLOCKER_BACKOFF_INITIAL_MS" (put initialMs), natural "BLOCKER_BACKOFF_MAX_MS"
        (put ceilingMs),
      natural "BLOCKER_STATS_INTERVAL" (put statsSeconds)] := rfl

theorem consults : List.Forall₂ Consults consulted Settings.overrides := by
  rw [overrides_eq]
  exact .cons (map_text _ (put storeUrl)) <| .cons (map_number _ (put checkSeconds)) <|
    .cons (map_text _ (put mapDirectory)) <| .cons (map_text _ (put pidFile)) <|
      .cons (map_text _ (put indexer)) <|
    .cons (map_text _ (put control)) <| .cons (map_text _ (put query)) <|
      .cons (map_lowered _ (put logLevel)) <|
    .cons (map_natural _ (put initialMs)) <| .cons (map_natural _ (put ceilingMs)) <|
    .cons (map_natural _ (put statsSeconds)) .nil

end Overrides

section Run

/-- The settings with the value of one variable in place. -/
def lay (env : Environment) (s : Settings) (k : Setting) : Settings :=
  (k.overriding? env).elim s (k.put · s)

theorem get_lay (j k : Setting) :
    j.get (lay env s k) = if j = k then (j.overriding? env).getD (j.get s) else j.get s := by
  rw [lay]
  by_cases h : j = k
  · subst h
    rw [if_pos rfl]
    cases j.overriding? env with
    | none => rfl
    | some v => exact get_put j v s
  · rw [if_neg h]
    cases k.overriding? env with
    | none => rfl
    | some v => exact get_put_of_ne h v s

theorem get_foldl_lay (hks : ks.Nodup) (j : Setting) :
    j.get (ks.foldl (lay env) s) = if j ∈ ks then (j.overriding? env).getD
      (j.get s) else j.get s := by
  induction ks generalizing s with
  | nil => simp
  | cons k ks ih =>
    obtain ⟨hk, hks⟩ := List.nodup_cons.mp hks
    rw [List.foldl_cons, ih hks, get_lay]
    by_cases h : j = k
    · subst h
      simp [hk]
    · simp [h]

theorem override_cons_of_not_fails (h : Consults k o) (hk : k.fails env = false) :
    Settings.override env (o :: os) s = Settings.override env os (lay env s k) := by
  have hstep := h env s
  rw [Settings.override, lay, overriding?]
  rw [fails] at hk
  cases hv : env o.key with
  | none =>
    rw [hv, Option.map_none] at hstep
    rw [Option.map_eq_none_iff.mp hstep.symm]
    rfl
  | some v =>
    rw [hv, Option.map_some] at hstep
    obtain ⟨r, hr, happly⟩ := Option.map_eq_some_iff.mp hstep.symm
    rw [hr] at hk ⊢
    dsimp only
    cases r with
    | ok v' =>
      rw [← happly]
      rfl
    | error e => cases hk

theorem override_cons_of_error (h : Consults k o) (hk : k.inEnvironment env = some (.error e)) :
    Settings.override env (o :: os) s = (s, some e) := by
  have hstep := h env s
  rw [hk, Option.map_some] at hstep
  obtain ⟨v, hv, happly⟩ := Option.map_eq_some_iff.mp hstep
  rw [Settings.override, hv]
  dsimp only
  rw [happly]
  rfl

theorem override_of_not_fails (h : List.Forall₂ Consults ks os)
    (hks : ∀ k ∈ ks, k.fails env = false) :
    Settings.override env os s = (ks.foldl (lay env) s, none) := by
  induction h generalizing s with
  | nil => rfl
  | cons hk _ ih =>
    obtain ⟨hfirst, hks⟩ := List.forall_mem_cons.mp hks
    rw [override_cons_of_not_fails hk hfirst]
    exact ih hks

theorem override_of_error (h : List.Forall₂ Consults (before ++ k :: after) os)
    (hbefore : ∀ j ∈ before, j.fails env = false) (hk : k.inEnvironment env = some (.error e)) :
    Settings.override env os s = (before.foldl (lay env) s, some e) := by
  induction before generalizing os s with
  | nil =>
    cases h with
    | cons h _ => exact override_cons_of_error h hk
  | cons j before ih =>
    obtain ⟨hj, hbefore⟩ := List.forall_mem_cons.mp hbefore
    cases h with
    | cons hfirst h =>
      rw [override_cons_of_not_fails hfirst hj]
      exact ih h hbefore

theorem exists_first_fails (h : ∃ k : Setting, k.fails env) :
    ∃ before k after e, consulted = before ++ k :: after ∧
    (∀ j ∈ before, j.fails env = false) ∧ k.inEnvironment env = some (.error e) := by
  obtain ⟨k, hk⟩ := h
  have hmem : k ∈ consulted := by
    refine (mem_consulted_or env k).resolve_right fun hnone => ?_
    rw [fails, hnone] at hk
    cases hk
  obtain ⟨first, hfirst⟩ := Option.isSome_iff_exists.mp (List.find?_isSome.mpr ⟨k, hmem, hk⟩)
  obtain ⟨hfails, before, after, hsplit, hbefore⟩ := List.find?_eq_some_iff_append.mp hfirst
  refine ⟨before, first, after, ?_⟩
  rw [fails] at hfails
  split at hfails
  · next e he => exact ⟨e, hsplit, fun j hj => by simpa using hbefore j hj, he⟩
  · cases hfails

end Run

end Setting

namespace Settings
open Setting

variable {t : FileTree} {path text : String} {bytes : Bytes} {es : List (String × Toml.Value)}

theorem load_eq_ok_iff (hfile : t.read path = .ok bytes)
    (htext : Text.Utf8.decode? bytes = some text) (hdocument : Toml.document? text = some es)
    {s : Settings} :
    load t path = .ok s ↔ Document.ofEntries Document.fields es {} = some s := by
  simp only [load, hfile, ofDocument, htext, Document.settings?, Document.unset_eq, hdocument,
    Option.bind_eq_bind, Option.bind_some]
  split <;> simp_all

/-- The outcome of laying an environment over a document: if every variable reads, each setting has
the value of its variable, or else what the document says of it; and if one does not, the first of
them ends it with its error, the variables before it being laid over the document already. -/
structure Layered (env : Environment) (es : List (String × Toml.Value))
    (outcome : Settings × Option SettingsError) :
    Prop where
  whole : (∀ k : Setting, k.fails env = false) →
    outcome.2 = none ∧ ∀ k : Setting, k.get outcome.1 = (k.overriding? env).getD (k.documented es)
  part : (∃ k : Setting, k.fails env) → ∃ before k after e, consulted = before ++ k :: after ∧
    (∀ j ∈ before, j.fails env = false) ∧ k.inEnvironment env = some (.error e) ∧
      outcome.2 = some e ∧
    ∀ j : Setting, j.get outcome.1 = if j ∈ before then (j.overriding? env).getD (j.documented es)
      else j.documented es

theorem layered_applyEnvironment (env : Environment) {s : Settings}
    (hs : ∀ k : Setting, k.get s = k.documented es) :
    Layered env es (s.applyEnvironment env) := by
  have hnodup : consulted.Nodup := by decide
  constructor
  · intro hfine
    rw [applyEnvironment, override_of_not_fails consults fun k _ => hfine k]
    refine ⟨rfl, fun k => ?_⟩
    rw [get_foldl_lay hnodup, hs]
    rcases mem_consulted_or env k with hk | hk
    · rw [if_pos hk]
    · rw [overriding?, hk]
      exact ite_self _
  · intro hfails
    obtain ⟨before, k, after, e, hsplit, hbefore, hk⟩ := exists_first_fails hfails
    have hprefix : before.Nodup := (List.nodup_append.mp (hsplit ▸ hnodup)).1
    refine ⟨before, k, after, e, hsplit, hbefore, hk, ?_⟩
    rw [applyEnvironment, override_of_error (hsplit ▸ consults) hbefore hk]
    exact ⟨rfl, fun j => by rw [get_foldl_lay hprefix, hs]⟩

/-- A document that parses is loaded just if it fits the settings, and then they come in layers. -/
theorem layered_of_load (hfile : t.read path = .ok bytes)
    (htext : Text.Utf8.decode? bytes = some text) (hdocument : Toml.document? text = some es)
    (raw : String → Option Bytes) :
    ((∃ s, load t path = .ok s) ↔ Document.Fits es) ∧
      ∀ s, load t path = .ok s → Layered (.ofBytes raw) es (s.applyEnvironment (.ofBytes raw)) := by
  have hes := Toml.document?_wellKeyed hdocument
  have hload (s : Settings) := load_eq_ok_iff (s := s) hfile htext hdocument
  refine ⟨by simp only [hload, Document.exists_ofEntries_iff hes], fun s hs => ?_⟩
  exact layered_applyEnvironment _ (Document.get_eq_documented hes ((hload s).mp hs))

section Example

/-- One section is filled in part, one is empty and the others are missing. -/
def partialText : String :=
  "check_interval_secs = 2\n[commands]\npostmap = \"/opt/postmap\"\n[stats]\n"

def partialTree : FileTree :=
  ⟨[(["settings.toml"], .file 0)], [(0, ⟨.ofText partialText, 0o644⟩)], []⟩

def partialSettings : Settings :=
  { checkSeconds := .ofInt 2, commands := { indexer := "/opt/postmap" } }

/-- The directory is no text. -/
def sparseRaw : String → Option Bytes
  | "POSTFIX_DIR" => some [0xff]
  | "BLOCKER_LOG_LEVEL" => some (Text.Utf8.encode "DEBUG")
  | "BLOCKER_BACKOFF_MAX_MS" => some (Text.Utf8.encode " 1000\n")
  | _ => none

def brokenRaw : String → Option Bytes
  | "BLOCKER_LOG_LEVEL" => some (Text.Utf8.encode "DEBUG")
  | "BLOCKER_BACKOFF_INITIAL_MS" => some (Text.Utf8.encode "soon")
  | "BLOCKER_STATS_INTERVAL" => some (Text.Utf8.encode "10")
  | _ => none

theorem layered_of_load_of_partial :
    partialTree.read "/settings.toml" = .ok (Text.Utf8.encode partialText) ∧
    ∃ es, Toml.document? partialText = some es ∧ Document.Fits es ∧
      load partialTree "/settings.toml" = .ok partialSettings ∧
      Layered (.ofBytes sparseRaw) es (partialSettings.applyEnvironment (.ofBytes sparseRaw)) ∧
      partialSettings.applyEnvironment (.ofBytes sparseRaw) =
        ({ partialSettings with logLevel := "debug", backoff := { ceilingMs := 1000 } }, none) ∧
      Layered (.ofBytes brokenRaw) es (partialSettings.applyEnvironment (.ofBytes brokenRaw)) ∧
      partialSettings.applyEnvironment (.ofBytes brokenRaw) =
        ({ partialSettings with logLevel := "debug" },
          some (.notANatural "BLOCKER_BACKOFF_INITIAL_MS" "soon" .invalidDigit)) := by
  have hfile : partialTree.read "/settings.toml" = .ok (Text.Utf8.encode partialText) := by
    decide +kernel
  have htext : Text.Utf8.decode? (Text.Utf8.encode partialText) = some partialText :=
    Text.Utf8.decode?_encode _
  obtain ⟨es, hdocument⟩ := Option.isSome_iff_exists.mp
    (by decide +kernel : (Toml.document? partialText).isSome = true)
  have hload : load partialTree "/settings.toml" = .ok partialSettings := by decide +kernel
  obtain ⟨hfits, hsparse⟩ := layered_of_load hfile htext hdocument sparseRaw
  obtain ⟨-, hbroken⟩ := layered_of_load hfile htext hdocument brokenRaw
  exact ⟨hfile, es, hdocument, hfits.mp ⟨_, hload⟩, hload, hsparse _ hload, by decide +kernel,
    hbroken _ hload, by decide +kernel⟩

end Example

end Settings
end BlocklistSync
