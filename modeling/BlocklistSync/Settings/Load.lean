import BlocklistSync.FileTree.Operations
import BlocklistSync.Settings.Document
import BlocklistSync.Settings.Environment
import BlocklistSync.Settings.Validate

/-! The settings that the daemon runs on: defaults, then the document that the environment names if
there is one, then the environment itself, and at last the checks. -/
namespace BlocklistSync.Settings

def load (t : FileTree) (path : String) : Except SettingsError Settings :=
  match t.read path with
  | .ok bytes => ofDocument bytes
  | .error e => .error (.unreadable e)

def documentVariable : String := "BLOCKER_CONFIG"

def base (t : FileTree) (env : Environment) : Except SettingsError Settings :=
  match env documentVariable with
  | some path => if t.pathExists path then load t path else .ok {}
  | none => .ok {}

def fromEnvironment (t : FileTree) (env : Environment) : Except SettingsError Settings := do
  let s ← base t env
  match s.applyEnvironment env with
  | (s, none) => do
    s.validate
    return s
  | (_, some e) => .error e

end BlocklistSync.Settings
