import BlocklistSync.Log
import BlocklistSync.Number.Natural
import BlocklistSync.Text.Classes

/-! Which log lines are shown. A filter is a list of directives, separated by commas: a level for
all lines, or a target with an optional level for the areas whose names begin with it. The directive
with the longest target decides. -/
namespace BlocklistSync.LogFilter

/-- The gravest level has verbosity 1; 0 shows nothing. -/
abbrev Verbosity := Nat

def all : Verbosity := 5

structure Directive where
  target : Option String
  /-- The directive speaks only of lines within a span of this name. -/
  span : Option String
  /-- Fields that a line must have, as `name` or `name=value`. -/
  fields : List String
  verbosity : Verbosity
  deriving Repr, DecidableEq

inductive DirectiveError
  | malformed
  | unknownLevel
  deriving Repr, DecidableEq

def DirectiveError.message : DirectiveError → String
  | .malformed => "invalid filter directive"
  | .unknownLevel =>
    "error parsing level filter: expected one of \"off\", \"error\", \"warn\", " ++
      "\"info\", \"debug\", \"trace\", or a number 0-5"

def levelNames : List (String × Verbosity) :=
  [("off", 0), ("error", 1), ("warn", 2), ("info", 3), ("debug", 4), ("trace", 5)]

/-- A level by its name in any case of letters, or by its number. -/
def readLevel? (cs : List Char) : Option Verbosity :=
  match Number.readNatural (UInt64.size - 1) (String.ofList cs) with
  | .ok n => if n ≤ all then some n else none
  | .error _ => levelNames.lookup (String.ofList (cs.map Char.toLower))

/-- The level after an equals sign; without one, everything is shown. -/
def readLevel (cs : List Char) : Except DirectiveError Verbosity :=
  if cs.isEmpty then .ok all
  else match readLevel? cs with
    | some v => .ok v
    | none => .error .unknownLevel

/-- What may follow the target: a span with its fields in brackets, then a level. -/
def readRest (target span : Option String) (fields : List String) :
    List Char → Except DirectiveError Directive
  | [] => .ok ⟨target, span, fields, all⟩
  | '=' :: cs => do return ⟨target, span, fields, ← readLevel cs⟩
  | _ :: _ => .error .malformed

/-- The fields of a span up to the closing brace, which the closing bracket follows. -/
def readFields (target span : Option String) (fields : List String) (field : List Char) :
    List Char → Except DirectiveError Directive
  | [] => .error .malformed
  | c :: cs =>
    if c = '\x7d' then match cs with
      | ']' :: rest => readRest target span (fields ++ [String.ofList field]) rest
      | _ => .error .malformed
    else if c = ',' then readFields target span (fields ++ [String.ofList field]) [] cs
    else readFields target span fields (field ++ [c]) cs

def readSpan (target : Option String) (name : List Char) :
    List Char → Except DirectiveError Directive
  | [] => .error .malformed
  | c :: cs =>
    if c = ']' then readRest target (some (String.ofList name)) [] cs
    else if c = '\x7b' then
      readFields target (if name.isEmpty then none else some (String.ofList name)) [] [] cs
    else readSpan target (name ++ [c]) cs

def readTarget (text : List Char) (name : List Char) : List Char → Except DirectiveError Directive
  | [] => match readLevel? text with
    | some v => .ok ⟨none, none, [], v⟩
    | none => .ok ⟨some (String.ofList text), none, [], all⟩
  | c :: cs =>
    if c = '=' then readRest (some (String.ofList name)) none [] ('=' :: cs)
    else if c = '[' then readSpan (some (String.ofList name)) [] cs
    else readTarget text (name ++ [c]) cs

def isTargetStart (c : Char) : Bool := c = '-' || c = ':' || c = '_' || Text.isAlphanumeric c

/-- A directive that begins with its target or with the bracket of a span. -/
def readFromStart (text : List Char) : Except DirectiveError Directive :=
  match text with
  | [] => .error .malformed
  | '[' :: cs => readSpan none [] cs
  | c :: _ => if isTargetStart c then readTarget text [] text else .error .malformed

/-- Blanks before a directive become part of its target, which then is the name of no area, and with
an equals sign they spoil the level. -/
def Directive.read (text : List Char) : Except DirectiveError Directive :=
  let start := text.dropWhile Text.isBlank
  if start = text then readFromStart text
  else match readFromStart start with
    | .error .malformed => .error .malformed
    | _ => if start.contains '=' then .error .unknownLevel
        else .ok ⟨some (String.ofList text), none, [], all⟩

/-- The parts between commas, save empty ones. -/
def parts (text : String) : List String := (text.splitOn ",").filter (· ≠ "")

/-- No span is ever entered and a line has no field but its message, so that other directives speak
of no line at all. -/
def Directive.isPlain (d : Directive) : Bool := d.span.isNone && d.fields.all (· = "message")

def Directive.coversArea (d : Directive) (area : Area) : Bool :=
  match d.target with
  | none => true
  | some t => t.toList.isPrefixOf area.target.toList

/-- Ranks directives by the length of their targets and then by the number of their fields. -/
def Directive.rank (d : Directive) : Nat × Nat :=
  ((d.target.map fun t => t.utf8ByteSize + 1).getD 0, d.fields.length)

end LogFilter

structure LogFilter where
  directives : List LogFilter.Directive
  deriving Repr, DecidableEq

namespace LogFilter

/-- Without any directive, errors are shown. -/
def ofDirectives (ds : List Directive) : LogFilter :=
  ⟨if ds.isEmpty then [⟨none, none, [], Level.error.verbosity⟩] else ds⟩

def read? (text : String) : Option LogFilter :=
  match (parts text).mapM fun part => Directive.read part.toList with
  | .ok ds => some (ofDirectives ds)
  | .error _ => none

def complaint (part : String) : Option String :=
  match Directive.read part.toList with
  | .ok _ => none
  | .error e => some ("ignoring `" ++ part ++ "`: " ++ e.message)

/-- Leaves out directives that are wrong, with a complaint for each. -/
def readLenient (text : String) : LogFilter × List String :=
  (ofDirectives ((parts text).filterMap fun part => (Directive.read part.toList).toOption),
    (parts text).filterMap complaint)

/-- Of two directives for one area the later counts if its rank is no less. -/
def better (a b : Directive) : Directive :=
  if b.rank.1 > a.rank.1 || (b.rank.1 = a.rank.1 && b.rank.2 ≥ a.rank.2) then b else a

def deciding? (f : LogFilter) (area : Area) : Option Directive :=
  (f.directives.filter fun d => d.isPlain && d.coversArea area).foldl
    (fun best d => some (match best with | none => d | some b => better b d)) none

def shows (f : LogFilter) (l : LogLine) : Bool :=
  match f.deciding? l.area with
  | some d => l.level.verbosity ≤ d.verbosity
  | none => false

/-- The filter of the environment if it has one that reads, else that of the settings. -/
def choose (fromEnvironment : Option String) (fromSettings : String) : LogFilter × List String :=
  match fromEnvironment.bind read? with
  | some f => (f, [])
  | none => readLenient fromSettings

end LogFilter
end BlocklistSync
