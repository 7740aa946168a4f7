import BlocklistSync.MailServer.Command
import BlocklistSync.Script.Arithmetic
import BlocklistSync.Script.Reader
import BlocklistSync.Script.Tools

/-! Running shell scripts on a file tree. -/
namespace BlocklistSync.Script
open Text

/-- Where a stream of output goes. -/
inductive Sink
  | buffer (number : Nat)
  | file (number : Nat)
  | nowhere
  deriving Repr, DecidableEq

structure Streams where
  input : Bytes
  output : Sink
  errors : Sink

structure Shell where
  tree : FileTree
  buffers : List (Nat × Bytes)
  nextBuffer : Nat
  bindings : List (String × String)
  arguments : List String
  name : String
  status : Nat
  /-- A command that fails ends the script, save where its failure is looked at. -/
  strict : Bool
  ended : Option Ending

/-- The process id that a script sees as its own. -/
def scriptPid : Nat := 4194303

namespace Shell

def buffered (s : Shell) (number : Nat) : Bytes := (Keyed.get? number s.buffers).getD []

def put (s : Shell) (sink : Sink) (bytes : Bytes) : Shell :=
  if bytes.isEmpty then s
  else match sink with
    | .nowhere => s
    | .buffer n => { s with buffers := Keyed.insert n (s.buffered n ++ bytes) s.buffers }
    | .file n => match s.tree.body? n with
      | some ⟨.bytes old, mode⟩ => { s with tree := s.tree.setBody n ⟨.bytes (old ++ bytes), mode⟩ }
      | _ => s

def complain (s : Shell) (io : Streams) (line : Nat) (text : String) : Shell :=
  s.put io.errors (Utf8.encode s!"{s.name}: {line}: {text}\n")

def value (s : Shell) (name : String) : String :=
  match name with
  | "*" | "@" => " ".intercalate s.arguments
  | "#" => toString s.arguments.length
  | "?" => toString s.status
  | "$" => toString scriptPid
  | "0" => s.name
  | _ => match name.toNat? with
    | some n => (s.arguments[n - 1]?).getD ""
    | none => (s.bindings.lookup name).getD ""

def isSet (s : Shell) (name : String) : Bool :=
  match name.toNat? with
  | some n => n ≤ s.arguments.length
  | none => (s.bindings.lookup name).isSome || name.length = 1 && name.all isSpecialParameter

def exit (s : Shell) (code : Nat) : Shell := { s with ended := some (.exited (code % 256)) }

/-- Runs `f` where failures are looked at. -/
def leniently (s : Shell) (f : Shell → Shell) : Shell :=
  { f { s with strict := false } with strict := s.strict }

/-- Ends a strict script whose last command failed. -/
def heed (s : Shell) : Shell :=
  if s.strict && s.status ≠ 0 && s.ended.isNone then s.exit s.status else s

end Shell

/-- Fields of a word as it is put together: those that are done, and the one at hand. -/
structure Fields where
  done : List String
  current : Option (List Char)

namespace Fields

def add (f : Fields) (cs : List Char) : Fields :=
  { f with current := some (f.current.getD [] ++ cs) }

def cut (f : Fields) : Fields :=
  match f.current with
  | some cs => ⟨f.done ++ [String.ofList cs], none⟩
  | none => f

/-- A value outside quotes: blanks in it end a field. -/
def addSplit (f : Fields) (cs : List Char) : Fields :=
  cs.foldl (fun f c => if c = ' ' || c = '\t' || c = '\n' then f.cut else f.add [c]) f

def addAll (f : Fields) : List String → Fields
  | [] => f
  | [a] => f.add a.toList
  | a :: rest => ((f.add a.toList).cut).addAll rest

def toList (f : Fields) : List String := f.cut.done

end Fields

/-- Part of a pattern: a character that stands for itself, or one with a meaning. -/
inductive Glyph
  | plain (c : Char)
  | wild (c : Char)

/-- Whether a pattern with stars and question marks covers the text. -/
def covers : List Glyph → List Char → Bool
  | [], cs => cs.isEmpty
  | .wild '*' :: ps, [] => covers ps []
  | .wild '*' :: ps, c :: cs => covers ps (c :: cs) || covers (.wild '*' :: ps) cs
  | .wild '?' :: ps, _ :: cs => covers ps cs
  | .wild p :: ps, c :: cs => p == c && covers ps cs
  | .plain p :: ps, c :: cs => p == c && covers ps cs
  | _ :: _, [] => false
  termination_by ps cs => ps.length + cs.length

/-- Drops what a pattern covers at the front of a text, as much as may be if `longest`. -/
def dropCovered (pattern : List Glyph) (longest : Bool) (cs : List Char) : List Char :=
  let sizes := List.range (cs.length + 1)
  match (if longest then sizes.reverse else sizes).find? fun n => covers pattern (cs.take n) with
  | some n => cs.drop n
  | none => cs

def dropNewlines (b : Bytes) : Bytes := (b.reverse.dropWhile (· = 10)).reverse

def signalNumber? (name : String) : Option Nat :=
  match name.toNat? with
  | some n => some n
  | none => (signalNames.find? fun (_, full) => full = s!"SIG{name}").map (·.1)

/-- The signal and the process ids that the arguments of `kill` name, or what is wrong with them. -/
def killArguments : List String → Except String (Nat × List String)
  | "-s" :: name :: pids => match signalNumber? name with
    | some n => .ok (n, pids)
    | none => .error s!"invalid signal number or name: {name}"
  | first :: pids =>
    if first.startsWith "-" then match signalNumber? (first.drop 1).toString with
      | some n => .ok (n, pids)
      | none => .error s!"Illegal option {first.take 2}"
    else .ok (15, first :: pids)
  | [] => .error "Usage: kill [-s sigspec | -signum | -sigspec] [pid | job]..."

/-- Opens what the redirections name, in order; the streams, or the status of a failure. -/
def openFiles (line : Nat) (io : Streams) (s : Shell) :
    List (Redirect × String) → Shell × Option Streams
  | [] => (s, some io)
  | (.copy stream source, _) :: rest =>
    let sink := if source = 2 then io.errors else io.output
    openFiles line (if stream = 2 then { io with errors := sink } else { io with output := sink })
      s rest
  | (.file stream mode _, path) :: rest =>
    match mode with
    | .read => match Tools.contents s.tree 0 path with
      | .ok bytes => openFiles line { io with input := bytes } s rest
      | .error _ => (s.complain io line s!"cannot open {path}: No such file", none)
    | _ =>
      let keep := mode == .append && s.tree.pathExists path
      let isDevice := match (s.tree.fileNumber path).toOption.bind s.tree.content? with
        | some (.device _) => true
        | _ => false
      let opened := if keep || isDevice then .ok s.tree else s.tree.write path (.bytes [])
      match opened.bind fun t => (t.fileNumber path).map (t, ·) with
      | .ok (t, number) =>
        let sink := if isDevice then Sink.nowhere else .file number
        openFiles line (if stream = 2 then { io with errors := sink }
          else { io with output := sink })
          { s with tree := t } rest
      | .error e =>
        let why := if e.kind = .notFound then "Directory nonexistent" else
          match e with | .system code => SystemError.describe code | .custom _ text => text
        (s.complain io line s!"cannot create {path}: {why}", none)

/-- The text of a script file that a name with a slash may run. -/
def scriptText? (t : FileTree) (path : String) : Option String := do
  let bytes ← (t.read path).toOption
  guard ([35, 33].isPrefixOf bytes)
  return Utf8.decodeLenient bytes

mutual

def expand (fuel : Nat) (io : Streams) (s : Shell) (f : Fields) : Word → Shell × Fields
  | [] => (s, f)
  | p :: rest =>
    match fuel with
    | 0 => (s, f)
    | fuel + 1 => match p with
      | .text cs _ => expand fuel io s (f.add cs) rest
      | .variable "@" true => expand fuel io s (f.addAll s.arguments) rest
      | .variable name inQuotes =>
        let v := (s.value name).toList
        expand fuel io s (if inQuotes then f.add v else f.addSplit v) rest
      | .output c inQuotes =>
        let number := s.nextBuffer
        let inner := run fuel { io with output := .buffer number }
          { s with nextBuffer := number + 1 } c
        let v := (Utf8.decodeLenient (dropNewlines (inner.buffered number))).toList
        let status := match inner.ended with | some (.exited code) => code | _ => inner.status
        let s := { s with
          tree := inner.tree, nextBuffer := inner.nextBuffer, buffers := inner.buffers,
          status := status }
        expand fuel io s (if inQuotes then f.add v else f.addSplit v) rest
      | .edited name edit operand inQuotes =>
        let (s, v) := editedValue fuel io s name edit operand
        expand fuel io s (if inQuotes then f.add v else f.addSplit v) rest
      | .arithmetic expression inQuotes =>
        let (s, text) := expandText fuel io s expression
        match Arithmetic.evaluate? (fun name => (s.value name).toInt?.getD 0) text with
        | some n =>
          let v := (toString n).toList
          expand fuel io s (if inQuotes then f.add v else f.addSplit v) rest
        | none => ((s.complain io 1 s!"arithmetic expression: {text}").exit 2, f)

def editedValue (fuel : Nat) (io : Streams) (s : Shell) (name : String) (edit : Edit)
    (operand : Word) :
    Shell × List Char :=
  match fuel with
  | 0 => (s, [])
  | fuel + 1 =>
    let v := (s.value name).toList
    let isPresent (orEmpty : Bool) : Bool := s.isSet name && !(orEmpty && v.isEmpty)
    let replacement (_ : Unit) : Shell × List Char :=
      let (s, text) := expandText fuel io s operand
      (s, text.toList)
    let bare : Piece → Piece
      | .text cs _ => .text cs false
      | p => p
    match edit with
    | .size => (s, (toString v.length).toList)
    | .replaceMissing orEmpty => if isPresent orEmpty then (s, v) else replacement ()
    | .replacePresent orEmpty => if isPresent orEmpty then replacement () else (s, [])
    | .dropFront longest =>
      let (s, pattern) := glyphs fuel io s (operand.map bare)
      (s, dropCovered pattern longest v)
    | .dropBack longest =>
      let (s, pattern) := glyphs fuel io s (operand.map bare)
      (s, (dropCovered pattern.reverse longest v.reverse).reverse)

def glyphs (fuel : Nat) (io : Streams) (s : Shell) : Word → Shell × List Glyph
  | [] => (s, [])
  | p :: rest =>
    match fuel with
    | 0 => (s, [])
    | fuel + 1 =>
      let (s, front) := match p with
        | .text cs inQuotes =>
          (s, cs.map fun c => if !inQuotes && (c = '*' || c = '?') then Glyph.wild c else .plain c)
        | p =>
          let (s, v) := expandText fuel io s [p]
          (s, v.toList.map Glyph.plain)
      let (s, more) := glyphs fuel io s rest
      (s, front ++ more)

def expandAll (fuel : Nat) (io : Streams) (s : Shell) : List Word → Shell × List String
  | [] => (s, [])
  | w :: rest =>
    match fuel with
    | 0 => (s, [])
    | fuel + 1 =>
      let (s, f) := expand fuel io s ⟨[], none⟩ w
      let (s, more) := expandAll fuel io s rest
      (s, f.toList ++ more)

def expandText (fuel : Nat) (io : Streams) (s : Shell) (w : Word) : Shell × String :=
  match fuel with
  | 0 => (s, "")
  | fuel + 1 =>
    let quote : Piece → Piece
      | .text cs _ => .text cs true
      | .variable name _ => .variable (if name = "@" then "*" else name) true
      | .output c _ => .output c true
      | .edited name edit operand _ => .edited name edit operand true
      | .arithmetic expression _ => .arithmetic expression true
    let (s, f) := expand fuel io s ⟨[], some []⟩ (w.map quote)
    (s, (f.toList).head?.getD "")

def expandRedirects (fuel : Nat) (io : Streams) (s : Shell) :
    List Redirect → Shell × List (Redirect × String)
  | [] => (s, [])
  | r :: rest =>
    match fuel with
    | 0 => (s, [])
    | fuel + 1 =>
      let (s, path) := match r with
        | .file _ _ w => expandText fuel io s w
        | .copy _ _ => (s, "")
      let (s, more) := expandRedirects fuel io s rest
      (s, (r, path) :: more)

def matchesAny (fuel : Nat) (io : Streams) (s : Shell) (text : List Char) : List Word → Shell × Bool
  | [] => (s, false)
  | w :: rest =>
    match fuel with
    | 0 => (s, false)
    | fuel + 1 =>
      let (s, pattern) := glyphs fuel io s w
      if covers pattern text then (s, true) else matchesAny fuel io s text rest

def alternative (fuel : Nat) (io : Streams) (s : Shell) (text : List Char) :
    List (List Word × Command) → Shell
  | [] => { s with status := 0 }
  | (ps, c) :: rest =>
    match fuel with
    | 0 => s
    | fuel + 1 =>
      let (s, hit) := matchesAny fuel io s text ps
      if hit then run fuel io { s with status := 0 } c else alternative fuel io s text rest

def forEach (fuel : Nat) (io : Streams) (s : Shell) (name : String) (body : Command) :
    List String → Shell
  | [] => s
  | v :: rest =>
    match fuel with
    | 0 => s
    | fuel + 1 =>
      let s := run fuel io { s with bindings := (name, v) :: s.bindings } body
      if s.ended.isSome then s else forEach fuel io s name body rest

def call (fuel : Nat) (io : Streams) (s : Shell) (line : Nat) (name : String) (args : List String) :
    Shell :=
  match fuel with
  | 0 => s
  | fuel + 1 =>
    let tool (f : Tools.Call → Tools.Answer) : Shell :=
      let a := f ⟨args, io.input, s.tree⟩
      let s := { s with tree := a.tree, status := a.status }
      let errors := if a.errors.take 2 = Utf8.encode "[:" then
        Utf8.encode s!"{s.name}: {line}: " ++ a.errors else a.errors
      (s.put io.output a.output).put io.errors errors
    match name with
    | "exit" =>
      match args.head? with
      | none => s.exit s.status
      | some n => match n.toNat? with
        | some code => s.exit code
        | none => (s.complain io line s!"exit: Illegal number: {n}").exit 2
    | "exec" => match args with
      | [] => s
      | n :: rest =>
        let s := call fuel io s line n rest
        if s.ended.isSome then s else s.exit s.status
    | "shift" => { s with arguments := s.arguments.tail, status := 0 }
    | "set" =>
      let has (sign : String) : Bool := args.any fun a => a.startsWith sign && a.toList.contains 'e'
      { s with strict := (s.strict || has "-") && !has "+", status := 0 }
    | "unset" => { s with bindings := s.bindings.filter fun v => !args.contains v.1, status := 0 }
    | "export" | "cd" | "umask" | "trap" | "wait" => { s with status := 0 }
    | "kill" => match killArguments args with
      | .ok (signal, pids) =>
        if !pids.contains (toString scriptPid) then
          { s.complain io line "kill: No such process" with status := 1 }
        else if signal = 0 then { s with status := 0 }
        else { s with ended := some (.killed signal) }
      | .error why => { s.complain io line s!"kill: {why}" with status := 2 }
    | _ =>
      match Tools.find? name with
      | some f => tool f
      | none =>
        let last := (Path.parts name).getLast?.getD ""
        let inSystem := name.startsWith "/bin/" || name.startsWith "/usr/bin/"
        match if inSystem then Tools.find? last else none with
        | some f => tool f
        | none => match if name.toList.contains '/' then scriptText? s.tree name else none with
          | some text => match parse? text with
            | some c =>
              let inner := run fuel io
                { s with arguments := args, name := name, bindings := [], status := 0 } c
              let status := match inner.ended with
                | some (.exited code) => code
                | some (.killed signal) => 128 + signal
                | none => inner.status
              { inner with arguments := s.arguments, name := s.name, bindings := s.bindings,
                           status := status, ended := none }
            | none => { s with status := 2 }
          | none => { s.complain io line s!"{name}: not found" with status := 127 }

def run (fuel : Nat) (io : Streams) (s : Shell) (c : Command) : Shell :=
  match fuel with
  | 0 => s
  | fuel + 1 =>
    if s.ended.isSome then s
    else match c with
      | .nothing => s
      | .simple line assignments words redirects =>
        let before := { s with status := 0 }
        let (s, values) := assignments.foldl (fun (acc : Shell × List (String × String)) (n, w) =>
          let (s, v) := expandText fuel io acc.1 w
          (s, (n, v) :: acc.2)) (if words.isEmpty then before else s, [])
        let (s, fields) := expandAll fuel io s words
        let (s, targets) := expandRedirects fuel io s redirects
        match openFiles line io s targets with
        | (s, none) => { s with status := 2 }
        | (s, some io) => match fields with
          | [] => { s with bindings := values ++ s.bindings }
          | name :: args => if s.ended.isSome then s else (call fuel io s line name args).heed
      | .pipe left right =>
        let number := s.nextBuffer
        let inner := run fuel { io with output := .buffer number }
          { s with nextBuffer := number + 1 } left
        let s := { s with
          tree := inner.tree, buffers := inner.buffers, nextBuffer := inner.nextBuffer }
        let last := run fuel { io with input := s.buffered number } s right
        match last.ended with
        | some (.exited code) => { last with ended := none, status := code }
        | _ => last
      | .both left right =>
        let s := s.leniently fun s => run fuel io s left
        if s.status = 0 then run fuel io s right else s
      | .either left right =>
        let s := s.leniently fun s => run fuel io s left
        if s.status = 0 then s else run fuel io s right
      | .sequence left right => run fuel io (run fuel io s left) right
      | .negation c =>
        let s := s.leniently fun s => run fuel io s c
        { s with status := if s.status = 0 then 1 else 0 }
      | .background c =>
        let inner := run fuel io s c
        { inner with bindings := s.bindings, status := 0, ended := none }
      | .branch condition yes no =>
        let s := s.leniently fun s => run fuel io s condition
        if s.status = 0 then run fuel io s yes else run fuel io { s with status := 0 } no
      | .choose w alternatives =>
        let (s, text) := expandText fuel io s w
        alternative fuel io s text.toList alternatives
      | .each name words body =>
        let (s, values) := expandAll fuel io s words
        forEach fuel io s name body values
      | .whilst condition body =>
        let s := s.leniently fun s => run fuel io s condition
        if s.ended.isSome then s
        else if s.status = 0 then run fuel io (run fuel io s body) (.whilst condition body)
        else { s with status := 0 }
      | .group body redirects isolated =>
        let (s, targets) := expandRedirects fuel io s redirects
        match openFiles 1 io s targets with
        | (s, none) => { s with status := 2 }
        | (s, some io) =>
          let inner := run fuel io s body
          if isolated then
            let status := match inner.ended with
              | some (.exited code) => code
              | _ => inner.status
            { inner with bindings := s.bindings, ended := none, status := status }
          else inner

end

def runFuel : Nat := 2000

/-- Runs a script's text: the tree after it, how it ended, its output and its error output. -/
def execute (t : FileTree) (strict : Bool) (name text : String) (args : List String) :
    FileTree × Ending × Bytes × Bytes :=
  match parse? text with
  | none => (t, .exited 2, [], Utf8.encode s!"{name}: 1: Syntax error\n")
  | some c =>
    let s := run runFuel ⟨[], .buffer 0, .buffer 1⟩ ⟨t, [], 2, [], args, name, 0, strict, none⟩ c
    (s.tree, s.ended.getD (.exited s.status), s.buffered 0, s.buffered 1)

end BlocklistSync.Script
