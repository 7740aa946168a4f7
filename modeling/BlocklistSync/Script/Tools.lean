import BlocklistSync.FileTree.Operations

/-! The small programs that scripts call. -/
namespace BlocklistSync.Script.Tools

structure Call where
  arguments : List String
  input : Bytes
  tree : FileTree

structure Answer where
  status : Nat
  output : Bytes
  errors : Bytes
  tree : FileTree

def Call.answer (c : Call) (status : Nat) (output : Bytes) : Answer := ⟨status, output, [], c.tree⟩

def Call.fail (c : Call) (status : Nat) (message : String) : Answer :=
  ⟨status, [], Text.Utf8.encode (message ++ "\n"), c.tree⟩

def octalValue? (c : Char) : Option Nat :=
  if '0' ≤ c && c ≤ '7' then some (c.toNat - '0'.toNat) else none

def octalDigits (most : Nat) (cs : List Char) : List Char :=
  (cs.take most).takeWhile fun c => (octalValue? c).isSome

def octal (most : Nat) (cs : List Char) : Nat × List Char :=
  let digits := octalDigits most cs
  (digits.foldl (fun n c => n * 8 + (octalValue? c).getD 0) 0, cs.drop digits.length)

def escapeByte? (c : Char) : Option UInt8 :=
  [('a', 7), ('b', 8), ('f', 12), ('n', 10), ('r', 13), ('t', 9), ('v', 11), ('\\', 92)].lookup c

/-- Text with its escapes replaced; an octal number follows `\0` if `zeroFirst`, else the backslash.
The flag tells that the output ends here. -/
def unescape (zeroFirst : Bool) : Nat → List Char → Bytes × Bool
  | 0, _ => ([], false)
  | _, [] => ([], false)
  | fuel + 1, '\\' :: c :: rest =>
    let followedBy (b : Bytes) (rest : List Char) : Bytes × Bool :=
      let (more, stop) := unescape zeroFirst fuel rest
      (b ++ more, stop)
    if c = 'c' then ([], true)
    else match escapeByte? c with
      | some b => followedBy [b] rest
      | none =>
        if zeroFirst && c = '0' then
          let (n, rest) := octal 3 rest
          followedBy [n.toUInt8] rest
        else if !zeroFirst && (octalValue? c).isSome then
          let (n, rest) := octal 3 (c :: rest)
          followedBy [n.toUInt8] rest
        else followedBy ('\\'.toNat.toUInt8 :: String.utf8EncodeChar c) rest
  | fuel + 1, c :: rest =>
    let (more, stop) := unescape zeroFirst fuel rest
    (String.utf8EncodeChar c ++ more, stop)

def echo (c : Call) : Answer :=
  let (newline, words) := match c.arguments with
    | "-n" :: rest => (false, rest)
    | all => (true, all)
  let text := (" ".intercalate words).toList
  let (bytes, stop) := unescape true (text.length + 1) text
  c.answer 0 (if stop || !newline then bytes else bytes ++ [10])

/-- One pass over a format; the arguments that are left, and whether any was taken. -/
def formatOnce : Nat → List Char → List String → Bytes × List String × Bool
  | 0, _, arguments => ([], arguments, false)
  | _, [], arguments => ([], arguments, false)
  | fuel + 1, '%' :: '%' :: rest, arguments =>
    let (more, left, taken) := formatOnce fuel rest arguments
    (37 :: more, left, taken)
  | fuel + 1, '%' :: _ :: rest, arguments =>
    let (more, left, _) := formatOnce fuel rest arguments.tail
    (Text.Utf8.encode (arguments.head?.getD "") ++ more, left, true)
  | fuel + 1, '\\' :: '"' :: rest, arguments =>
    let (more, left, taken) := formatOnce fuel rest arguments
    (34 :: more, left, taken)
  | fuel + 1, '\\' :: rest, arguments =>
    let size := max 1 (octalDigits 3 rest).length
    let (bytes, _) := unescape false 3 ('\\' :: rest.take size)
    let (more, left, taken) := formatOnce fuel (rest.drop size) arguments
    (bytes ++ more, left, taken)
  | fuel + 1, c :: rest, arguments =>
    let (more, left, taken) := formatOnce fuel rest arguments
    (String.utf8EncodeChar c ++ more, left, taken)

/-- The format is used again as long as it takes arguments and some are left. -/
def format : Nat → List Char → List String → Bytes
  | 0, _, _ => []
  | fuel + 1, cs, arguments =>
    let (bytes, left, taken) := formatOnce (cs.length + 1) cs arguments
    if taken && !left.isEmpty then bytes ++ format fuel cs left else bytes

def printf (c : Call) : Answer :=
  match c.arguments with
  | [] => c.fail 2 "printf: usage: printf format [arg ...]"
  | f :: arguments => c.answer 0 (format (arguments.length + 1) f.toList arguments)

def contents (t : FileTree) (limit : Nat) (path : String) : Except IoError Bytes := do
  let number ← t.fileNumber path
  match t.content? number with
  | some (.device .zero) => return List.replicate limit 0
  | some content => return content.toBytes
  | none => return []

def reason : IoError → String
  | .system code => SystemError.describe code
  | .custom _ text => text

/-- Handles the files one by one, or the input if there is none. -/
def eachFile (tool : String) (c : Call) (limit : Nat) (files : List String) (f : Bytes → Bytes) :
    Answer :=
  if files.isEmpty then c.answer 0 (f c.input)
  else files.foldl (fun a path =>
    match contents c.tree limit path with
    | .ok bytes => { a with output := a.output ++ f bytes }
    | .error e =>
      { a with
        status := 1, errors := a.errors ++ Text.Utf8.encode s!"{tool}: {path}: {reason e}\n" })
    (c.answer 0 [])

def cat (c : Call) : Answer := eachFile "cat" c 0 c.arguments id

def firstLines : Nat → Bytes → Bytes
  | 0, _ => []
  | _, [] => []
  | n + 1, b :: rest => if b = 10 then b :: firstLines n rest else b :: firstLines (n + 1) rest
  termination_by _ bytes => bytes.length

def lastLines (n : Nat) (bytes : Bytes) : Bytes :=
  let lines := if bytes.getLast? = some 10 then bytes.count 10 else bytes.count 10 + 1
  (List.range (lines - n)).foldl (fun rest _ => (rest.dropWhile (· ≠ 10)).drop 1) bytes

/-- The number of lines or bytes that the options in front ask for, and whether they are bytes. -/
def portion : List String → Nat × Bool × List String
  | "-c" :: n :: files => (n.toNat?.getD 0, true, files)
  | "-n" :: n :: files => (n.toNat?.getD 0, false, files)
  | files => match files with
    | first :: rest => match if first.startsWith "-" then (first.drop 1).toNat? else none with
      | some n => (n, false, rest)
      | none => (10, false, files)
    | [] => (10, false, [])

def head (c : Call) : Answer :=
  let (n, isBytes, files) := portion c.arguments
  eachFile "head" c n files (if isBytes then (·.take n) else firstLines n)

def tail (c : Call) : Answer :=
  let (n, isBytes, files) := portion c.arguments
  eachFile "tail" c 0 files (if isBytes then fun b => b.drop (b.length - n) else lastLines n)

/-- A set of bytes as `tr` takes it, with escapes and ranges. -/
def byteSet (s : String) : Bytes :=
  let rec ranges : Bytes → Bytes
    | a :: 45 :: b :: rest =>
      (List.range (b.toNat + 1 - a.toNat)).map (fun k => (a.toNat + k).toUInt8) ++ ranges rest
    | a :: rest => a :: ranges rest
    | [] => []
  ranges (unescape false (s.length + 1) s.toList).1

def translate (source target : Bytes) (b : UInt8) : UInt8 :=
  match source.idxOf? b with
  | some i => target[i]?.getD (target.getLast?.getD b)
  | none => b

def tr (c : Call) : Answer :=
  match c.arguments with
  | ["-d", set] => c.answer 0 (c.input.filter fun b => !(byteSet set).contains b)
  | [source, target] =>
    let source := byteSet source
    let target := byteSet target
    c.answer 0 (c.input.map (translate source target))
  | _ => c.fail 1 "tr: missing operand"

def count (c : Call) : Answer :=
  match c.arguments with
  | option :: files =>
    let size (b : Bytes) : Nat := if option = "-c" then b.length else b.count 10
    match files with
    | [] => c.answer 0 (Text.Utf8.encode s!"{size c.input}\n")
    | path :: _ => eachFile "wc" c 0 [path] fun b => Text.Utf8.encode s!"{size b} {path}\n"
  | [] => c.fail 1 "wc: missing option"

/-- Changes made for the operands one by one; a failure is told and the others go on. -/
def changeEach (c : Call) (tool : String) (operands : List String)
    (f : FileTree → String → Except String FileTree) : Answer :=
  operands.foldl (fun a path =>
    match f a.tree path with
    | .ok t => { a with tree := t }
    | .error why =>
      { a with status := 1, errors := a.errors ++ Text.Utf8.encode s!"{tool}: {why}\n" })
    (c.answer 0 [])

def Call.operands (c : Call) : List String := c.arguments.filter fun a => !a.startsWith "-"

def Call.hasOption (c : Call) (letter : Char) : Bool :=
  c.arguments.any fun a => a.startsWith "-" && a.toList.contains letter

def complaint (what path : String) (e : IoError) : String := s!"{what} '{path}': {reason e}"

def touch (c : Call) : Answer :=
  changeEach c "touch" c.operands fun t path =>
    if t.pathExists path then .ok t
    else (t.write path (.bytes [])).mapError (complaint "cannot touch" path)

def remove (c : Call) : Answer :=
  changeEach c "rm" c.operands fun t path =>
    if c.hasOption 'r' && t.isDirectory path then .ok (t.removeAll path).1
    else match t.unlink path with
      | .ok t => .ok t
      | .error e =>
        if c.hasOption 'f' && e.kind = .notFound then .ok t
        else .error (complaint "cannot remove" path e)

def makeDirectory (c : Call) : Answer :=
  changeEach c "mkdir" c.operands fun t path =>
    let made := if c.hasOption 'p' then t.makeDirectories path
      else match t.makeDirectory path with
        | .ok t => (t, none)
        | .error e => (t, some e)
    match made with
    | (t, none) => .ok t
    | (_, some e) => .error (complaint "cannot create directory" path e)

def changeMode (c : Call) : Answer :=
  match c.arguments with
  | mode :: files =>
    let f (old : Nat) : Nat := if mode = "+x" then old ||| 0o111 else (octal 4 mode.toList).1
    changeEach c "chmod" files fun t path =>
      match t.fileNumber path with
      | .ok number => .ok (match t.body? number with
        | some b => t.setBody number { b with mode := f b.mode }
        | none => t)
      | .error e => if t.isDirectory path then .ok t else .error (complaint "cannot access" path e)
  | [] => c.fail 1 "chmod: missing operand"

def transfer (tool : String) (keep : Bool) (c : Call) : Answer :=
  match c.operands with
  | [source, target] => changeEach c tool [source] fun t source => do
    let number ← (t.fileNumber source).mapError (complaint "cannot stat" source)
    let target :=
      if t.isDirectory target then Path.join target ((Path.parts source).getLast?.getD "")
      else target
    let changed : Except IoError FileTree :=
      if keep then do
        let bytes ← t.read source
        let isNew := !t.pathExists target
        let t ← t.write target (.bytes bytes)
        if isNew then t.setMode target (((t.body? number).map (·.mode)).getD 0 &&& 0o755) else .ok t
      else do t.rename (← t.resolve false source).place target
    changed.mapError (complaint "cannot create regular file" target)
  | _ => c.fail 1 s!"{tool}: missing file operand"

def lastPart (path : String) : String := (Path.parts path).getLast?.getD "/"

def baseName (c : Call) : Answer :=
  match c.arguments with
  | path :: _ => c.answer 0 (Text.Utf8.encode (lastPart path ++ "\n"))
  | [] => c.fail 1 "basename: missing operand"

def directoryName (c : Call) : Answer :=
  match c.arguments with
  | path :: _ =>
    let above := (Path.parent? path).getD "/"
    c.answer 0 (Text.Utf8.encode ((if above.isEmpty then "." else above) ++ "\n"))
  | [] => c.fail 1 "dirname: missing operand"

def condition (t : FileTree) : Nat → List String → Except String Bool
  | 0, _ => .error "too many arguments"
  | fuel + 1, args =>
    let size (path : String) : Nat := match t.read path with | .ok b => b.length | .error _ => 0
    match args with
    | [] => return false
    | [s] => return (!s.isEmpty)
    | ["!", s] => return s.isEmpty
    | [op, s] =>
      match op with
      | "-n" => return (!s.isEmpty)
      | "-z" => return s.isEmpty
      | "-e" | "-r" | "-w" => return (t.pathExists s)
      | "-f" => return ((t.fileNumber s).toBool)
      | "-d" => return (t.isDirectory s)
      | "-s" => return (0 < size s)
      | "-x" =>
        return (t.isDirectory s ||
          ((t.fileNumber s).toOption.bind t.body?).any fun b => b.mode &&& 0o111 != 0)
      | _ => .error s!"{op}: unexpected operator"
    | "!" :: rest => (condition t fuel rest).map (!·)
    | [a, op, b] =>
      let number (s : String) : Except String Int :=
        match (Text.trim s).toInt? with
        | some n => .ok n
        | none => .error s!"Illegal number: {s}"
      let compare (f : Int → Int → Bool) : Except String Bool := do
        return f (← number a) (← number b)
      match op with
      | "=" => return (a == b)
      | "!=" => return (a != b)
      | "-eq" => compare (· == ·)
      | "-ne" => compare (· != ·)
      | "-lt" => compare (· < ·)
      | "-le" => compare (· ≤ ·)
      | "-gt" => compare (· > ·)
      | "-ge" => compare (· ≥ ·)
      | _ => .error s!"{a}: unexpected operator"
    | a :: op :: b :: "-a" :: rest => do
      return (← condition t fuel [a, op, b]) && (← condition t fuel rest)
    | a :: op :: b :: "-o" :: rest => do
      return (← condition t fuel [a, op, b]) || (← condition t fuel rest)
    | a :: _ => .error s!"{a}: unexpected operator"

def test (c : Call) (args : List String) : Answer :=
  match condition c.tree (args.length + 1) args with
  | .ok true => c.answer 0 []
  | .ok false => c.answer 1 []
  | .error why => c.fail 2 s!"[: {why}"

def contains (needle hay : Bytes) : Bool :=
  match hay with
  | [] => needle.isEmpty
  | _ :: rest => needle.isPrefixOf hay || contains needle rest

def grep (c : Call) : Answer :=
  match c.operands with
  | pattern :: files =>
    let read := match files with
      | [] => c.answer 0 c.input
      | _ => eachFile "grep" c 0 files id
    let text := if read.output.getLast? == some (10 : UInt8) then read.output.dropLast
      else read.output
    let lines := if text.isEmpty then [] else text.splitOnP (· = 10)
    let hits := lines.filter fun line => contains (Text.Utf8.encode pattern) line != c.hasOption 'v'
    let output := if c.hasOption 'q' then []
      else if c.hasOption 'c' then Text.Utf8.encode s!"{hits.length}\n"
      else hits.flatMap (· ++ [10])
    { read with
      status := if read.status ≠ 0 then 2 else if hits.isEmpty then 1 else 0, output := output }
  | [] => c.fail 2 "grep: missing pattern"

def find? (name : String) : Option (Call → Answer) :=
  match name with
  | "true" | ":" | "sleep" | "sync" => some fun c => c.answer 0 []
  | "false" => some fun c => c.answer 1 []
  | "echo" => some echo
  | "printf" => some printf
  | "cat" => some cat
  | "head" => some head
  | "tail" => some tail
  | "tr" => some tr
  | "wc" => some count
  | "grep" => some grep
  | "touch" => some touch
  | "rm" => some remove
  | "mkdir" => some makeDirectory
  | "chmod" => some changeMode
  | "cp" => some (transfer "cp" true)
  | "mv" => some (transfer "mv" false)
  | "basename" => some baseName
  | "dirname" => some directoryName
  | "test" => some fun c => test c c.arguments
  | "[" => some fun c => test c c.arguments.dropLast
  | _ => none

end BlocklistSync.Script.Tools
