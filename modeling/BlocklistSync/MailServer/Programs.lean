import BlocklistSync.Script.Run

/-! Programs as files of a tree, and how the system starts them. -/
namespace BlocklistSync.Programs

def systemFile (t : FileTree) (path : String) (content : Content) : FileTree :=
  t.addFile (FileTree.steps path) ⟨content, 0o755⟩

def toolNames : List String :=
  ["true", "false", "echo", "printf", "cat", "head", "tail", "tr", "wc", "grep", "touch", "rm",
    "mkdir", "chmod",
   "cp", "mv", "basename", "dirname", "test", "sleep"]

def shellNames : List String := ["sh", "dash", "bash"]

/-- A tree with the usual directories, the shell and the small programs, and an empty directory to
work in. -/
def machine : FileTree :=
  let directories := ["bin", "dev", "etc", "home", "proc", "root", "run", "srv", "tmp", "usr",
    "var"]
  let nodes : List (Place × Node) := directories.map fun d => ([d], .directory)
  let more : List (Place × Node) :=
    [(["usr", "bin"], .directory), (["usr", "sbin"], .directory), (["var", "lib"], .directory),
     (["var", "run"], .link "/run"), (["tmp", "work"], .directory)]
  let t : FileTree := ⟨nodes ++ more, [], ["tmp", "work"]⟩
  let programs := shellNames.map (·, SystemProgram.shell) ++ toolNames.map fun name =>
    (name, .tool name)
  let t := programs.foldl (fun t (name, program) =>
    systemFile (systemFile t s!"/bin/{name}" (.program program)) s!"/usr/bin/{name}"
      (.program program)) t
  systemFile (systemFile t "/dev/null" (.device .null)) "/dev/zero" (.device .zero)

def searchPath : List String :=
  ["/usr/local/sbin", "/usr/local/bin", "/usr/sbin", "/usr/bin", "/sbin", "/bin"]

/-- A name without a slash is looked for in the usual directories. -/
def locate (t : FileTree) (program : String) : String :=
  if program.toList.contains '/' || program.isEmpty then program
  else match searchPath.find? fun dir => (t.fileNumber (Path.join dir program)).toBool with
    | some dir => Path.join dir program
    | none => Path.join "/bin" program

/-- The interpreter that the first line of a script names, and its argument if it has one. -/
def interpreter? (bytes : Bytes) : Option (String × List String) :=
  match bytes with
  | 35 :: 33 :: rest =>
    let line := Text.Utf8.decodeLenient (rest.takeWhile (· ≠ 10))
    let words := ((line.toList.map fun c => if c = '\t' then ' ' else c).splitOnP (· = ' ')).filter
      (!·.isEmpty)
    match words with
    | [] => none
    | name :: args =>
      some (String.ofList name, if args.isEmpty then []
        else [" ".intercalate (args.map String.ofList)])
  | _ => none

def runTool (t : FileTree) (name : String) (args : List String) : FileTree × CommandResult :=
  match Script.Tools.find? name with
  | some f =>
    let a := f ⟨args, [], t⟩
    (a.tree, .ended (.exited a.status) a.output a.errors)
  | none => (t, .ended (.exited 127) [] [])

/-- Options of the shell come before the script. -/
def runShell (t : FileTree) (args : List String) : FileTree × CommandResult :=
  let strict := (args.takeWhile (·.startsWith "-")).any (·.toList.contains 'e')
  match args.dropWhile (·.startsWith "-") with
  | [] => (t, .ended (.exited 0) [] [])
  | path :: rest => match t.read path with
    | .ok bytes =>
      let (t, ending, out, err) := Script.execute t strict path (Text.Utf8.decodeLenient bytes) rest
      (t, .ended ending out err)
    | .error _ =>
      let text := s!"/bin/sh: 0: cannot open {path}: No such file\n"
      (t, .ended (.exited 2) [] (Text.Utf8.encode text))

def runSystem (t : FileTree) : SystemProgram → List String → FileTree × CommandResult
  | .shell, args => runShell t args
  | .tool name, args => runTool t name args

/-- What stands in the way of running the file at a path, and its content if nothing does. -/
def executable (t : FileTree) (path : String) : Except IoError Content := do
  let target ← t.resolve true path
  match target.node with
  | none => FileTree.fail SystemError.notFound
  | some (.file number) => match t.body? number with
    | some body =>
      if body.mode &&& 0o111 = 0 then FileTree.fail SystemError.permissionDenied
      else return body.content
    | none => FileTree.fail SystemError.notFound
  | some _ => FileTree.fail SystemError.permissionDenied

/-- Starts a program of the system, or a script with the interpreter that it names. -/
def start (t : FileTree) (c : BlocklistSync.Command) : FileTree × CommandResult :=
  let path := locate t c.program
  match executable t path with
  | .error e => (t, .notStarted e)
  | .ok (.program p) => runSystem t p c.arguments
  | .ok content => match interpreter? content.toBytes with
    | none => (t, .notStarted (.system SystemError.notExecutable))
    | some (name, extra) => match executable t name with
      | .ok (.program p) => runSystem t p (extra ++ path :: c.arguments)
      | .ok _ => (t, .notStarted (.system SystemError.notExecutable))
      | .error e => (t, .notStarted e)

end BlocklistSync.Programs
