import TypeScriptRepl.FileSystem.Operations
import TypeScriptRepl.Shell.Expand

/-! The programs that scripts call. -/
namespace TypeScriptRepl.Shell

open FileSystem

/-- What a program did: its exit code, what it wrote, and the files after it. -/
structure Result where
  code : Nat
  stdout : Bytes
  stderr : Bytes
  files : FileSystem
deriving Repr, Inhabited

private def succeed (s : State) (out : Bytes) : Result := ⟨0, out, [], s.files⟩

private def newline : UInt8 := 10

/-- What a fault is called without its number. -/
private def reason (f : Fault) : Bytes :=
  bytesOf (((f.message.splitOn " (os error").head?).getD "")

private def octal : Nat → Bytes → Nat → Nat × Bytes
  | 0, bs, n => (n, bs)
  | k + 1, b :: bs, n => if 48 ≤ b && b ≤ 55 then octal k bs (n * 8 + (b.toNat - 48)) else (n, b :: bs)
  | _, [], n => (n, [])

/-- A text with its escapes read. Fuel bounds its length. -/
private def unescape : Nat → Bytes → Bytes
  | 0, _ => []
  | k + 1, bs =>
    match bs with
    | [] => []
    | 92 :: c :: rest =>
      if c = 110 then 10 :: unescape k rest
      else if c = 116 then 9 :: unescape k rest
      else if c = 114 then 13 :: unescape k rest
      else if c = 97 then 7 :: unescape k rest
      else if c = 98 then 8 :: unescape k rest
      else if c = 102 then 12 :: unescape k rest
      else if c = 118 then 11 :: unescape k rest
      else if c = 92 then 92 :: unescape k rest
      else if c = 48 then
        let (n, rest) := octal 3 rest 0
        UInt8.ofNat n :: unescape k rest
      else 92 :: c :: unescape k rest
    | b :: rest => b :: unescape k rest

private def joined (args : List Bytes) : Bytes := [(32 : UInt8)].intercalate args

/-- The arguments on one line, in which escapes are read. -/
private def echo (s : State) (args : List Bytes) : Result :=
  let text (args : List Bytes) : Bytes :=
    let t := joined args
    unescape (t.length + 1) t
  match args with
  | a :: rest => if a = bytesOf "-n" then succeed s (text rest) else succeed s (text args ++ [newline])
  | [] => succeed s [newline]

/-- A format in which each conversion takes an argument. -/
private def format : Nat → Bytes → List Bytes → Bytes → Bytes × List Bytes
  | 0, _, args, out => (out, args)
  | k + 1, bs, args, out =>
    match bs with
    | [] => (out, args)
    | 37 :: c :: rest =>
      if c = 37 then format k rest args (out ++ [c])
      else format k rest args.tail (out ++ args.headD [])
    | b :: rest => format k rest args (out ++ [b])

private def formatAll : Nat → Bytes → List Bytes → Bytes → Bytes
  | 0, _, _, out => out
  | k + 1, f, args, out =>
    match format (f.length + 1) f args out with
    | (out, []) => out
    | (out, rest) => if rest.length < args.length then formatAll k f rest out else out

private def printf (s : State) (args : List Bytes) : Result :=
  match args with
  | f :: rest => succeed s (formatAll (rest.length + 1) (unescape (f.length + 1) f) rest [])
  | [] => ⟨2, [], bytesOf "printf: usage: printf format [arg ...]\n", s.files⟩

/-- Does something with each of the arguments, and goes on after faults. -/
private def eachPath (s : State) (args : List Bytes) (complaint : Bytes → Fault → Bytes)
    (f : FileSystem → Path → Except Fault (Bytes × FileSystem)) : Result :=
  args.foldl
    (fun r a =>
      match f r.files ⟨a⟩ with
      | .ok (out, files) => { r with stdout := r.stdout ++ out, files }
      | .error e => { r with code := 1, stderr := r.stderr ++ complaint a e ++ [newline] })
    ⟨0, [], [], s.files⟩

private def cat (s : State) (args : List Bytes) : Result :=
  eachPath s args (fun a e => bytesOf "cat: " ++ a ++ bytesOf ": " ++ reason e) fun fs p =>
    (fs.read s.directory p).map (·, fs)

private def isOption (a : Bytes) : Bool := a.head? = some 45 && 1 < a.length

private def operands (args : List Bytes) : List Bytes := args.filter (!isOption ·)

private def hasLetter (c : Char) (args : List Bytes) : Bool :=
  args.any fun a => isOption a && a.contains (UInt8.ofNat c.toNat)

private def remove (s : State) (args : List Bytes) : Result :=
  let force := hasLetter 'f' args
  let deep := hasLetter 'r' args
  eachPath s (operands args)
    (fun a e => bytesOf "rm: cannot remove '" ++ a ++ bytesOf "': " ++ reason e)
    fun fs p =>
      match fs.locate s.directory p with
      | .error e => if force && e = .notFound then .ok ([], fs) else .error e
      | .ok l =>
        if !fs.isDirectory l then .ok ([], fs.erase l)
        else if deep then .ok ([], ⟨fs.nodes.filter fun n => !l.isPrefixOf n.1⟩)
        else .error .isDirectory

private def touch (s : State) (args : List Bytes) : Result :=
  eachPath s (operands args)
    (fun a e => bytesOf "touch: cannot touch '" ++ a ++ bytesOf "': " ++ reason e)
    fun fs p =>
      match fs.create s.directory p with
      | .ok (fs, _) => .ok ([], fs)
      | .error .alreadyThere => .ok ([], fs)
      | .error e => .error e

private def makeDirectory (s : State) (args : List Bytes) : Result :=
  let deep := hasLetter 'p' args
  eachPath s (operands args)
    (fun a e => bytesOf "mkdir: cannot create directory '" ++ a ++ bytesOf "': " ++ reason e)
    fun fs p =>
      let taken (_ : Location) : Option Fault := none
      if deep then
        match makeDirectories taken (p.bytes.length + 1) fs s.directory p with
        | (fs, none) => .ok ([], fs)
        | (_, some f) => .error f
      else (fs.makeDirectory taken s.directory p).map ([], ·)

private def isTrue (s : State) (args : List Bytes) : Bool :=
  let located (a : Bytes) := (s.files.locate s.directory ⟨a⟩).toOption
  match args with
  | [] => false
  | [a] => !a.isEmpty
  | [op, a] =>
    if op = bytesOf "-n" then !a.isEmpty
    else if op = bytesOf "-z" then a.isEmpty
    else if op = bytesOf "!" then a.isEmpty
    else if op = bytesOf "-e" then (located a).isSome
    else if op = bytesOf "-f" then s.files.isFile s.directory ⟨a⟩
    else if op = bytesOf "-d" then (located a).any (s.files.isDirectory ·)
    else false
  | [a, op, b] =>
    if op = bytesOf "=" then a = b
    else if op = bytesOf "!=" then a ≠ b
    else
      let number (x : Bytes) : Option Int := (String.ofList (x.map fun b => Char.ofNat b.toNat)).toInt?
      match number a, number b with
      | some m, some n =>
        if op = bytesOf "-eq" then m = n
        else if op = bytesOf "-ne" then m ≠ n
        else if op = bytesOf "-lt" then m < n
        else if op = bytesOf "-le" then m ≤ n
        else if op = bytesOf "-gt" then n < m
        else if op = bytesOf "-ge" then n ≤ m
        else false
      | _, _ => false
  | _ => false

/-- What a program does with its arguments, if it is known. -/
def program? (s : State) (name : String) (args : List Bytes) : Option Result :=
  match name with
  | ":" | "true" | "sleep" => some (succeed s [])
  | "false" => some ⟨1, [], [], s.files⟩
  | "echo" => some (echo s args)
  | "printf" => some (printf s args)
  | "cat" => some (cat s args)
  | "rm" => some (remove s args)
  | "touch" => some (touch s args)
  | "mkdir" => some (makeDirectory s args)
  | "pwd" => some (succeed s ((FileSystem.Location.path s.directory).bytes ++ [newline]))
  | "test" => some ⟨if isTrue s args then 0 else 1, [], [], s.files⟩
  | "[" => some ⟨if isTrue s args.dropLast then 0 else 1, [], [], s.files⟩
  | _ => none

end TypeScriptRepl.Shell
