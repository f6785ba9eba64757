import ChapelCheck.Project
import ChapelCheck.Shell.Run

/-!
# ChapelCheck.Machine

A machine that exists only as a value: its files, the variables of its
environment, and a few programs.  It can be a `Host`, so that checks run on it
without touching a real one.
-/

namespace ChapelCheck

/-- A machine. -/
structure Machine where
  files : FileSystem
  environment : List (String × String)

namespace Machine

/-- A directory of programs. -/
def programs (names : List String) : Tree := .directory (names.map fun n => (n, .program n))

/-- The directories that the machine has at the top, besides those with something
in them. -/
def emptyDirectories : List String :=
  ["etc", "home", "media", "mnt", "opt", "proc", "root", "run", "srv", "sys", "var"]

/-- A machine with the usual programs and one directory below `/tmp`, which is
the working directory. -/
def fresh (directory : String) : Machine where
  files := {
    tree := .directory ([
      ("bin", .link "usr/bin"),
      ("dev", .directory [("null", .device), ("zero", .device), ("tty", .device)]),
      ("tmp", .directory [(directory, .directory [])]),
      ("usr", .directory [("bin", programs ["sh", "true", "false", "cat", "printf"])])] ++
      emptyDirectories.map fun name => (name, .directory []))
    working := some ["tmp", directory] }
  environment := []

/-! ## programs -/

/-- What comes of a program that was started: how it ended, unless it could not
be started, and what it left behind. -/
abbrev Run := Except SystemError ExitStatus × Shell.World

/-- Writes the complaints of a program. -/
def complained (start : Shell.Start) (cs : List Char) (w : Shell.World) : Shell.World :=
  match start.channels.lookup 2 with
  | some e => w.write e cs
  | none => w

/-- A program that writes to its error channel and ends. -/
def ended (start : Shell.Start) (code : Nat) (errors : List Char) (w : Shell.World) : Run :=
  (.ok (.code code), complained start errors w)

/-- What a program reads from its input. -/
def input (start : Shell.Start) (w : Shell.World) : List Char × Shell.World :=
  match start.channels.lookup 0 with
  | some e => w.readAll e
  | none => ([], w)

/-- Writes the output of a program. -/
def output (start : Shell.Start) (w : Shell.World) (cs : List Char) : Shell.World :=
  match start.channels.lookup 1 with
  | some e => w.write e cs
  | none => w

/-- The files as a program sees them. -/
def filesOf (start : Shell.Start) (w : Shell.World) : FileSystem := ⟨w.tree, start.working⟩

/-- The letters of the options that the shell takes. -/
def shellLetters : List Char := "efIimnsxvVECabulc".toList

/-- Takes the options off the arguments of the shell: their letters and the other
arguments, or the complaint about an option that there is none of. -/
def shellOptions (letters : List Char) :
    List (List Char) → Except (List Char) (List Char × List (List Char))
  | [] => .ok (letters, [])
  | argument :: rest =>
    match argument with
    | ['-'] => .ok (letters, rest)
    | ['-', '-'] => .ok (letters, rest)
    | '-' :: more =>
      match more.find? (· ∉ shellLetters) with
      | some c => .error ("Illegal option -".toList ++ [c])
      | none => shellOptions (letters ++ more) rest
    | _ => .ok (letters, argument :: rest)

/-- Runs the shell: on a script, with `-c` on a text, or else on its input. -/
def runShell (launch : Shell.Launch) (start : Shell.Start) (w : Shell.World) : Run :=
  let complaint (message : List Char) : Run :=
    ended start 2 (start.name ++ ": 0: ".toList ++ message ++ ['\n']) w
  match shellOptions [] start.arguments with
  | .error message => complaint message
  | .ok (letters, rest) =>
    let script (w : Shell.World) (name text : List Char) (arguments : List (List Char)) : Run :=
      let i : Shell.Script :=
        ⟨name, text, arguments, letters, start.environment, start.working, start.channels⟩
      let (status, w) := i.run launch w
      (.ok status, w)
    if 'c' ∈ letters then
      match rest with
      | [] => complaint "-c requires an argument".toList
      | text :: rest => script w (rest.headD start.name) text rest.tail
    else
      match if 's' ∈ letters then none else rest.head? with
      | none =>
        let (text, w) := input start w
        script w start.name text rest
      | some file =>
        match Shell.readFile (filesOf start w) file with
        | .ok text => script w file text rest.tail
        | .error message => complaint message

/-- What `cat` is asked for: whether lines are numbered, and the files, or the
complaint about an option that there is none of. -/
def catOptions (numbered : Bool) :
    List (List Char) → Except (List Char) (Bool × List (List Char))
  | [] => .ok (numbered, [])
  | a :: rest =>
    match a with
    | ['-', '-'] => .ok (numbered, rest)
    | '-' :: '-' :: _ => .error ("unrecognized option '".toList ++ a ++ "'".toList)
    | '-' :: c :: cs =>
      match (c :: cs).find? (· ∉ ['n', 'u']) with
      | some bad => .error ("invalid option -- '".toList ++ [bad] ++ "'".toList)
      | none => catOptions (numbered || 'n' ∈ c :: cs) rest
    | file => (catOptions numbered rest).map fun (numbered, files) => (numbered, file :: files)

/-- Lines with their numbers in front of them; `count` lines have been numbered
before. -/
def numberLines (count : Nat) (cs : List Char) : List Char :=
  let lines := Text.pieces '\n' cs
  let full := if lines.getLast? = some [] then lines.dropLast else lines
  let shown := full.mapIdx fun i line =>
    let digits := Text.Decimal.write (count + i + 1)
    List.replicate (6 - digits.length) ' ' ++ digits ++ '\t' :: line
  Text.joinPieces '\n' (if full.length < lines.length then shown ++ [[]] else shown)

/-- Runs `cat`: the files one after the other, where `-` is its input. -/
def runCat (start : Shell.Start) (w : Shell.World) : Run :=
  match catOptions false start.arguments with
  | .error message =>
    ended start 1 (start.name ++ ": ".toList ++ message ++ "\nTry '".toList ++
      start.name ++ " --help' for more information.\n".toList) w
  | .ok (numbered, files) =>
    let put (count : Nat) (w : Shell.World) (cs : List Char) : Nat × Shell.World :=
      (count + cs.count '\n', output start w (if numbered then numberLines count cs else cs))
    let (isOk, _, w) := (if files.isEmpty then [['-']] else files).foldl
      (fun (isOk, count, w) file =>
        if file = ['-'] then
          let (cs, w) := input start w
          (isOk, put count w cs)
        else
          match (filesOf start w).readOctets (Shell.pathOfChars file) with
          | .ok octets => (isOk, put count w (Shell.charsOfOctets octets))
          | .error e =>
            (false, count, complained start (start.name ++ ": ".toList ++ file ++ ": ".toList ++
              e.wording.1.toList ++ ['\n']) w)) (true, 0, w)
    (.ok (.code (if isOk then 0 else 1)), w)

/-- Runs `printf`, which complains about arguments that its format has no place
for. -/
def runPrintf (start : Shell.Start) (w : Shell.World) : Run :=
  match start.arguments with
  | [] =>
    ended start 1 (start.name ++ ": missing operand\nTry '".toList ++ start.name ++
      " --help' for more information.\n".toList) w
  | format :: rest =>
    let p := Shell.printf format rest
    let w := output start w p.written.reverse.flatten
    match p.asked, rest with
    | false, excess :: _ =>
      ended start 0 (start.name ++ ": warning: ignoring excess arguments, starting with '".toList ++
        excess ++ "'\n".toList) w
    | _, _ => ended start 0 [] w

/-- Runs a program that the machine comes with. -/
def runProgram (launch : Shell.Launch) (program : String) (start : Shell.Start) (w : Shell.World) :
    Run :=
  match program with
  | "sh" => runShell launch start w
  | "true" => ended start 0 [] w
  | "false" => ended start 1 [] w
  | "cat" => runCat start w
  | "printf" => runPrintf start w
  | _ => (.error .denied, w)

/-! ## program files -/

/-- Whether a character separates an interpreter from its argument. -/
def isGap (c : Char) : Bool := c = ' ' || c = '\t'

/-- How many octets of a program file are looked at. -/
def headLimit : Nat := 256

/-- The program that a file names in its first line to be run by, and the one
argument that may stand behind it.  Nothing is found in a file that does not
start so, or whose line is blank or too long. -/
def interpreter? (octets : List UInt8) : Option (List Char × List (List Char)) :=
  match Shell.charsOfOctets (octets.take headLimit) with
  | '#' :: '!' :: cs =>
    let (line, after) := Text.cut '\n' cs
    let line := ((line.reverse).dropWhile isGap).reverse.dropWhile isGap
    let name := line.takeWhile (!isGap ·)
    let argument := (line.dropWhile (!isGap ·)).dropWhile isGap
    let isCut := after.isNone && octets.length ≥ headLimit && argument.isEmpty
    if isCut || (name.isEmpty && after.isSome) then none
    else some (name, if argument.isEmpty then [] else [argument])
  | _ => none

/-- Runs what a path leads to.  A program file is run by the program that it
names, which may be such a file again; the count bounds how often. -/
def runPath (launch : Shell.Launch) (count : Nat) (start : Shell.Start) (w : Shell.World) : Run :=
  match (filesOf start w).get (Shell.pathOfChars start.program) with
  | .error e => (.error e, w)
  | .ok (.program name) => runProgram launch name start w
  | .ok (.file octets true) =>
    match interpreter? octets, count with
    | none, _ => (.error .badProgram, w)
    | some _, 0 => (.error .linkLoop, w)
    | some (interpreter, options), count + 1 =>
      runPath launch count { start with
        program := interpreter
        name := interpreter
        arguments := options ++ start.program :: start.arguments } w
  | .ok _ => (.error .denied, w)

/-- How many program files may name one another. -/
def interpreterLimit : Nat := 5

/-- How programs are started that start programs that start programs, up to a
number of times. -/
def launch : Nat → Shell.Launch
  | 0, _, w => (.error .denied, w)
  | depth + 1, start, w => runPath (launch depth) interpreterLimit start w

/-- How many programs may wait for one another. -/
def launchLimit : Nat := 100

/-- The path of a program that is given by its name alone.  Something of that
name that cannot be run is only found if there is nothing better. -/
def locate (m : Machine) (name : String) : Except SystemError Path :=
  if name.utf8ByteSize > Tree.longestName then .error .nameTooLong
  else
    let candidates := Shell.programDirectories.map fun d => (Path.mk d).child name
    let executable (p : Path) : Bool :=
      match m.files.get p with
      | .ok t => Shell.isExecutable t
      | .error _ => false
    match candidates.find? executable with
    | some p => .ok p
    | none => .error (if candidates.any m.files.isPresent then .denied else .notFound)

/-- Whether a text holds a NUL character. -/
def holdsNul (s : String) : Bool := '\x00' ∈ s.toList

/-- The variables that a program sees. -/
def environmentOf (m : Machine) (i : Invocation) : List (String × String) :=
  match i.home with
  | none => m.environment
  | some home => ("CHPL_HOME", home.text) :: m.environment.filter (·.1 ≠ "CHPL_HOME")

/-- The world before anything runs: nothing has been written, and the one text
under way is the empty input. -/
def world (m : Machine) : Shell.World := ⟨m.files.tree, [], [(0, [])], 1⟩

/-- Starts a program and waits for its end. -/
def runInvocation (m : Machine) (i : Invocation) : Run :=
  let begin (p : Path) : Run :=
    launch launchLimit {
      program := Shell.charsOfText p.text
      name := Shell.charsOfText i.program
      arguments := i.arguments.map Shell.charsOfText
      environment := (m.environmentOf i).map fun (n, v) => (n, Shell.charsOfText v)
      working := m.files.working
      channels := [(0, .store 0), (1, .nowhere), (2, .errors)] } m.world
  if holdsNul i.program || i.arguments.any holdsNul || (i.home.any fun h => holdsNul h.text) then
    (.error .nulInArgument, m.world)
  else if i.program = "" then (.error .notFound, m.world)
  else if '/' ∈ i.program.toList then begin ⟨i.program⟩
  else
    match m.locate i.program with
    | .error e => (.error e, m.world)
    | .ok p => begin p

/-- What a program that is started leaves behind for who started it. -/
def start (m : Machine) (i : Invocation) : Except SystemError Finished :=
  let (result, w) := m.runInvocation i
  result.map fun status => ⟨status, Shell.octetsOfChars w.errors.reverse.flatten⟩

/-- The machine after a program has run on it. -/
def afterInvocation (m : Machine) (i : Invocation) : Machine :=
  { m with files := { m.files with tree := (m.runInvocation i).2.tree } }

/-- The machine after several programs have run on it, one after the other. -/
def after (m : Machine) (started : List Invocation) : Machine := started.foldl afterInvocation m

/-- The machine as a host of checks. -/
def host (m : Machine) : Host := ⟨m.files, m.start⟩

end Machine

end ChapelCheck
