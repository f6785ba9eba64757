import ChapelCheck.Shell.Expand
import ChapelCheck.Shell.Parse
import ChapelCheck.Shell.Test

/-!
# ChapelCheck.Shell.Builtin

The commands that a shell carries out itself.  Those that run other commands
are not among them.

A special command that is used wrongly ends the shell; any other one fails.
-/

namespace ChapelCheck.Shell

open Text

/-! ## programs -/

/-- The directories in which programs are looked for. -/
def programDirectories : List String :=
  ["/usr/local/sbin", "/usr/local/bin", "/usr/sbin", "/usr/bin", "/sbin", "/bin"]

/-- The directories in which a process looks for programs. -/
def searchPath (environment : List (String × List Char)) : List (List Char) :=
  match environment.lookup "PATH" with
  | some value => pieces ':' value
  | none => programDirectories.map charsOfText

/-- Whether something can be started. -/
def isExecutable : Tree → Bool
  | .program _ => true
  | .file _ executable => executable
  | _ => false

/-- The path of a program that a name stands for. -/
def programPath? (fs : FileSystem) (environment : List (String × List Char)) (name : List Char) :
    Option (List Char) :=
  let runs (path : List Char) : Bool :=
    match fs.get (pathOfChars path) with
    | .ok t => isExecutable t
    | .error _ => false
  if '/' ∈ name then if runs name then some name else none
  else ((searchPath environment).map fun d => if d.isEmpty then name else d ++ '/' :: name).find? runs

/-! ## complaints -/

/-- The commands that end the shell when they are used wrongly. -/
def specialNames : List String :=
  [".", ":", "break", "continue", "eval", "exec", "exit", "export", "local", "readonly", "return",
    "set", "shift", "times", "trap", "unset"]

/-- The other commands that a shell carries out itself. -/
def regularNames : List String :=
  ["[", "alias", "bg", "cd", "command", "echo", "false", "fg", "getopts", "hash", "jobs", "kill",
    "printf", "pwd", "read", "test", "true", "type", "ulimit", "umask", "unalias", "wait"]

/-- A regular command that is used wrongly. -/
def State.refuse (s : State) (message : List Char) : State := (s.complain message).outcome 2

/-- Complains about a number that is none. -/
def illegal (cs : List Char) : List Char := "Illegal number: ".toList ++ cs

/-- Complains about a name that no variable can have. -/
def badName (cs : List Char) : List Char := cs ++ ": bad variable name".toList

/-- Complains about an option that there is none of. -/
def illegalOption (c : Char) : List Char := "Illegal option -".toList ++ [c]

/-- Takes options of one letter off the arguments of a command: the letters that
are given, and the other arguments. -/
def takeOptions (letters : List Char) :
    List (List Char) → Except Char (List Char × List (List Char))
  | [] => .ok ([], [])
  | a :: rest =>
    match a with
    | ['-', '-'] => .ok ([], rest)
    | '-' :: c :: cs =>
      match (c :: cs).find? (· ∉ letters) with
      | some bad => .error bad
      | none => (takeOptions letters rest).map fun (more, rest) => (c :: cs ++ more, rest)
    | _ => .ok ([], a :: rest)

/-- A regular command that takes options of one letter. -/
def withOptions (letters : List Char) (f : State → List Char → List (List Char) → State)
    (s : State) (arguments : List (List Char)) : State :=
  match takeOptions letters arguments with
  | .error c => s.refuse (illegalOption c)
  | .ok (given, rest) => f s given rest

/-- A special command that takes options of one letter. -/
def withSpecialOptions (letters : List Char) (f : State → List Char → List (List Char) → State)
    (s : State) (arguments : List (List Char)) : State :=
  match takeOptions letters arguments with
  | .error c => s.fail (illegalOption c)
  | .ok (given, rest) => f s given rest

/-- Writes what a command has to say. -/
def State.say (s : State) (name : String) (cs : List Char) : State :=
  match s.process.channel? 1 with
  | some _ => (s.write 1 cs).outcome 0
  | none => (s.complain (name.toList ++ ": I/O error".toList)).outcome 1

/-! ## printing and testing -/

/-- Runs `printf`. -/
def runPrintf (s : State) : List (List Char) → State
  | [] => s.refuse "usage: printf format [arg ...]".toList
  | format :: arguments =>
    let p := printf format arguments
    let s := p.complaints.foldl State.complain s
    let s := s.say "printf" p.written.reverse.flatten
    match p.failure with
    | some message => s.refuse message
    | none => if p.complaints.isEmpty then s else s.outcome 1

/-- Runs `test`. -/
def runTest (s : State) (arguments : List (List Char)) : State :=
  match Test.holds s.files textOfChars arguments with
  | .ok b => s.succeed b
  | .error message => s.refuse message

/-- Runs `[`. -/
def runBracket (s : State) (arguments : List (List Char)) : State :=
  if arguments.getLast? = some [']'] then runTest s arguments.dropLast
  else s.refuse "missing ]".toList

/-! ## directories -/

/-- A path with `.` and `..` taken out of its spelling. -/
def tidied (place path : List Char) : List Char :=
  let start := if path.head? = some '/' then [] else pieces '/' place
  let steps := start ++ pieces '/' path
  let stack := steps.foldl (fun stack step =>
    if step.isEmpty || step = ['.'] then stack
    else if step = ['.', '.'] then stack.tail
    else step :: stack) []
  '/' :: joinPieces '/' stack.reverse

/-- Goes to another directory. -/
def goTo (s : State) (target : List Char) (shown : Bool) : State :=
  match s.files.changeDirectory (pathOfChars target) with
  | .error _ => s.refuse ("can't cd to ".toList ++ target)
  | .ok fs =>
    let before := s.process.place
    let after := tidied before target
    let s := s.update fun p => { p with working := fs.working, place := after }
    let s := (s.assign "OLDPWD" before).assign "PWD" after
    if shown then s.say "cd" (after ++ ['\n']) else s.outcome 0

/-- Runs `cd`. -/
def runCd (s : State) (arguments : List (List Char)) : State :=
  match arguments with
  | [] => goTo s ((s.process.valueOf? "HOME").getD []) false
  | ['-'] :: _ => goTo s ((s.process.valueOf? "OLDPWD").getD s.process.place) true
  | target :: _ => goTo s target false

/-- Runs `pwd`. -/
def runPwd (s : State) (letters : List Char) : State :=
  let place := if letters.getLast? = some 'P' then
      match s.files.workingDirectory with
      | .ok p => charsOfText p.text
      | .error _ => s.process.place
    else s.process.place
  s.say "pwd" (place ++ ['\n'])

/-! ## variables -/

/-- Runs `read`. -/
def runRead (s : State) (letters : List Char) (names : List (List Char)) : State :=
  let raw := 'r' ∈ letters
  match names.find? fun n => !isName n with
  | some n => s.refuse (badName n)
  | none =>
    if names.isEmpty then s.refuse "arg count".toList
    else
      let e := (s.process.channel? 0).getD .nowhere
      let rec lines (bound : Nat) (w : World) : List Char × Bool × World :=
        match bound, w.readLine e with
        | 0, r => r
        | bound + 1, (line, true, w) =>
          if !raw && line.getLast? = some '\\' then
            let (more, ended, w) := lines bound w
            (line.dropLast ++ more, ended, w)
          else (line, true, w)
        | _, r => r
      let (line, ended, w) := lines 1000 s.world
      let chars := if raw then line.map fun c => (c, false) else readChars line
      let values := divideLine s.process.separators names.length chars
      let s := { s with world := w }
      let s := (names.zip values).foldl (fun s (n, v) => s.assign (String.ofList n) v) s
      if s.goesOn then s.succeed ended else s

/-- Marks variables, and gives values to those that have one in their word. -/
def markVariables (mark : Variable → Variable) (s : State) : List (List Char) → State
  | [] => s.outcome 0
  | a :: rest =>
    let (name, value) := cut '=' a
    if !isName name then s.fail (badName a)
    else
      let name := String.ofList name
      let s := match value with
        | some v => s.assign name v
        | none => s
      if !s.goesOn then s
      else
        let v := (s.process.bindings.lookup name).getD ⟨none, false, false⟩
        markVariables mark (s.update (·.put name (some (mark v)))) rest

/-- Makes variables belong to the function that runs. -/
def makeLocal (s : State) : List (List Char) → State
  | [] => s.outcome 0
  | a :: rest =>
    let (name, value) := cut '=' a
    if !isName name then s.fail (badName a)
    else
      let name := String.ofList name
      match s.process.locals with
      | none => s.fail "not in a function".toList
      | some saved =>
        let old := s.process.bindings.lookup name
        let saved := if saved.any (·.1 = name) then saved else (name, old) :: saved
        let s := s.update fun p => { p with locals := some saved }
        let s := match value with
          | some v => s.assign name v
          | none => s
        if s.goesOn then makeLocal s rest else s

/-- Takes variables or functions away. -/
def unsetAll (functions : Bool) (s : State) : List (List Char) → State
  | [] => s.outcome 0
  | a :: rest =>
    let name := String.ofList a
    if functions then
      unsetAll functions (s.update fun p =>
        { p with functions := p.functions.filter (·.1 ≠ name) }) rest
    else if !isName a then s.fail (badName a)
    else
      match s.process.bindings.lookup name with
      | some ⟨_, _, true⟩ => s.fail (a ++ ": is read only".toList)
      | _ => unsetAll functions (s.update (·.put name none)) rest

/-! ## options and arguments -/

/-- The letters of the options that have long names. -/
def optionNames : List (String × Char) :=
  [("errexit", 'e'), ("noglob", 'f'), ("ignoreeof", 'I'), ("interactive", 'i'), ("monitor", 'm'),
    ("noexec", 'n'), ("stdin", 's'), ("xtrace", 'x'), ("verbose", 'v'), ("vi", 'V'), ("emacs", 'E'),
    ("noclobber", 'C'), ("allexport", 'a'), ("notify", 'b'), ("nounset", 'u')]

/-- Sets or clears an option. -/
def setOption (s : State) (on : Bool) (letter : Char) : State :=
  s.update fun p =>
    let others := p.letters.filter (· ≠ letter)
    { p with letters := if on then letter :: others else others }

/-- Sets or clears options, unless there is no such option. -/
def setLetters (s : State) (on : Bool) : List Char → Except (List Char) State
  | [] => .ok s
  | c :: cs =>
    if c ∈ optionLetters then setLetters (setOption s on c) on cs
    else .error (illegalOption c)

/-- Gives the script other arguments. -/
def State.setArguments (s : State) (arguments : List (List Char)) : State :=
  s.update fun p => { p with arguments := arguments }

/-- Runs `set`. -/
def runSet (s : State) : List (List Char) → State
  | [] => s.outcome 0
  | ['-', '-'] :: rest => (s.setArguments rest).outcome 0
  | ['-'] :: rest => if rest.isEmpty then s.outcome 0 else (s.setArguments rest).outcome 0
  | ['-', 'o'] :: name :: rest => named true name rest
  | ['+', 'o'] :: name :: rest => named false name rest
  | ['-', 'o'] :: [] => s.outcome 0
  | ['+', 'o'] :: [] => s.outcome 0
  | ('-' :: letters) :: rest => lettered true letters rest
  | ('+' :: letters) :: rest => lettered false letters rest
  | rest => (s.setArguments rest).outcome 0
where
  /-- An option given by its long name. -/
  named (on : Bool) (name : List Char) (rest : List (List Char)) : State :=
    match optionNames.lookup (String.ofList name) with
    | some c => continued (setOption s on c) rest
    | none => s.fail ("Illegal option -o ".toList ++ name)
  /-- Options given by letters. -/
  lettered (on : Bool) (letters : List Char) (rest : List (List Char)) : State :=
    match setLetters s on letters with
    | .ok s => continued s rest
    | .error message => s.fail message
  /-- Goes on behind an option: more letters, or arguments. -/
  continued (s : State) : List (List Char) → State
    | [] => s.outcome 0
    | ['-', '-'] :: rest => (s.setArguments rest).outcome 0
    | ('-' :: c :: letters) :: rest =>
      match setLetters s true (c :: letters) with
      | .ok s => continued s rest
      | .error message => s.fail message
    | ('+' :: c :: letters) :: rest =>
      match setLetters s false (c :: letters) with
      | .ok s => continued s rest
      | .error message => s.fail message
    | rest => (s.setArguments rest).outcome 0

/-- Runs `shift`. -/
def runShift (s : State) (arguments : List (List Char)) : State :=
  match arguments.head?, arguments.head?.bind count? with
  | some a, none => s.fail (illegal a)
  | _, n =>
    let count := n.getD 1
    if count > s.process.arguments.length then s.fail "can't shift that many".toList
    else (s.setArguments (s.process.arguments.drop count)).outcome 0

/-- The option that comes next in a list of arguments: its letter and what stands
behind it in its argument, and how many arguments have been begun.  `index` counts
the arguments that have been begun, and `offset` is how far the last of them has
been read. -/
def nextOption? (index : Nat) (offset : Option Nat) (arguments : List (List Char)) :
    Option (Char × List Char × Nat) × Nat :=
  match (offset.bind fun o => (arguments[index - 1]?).map (·.drop o)).getD [] with
  | c :: cs => (some (c, cs, index), index)
  | [] =>
    match arguments[index]? with
    | some ['-', '-'] => (none, index + 1)
    | some ('-' :: c :: cs) => (some (c, cs, index + 1), index + 1)
    | _ => (none, index)

/-- Whether a letter is one of the options in a list of them, and whether it takes
an argument. -/
def optionKind? (letter : Char) : List Char → Option Bool
  | [] => none
  | c :: ':' :: cs => if c = letter then some true else optionKind? letter cs
  | c :: cs => if c = letter then some false else optionKind? letter cs

/-- Runs `getopts`, which takes the next option off the arguments. -/
def runGetopts (s : State) (arguments : List (List Char)) : State :=
  match arguments with
  | letters :: name :: given =>
    let given := if given.isEmpty then s.process.arguments else given
    let index := (((s.process.valueOf? "OPTIND").bind count?).getD 1) - 1
    let leave (s : State) (count : Nat) (offset : Option Nat) (found : Char) (ok : Bool) : State :=
      let s := (s.assign "OPTIND" (Decimal.write (count + 1))).update fun p =>
        { p with offset := offset }
      if !isName name then s.refuse (badName name)
      else (s.assign (String.ofList name) [found]).succeed ok
    let isQuiet := letters.head? = some ':'
    match nextOption? index s.process.offset given with
    | (none, count) => leave s count none '?' false
    | (some (c, rest, count), _) =>
      let offset := some (((given[count - 1]?).getD []).length - rest.length)
      match if c = ':' then none else optionKind? c letters with
      | none =>
        let s := if isQuiet then s.assign "OPTARG" [c]
          else (s.write 2 (illegalOption c ++ ['\n'])).update (·.put "OPTARG" none)
        leave s count offset '?' true
      | some false => leave (s.assign "OPTARG" []) count offset c true
      | some true =>
        match rest, given[count]? with
        | [], none =>
          if isQuiet then leave (s.assign "OPTARG" [c]) count offset ':' true
          else
            let s := s.write 2 ("No arg for -".toList ++ c :: " option\n".toList)
            leave (s.update (·.put "OPTARG" none)) count offset '?' true
        | [], some value => leave (s.assign "OPTARG" value) (count + 1) none c true
        | rest, _ => leave (s.assign "OPTARG" rest) count none c true
  | _ => s.refuse "Usage: getopts optstring var [arg...]".toList

/-! ## leaving -/

/-- Runs `exit` or `return`, which differ in what they end. -/
def runLeave (flow : Flow) (s : State) (arguments : List (List Char)) : State :=
  match arguments with
  | [] => { s.outcome (s.process.settled.getD s.process.status) with flow := flow }
  | a :: _ =>
    match count? a with
    | some n => { s.outcome (n % 256) with flow := flow }
    | none => s.fail (illegal a)

/-- Runs `break` or `continue`, which differ in what they do to loops. -/
def runBreak (flow : Nat → Flow) (s : State) (arguments : List (List Char)) : State :=
  match arguments.head?, arguments.head?.bind count? with
  | some a, none => s.fail (illegal a)
  | some a, some 0 => s.fail (illegal a)
  | _, n =>
    let count := min (n.getD 1) s.process.loops
    if count = 0 then s.outcome 0 else { s.outcome 0 with flow := flow count }

/-! ## signals -/

/-- The name of a signal. -/
def signalName (n : Nat) : List Char :=
  if n = 0 then "EXIT".toList
  else match ExitStatus.signalNames.lookup n with
    | some name => name.toList.drop 3
    | none =>
      if n < 34 then Decimal.write n
      else if n = 34 then "RTMIN".toList
      else if n < 50 then "RTMIN+".toList ++ Decimal.write (n - 34)
      else if n < 64 then "RTMAX-".toList ++ Decimal.write (64 - n)
      else "RTMAX".toList

/-- The signal of a number, or of a name in letters of either case. -/
def signal? (cs : List Char) : Option Nat :=
  match Decimal.readDigits? cs with
  | some n => if n ≤ 64 then some n else none
  | none => (List.range 65).find? fun n => signalName n = cs.map Char.toUpper

/-- The signal that a process can be sent. -/
def sendable? (cs : List Char) : Option Nat :=
  (signal? cs).filter fun n => n ≠ 0 || cs.all Char.isDigit

/-- The signals that a process does not notice unless it handles them. -/
def isUnnoticed (n : Nat) : Bool := n ∈ [0, 17, 18, 19, 20, 21, 22, 23, 28]

/-- A signal that the shell sends to itself. -/
def signalSelf (s : State) (n : Nat) : State :=
  match if n = 9 then none else s.process.traps.lookup n with
  | some [] => s.outcome 0
  | some action => (s.outcome 0).update fun p => { p with pending := p.pending ++ [action] }
  | none => if isUnnoticed n then s.outcome 0 else { s with flow := .killed n }

/-- Sends a signal to processes. -/
def signalAll (s : State) (n : Nat) : List (List Char) → State
  | [] => s.outcome 0
  | a :: rest =>
    let (isGroup, digits) := match a with
      | '-' :: digits => (true, digits)
      | digits => (false, digits)
    if a.head? = some '%' then s.refuse ("No such job: ".toList ++ a)
    else
      match count? digits with
      | none => s.refuse (illegal digits)
      | some pid =>
        if pid = processNumber && !isGroup then
          let s := signalSelf s n
          if s.goesOn then signalAll s n rest else s
        else (signalAll (s.complain "No such process\n".toList) n rest).outcome 1

/-- How `kill` is used. -/
def killUsage : List Char :=
  ("Usage: kill [-s sigspec | -signum | -sigspec] [pid | job]... or\nkill -l [exitstatus]").toList

/-- The names of signals, as `kill -l` shows them. -/
def listSignals (s : State) : List (List Char) → State
  | [] => s.say "kill" ((List.range 65).flatMap fun n =>
      if n = 0 then ['0', '\n'] else signalName n ++ ['\n'])
  | a :: _ =>
    match count? a with
    | none => s.refuse (illegal a)
    | some n =>
      let signal := if n > 128 then n - 128 else n
      if 0 < signal && signal < 65 then s.say "kill" (signalName signal ++ ['\n'])
      else s.refuse ("invalid signal number or exit status: ".toList ++ a)

/-- Runs `kill`. -/
def runKill (s : State) (arguments : List (List Char)) : State :=
  let send (n : Nat) (targets : List (List Char)) : State :=
    if targets.isEmpty then s.refuse killUsage else signalAll s n targets
  match arguments with
  | [] => s.refuse killUsage
  | ('-' :: cs) :: rest =>
    match sendable? cs with
    | some n => send n rest
    | none =>
      match cs with
      | ['l'] => listSignals s rest
      | 's' :: name =>
        let (name, rest) := if name.isEmpty then (rest.headD [], rest.tail) else (name, rest)
        match sendable? name with
        | some n => send n rest
        | none => s.refuse ("invalid signal number or name: ".toList ++ name)
      | ['-'] => send 15 rest
      | c :: _ => s.refuse (illegalOption c)
      | [] => s.refuse killUsage
  | targets => send 15 targets

/-- Sets what is done on signals. -/
def setTraps (action : Option (List Char)) (s : State) : List (List Char) → State
  | [] => s.outcome 0
  | a :: rest =>
    match signal? a with
    | none => (s.write 2 ("trap: ".toList ++ a ++ ": bad trap\n".toList)).outcome 1
    | some n =>
      setTraps action (s.update fun p =>
        { p with traps := (action.map fun t => (n, t)).toList ++ p.traps.filter (·.1 ≠ n) }) rest

/-- A text between single quotes. -/
def singleQuoted (cs : List Char) : List Char :=
  let quote := Char.ofNat 0x27
  quote :: (cs.flatMap fun c => if c = quote then [quote, '"', quote, '"', quote] else [c]) ++ [quote]

/-- Runs `trap`. -/
def runTrap (s : State) (arguments : List (List Char)) : State :=
  match arguments with
  | [] =>
    let sorted := s.process.traps.mergeSort fun a b => a.1 ≤ b.1
    s.say "trap" (sorted.flatMap fun (n, action) =>
      "trap -- ".toList ++ singleQuoted action ++ ' ' :: signalName n ++ ['\n'])
  | [a] => setTraps none s [a]
  | action :: signals =>
    if action = ['-'] then setTraps none s signals else setTraps (some action) s signals

/-! ## other commands -/

/-- Runs `umask`. -/
def runUmask (s : State) : List (List Char) → State
  | [] =>
    let digits := Nat.toDigits 8 s.process.mask
    s.say "umask" (List.replicate (4 - digits.length) '0' ++ digits ++ ['\n'])
  | a :: _ =>
    match readBased? 8 a with
    | some n => (s.update fun p => { p with mask := n % 512 }).outcome 0
    | none => s.refuse (illegal a)

/-- Runs `ulimit`. -/
def runUlimit (s : State) (arguments : List (List Char)) : State :=
  match arguments with
  | [] => s.say "ulimit" "unlimited\n".toList
  | a :: _ =>
    if a.all Char.isDigit || a = "unlimited".toList then s.outcome 0
    else s.refuse "bad number".toList

/-- Runs `wait`. -/
def runWait (s : State) : List (List Char) → State
  | [] => s.outcome 0
  | a :: _ =>
    match count? a, s.process.background with
    | some n, some status => s.outcome (if n = processNumber + 1 then status else 127)
    | some _, none => s.outcome 127
    | none, _ => s.refuse (illegal a)

/-- What a name stands for as a command. -/
inductive Meaning where
  | keyword
  | special
  | function
  | regular
  | program (path : List Char)
  | nothing

/-- What a name stands for as a command. -/
def meaning (s : State) (name : List Char) : Meaning :=
  let n := String.ofList name
  if n ∈ keywords then .keyword
  else if n ∈ specialNames then .special
  else if s.process.functions.any (·.1 = n) then .function
  else if n ∈ regularNames then .regular
  else match programPath? s.files s.process.exported name with
    | some path => .program path
    | none => .nothing

/-- What a name stands for, in words, and whether it stands for anything. -/
def described (s : State) (name : List Char) : List Char × Bool :=
  match meaning s name with
  | .keyword => (name ++ " is a shell keyword\n".toList, true)
  | .special => (name ++ " is a special shell builtin\n".toList, true)
  | .function => (name ++ " is a shell function\n".toList, true)
  | .regular => (name ++ " is a shell builtin\n".toList, true)
  | .program path => (name ++ " is ".toList ++ path ++ ['\n'], true)
  | .nothing => (name ++ ": not found\n".toList, false)

/-- Runs `type`. -/
def runType (s : State) (names : List (List Char)) : State :=
  let found := names.map (described s)
  (s.say "type" (found.flatMap (·.1))).outcome (if found.all (·.2) then 0 else 127)

/-- Runs `command -v`. -/
def runLookUp (s : State) (names : List (List Char)) : State :=
  let found := names.map fun name =>
    match meaning s name with
    | .program path => (path ++ ['\n'], true)
    | .nothing => ([], false)
    | _ => (name ++ ['\n'], true)
  (s.say "command" (found.flatMap (·.1))).outcome (if found.all (·.2) then 0 else 127)

/-- What `times` shows. -/
def timesText : List Char := "0m0.00s 0m0.00s\n0m0.00s 0m0.00s\n".toList

/-- A command that a shell carries out without running others. -/
def builtin? (name : String) : Option (State → List (List Char) → State) :=
  match name with
  | ":" => some fun s _ => s.outcome 0
  | "true" => some fun s _ => s.outcome 0
  | "false" => some fun s _ => s.outcome 1
  | "echo" => some fun s a => s.say "echo" (echo a)
  | "printf" => some (withOptions [] fun s _ a => runPrintf s a)
  | "test" => some runTest
  | "[" => some runBracket
  | "cd" => some (withOptions ['L', 'P'] fun s _ a => runCd s a)
  | "pwd" => some (withOptions ['L', 'P'] fun s letters _ => runPwd s letters)
  | "read" => some (withOptions ['r'] runRead)
  | "export" => some (withSpecialOptions ['p'] fun s _ a =>
      markVariables (fun v => { v with exported := true }) s a)
  | "readonly" => some (withSpecialOptions ['p'] fun s _ a =>
      markVariables (fun v => { v with readOnly := true }) s a)
  | "local" => some fun s a =>
      if s.process.locals.isNone then s.fail "not in a function".toList else makeLocal s a
  | "unset" => some (withSpecialOptions ['f', 'v'] fun s letters a =>
      unsetAll (letters.getLast? = some 'f') s a)
  | "set" => some runSet
  | "shift" => some runShift
  | "exit" => some (runLeave .exiting)
  | "return" => some (runLeave .returning)
  | "break" => some (runBreak .breaking)
  | "continue" => some (runBreak .continuing)
  | "kill" => some runKill
  | "trap" => some (withSpecialOptions [] fun s _ a => runTrap s a)
  | "umask" => some (withOptions ['S'] fun s _ a => runUmask s a)
  | "ulimit" => some (withOptions "HSatfdscmlpnvwr".toList fun s _ a => runUlimit s a)
  | "wait" => some (withOptions [] fun s _ a => runWait s a)
  | "type" => some runType
  | "times" => some fun s _ => s.say "times" timesText
  | "jobs" => some (withOptions ['l', 'p'] fun s _ _ => s.outcome 0)
  | "hash" => some (withOptions ['r', 'v'] fun s _ _ => s.outcome 0)
  | "alias" => some fun s _ => s.outcome 0
  | "unalias" => some fun s _ => s.outcome 0
  | "getopts" => some runGetopts
  | "bg" => some fun s _ => s.refuse "No current job".toList
  | "fg" => some fun s _ => s.refuse "No current job".toList
  | _ => none

end ChapelCheck.Shell
