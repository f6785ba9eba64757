import ChapelCheck.Compiler
import ChapelCheck.FileSystem.Change
import ChapelCheck.Shell.Command
import ChapelCheck.Shell.Print

/-!
# ChapelCheck.Shell.State

A shell at work.  Three things change while it runs:

* the `World`, which all processes share: the files, what has been written to
  the error channel, and what is under way between processes;
* the `Process`, of which a subshell has a copy: variables, functions, options,
  the working directory and the channels;
* the `Flow`, which says whether the script goes on.
-/

namespace ChapelCheck.Shell

open Text

/-! ## octets -/

/-- Octets as the characters of their codes. -/
def charsOfOctets (bs : List UInt8) : List Char := bs.map fun b => Char.ofNat b.toNat

/-- Characters of octet codes as octets. -/
def octetsOfChars (cs : List Char) : List UInt8 := cs.map fun c => UInt8.ofNat c.toNat

/-- The octets of a text, as characters. -/
def charsOfText (s : String) : List Char := charsOfOctets (Utf8.encode s)

/-- The text that characters of octet codes stand for. -/
def textOfChars (cs : List Char) : String := Utf8.decodeLossy (octetsOfChars cs)

/-- The path that characters of octet codes stand for. -/
def pathOfChars (cs : List Char) : Path := ⟨textOfChars cs⟩

/-! ## the world -/

/-- What a channel leads to. -/
inductive End where
  /-- What is written is kept as errors. -/
  | errors
  /-- What is written is lost, and there is nothing to read. -/
  | nowhere
  /-- A text under way, which is written at its end and read from its start. -/
  | store (number : Nat)
  /-- A file, which is written at its end. -/
  | file (place : List String)
deriving DecidableEq

/-- What all processes share. -/
structure World where
  tree : Tree
  /-- What was written to the error channel, the last first. -/
  errors : List (List Char)
  /-- The texts under way. -/
  stores : List (Nat × List Char)
  /-- The number of the next text. -/
  next : Nat

namespace World

/-- The text with a number. -/
def stored (w : World) (number : Nat) : List Char := (w.stores.lookup number).getD []

/-- Changes the text with a number. -/
def store (w : World) (number : Nat) (cs : List Char) : World :=
  { w with stores := (number, cs) :: w.stores.filter (·.1 ≠ number) }

/-- A new text. -/
def start (w : World) (cs : List Char) : Nat × World :=
  (w.next, { w with stores := (w.next, cs) :: w.stores, next := w.next + 1 })

/-- Takes a text away. -/
def discard (w : World) (number : Nat) : World :=
  { w with stores := w.stores.filter (·.1 ≠ number) }

/-- Writes to what a channel leads to. -/
def write (w : World) (e : End) (cs : List Char) : World :=
  match e with
  | .errors => { w with errors := cs :: w.errors }
  | .nowhere => w
  | .store number => w.store number (w.stored number ++ cs)
  | .file place =>
    { w with tree := w.tree.change (fun
        | some (.file octets executable) => some (.file (octets ++ octetsOfChars cs) executable)
        | t => t) place }

/-- Everything that can be read where a channel leads to; it is read only once. -/
def readAll (w : World) (e : End) : List Char × World :=
  match e with
  | .store number => (w.stored number, w.store number [])
  | _ => ([], w)

/-- The next line where a channel leads to, and whether it is ended. -/
def readLine (w : World) (e : End) : List Char × Bool × World :=
  match e with
  | .store number =>
    match cut '\n' (w.stored number) with
    | (line, some rest) => (line, true, w.store number rest)
    | (line, none) => (line, false, w.store number [])
  | _ => ([], false, w)

end World

/-! ## processes -/

/-- The channels that are open. -/
abbrev Channels := List (Nat × End)

/-- A variable, which may be marked without having a value. -/
structure Variable where
  value : Option (List Char)
  exported : Bool
  readOnly : Bool

/-- What a copy of a shell starts with. -/
structure Process where
  /-- The name that the script was started by. -/
  script : List Char
  arguments : List (List Char)
  bindings : List (String × Variable)
  functions : List (String × Command)
  /-- The outcome of the last command. -/
  status : Nat
  /-- The outcome of the last command in a word, if there was one in this command. -/
  substituted : Option Nat
  /-- The outcome of the last command that nothing waited for. -/
  background : Option Nat
  /-- The line that the last command started in. -/
  line : Nat
  /-- The command that complaints name. -/
  context : Option (List Char)
  /-- The letters of the options that are set. -/
  letters : List Char
  working : Option (List String)
  /-- How the working directory was reached. -/
  place : List Char
  /-- What is done on signals; signal 0 is the end of the shell. -/
  traps : List (Nat × List Char)
  /-- What is to be done on signals that have come. -/
  pending : List (List Char)
  /-- The outcome of the shell, once it is settled unless something else is asked
  for. -/
  settled : Option Nat
  /-- How far the options in one argument have been read. -/
  offset : Option Nat
  /-- The permissions that new files do not get. -/
  mask : Nat
  channels : Channels
  /-- How many loops there are around the command. -/
  loops : Nat
  /-- The variables that the functions around the command have to put back. -/
  locals : Option (List (String × Option Variable))

/-- Whether a script goes on. -/
inductive Flow where
  | go
  /-- So many loops end. -/
  | breaking (loops : Nat)
  /-- All but the last of so many loops end, and that one goes on. -/
  | continuing (loops : Nat)
  /-- The function ends. -/
  | returning
  /-- The shell ends. -/
  | exiting
  /-- A signal ends the shell and all its copies. -/
  | killed (signal : Nat)
deriving DecidableEq

/-- A shell at work. -/
structure State where
  process : Process
  world : World
  flow : Flow

/-- The process number that a script sees as its own. -/
def processNumber : Nat := 4242

/-- The letters of the options, in the order in which they are shown. -/
def optionLetters : List Char := "ubaCEVvxsnmiIfe".toList

namespace Process

/-- The value of a variable. -/
def valueOf? (p : Process) (name : String) : Option (List Char) :=
  (p.bindings.lookup name).bind Variable.value

/-- The characters that divide fields. -/
def separators (p : Process) : List Char := (p.valueOf? "IFS").getD [' ', '\t', '\n']

/-- The value of a parameter, if it has one. -/
def get? (p : Process) (name : String) : Option (List Char) :=
  match name.toList with
  | ['0'] => some p.script
  | ['*'] =>
    if p.arguments.isEmpty then none else some (joinFields (p.separators.take 1) p.arguments)
  | ['@'] => if p.arguments.isEmpty then none else some (joinFields [' '] p.arguments)
  | ['#'] => some (Decimal.write p.arguments.length)
  | ['?'] => some (Decimal.write p.status)
  | ['$'] => some (Decimal.write processNumber)
  | ['-'] => some (optionLetters.filter (· ∈ p.letters))
  | ['!'] => p.background.map fun _ => Decimal.write (processNumber + 1)
  | cs =>
    match Decimal.readDigits? cs with
    | some n => if n = 0 then some p.script else p.arguments[n - 1]?
    | none => p.valueOf? name

/-- Whether an option is set. -/
def has (p : Process) (letter : Char) : Bool := letter ∈ p.letters

/-- Puts a variable in the place of one of its name. -/
def put (p : Process) (name : String) (v : Option Variable) : Process :=
  let others := p.bindings.filter (·.1 ≠ name)
  { p with bindings := (v.map fun v => (name, v)).toList ++ others }

/-- What a channel leads to. -/
def channel? (p : Process) (n : Nat) : Option End := p.channels.lookup n

/-- The variables that programs see. -/
def exported (p : Process) : List (String × List Char) :=
  p.bindings.filterMap fun (name, v) =>
    if v.exported then v.value.map fun value => (name, value) else none

end Process

/-! ## states -/

namespace State

/-- Changes the process. -/
def update (s : State) (f : Process → Process) : State := { s with process := f s.process }

/-- The files as the process sees them. -/
def files (s : State) : FileSystem := ⟨s.world.tree, s.process.working⟩

/-- Writes to a channel. -/
def write (s : State) (channel : Nat) (cs : List Char) : State :=
  match s.process.channel? channel with
  | some e => { s with world := s.world.write e cs }
  | none => s

/-- Sets the outcome of a command. -/
def outcome (s : State) (status : Nat) : State := s.update fun p => { p with status := status }

/-- Sets the outcome of a command to success or failure. -/
def succeed (s : State) (ok : Bool) : State := s.outcome (if ok then 0 else 1)

/-- Whether the last command succeeded. -/
def isSuccess (s : State) : Bool := s.process.status = 0

/-- Whether the script goes on. -/
def goesOn (s : State) : Bool := s.flow = .go

/-- Ends the shell. -/
def leave (s : State) (status : Nat) : State := { s.outcome status with flow := .exiting }

/-- Writes a complaint, after the name of the script, the line, and the command
that it is about. -/
def complain (s : State) (message : List Char) : State :=
  let p := s.process
  let context := match p.context with
    | some name => name ++ ": ".toList
    | none => []
  s.write 2 (p.script ++ ": ".toList ++ Decimal.write p.line ++ ": ".toList ++ context ++
    message ++ ['\n'])

/-- Complains and ends the shell. -/
def fail (s : State) (message : List Char) : State := (s.complain message).leave 2

/-- Runs with a command that complaints name. -/
def within (s : State) (name : List Char) (f : State → State) : State :=
  let before := s.process.context
  (f (s.update fun p => { p with context := some name })).update fun p =>
    { p with context := before }

/-- Gives a variable a value, unless it must not change. -/
def assign (s : State) (name : String) (value : List Char) : State :=
  match s.process.bindings.lookup name with
  | some v =>
    if v.readOnly then s.fail (name.toList ++ ": is read only".toList)
    else s.update (·.put name (some { v with value := some value }))
  | none => s.update (·.put name (some ⟨some value, s.process.has 'a', false⟩))

/-- Shows a command that is about to run. -/
def trace (s : State) (e : Option End) (fields : List (List Char)) : State :=
  match s.process.has 'x', e with
  | true, some e =>
    let sign := (s.process.valueOf? "PS4").getD ['+', ' ']
    { s with world := s.world.write e (sign ++ joinFields [' '] fields ++ ['\n']) }
  | _, _ => s

/-- Ends the script after a failure, if it is to end then and the failure was not
asked for. -/
def checked (s : State) (tested : Bool) : State :=
  if s.process.has 'e' && !tested && !s.isSuccess && s.goesOn then
    { s with flow := .exiting }
  else s

/-- Starts a copy of the shell: what a signal does is forgotten, unless it does
nothing. -/
def copied (s : State) : State :=
  s.update fun p => { p with traps := p.traps.filter fun t => t.2.isEmpty && t.1 ≠ 0 }

/-- Goes back to a shell after a copy of it has ended. -/
def rejoin (before after : State) : State :=
  let flow := match after.flow with
    | .killed n => .killed n
    | _ => before.flow
  { before.outcome after.process.status with world := after.world, flow := flow }

end State

/-! ## programs -/

/-- What a program is started with. -/
structure Start where
  /-- The path of the program. -/
  program : List Char
  /-- The name that the program is told it was started by. -/
  name : List Char
  arguments : List (List Char)
  environment : List (String × List Char)
  working : Option (List String)
  channels : Channels

/-- How programs are started. -/
abbrev Launch := Start → World → Except SystemError ExitStatus × World

/-- The words for a signal that has ended a program. -/
def signalWords (n : Nat) : List Char :=
  let words := ["Hangup", "Interrupt", "Quit", "Illegal instruction", "Trace/breakpoint trap",
    "Aborted", "Bus error", "Floating point exception", "Killed", "User defined signal 1",
    "Segmentation fault", "User defined signal 2", "Broken pipe", "Alarm clock", "Terminated",
    "Stack fault", "Child exited", "Continued", "Stopped (signal)", "Stopped",
    "Stopped (tty input)", "Stopped (tty output)", "Urgent I/O condition",
    "CPU time limit exceeded", "File size limit exceeded", "Virtual timer expired",
    "Profiling timer expired", "Window changed", "I/O possible", "Power failure",
    "Bad system call"]
  match words[n - 1]? with
  | some text => text.toList
  | none => "Real-time signal ".toList ++ Decimal.write (n - 34)

end ChapelCheck.Shell
