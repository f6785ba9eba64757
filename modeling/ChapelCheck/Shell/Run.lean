import ChapelCheck.Shell.Arithmetic
import ChapelCheck.Shell.Builtin
import ChapelCheck.Shell.Redirect

/-!
# ChapelCheck.Shell.Run

Running scripts.  Words and commands depend on each other, since a word can
hold a command, so one bound limits the depth of all their runs and the rounds
of loops.  Programs are started by a `Launch`, which is given.
-/

namespace ChapelCheck.Shell

open Text

/-! ## parts that need no run -/

/-- A word with the home directory in the place of a tilde at its start. -/
def withHome (p : Process) (w : Word) : Word :=
  let follows : Word → Bool
    | [] => true
    | .text ('/' :: _) false :: _ => true
    | _ => false
  match w with
  | .text ('~' :: cs) false :: rest =>
    let rest' := if cs.isEmpty then rest else .text cs false :: rest
    match (p.valueOf? "HOME").filter (!·.isEmpty), follows rest' with
    | some home, true => .text home true :: rest'
    | _, _ => w
  | w => w

/-- Whether a name stands for all arguments. -/
def isAll (name : String) : Bool := name = "@" || name = "*"

/-- The atoms of a parameter that has a value. -/
def parameterAtoms (p : Process) (name : String) (quoted : Bool) (value : List Char) : List Atom :=
  if name = "@" || (name = "*" && !quoted) then argumentAtoms quoted p.arguments
  else valueAtoms quoted value

/-- Complains about a parameter without a value. -/
def State.missing (s : State) (name : String) (message : List Char) : State :=
  s.fail (name.toList ++ ": ".toList ++ message)

/-- The value of an arithmetic expression; its assignments take effect. -/
def State.calculate (s : State) (cs : List Char) : List Char × State :=
  match Arithmetic.value s.process.valueOf? cs with
  | .error message => ([], s.fail message)
  | .ok (n, new) =>
    let digits := Decimal.write n.natAbs
    (if n < 0 then '-' :: digits else digits,
      new.foldr (fun (name, n) s =>
        let digits := Decimal.write n.natAbs
        s.assign name (if n < 0 then '-' :: digits else digits)) s)

/-- A text without the ends of lines at its end. -/
def chopped (cs : List Char) : List Char := (cs.reverse.dropWhile (· = '\n')).reverse

/-- Puts variables back as they were. -/
def Process.restore (p : Process) (saved : List (String × Option Variable)) : Process :=
  saved.foldl (fun p (name, v) => p.put name v) p

/-- Gives variables the values that stand before a command. -/
def State.assignAll (s : State) (exported : Bool) (values : List (String × List Char)) : State :=
  values.foldl (fun s (name, value) =>
    if !s.goesOn then s
    else
      let s := s.assign name value
      if exported then
        s.update fun p => match p.bindings.lookup name with
          | some v => p.put name (some { v with exported := true })
          | none => p
      else s) s

/-- What is left of the ends of loops outside one more loop, and whether that
loop is over. -/
def State.roundEnd (s : State) : State × Bool :=
  match s.flow with
  | .go => (s, false)
  | .breaking n => ({ s with flow := if n ≤ 1 then .go else .breaking (n - 1) }, true)
  | .continuing n =>
    if n ≤ 1 then ({ s with flow := .go }, false) else ({ s with flow := .continuing (n - 1) }, true)
  | _ => (s, true)

/-- Complains about a program that could not be started. -/
def State.notStarted (s : State) (name : List Char) (e : SystemError) : State :=
  match e with
  | .notFound => (s.complain (name ++ ": not found".toList)).outcome 127
  | .notADirectory => (s.complain (name ++ ": not found".toList)).outcome 127
  | .linkLoop => (s.complain (name ++ ": ".toList ++ e.wording.1.toList)).outcome 127
  | .nameTooLong => (s.complain (name ++ ": ".toList ++ e.wording.1.toList)).outcome 127
  | e => (s.complain (name ++ ": ".toList ++ e.wording.1.toList)).outcome 126

/-- The path of the shell itself. -/
def shellPath : List Char := "/bin/sh".toList

/-- Starts a program by its name.  A file that no program is named in is run as a
script. -/
def State.start (launch : Launch) (s : State) (errors : Option End) (name : List Char)
    (arguments : List (List Char)) : State :=
  let environment := s.process.exported
  match if '/' ∈ name then some name
      else programPath? s.files [("PATH", (s.process.valueOf? "PATH").getD [])] name with
  | none => s.notStarted name .notFound
  | some path =>
    let begin (program : List Char) (arguments : List (List Char)) :
        Except SystemError ExitStatus × World :=
      launch ⟨program, name, arguments, environment, s.process.working, s.process.channels⟩ s.world
    let (result, w) := match begin path arguments with
      | (.error .badProgram, _) => begin shellPath (path :: arguments)
      | r => r
    let s := { s with world := w }
    match result with
    | .error e => s.notStarted name e
    | .ok (.code n) => s.outcome n
    | .ok (.signal n) =>
      let s := s.outcome (128 + n)
      match errors with
      | some e =>
        if n = 2 || n = 13 then s
        else { s with world := s.world.write e (signalWords n ++ ['\n']) }
      | none => s

/-- The file that `.` reads. -/
def dotFile (s : State) (name : List Char) : Except (List Char) (List Char) :=
  if '/' ∈ name then (readFile s.files name)
  else
    let path := (s.process.valueOf? "PATH").getD []
    let candidates := (pieces ':' path).map fun d => if d.isEmpty then name else d ++ '/' :: name
    match candidates.find? fun c => s.files.isFile (pathOfChars c) with
    | some file => readFile s.files file
    | none => .error (name ++ ": not found".toList)

/-! ## runs -/

mutual

/-- Expands a part of a word. -/
def expandPart (launch : Launch) (bound : Nat) (part : Part) (s : State) : List Atom × State :=
  match bound with
  | 0 => ([], s.leave 2)
  | bound + 1 =>
    if !s.goesOn then ([], s)
    else
      match part with
      | .text cs quoted => (textAtoms quoted cs, s)
      | .sum expression quoted =>
        let (atoms, s) := expandParts launch bound expression s
        if !s.goesOn then ([], s)
        else
          let (cs, s) := s.calculate (wholeText atoms)
          (valueAtoms quoted cs, s)
      | .output command quoted =>
        let (number, w) := s.world.start []
        let inner := { s with world := w }.lead 1 (some (.store number))
        let after := runCopy launch bound false command inner
        let cs := (after.world.stored number).filter (· ≠ '\x00')
        let after := { after with world := after.world.discard number }
        let s := { s with
          world := after.world
          flow := after.flow
          process := { s.process with substituted := some after.process.status } }
        (valueAtoms quoted (chopped cs), s)
      | .value name quoted operator word =>
        let value := s.process.get? name
        let present (emptyToo : Bool) : Bool :=
          match value with
          | some v => !(emptyToo && v.isEmpty)
          | none => false
        let shown := parameterAtoms s.process name quoted (value.getD [])
        let isStrict := s.process.has 'u' && value.isNone && !isAll name
        match operator with
        | .plain =>
          if isStrict then ([], s.missing name "parameter not set".toList) else (shown, s)
        | .length =>
          if isStrict then ([], s.missing name "parameter not set".toList)
          else (valueAtoms quoted (Decimal.write (value.getD []).length), s)
        | .fallback emptyToo =>
          if present emptyToo then (shown, s) else expandParts launch bound word s
        | .alternative emptyToo =>
          if present emptyToo then expandParts launch bound word s
          else (if quoted && name ≠ "@" then [.mark] else [], s)
        | .assign emptyToo =>
          if present emptyToo then (shown, s)
          else
            let (atoms, s) := expandParts launch bound word s
            if !s.goesOn then ([], s)
            else if !isName name.toList then ([], s.fail (badName name.toList))
            else
              let cs := wholeText atoms
              (valueAtoms quoted cs, s.assign name cs)
        | .demand emptyToo =>
          if present emptyToo then (shown, s)
          else
            let (atoms, s) := expandParts launch bound word s
            if !s.goesOn then ([], s)
            else
              let cs := wholeText atoms
              let message := if word.isEmpty then
                  (if emptyToo then "parameter not set or null" else "parameter not set").toList
                else cs
              ([], s.missing name message)
        | .trim atStart longest =>
          if isStrict then ([], s.missing name "parameter not set".toList)
          else
            let (atoms, s) := expandParts launch bound word s
            let gs := pattern (patternChars atoms)
            let cs := value.getD []
            (valueAtoms quoted (if atStart then trimStart longest gs cs else trimEnd longest gs cs), s)
        | .unknown => ([], s.fail "Bad substitution".toList)

/-- Expands a word. -/
def expandParts (launch : Launch) (bound : Nat) (parts : Word) (s : State) : List Atom × State :=
  match bound with
  | 0 => ([], s.leave 2)
  | bound + 1 =>
    parts.foldl (fun (atoms, s) part =>
      let (more, s) := expandPart launch bound part s
      (atoms ++ more, s)) ([], s)

/-- Expands a word that is not divided. -/
def expandWhole (launch : Launch) (bound : Nat) (w : Word) (s : State) : List Char × State :=
  match bound with
  | 0 => ([], s.leave 2)
  | bound + 1 =>
    let (atoms, s) := expandParts launch bound (withHome s.process w) s
    (wholeText atoms, s)

/-- Expands words to fields. -/
def expandWords (launch : Launch) (bound : Nat) (words : List Word) (s : State) :
    List (List Char) × State :=
  match bound with
  | 0 => ([], s.leave 2)
  | bound + 1 =>
    words.foldl (fun (fields, s) w =>
      let (atoms, s) := expandParts launch bound (withHome s.process w) s
      if s.goesOn then (fields ++ fieldsOf s atoms, s) else (fields, s)) ([], s)

/-- Expands the targets of redirections. -/
def expandTargets (launch : Launch) (bound : Nat) (redirects : List Redirect) (s : State) :
    List (Nat × Direction × List Char) × State :=
  match bound with
  | 0 => ([], s.leave 2)
  | bound + 1 =>
    redirects.foldl (fun (targets, s) r =>
      match r with
      | .mk channel direction target =>
        let (cs, s) := match direction with
          | .inline =>
            let (atoms, s) := expandParts launch bound target s
            (wholeText atoms, s)
          | _ => expandWhole launch bound target s
        (targets ++ [(channel, direction, cs)], s)) ([], s)

/-- Runs a command in a copy of the shell. -/
def runCopy (launch : Launch) (bound : Nat) (tested : Bool) (command : Command) (s : State) :
    State :=
  match bound with
  | 0 => s.leave 2
  | bound + 1 =>
    s.rejoin (finish launch bound (run launch bound tested command s.copied))

/-- Does what is to be done at the end of a shell. -/
def finish (launch : Launch) (bound : Nat) (s : State) : State :=
  match bound with
  | 0 => s.leave 2
  | bound + 1 =>
    match s.flow, s.process.traps.lookup 0 with
    | .killed _, _ => s
    | _, none => s
    | _, some action =>
      let status := s.process.status
      let s := s.update fun p => { p with
        traps := p.traps.filter (·.1 ≠ 0)
        settled := some status }
      let s := runText launch bound false (.ofText 1 action) { s with flow := .go }
      if s.goesOn then s.outcome status else s

/-- Does what is to be done on signals that have come. -/
def attend (launch : Launch) (bound : Nat) (s : State) : State :=
  match bound with
  | 0 => s.leave 2
  | bound + 1 =>
    s.process.pending.foldl (fun s action =>
      if !s.goesOn then s
      else
        let status := s.process.status
        let before := s.process.settled
        let s := s.update fun p => { p with settled := some status }
        let s := runText launch bound false (.ofText 1 action) s
        let s := s.update fun p => { p with settled := before }
        if s.goesOn then s.outcome status else s)
      (s.update fun p => { p with pending := [] })

/-- Runs the commands of a text, each one as soon as it is read. -/
def runText (launch : Launch) (bound : Nat) (tested : Bool) (r : Reader) (s : State) : State :=
  match bound with
  | 0 => s.leave 2
  | bound + 1 =>
    let reveal (s : State) (rest : List Char) : State :=
      if s.process.has 'v' then s.write 2 (r.rest.take (r.rest.length - rest.length)) else s
    match r.next with
    | .finished => reveal s []
    | .faulty f =>
      let s := s.update fun p => { p with line := f.line }
      s.fail ("Syntax error: ".toList ++ f.message.toList)
    | .command c rest =>
      let s := reveal s rest.rest
      let s := run launch bound tested c s
      if s.goesOn then runText launch bound tested rest s else s

/-- Runs a function. -/
def call (launch : Launch) (bound : Nat) (tested : Bool) (body : Command)
    (arguments : List (List Char)) (s : State) : State :=
  match bound with
  | 0 => s.leave 2
  | bound + 1 =>
    let before := s.process
    let s := s.update fun p => { p with arguments := arguments, loops := 0, locals := some [] }
    let s := run launch bound tested body s
    let s := s.update fun p =>
      { p.restore (p.locals.getD []) with
        arguments := before.arguments
        loops := before.loops
        locals := before.locals }
    if s.flow = .returning then { s with flow := .go } else s

/-- Runs a command by its name: a function, a command of the shell itself, or a
program.  What a signal makes of a program is told where `errors` leads. -/
def perform (launch : Launch) (bound : Nat) (tested functions : Bool) (errors : Option End)
    (name : List Char) (arguments : List (List Char)) (s : State) : State :=
  match bound with
  | 0 => s.leave 2
  | bound + 1 =>
    let word := String.ofList name
    match if functions then s.process.functions.lookup word else none with
    | some body => call launch bound tested body arguments s
    | none =>
      match builtin? word with
      | some f => s.within name fun s => f s arguments
      | none =>
        match word with
        | "eval" =>
          let text := joinFields [' '] arguments
          s.within name fun s => runText launch bound tested (.ofText 1 text) (s.outcome 0)
        | "." =>
          match takeOptions [] arguments with
          | .error c => s.within name fun s => s.fail (illegalOption c)
          | .ok (_, []) => s.outcome 0
          | .ok (_, file :: _) =>
            match dotFile s file with
            | .error message => s.within name fun s => s.fail message
            | .ok text =>
              let s := s.within file fun s =>
                runText launch bound false (.ofText 1 text) (s.outcome 0)
              if s.flow = .returning then { s with flow := .go } else s
        | "exec" =>
          match arguments with
          | [] => s.outcome 0
          | program :: rest =>
            let s := s.within name fun s => s.start launch none program rest
            { s.update fun p => { p with traps := [] } with flow := .exiting }
        | "command" =>
          match takeOptions ['p', 'v', 'V'] arguments with
          | .error c => s.within name fun s => s.refuse (illegalOption c)
          | .ok (_, []) => s.outcome 0
          | .ok (letters, program :: rest) =>
            if 'v' ∈ letters then runLookUp s (program :: rest)
            else if 'V' ∈ letters then runType s (program :: rest)
            else perform launch bound tested false errors program rest s
        | _ => s.start launch errors name arguments

/-- Runs a simple command. -/
def runSimple (launch : Launch) (bound : Nat) (tested : Bool) (line : Nat)
    (assignments : List (String × Word)) (words : List Word) (redirects : List Redirect)
    (s : State) : State :=
  match bound with
  | 0 => s.leave 2
  | bound + 1 =>
    let s := s.update fun p => { p with line := line, substituted := none }
    let (fields, s) := expandWords launch bound words s
    if !s.goesOn then s
    else
      let (targets, s) := expandTargets launch bound redirects s
      if !s.goesOn then s
      else
        let before := s.process.channels
        let errors := s.process.channel? 2
        let (s, isLed) := s.redirectAll targets
        let word := (fields.head?.map String.ofList).getD ""
        let isSpecial := word ∈ specialNames
        if !isLed then
          let s := s.update fun p => { p with channels := before }
          if s.goesOn && isSpecial then s.leave 2 else s
        else
          let isLasting := fields.isEmpty || isSpecial
          let saved := assignments.map fun (name, _) => (name, s.process.bindings.lookup name)
          let (values, s) := assignments.foldl (fun (values, s) (name, w) =>
            if !s.goesOn then (values, s)
            else
              let (cs, s) := expandWhole launch bound w s
              if !s.goesOn then (values, s)
              else (values ++ [(name, cs)], s.assignAll (!isLasting) [(name, cs)])) ([], s)
          let shown := values.map fun (name, cs) => name.toList ++ '=' :: cs
          let after :=
            if !s.goesOn then s
            else
              let s := if shown.isEmpty && fields.isEmpty then s else s.trace errors (shown ++ fields)
              match fields with
              | [] => s.outcome (s.process.substituted.getD 0)
              | name :: arguments =>
                perform launch bound tested true errors name arguments s
          let after := if isLasting then after
            else after.update fun p => p.restore saved
          if word = "exec" then after
          else after.update fun p => { p with channels := before }

/-- Runs commands that a pipe joins, the first of which reads from `input`. -/
def runPipe (launch : Launch) (bound : Nat) (tested : Bool) (input : Option End)
    (commands : List Command) (s : State) : State :=
  match bound with
  | 0 => s.leave 2
  | bound + 1 =>
    let fed : State := match input with
      | some e => s.lead 0 (some e)
      | none => s
    match commands with
    | [] => s
    | [command] =>
      let after := runCopy launch bound tested command fed
      s.rejoin after
    | command :: rest =>
      let (number, w) := fed.world.start []
      let inner := { fed with world := w }.lead 1 (some (.store number))
      let after := runCopy launch bound tested command inner
      runPipe launch bound tested (some (.store number)) rest (s.rejoin after)

/-- Runs a command.  `tested` says that the outcome is asked for, so that a
failure does not end the script. -/
def run (launch : Launch) (bound : Nat) (tested : Bool) (command : Command) (s : State) : State :=
  match bound with
  | 0 => s.leave 2
  | bound + 1 =>
    if !s.goesOn || s.process.has 'n' then s
    else
      match command with
      | .nothing => s
      | .simple line assignments words redirects =>
        let s := runSimple launch bound tested line assignments words redirects s
        let s := if s.process.pending.isEmpty then s else attend launch bound s
        s.checked tested
      | .define name body =>
        (s.update fun p =>
          { p with functions := (name, body) :: p.functions.filter (·.1 ≠ name) }).outcome 0
      | .sequence first second =>
        run launch bound tested second (run launch bound tested first s)
      | .both first second =>
        let s := run launch bound true first s
        if s.isSuccess then run launch bound tested second s else s
      | .either first second =>
        let s := run launch bound true first s
        if s.isSuccess then s else run launch bound tested second s
      | .pipe commands => (runPipe launch bound tested none commands s).checked tested
      | .background command =>
        let after := runCopy launch bound tested command (s.lead 0 (some .nowhere))
        let s := (s.rejoin after).update fun p => { p with background := some after.process.status }
        s.outcome 0
      | .negation command =>
        let s := run launch bound true command s
        if s.goesOn then s.succeed !s.isSuccess else s
      | .loop whileSuccess condition body =>
        let s := s.update fun p => { p with loops := p.loops + 1 }
        let s := runLoop launch bound tested whileSuccess condition body 0 s
        s.update fun p => { p with loops := p.loops - 1 }
      | .branch condition yes no =>
        let s := run launch bound true condition s
        if !s.goesOn then s
        else if s.isSuccess then run launch bound tested yes s
        else run launch bound tested no (s.outcome 0)
      | .each line name words body =>
        let s := s.update fun p => { p with line := line }
        let (fields, s) := expandWords launch bound words s
        if !s.goesOn then s
        else
          let s := s.update fun p => { p with loops := p.loops + 1 }
          let (s, _) := fields.foldl (fun (s, isOver) field =>
            if isOver then (s, isOver)
            else
              let s := s.assign name field
              if s.goesOn then (run launch bound tested body s).roundEnd else (s, true))
            (s.outcome 0, false)
          s.update fun p => { p with loops := p.loops - 1 }
      | .cases line word arms =>
        let s := s.update fun p => { p with line := line }
        let (cs, s) := expandWhole launch bound word s
        if !s.goesOn then s else runArms launch bound tested cs arms s
      | .subshell line command redirects =>
        let s := s.update fun p => { p with line := line }
        let (targets, s) := expandTargets launch bound redirects s
        if !s.goesOn then s
        else
          let (inner, isLed) := s.redirectAll targets
          let after := if isLed then runCopy launch bound tested command inner else inner
          (s.rejoin after).checked tested
      | .redirected line command redirects =>
        let s := s.update fun p => { p with line := line }
        let (targets, s) := expandTargets launch bound redirects s
        if !s.goesOn then s
        else
          let before := s.process.channels
          let (s, isLed) := s.redirectAll targets
          let s := if isLed then run launch bound tested command s else s
          s.update fun p => { p with channels := before }

/-- Runs a loop; `status` is the outcome of its last round. -/
def runLoop (launch : Launch) (bound : Nat) (tested whileSuccess : Bool) (condition body : Command)
    (status : Nat) (s : State) : State :=
  match bound with
  | 0 => s.leave 2
  | bound + 1 =>
    let (s, isOver) := (run launch bound true condition s).roundEnd
    if isOver then if s.goesOn then s.outcome status else s
    else if s.isSuccess = whileSuccess then
      let (s, isOver) := (run launch bound tested body s).roundEnd
      if isOver then s
      else runLoop launch bound tested whileSuccess condition body s.process.status s
    else s.outcome status

/-- Runs the first arm with a pattern that matches a text. -/
def runArms (launch : Launch) (bound : Nat) (tested : Bool) (cs : List Char)
    (arms : List (List Word × Command)) (s : State) : State :=
  match bound with
  | 0 => s.leave 2
  | bound + 1 =>
    match arms with
    | [] => s.outcome 0
    | (patterns, body) :: rest =>
      let (s, fits) := patterns.foldl (fun (s, fits) w =>
        if fits || !s.goesOn then (s, fits)
        else
          let (atoms, s) := expandParts launch bound (withHome s.process w) s
          (s, fitsAll (pattern (patternChars atoms)) cs)) (s, false)
      if !s.goesOn then s
      else if fits then
        match body with
        | .nothing => s.outcome 0
        | body => run launch bound tested body s
      else runArms launch bound tested cs rest s

end

/-! ## scripts -/

/-- How many nested runs and rounds a script may have. -/
def runLimit : Nat := 1000000

/-- What a script is run with. -/
structure Script where
  /-- The name that the script is started by. -/
  name : List Char
  text : List Char
  arguments : List (List Char)
  /-- The letters of the options that are set. -/
  letters : List Char
  environment : List (String × List Char)
  working : Option (List String)
  channels : Channels

/-- The variables of a shell that has just been started. -/
def initialVariables (environment : List (String × List Char)) (place : List Char) :
    List (String × Variable) :=
  let own : List (String × Variable) :=
    [("IFS", ⟨some [' ', '\t', '\n'], false, false⟩), ("PS4", ⟨some ['+', ' '], false, false⟩),
      ("PS1", ⟨some ['#', ' '], false, false⟩), ("PS2", ⟨some ['>', ' '], false, false⟩),
      ("OPTIND", ⟨some ['1'], false, false⟩),
      ("PWD", ⟨some place, true, false⟩)]
  let inherited := (environment.filter fun e => isName e.1.toList && e.1 ≠ "IFS" && e.1 ≠ "PWD").map
    fun (name, value) => (name, (⟨some value, true, false⟩ : Variable))
  let path : List (String × Variable) :=
    [("PATH", ⟨some (joinFields [':'] (programDirectories.map charsOfText)), false, false⟩)]
  inherited ++ (own ++ path).filter fun v => !inherited.any (·.1 = v.1)

/-- A shell that has just been started. -/
def Script.process (i : Script) : Process :=
  let place := match i.working with
    | some place => charsOfText (FileSystem.pathOf place).text
    | none => []
  { script := i.name
    arguments := i.arguments
    bindings := initialVariables i.environment place
    functions := []
    status := 0
    substituted := none
    background := none
    line := 0
    context := none
    letters := i.letters
    working := i.working
    place := place
    traps := []
    pending := []
    settled := none
    offset := none
    mask := 18
    channels := i.channels
    loops := 0
    locals := none }

/-- Runs a script. -/
def Script.run (i : Script) (launch : Launch) (w : World) : ExitStatus × World :=
  let s := runText launch runLimit false (.ofText 1 i.text) ⟨i.process, w, .go⟩
  let s := finish launch runLimit s
  (match s.flow with
    | .killed n => .signal n
    | _ => .code s.process.status, s.world)

end ChapelCheck.Shell
