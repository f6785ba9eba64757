import ChapelCheck.Shell.State

/-!
# ChapelCheck.Shell.Redirect

Where the channels of a command lead.  Redirections take effect one after the
other; one that is refused says why and leaves those before it in effect.
-/

namespace ChapelCheck.Shell

open Text

/-- The words for a file that cannot be read. -/
def openFailure (e : SystemError) : List Char :=
  match e with
  | .notFound => "No such file".toList
  | .notADirectory => "No such file".toList
  | e => e.wording.1.toList

/-- The words for a file that cannot be written. -/
def createFailure (e : SystemError) : List Char :=
  match e with
  | .notFound => "Directory nonexistent".toList
  | .notADirectory => "Directory nonexistent".toList
  | e => e.wording.1.toList

/-- The octets of a file that is read; a directory reads as empty. -/
def readFile (fs : FileSystem) (file : List Char) : Except (List Char) (List Char) :=
  match fs.readOctets (pathOfChars file) with
  | .ok octets => .ok (charsOfOctets octets)
  | .error .isADirectory => .ok []
  | .error e => .error ("cannot open ".toList ++ file ++ ": ".toList ++ openFailure e)

/-- The channel that a path names. -/
def channelOfPath? (path : List Char) : Option Nat :=
  match textOfChars path with
  | "/dev/stdin" => some 0
  | "/dev/stdout" => some 1
  | "/dev/stderr" => some 2
  | _ =>
    let below (directory : String) : Option Nat :=
      if directory.toList.isPrefixOf path then Decimal.readDigits? (path.drop directory.length)
      else none
    (below "/dev/fd/").or (below "/proc/self/fd/")

/-- Leads a channel elsewhere, or closes it. -/
def State.lead (s : State) (channel : Nat) (e : Option End) : State :=
  s.update fun p =>
    { p with channels :=
        (e.map fun e => (channel, e)).toList ++ p.channels.filter (·.1 ≠ channel) }

/-- Leads a channel to a text that can be read. -/
def State.feed (s : State) (channel : Nat) (cs : List Char) : State :=
  let (number, w) := s.world.start cs
  { s with world := w }.lead channel (some (.store number))

/-- Leads a channel to a file that is written. -/
def State.create (s : State) (channel : Nat) (file : List Char) (keeps overwrites : Bool) :
    Except (List Char) State :=
  let refuse (e : SystemError) : Except (List Char) State :=
    .error ("cannot create ".toList ++ file ++ ": ".toList ++ createFailure e)
  let set (place : List String) (octets : List UInt8) (executable : Bool) : State :=
    { s with world := { s.world with tree := s.world.tree.put place (.file octets executable) } }.lead
      channel (some (.file place))
  match s.files.resolve (pathOfChars file) with
  | .error e => refuse e
  | .ok (.free directory name) => .ok (set (directory ++ [name]) [] false)
  | .ok (.found place) =>
    match s.world.tree.find? place with
    | some (.file octets executable) =>
      if keeps then .ok (set place octets executable)
      else if s.process.has 'C' && !overwrites then refuse .alreadyExists
      else .ok (set place [] executable)
    | some (.directory _) => refuse .isADirectory
    | some .device => .ok (s.lead channel (some .nowhere))
    | _ => refuse .denied

/-- What comes of a redirection. -/
inductive Redirected where
  | done (s : State)
  /-- The redirection is refused. -/
  | refused (message : List Char)
  /-- What stands for a channel is none, which ends the shell. -/
  | senseless

/-- Leads a channel to where another one leads. -/
def State.join (s : State) (channel other : Nat) : Redirected :=
  match s.process.channel? other with
  | some e => .done (s.lead channel (some e))
  | none => .refused (Decimal.write other ++ ": Bad file descriptor".toList)

/-- One redirection, with its target expanded. -/
def State.redirect (s : State) (channel : Nat) (direction : Direction) (target : List Char) :
    Redirected :=
  let ofExcept : Except (List Char) State → Redirected
    | .ok s => .done s
    | .error message => .refused message
  match direction with
  | .inline => .done (s.feed channel target)
  | .duplicate =>
    match target with
    | ['-'] => .done (s.lead channel none)
    | [c] =>
      match Decimal.digit? c with
      | some other => s.join channel other
      | none => .senseless
    | _ => .senseless
  | direction =>
    match channelOfPath? target with
    | some other => s.join channel other
    | none =>
      match direction with
      | .read =>
        match s.files.get (pathOfChars target) with
        | .ok .device => .done (s.lead channel (some .nowhere))
        | _ => ofExcept ((readFile s.files target).map (s.feed channel))
      | .write => ofExcept (s.create channel target false false)
      | .overwrite => ofExcept (s.create channel target false true)
      | _ => ofExcept (s.create channel target true false)

/-- Redirections with their targets expanded, from left to right, and whether
all of them took effect. -/
def State.redirectAll (s : State) : List (Nat × Direction × List Char) → State × Bool
  | [] => (s, true)
  | (channel, direction, target) :: rest =>
    match s.redirect channel direction target with
    | .done s => s.redirectAll rest
    | .refused message => ((s.complain message).outcome 2, false)
    | .senseless => (s.fail "Syntax error: Bad fd number".toList, false)

end ChapelCheck.Shell
