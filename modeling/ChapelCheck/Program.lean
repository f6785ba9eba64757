import ChapelCheck.CommandLine.Filter
import ChapelCheck.CommandLine.Help
import ChapelCheck.CommandLine.LogFile
import ChapelCheck.FileSystem.Change
import ChapelCheck.Machine
import ChapelCheck.Session

/-!
# ChapelCheck.Program

The whole program on a machine: the command line is read, the log file is
opened, and a session is served until the editor ends it.
-/

namespace ChapelCheck

/-- Where events are written: a file, and the filter they pass. -/
structure LogSink where
  file : Path
  filter : Filter

/-- A program that serves an editor. -/
structure Program where
  machine : Machine
  session : Session
  sink : Option LogSink

/-- A program that has ended, or that never began to serve. -/
structure Ended where
  code : Nat
  output : String
  errors : String
  machine : Machine

namespace LogSink

/-- An event as a line of the log file. -/
def line (e : Event) : String :=
  (Json.object [
    ("fields", .object [("message", .string e.message)]),
    ("level", .string e.level.name),
    ("target", .string e.topic.name)]).render ++ "\n"

/-- Writes those events to the log file that the filter shows. -/
def write (sink : LogSink) (m : Machine) (es : List Event) : Machine :=
  let text := String.join ((es.filter sink.filter.shows).map line)
  match m.files.appendFile sink.file (Text.Utf8.encode text) with
  | .ok fs => { m with files := fs }
  | .error _ => m

end LogSink

namespace Program

open CommandLine

/-- The value of a variable of the environment. -/
def setting? (m : Machine) (name : String) : Option String := m.environment.lookup name

/-- The end of a program that could not open its log file. -/
def failed (m : Machine) (lines : List String) : Ended := ⟨1, "", textOfLines lines, m⟩

/-- Opens the log file: the directory that leads to it is made, and the file
too.  Nothing is done when logging is off. -/
def openLog (m : Machine) (level : Option Verbosity) (file : Path) :
    Except Ended (Machine × Option LogSink) :=
  if level = some .off then .ok (m, none)
  else
    let directory := file.parent?.getD ⟨"."⟩
    match m.files.makeDirectories directory with
    | .error e =>
      .error (failed m ["Failed to create log directory " ++ directory.quoted ++ ": " ++ e.message,
        "Error: " ++ e.message])
    | .ok fs =>
      let made : Machine := { m with files := fs }
      match file.fileName? with
      | none => .error (failed made ["Error: Log path has no file name: " ++ file.quoted])
      | some name =>
        let sink : LogSink :=
          ⟨directory.child name, Filter.choose level (setting? m "RUST_LOG")⟩
        .ok (sink.write made [], some sink)

/-- Logs events. -/
def log (p : Program) (es : List Event) : Program :=
  match p.sink with
  | none => p
  | some sink => { p with machine := sink.write p.machine es }

/-- Starts the program. -/
def start (m : Machine) (arguments : List String) : Except Ended Program :=
  match Options.read arguments with
  | .error halt => .error ⟨halt.code, halt.output, halt.errors, m⟩
  | .ok options =>
    let settings := Settings.ofEnvironment options.compiler (setting? m "CHPL_HOME")
    let file := options.logFile.getD
      (LogFile.defaultPath (setting? m "XDG_DATA_HOME") (setting? m "HOME"))
    (openLog m options.logging file).map fun (m, sink) =>
      ({ machine := m, session := .ofSettings settings, sink := sink } : Program).log
        [.serverStarted settings.compiler]

/-- Whether the editor has ended the session. -/
def isOver (p : Program) : Bool := p.session.phase = .exited

/-- What comes of one message: the program after it, and what is sent. -/
def receive (p : Program) (m : Message) : Program × List Json :=
  let (session, reply) := p.session.receive p.machine.host m
  (({ p with session := session, machine := p.machine.after reply.invocations }).log reply.log,
    reply.response.toJson?.toList ++ reply.sent.map Outgoing.toJson)

/-- Ends the program when there are no more messages. -/
def stop (p : Program) : Ended := ⟨0, "", "", (p.log [.serverStopped]).machine⟩

/-- Serves messages one by one: what is sent for each, and the program after
them. -/
def serve (p : Program) : List Message → List (List Json) × Program
  | [] => ([], p)
  | m :: ms =>
    if p.isOver then ([], p)
    else
      let (next, sent) := p.receive m
      let (rest, last) := next.serve ms
      (sent :: rest, last)

end Program

end ChapelCheck
