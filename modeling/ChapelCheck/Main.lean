import ChapelCheck.Json.Parse
import ChapelCheck.Program

/-!
# ChapelCheck.Main

The program on standard input and output.  Messages are framed: a header with
the length of the content in octets, an empty line, and the content.

The session runs on a machine of its own, which starts with the variables of
the process and an empty directory.
-/

namespace ChapelCheck.Main

/-- The variables that the program looks at. -/
def variableNames : List String := ["CHPL_HOME", "HOME", "RUST_LOG", "XDG_DATA_HOME"]

/-- The machine that the session runs on. -/
def machine : IO Machine := do
  let found ← variableNames.filterMapM fun name => do
    return (← IO.getEnv name).map fun value => (name, value)
  return { Machine.fresh "session" with environment := found }

/-- The length of the content that a header announces. -/
def contentLength? (header : List String) : Option Nat :=
  header.findSome? fun line =>
    match Text.cut ':' line.toList with
    | (name, some value) =>
      if Verbosity.lowerCase (String.ofList name) = "content-length" then
        Text.Decimal.readDigits? (Text.trim value)
      else none
    | (_, none) => none

/-- The lines of a header, up to the empty one; none at the end of the input. -/
partial def readHeader (input : IO.FS.Stream) (lines : List String) : IO (Option (List String)) := do
  let line ← input.getLine
  if line.isEmpty then return none
  let text := Text.trimmed line
  if text.isEmpty then return some lines.reverse else readHeader input (text :: lines)

/-- A number of octets, or fewer at the end of the input. -/
partial def readOctets (input : IO.FS.Stream) (count : Nat) (octets : ByteArray) : IO ByteArray := do
  if octets.size ≥ count then return octets
  let more ← input.read (count - octets.size).toUSize
  if more.isEmpty then return octets else readOctets input count (octets ++ more)

/-- The next message; none at the end of the input. -/
def readMessage (input : IO.FS.Stream) : IO (Option Message) := do
  match ← readHeader input [] with
  | none => return none
  | some header =>
    match contentLength? header with
    | none => return none
    | some count =>
      let octets ← readOctets input count ByteArray.empty
      let text := Text.Utf8.decodeLossy octets.data.toList
      return (Json.parse? text).bind Message.ofJson?

/-- Writes one message. -/
def writeFrame (output : IO.FS.Stream) (v : Json) : IO Unit := do
  let text := v.render
  output.putStr ("Content-Length: " ++ Text.Decimal.text text.utf8ByteSize ++ "\r\n\r\n" ++ text)
  output.flush

/-- Serves messages until the editor is gone. -/
partial def serve (input output : IO.FS.Stream) (p : Program) : IO Program := do
  if p.isOver then return p
  match ← readMessage input with
  | none => return p
  | some m =>
    let (next, sent) := p.receive m
    sent.forM (writeFrame output)
    serve input output next

end ChapelCheck.Main

open ChapelCheck in
/-- Runs the program. -/
def main (arguments : List String) : IO UInt32 := do
  let input ← IO.getStdin
  let output ← IO.getStdout
  let ended ← match Program.start (← Main.machine) arguments with
    | .error ended => pure ended
    | .ok p => do pure (← Main.serve input output p).stop
  output.putStr ended.output
  (← IO.getStderr).putStr ended.errors
  return ended.code.toUInt32
