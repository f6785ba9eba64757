import ChapelCheck.FileSystem
import ChapelCheck.Shell.Number

/-!
# ChapelCheck.Shell.Test

Conditions, as `test` and `[` check them: texts and numbers are compared, files
are looked at, and conditions are put together with `!`, `-a`, `-o` and
parentheses.

A reader stands at a word, which is the first of the words that are left.  After
a condition it stands at the last word of it.
-/

namespace ChapelCheck.Shell.Test

/-- Operators before one word. -/
def unary : List String :=
  ["-r", "-w", "-x", "-e", "-f", "-d", "-c", "-b", "-p", "-u", "-g", "-k", "-s", "-t", "-z", "-n",
    "-h", "-O", "-G", "-L", "-S"]

/-- Operators between two words. -/
def binary : List String :=
  ["-nt", "-ot", "-ef", "=", "!=", "<", ">", "-eq", "-ne", "-ge", "-gt", "-le", "-lt"]

/-- What a word is at its place. -/
inductive Kind where
  | finished
  | operand
  | not
  | both
  | either
  | opening
  | closing
  | unary (name : String)
  | binary (name : String)
deriving DecidableEq

/-- What a word is, whatever is around it. -/
def operator? (cs : List Char) : Option Kind :=
  let name := String.ofList cs
  if name ∈ unary then some (.unary name)
  else if name ∈ binary then some (.binary name)
  else match name with
    | "!" => some .not
    | "-a" => some .both
    | "-o" => some .either
    | "(" => some .opening
    | ")" => some .closing
    | _ => none

/-- Whether a word is an operator between two others. -/
def isBinary (cs : List Char) : Bool :=
  match operator? cs with
  | some (.binary _) => true
  | _ => false

/-- What the first of some words is. -/
def kind : List (List Char) → Kind
  | [] => .finished
  | w :: rest =>
    match operator? w, rest with
    | none, _ => .operand
    | some (.unary _), [] => .operand
    | some (.unary name), [_] => .unary name
    | some (.unary name), b :: _ :: _ => if isBinary b then .operand else .unary name
    | some .opening, [] => .operand
    | some k, _ => k

/-- A number that is compared. -/
def number (cs : List Char) : Except (List Char) Int :=
  match decimal? cs with
  | some n => .ok n
  | none => .error ("Illegal number: ".toList ++ cs)

/-- What is found out about a file. -/
def file (fs : FileSystem) (operator : String) (p : Path) : Bool :=
  let link := match fs.resolveLink p with
    | .ok (.found place) =>
      match fs.tree.find? place with
      | some (.link _) => true
      | _ => false
    | _ => false
  match operator, fs.get p with
  | "-h", _ => link
  | "-L", _ => link
  | _, .error _ => false
  | "-f", .ok t => t.isFile
  | "-d", .ok t => t.isDirectory
  | "-x", .ok (.file _ executable) => executable
  | "-x", .ok .device => false
  | "-s", .ok (.file octets _) => !octets.isEmpty
  | "-s", .ok .device => false
  | "-c", .ok .device => true
  | "-c", .ok _ => false
  | "-b", .ok _ => false
  | "-p", .ok _ => false
  | "-S", .ok _ => false
  | "-u", .ok _ => false
  | "-g", .ok _ => false
  | "-k", .ok _ => false
  | _, .ok _ => true

/-- The outcome of an operator between two words. -/
def compare (fs : FileSystem) (text : List Char → String) (operator : String) (a b : List Char) :
    Except (List Char) Bool := do
  match operator with
  | "=" => return a = b
  | "!=" => return a ≠ b
  | "<" => return decide (String.ofList a < String.ofList b)
  | ">" => return decide (String.ofList b < String.ofList a)
  | "-eq" => return (← number a) = (← number b)
  | "-ne" => return (← number a) ≠ (← number b)
  | "-ge" => return (← number a) ≥ (← number b)
  | "-gt" => return (← number a) > (← number b)
  | "-le" => return (← number a) ≤ (← number b)
  | "-lt" => return (← number a) < (← number b)
  | "-ef" =>
    match fs.resolve ⟨text a⟩, fs.resolve ⟨text b⟩ with
    | .ok (.found p), .ok (.found q) => return p = q
    | _, _ => return false
  | _ => return false

/-- The outcome of a condition, and where the reader stands after it. -/
abbrev Outcome := Except (List Char) (Bool × List (List Char))

mutual

/-- Conditions of which one must hold. -/
def anyOf (bound : Nat) (fs : FileSystem) (text : List Char → String) (k : Kind)
    (ws : List (List Char)) : Outcome :=
  match bound with
  | 0 => .error []
  | bound + 1 => do
    let (first, ws) ← allOf bound fs text k ws
    if kind ws.tail = .either then
      let (second, ws) ← anyOf bound fs text (kind (ws.drop 2)) (ws.drop 2)
      return (first || second, ws)
    else return (first, ws)

/-- Conditions that must all hold. -/
def allOf (bound : Nat) (fs : FileSystem) (text : List Char → String) (k : Kind)
    (ws : List (List Char)) : Outcome :=
  match bound with
  | 0 => .error []
  | bound + 1 => do
    let (first, ws) ← negated bound fs text k ws
    if kind ws.tail = .both then
      let (second, ws) ← allOf bound fs text (kind (ws.drop 2)) (ws.drop 2)
      return (first && second, ws)
    else return (first, ws)

/-- A condition that may be turned around. -/
def negated (bound : Nat) (fs : FileSystem) (text : List Char → String) (k : Kind)
    (ws : List (List Char)) : Outcome :=
  match bound with
  | 0 => .error []
  | bound + 1 =>
    if k = .not then do
      let (b, ws) ← negated bound fs text (kind ws.tail) (if ws.tail.isEmpty then ws else ws.tail)
      return (!b, ws)
    else primary bound fs text k ws

/-- A single condition, or one in parentheses. -/
def primary (bound : Nat) (fs : FileSystem) (text : List Char → String) (k : Kind)
    (ws : List (List Char)) : Outcome :=
  match bound with
  | 0 => .error []
  | bound + 1 =>
    match k with
    | .finished => .ok (false, ws)
    | .opening =>
      if kind ws.tail = .closing then .ok (false, ws.tail)
      else do
        let (b, ws) ← anyOf bound fs text (kind ws.tail) ws.tail
        if kind ws.tail = .closing then return (b, ws.tail)
        else throw "closing paren expected".toList
    | .unary name =>
      match ws.tail with
      | [] => .error (name.toList ++ ": argument expected".toList)
      | a :: rest =>
        let here := a :: rest
        match name with
        | "-z" => .ok (a.isEmpty, here)
        | "-n" => .ok (!a.isEmpty, here)
        | "-t" => (number a).map fun _ => (false, here)
        | name => .ok (file fs name ⟨text a⟩, here)
    | _ =>
      match ws with
      | a :: op :: rest =>
        match kind (op :: rest) with
        | .binary name =>
          match rest with
          | [] => .error (name.toList ++ ": argument expected".toList)
          | b :: after => (compare fs text name a b).map fun r => (r, b :: after)
        | _ => .ok (!a.isEmpty, ws)
      | [a] => .ok (!a.isEmpty, ws)
      | [] => .ok (false, ws)

end

/-- Whether a condition holds, or a complaint about it.  With three words an
operator in the middle decides, and parentheses around three or four words are
taken off. -/
def holds (fs : FileSystem) (text : List Char → String) (ws : List (List Char)) :
    Except (List Char) Bool :=
  let run (k : Kind) (ws : List (List Char)) : Except (List Char) Bool := do
    let (b, rest) ← anyOf (8 * ws.length + 8) fs text k ws
    match rest with
    | a :: _ :: _ => throw (a ++ ": unexpected operator".toList)
    | _ => return b
  let paired (ws : List (List Char)) : Bool := ws.head? = some ['('] && ws.getLast? = some [')']
  if ws.isEmpty then .ok false
  else if ws.length = 3 && isBinary (ws.getD 1 []) then run .operand ws
  else if ws.length = 3 || ws.length = 4 then
    if paired ws then run (kind ws.tail.dropLast) ws.tail.dropLast
    else if ws.head? = some ['!'] then run .not ws
    else run (kind ws) ws
  else run (kind ws) ws

end ChapelCheck.Shell.Test
