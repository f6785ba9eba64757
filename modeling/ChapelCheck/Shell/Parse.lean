import ChapelCheck.Shell.Command
import ChapelCheck.Text.Decimal
import ChapelCheck.Text.Split

/-!
# ChapelCheck.Shell.Parse

Reading scripts, one command at a time: the shell runs each line before it
reads the next one, so that a fault in a script only shows when it is reached.

The readers call each other, so each has a bound on the depth of these calls;
a multiple of the length of the script is enough for it.
-/

namespace ChapelCheck.Shell

open Text

/-! ## characters -/

/-- Characters that end a word. -/
def endsWord (c : Char) : Bool :=
  c ∈ [' ', '\t', '\n', ';', '&', '|', '<', '>', '(', ')']

/-- Characters that a variable's name may start with. -/
def startsName (c : Char) : Bool := c.isAlpha || c = '_'

/-- Characters of a variable's name. -/
def isNameChar (c : Char) : Bool := c.isAlphanum || c = '_'

/-- Whether a text is a variable's name. -/
def isName : List Char → Bool
  | [] => false
  | c :: cs => startsName c && cs.all isNameChar

/-- The parameters that have a one-character name. -/
def isSpecialName (c : Char) : Bool := c ∈ ['*', '@', '#', '?', '$', '!', '-'] || c.isDigit

/-- The sign that puts a command into a word, at either end. -/
def backquote : Char := Char.ofNat 0x60

/-! ## tokens -/

/-- What a script is made of. -/
inductive Token where
  | endOfFile
  | newline
  | sign (text : String)
  | redirect (channel : Option Nat) (sign : String)
  | word (parts : Word)
  | keyword (name : String)

/-- The words that have a meaning of their own where a command starts. -/
def keywords : List String :=
  ["!", "case", "do", "done", "elif", "else", "esac", "fi", "for", "if", "in", "then", "until",
    "while", "\x7b", "\x7d"]

/-- A token as complaints name it. -/
def Token.name : Token → String
  | .endOfFile => "end of file"
  | .newline => "newline"
  | .sign text => "\"" ++ text ++ "\""
  | .redirect .. => "redirection"
  | .word _ => "word"
  | .keyword name => "\"" ++ name ++ "\""

/-- Whether a token can stand behind a list of commands only. -/
def Token.endsList : Token → Bool
  | .endOfFile => true
  | .sign text => text ∈ [")", ";;"]
  | .keyword name => name ∈ ["do", "done", "elif", "else", "esac", "fi", "then", "\x7d"]
  | _ => false

/-- Whether a token is a sign. -/
def Token.isSign (t : Token) (text : String) : Bool :=
  match t with
  | .sign s => s = text
  | _ => false

/-- Whether a token is a keyword. -/
def Token.isKeyword (t : Token) (name : String) : Bool :=
  match t with
  | .keyword k => k = name
  | _ => false

/-- The characters of a word in which nothing is quoted or expanded. -/
def spelling? : Word → Option (List Char)
  | [] => some []
  | .text cs false :: parts => (spelling? parts).map (cs ++ ·)
  | _ => none

/-- The characters of a word's spelling, and whether any of them is quoted. -/
def plainText (w : Word) : List Char × Bool :=
  w.foldl (fun (cs, quoted) part =>
    match part with
    | .text t q => (cs ++ t, quoted || q)
    | _ => (cs, quoted)) ([], false)

/-- A word as a keyword, if it is one. -/
def Token.classify (t : Token) : Token :=
  match t with
  | .word parts =>
    match spelling? parts with
    | some cs => if String.ofList cs ∈ keywords then .keyword (String.ofList cs) else t
    | none => t
  | t => t

/-! ## readers -/

/-- A script that is being read. -/
structure Reader where
  rest : List Char
  line : Nat
  /-- The lines of texts behind the current line that have been taken out. -/
  owed : Nat
  /-- A token that has been put back. -/
  pushed : Option Token
  /-- How deep the readers may call each other. -/
  depth : Nat

/-- What is wrong with a script, and in which line. -/
structure Fault where
  line : Nat
  message : String

/-- A reader of a part of a script. -/
abbrev Parse := StateT Reader (Except Fault)

/-- A reader at the start of a text. -/
def Reader.ofText (line : Nat) (cs : List Char) : Reader :=
  ⟨cs, line, 0, none, 8 * cs.length + 64⟩

/-- Stops reading. -/
def fault {α : Type} (message : String) : Parse α := fun r => .error ⟨r.line, message⟩

/-- Complains about a token that cannot stand here. -/
def unexpected {α : Type} (t : Token) (wanted : Option Token) : Parse α :=
  fault (t.name ++ " unexpected" ++
    (wanted.map fun w => " (expecting " ++ w.name ++ ")").getD "")

/-- Puts a token back. -/
def putBack (t : Token) : Parse Unit := fun r => .ok ((), { r with pushed := some t })

/-- Drops escaped line ends. -/
def Reader.joinLines (r : Reader) : Reader :=
  match r with
  | ⟨'\\' :: '\n' :: rest, line, owed, pushed, depth⟩ =>
    joinLines ⟨rest, line + 1, owed, pushed, depth⟩
  | r => r
termination_by r.rest.length

/-- The next character, which stays. -/
def peek : Parse (Option Char) := fun r =>
  let r := r.joinLines
  .ok (r.rest.head?, r)

/-- Takes the next character off. -/
def advance : Parse Unit := fun r =>
  match r.rest with
  | [] => .ok ((), r)
  | c :: rest => .ok ((), { r with rest := rest, line := if c = '\n' then r.line + 1 else r.line })

/-- Takes characters off as long as they are of a kind. -/
def takeWhile (p : Char → Bool) : Parse (List Char) := fun r =>
  let taken := r.rest.takeWhile p
  .ok (taken, { r with rest := r.rest.dropWhile p, line := r.line + taken.count '\n' })

/-! ## texts in the script -/

/-- A line without the tabulators at its start. -/
def dropTabs (cs : List Char) : List Char := cs.dropWhile (· = '\t')

/-- The lines of a text up to the one that ends it, and what follows that. -/
def inlineBody (tabs : Bool) (mark : List Char) :
    List (List Char) → List (List Char) × Option (List (List Char))
  | [] => ([], none)
  | [line] =>
    let line := if tabs then dropTabs line else line
    if line = mark then ([[]], none) else ([line], none)
  | line :: lines =>
    let line := if tabs then dropTabs line else line
    if line = mark then ([[]], some lines)
    else
      let (body, rest) := inlineBody tabs mark lines
      (line :: body, rest)

/-- Takes a text out of the script: it starts after the current line.  The rest
of the line and the script after the text stay. -/
def takeInline (tabs : Bool) (mark : List Char) : Parse (List Char) := fun r =>
  match cut '\n' r.rest with
  | (_, none) => .ok ([], r)
  | (line, some after) =>
    let (body, rest) := inlineBody tabs mark (pieces '\n' after)
    let text := joinPieces '\n' body
    .ok (text, { r with
      rest := match rest with
        | some lines => line ++ '\n' :: joinPieces '\n' lines
        | none => line ++ ['\n']
      owed := r.owed + text.count '\n' + (if rest.isSome then 1 else 0) })

/-! ## words -/

/-- Where a word is read: it decides which characters end it, and which a
backslash escapes. -/
inductive Setting where
  /-- Between blanks. -/
  | plain
  /-- Between double quotes. -/
  | quotes
  /-- In braces. -/
  | braces (quoted : Bool)
  /-- In an arithmetic expression, inside so many parentheses. -/
  | arithmetic (depth : Nat)
  /-- In a text that stands in the script. -/
  | inline

/-- Whether expansions in a setting are quoted. -/
def Setting.isQuoted : Setting → Bool
  | .plain => false
  | .quotes => true
  | .braces quoted => quoted
  | .arithmetic _ => true
  | .inline => true

/-- Whether a character ends the word in a setting. -/
def Setting.ends (s : Setting) (c : Char) : Bool :=
  match s with
  | .plain => endsWord c
  | .quotes => c = '"'
  | .braces _ => c = '\x7d'
  | .arithmetic depth => c = ')' && depth = 0
  | .inline => false

/-- Whether a backslash takes the meaning of a character away in a setting. -/
def Setting.escapes (s : Setting) (c : Char) : Bool :=
  match s with
  | .plain => true
  | .quotes => c = '$' || c = backquote || c = '"' || c = '\\'
  | .braces quoted => !quoted || c = '$' || c = backquote || c = '"' || c = '\\' || c = '\x7d'
  | .arithmetic _ => c = '$' || c = backquote || c = '"' || c = '\\'
  | .inline => c = '$' || c = backquote || c = '\\'

/-- Whether a character only stands for itself in a setting, and all of its kind
next to it can be read at once. -/
def Setting.isOrdinary (s : Setting) (c : Char) : Bool :=
  match s with
  | .quotes => c ∉ ['\\', '$', backquote, '"']
  | .inline => c ∉ ['\\', '$', backquote]
  | _ => false

/-- The setting after a character. -/
def Setting.after (s : Setting) (c : Char) : Setting :=
  match s with
  | .arithmetic depth =>
    if c = '(' then .arithmetic (depth + 1) else if c = ')' then .arithmetic (depth - 1) else s
  | s => s

/-- The text of a command between backquotes, up to the second one, and what
follows that. -/
def backquoted (quoted : Bool) : List Char → Option (List Char × List Char)
  | [] => none
  | '\\' :: '\n' :: cs => backquoted quoted cs
  | '\\' :: c :: cs =>
    (backquoted quoted cs).map fun (text, rest) =>
      (if c = '\\' || c = backquote || c = '$' || (quoted && c = '"') then c :: text
       else '\\' :: c :: text, rest)
  | c :: cs =>
    if c = backquote then some ([], cs)
    else (backquoted quoted cs).map fun (text, rest) => (c :: text, rest)

/-- The operator that a sign behind a parameter's name stands for. -/
def operator? (emptyToo : Bool) : Char → Option Operator
  | '-' => some (.fallback emptyToo)
  | '+' => some (.alternative emptyToo)
  | '=' => some (.assign emptyToo)
  | '?' => some (.demand emptyToo)
  | _ => none

/-- How a list of commands may end. -/
inductive Extent where
  /-- At the end of a line. -/
  | line
  /-- Where something closes it; there is at least one command. -/
  | body
  /-- Where something closes it; it may be empty. -/
  | optional
deriving DecidableEq

/-- Puts a command behind others. -/
def behind (first : Option Command) (second : Command) : Option Command :=
  match first with
  | none => some second
  | some c => some (.sequence c second)

/-- The name and the value of an assignment. -/
def assignment? (w : Word) : Option (String × Word) :=
  go [] w
where
  /-- Goes on behind the characters of a name. -/
  go (name : List Char) : Word → Option (String × Word)
    | .text [c] false :: parts =>
      if c = '=' && isName name.reverse then some (String.ofList name.reverse, parts)
      else if isNameChar c then go (c :: name) parts
      else none
    | _ => none

/-- The channel that a redirection is about when none is given. -/
def usualChannel (sign : String) : Nat := if "<".toList.isPrefixOf sign.toList then 0 else 1

/-- What a redirection's sign asks for. -/
def directionOf (sign : String) : Direction :=
  match sign with
  | ">" => .write
  | ">|" => .overwrite
  | ">>" => .append
  | "<" => .read
  | "<>" => .readWrite
  | "<<" => .inline
  | "<<-" => .inline
  | _ => .duplicate

/-- Whether a part stands for all arguments, one field each. -/
def Part.isArguments : Part → Bool
  | .value name _ _ _ => name = "@"
  | _ => false

mutual

/-- A word up to the character that ends it, which is left. -/
def readWord (bound : Nat) (s : Setting) : Parse Word :=
  match bound with
  | 0 => fault "too deep"
  | bound + 1 => do
    let more (part : Part) (s : Setting) : Parse Word := do
      return part :: (← readWord bound s)
    match (← get).rest with
    | [] => return []
    | '\\' :: '\n' :: _ => do advance; advance; readWord bound s
    | ['\\'] => do advance; more (.text ['\\'] true) s
    | '\\' :: c :: _ =>
      advance
      if s.escapes c then do advance; more (.text [c] true) s else more (.text ['\\'] true) s
    | '$' :: _ => do
      advance
      more (← readDollar bound s.isQuoted) s
    | c :: _ =>
      if s.ends c then return []
      else if c = backquote then do
        advance
        more (← readBackquoted bound s.isQuoted) s
      else if c.toNat = 0x27 && !s.isQuoted then do
        advance
        let text ← takeWhile (· ≠ c)
        if (← get).rest.isEmpty then fault "Unterminated quoted string"
        advance
        return .text [] true :: (← more (.text text true) s)
      else if c = '"' && (!s.isQuoted || s matches .braces _) then do
        advance
        let inner ← readWord bound .quotes
        if (← get).rest.isEmpty then fault "Unterminated quoted string"
        advance
        let rest ← readWord bound s
        return if inner.any Part.isArguments then inner ++ rest else .text [] true :: inner ++ rest
      else if s.isOrdinary c then do
        let run ← takeWhile s.isOrdinary
        more (.text run true) s
      else do
        advance
        more (.text [c] s.isQuoted) (s.after c)

/-- A command between backquotes, behind the first one. -/
def readBackquoted (bound : Nat) (quoted : Bool) : Parse Part :=
  match bound with
  | 0 => fault "too deep"
  | bound + 1 => do
    let r ← get
    match backquoted quoted r.rest with
    | none => fault "EOF in backquote substitution"
    | some (text, rest) =>
      let lines := r.rest.count '\n' - rest.count '\n'
      match readList bound .optional none (Reader.ofText r.line text) with
      | .error e => throw e
      | .ok (c, _) =>
        set { r with rest := rest, line := r.line + lines }
        return .output (c.getD .nothing) quoted

/-- What a dollar sign introduces. -/
def readDollar (bound : Nat) (quoted : Bool) : Parse Part :=
  match bound with
  | 0 => fault "too deep"
  | bound + 1 => do
    match ← peek with
    | none => return .text ['$'] quoted
    | some '(' =>
      advance
      if (← peek) = some '(' then do
        advance
        let expression ← readWord bound (.arithmetic 0)
        advance
        if (← peek) ≠ some ')' then fault "Missing '))'"
        advance
        return .sum expression quoted
      else do
        let c ← readList bound .optional none
        let t ← readToken bound false false
        if !t.isSign ")" then unexpected t (some (.sign ")"))
        return .output (c.getD .nothing) quoted
    | some '\x7b' => do
      advance
      readBraced bound quoted
    | some c =>
      if c.isDigit || isSpecialName c then do
        advance
        return .value c.toString quoted .plain []
      else if startsName c then
        return .value (String.ofList (← takeWhile isNameChar)) quoted .plain []
      else return .text ['$'] quoted

/-- A parameter in braces, behind the first one. -/
def readBraced (bound : Nat) (quoted : Bool) : Parse Part :=
  match bound with
  | 0 => fault "too deep"
  | bound + 1 => do
    let name : Parse (List Char) := do
      match (← get).rest with
      | [] => return []
      | c :: _ =>
        if startsName c then takeWhile isNameChar
        else if c.isDigit then takeWhile Char.isDigit
        else if isSpecialName c then do advance; return [c]
        else return []
    let close (n : List Char) (o : Operator) (w : Word) : Parse Part := do
      if (← get).rest.isEmpty then fault "Missing '\x7d'"
      advance
      return .value (String.ofList n) quoted o w
    let word (n : List Char) (o : Operator) (quoted : Bool) : Parse Part := do
      let w ← readWord bound (.braces quoted)
      close n o w
    match (← get).rest with
    | '#' :: c :: _ =>
      if isNameChar c || (isSpecialName c && (← get).rest[2]? = some '\x7d') then do
        advance
        let n ← name
        if (← get).rest.head? = some '\x7d' then close n .length [] else word n .unknown quoted
      else readOperator bound quoted (← name)
    | _ => readOperator bound quoted (← name)

/-- What stands behind a parameter's name in braces. -/
def readOperator (bound : Nat) (quoted : Bool) (n : List Char) : Parse Part :=
  match bound with
  | 0 => fault "too deep"
  | bound + 1 => do
    let close (o : Operator) (w : Word) : Parse Part := do
      if (← get).rest.isEmpty then fault "Missing '\x7d'"
      advance
      return .value (String.ofList n) quoted o w
    let word (o : Operator) (quoted : Bool) : Parse Part := do
      close o (← readWord bound (.braces quoted))
    if n.isEmpty then word .unknown quoted
    else
      match (← get).rest with
      | '\x7d' :: _ => close .plain []
      | ':' :: c :: _ =>
        match operator? true c with
        | some o => do advance; advance; word o quoted
        | none => word .unknown quoted
      | '#' :: '#' :: _ => do advance; advance; word (.trim true true) false
      | '#' :: _ => do advance; word (.trim true false) false
      | '%' :: '%' :: _ => do advance; advance; word (.trim false true) false
      | '%' :: _ => do advance; word (.trim false false) false
      | c :: _ =>
        match operator? false c with
        | some o => do advance; word o quoted
        | none => word .unknown quoted
      | [] => word .unknown quoted

/-- The next token.  Line ends are skipped with `newlines`, and keywords are
known with `kept`. -/
def readToken (bound : Nat) (newlines kept : Bool) : Parse Token :=
  match bound with
  | 0 => fault "too deep"
  | bound + 1 => do
    let r ← get
    let t ← match r.pushed with
      | some t => do set { r with pushed := none }; pure t
      | none => readRaw bound
    match t with
    | .newline => if newlines then readToken bound newlines kept else return t
    | t => return if kept then t.classify else t

/-- The next token of the text. -/
def readRaw (bound : Nat) : Parse Token :=
  match bound with
  | 0 => fault "too deep"
  | bound + 1 => do
    let pair (c : Char) (two one : String) : Parse Token := do
      advance
      if (← peek) = some c then do advance; return .sign two else return .sign one
    match ← peek with
    | none => return .endOfFile
    | some ' ' => do advance; readRaw bound
    | some '\t' => do advance; readRaw bound
    | some '#' => do
      let _ ← takeWhile (· ≠ '\n')
      readRaw bound
    | some '\n' =>
      advance
      modify fun r => { r with line := r.line + r.owed, owed := 0 }
      return .newline
    | some '&' => pair '&' "&&" "&"
    | some '|' => pair '|' "||" "|"
    | some ';' => pair ';' ";;" ";"
    | some '(' => do advance; return .sign "("
    | some ')' => do advance; return .sign ")"
    | some c =>
      if c = '>' || c = '<' then readRedirect bound none
      else
        match Decimal.digit? c, (← get).rest[1]? with
        | some d, some '>' => do advance; readRedirect bound (some d)
        | some d, some '<' => do advance; readRedirect bound (some d)
        | _, _ => return .word (← readWord bound .plain)

/-- The sign of a redirection. -/
def readRedirect (bound : Nat) (channel : Option Nat) : Parse Token :=
  match bound with
  | 0 => fault "too deep"
  | _ + 1 => do
    let first ← peek
    advance
    let second ← peek
    match first, second with
    | some '>', some '>' => do advance; return .redirect channel ">>"
    | some '>', some '|' => do advance; return .redirect channel ">|"
    | some '>', some '&' => do advance; return .redirect channel ">&"
    | some '>', _ => return .redirect channel ">"
    | _, some '&' => do advance; return .redirect channel "<&"
    | _, some '>' => do advance; return .redirect channel "<>"
    | _, some '<' =>
      advance
      if (← peek) = some '-' then do advance; return .redirect channel "<<-"
      else return .redirect channel "<<"
    | _, _ => return .redirect channel "<"

/-- The file behind the sign of a redirection. -/
def readTarget (bound : Nat) (channel : Option Nat) (sign : String) : Parse Redirect :=
  match bound with
  | 0 => fault "too deep"
  | bound + 1 => do
    let target : Redirect → Parse Redirect := pure
    match ← readToken bound false false with
    | .word w =>
      let direction := directionOf sign
      let channel := channel.getD (usualChannel sign)
      if direction = .inline then do
        let (mark, quoted) := plainText w
        let before ← get
        let body ← takeInline (sign = "<<-") mark
        if quoted then target (.mk channel direction [.text body true])
        else
          match readWord bound .inline (Reader.ofText (before.line + before.owed + 1) body) with
          | .error e => throw e
          | .ok (w, _) => target (.mk channel direction w)
      else target (.mk channel direction w)
    | t => unexpected t none

/-- Redirections behind a command. -/
def readRedirects (bound : Nat) (before : List Redirect) : Parse (List Redirect) :=
  match bound with
  | 0 => fault "too deep"
  | bound + 1 => do
    match ← readToken bound false true with
    | .redirect channel sign => do
      let r ← readTarget bound channel sign
      readRedirects bound (before ++ [r])
    | t =>
      putBack t
      return before

/-- The rest of a simple command, or a function. -/
def readSimple (bound line : Nat) (assignments : List (String × Word)) (words : List Word)
    (redirects : List Redirect) : Parse Command :=
  match bound with
  | 0 => fault "too deep"
  | bound + 1 => do
    let t ← readToken bound false false
    match t with
    | .word w =>
      match words, assignment? w with
      | [], some a => readSimple bound line (assignments ++ [a]) [] redirects
      | _, _ => readSimple bound line assignments (words ++ [w]) redirects
    | .redirect channel sign => do
      let r ← readTarget bound channel sign
      readSimple bound line assignments words (redirects ++ [r])
    | t =>
      match t.isSign "(", words, assignments, redirects with
      | true, [w], [], [] => do
        let close ← readToken bound false false
        if !close.isSign ")" then unexpected close (some (.sign ")"))
        match (spelling? w).filter isName with
        | none => fault "Bad function name"
        | some name =>
          let first ← readToken bound true true
          putBack first
          return .define (String.ofList name) (← readCommand bound)
      | _, _, _, _ => do
        putBack t
        return .simple line assignments words redirects

/-- Words up to something else. -/
def readWords (bound : Nat) (before : List Word) : Parse (List Word × Token) :=
  match bound with
  | 0 => fault "too deep"
  | bound + 1 => do
    match ← readToken bound false false with
    | .word w => readWords bound (before ++ [w])
    | t => return (before, t)

/-- Takes one token off that must stand here. -/
def expect (bound : Nat) (newlines : Bool) (wanted : Token) : Parse Unit :=
  match bound with
  | 0 => fault "too deep"
  | bound + 1 => do
    let t ← readToken bound newlines true
    match t, wanted with
    | .keyword a, .keyword b => if a = b then return () else unexpected t (some wanted)
    | .sign a, .sign b => if a = b then return () else unexpected t (some wanted)
    | _, _ => unexpected t (some wanted)

/-- Commands up to where they end. -/
def readList (bound : Nat) (extent : Extent) (before : Option Command) : Parse (Option Command) :=
  match bound with
  | 0 => fault "too deep"
  | bound + 1 => do
    let t ← readToken bound (extent ≠ .line) true
    match t with
    | .newline => return before
    | .endOfFile => do putBack t; return before
    | t =>
      putBack t
      if t.endsList && (extent = .optional || (extent = .body && before.isSome)) then return before
      else do
        let c ← readChain bound
        let t ← readToken bound false false
        let all := behind before (if t.isSign "&" then .background c else c)
        match t with
        | .endOfFile => do putBack t; return all
        | .newline => do putBack t; readList bound extent all
        | t =>
          if t.isSign "&" || t.isSign ";" then readList bound extent all
          else if extent = .line then unexpected t none
          else do
            putBack t
            return all

/-- Commands of which each but the first depends on the ones before it. -/
def readChain (bound : Nat) : Parse Command :=
  match bound with
  | 0 => fault "too deep"
  | bound + 1 => do
    let first ← readPipeline bound
    continueChain bound first

/-- The rest of such commands. -/
def continueChain (bound : Nat) (first : Command) : Parse Command :=
  match bound with
  | 0 => fault "too deep"
  | bound + 1 => do
    let t ← readToken bound false false
    if t.isSign "&&" || t.isSign "||" then do
      let start ← readToken bound true true
      putBack start
      let second ← readPipeline bound
      continueChain bound (if t.isSign "&&" then .both first second else .either first second)
    else do
      putBack t
      return first

/-- Commands whose outputs are inputs of the next. -/
def readPipeline (bound : Nat) : Parse Command :=
  match bound with
  | 0 => fault "too deep"
  | bound + 1 => do
    let t ← readToken bound false false
    let negated := t.isKeyword "!"
    if negated then do
      let start ← readToken bound false true
      putBack start
    else putBack t
    let first ← readCommand bound
    let all ← continuePipeline bound [first]
    let whole := match all with
      | [c] => c
      | cs => .pipe cs
    return if negated then .negation whole else whole

/-- The rest of such commands. -/
def continuePipeline (bound : Nat) (before : List Command) : Parse (List Command) :=
  match bound with
  | 0 => fault "too deep"
  | bound + 1 => do
    let t ← readToken bound false false
    if t.isSign "|" then do
      let start ← readToken bound true true
      putBack start
      let c ← readCommand bound
      continuePipeline bound (before ++ [c])
    else do
      putBack t
      return before

/-- One command. -/
def readCommand (bound : Nat) : Parse Command :=
  match bound with
  | 0 => fault "too deep"
  | bound + 1 => do
    let t ← readToken bound false false
    let line := (← get).line
    let closed (c : Command) : Parse Command := do
      let rs ← readRedirects bound []
      match c, rs with
      | c, [] => return c
      | .subshell line c _, rs => return .subshell line c rs
      | c, rs => return .redirected line c rs
    match t with
    | .keyword "if" => do
      let c ← readBranch bound
      expect bound false (.keyword "fi")
      closed c
    | .keyword "while" => do closed (← readLoop bound true)
    | .keyword "until" => do closed (← readLoop bound false)
    | .keyword "for" => do closed (← readEach bound line)
    | .keyword "case" =>
      match ← readToken bound false false with
      | .word w => do
        expect bound true (.keyword "in")
        closed (.cases line w (← readArms bound []))
      | t => unexpected t (some (.word []))
    | .keyword "\x7b" => do
      let c ← readList bound .body none
      expect bound false (.keyword "\x7d")
      closed (c.getD .nothing)
    | .sign "(" => do
      let c ← readList bound .body none
      expect bound false (.sign ")")
      closed (.subshell line (c.getD .nothing) [])
    | .word w => do putBack (.word w); readSimple bound line [] [] []
    | .redirect channel sign => do putBack (.redirect channel sign); readSimple bound line [] [] []
    | t => unexpected t none

/-- The rest of a branch, up to the keyword that ends it. -/
def readBranch (bound : Nat) : Parse Command :=
  match bound with
  | 0 => fault "too deep"
  | bound + 1 => do
    let condition ← readList bound .body none
    expect bound false (.keyword "then")
    let yes ← readList bound .body none
    let t ← readToken bound false true
    let no ← if t.isKeyword "elif" then some <$> readBranch bound
      else if t.isKeyword "else" then readList bound .body none
      else do putBack t; pure none
    return .branch (condition.getD .nothing) (yes.getD .nothing) (no.getD .nothing)

/-- The rest of a loop. -/
def readLoop (bound : Nat) (whileSuccess : Bool) : Parse Command :=
  match bound with
  | 0 => fault "too deep"
  | bound + 1 => do
    let condition ← readList bound .body none
    expect bound false (.keyword "do")
    let body ← readList bound .body none
    expect bound false (.keyword "done")
    return .loop whileSuccess (condition.getD .nothing) (body.getD .nothing)

/-- The rest of a loop over words. -/
def readEach (bound line : Nat) : Parse Command :=
  match bound with
  | 0 => fault "too deep"
  | bound + 1 => do
    let name ← match ← readToken bound false false with
      | .word w =>
        match (spelling? w).filter isName with
        | some cs => pure (String.ofList cs)
        | none => fault "Bad for loop variable"
      | _ => fault "Bad for loop variable"
    let t ← readToken bound true true
    let words ← if t.isKeyword "in" then do
        let (words, t) ← readWords bound []
        match t with
        | .newline => pure words
        | t => if t.isSign ";" then pure words else unexpected t none
      else do
        if !t.isSign ";" then putBack t
        pure [[.value "@" true .plain []]]
    expect bound true (.keyword "do")
    let body ← readList bound .body none
    expect bound false (.keyword "done")
    return .each line name words (body.getD .nothing)

/-- The arms of a case command, up to the keyword that ends it. -/
def readArms (bound : Nat) (before : List (List Word × Command)) :
    Parse (List (List Word × Command)) :=
  match bound with
  | 0 => fault "too deep"
  | bound + 1 => do
    let t ← readToken bound true true
    if t.isKeyword "esac" then return before
    else do
      let t ← if t.isSign "(" then readToken bound false false else pure t
      let patterns ← readPatterns bound t []
      let body ← readList bound .optional none
      let arms := before ++ [(patterns, body.getD .nothing)]
      let t ← readToken bound true true
      if t.isKeyword "esac" then return arms
      else if t.isSign ";;" then readArms bound arms
      else unexpected t (some (.sign ";;"))

/-- The patterns of an arm, up to the parenthesis behind them. -/
def readPatterns (bound : Nat) (t : Token) (before : List Word) : Parse (List Word) :=
  match bound with
  | 0 => fault "too deep"
  | bound + 1 => do
    let w : Word := match t with
      | .word w => w
      | .keyword k => k.toList.map fun c => .text [c] false
      | _ => []
    let patterns := before ++ [w]
    let t ← readToken bound false false
    if t.isSign "|" then do
      let next ← readToken bound false false
      readPatterns bound next patterns
    else if t.isSign ")" then return patterns
    else unexpected t (some (.sign ")"))

end

/-- What comes of reading on in a script. -/
inductive Next where
  /-- A command, which may be nothing, and the script behind it. -/
  | command (c : Command) (rest : Reader)
  | finished
  | faulty (f : Fault)

/-- Reads the next command of a script. -/
def Reader.next (r : Reader) : Next :=
  match readList r.depth .line none r with
  | .error f => .faulty f
  | .ok (some c, rest) => .command c rest
  | .ok (none, rest) => if rest.rest.isEmpty then .finished else .command .nothing rest

end ChapelCheck.Shell
