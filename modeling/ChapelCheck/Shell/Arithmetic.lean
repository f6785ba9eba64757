import ChapelCheck.Shell.Number

/-!
# ChapelCheck.Shell.Arithmetic

Arithmetic expressions: numbers, variables, signs, the operations of whole
numbers on 64 bits, comparisons and choices, and assignments.

An expression is cut into tokens, read as a tree, and evaluated with the values
of variables.  What is assigned on the way is kept beside them.
-/

namespace ChapelCheck.Shell.Arithmetic

/-- A part of an expression. -/
inductive Token where
  | number (n : Int)
  | name (text : String)
  | sign (text : String)
deriving DecidableEq

/-- The signs of more than one character; of two that start alike the longer one
stands first. -/
def longSigns : List String :=
  ["<<=", ">>=", "&&", "||", "==", "!=", "<=", ">=", "<<", ">>", "+=", "-=", "*=", "/=", "%=",
    "&=", "|=", "^="]

/-- Cuts an expression into tokens.  The bound is its length. -/
def tokens (bound : Nat) (cs : List Char) : List Token :=
  match bound with
  | 0 => []
  | bound + 1 =>
    match cs with
    | [] => []
    | c :: rest =>
      if c = ' ' || c = '\t' || c = '\n' then tokens bound rest
      else if c.isDigit then
        match readUnsigned? cs with
        | some (n, rest) => .number (saturate n) :: tokens bound rest
        | none => .sign c.toString :: tokens bound rest
      else if c.isAlpha || c = '_' then
        let isName (c : Char) : Bool := c.isAlphanum || c = '_'
        .name (String.ofList (cs.takeWhile isName)) :: tokens bound (cs.dropWhile isName)
      else
        match longSigns.find? fun s => s.toList.isPrefixOf cs with
        | some s => .sign s :: tokens bound (cs.drop s.length)
        | none => .sign c.toString :: tokens bound rest

/-- An expression. -/
inductive Expression where
  | number (n : Int)
  | named (name : String)
  | unary (sign : String) (operand : Expression)
  | binary (sign : String) (left right : Expression)
  | choice (condition yes no : Expression)
  /-- An assignment, after an operation with the old value unless the sign is empty. -/
  | assign (name : String) (sign : String) (value : Expression)

/-- How tightly an operation on two numbers binds. -/
def strength? (sign : String) : Option Nat :=
  match sign with
  | "||" => some 1
  | "&&" => some 2
  | "|" => some 3
  | "^" => some 4
  | "&" => some 5
  | "==" => some 6
  | "!=" => some 6
  | "<" => some 7
  | "<=" => some 7
  | ">" => some 7
  | ">=" => some 7
  | "<<" => some 8
  | ">>" => some 8
  | "+" => some 9
  | "-" => some 9
  | "*" => some 10
  | "/" => some 10
  | "%" => some 10
  | _ => none

/-- The operation of a sign that assigns. -/
def assigned? (sign : String) : Option String :=
  match sign with
  | "=" => some ""
  | "+=" => some "+"
  | "-=" => some "-"
  | "*=" => some "*"
  | "/=" => some "/"
  | "%=" => some "%"
  | "&=" => some "&"
  | "|=" => some "|"
  | "^=" => some "^"
  | "<<=" => some "<<"
  | ">>=" => some ">>"
  | _ => none

mutual

/-- An expression with assignments. -/
def readAssignment (bound : Nat) (ts : List Token) : Except String (Expression × List Token) :=
  match bound with
  | 0 => .error "expecting primary"
  | bound + 1 =>
    match ts with
    | .name x :: .sign s :: rest =>
      match assigned? s with
      | some o => do
        let (e, rest) ← readAssignment bound rest
        return (.assign x o e, rest)
      | none => readChoice bound ts
    | ts => readChoice bound ts

/-- An expression with choices. -/
def readChoice (bound : Nat) (ts : List Token) : Except String (Expression × List Token) :=
  match bound with
  | 0 => .error "expecting primary"
  | bound + 1 => do
    let (c, rest) ← readBinary bound 0 ts
    match rest with
    | .sign "?" :: rest =>
      let (yes, rest) ← readAssignment bound rest
      match rest with
      | .sign ":" :: rest =>
        let (no, rest) ← readChoice bound rest
        return (.choice c yes no, rest)
      | _ => throw "expecting ':'"
    | rest => return (c, rest)

/-- An expression whose operations all bind more tightly than `weakest`. -/
def readBinary (bound weakest : Nat) (ts : List Token) : Except String (Expression × List Token) :=
  match bound with
  | 0 => .error "expecting primary"
  | bound + 1 => do
    let (e, rest) ← readUnary bound ts
    continueBinary bound weakest e rest

/-- Goes on behind an expression. -/
def continueBinary (bound weakest : Nat) (left : Expression) (ts : List Token) :
    Except String (Expression × List Token) :=
  match bound with
  | 0 => .error "expecting primary"
  | bound + 1 =>
    match ts with
    | .sign s :: rest =>
      match strength? s with
      | some n =>
        if n ≤ weakest then .ok (left, ts)
        else do
          let (right, rest) ← readBinary bound n rest
          continueBinary bound weakest (.binary s left right) rest
      | none => .ok (left, ts)
    | ts => .ok (left, ts)

/-- A number, a variable, or an expression behind a sign or in parentheses. -/
def readUnary (bound : Nat) (ts : List Token) : Except String (Expression × List Token) :=
  match bound with
  | 0 => .error "expecting primary"
  | bound + 1 =>
    match ts with
    | .number n :: rest => .ok (.number n, rest)
    | .name x :: rest => .ok (.named x, rest)
    | .sign "(" :: rest => do
      let (e, rest) ← readAssignment bound rest
      match rest with
      | .sign ")" :: rest => return (e, rest)
      | _ => throw "expecting ')'"
    | .sign s :: rest =>
      if s ∈ ["-", "+", "!", "~"] then do
        let (e, rest) ← readUnary bound rest
        return (.unary s e, rest)
      else .error "expecting primary"
    | [] => .error "expecting primary"

end

/-- Reads a whole expression. -/
def read (cs : List Char) : Except String Expression := do
  let ts := tokens cs.length cs
  let (e, rest) ← readAssignment (8 * ts.length + 8) ts
  if rest.isEmpty then return e else throw "expecting EOF"

/-- The number for an outcome. -/
def ofBool (b : Bool) : Int := if b then 1 else 0

/-- The bits of a number, as a number that is not negative. -/
def bits (n : Int) : Nat := (n % 18446744073709551616).toNat

/-- An operation on two numbers. -/
def operate (sign : String) (a b : Int) : Except String Int :=
  match sign with
  | "|" => .ok (wrap (Nat.lor (bits a) (bits b) : Nat))
  | "^" => .ok (wrap (Nat.xor (bits a) (bits b) : Nat))
  | "&" => .ok (wrap (Nat.land (bits a) (bits b) : Nat))
  | "==" => .ok (ofBool (a == b))
  | "!=" => .ok (ofBool (a != b))
  | "<" => .ok (ofBool (a < b))
  | "<=" => .ok (ofBool (a ≤ b))
  | ">" => .ok (ofBool (a > b))
  | ">=" => .ok (ofBool (a ≥ b))
  | "<<" => .ok (wrap (a * (Nat.pow 2 (b % 64).toNat : Nat)))
  | ">>" => .ok (Int.fdiv a (Nat.pow 2 (b % 64).toNat : Nat))
  | "+" => .ok (wrap (a + b))
  | "-" => .ok (wrap (a - b))
  | "*" => .ok (wrap (a * b))
  | "/" => if b = 0 then .error "division by zero" else .ok (wrap (Int.tdiv a b))
  | "%" => if b = 0 then .error "division by zero" else .ok (wrap (Int.tmod a b))
  | _ => .ok b

/-- What went wrong in an expression. -/
inductive Trouble where
  /-- The expression cannot be read, or not be computed. -/
  | bad (message : String)
  /-- The value of a variable is no number. -/
  | illegal (value : List Char)

/-- The number that a variable's value stands for. -/
def ofValue (value : Option (List Char)) : Except Trouble Int :=
  match value with
  | none => .ok 0
  | some cs =>
    if cs.all isSpace then .ok 0
    else match readInteger? cs with
      | some (n, rest) => if rest.all isSpace then .ok n else .error (.illegal cs)
      | none => .error (.illegal cs)

/-- Values that have been assigned in front of those that variables have. -/
def lookUp (get : String → Option (List Char)) (new : List (String × Int)) (name : String) :
    Except Trouble Int :=
  match new.lookup name with
  | some n => .ok n
  | none => ofValue (get name)

/-- Evaluates an expression. -/
def evaluate (get : String → Option (List Char)) (new : List (String × Int)) :
    Expression → Except Trouble (Int × List (String × Int))
  | .number n => .ok (n, new)
  | .named x => (lookUp get new x).map fun n => (n, new)
  | .unary s e => do
    let (n, new) ← evaluate get new e
    return (match s with
      | "-" => wrap (-n)
      | "!" => ofBool (n == 0)
      | "~" => -n - 1
      | _ => n, new)
  | .binary "&&" a b => do
    let (m, new) ← evaluate get new a
    if m = 0 then return (0, new)
    let (n, new) ← evaluate get new b
    return (ofBool (n != 0), new)
  | .binary "||" a b => do
    let (m, new) ← evaluate get new a
    if m ≠ 0 then return (1, new)
    let (n, new) ← evaluate get new b
    return (ofBool (n != 0), new)
  | .binary s a b => do
    let (m, new) ← evaluate get new a
    let (n, new) ← evaluate get new b
    match operate s m n with
    | .ok r => return (r, new)
    | .error e => throw (.bad e)
  | .choice c a b => do
    let (n, new) ← evaluate get new c
    if n ≠ 0 then evaluate get new a else evaluate get new b
  | .assign x s e => do
    let (n, new) ← evaluate get new e
    if s = "" then return (n, (x, n) :: new)
    let old ← lookUp get new x
    match operate s old n with
    | .ok r => return (r, (x, r) :: new)
    | .error e => throw (.bad e)

/-- The words of a trouble with an expression. -/
def Trouble.message (cs : List Char) : Trouble → List Char
  | .bad m => "arithmetic expression: ".toList ++ m.toList ++ ": \"".toList ++ cs ++ ['"']
  | .illegal value => "Illegal number: ".toList ++ value

/-- The value of an expression and what it assigns, or a complaint. -/
def value (get : String → Option (List Char)) (cs : List Char) :
    Except (List Char) (Int × List (String × Int)) :=
  match read cs with
  | .error m => .error ((Trouble.bad m).message cs)
  | .ok e => (evaluate get [] e).mapError (Trouble.message cs)

end ChapelCheck.Shell.Arithmetic
