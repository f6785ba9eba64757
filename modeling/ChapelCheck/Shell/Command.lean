/-!
# ChapelCheck.Shell.Command

The shell's language: words with expansions, simple commands with
redirections, and the ways to put commands together.

A script is a list of octets.  Each octet is kept as the character of that
code, so that a script can be read and printed without knowing its encoding.
-/

namespace ChapelCheck.Shell

/-- What is asked for besides the value of a parameter.  With `emptyToo` an
empty value counts as no value. -/
inductive Operator where
  | plain
  | length
  /-- A word stands in for a missing value. -/
  | fallback (emptyToo : Bool)
  /-- A word stands in for a value that is there. -/
  | alternative (emptyToo : Bool)
  /-- A word stands in for a missing value and becomes the value. -/
  | assign (emptyToo : Bool)
  /-- A missing value is an error. -/
  | demand (emptyToo : Bool)
  /-- A pattern is cut off at the start or at the end. -/
  | trim (atStart longest : Bool)
  /-- Nothing that the shell knows. -/
  | unknown
deriving DecidableEq, Repr

/-- What a redirection does with its channel. -/
inductive Direction where
  | read
  | write
  /-- The file is written even if files that are there are to be kept. -/
  | overwrite
  | append
  | readWrite
  /-- The channel becomes a copy of another one. -/
  | duplicate
  /-- The channel reads a text in the script. -/
  | inline
deriving DecidableEq, Repr

mutual

/-- A part of a word.  What is quoted is never divided into fields. -/
inductive Part where
  /-- Characters that stand for themselves. -/
  | text (chars : List Char) (quoted : Bool)
  /-- The value of a parameter, and the word that its operator is about. -/
  | value (name : String) (quoted : Bool) (operator : Operator) (word : List Part)
  /-- The value of an arithmetic expression. -/
  | sum (expression : List Part) (quoted : Bool)
  /-- What a command writes. -/
  | output (command : Command) (quoted : Bool)

/-- A redirection of a channel. -/
inductive Redirect where
  | mk (channel : Nat) (direction : Direction) (target : List Part)

/-- A command; a line is the one that it starts in. -/
inductive Command where
  | nothing
  /-- Assignments, and a program or function with its arguments. -/
  | simple (line : Nat) (assignments : List (String × List Part)) (words : List (List Part))
      (redirects : List Redirect)
  /-- The definition of a function. -/
  | define (name : String) (body : Command)
  /-- One command after the other. -/
  | sequence (first second : Command)
  /-- The second command if the first succeeds. -/
  | both (first second : Command)
  /-- The second command if the first fails. -/
  | either (first second : Command)
  /-- Commands, where the output of each is the input of the next. -/
  | pipe (commands : List Command)
  /-- A command that nothing waits for. -/
  | background (command : Command)
  /-- The opposite outcome. -/
  | negation (command : Command)
  /-- The body again and again while the condition succeeds, or fails. -/
  | loop (whileSuccess : Bool) (condition body : Command)
  | branch (condition yes no : Command)
  /-- The body once for each field of the words. -/
  | each (line : Nat) (name : String) (words : List (List Part)) (body : Command)
  /-- The first command whose patterns match the word. -/
  | cases (line : Nat) (word : List Part) (arms : List (List (List Part) × Command))
  /-- A command in a copy of the shell. -/
  | subshell (line : Nat) (command : Command) (redirects : List Redirect)
  /-- Redirections for a whole command. -/
  | redirected (line : Nat) (command : Command) (redirects : List Redirect)

end

/-- A word. -/
abbrev Word := List Part

end ChapelCheck.Shell
