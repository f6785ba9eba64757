import ChapelCheck.CommandLine.Verbosity
import ChapelCheck.Text.Blank
import ChapelCheck.Text.Decimal
import ChapelCheck.Text.Letter
import ChapelCheck.Text.Split

/-!
# ChapelCheck.CommandLine.Filter

Which events are logged.  A filter is a list of directives between commas:

```
info                      everything up to a level
chapel_lsp::lsp=debug     topics that start with a name, up to a level
chapel_lsp                topics that start with a name, all of them
chapel_lsp[{message}]     topics that start with a name, events with a field
[work]=debug              what happens during some work
```

Of the directives whose name starts an event's topic and whose fields the event
has, the one with the longest name decides, then the one with more fields, and
of several like that the last.  A directive about work is about no event at
all, since this program does not mark where work begins and ends.
-/

namespace ChapelCheck

/-- A part of a filter: topics that start with a name are shown up to a rank of
levels.  Without a name it is about all topics. -/
structure Directive where
  name : String
  /-- The fields that an event must have. -/
  fields : List String
  /-- Whether it is about what happens during some work. -/
  duringWork : Bool
  rank : Nat
deriving DecidableEq, Repr

/-- A filter of events. -/
structure Filter where
  directives : List Directive
deriving DecidableEq, Repr

namespace Filter

open Text

/-- The rank that shows everything. -/
def everything : Nat := 5

/-- The rank of a level's name, in any letter case, or of its number. -/
def rank? (cs : List Char) : Option Nat :=
  match Decimal.read? cs with
  | some n => if n ≤ everything then some n else none
  | none =>
    [("off", 0), ("error", 1), ("warn", 2), ("info", 3), ("debug", 4), ("trace", everything)].lookup
      (String.ofList (cs.map Char.toLower))

/-- Whether a directive may start with a character. -/
def startsDirective (c : Char) : Bool :=
  isLetterOrDigit c || c = '_' || c = ':' || c = '-'

/-- Reads what stands behind an opening bracket, up to the closing one: the name
of some work, a field in braces, or both.  The result is whether it is about
work, the field, and the rest of the text. -/
def bracketed? (cs : List Char) : Option (Bool × List String × List Char) :=
  let work := cs.takeWhile fun c => c ≠ ']' && c ≠ '\x7b'
  match cs.dropWhile fun c => c ≠ ']' && c ≠ '\x7b' with
  | ']' :: rest => some (true, [], rest)
  | '\x7b' :: inner =>
    let field := inner.takeWhile (· ≠ '\x7d')
    match inner.dropWhile (· ≠ '\x7d') with
    | '\x7d' :: ']' :: rest =>
      if field.isEmpty then none
      else
        -- a field with a value is looked for in work only
        let (name, value) := cut '=' field
        some (!work.isEmpty || value.isSome, [String.ofList name], rest)
    | _ => none
  | _ => none

/-- Reads what stands behind a name and brackets: nothing, or a level. -/
def levelAfter? (cs : List Char) : Option Nat :=
  match cs with
  | ['='] => some everything
  | '=' :: level => rank? level
  | cs => if cs.all isBlank then some everything else none

/-- Reads one directive.  A text without `=` that is no level is a name, and
shows all of its topics.  Blanks belong to the name or level they stand at, so
that neither is found: after a blank at the start no level may follow. -/
def directive? (cs : List Char) : Option Directive :=
  let body := trimStart cs
  let indented := body.length < cs.length
  let name := body.takeWhile fun c => c ≠ '=' && c ≠ '['
  let rest := body.dropWhile fun c => c ≠ '=' && c ≠ '['
  if !(body.head?.any fun c => c = '[' || startsDirective c) then none
  else
    match rest with
    | [] =>
      match rank? cs with
      | some r => some ⟨"", [], false, r⟩
      | none => some ⟨String.ofList cs, [], false, everything⟩
    | '[' :: inner => do
      let (duringWork, fields, rest) ← bracketed? inner
      let rank ← levelAfter? rest
      if indented && rest.contains '=' then none
      return ⟨String.ofList name, fields, duringWork || indented, rank⟩
    | rest => do
      let rank ← levelAfter? rest
      if indented then none
      return ⟨String.ofList name, [], false, rank⟩

/-- Reads a filter; empty directives say nothing. -/
def parse? (s : String) : Option Filter :=
  let parts := (pieces ',' s.toList).filter fun part => !part.isEmpty
  (parts.mapM directive?).map Filter.mk

/-- The filter that shows all topics up to a rank. -/
def upTo (rank : Nat) : Filter := ⟨[⟨"", [], false, rank⟩]⟩

/-- The filter of a log: the level of the command line if there is one, else
what the environment asks for, and up to info if that makes no sense. -/
def choose (level : Option Verbosity) (environment : Option String) : Filter :=
  match level with
  | some v => upTo ((v.level?.map Level.rank).getD 0)
  | none => (environment.bind parse?).getD (upTo Level.info.rank)

/-- The fields of every event. -/
def eventFields : List String := ["message"]

/-- Whether a directive is about the events of a topic. -/
def concerns (d : Directive) (topic : List Char) : Bool :=
  !d.duringWork && d.name.toList.isPrefixOf topic && d.fields.all (· ∈ eventFields)

/-- Whether a directive says no less than another on what it is about. -/
def isNoVaguer (d other : Directive) : Bool :=
  if d.name.length = other.name.length then other.fields.length ≤ d.fields.length
  else other.name.length < d.name.length

/-- The better of two directives for a topic. -/
def closer (topic : List Char) (best : Option Directive) (d : Directive) : Option Directive :=
  if concerns d topic then
    match best with
    | none => some d
    | some b => if isNoVaguer d b then some d else some b
  else best

/-- Whether an event is shown. -/
def shows (f : Filter) (e : Event) : Bool :=
  match f.directives.foldl (closer e.topic.name.toList) none with
  | none => false
  | some d => e.level.rank ≤ d.rank

end Filter

end ChapelCheck
