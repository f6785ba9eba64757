import ChapelCheck.Shell.Number

/-!
# ChapelCheck.Shell.Print

What `printf` and `echo` write.
-/

namespace ChapelCheck.Shell

open Text

/-- Fields with a separator between them. -/
def joinFields (separator : List Char) : List (List Char) → List Char
  | [] => []
  | [f] => f
  | f :: g :: fs => f ++ separator ++ joinFields separator (g :: fs)

/-! ## escapes -/

/-- The value of an octal digit. -/
def octal? (c : Char) : Option Nat := (Decimal.digit? c).filter (· < 8)

/-- An octet from up to `count` octal digits, and what follows them. -/
def octalOctet (count value : Nat) : List Char → Char × List Char
  | [] => (Char.ofNat (value % 256), [])
  | c :: cs =>
    match count, octal? c with
    | count + 1, some d => octalOctet count (8 * value + d) cs
    | _, _ => (Char.ofNat (value % 256), c :: cs)

/-- The character of a one-letter escape. -/
def letterEscape? : Char → Option Char
  | 'a' => some '\x07'
  | 'b' => some '\x08'
  | 'f' => some '\x0c'
  | 'n' => some '\n'
  | 'r' => some '\r'
  | 't' => some '\t'
  | 'v' => some '\x0b'
  | '\\' => some '\\'
  | _ => none

/-- The character that an escape stands for, given behind its backslash, and
what follows it.  What is no escape leaves the backslash. -/
def escapeOf (cs : List Char) : Char × List Char :=
  match cs with
  | [] => ('\\', [])
  | c :: rest =>
    match octal? c with
    | some _ => octalOctet 3 0 cs
    | none =>
      match letterEscape? c with
      | some e => (e, rest)
      | none => ('\\', cs)

/-- A text with its escapes resolved, and whether it says to stop.  The bound is
the length of the text. -/
def unescape (bound : Nat) (cs : List Char) : List Char × Bool :=
  match bound, cs with
  | 0, cs => (cs, false)
  | _, [] => ([], false)
  | _ + 1, '\\' :: 'c' :: _ => ([], true)
  | bound + 1, '\\' :: '0' :: cs =>
    let (c, rest) := octalOctet 3 0 cs
    let (text, stop) := unescape bound rest
    (c :: text, stop)
  | bound + 1, '\\' :: cs =>
    let (c, rest) := escapeOf cs
    let (text, stop) := unescape bound rest
    (c :: text, stop)
  | bound + 1, c :: cs =>
    let (text, stop) := unescape bound cs
    (c :: text, stop)

/-- What `echo` writes. -/
def echo (arguments : List (List Char)) : List Char :=
  let (bare, fields) := match arguments with
    | ['-', 'n'] :: rest => (true, rest)
    | rest => (false, rest)
  let cs := joinFields [' '] fields
  let (text, stop) := unescape cs.length cs
  if bare || stop then text else text ++ ['\n']

/-! ## conversions -/

/-- How an argument is to be written. -/
structure Layout where
  flags : List Char
  width : Nat
  precision : Option Nat

/-- Fills a text up to a width. -/
def Layout.fill (l : Layout) (cs : List Char) : List Char :=
  let blanks := List.replicate (l.width - cs.length) ' '
  if '-' ∈ l.flags then cs ++ blanks else blanks ++ cs

/-- A text, cut to its precision. -/
def Layout.text (l : Layout) (cs : List Char) : List Char :=
  l.fill (match l.precision with
    | some n => cs.take n
    | none => cs)

/-- Digits with what stands before them. -/
def Layout.number (l : Layout) (lead digits : List Char) : List Char :=
  let digits := match l.precision with
    | some n =>
      if n = 0 && digits = ['0'] then [] else List.replicate (n - digits.length) '0' ++ digits
    | none => digits
  if '0' ∈ l.flags && '-' ∉ l.flags && l.precision.isNone then
    lead ++ List.replicate (l.width - lead.length - digits.length) '0' ++ digits
  else l.fill (lead ++ digits)

/-- A number with a sign. -/
def Layout.signed (l : Layout) (n : Int) : List Char :=
  let lead := if n < 0 then ['-'] else if '+' ∈ l.flags then ['+']
    else if ' ' ∈ l.flags then [' '] else []
  l.number lead (Decimal.write n.natAbs)

/-- A number without a sign, in a base. -/
def Layout.unsigned (l : Layout) (conversion : Char) (n : Nat) : List Char :=
  let alternate := '#' ∈ l.flags && n ≠ 0
  match conversion with
  | 'o' => l.number [] (let ds := Nat.toDigits 8 n; if alternate then '0' :: ds else ds)
  | 'x' => l.number (if alternate then ['0', 'x'] else []) (Nat.toDigits 16 n)
  | 'X' => l.number (if alternate then ['0', 'X'] else []) ((Nat.toDigits 16 n).map Char.toUpper)
  | _ => l.number [] (Decimal.write n)

/-! ## formats -/

/-- A format at work. -/
structure Printer where
  /-- What has been written, the last first. -/
  written : List (List Char)
  complaints : List (List Char)
  /-- The arguments that are left. -/
  left : List (List Char)
  /-- Whether the format has asked for an argument. -/
  asked : Bool
  /-- Whether nothing more is to be written. -/
  stopped : Bool
  /-- What is wrong with the format. -/
  failure : Option (List Char)

namespace Printer

/-- Writes a text. -/
def put (p : Printer) (cs : List Char) : Printer := { p with written := cs :: p.written }

/-- Takes the next argument off. -/
def take (p : Printer) : Option (List Char) × Printer :=
  (p.left.head?, { p with left := p.left.tail, asked := true })

/-- The next argument as a number. -/
def takeNumber (p : Printer) : Int × Printer :=
  match p.take with
  | (none, p) => (0, p)
  | (some ('"' :: cs), p) => (((cs.head?.map Char.toNat).getD 0 : Nat), p)
  | (some cs, p) =>
    if cs.head?.any (·.toNat = 0x27) then (((cs.tail.head?.map Char.toNat).getD 0 : Nat), p)
    else
      match readInteger? cs with
      | some (n, rest) =>
        if rest.isEmpty then (n, p)
        else (n, { p with complaints := p.complaints ++ [cs ++ ": not completely converted".toList] })
      | none =>
        if cs.isEmpty then (0, p)
        else (0, { p with complaints := p.complaints ++ [cs ++ ": expected numeric value".toList] })

/-- Writes an argument as a conversion asks for. -/
def convert (p : Printer) (l : Layout) (spec : List Char) (conversion : Char) : Printer :=
  match conversion with
  | 's' => let (a, p) := p.take; p.put (l.text (a.getD []))
  | 'c' => let (a, p) := p.take; p.put (l.fill [((a.getD []).head?).getD '\x00'])
  | 'b' =>
    let (a, p) := p.take
    let cs := a.getD []
    let (text, stop) := unescape cs.length cs
    { p.put (l.text text) with stopped := stop }
  | 'd' => let (n, p) := p.takeNumber; p.put (l.signed n)
  | 'i' => let (n, p) := p.takeNumber; p.put (l.signed n)
  | c =>
    if c ∈ ['o', 'u', 'x', 'X'] then
      let (n, p) := p.takeNumber
      p.put (l.unsigned c (n % 18446744073709551616).toNat)
    else { p with stopped := true, failure := some (spec ++ ": invalid directive".toList) }

/-- A width or precision, which may be an argument. -/
def measure (p : Printer) (cs : List Char) : Option Int × List Char × Printer :=
  match cs with
  | '*' :: rest => let (n, p) := p.takeNumber; (some n, rest, p)
  | cs =>
    let digits := cs.takeWhile Char.isDigit
    ((Decimal.readDigits? digits).map fun n => (n : Int), cs.drop digits.length, p)

end Printer

/-- One pass over a format.  The bound is its length. -/
def printOnce (bound : Nat) (format : List Char) (p : Printer) : Printer :=
  match bound with
  | 0 => p
  | bound + 1 =>
    if p.stopped then p
    else
      match format with
      | [] => p
      | '\\' :: cs => let (c, rest) := escapeOf cs; printOnce bound rest (p.put [c])
      | '%' :: '%' :: cs => printOnce bound cs (p.put ['%'])
      | '%' :: cs =>
        let isFlag (c : Char) : Bool := c ∈ ['#', '-', '+', ' ', '0']
        let flags := cs.takeWhile isFlag
        let (width, rest, p) := p.measure (cs.dropWhile isFlag)
        let (precision, rest, p) := match rest with
          | '.' :: rest =>
            let (n, rest, p) := p.measure rest
            (some (n.getD 0), rest, p)
          | rest => (none, rest, p)
        let width := width.getD 0
        let layout : Layout := {
          flags := if width < 0 then '-' :: flags else flags
          width := width.natAbs
          precision := precision.bind fun n => if n < 0 then none else some n.natAbs }
        match rest with
        | [] => { p with stopped := true, failure := some "missing format character".toList }
        | c :: after =>
          let spec := '%' :: cs.take (cs.length - after.length)
          printOnce bound after (p.convert layout spec c)
      | c :: cs => printOnce bound cs (p.put [c])

/-- A format as often as there are arguments for it, at least once. -/
def printAll (format : List Char) : Nat → Printer → Printer
  | 0, p => p
  | bound + 1, p =>
    let before := p.left.length
    let p := printOnce (format.length + 1) format p
    if !p.stopped && p.left.length < before && !p.left.isEmpty then printAll format bound p else p

/-- What a format writes for arguments. -/
def printf (format : List Char) (arguments : List (List Char)) : Printer :=
  printAll format (arguments.length + 1) ⟨[], [], arguments, false, false, none⟩

end ChapelCheck.Shell
