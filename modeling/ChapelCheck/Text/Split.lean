/-!
# ChapelCheck.Text.Split

Cutting a text at a separator: at its first occurrence (`cut`), at all of
them (`pieces`), and into lines (`lines`).

A line ends at a line feed, and one carriage return right before the line
feed belongs to the line end.  The text after the last line feed is a line
only if it is not empty, and keeps its carriage returns.
-/

namespace ChapelCheck.Text

/-! ## one cut -/

/-- The text before the first `sep`, and the text after it if there is one. -/
def cut (sep : Char) : List Char → List Char × Option (List Char)
  | [] => ([], none)
  | c :: cs =>
    if c = sep then ([], some cs)
    else ((c :: (cut sep cs).1), (cut sep cs).2)

@[simp] theorem cut_nil (sep : Char) : cut sep [] = ([], none) := rfl

@[simp] theorem cut_cons_self (sep : Char) (cs : List Char) :
    cut sep (sep :: cs) = ([], some cs) := by
  simp [cut]

theorem cut_cons_of_ne {sep c : Char} (h : c ≠ sep) (cs : List Char) :
    cut sep (c :: cs) = (c :: (cut sep cs).1, (cut sep cs).2) := by
  simp [cut, h]

/-! ## all cuts -/

/-- Puts a character in front of the first piece. -/
def consPiece (c : Char) : List (List Char) → List (List Char)
  | [] => [[c]]
  | p :: ps => (c :: p) :: ps

/-- The pieces of a text between the occurrences of `sep`, in order.  There
is one more of them than there are separators. -/
def pieces (sep : Char) : List Char → List (List Char)
  | [] => [[]]
  | c :: cs => if c = sep then [] :: pieces sep cs else consPiece c (pieces sep cs)

@[simp] theorem pieces_nil (sep : Char) : pieces sep [] = [[]] := rfl

@[simp] theorem pieces_cons_self (sep : Char) (cs : List Char) :
    pieces sep (sep :: cs) = [] :: pieces sep cs := by
  simp [pieces]

theorem pieces_cons_of_ne {sep c : Char} (h : c ≠ sep) (cs : List Char) :
    pieces sep (c :: cs) = consPiece c (pieces sep cs) := by
  simp [pieces, h]

/-- Pieces put together again, with `sep` between them. -/
def joinPieces (sep : Char) : List (List Char) → List Char
  | [] => []
  | [p] => p
  | p :: q :: ps => p ++ sep :: joinPieces sep (q :: ps)

/-! ## lines -/

/-- A line without the carriage return that belongs to its line end. -/
def dropReturn : List Char → List Char
  | [] => []
  | ['\r'] => []
  | c :: cs => c :: dropReturn cs

/-- The lines that the pieces between line feeds make: every piece but the
last was ended by a line feed. -/
def endedLines : List (List Char) → List (List Char)
  | [] => []
  | [p] => if p.isEmpty then [] else [p]
  | p :: q :: ps => dropReturn p :: endedLines (q :: ps)

/-- The lines of a text, without their line ends. -/
def lines (cs : List Char) : List (List Char) := endedLines (pieces '\n' cs)

end ChapelCheck.Text
