import ChapelCheck.Text.Split
import ChapelCheck.Url.Kind
import ChapelCheck.Url.Percent

/-!
# ChapelCheck.Url.Resolve

The path of a URL, with `.` and `..` resolved.

A path grows segment by segment.  `.` says nothing and `..` takes the segment
before it back, except one that names a disk, as in `/C:/`.  A file's path that
starts with a disk has no host, and its disk is written with a colon.

While it grows a path is held last character first, since all that happens to
it happens at its end.
-/

namespace ChapelCheck.Url

open Text

/-! ## disks -/

/-- A letter and a sign, as a disk is named in front of a path. -/
def isDrive : List Char → Bool
  | [letter, sign] => letter.isAlpha && (sign = ':' || sign = '|')
  | _ => false

/-- A disk with its usual sign. -/
def isPlainDrive (cs : List Char) : Bool := isDrive cs && cs.getLast? = some ':'

/-- Whether the first segment of a text names a disk. -/
def startsWithDrive (cs : List Char) : Bool :=
  isDrive (cs.take 2) && (cs.drop 2).head?.all fun c => c ∈ ['/', '\\', '?', '#']

/-! ## steps -/

/-- A path under way. -/
structure Course where
  /-- What the path is so far, last character first. -/
  back : List Char
  /-- Whether the path has turned out to start with a disk. -/
  onDrive : Bool
deriving DecidableEq, Repr

/-- Whether the slash at the end may go together with the segment before it:
there is such a segment, and it names no disk. -/
def slashMayGo : List Char → Bool
  | '/' :: back =>
    (back.contains '/') && !startsWithDrive ((back.takeWhile (· ≠ '/')).reverse ++ ['/'])
  | _ => false

/-- A path without the segment at its end; a file's disk stays. -/
def dropSegment (k : Kind) (back : List Char) : List Char :=
  if k = .file && isPlainDrive (back.takeWhile (· ≠ '/')).reverse then back
  else back.dropWhile (· ≠ '/')

/-- A path with a slash at its end. -/
def closed (back : List Char) : List Char := if back.head? = some '/' then back else '/' :: back

/-- Takes the last segment of a path back. -/
def stepUp (k : Kind) (back : List Char) : List Char :=
  dropSegment k (if slashMayGo back then back.tail else back)

/-- The ways to write `..`. -/
def isUp (segment : List Char) : Bool :=
  String.ofList (segment.map Char.toLower) ∈ ["..", ".%2e", "%2e.", "%2e%2e"]

/-- The ways to write `.`. -/
def isHere (segment : List Char) : Bool :=
  String.ofList (segment.map Char.toLower) ∈ [".", "%2e"]

/-- One segment, with a slash behind it unless it is the last. -/
def Course.step (k : Kind) (course : Course) (segment : List Char) (isLast : Bool) : Course :=
  let close (back : List Char) := if isLast then back else '/' :: back
  if isUp segment then
    let back := stepUp k course.back
    { course with back := if isLast then back else closed back }
  else if isHere segment then { course with back := closed course.back }
  else if k = .file && course.back = ['/'] && isDrive segment then
    { back := close (':' :: (segment.take 1 ++ course.back)), onDrive := true }
  else { course with back := close (segment.reverse ++ course.back) }

/-- Segments, one behind the other. -/
def Course.follow (k : Kind) (course : Course) : List (List Char) → Course
  | [] => course
  | [s] => course.step k s true
  | s :: t :: ss => (course.step k s false).follow k (t :: ss)

/-! ## paths -/

/-- The segments of a text, encoded. -/
def segments (k : Kind) (cs : List Char) : List (List Char) :=
  (pieces '/' (cs.map fun c => if k.separates c then '/' else c)).map (encode inPathSet)

/-- The path that a text makes behind another, and whether it starts with a
disk.  Slashes at the start of a file's path count once. -/
def resolve (k : Kind) (start cs : List Char) : List Char × Bool :=
  let course := (Course.mk start.reverse false).follow k (segments k cs)
  let path := course.back.reverse
  (if k = .file then '/' :: path.dropWhile (· = '/') else path, course.onDrive)

end ChapelCheck.Url
