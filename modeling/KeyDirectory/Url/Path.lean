import KeyDirectory.Text.Split
import KeyDirectory.Url.Percent

/-!
# Paths

A path is a list of segments. Reading a path resolves the dot segments: `.` is dropped, and `..`
takes the segment before it away. A dot segment at the end leaves the path open, which an empty last
segment shows.
-/

namespace KeyDirectory.Url.Path

open KeyDirectory

/-- Slashes separate segments, and backslashes where the scheme has rules of its own. -/
def isSeparator (isSpecial : Bool) (c : Char) : Bool :=
  c == '/' || (isSpecial && c == '\\')

/-- A segment that stands for the directory itself; the dot may be encoded. -/
def isSingleDot (segment : List Char) : Bool :=
  let s := segment.map Char.toLower
  s == ".".toList || s == "%2e".toList

/-- A segment that stands for the directory above; each dot may be encoded. -/
def isDoubleDot (segment : List Char) : Bool :=
  let s := segment.map Char.toLower
  s == "..".toList || s == ".%2e".toList || s == "%2e.".toList || s == "%2e%2e".toList

/-- A segment that names a drive: a letter and `:` or `|`. -/
def isDrive : List Char → Bool
  | [letter, mark] => letter.isAlpha && (mark == ':' || mark == '|')
  | _ => false

/-- Goes one directory up; the path comes last segment first. Nothing is above the root, and `..`
does not leave a drive. -/
def parent : List (List Char) → List (List Char)
  | [] => []
  | last :: path => if isDrive last then last :: path else path

/-- Appends segments to a directory, resolving the dot segments among them. The directory and the
result come last segment first. -/
def append (path : List (List Char)) : List (List Char) → List (List Char)
  | [] => path
  | segment :: rest =>
    let close := fun (p : List (List Char)) => if rest.isEmpty then [] :: p else append p rest
    if isDoubleDot segment then close (parent path)
    else if isSingleDot segment then close path
    else append (segment :: path) rest

/-- The segments of a text, percent-encoded. -/
def segments (isSpecial : Bool) (text : List Char) : List (List Char) :=
  (Text.fields (isSeparator isSpecial) text).map (Percent.encode Percent.inPath)

/-- Reads a path relative to the directory `base`. -/
def read (isSpecial : Bool) (base : List (List Char)) (text : List Char) : List (List Char) :=
  (append base.reverse (segments isSpecial text)).reverse

/-- Reads the path of a file: a drive at its start is written with a colon, and empty segments at its
start are dropped. -/
def readFile (text : List Char) : List (List Char) :=
  let path := match read true [] text with
    | [letter, '|'] :: rest => if letter.isAlpha then [letter, ':'] :: rest else [letter, '|'] :: rest
    | path => path
  match path.dropWhile List.isEmpty with
  | [] => [[]]
  | path => path

/-- The text of a path: a slash before each segment. -/
def render (path : List (List Char)) : List Char :=
  path.flatMap ('/' :: ·)

end KeyDirectory.Url.Path
