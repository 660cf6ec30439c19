import Rerun.Text.Blank
import Rerun.Text.Utf8

/-!
# Paths

A path is a text. What it leads to is found by walking through the names
between its slashes, starting from the working directory or, if the path
begins with a slash, from the root. Several slashes in a row count as one,
and a slash at the end asks for a directory.

A file that is to be replaced is first written next to its destination. The
directory for that is the path without its last name, where a lone dot is no
name unless the path begins with it.

## Main definitions

* `Path.names`: The names a path walks through.
* `Path.wantsFolder`: Whether a path ends in a slash.
* `Path.isAbsolute`: Whether a path starts at the root.
* `Path.parent`: The names of the directory that holds a path.
-/

namespace Rerun

namespace Path

open Text

/-- The names that a path walks through. -/
def names (path : String) : List (List Char) :=
  (splitOn '/' path.toList).filter fun name => !name.isEmpty

/-- Whether a path ends in a slash, and so can only lead to a directory. -/
def wantsFolder (path : String) : Bool :=
  path.toList.getLast? == some '/'

/-- Whether a path starts at the root of the file system. -/
def isAbsolute (path : String) : Bool :=
  startsWith ['/'] path.toList

/-- Whether a path holds a zero character, which no file name can. -/
def hasNul (path : String) : Bool :=
  path.toList.contains '\x00'

/-- The largest number of bytes in a name. -/
def maxName : Nat := 255

/-- The largest number of bytes in a path. -/
def maxPath : Nat := 4095

/-- Whether a path is too long to be looked up. -/
def isTooLong (path : String) : Bool :=
  maxPath < Utf8.size path.toList

/-- Whether a name is too long to be looked up. -/
def isLongName (name : List Char) : Bool :=
  maxName < Utf8.size name

/-- The names of a path without the lone dots after the first one. -/
def steps (path : String) : List (List Char) :=
  match names path with
  | [] => []
  | first :: rest => first :: rest.filter fun name => name != ['.']

/-- The names of the directory that holds the last name of a path. -/
def parent (path : String) : List (List Char) :=
  (steps path).dropLast

/-- The number of bytes that a temporary file's name adds to the path of its
    directory, with the slash before it. -/
def spareName : Nat := 11

/-- The directory that holds the last name of a path, written as a path. -/
def parentText (path : String) : List Char :=
  (if isAbsolute path then ['/'] else []) ++ ['/'].intercalate (parent path)

/-- Whether the path of a temporary file next to a path would be too long to
    be looked up. -/
def isSpareTooLong (path : String) : Bool :=
  maxPath < Utf8.size (parentText path) + spareName

end Path

end Rerun
