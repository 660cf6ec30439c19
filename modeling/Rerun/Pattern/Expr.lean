import Rerun.Pattern.Fault

/-!
# Patterns as They Are Written

A pattern as a tree of its parts, each with its place in the text. Whether a
repetition prefers few or many rounds is left out, since it does not change
whether a text matches.

## Main definitions

* `Pattern.ClassSet`: What stands between brackets.
* `Pattern.Expr`: A part of a pattern.
* `Pattern.Expr.tooDeep?`: The first part that is nested too deep.
-/

namespace Rerun

namespace Pattern

/-- A single character of a pattern. -/
structure Literal where
  place : Stretch
  char : Char
  /-- Whether it was written as the two hexadecimal digits of a byte. -/
  asByte : Bool := false
deriving DecidableEq, Repr

/-- The classes that are written with one letter. -/
inductive LetterClass where
  | digit
  | space
  | word
deriving DecidableEq, Repr

/-- The classes that are named between colons. -/
inductive AsciiClass where
  | alnum
  | alpha
  | ascii
  | blank
  | cntrl
  | digit
  | graph
  | lower
  | print
  | punct
  | space
  | upper
  | word
  | xdigit
deriving DecidableEq, Repr

/-- How two sets of characters are combined. -/
inductive SetOperation where
  | intersection
  | difference
  | symmetricDifference
deriving DecidableEq, Repr

/-- What stands between brackets. -/
inductive ClassSet where
  | empty (place : Stretch)
  | literal (literal : Literal)
  | range (place : Stretch) (first last : Literal)
  | ascii (place : Stretch) (name : AsciiClass) (negated : Bool)
  | letter (place : Stretch) (name : LetterClass) (negated : Bool)
  /-- A property of characters, as it was written. -/
  | property (place : Stretch) (text : List Char)
  | bracket (place : Stretch) (negated : Bool) (set : ClassSet)
  | union (place : Stretch) (items : List ClassSet)
  | combined (place : Stretch) (operation : SetOperation) (left right : ClassSet)
deriving Repr

/-- A condition on a position of a text. -/
inductive Assertion where
  | lineStart
  | lineEnd
  | textStart
  | textEnd
  | boundary
  | noBoundary
  | wordStart
  | wordEnd
  | wordStartHalf
  | wordEndHalf
deriving DecidableEq, Repr

/-- The flags that change how a pattern is read. -/
inductive Flag where
  | caseless
  | multiLine
  | dotAll
  | swapGreed
  | unicode
  | crlf
  | verbose
deriving DecidableEq, Repr

/-- A part of a pattern. -/
inductive Expr where
  | empty (place : Stretch)
  /-- Flags that hold from here on, with what they are set to. -/
  | flags (place : Stretch) (changes : List (Flag × Bool))
  | literal (literal : Literal)
  /-- Any character. -/
  | any (place : Stretch)
  | assertion (place : Stretch) (kind : Assertion)
  | letter (place : Stretch) (name : LetterClass) (negated : Bool)
  /-- A property of characters, as it was written. -/
  | property (place : Stretch) (text : List Char)
  | bracket (place : Stretch) (negated : Bool) (set : ClassSet)
  | repeated (place : Stretch) (body : Expr) (least : Nat) (most : Option Nat)
  /-- A group that is remembered, or one that sets flags for itself. -/
  | group (place : Stretch) (captures : Bool) (changes : List (Flag × Bool)) (body : Expr)
  | sequence (place : Stretch) (items : List Expr)
  | choice (place : Stretch) (items : List Expr)
deriving Repr

namespace ClassSet

/-- The place of a set. -/
def place : ClassSet → Stretch
  | empty place | range place _ _ | ascii place _ _ | letter place _ _ | property place _ |
    bracket place _ _ | union place _ | combined place _ _ _ => place
  | literal l => l.place

mutual

/-- The first part of a set that is nested too deep, where `depth` others
    enclose the set. -/
def tooDeep? (depth : Nat) : ClassSet → Option Stretch
  | bracket place _ set =>
    if nestLimit ≤ depth then some place else tooDeep? (depth + 1) set
  | union place items =>
    if nestLimit ≤ depth then some place else tooDeepIn? (depth + 1) items
  | combined place _ left right =>
    if nestLimit ≤ depth then some place
    else tooDeep? (depth + 1) left <|> tooDeep? (depth + 1) right
  | _ => none

/-- The first part of some sets that is nested too deep. -/
def tooDeepIn? (depth : Nat) : List ClassSet → Option Stretch
  | [] => none
  | set :: rest => tooDeep? depth set <|> tooDeepIn? depth rest

end

end ClassSet

namespace Expr

/-- The place of a part. -/
def place : Expr → Stretch
  | empty place | flags place _ | any place | assertion place _ | letter place _ _ |
    property place _ | bracket place _ _ | repeated place _ _ _ | group place _ _ _ |
    sequence place _ | choice place _ => place
  | literal l => l.place

/-- Whether a part can be repeated. -/
def isRepeatable : Expr → Bool
  | empty _ | flags _ _ => false
  | _ => true

mutual

/-- The first part that is nested too deep, where `depth` others enclose the
    expression. -/
def tooDeep? (depth : Nat) : Expr → Option Stretch
  | bracket place _ set =>
    if nestLimit ≤ depth then some place else set.tooDeep? (depth + 1)
  | repeated place body _ _ | group place _ _ body =>
    if nestLimit ≤ depth then some place else tooDeep? (depth + 1) body
  | sequence place items | choice place items =>
    if nestLimit ≤ depth then some place else tooDeepIn? (depth + 1) items
  | _ => none

/-- The first part of some expressions that is nested too deep. -/
def tooDeepIn? (depth : Nat) : List Expr → Option Stretch
  | [] => none
  | item :: rest => tooDeep? depth item <|> tooDeepIn? depth rest

end

end Expr

end Pattern

end Rerun
