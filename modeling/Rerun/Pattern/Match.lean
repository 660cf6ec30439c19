import Rerun.Pattern.Meaning
import Rerun.Text.Blank

/-!
# Matching

Whether a text matches a pattern somewhere. A set of positions in the text is
a number whose bits say which positions are in it, and a pattern takes the
set of the positions where it may begin to the set of those where it may then
end. Trying all beginnings at once, every part of a pattern is followed
through the text once for each round it is repeated.

A round of a repetition either gets on in the text or stays where it is, and
one that stays can be repeated at will. So no more rounds than the text has
positions need to be followed.

## Main definitions

* `Pattern.Subject`: A text whose positions are looked at.
* `Pattern.Look.holds`: Whether a condition holds at a position.
* `Pattern.Meaning.run`: From where a pattern begins to where it ends.
* `Pattern.Meaning.occursIn`: Whether a text matches somewhere.
-/

namespace Rerun

namespace Pattern

/-- A text whose positions are looked at. -/
abbrev Subject := Array Char

namespace Subject

/-- The character before a position. -/
def before? (text : Subject) (position : Nat) : Option Char :=
  if position = 0 then none else text[position - 1]?

/-- The character after a position. -/
def after? (text : Subject) (position : Nat) : Option Char :=
  text[position]?

/-- The positions at which a condition holds, as a number. -/
def positions (text : Subject) (p : Nat → Bool) : Nat :=
  (List.range (text.size + 1)).foldl (fun set i => if p i then set ||| 1 <<< i else set) 0

end Subject

/-- Whether a condition on the sides of a position holds: on the left and on
    the right there may be a word. -/
def WordLook.holds (left right : Bool) : WordLook → Bool
  | boundary => left != right
  | noBoundary => left == right
  | start => !left && right
  | stop => left && !right
  | startHalf => !left
  | stopHalf => !right

/-- Whether a condition holds at a position. A carriage return and the line
    feed after it are one end of a line. -/
def Look.holds (text : Subject) (position : Nat) (look : Look) : Bool :=
  let before := text.before? position
  let after := text.after? position
  match look with
  | textStart => before.isNone
  | textEnd => after.isNone
  | lineStart false => before.isNone || before == some '\n'
  | lineEnd false => after.isNone || after == some '\n'
  | lineStart true =>
    before.isNone || before == some '\n' || (before == some '\r' && after != some '\n')
  | lineEnd true =>
    after.isNone || after == some '\r' || (after == some '\n' && before != some '\r')
  | word kind _ => kind.holds (before.any Text.isWord) (after.any Text.isWord)

/-- Applies a function to a set of positions so many times, or until that
    changes nothing. -/
def follow (f : Nat → Nat) : Nat → Nat → Nat
  | 0, set => set
  | count + 1, set =>
    let next := f set
    if next = set then set else follow f count next

namespace Meaning

/-- From where a pattern may begin to where it may then end. -/
def run (text : Subject) : Meaning → Nat → Nat
  | empty, set => set
  | chars ranges, set =>
    (set &&& text.positions fun i => (text.after? i).any ranges.has) <<< 1
  | look condition, set => set &&& text.positions fun i => condition.holds text i
  | sequence a b, set => run text b (run text a set)
  | choice a b, set => run text a set ||| run text b set
  | repeated body least most, set =>
    let bound := text.size + 1
    let set := follow (run text body) (min least bound) set
    let more := (most.map fun n => min (n - least) bound).getD bound
    follow (fun set => set ||| run text body set) more set
  | capture body, set => run text body set

/-- Whether a text matches somewhere. -/
def occursIn (m : Meaning) (text : List Char) : Bool :=
  let subject : Subject := text.toArray
  m.run subject (subject.positions fun _ => true) != 0

end Meaning

end Pattern

end Rerun
