import Rerun.Pattern.Match
import Rerun.Pattern.Parse
import Rerun.Pattern.Size

/-!
# Patterns

A pattern describes texts. It is read, given a meaning, and refused if its
machines would be too large or would have to know words outside ASCII. What
is left only has to be asked whether it occurs in a text.

## Main definitions

* `Pattern.compile`: The meaning of a pattern, or why it is refused.
-/

namespace Rerun

namespace Pattern

/-- The meaning of a pattern, or why it is refused. -/
def compile (pattern : List Char) : Except Refusal Meaning := do
  let tree ← parse pattern
  let (meaning, _) ← tree.meaning {}
  -- The machine that reads forwards is built first, and its states for words
  -- are refused before the other one is built.
  if sizeLimit < meaning.size true then throw .size
  else if meaning.usesUnicodeWords then throw .words
  else if sizeLimit < meaning.size false then throw .size
  else return meaning

end Pattern

end Rerun
