/-!
# Colours

Text for a terminal that understands colours. A painted text is enclosed in
escape sequences that switch its style on and off again; where colours are
off it is left as it is. A text that switches its own style off in the middle
gets it back right after.

## Main definitions

* `Style`: The styles in use.
* `paint`: A text in a style.
-/

namespace Rerun

namespace Cli

/-- The styles in use. -/
inductive Style where
  | dimmed
  | red
  | green
  | yellow
  | cyan
  | boldRed
  | boldGreen
  | boldYellow
deriving DecidableEq, Repr

namespace Style

/-- The codes of a style in an escape sequence. -/
def codes : Style → String
  | dimmed => "2"
  | red => "31"
  | green => "32"
  | yellow => "33"
  | cyan => "36"
  | boldRed => "1;31"
  | boldGreen => "1;32"
  | boldYellow => "1;33"

end Style

/-- The escape sequence that switches a style on. -/
def escape (codes : String) : List Char :=
  '\x1b' :: '[' :: codes.toList ++ ['m']

/-- The escape sequence that switches all styles off. -/
def reset : List Char := escape "0"

/-- A text in which a style is switched on again after each place where all
    styles are switched off. `skip` counts characters of such a place that
    are still to be copied. -/
def restore (on : List Char) (skip : Nat) : List Char → List Char
  | [] => []
  | c :: rest =>
    match skip with
    | 0 =>
      if reset.isPrefixOf (c :: rest) then c :: restore on (reset.length - 1) rest
      else c :: restore on 0 rest
    | 1 => c :: (on ++ restore on 0 rest)
    | n + 2 => c :: restore on (n + 1) rest

/-- A text in a style, if colours are in use. -/
def paint (colours : Bool) (style : Style) (text : String) : String :=
  if colours then
    let on := escape style.codes
    String.ofList (on ++ restore on 0 text.toList ++ reset)
  else text

end Cli

end Rerun
