/-!
# Coloured text on a terminal

A coloured text stands between the escape sequence of its colour and the one that
brings the default colour back.  A text that is bold as well ends with a full
reset.
-/

namespace Syllogistic
namespace CommandLine

/-- A colour of the terminal's palette, or one given by red, green and blue. -/
inductive Color
  | palette (index : Nat)
  | rgb (red green blue : Nat)
deriving DecidableEq, Repr

namespace Color

def red : Color := palette 9
def green : Color := palette 10
def yellowGreen : Color := rgb 154 205 50
def darkOrange : Color := rgb 255 140 0

/-- The escape sequence with some parameters. -/
private def escape (parameters : String) : String :=
  "\x1b[" ++ parameters ++ "m"

/-- The escape sequence that sets a foreground colour. -/
def start : Color → String
  | palette index => escape ("38;5;" ++ toString index)
  | rgb red green blue =>
      escape ("38;2;" ++ toString red ++ ";" ++ toString green ++ ";" ++ toString blue)

/-- A text in a colour. -/
def paint (color : Color) (text : String) : String :=
  color.start ++ text ++ escape "39"

/-- A bold text in a colour. -/
def paintBold (color : Color) (text : String) : String :=
  color.start ++ escape "1" ++ text ++ escape "0"

end Color
end CommandLine
end Syllogistic
