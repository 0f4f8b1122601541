/-! Colours on a terminal. -/
namespace QuadFold.CommandLine

inductive Style
  | bold | dim | red | green | yellow | cyan
  deriving DecidableEq, Repr

def Style.code : Style → String
  | bold => "1"
  | dim => "2"
  | red => "31"
  | green => "32"
  | yellow => "33"
  | cyan => "36"

structure Paint where
  colored : Bool := false

namespace Paint

def opening (styles : List Style) : String :=
  String.join (styles.map fun s => "\x1b[" ++ s.code ++ "m")

/-- A piece in some styles. A reset inside the text ends them early. -/
def apply (p : Paint) (styles : List Style) (text : String) : String :=
  if p.colored then opening styles ++ text ++ "\x1b[0m" else text

def resume (addition : List Char) : List Char → List Char
  | '\x1b' :: '[' :: '0' :: 'm' :: rest =>
    '\x1b' :: '[' :: '0' :: 'm' :: (addition ++ resume addition rest)
  | c :: rest => c :: resume addition rest
  | [] => []

/-- A piece in some styles to its end: they start again after a reset inside the text. -/
def cover (p : Paint) (styles : List Style) (text : String) : String :=
  if p.colored then
    p.apply styles (String.ofList (resume (opening styles).toList text.toList))
  else text

end Paint

end QuadFold.CommandLine
