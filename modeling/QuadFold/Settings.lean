import QuadFold.Literal

/-! The settings of a run: which texts it takes for literals, what it does with those that have no
value, and whether it tells more than usual. -/
namespace QuadFold

/-- What to do with a text that counts as a literal and has no value. -/
inductive Malformed
  | reject | passThrough
  deriving DecidableEq, Repr, Inhabited

namespace Malformed

def name : Malformed → String
  | reject => "reject"
  | passThrough => "pass-through"

def key : Malformed → String
  | reject => "reject"
  | passThrough => "pass_through"

def all : List Malformed := [reject, passThrough]

def ofName? (name : String) : Option Malformed :=
  all.find? (·.name = name)

def ofKey? (key : String) : Option Malformed :=
  all.find? (·.key = key)

end Malformed

structure Policies where
  literals : Literal.Policy := .permissive
  malformed : Malformed := .reject
  deriving DecidableEq, Repr, Inhabited

structure Settings where
  policies : Policies := {}
  debug : Bool := false
  deriving DecidableEq, Repr, Inhabited

def Settings.text (s : Settings) : String :=
  "---\nliterals: " ++ s.policies.literals.name ++
    "\nmalformed_literals: " ++ s.policies.malformed.key ++
    "\ndebug: " ++ (if s.debug then "true" else "false") ++ "\n"

end QuadFold
