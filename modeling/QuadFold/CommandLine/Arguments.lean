import QuadFold.Settings

/-! The arguments of the command line: first each is read for itself, then all are judged together. -/
namespace QuadFold.CommandLine

inductive Parameter
  | settings | literals | malformed | output
  deriving DecidableEq, Repr

namespace Parameter

def ofLong? : String → Option Parameter
  | "env" => some settings
  | "literals" => some literals
  | "malformed" => some malformed
  | "output" => some output
  | _ => none

def ofShort? : Char → Option Parameter
  | 'e' => some settings
  | 'o' => some output
  | _ => none

end Parameter

inductive Item
  | file (name : String)
  | debug
  | help
  | version
  | option (parameter : Parameter) (value : Option String)
  | unknown
  deriving DecidableEq, Repr

namespace Item

def ofLongFlag : String → Item
  | "debug" => debug
  | "help" => help
  | "version" => version
  | _ => unknown

def ofShortFlag : Char → Item
  | 'd' => debug
  | 'h' => help
  | 'V' => version
  | _ => unknown

def value (cs : List Char) : String := String.ofList (cs.dropWhile (· == '='))

/-- An option by its name, with a value after an equality sign or none yet. -/
def long (cs : List Char) : Item :=
  let name := String.ofList (cs.takeWhile (· ≠ '='))
  let rest := cs.dropWhile (· ≠ '=')
  match Parameter.ofLong? name with
  | some p => option p (if rest.isEmpty then none else some (value rest))
  | none => ofLongFlag name

/-- Letters after a dash. What follows one that takes a value is its value. -/
def cluster : List Char → List Item
  | [] => []
  | c :: rest =>
    match Parameter.ofShort? c with
    | some p => [option p (if rest.isEmpty then none else some (value rest))]
    | none => ofShortFlag c :: cluster rest

/-- An argument by itself; a single dash is the name of a file. -/
def ofArgument (arg : String) : List Item :=
  match arg.toList with
  | '-' :: '-' :: cs => [long (cs.dropWhile (· == '-'))]
  | '-' :: c :: cs => cluster (c :: cs)
  | _ => [file arg]

/-- The value that is still to come, put in its place. -/
def complete (name : String) : List Item → List Item
  | [] => [file name]
  | [option p none] => [option p (some name)]
  | [i] => [i, file name]
  | i :: rest => i :: complete name rest

end Item

/-- The items of the arguments in order. After two dashes all are files. An option without a value
takes the next argument, unless that starts with a dash and goes on. -/
def items (done : List Item) : List String → List Item
  | [] => done
  | "--" :: rest => done ++ rest.map .file
  | arg :: rest =>
    match Item.ofArgument arg with
    | [.file name] => items (Item.complete name done) rest
    | more => items (done ++ more) rest

structure Arguments where
  file : String
  settings : Option String := none
  literals : Option Literal.Policy := none
  malformed : Option Malformed := none
  debug : Bool := false
  output : Option String := none
  deriving DecidableEq, Repr

inductive Request
  | help
  | version
  | run (arguments : Arguments)
  deriving DecidableEq, Repr

/-- The first item that decides about the request by itself: help, version, or what is not allowed
in any case. A second file is not allowed. -/
def early? (file : Bool) : List Item → Option (Option Request)
  | [] => none
  | .help :: _ => some (some .help)
  | .version :: _ => some (some .version)
  | .unknown :: _ => some none
  | .file _ :: rest => if file then some none else early? true rest
  | _ :: rest => early? file rest

def files (is : List Item) : List String :=
  is.filterMap fun
    | .file name => some name
    | _ => none

def values (p : Parameter) (is : List Item) : List (Option String) :=
  is.filterMap fun
    | .option q value => if p = q then some value else none
    | _ => none

/-- The value of an option that is given at most once, and never without one. -/
def single? (p : Parameter) (is : List Item) : Option (Option String) :=
  match values p is with
  | [] => some none
  | [some value] => some (some value)
  | _ => none

def policy? {α : Type} (ofName? : String → Option α) : Option String → Option (Option α)
  | none => some none
  | some name => (ofName? name).map some

def arguments? (is : List Item) : Option Arguments := do
  let [file] := files is | none
  let settings ← single? .settings is
  let literals ← policy? Literal.Policy.ofName? (← single? .literals is)
  let malformed ← policy? Malformed.ofName? (← single? .malformed is)
  let output ← single? .output is
  if is.count .debug ≤ 1 then
    return { file, settings, literals, malformed, debug := is.contains .debug, output }
  else none

/-- What the arguments ask for; `none` if they cannot be understood. -/
def request? (args : List String) : Option Request :=
  let is := items [] args
  match early? false is with
  | some request => request
  | none => (arguments? is).map .run

end QuadFold.CommandLine
