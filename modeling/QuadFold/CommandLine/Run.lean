import QuadFold.CommandLine.Arguments
import QuadFold.CommandLine.Paint
import QuadFold.Folding
import QuadFold.Storage

/-! A run of the command line, from the arguments and the files to the output, the exit status and
the files afterwards. -/
namespace QuadFold.CommandLine

/-- Steps that write output and may fail. They cannot change files. -/
abbrev Narrated := ExceptT Failure (StateM String)

def say (text : String) : Narrated Unit := modify (· ++ text)

def attempt {α : Type} : Except Failure α → Narrated α
  | .ok a => pure a
  | .error e => throw e

/-- Settings from the named file, else from the one beside the program, else the defaults. -/
def storedSettings (paint : Paint) (tree : FileTree) (a : Arguments) : Narrated Settings :=
  match a.settings with
  | some path =>
    if tree.isFile path then attempt (tree.loadSettings path) else throw (.settingsMissing path)
  | none => do
    let path := Files.withExtension a.file "env.yaml"
    if tree.isFile path then
      say ("Using environment defined in '" ++ paint.apply [.yellow] path ++ "'\n")
      attempt (tree.loadSettings path)
    else return {}

/-- Arguments win over stored settings. -/
def Arguments.override (a : Arguments) (s : Settings) : Settings :=
  { policies :=
      { literals := a.literals.getD s.policies.literals
        malformed := a.malformed.getD s.policies.malformed }
    debug := a.debug || s.debug }

def stage (paint : Paint) (name text : String) : Narrated Unit :=
  say (paint.apply [.bold, .dim] name ++ text)

/-- Everything but writing the outcome to a file. -/
def fold (paint : Paint) (tree : FileTree) (a : Arguments) : Narrated Policies.Folded := do
  let settings := a.override (← storedSettings paint tree a)
  if settings.debug then
    say (paint.apply [.bold] "Environment" ++ ":\n" ++ paint.apply [.cyan] settings.text ++ "\n---\n")
  stage paint "[1/3]" (" Loading program '" ++ paint.cover [.yellow] a.file ++ "'\n")
  let program ← attempt (tree.loadProgram a.file)
  say (paint.apply [.bold] "Original program:" ++ "\n" ++ program.listing)
  stage paint "[2/3]" " Optimizing ...\n"
  let outcome ← attempt ((settings.policies.fold program).mapError .program)
  say (String.join (outcome.foldings.map fun f =>
    "    " ++ paint.apply [.dim] ("// " ++ f.text) ++ "\n"))
  let count := String.ofList (Nat.toDigits 10 outcome.foldings.length)
  stage paint "[3/3]" (" Optimized program (" ++ count ++ " folded):\n")
  say (paint.apply [.green] outcome.program.listing)
  return outcome

structure Outcome where
  exit : Nat
  output : String
  files : FileTree

def failed (paint : Paint) (tree : FileTree) (output : String) (e : Failure) : Outcome :=
  ⟨255, output ++ paint.apply [.red, .bold] e.message ++ "\n", tree⟩

def execute (paint : Paint) (tree : FileTree) (a : Arguments) : Outcome :=
  match (fold paint tree a).run.run "" with
  | (.error e, output) => failed paint tree output e
  | (.ok outcome, output) =>
    match a.output with
    | none => ⟨0, output, tree⟩
    | some path =>
      match tree.dump path outcome.program with
      | .ok changed => ⟨0, output, changed⟩
      | .error e => failed paint tree output e

def title : String := "tacopt 0.1.0\n"

def help : String := title ++ "
Single-pass constant folding and propagation for three-address code.

USAGE:
    tacopt [FLAGS] [OPTIONS] <FILE>

FLAGS:
    -d, --debug      Enables debug mode
    -h, --help       Prints help information
    -V, --version    Prints version information

OPTIONS:
    -e, --env <FILE>            Sets environment file to use
        --literals <POLICY>     Sets which operands count as integer literals (overwrites environment) [possible values:
                                permissive, strict]
        --malformed <POLICY>    Sets how unparsable literals are handled (overwrites environment) [possible values:
                                reject, pass-through]
    -o, --output <FILE>         Writes the optimized program into the file

ARGS:
    <FILE>    TAC program to be optimized (.tac listing or .yaml)
"

def run (paint : Paint) (tree : FileTree) (args : List String) : Outcome :=
  match request? args with
  | none => ⟨1, "", tree⟩
  | some .help => ⟨0, help, tree⟩
  | some .version => ⟨0, title, tree⟩
  | some (.run a) => execute paint tree a

end QuadFold.CommandLine
