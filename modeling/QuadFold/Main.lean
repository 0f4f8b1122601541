import QuadFold.CommandLine.Run

/-! The command line as a program. What a run may look at is read beforehand, and what it has
written goes to the file system afterwards. -/
namespace QuadFold.CommandLine

def osPath (place : List String) : String := "/" ++ String.intercalate "/" place

def waypoints (here : List String) : List String → List (List String)
  | [] => [here]
  | "." :: rest => waypoints here rest
  | ".." :: rest => here :: waypoints here.dropLast rest
  | name :: rest => here :: waypoints (here ++ [name]) rest

def nodeAt? (place : List String) : IO (Option FileNode) := do
  let path := (← IO.currentDir) / osPath place
  if ← path.isDir then return some .directory
  try return some (.file (← IO.FS.readBinFile path))
  catch _ => return none

def paths (a : Arguments) : List String :=
  [a.file, Files.withExtension a.file "env.yaml"] ++ a.settings.toList ++ a.output.toList

/-- The part of the file system that a run may look at. -/
def snapshot (a : Arguments) : IO FileTree := do
  let home := Files.components (← IO.currentDir).toString
  let mut tree : FileTree := { home }
  for path in paths a do
    for place in waypoints (tree.start path) (Files.components path) do
      if let some n ← nodeAt? place then tree := tree.set place n
  return tree

def commit (a : Arguments) (outcome : Outcome) : IO UInt32 := do
  IO.print outcome.output
  if outcome.exit == 0 then
    if let some path := a.output then
      if let some text := outcome.files.text? path then IO.FS.writeFile path text
  return outcome.exit.toUInt32

end QuadFold.CommandLine

open QuadFold CommandLine in
def main (args : List String) : IO UInt32 := do
  let paint : Paint := { colored := ← (← IO.getStdout).isTty }
  match request? args with
  | some (.run a) => commit a (execute paint (← snapshot a) a)
  | _ =>
    let outcome := run paint {} args
    IO.print outcome.output
    return outcome.exit.toUInt32
