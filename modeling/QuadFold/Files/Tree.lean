import QuadFold.Files.Path

/-! A tree of files as a value: what can be found, read and written in it. -/
namespace QuadFold

inductive FileNode
  | file (bytes : ByteArray)
  | directory
  deriving Inhabited

inductive FileError
  | missing
  | notDirectory
  | isDirectory
  | nameTooLong
  | zeroByte
  deriving DecidableEq, Repr

def FileError.message : FileError → String
  | missing => "No such file or directory (os error 2)"
  | notDirectory => "Not a directory (os error 20)"
  | isDirectory => "Is a directory (os error 21)"
  | nameTooLong => "File name too long (os error 36)"
  | zeroByte => "file name contained an unexpected NUL byte"

/-- A path that may lead somewhere is not empty, has no zero in it, and less than 4096 bytes. -/
def Files.admit (path : String) : Except FileError Unit :=
  if path.toList.contains '\x00' then .error .zeroByte
  else if path = "" then .error .missing
  else if Files.isLongPath path then .error .nameTooLong
  else .ok ()

/-- A place is the list of names that leads to it from the root. Paths start at the working directory
`home`, unless they start with a slash. -/
structure FileTree where
  home : List String := []
  nodes : List (List String × FileNode) := []

namespace FileTree

def lookup? (t : FileTree) (place : List String) : Option FileNode :=
  if place = [] then some .directory else (t.nodes.find? (·.1 == place)).map (·.2)

def set (t : FileTree) (place : List String) (n : FileNode) : FileTree :=
  { t with nodes := (place, n) :: t.nodes.filter (·.1 ≠ place) }

/-- Puts a node where some components lead to, and directories wherever they pass. -/
def plant (t : FileTree) (here : List String) (n : FileNode) : List String → FileTree
  | [] => t.set here n
  | "." :: rest => t.plant here n rest
  | ".." :: rest => (t.set here .directory).plant here.dropLast n rest
  | name :: rest => (t.set here .directory).plant (here ++ [name]) n rest

def empty (home : List String) : FileTree := ({ home } : FileTree).plant [] .directory home

def start (t : FileTree) (path : String) : List String :=
  if Files.isAbsolute path then [] else t.home

def place (t : FileTree) (path : String) (n : FileNode) : FileTree :=
  t.plant (t.start path) n (Files.components path)

/-- What is at a place. A name of more than 255 bytes cannot even be looked up. -/
def nodeAt (t : FileTree) (place : List String) : Except FileError FileNode :=
  if place.getLast?.any Files.isLongName then .error .nameTooLong
  else match t.lookup? place with
    | some n => .ok n
    | none => .error .missing

/-- The place that the components lead to. Everything on the way is a directory, but nothing need
be at the end. -/
def walk (t : FileTree) (here : List String) : List String → Except FileError (List String)
  | [] => .ok here
  | name :: rest =>
    match t.nodeAt here with
    | .error e => .error e
    | .ok (.file _) => .error .notDirectory
    | .ok .directory =>
      if name = "." then t.walk here rest
      else if name = ".." then t.walk here.dropLast rest
      else t.walk (here ++ [name]) rest

/-- What is at a path; a slash at its end goes into it. -/
def find (t : FileTree) (path : String) : Except FileError FileNode := do
  Files.admit path
  let slash := if Files.asksDirectory path then ["."] else []
  t.nodeAt (← t.walk (t.start path) (Files.components path ++ slash))

def isFile (t : FileTree) (path : String) : Bool :=
  match t.find path with
  | .ok (.file _) => true
  | _ => false

def text? (t : FileTree) (path : String) : Option String :=
  match t.find path with
  | .ok (.file bytes) => String.fromUTF8? bytes
  | _ => none

def target (t : FileTree) (path : String) : Except FileError (List String) := do
  Files.admit path
  let place ← t.walk (t.start path) (Files.components path)
  if Files.asksDirectory path then .error .isDirectory
  else match t.nodeAt place with
    | .ok .directory => .error .isDirectory
    | .error .nameTooLong => .error .nameTooLong
    | _ => .ok place

def write (t : FileTree) (path text : String) : Except FileError FileTree := do
  return t.set (← t.target path) (.file text.toUTF8)

end FileTree

end QuadFold
