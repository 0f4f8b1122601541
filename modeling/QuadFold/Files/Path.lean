/-! Names of files: components between slashes, and the extension of the last one. -/
namespace QuadFold.Files

/-- The components of a path. Empty ones are left out. -/
def components (path : String) : List String :=
  (split path.toList).filter (· ≠ "")
where
  split : List Char → List String
    | [] => [""]
    | '/' :: rest => "" :: split rest
    | c :: rest =>
      match split rest with
      | [] => [String.singleton c]
      | head :: more => (String.singleton c ++ head) :: more

def isAbsolute (path : String) : Bool := path.toList.head? == some '/'

/-- A slash at the end asks for a directory. -/
def asksDirectory (path : String) : Bool := path.toList.getLast? == some '/'

def isLongName (name : String) : Bool := 255 < name.utf8ByteSize

/-- A path takes at most 4096 bytes with the zero that ends it. -/
def isLongPath (path : String) : Bool := 4096 ≤ path.utf8ByteSize

/-- A path read from its end, without slashes and dots that add nothing. -/
def dropIdle : List Char → List Char
  | '/' :: rest => dropIdle rest
  | '.' :: '/' :: rest => dropIdle rest
  | cs => cs

/-- The last component, and what stands before it; `none` if that is no name. -/
def fileName? (path : String) : Option (List Char × List Char) :=
  let backwards := dropIdle path.toList.reverse
  let name := (backwards.takeWhile (· ≠ '/')).reverse
  let before := (backwards.dropWhile (· ≠ '/')).reverse
  if name = [] ∨ name = ['.'] ∨ name = ['.', '.'] then none else some (before, name)

/-- A name around its last dot; a dot at the start divides nothing. -/
def splitName (name : List Char) : List Char × Option (List Char) :=
  let backwards := name.reverse
  let after := (backwards.takeWhile (· ≠ '.')).reverse
  match backwards.dropWhile (· ≠ '.') with
  | _ :: c :: before => ((c :: before).reverse, some after)
  | _ => (name, none)

def extension? (path : String) : Option String := do
  let (_, name) ← fileName? path
  return String.ofList (← (splitName name).2)

/-- The path with another extension, or the same path if it ends in no name. -/
def withExtension (path ext : String) : String :=
  match fileName? path with
  | some (before, name) => String.ofList (before ++ (splitName name).1) ++ "." ++ ext
  | none => path

end QuadFold.Files
