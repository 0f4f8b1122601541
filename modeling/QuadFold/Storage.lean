import QuadFold.Files.Tree
import QuadFold.Listing
import QuadFold.Document.Record
import QuadFold.Text.Utf8

/-! Programs and settings in files. -/
namespace QuadFold

inductive Failure
  | program (error : Error)
  | programUnavailable (path : String)
  | settingsUnavailable (path : String)
  | settingsMissing (path : String)
  | document (fault : Document.Fault)
  | reading (error : FileError)
  | encoding (flaw : Text.Utf8.Flaw)
  | writing (error : FileError)
  deriving DecidableEq, Repr

def Failure.message : Failure → String
  | program error => error.message
  | programUnavailable path => s!"Program file '{path}' could not be loaded"
  | settingsUnavailable path => s!"Environment file '{path}' could not be loaded"
  | settingsMissing path => s!"Environment file '{path}' does not exist"
  | document fault => fault.message
  | reading error => error.message
  | encoding flaw => flaw.message
  | writing error => error.message

namespace FileTree

def loadListing (t : FileTree) (path : String) : Except Failure Program :=
  match t.text? path with
  | some source => (Listing.parse source).mapError .program
  | none => .error (.programUnavailable path)

/-- Reads a document. What can be found is opened, and may still not be read. -/
def loadDocument {α : Type} (t : FileTree) (path : String) (unavailable : Failure)
    (decode : Document.Anchors → Document.Node → Document.Decoded α) : Except Failure α :=
  match t.find path with
  | .error _ => .error unavailable
  | .ok .directory => .error (.reading .isDirectory)
  | .ok (.file bytes) =>
    match String.fromUTF8? bytes with
    | some source => (Document.Record.ofText decode source).mapError .document
    | none => .error (.encoding (Text.Utf8.stop 0 .between bytes.toList))

def loadRecords (t : FileTree) (path : String) : Except Failure Program :=
  t.loadDocument path (.programUnavailable path) Document.Record.program

/-- Files named `.yaml` or `.yml` hold records, all others a listing. -/
def loadProgram (t : FileTree) (path : String) : Except Failure Program :=
  match Files.extension? path with
  | some "yaml" | some "yml" => t.loadRecords path
  | _ => t.loadListing path

def loadSettings (t : FileTree) (path : String) : Except Failure Settings :=
  t.loadDocument path (.settingsUnavailable path) Document.Record.settings

def dump (t : FileTree) (path : String) (p : Program) : Except Failure FileTree :=
  (t.write path p.listing).mapError .writing

end FileTree

end QuadFold
