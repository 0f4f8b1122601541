import QuadFold.Document.Value
import QuadFold.Error

/-! Places in the tree of a document, and what goes wrong there. -/
namespace QuadFold.Document

inductive Path
  | root
  | item (parent : Path) (index : Nat)
  | entry (parent : Path) (key : String)
  /-- The value of an entry whose key is not written out as a scalar. -/
  | unnamed (parent : Path)
  deriving DecidableEq, Repr

namespace Path

mutual

def text : Path → String
  | root => "."
  | item parent index => parent.text ++ "[" ++ String.ofList (Nat.toDigits 10 index) ++ "]"
  | entry parent key => parent.stem ++ key
  | unnamed parent => parent.stem ++ "?"

def stem : Path → String
  | root => ""
  | item parent index => parent.text ++ "[" ++ String.ofList (Nat.toDigits 10 index) ++ "]."
  | entry parent key => parent.stem ++ key ++ "."
  | unnamed parent => parent.stem ++ "?."

end

end Path

inductive Fault
  | malformed
  | empty
  | several
  | tooDeep
  | data (path : Path) (problem : Problem)
  | instruction (error : Error)
  deriving DecidableEq, Repr

def Fault.message : Fault → String
  | malformed => "malformed document"
  | empty => "EOF while parsing a value"
  | several => "deserializing from YAML containing more than one document is not supported"
  | tooDeep => "recursion limit exceeded"
  | data .root problem => problem.message
  | data path problem => path.text ++ ": " ++ problem.message
  | instruction error => error.message

end QuadFold.Document
