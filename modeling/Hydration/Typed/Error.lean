import Hydration.Json.Path
import Hydration.Transform.Value
import Hydration.TypeGraph.Basic

/-!
# Conversion errors

Why a value was not converted, with the place at which conversion stopped. A
missing field is reported by its class and key alone.
-/

namespace Hydration

/-- Why a value was not converted. -/
inductive DataError where
  /-- A required field is absent. -/
  | missingField (className key : String)
  /-- A value of another shape than expected. -/
  | typeMismatch (path : Path) (expected found : String)
  /-- A string that is no case of an enum. -/
  | unknownEnumCase (path : Path) (enumName tag : String)
  /-- An integer beyond sixty-four signed bits. -/
  | outOfRange (path : Path) (value : String)
  /-- A value of a kind that a union does not have. -/
  | unionMismatch (path : Path) (kind : String)
  /-- Null for a union without a null member. -/
  | nullUnion (path : Path)
  /-- A string that is no value of its interpretation. -/
  | invalidString (path : Path) (kind : TransformKind) (text : String) (fault : TransformFault)
  /-- An instance of another class than expected. -/
  | wrongClass (path : Path) (expected found : String)
  /-- A plan without the converter that one of its rules refers to. -/
  | missingConverter (id : TypeId)
  deriving DecidableEq

/-- The text of a conversion error. -/
def DataError.message : DataError → String
  | missingField _ key => "missing required field: " ++ key
  | typeMismatch path expected found =>
    path.text ++ ": expected " ++ expected ++ ", found " ++ found
  | unknownEnumCase path enumName tag =>
    path.text ++ ": `" ++ tag ++ "` is not a case of enum " ++ enumName
  | outOfRange path value => path.text ++ ": " ++ value ++ " is out of range for integer"
  | unionMismatch path kind => path.text ++ ": union does not contain " ++ kind
  | nullUnion path => path.text ++ ": union must not be null"
  | invalidString path kind text fault =>
    path.text ++ ": `" ++ text ++ "` is not a valid " ++ kind.name ++ ": " ++ fault.message
  | wrongClass path expected found =>
    path.text ++ ": expected an instance of " ++ expected ++ ", found " ++ found
  | missingConverter id => "no converter was generated for type " ++ id.text

end Hydration
