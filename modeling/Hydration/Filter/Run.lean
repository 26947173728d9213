import Hydration.Filter.Outputs
import Hydration.Filter.Reader
import Hydration.Json.Printer
import Hydration.Json.Scan

/-!
# Running filters on documents

The documents that a filter text makes of one document. The text is read and
its names are checked before the document is looked at; one failure among the
outputs fails the whole run. Every output is written and read back, which
makes it a document like any other: it obeys the limit on nesting, and a
double that is not finite becomes null.
-/

namespace Hydration

/-- Why a filter text makes no documents of a document. -/
inductive FilterError where
  /-- The text is not a filter. -/
  | malformed
  /-- The filter uses a name that is not defined. -/
  | undefined (name : String)
  /-- The filter fails on the document. -/
  | failed (failure : Filter.Failure)
  /-- An output is not a document. -/
  | notADocument (index : Nat) (text : String) (fault : Json.SyntaxFault)

namespace Filter

mutual

/-- A value in which doubles that are not finite are null. -/
def withFiniteNumbers : Json → Json
  | .number (.double x) => if x.isFinite then .number (.double x) else .null
  | .array items => .array (withFiniteItems items)
  | .object members => .object (withFiniteMembers members)
  | value => value

/-- Elements in which doubles that are not finite are null. -/
def withFiniteItems : List Json → List Json
  | [] => []
  | item :: rest => withFiniteNumbers item :: withFiniteItems rest

/-- Members in which doubles that are not finite are null. -/
def withFiniteMembers : List (String × Json) → List (String × Json)
  | [] => []
  | (key, value) :: rest => (key, withFiniteNumbers value) :: withFiniteMembers rest

end

/-- The outputs from an index on as documents. -/
def documents : Nat → List Json → Except FilterError (List Json)
  | _, [] => .ok []
  | place, value :: rest => do
    let text := (withFiniteNumbers value).compact
    match Json.parse text with
    | .ok document => return document :: (← documents (place + 1) rest)
    | .error fault => throw (.notADocument place text fault)

/-- The filter of a text whose names are all defined. -/
def ofText (text : String) : Except FilterError Filter :=
  match ofText? text with
  | none => .error .malformed
  | some filter =>
    match undefined? [] filter with
    | some name => .error (.undefined name)
    | none => .ok filter

/-- The documents that a filter text makes of a document. -/
def run (text : String) (document : Json) : Except FilterError (List Json) := do
  let filter ← ofText text
  match all (outputs [] document filter) with
  | .ok values => documents 0 values
  | .error failure => throw (.failed failure)

/-- The name of a function's operator in failure texts. -/
def Operator.symbol : Operator → String
  | .add => "+"
  | .subtract => "-"
  | .multiply => "*"
  | .divide => "/"
  | .remainder => "%"

/-- The text of a failure. -/
def Failure.message : Failure → String
  | notIndexable value key => "cannot index " ++ value.compact ++ " with " ++ key.compact
  | notIterable value => "cannot iterate over " ++ value.compact
  | notSliceable value lower upper =>
    "cannot slice " ++ value.compact ++ " from " ++ lower.compact ++ " to " ++ upper.compact
  | notOperable operator left right =>
    "cannot calculate " ++ left.compact ++ " " ++ operator.symbol ++ " " ++ right.compact
  | notApplicable value => "cannot use " ++ value.compact
  | notAKey value => "cannot use " ++ value.compact ++ " as object key"
  | raised value => value.compact
  | undefined name => "undefined variable $" ++ name

end Filter

/-- The text of a filter error. -/
def FilterError.message : FilterError → String
  | malformed => "parse error"
  | undefined name => "undefined `" ++ name ++ "`"
  | failed failure => "jq error: " ++ failure.message
  | notADocument place text fault =>
    "jq output #" ++ toString place ++ " is not JSON: " ++ text ++ ": " ++ fault.message

/-- The documents that a filter text makes of a document, or the text of the error. -/
def Filter.interpret (text : String) (document : Json) : Except String (List Json) :=
  (run text document).mapError FilterError.message

end Hydration
