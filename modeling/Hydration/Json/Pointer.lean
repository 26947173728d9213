import Hydration.Json.Basic

/-!
# JSON pointers

A pointer is empty or a sequence of reference tokens, each after a slash. In
a token `~1` stands for a slash and `~0` for a tilde. A token selects a member
by its key or an element by its index, which has no sign and no leading zero.
-/

namespace Hydration.Json.Pointer

/-- A token with its escapes replaced. -/
def unescape : List Char → List Char
  | '~' :: '1' :: rest => '/' :: unescape rest
  | '~' :: '0' :: rest => '~' :: unescape rest
  | c :: rest => c :: unescape rest
  | [] => []

/-- The reference tokens of a pointer. -/
def tokens? (pointer : String) : Option (List String) :=
  match pointer.toList with
  | [] => some []
  | '/' :: rest => some ((rest.splitOn '/').map fun token => String.ofList (unescape token))
  | _ => none

/-- The index that a token stands for. -/
def index? (token : String) : Option Nat :=
  let digits := token.toList
  if digits.isEmpty || !digits.all Char.isDigit then none
  else if digits.head? == some '0' && digits.length != 1 then none
  else some (Nat.ofDigitChars 10 digits 0)

/-- The value that a token selects. -/
def select? (value : Json) (token : String) : Option Json :=
  match value with
  | object members => Entries.get? token members
  | array items => (index? token).bind fun index => items[index]?
  | _ => none

/-- The value that a pointer selects. -/
def resolve? (pointer : String) (value : Json) : Option Json := do
  (← tokens? pointer).foldlM select? value

end Hydration.Json.Pointer
