import Hydration.Naming.Policy
import Hydration.Plan.Basic

/-!
# Targets

A target fixes the identifiers of generated code and what becomes of unions of
several members.
-/

namespace Hydration

/-- The language that generated code is written in. -/
inductive Target where
  /-- Rust, which has a codec for every union. -/
  | rust
  /-- TypeScript, which has no codecs. -/
  | typescript
  deriving DecidableEq

namespace Target

/-- The name of a target. -/
def name : Target → String
  | rust => "rust"
  | typescript => "typescript"

/-- The target with a name; TypeScript has a short name as well. -/
def ofName? : String → Option Target
  | "rust" => some rust
  | "typescript" => some typescript
  | "ts" => some typescript
  | _ => none

/-- A target is found by its name. -/
theorem ofName?_name (target : Target) : ofName? target.name = some target := by
  cases target <;> rfl

/-- The naming policy of a target. -/
def policy : Target → NamingPolicy
  | rust => .rust
  | typescript => .typescript

/-- What becomes of unions of several members. -/
def routing : Target → UnionRouting
  | rust => .codec
  | typescript => .reject

end Target

end Hydration
