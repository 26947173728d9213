import Hydration.Naming.Policy

/-!
# Name registries

Names live in scopes. The forbidden words of a scope and the names already
assigned in it hold for the scope and for every scope nested in it. A name is
primary, with a display text of its own, or derived from the final text of
another name. Names are resolved one after the other, bases before the names
derived from them and otherwise in the order of registration; each takes the
first of its candidate and the alternatives that is free.
-/

namespace Hydration

/-- The position of a name in its registry. -/
structure NameId where
  /-- The position, counted from zero. -/
  index : Nat
  deriving DecidableEq

/-- The position of a scope in its registry. -/
structure ScopeId where
  /-- The position, counted from zero. -/
  index : Nat
  deriving DecidableEq

/-- A region of names. -/
structure Scope where
  /-- What the scope is called in errors. -/
  label : String
  /-- The enclosing scope. -/
  parent : Option ScopeId
  /-- The words that no name in the scope may have. -/
  forbidden : List String
  deriving DecidableEq

/-- Where the display text of a name comes from. -/
inductive NameSource where
  /-- It is given. -/
  | primary (display : String)
  /-- It is computed from the final text of another name. -/
  | derived (base : NameId) (derive : String → String)

/-- A registered name. -/
structure NameEntry where
  /-- The scope of the name. -/
  scope : ScopeId
  /-- The style of the name. -/
  style : NameStyle
  /-- Where its display text comes from. -/
  source : NameSource

/-- Scopes and names in the order of their registration. -/
structure NameRegistry where
  /-- The scopes; the first is the global one. -/
  scopes : List Scope
  /-- The names. -/
  names : List NameEntry

/-- Why names were not resolved. -/
inductive NamingError where
  /-- Every text that was tried for a name is forbidden or taken. -/
  | unresolvableName (candidate scope : String) (attempts : Nat)
  deriving DecidableEq

/-- The text of a naming error. -/
def NamingError.message : NamingError → String
  | unresolvableName candidate scope attempts =>
    "no unique name for `" ++ candidate ++ "` in scope `" ++ scope ++ "` after "
      ++ toString attempts ++ " attempts"

/-- A name with its final text. -/
structure AssignedName where
  /-- The name. -/
  name : NameId
  /-- Its scope. -/
  scope : ScopeId
  /-- Its final text. -/
  text : String
  deriving DecidableEq

namespace NameRegistry

/-- The registry with the global scope alone. -/
def empty : NameRegistry := ⟨[⟨"global", none, []⟩], []⟩

/-- The global scope. -/
def global : ScopeId := ⟨0⟩

/-- The number of names. -/
def size (registry : NameRegistry) : Nat := registry.names.length

/-- Whether there are no names. -/
def isEmpty (registry : NameRegistry) : Bool := registry.names.isEmpty

/-- Add a scope inside another. -/
def addScope (registry : NameRegistry) (parent : ScopeId) (label : String)
    (forbidden : List String) : ScopeId × NameRegistry :=
  (⟨registry.scopes.length⟩,
    { registry with scopes := registry.scopes ++ [⟨label, some parent, forbidden⟩] })

/-- Forbid words in a scope. -/
def forbid (registry : NameRegistry) (scope : ScopeId) (words : List String) : NameRegistry :=
  { registry with
    scopes := registry.scopes.modify scope.index fun s =>
      { s with forbidden := s.forbidden ++ words } }

/-- Add a name. -/
def register (registry : NameRegistry) (entry : NameEntry) : NameId × NameRegistry :=
  (⟨registry.names.length⟩, { registry with names := registry.names ++ [entry] })

/-- Add a name with a display text. -/
def registerPrimary (registry : NameRegistry) (scope : ScopeId) (style : NameStyle)
    (display : String) : NameId × NameRegistry :=
  registry.register ⟨scope, style, .primary display⟩

/-- Add a name that derives from another, in a scope of its own. -/
def registerDerivedIn (registry : NameRegistry) (scope : ScopeId) (base : NameId)
    (style : NameStyle) (derive : String → String) : NameId × NameRegistry :=
  registry.register ⟨scope, style, .derived base derive⟩

/-- The scope of a name. -/
def scopeOf (registry : NameRegistry) (name : NameId) : ScopeId :=
  match registry.names[name.index]? with
  | some entry => entry.scope
  | none => global

/-- Add a name that derives from another, in the same scope. -/
def registerDerived (registry : NameRegistry) (base : NameId) (style : NameStyle)
    (derive : String → String) : NameId × NameRegistry :=
  registry.registerDerivedIn (registry.scopeOf base) base style derive

/-- A scope and the scopes around it, innermost first, at most `bound` of them. -/
def chainWithin (registry : NameRegistry) : Nat → ScopeId → List ScopeId
  | 0, _ => []
  | bound + 1, scope =>
    match (registry.scopes[scope.index]?).bind Scope.parent with
    | some parent => scope :: chainWithin registry bound parent
    | none => [scope]

/-- A scope and the scopes around it, innermost first. -/
def chain (registry : NameRegistry) (scope : ScopeId) : List ScopeId :=
  registry.chainWithin registry.scopes.length scope

/-- The label of a scope. -/
def label (registry : NameRegistry) (scope : ScopeId) : String :=
  match registry.scopes[scope.index]? with
  | some s => s.label
  | none => ""

/-- The words forbidden in one of several scopes. -/
def forbiddenIn (registry : NameRegistry) (scopes : List ScopeId) : List String :=
  scopes.flatMap fun scope =>
    match registry.scopes[scope.index]? with
    | some s => s.forbidden
    | none => []

/-- The positions of the names for which a test of their source holds. -/
def namesWith (registry : NameRegistry) (test : NameSource → Bool) : List Nat :=
  (registry.names.zipIdx.filter fun entry => test entry.1.source).map Prod.snd

/-- A position is among them exactly when its name passes the test. -/
theorem mem_namesWith {registry : NameRegistry} {test : NameSource → Bool} {index : Nat} :
    index ∈ registry.namesWith test
      ↔ ∃ entry, registry.names[index]? = some entry ∧ test entry.source = true := by
  simp [namesWith, List.mem_zipIdx_iff_getElem?]

/-- Whether a name is primary. -/
def isPrimary : NameSource → Bool
  | .primary _ => true
  | .derived _ _ => false

/-- Whether a name derives from the one at a position. -/
def derivesFrom (index : Nat) : NameSource → Bool
  | .primary _ => false
  | .derived base _ => base.index == index

/-- Insert a position into a sorted list of positions. -/
def insertSorted (index : Nat) : List Nat → List Nat
  | [] => [index]
  | first :: rest =>
    if index < first then index :: first :: rest
    else if index = first then first :: rest
    else first :: insertSorted index rest

/-- Take the least ready position, make the names derived from it ready, and
go on, at most `bound` times. -/
def drain (registry : NameRegistry) : Nat → List Nat → List NameId
  | 0, _ => []
  | _ + 1, [] => []
  | bound + 1, next :: ready =>
    ⟨next⟩ :: drain registry bound
      ((registry.namesWith (derivesFrom next)).foldl (fun ready i => insertSorted i ready) ready)

/-- The order of resolution: bases before the names derived from them, and of
the names that are ready the one registered first. -/
def resolutionOrder (registry : NameRegistry) : List NameId :=
  registry.drain registry.size (registry.namesWith isPrimary)

/-- The final text of a name, empty if it has none yet. -/
def textOf (assigned : List AssignedName) (name : NameId) : String :=
  match assigned.find? fun other => other.name == name with
  | some other => other.text
  | none => ""

/-- The display text of a name, given the final texts of earlier ones. -/
def displayText (assigned : List AssignedName) : NameSource → String
  | .primary display => display
  | .derived base derive => derive (textOf assigned base)

/-- The final texts of the names in one of several scopes. -/
def takenIn (scopes : List ScopeId) (assigned : List AssignedName) : List String :=
  (assigned.filter fun other => decide (other.scope ∈ scopes)).map AssignedName.text

/-- Whether a text is neither taken nor forbidden. -/
def isFree (forbidden taken : List String) (text : String) : Bool :=
  !taken.contains text && !forbidden.contains text

/-- A text is free exactly when it is neither taken nor forbidden. -/
@[simp] theorem isFree_iff {forbidden taken : List String} {text : String} :
    isFree forbidden taken text = true ↔ text ∉ taken ∧ text ∉ forbidden := by
  simp [isFree]

/-- A text is taken exactly when a name in one of the scopes has it. -/
theorem mem_takenIn {scopes : List ScopeId} {assigned : List AssignedName} {text : String} :
    text ∈ takenIn scopes assigned
      ↔ ∃ other ∈ assigned, other.scope ∈ scopes ∧ other.text = text := by
  simp [takenIn, and_assoc]

/-- The first free text among the candidate and its alternatives from an
attempt on. -/
def firstFree (disambiguate : String → Nat → String) (free : String → Bool)
    (candidate : String) : Nat → Nat → Option String
  | 0, _ => none
  | remaining + 1, attempt =>
    let text := if attempt = 0 then candidate else disambiguate candidate attempt
    if free text then some text
    else firstFree disambiguate free candidate remaining (attempt + 1)

/-- Give one name its final text. -/
def assign (registry : NameRegistry) (policy : NamingPolicy) (assigned : List AssignedName)
    (name : NameId) (entry : NameEntry) : Except NamingError AssignedName :=
  let scopes := registry.chain entry.scope
  let forbidden := registry.forbiddenIn scopes
  let candidate := policy.style entry.style (displayText assigned entry.source) forbidden
  match firstFree policy.disambiguate (isFree forbidden (takenIn scopes assigned)) candidate
      policy.maxAttempts 0 with
  | some text => .ok ⟨name, entry.scope, text⟩
  | none =>
    .error (.unresolvableName candidate (registry.label entry.scope) policy.maxAttempts)

/-- Give names their final texts one after the other. -/
def assignAll (registry : NameRegistry) (policy : NamingPolicy) :
    List NameId → List AssignedName → Except NamingError (List AssignedName)
  | [], assigned => .ok assigned
  | name :: rest, assigned =>
    match registry.names[name.index]? with
    | none => assignAll registry policy rest assigned
    | some entry => do
      let next ← registry.assign policy assigned name entry
      assignAll registry policy rest (assigned ++ [next])

/-- The final text of every name, in the order of registration. -/
def resolve (registry : NameRegistry) (policy : NamingPolicy) :
    Except NamingError (List String) := do
  let assigned ← registry.assignAll policy registry.resolutionOrder []
  return (List.range registry.size).map fun index => textOf assigned ⟨index⟩

end NameRegistry

end Hydration
