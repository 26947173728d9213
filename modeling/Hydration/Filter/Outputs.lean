import Hydration.Filter.Arithmetic

/-!
# Outputs of filters

What a filter yields on a value: outputs and failures in order. A failure
takes the place of an output and does not stop the ones after it; where all
outputs are needed, the first failure is the answer. Of two operands the first
one varies slowest.
-/

namespace Hydration.Filter

/-- The answers of `next` on every output, with the failures in place. -/
def onEach (outcomes : List Outcome) (next : Json → List Outcome) : List Outcome :=
  outcomes.flatMap fun
    | .ok value => next value
    | .error failure => [.error failure]

/-- All outputs, or the first failure. -/
def all (outcomes : List Outcome) : Except Failure (List Json) := outcomes.mapM id

/-- An outcome as the only one. -/
def only (outcome : Outcome) : List Outcome := [outcome]

/-- The value of a function that may not be defined on a value. -/
def definedOn (value : Json) : Option Json → List Outcome
  | some result => [.ok result]
  | none => [.error (.notApplicable value)]

/-- The values of a function that may not be defined on a value, each an output. -/
def eachDefinedOn (value : Json) : Option (List Json) → List Outcome
  | some results => results.map .ok
  | none => [.error (.notIterable value)]

/-- Outcomes without the failures, if they are not wanted. -/
def tolerate (lenient : Bool) (outcomes : List Outcome) : List Outcome :=
  if lenient then outcomes.filter fun outcome => outcome.isOk else outcomes

/-- The least of some values; of equal ones the first. -/
def least : List Json → Json
  | [] => .null
  | value :: rest => rest.foldl (fun best v => if order v best == .lt then v else best) value

/-- The greatest of some values; of equal ones the last. -/
def greatest : List Json → Json
  | [] => .null
  | value :: rest => rest.foldl (fun best v => if order v best == .lt then best else v) value

/-- Adjacent equal values once. -/
def dropRepeats : List Json → List Json
  | [] => []
  | value :: rest =>
    match dropRepeats rest with
    | [] => [value]
    | next :: more => if equal value next then value :: more else value :: next :: more

/-- What a named function yields. -/
def Function.outputs (function : Function) (input : Json) : List Outcome :=
  match function with
  | .empty => []
  | .error => [.error (.raised input)]
  | .not => [.ok (.bool (!isTruthy input))]
  | .length => definedOn input (length? input)
  | .keys => definedOn input ((keys? input).map .array)
  | .values => if input.isNull then [] else [.ok input]
  | .sort => definedOn input ((items? input).map fun items => .array (items.mergeSort notAbove))
  | .unique =>
    definedOn input
      ((items? input).map fun items => .array (dropRepeats (items.mergeSort notAbove)))
  | .add =>
    match elements? input with
    | some items => [total items]
    | none => [.error (.notIterable input)]
  | .reverse => definedOn input ((items? input).map fun items => .array items.reverse)
  | .type => [.ok (.string (typeName input))]
  | .first => [Filter.select input (natural 0)]
  | .last => [Filter.select input (.number (.ofInt64 (-1)))]
  | .min => definedOn input ((items? input).map least)
  | .max => definedOn input ((items? input).map greatest)
  | .any => definedOn input ((elements? input).map fun items => .bool (items.any isTruthy))
  | .all => definedOn input ((elements? input).map fun items => .bool (items.all isTruthy))
  | .toEntries => definedOn input ((entries? input).map .array)
  | .recurse => (descendants input).map .ok

/-- Elements with their keys in the order of the keys. -/
def sortKeyed (keyed : List (Json × Json)) : List Json :=
  (keyed.mergeSort fun a b => notAbove a.1 b.1).map Prod.snd

/-- What a named function yields with a filter, given by its outputs. -/
def Combinator.outputs (combinator : Combinator) (filter : Json → List Outcome) (input : Json) :
    List Outcome :=
  match combinator with
  | .map => [(all (onEach (eachDefinedOn input (elements? input)) filter)).map .array]
  | .select => onEach (filter input) fun keep => if isTruthy keep then [.ok input] else []
  | .error => onEach (filter input) fun reason => [.error (.raised reason)]
  | .sortBy =>
    match items? input with
    | none => [.error (.notApplicable input)]
    | some items => only do
      let keyed ← items.mapM fun item => do return (Json.array (← all (filter item)), item)
      return .array (sortKeyed keyed)
  | .add => only (all (filter input) >>= total)
  | .has => onEach (filter input) fun key => [hasKey input key]
  | .first => (filter input).take 1
  | .last =>
    match all (filter input) with
    | .ok values => values.getLast?.toList.map .ok
    | .error failure => [.error failure]

/-- The variables of a destructured value, before the others. -/
def bindAll (value : Json) (scope : List (String × Json)) :
    List Binding → Except Failure (List (String × Json))
  | [] => .ok scope
  | binding :: rest => do
    let part ← binding.path.foldlM select value
    bindAll value ((binding.name, part) :: scope) rest

/-- An object with one more member. -/
def addMember (object key value : Json) : Outcome :=
  match object, key with
  | .object members, .string k => .ok (.object (Entries.insert k value members))
  | _, key => .error (.notAKey key)

/-- What a filter yields on an input, with the values of the bound variables. -/
def outputs (scope : List (String × Json)) (input : Json) : Filter → List Outcome
  | identity => [.ok input]
  | constant value => [.ok value]
  | reference name =>
    match Entries.get? name scope with
    | some value => [.ok value]
    | none => [.error (.undefined name)]
  | collect content => [(all (outputs scope input content)).map .array]
  | withMember object key value =>
    onEach (outputs scope input object) fun o =>
      onEach (outputs scope input key) fun k =>
        onEach (outputs scope input value) fun v => [addMember o k v]
  | negate operand => onEach (outputs scope input operand) fun v => [negative v]
  | pipe first second =>
    onEach (outputs scope input first) fun v => outputs scope v second
  | bind source bindings body =>
    onEach (outputs scope input source) fun v =>
      match bindAll v scope bindings with
      | .ok extended => outputs extended input body
      | .error failure => [.error failure]
  | append first second => outputs scope input first ++ outputs scope input second
  | otherwise preferred fallback =>
    let kept := (outputs scope input preferred).filter fun
      | .ok value => isTruthy value
      | .error _ => true
    if kept.isEmpty then outputs scope input fallback else kept
  | connective decisive first second =>
    onEach (outputs scope input first) fun a =>
      if isTruthy a == decisive then [.ok (.bool decisive)]
      else onEach (outputs scope input second) fun b => [.ok (.bool (isTruthy b))]
  | arithmetic operator left right =>
    onEach (outputs scope input left) fun a =>
      onEach (outputs scope input right) fun b => [operate operator a b]
  | compare comparison left right =>
    onEach (outputs scope input left) fun a =>
      onEach (outputs scope input right) fun b => [.ok (.bool (comparison.holds a b))]
  | conditional condition whenTrue whenFalse =>
    onEach (outputs scope input condition) fun c =>
      if isTruthy c then outputs scope input whenTrue else outputs scope input whenFalse
  | attempt body => tolerate true (outputs scope input body)
  | index target key lenient =>
    onEach (outputs scope input target) fun v =>
      onEach (outputs scope input key) fun k => tolerate lenient [select v k]
  | iterate target lenient =>
    onEach (outputs scope input target) fun v =>
      tolerate lenient (eachDefinedOn v (elements? v))
  | slice target lower upper lenient =>
    onEach (outputs scope input target) fun v =>
      onEach (outputs scope input lower) fun a =>
        onEach (outputs scope input upper) fun b => tolerate lenient [slicePart v a b]
  | apply function => function.outputs input
  | applyTo combinator argument =>
    combinator.outputs (fun value => outputs scope value argument) input
  | unknown name => [.error (.undefined name)]

end Hydration.Filter
