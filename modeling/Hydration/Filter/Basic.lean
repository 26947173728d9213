import Hydration.Json.Basic

/-!
# Filters

A filter turns one JSON value into a sequence of values. These are the plain
filters: paths, construction of arrays and objects, arithmetic, comparison,
conditions, variables and a fixed table of named functions. Definitions and
loops are left to fuller interpreters, so that every filter has an answer on
every value. A name that the table lacks and a variable that is not bound stay
visible in the filter, and `Filter.undefined?` finds the first of them.
-/

namespace Hydration

namespace Filter

/-- An operator on two values that has a value. -/
inductive Operator where
  /-- Addition, concatenation and joining of objects. -/
  | add
  /-- Subtraction and removal of elements. -/
  | subtract
  /-- Multiplication, repetition and deep joining of objects. -/
  | multiply
  /-- Division and splitting. -/
  | divide
  /-- The remainder of a division. -/
  | remainder
  deriving DecidableEq

/-- A comparison of two values. -/
inductive Comparison where
  /-- Equal. -/
  | equal
  /-- Not equal. -/
  | unequal
  /-- Less. -/
  | less
  /-- Less or equal. -/
  | atMost
  /-- Greater. -/
  | greater
  /-- Greater or equal. -/
  | atLeast
  deriving DecidableEq

/-- A named function of the input alone. -/
inductive Function where
  /-- No output. -/
  | empty
  /-- Failure with the input as its reason. -/
  | error
  /-- Whether the input is null or false. -/
  | not
  /-- The number of characters, elements or members, or the magnitude. -/
  | length
  /-- The sorted keys of an object, or the indexes of an array. -/
  | keys
  /-- The input unless it is null. -/
  | values
  /-- The elements in order. -/
  | sort
  /-- The elements in order, equal ones once. -/
  | unique
  /-- The elements added up. -/
  | add
  /-- The elements from last to first. -/
  | reverse
  /-- The name of the input's kind. -/
  | type
  /-- The first element. -/
  | first
  /-- The last element. -/
  | last
  /-- The least element. -/
  | min
  /-- The greatest element. -/
  | max
  /-- Whether an element is neither null nor false. -/
  | any
  /-- Whether no element is null or false. -/
  | all
  /-- The members of an object as objects with a key and a value. -/
  | toEntries
  /-- The input and everything inside it. -/
  | recurse
  deriving DecidableEq

/-- The function with a name. -/
def Function.ofName? : String → Option Function
  | "empty" => some empty
  | "error" => some error
  | "not" => some not
  | "length" => some length
  | "keys" => some keys
  | "values" => some values
  | "sort" => some sort
  | "unique" => some unique
  | "add" => some add
  | "reverse" => some reverse
  | "type" => some type
  | "first" => some first
  | "last" => some last
  | "min" => some min
  | "max" => some max
  | "any" => some any
  | "all" => some all
  | "to_entries" => some toEntries
  | "recurse" => some recurse
  | _ => none

/-- A named function that takes a filter. -/
inductive Combinator where
  /-- Apply to every element. -/
  | map
  /-- Keep the input for every output that is neither null nor false. -/
  | select
  /-- Failure with an output as its reason. -/
  | error
  /-- The elements in the order of their outputs. -/
  | sortBy
  /-- The outputs added up. -/
  | add
  /-- Whether the input has an output as its key or index. -/
  | has
  /-- The first output. -/
  | first
  /-- The last output. -/
  | last
  deriving DecidableEq

/-- The combinator with a name. -/
def Combinator.ofName? : String → Option Combinator
  | "map" => some map
  | "select" => some select
  | "error" => some error
  | "sort_by" => some sortBy
  | "add" => some add
  | "has" => some has
  | "first" => some first
  | "last" => some last
  | _ => none

/-- A variable that is bound to the part of a value at the end of a path of
keys and indexes. -/
structure Binding where
  /-- The variable. -/
  name : String
  /-- The keys and indexes from the value to the part. -/
  path : List Json

end Filter

/-- A filter. -/
inductive Filter where
  /-- The input. -/
  | identity
  /-- The same value whatever the input. -/
  | constant (value : Json)
  /-- The value of a variable. -/
  | reference (name : String)
  /-- The array of all outputs. -/
  | collect (content : Filter)
  /-- An object with one more member. -/
  | withMember (object key value : Filter)
  /-- The negative of a number. -/
  | negate (operand : Filter)
  /-- The second filter on every output of the first. -/
  | pipe (first second : Filter)
  /-- The body with variables bound by every output of the source. -/
  | bind (source : Filter) (bindings : List Filter.Binding) (body : Filter)
  /-- The outputs of both filters. -/
  | append (first second : Filter)
  /-- The outputs that are neither null nor false, or else the fallback's. -/
  | otherwise (preferred fallback : Filter)
  /-- A truth value that the first operand decides when it is `decisive`. -/
  | connective (decisive : Bool) (first second : Filter)
  /-- An operator on every two outputs. -/
  | arithmetic (operator : Filter.Operator) (left right : Filter)
  /-- A comparison of every two outputs. -/
  | compare (comparison : Filter.Comparison) (left right : Filter)
  /-- One of two filters for every output of a condition. -/
  | conditional (condition whenTrue whenFalse : Filter)
  /-- The outputs without the failures. -/
  | attempt (body : Filter)
  /-- The member or element of a target; a lenient access has no failure. -/
  | index (target key : Filter) (lenient : Bool)
  /-- The elements or member values of a target. -/
  | iterate (target : Filter) (lenient : Bool)
  /-- The part of a target between two positions; null leaves an end open. -/
  | slice (target lower upper : Filter) (lenient : Bool)
  /-- A named function. -/
  | apply (function : Filter.Function)
  /-- A named function with a filter. -/
  | applyTo (combinator : Filter.Combinator) (argument : Filter)
  /-- A function that the table does not have. -/
  | unknown (name : String)

namespace Filter

/-- The first name that is not defined: an unknown function, or a variable
that is not among the bound ones. -/
def undefined? (bound : List String) : Filter → Option String
  | identity | constant _ | apply _ => none
  | reference name => if name ∈ bound then none else some ("$" ++ name)
  | collect f | negate f | attempt f | iterate f _ | applyTo _ f => undefined? bound f
  | withMember f g h | conditional f g h | slice f g h _ =>
    (undefined? bound f).or ((undefined? bound g).or (undefined? bound h))
  | pipe f g | append f g | otherwise f g | connective _ f g | arithmetic _ f g
  | compare _ f g | index f g _ => (undefined? bound f).or (undefined? bound g)
  | bind source bindings body =>
    (undefined? bound source).or (undefined? (bindings.map Binding.name ++ bound) body)
  | unknown name => some name

end Filter

end Hydration
