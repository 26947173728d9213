import Hydration.Text.Casing

/-!
# Naming policies

A policy turns display texts into identifier candidates, one function per
style of name, and says how to go on when a candidate is taken. The functions
are arbitrary; the policies given here change the case of the words, keep
identifier characters only, never start with an ASCII digit and put an
underscore after a forbidden word.
-/

namespace Hydration

/-- The styles of names. -/
inductive NameStyle where
  /-- Names of types. -/
  | type
  /-- Names of properties. -/
  | property
  /-- Names of enum cases. -/
  | enumCase
  /-- Names of functions. -/
  | function
  deriving DecidableEq

/-- From a display text and the forbidden words to a candidate. -/
abbrev Styler := String → List String → String

/-- The display texts of derived names, computed from the final text of the
name they derive from. -/
structure DerivedTemplates where
  /-- The function that reads a property. -/
  getter : String → String
  /-- The function that writes a property. -/
  setter : String → String
  /-- The function that converts a property to JSON. -/
  hydrator : String → String
  /-- The function that converts a property from JSON. -/
  dehydrator : String → String
  /-- The function that converts a class to JSON. -/
  classHydrate : String → String
  /-- The function that converts a class from JSON. -/
  classDehydrate : String → String

/-- The usual templates. -/
def DerivedTemplates.standard : DerivedTemplates where
  getter name := "get_" ++ name
  setter name := "set_" ++ name
  hydrator name := "hydrate_" ++ name
  dehydrator name := "dehydrate_" ++ name
  classHydrate name := name ++ "_to_json"
  classDehydrate name := name ++ "_from_json"

/-- How names are styled and kept apart. -/
structure NamingPolicy where
  /-- Candidates of type names. -/
  typeNames : Styler
  /-- Candidates of property names. -/
  propertyNames : Styler
  /-- Candidates of enum cases. -/
  enumCases : Styler
  /-- Candidates of function names. -/
  functions : Styler
  /-- The alternative to a taken candidate at an attempt, counted from one. -/
  disambiguate : String → Nat → String
  /-- The number of texts that are tried for a name. -/
  maxAttempts : Nat
  /-- The words forbidden everywhere. -/
  reserved : List String
  /-- The words forbidden for properties. -/
  propertyReserved : List String
  /-- The display texts of derived names. -/
  templates : DerivedTemplates

namespace NamingPolicy

/-- The candidate of a display text in a style. -/
def style (policy : NamingPolicy) : NameStyle → Styler
  | .type => policy.typeNames
  | .property => policy.propertyNames
  | .enumCase => policy.enumCases
  | .function => policy.functions

/-- The candidate followed by the number of the attempt among all texts. -/
def numericSuffix (candidate : String) (attempt : Nat) : String :=
  candidate ++ toString (attempt + 1)

/-- The usual number of attempts. -/
def defaultMaxAttempts : Nat := 1000

/-- The identifier characters of a text; a text without any, or one that
starts with an ASCII digit, gets the mark in front. -/
def legalize (mark : String) (styled : String) : String :=
  match styled.toList.filter fun c => Text.isAlphanumeric c || c == '_' with
  | [] => mark ++ "empty"
  | c :: rest =>
    if c.isDigit then mark ++ String.ofList (c :: rest) else String.ofList (c :: rest)

/-- A candidate that is no forbidden word, unless the word with an underscore
is forbidden too. -/
def escapeKeyword (candidate : String) (forbidden : List String) : String :=
  if candidate ∈ forbidden then candidate ++ "_" else candidate

/-- A styler from a change of case and the mark for illegal starts. -/
def styler (casing : String → String) (mark : String) : Styler := fun display forbidden =>
  escapeKeyword (legalize mark (casing display)) forbidden

/-- No styling; names are only kept apart. -/
def verbatim : NamingPolicy where
  typeNames := fun display _ => display
  propertyNames := fun display _ => display
  enumCases := fun display _ => display
  functions := fun display _ => display
  disambiguate := numericSuffix
  maxAttempts := defaultMaxAttempts
  reserved := []
  propertyReserved := []
  templates := .standard

/-- The words that the Rust target reserves. -/
def rustReserved : List String :=
  ["as", "async", "await", "break", "const", "continue", "crate", "dyn", "else", "enum", "extern",
    "false", "fn", "for", "if", "impl", "in", "let", "loop", "match", "mod", "move", "mut", "pub",
    "ref", "return", "self", "Self", "static", "struct", "super", "trait", "true", "type",
    "unsafe", "use", "where", "while", "abstract", "become", "box", "do", "final", "macro",
    "override", "priv", "typeof", "unsized", "virtual", "yield", "try", "Option", "Some", "None",
    "Result", "Ok", "Err", "String", "Vec", "Box", "HashMap"]

/-- The words that the TypeScript target reserves. -/
def typescriptReserved : List String :=
  ["break", "case", "catch", "class", "const", "continue", "debugger", "default", "delete", "do",
    "else", "enum", "export", "extends", "false", "finally", "for", "function", "if", "import",
    "in", "instanceof", "new", "null", "return", "super", "switch", "this", "throw", "true", "try",
    "typeof", "var", "void", "while", "with", "as", "implements", "interface", "let", "package",
    "private", "protected", "public", "static", "yield", "any", "boolean", "number", "string",
    "symbol", "type", "from", "of", "Object", "Array", "Date", "JSON", "Map"]

/-- Types in upper camel case, everything else in snake case. -/
def rust : NamingPolicy where
  typeNames := styler Text.Casing.upperCamel "T"
  propertyNames := styler Text.Casing.snake "_"
  enumCases := styler Text.Casing.upperCamel "T"
  functions := styler Text.Casing.snake "_"
  disambiguate := numericSuffix
  maxAttempts := defaultMaxAttempts
  reserved := rustReserved
  propertyReserved := []
  templates := .standard

/-- Types in upper camel case, everything else in lower camel case. -/
def typescript : NamingPolicy where
  typeNames := styler Text.Casing.upperCamel "T"
  propertyNames := styler Text.Casing.lowerCamel "_"
  enumCases := styler Text.Casing.upperCamel "T"
  functions := styler Text.Casing.lowerCamel "_"
  disambiguate := numericSuffix
  maxAttempts := defaultMaxAttempts
  reserved := typescriptReserved
  propertyReserved := ["constructor", "prototype", "toJSON"]
  templates := .standard

end NamingPolicy

end Hydration
