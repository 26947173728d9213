import Hydration.Filter.Basic
import Hydration.Filter.Token

/-!
# Reading filters

The grammar of filters on tokens. Operators bind in seven levels: the pipe
binds least and to the right, then come the comma, the alternative, `or`,
`and`, the comparisons, the sums and the products. Every reading function
takes a bound on its depth, and the number of tokens bounds the depth of
every text, so that `Filter.ofTokens?` never runs out.
-/

namespace Hydration.Filter

/-- What an operator between two filters makes of them. -/
structure Infix where
  /-- How tightly it binds. -/
  level : Nat
  /-- Whether it groups to the right. -/
  toTheRight : Bool
  /-- The filter that it makes. -/
  build : Filter → Filter → Filter

/-- The operator that a token is. -/
def Infix.ofToken? : Token → Option Infix
  | .mark "|" => some ⟨0, true, pipe⟩
  | .mark "," => some ⟨1, false, append⟩
  | .mark "//" => some ⟨2, true, otherwise⟩
  | .name "or" => some ⟨3, false, connective true⟩
  | .name "and" => some ⟨4, false, connective false⟩
  | .mark "==" => some ⟨5, false, Filter.compare .equal⟩
  | .mark "!=" => some ⟨5, false, Filter.compare .unequal⟩
  | .mark "<" => some ⟨5, false, Filter.compare .less⟩
  | .mark "<=" => some ⟨5, false, Filter.compare .atMost⟩
  | .mark ">" => some ⟨5, false, Filter.compare .greater⟩
  | .mark ">=" => some ⟨5, false, Filter.compare .atLeast⟩
  | .mark "+" => some ⟨6, false, arithmetic .add⟩
  | .mark "-" => some ⟨6, false, arithmetic .subtract⟩
  | .mark "*" => some ⟨7, false, arithmetic .multiply⟩
  | .mark "/" => some ⟨7, false, arithmetic .divide⟩
  | .mark "%" => some ⟨7, false, arithmetic .remainder⟩
  | _ => none

/-- The level of operators that may stand in a member of an object: all but
the comma. -/
def memberLevel : Nat := 2

/-- The tokens after an expected one. -/
def expect? (token : Token) : List Token → Option (List Token)
  | first :: rest => if first = token then some rest else none
  | [] => none

/-- Whether a question mark follows, with the tokens after all of them. -/
def lenience : List Token → Bool × List Token
  | .mark "?" :: rest => (true, (lenience rest).2)
  | tokens => (false, tokens)

/-- The keywords, which are no names of functions. -/
def keywords : List String :=
  ["if", "then", "elif", "else", "end", "as", "and", "or", "def", "reduce", "foreach", "try",
    "catch", "label", "import", "include"]

/-- A filter for a name without arguments. -/
def named (name : String) : Filter :=
  match name with
  | "null" => constant .null
  | "true" => constant (.bool true)
  | "false" => constant (.bool false)
  | name =>
    match Function.ofName? name with
    | some function => apply function
    | none => unknown name

/-- A filter for a name with arguments. -/
def namedWith (name : String) (arguments : List Filter) : Filter :=
  match Combinator.ofName? name, arguments with
  | some combinator, [argument] => applyTo combinator argument
  | _, _ => unknown name

/-- The key at the start of a pattern's member. -/
def patternKey? : Token → Option String
  | .name key => some key
  | .text key => some key
  | _ => none

mutual

/-- A pattern for a value at a path. -/
def pattern? (path : List Json) : Nat → List Token → Option (List Binding × List Token)
  | 0, _ => none
  | bound + 1, tokens =>
    match tokens with
    | .variableName name :: rest => some ([⟨name, path⟩], rest)
    | .mark "[" :: rest => patternItems? path 0 bound rest
    | .mark "\x7b" :: rest => patternMembers? path bound rest
    | _ => none

/-- The patterns of elements from a position on. -/
def patternItems? (path : List Json) (place : Nat) :
    Nat → List Token → Option (List Binding × List Token)
  | 0, _ => none
  | bound + 1, tokens => do
    let (bindings, rest) ← pattern? (path ++ [.number (.ofNat place)]) bound tokens
    match rest with
    | .mark "," :: rest =>
      let (more, rest) ← patternItems? path (place + 1) bound rest
      return (bindings ++ more, rest)
    | .mark "]" :: rest => return (bindings, rest)
    | _ => none

/-- The patterns of members. -/
def patternMembers? (path : List Json) : Nat → List Token → Option (List Binding × List Token)
  | 0, _ => none
  | bound + 1, tokens => do
    let (bindings, rest) ← match tokens with
      | .variableName name :: rest =>
        some ([(⟨name, path ++ [.string name]⟩ : Binding)], rest)
      | key :: .mark ":" :: rest => do
        pattern? (path ++ [.string (← patternKey? key)]) bound rest
      | _ => none
    match rest with
    | .mark "," :: rest =>
      let (more, rest) ← patternMembers? path bound rest
      return (bindings ++ more, rest)
    | .mark "\x7d" :: rest => return (bindings, rest)
    | _ => none

end

mutual

/-- A filter of operators that bind at least as tightly as a level. -/
def filter? (level : Nat) : Nat → List Token → Option (Filter × List Token)
  | 0, _ => none
  | bound + 1, tokens => do
    let (first, rest) ← operand? bound tokens
    operations? level first bound rest

/-- The operators and operands after a first operand. -/
def operations? (level : Nat) (left : Filter) : Nat → List Token → Option (Filter × List Token)
  | 0, _ => none
  | bound + 1, tokens =>
    match tokens with
    | [] => some (left, [])
    | token :: rest =>
      match Infix.ofToken? token with
      | none => some (left, tokens)
      | some op =>
        if op.level < level then some (left, tokens)
        else do
          let inner := if op.toTheRight then op.level else op.level + 1
          let (right, rest) ← filter? inner bound rest
          operations? level (op.build left right) bound rest

/-- An operand: a term, its negative, or a binding with its body. -/
def operand? : Nat → List Token → Option (Filter × List Token)
  | 0, _ => none
  | bound + 1, tokens =>
    match tokens with
    | .mark "-" :: rest => do
      let (operand, rest) ← operand? bound rest
      return (negate operand, rest)
    | tokens => do
      let (head, rest) ← term? bound tokens
      let (term, rest) ← accesses? head bound rest
      match rest with
      | .name "as" :: rest =>
        let (bindings, rest) ← pattern? [] bound rest
        let rest ← expect? (.mark "|") rest
        let (body, rest) ← filter? 0 bound rest
        return (bind term bindings body, rest)
      | rest => return (term, rest)

/-- A term without the accesses after it. -/
def term? : Nat → List Token → Option (Filter × List Token)
  | 0, _ => none
  | bound + 1, tokens =>
    match tokens with
    | .field key :: rest =>
      let (lenient, rest) := lenience rest
      some (index identity (constant (.string key)) lenient, rest)
    | .mark "." :: .text key :: rest =>
      let (lenient, rest) := lenience rest
      some (index identity (constant (.string key)) lenient, rest)
    | .mark "." :: rest => some (identity, (lenience rest).2)
    | tokens => do
      let (head, rest) ← atom? bound tokens
      let (lenient, rest) := lenience rest
      return (if lenient then attempt head else head, rest)

/-- A term that is not a path from the input. -/
def atom? : Nat → List Token → Option (Filter × List Token)
  | 0, _ => none
  | bound + 1, tokens =>
    match tokens with
    | .mark ".." :: rest => some (apply .recurse, rest)
    | .number value :: rest => some (constant (.number value), rest)
    | .text content :: rest => some (constant (.string content), rest)
    | .variableName name :: rest => some (reference name, rest)
    | .mark "[" :: .mark "]" :: rest => some (constant (.array []), rest)
    | .mark "[" :: rest => do
      let (content, rest) ← filter? 0 bound rest
      return (collect content, ← expect? (.mark "]") rest)
    | .mark "\x7b" :: .mark "\x7d" :: rest => some (constant (.object []), rest)
    | .mark "\x7b" :: rest => members? (constant (.object [])) bound rest
    | .mark "(" :: rest => do
      let (content, rest) ← filter? 0 bound rest
      return (content, ← expect? (.mark ")") rest)
    | .name "if" :: rest => conditional? bound rest
    | .name name :: rest =>
      if name ∈ keywords then none
      else
        match rest with
        | .mark "(" :: rest => do
          let (arguments, rest) ← arguments? bound rest
          return (namedWith name arguments, rest)
        | rest => some (named name, rest)
    | _ => none

/-- The arguments up to the closing parenthesis. -/
def arguments? : Nat → List Token → Option (List Filter × List Token)
  | 0, _ => none
  | bound + 1, tokens => do
    let (argument, rest) ← filter? 0 bound tokens
    match rest with
    | .mark ";" :: rest =>
      let (more, rest) ← arguments? bound rest
      return (argument :: more, rest)
    | .mark ")" :: rest => return ([argument], rest)
    | _ => none

/-- A condition and its branches, after `if` or `elif`. -/
def conditional? : Nat → List Token → Option (Filter × List Token)
  | 0, _ => none
  | bound + 1, tokens => do
    let (condition, rest) ← filter? 0 bound tokens
    let rest ← expect? (.name "then") rest
    let (whenTrue, rest) ← filter? 0 bound rest
    match rest with
    | .name "end" :: rest => return (conditional condition whenTrue identity, rest)
    | .name "else" :: rest =>
      let (whenFalse, rest) ← filter? 0 bound rest
      return (conditional condition whenTrue whenFalse, ← expect? (.name "end") rest)
    | .name "elif" :: rest =>
      let (whenFalse, rest) ← conditional? bound rest
      return (conditional condition whenTrue whenFalse, rest)
    | _ => none

/-- The members up to the closing brace, added to an object. -/
def members? (object : Filter) : Nat → List Token → Option (Filter × List Token)
  | 0, _ => none
  | bound + 1, tokens => do
    let (object, rest) ← member? object bound tokens
    match rest with
    | .mark "," :: rest => members? object bound rest
    | .mark "\x7d" :: rest => return (object, rest)
    | _ => none

/-- One member: a variable, a key alone, or a key and a value. -/
def member? (object : Filter) : Nat → List Token → Option (Filter × List Token)
  | 0, _ => none
  | bound + 1, tokens =>
    match tokens with
    | .variableName name :: rest =>
      some (withMember object (constant (.string name)) (reference name), rest)
    | .mark "(" :: rest => do
      let (key, rest) ← filter? 0 bound rest
      let rest ← expect? (.mark ")") rest
      let rest ← expect? (.mark ":") rest
      let (value, rest) ← memberValue? bound rest
      return (withMember object key value, rest)
    | token :: rest => do
      let key := constant (.string (← patternKey? token))
      match rest with
      | .mark ":" :: rest =>
        let (value, rest) ← memberValue? bound rest
        return (withMember object key value, rest)
      | rest => return (withMember object key (index identity key false), rest)
    | [] => none

/-- The value of a member: operators but the comma, joined by pipes. -/
def memberValue? : Nat → List Token → Option (Filter × List Token)
  | 0, _ => none
  | bound + 1, tokens => do
    let (value, rest) ← filter? memberLevel bound tokens
    match rest with
    | .mark "|" :: rest =>
      let (next, rest) ← memberValue? bound rest
      return (pipe value next, rest)
    | rest => return (value, rest)

/-- The accesses after a term. -/
def accesses? (target : Filter) : Nat → List Token → Option (Filter × List Token)
  | 0, _ => none
  | bound + 1, tokens =>
    match tokens with
    | .field key :: rest =>
      let (lenient, rest) := lenience rest
      accesses? (index target (constant (.string key)) lenient) bound rest
    | .mark "." :: .text key :: rest =>
      let (lenient, rest) := lenience rest
      accesses? (index target (constant (.string key)) lenient) bound rest
    | .mark "." :: .mark "[" :: rest => bracket? target bound rest
    | .mark "[" :: rest => bracket? target bound rest
    | tokens => some (target, tokens)

/-- An access in brackets, after the opening one, and the accesses after it. -/
def bracket? (target : Filter) : Nat → List Token → Option (Filter × List Token)
  | 0, _ => none
  | bound + 1, tokens =>
    match tokens with
    | .mark "]" :: rest =>
      let (lenient, rest) := lenience rest
      accesses? (iterate target lenient) bound rest
    | .mark ":" :: rest => do
      let (upper, rest) ← filter? 0 bound rest
      let (lenient, rest) := lenience (← expect? (.mark "]") rest)
      accesses? (slice target (constant .null) upper lenient) bound rest
    | tokens => do
      let (lower, rest) ← filter? 0 bound tokens
      match rest with
      | .mark ":" :: .mark "]" :: rest =>
        let (lenient, rest) := lenience rest
        accesses? (slice target lower (constant .null) lenient) bound rest
      | .mark ":" :: rest =>
        let (upper, rest) ← filter? 0 bound rest
        let (lenient, rest) := lenience (← expect? (.mark "]") rest)
        accesses? (slice target lower upper lenient) bound rest
      | .mark "]" :: rest =>
        let (lenient, rest) := lenience rest
        accesses? (index target lower lenient) bound rest
      | _ => none

end

/-- The filter of a list of tokens, all of them. -/
def ofTokens? (tokens : List Token) : Option Filter :=
  match filter? 0 (8 * tokens.length + 8) tokens with
  | some (filter, []) => some filter
  | _ => none

/-- The filter of a text. -/
def ofText? (text : String) : Option Filter := (Token.ofChars? text.toList).bind ofTokens?

end Hydration.Filter
