import Hydration.Document.Basic
import Hydration.Proofs.TypeGraph.Sound

/-!
# Type expressions

What a document says with a type expression, read from the expression alone: the names in
it with the paths to them, its parts, and what is left of it when repeated references to
one named type inside a union count once. `ReadsAs` reads an expression back from types.
-/

namespace Hydration

/-- A step from an expression into one of its parts. -/
inductive ExprStep where
  /-- To the elements of an array. -/
  | items
  /-- To the values of a map. -/
  | values
  /-- To a member of a union. -/
  | member (index : Nat)
  deriving DecidableEq

/-- The text of a step in a location. -/
def ExprStep.text : ExprStep → String
  | items => "[]"
  | values => "\x7b\x7d"
  | member index => "|" ++ toString index

/-- The text of a path in a location. -/
def ExprStep.pathText : List ExprStep → String
  | [] => ""
  | step :: rest => step.text ++ pathText rest

namespace TypeExpr

/-- What holds of an expression whenever it holds of its immediate parts holds of every
expression. -/
@[elab_as_elim]
theorem induct {motive : TypeExpr → Prop} (ref : ∀ name, motive (.name name))
    (array : ∀ items, motive items → motive (.array items))
    (map : ∀ values, motive values → motive (.map values))
    (union : ∀ members, (∀ member ∈ members, motive member) → motive (.union members))
    (transformed : ∀ kind, motive (.transformed kind)) (expr : TypeExpr) : motive expr :=
  match expr with
  | .name text => ref text
  | .array items => array items (induct ref array map union transformed items)
  | .map values => map values (induct ref array map union transformed values)
  | .union members =>
    union members fun member _hm => induct ref array map union transformed member
  | .transformed kind => transformed kind
termination_by sizeOf expr
decreasing_by
  all_goals simp_wf
  have hlt := List.sizeOf_lt_of_mem _hm
  omega

mutual

/-- The names in an expression, in reading order, each with the path to it. -/
def mentions : TypeExpr → List (List ExprStep × String)
  | .name text => [([], text)]
  | .array items => items.mentions.map fun mention => (.items :: mention.1, mention.2)
  | .map values => values.mentions.map fun mention => (.values :: mention.1, mention.2)
  | .union members => memberMentions 0 members
  | .transformed _ => []

/-- The names in union members, counted from an index. -/
def memberMentions (index : Nat) : List TypeExpr → List (List ExprStep × String)
  | [] => []
  | member :: rest =>
    (member.mentions.map fun mention => (.member index :: mention.1, mention.2))
      ++ memberMentions (index + 1) rest

end

/-- An expression is a part of another one. -/
inductive Within (part : TypeExpr) : TypeExpr → Prop where
  /-- The expression itself. -/
  | refl : Within part part
  /-- A part of the elements of an array. -/
  | items {items : TypeExpr} (h : Within part items) : Within part (.array items)
  /-- A part of the values of a map. -/
  | values {values : TypeExpr} (h : Within part values) : Within part (.map values)
  /-- A part of a member of a union. -/
  | member {member : TypeExpr} {members : List TypeExpr} (hm : member ∈ members)
      (h : Within part member) : Within part (.union members)

/-- Whether an expression is the name of something other than a primitive. -/
def isReference : TypeExpr → Bool
  | .name text => (primitive? text).isNone
  | _ => false

/-- Expressions without the references that were made before. -/
def dropRepeated (seen : List TypeExpr) : List TypeExpr → List TypeExpr
  | [] => []
  | expr :: rest =>
    if expr.isReference then
      if expr ∈ seen then dropRepeated seen rest
      else expr :: dropRepeated (expr :: seen) rest
    else expr :: dropRepeated seen rest

mutual

/-- An expression in which repeated references inside a union count once. -/
def collapse : TypeExpr → TypeExpr
  | .name text => .name text
  | .array items => .array items.collapse
  | .map values => .map values.collapse
  | .union members => .union (dropRepeated [] (collapseAll members))
  | .transformed kind => .transformed kind

/-- Expressions in which repeated references inside a union count once. -/
def collapseAll : List TypeExpr → List TypeExpr
  | [] => []
  | expr :: rest => expr.collapse :: collapseAll rest

end

/-- A type is written as an expression: its primitive or its display name, or what its
parts are written as. -/
inductive ReadsAs (types : List Ty) : TypeId → TypeExpr → Prop where
  /-- A primitive has the name of the primitive. -/
  | primitive {id : TypeId} {type : Ty} {name : String} (h : TypeGraph.TypeAt types id type)
      (hp : primitive? name = some type) : ReadsAs types id (.name name)
  /-- A class is referred to by its display name, unless that means a primitive. -/
  | classType {id : TypeId} {shape : ClassType}
      (h : TypeGraph.TypeAt types id (.classType shape)) (hp : primitive? shape.name = none) :
      ReadsAs types id (.name shape.name)
  /-- So is an enum. -/
  | enumType {id : TypeId} {shape : EnumType}
      (h : TypeGraph.TypeAt types id (.enumType shape)) (hp : primitive? shape.name = none) :
      ReadsAs types id (.name shape.name)
  /-- A string under an interpretation is written with its name. -/
  | transformed {id : TypeId} {kind : StringKind}
      (h : TypeGraph.TypeAt types id (.transformed kind)) :
      ReadsAs types id (.transformed kind.name)
  /-- An array is written with its elements. -/
  | array {id items : TypeId} {expr : TypeExpr} (h : TypeGraph.TypeAt types id (.array items))
      (hi : ReadsAs types items expr) : ReadsAs types id (.array expr)
  /-- A map is written with its values. -/
  | map {id values : TypeId} {expr : TypeExpr} (h : TypeGraph.TypeAt types id (.map values))
      (hv : ReadsAs types values expr) : ReadsAs types id (.map expr)
  /-- A union is written with its members. -/
  | union {id : TypeId} {members : OrderedSet TypeId} {exprs : List TypeExpr}
      (h : TypeGraph.TypeAt types id (.union members))
      (hm : List.Forall₂ (ReadsAs types) members.toList exprs) : ReadsAs types id (.union exprs)

/-! ## Names -/

/-- The name of a primitive type. -/
def primitiveName? : Ty → Option String
  | .any => some "any"
  | .null => some "null"
  | .bool => some "bool"
  | .integer => some "integer"
  | .double => some "double"
  | .string => some "string"
  | _ => none

/-- The type that a primitive name stands for is described by that name. -/
theorem primitiveName?_of_primitive? {text : String} {type : Ty} (h : primitive? text = some type) :
    primitiveName? type = some text := by
  unfold primitive? at h
  split at h <;> cases h <;> rfl

/-- References are the names that are not primitive. -/
theorem isReference_iff {expr : TypeExpr} :
    expr.isReference = true ↔ ∃ text, expr = .name text ∧ primitive? text = none := by
  cases expr <;> simp [isReference]

theorem collapse_of_isReference {expr : TypeExpr} (h : expr.isReference = true) :
    expr.collapse = expr := by
  obtain ⟨text, rfl, -⟩ := isReference_iff.mp h
  rfl

/-- Collapsing makes no reference and loses none. -/
theorem isReference_collapse (expr : TypeExpr) : expr.collapse.isReference = expr.isReference := by
  cases expr <;> rfl

theorem collapseAll_eq (exprs : List TypeExpr) : collapseAll exprs = exprs.map collapse := by
  induction exprs with
  | nil => rfl
  | cons expr rest ih => rw [collapseAll, ih, List.map_cons]

/-- Counting references once does not depend on what else is in the expressions. -/
theorem dropRepeated_map_collapse (seen exprs : List TypeExpr) :
    dropRepeated seen (exprs.map collapse) = (dropRepeated seen exprs).map collapse := by
  induction exprs generalizing seen with
  | nil => rfl
  | cons expr rest ih =>
    rw [List.map_cons, dropRepeated, dropRepeated, isReference_collapse]
    split
    · rename_i href
      rw [collapse_of_isReference href]
      split
      · exact ih seen
      · rw [List.map_cons, collapse_of_isReference href, ih]
    · rw [List.map_cons, ih]

/-- The names that members mention are those of each member. -/
theorem exists_memberMention_iff {text : String} {members : List TypeExpr} {index : Nat} :
    (∃ path, (path, text) ∈ memberMentions index members)
      ↔ ∃ member ∈ members, ∃ path, (path, text) ∈ member.mentions := by
  induction members generalizing index with
  | nil => simp [memberMentions]
  | cons member rest ih =>
    simp only [memberMentions, List.mem_append, exists_or, ih, List.exists_mem_cons_iff]
    simp

/-- The names in an expression are its parts. -/
theorem exists_mention_iff {text : String} {expr : TypeExpr} :
    (∃ path, (path, text) ∈ expr.mentions) ↔ Within (.name text) expr := by
  induction expr using TypeExpr.induct with
  | ref name =>
    constructor
    · rintro ⟨path, hm⟩
      cases List.mem_singleton.mp hm
      exact .refl
    · rintro ⟨⟩
      exact ⟨[], List.mem_cons_self⟩
  | array items ih =>
    constructor
    · rintro ⟨path, hm⟩
      obtain ⟨⟨rest, _⟩, hrest, heq⟩ := List.mem_map.mp hm
      cases heq
      exact .items (ih.mp ⟨rest, hrest⟩)
    · rintro (_ | hw)
      obtain ⟨path, hm⟩ := ih.mpr hw
      exact ⟨_, List.mem_map_of_mem hm⟩
  | map values ih =>
    constructor
    · rintro ⟨path, hm⟩
      obtain ⟨⟨rest, _⟩, hrest, heq⟩ := List.mem_map.mp hm
      cases heq
      exact .values (ih.mp ⟨rest, hrest⟩)
    · rintro (_ | _ | hw)
      obtain ⟨path, hm⟩ := ih.mpr hw
      exact ⟨_, List.mem_map_of_mem hm⟩
  | union members ih =>
    rw [mentions, exists_memberMention_iff]
    constructor
    · rintro ⟨member, hmember, hm⟩
      exact .member hmember ((ih member hmember).mp hm)
    · rintro (_ | _ | _ | ⟨hmember, hw⟩)
      exact ⟨_, hmember, (ih _ hmember).mpr hw⟩
  | transformed kind =>
    constructor
    · rintro ⟨path, hm⟩
      cases hm
    · intro hw
      cases hw

/-! ## Reading back -/

/-- Lists that are related to one list are equal if each element has one related expression. -/
theorem eq_of_forall₂ {α : Type} {R : α → TypeExpr → Prop} {exprs exprs' : List TypeExpr}
    {list : List α} (hunique : ∀ expr ∈ exprs, ∀ {a expr'}, R a expr → R a expr' → expr = expr')
    (h : List.Forall₂ R list exprs) (h' : List.Forall₂ R list exprs') : exprs = exprs' := by
  induction h generalizing exprs' with
  | nil =>
    cases h'
    rfl
  | cons hr _ ih =>
    obtain _ | ⟨hr', hrest'⟩ := h'
    rw [hunique _ List.mem_cons_self hr hr',
      ih (fun expr hm => hunique expr (List.mem_cons_of_mem _ hm)) hrest']

/-- What a type is written as is determined. -/
theorem ReadsAs.unique {types : List Ty} {id : TypeId} {expr expr' : TypeExpr}
    (h : ReadsAs types id expr) (h' : ReadsAs types id expr') : expr = expr' := by
  induction expr using TypeExpr.induct generalizing id expr' with
  | ref text =>
    cases h with
    | primitive ht hp =>
      have hname := primitiveName?_of_primitive? hp
      cases h' with
      | primitive ht' hp' =>
        cases ht.symm.trans ht'
        rw [Option.some.inj (hname.symm.trans (primitiveName?_of_primitive? hp'))]
      | _ ht' =>
        cases ht.symm.trans ht'
        cases hname
    | classType ht _ =>
      cases h' with
      | primitive ht' hp' =>
        cases ht.symm.trans ht'
        cases primitiveName?_of_primitive? hp'
      | classType ht' _ =>
        cases ht.symm.trans ht'
        rfl
      | _ ht' => cases ht.symm.trans ht'
    | enumType ht _ =>
      cases h' with
      | primitive ht' hp' =>
        cases ht.symm.trans ht'
        cases primitiveName?_of_primitive? hp'
      | enumType ht' _ =>
        cases ht.symm.trans ht'
        rfl
      | _ ht' => cases ht.symm.trans ht'
  | array items ih =>
    cases h with
    | array ht hi =>
      cases h' with
      | primitive ht' hp' =>
        cases ht.symm.trans ht'
        cases primitiveName?_of_primitive? hp'
      | array ht' hi' =>
        cases ht.symm.trans ht'
        rw [ih hi hi']
      | _ ht' => cases ht.symm.trans ht'
  | map values ih =>
    cases h with
    | map ht hv =>
      cases h' with
      | primitive ht' hp' =>
        cases ht.symm.trans ht'
        cases primitiveName?_of_primitive? hp'
      | map ht' hv' =>
        cases ht.symm.trans ht'
        rw [ih hv hv']
      | _ ht' => cases ht.symm.trans ht'
  | union exprs ih =>
    cases h with
    | union ht hm =>
      cases h' with
      | primitive ht' hp' =>
        cases ht.symm.trans ht'
        cases primitiveName?_of_primitive? hp'
      | union ht' hm' =>
        cases ht.symm.trans ht'
        rw [eq_of_forall₂ ih hm hm']
      | _ ht' => cases ht.symm.trans ht'
  | transformed kind =>
    cases h with
    | transformed ht =>
      cases h' with
      | primitive ht' hp' =>
        cases ht.symm.trans ht'
        cases primitiveName?_of_primitive? hp'
      | transformed ht' =>
        cases ht.symm.trans ht'
        rfl
      | _ ht' => cases ht.symm.trans ht'

end TypeExpr

end Hydration
