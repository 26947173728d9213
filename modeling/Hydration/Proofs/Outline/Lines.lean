import Hydration.Outline.TextUnit
import Mathlib.Data.List.Forall2
import Mathlib.Data.String.Basic

/-!
# Lines of a unit

What is written to a unit is a list of lines, each at a depth of its own. At the
start of a line, a text with a line end after it goes to the unit piece by piece,
every piece indented, and the unit is at the start of a line again; so writings
one after the other write their lines one after the other.
-/

namespace Hydration

/-- Every piece of a text that ends with a line feed ends with one. -/
theorem Text.getLast?_of_mem_pieces {text piece : List Char}
    (h : piece ∈ pieces (text ++ ['\n'])) : piece.getLast? = some '\n' := by
  induction text generalizing piece with
  | nil =>
    rw [List.mem_singleton.mp (show piece ∈ [['\n']] from h)]
    rfl
  | cons c rest ih =>
    rw [List.cons_append, pieces] at h
    split at h
    · rename_i hc
      rcases List.mem_cons.mp h with rfl | h
      · rw [hc]
        rfl
      · exact ih h
    · split at h
      · rename_i hnil
        have hflat := flatten_pieces (rest ++ ['\n'])
        rw [hnil] at hflat
        exact absurd hflat.symm (List.append_ne_nil_of_right_ne_nil _ (List.cons_ne_nil _ _))
      · rename_i first more hcons
        rw [hcons] at ih
        rcases List.mem_cons.mp h with rfl | h
        · have hfirst := ih List.mem_cons_self
          cases first with
          | nil => cases hfirst
          | cons d first => rwa [List.getLast?_cons_cons]
        · exact ih (List.mem_cons_of_mem _ h)

/-- A line of a unit. -/
structure Line where
  /-- The depth below that of the writing. -/
  depth : Nat
  /-- The text, without the line end. -/
  text : String

namespace Line

/-- A piece of text behind its indentation; an empty line has none. -/
def indent (depth : Nat) (piece : List Char) : String :=
  if piece = ['\n'] then "\n" else String.ofList (TextUnit.indentation depth ++ piece)

/-- A line and its end as they stand in a unit that is written at a depth. A line feed
within the text begins a line of its own at the same depth. -/
def written (depth : Nat) (line : Line) : String :=
  String.join ((Text.pieces (line.text ++ "\n").toList).map (indent (depth + line.depth)))

/-- Lines as they stand in a unit that is written at a depth. -/
def allWritten (depth : Nat) (lines : List Line) : String := String.join (lines.map (written depth))

/-- The line one level deeper. -/
def deeper (line : Line) : Line := ⟨line.depth + 1, line.text⟩

/-- A header with lines one level deeper below it. -/
def block (header : String) (lines : List Line) : List Line := ⟨0, header⟩ :: lines.map deeper

/-- Texts as lines of no depth of their own. -/
def flat (texts : List String) : List Line := texts.map (Line.mk 0)

/-- Lines are written one after the other. -/
theorem allWritten_append (depth : Nat) (lines more : List Line) :
    allWritten depth (lines ++ more) = allWritten depth lines ++ allWritten depth more := by
  rw [allWritten, List.map_append, String.join_append]
  rfl

/-- Lines that are one level deeper are written from one level deeper on. -/
theorem allWritten_deeper (depth : Nat) (lines : List Line) :
    allWritten depth (lines.map deeper) = allWritten (depth + 1) lines := by
  rw [allWritten, List.map_map]
  refine congrArg String.join (List.map_congr_left fun line _ => ?_)
  rw [Function.comp_apply, written, written, deeper, Nat.add_right_comm, Nat.add_assoc]

end Line

namespace TextUnit

/-- A piece that ends its line is indented and leaves the unit at the start of a line. -/
theorem writePiece_eq {piece : List Char} (h : piece.getLast? = some '\n') (buffer : String)
    (depth : Nat) :
    writePiece ⟨buffer, depth, true⟩ piece = ⟨buffer ++ Line.indent depth piece, depth, true⟩ := by
  unfold writePiece Line.indent
  by_cases hp : piece = ['\n']
  · subst hp
    rfl
  · simp [hp, h, String.append_assoc]

/-- So are pieces one after the other. -/
theorem foldl_writePiece {pieces : List (List Char)}
    (h : ∀ piece ∈ pieces, piece.getLast? = some '\n') (buffer : String) (depth : Nat) :
    pieces.foldl writePiece ⟨buffer, depth, true⟩
      = ⟨buffer ++ String.join (pieces.map (Line.indent depth)), depth, true⟩ := by
  induction pieces generalizing buffer with
  | nil => rw [List.foldl_nil, List.map_nil, String.join_nil, String.append_empty]
  | cons piece rest ih =>
    rw [List.foldl_cons, writePiece_eq (h piece List.mem_cons_self),
      ih fun other hm => h other (List.mem_cons_of_mem _ hm), List.map_cons, String.join_cons,
      String.append_assoc]

/-- A text with a line end is written as a line. -/
theorem write_line (text buffer : String) (depth : Nat) :
    write ⟨buffer, depth, true⟩ (text ++ "\n")
      = ⟨buffer ++ Line.written depth ⟨0, text⟩, depth, true⟩ := by
  refine foldl_writePiece (fun piece hm => ?_) buffer depth
  rw [String.toList_append] at hm
  exact Text.getLast?_of_mem_pieces hm

end TextUnit

namespace Writing

/-- From the start of a line at any depth, a writing adds these lines and nothing else, and
ends at the start of a line. -/
def Writes (body : Writing Unit) (lines : List Line) : Prop :=
  ∀ (buffer : String) (depth : Nat), body.run ⟨buffer, depth, true⟩
    = ((), ⟨buffer ++ Line.allWritten depth lines, depth, true⟩)

theorem writes_nothing : Writes (return ()) [] := by
  intro buffer depth
  rw [Line.allWritten, List.map_nil, String.join_nil, String.append_empty]
  rfl

theorem writes_line (text : String) : Writes (line text) [⟨0, text⟩] := by
  intro buffer depth
  have hwrite := TextUnit.write_line text buffer depth
  rw [Line.allWritten, List.map_singleton, String.join_cons, String.join_nil, String.append_empty,
    ← hwrite]
  rfl

variable {body rest : Writing Unit} {lines more : List Line}

/-- Writings one after the other write their lines one after the other. -/
theorem Writes.andThen (h : Writes body lines) (hr : Writes rest more) :
    Writes (do body; rest) (lines ++ more) := by
  intro buffer depth
  rw [StateT.run_bind, h]
  exact (hr _ depth).trans (by rw [Line.allWritten_append, String.append_assoc])

/-- An indented writing writes its lines one level deeper. -/
theorem Writes.indented (h : Writes body lines) :
    Writes (Writing.indented body) (lines.map Line.deeper) := by
  intro buffer depth
  have hrun : (Writing.indented body).run ⟨buffer, depth, true⟩
      = let out := body.run ⟨buffer, depth + 1, true⟩
        ((), { out.2 with depth := out.2.depth - 1 }) := rfl
  rw [hrun, h, Line.allWritten_deeper]
  rfl

/-- A header and an indented writing write a block. -/
theorem Writes.block (h : Writes body lines) (header : String) :
    Writes (do line header; Writing.indented body) (Line.block header lines) :=
  (writes_line header).andThen h.indented

/-- A writing for each element writes the lines of each element in order. -/
theorem writes_each {α : Type} {write : α → Writing Unit} {list : List α}
    {parts : List (List Line)} (h : List.Forall₂ (fun a part => (write a).Writes part) list parts) :
    Writes (each write list) parts.flatten := by
  induction h with
  | nil => exact writes_nothing
  | cons hr _ ih =>
    rw [List.flatten_cons]
    exact hr.andThen ih

/-- A line for each element is a list of lines. -/
theorem writes_eachLine {α : Type} {write : α → Writing Unit} {list : List α}
    {texts : List String}
    (h : List.Forall₂ (fun a text => (write a).Writes [⟨0, text⟩]) list texts) :
    Writes (each write list) (Line.flat texts) := by
  have hflat : (texts.map fun text => [Line.mk 0 text]).flatten = Line.flat texts := by
    rw [← List.flatMap_def, ← List.map_eq_flatMap]
    rfl
  rw [← hflat]
  exact writes_each (List.forall₂_map_right_iff.mpr h)

end Writing

namespace Outline

/-- Record the text of a unit. -/
def put (outline : Outline) (unit : String × String) : Outline :=
  { outline with units := outline.units.insert unit.1 unit.2 }

/-- A writing whose lines are known succeeds, and its unit is recorded with them. -/
theorem unit_eq {ε : Type} {body : Writing Unit} {lines : List Line} (h : body.Writes lines)
    (outline : Outline) (name : String) :
    outline.unit name (do body; return (.ok () : Except ε Unit))
      = (.ok (), outline.put (name, Line.allWritten 0 lines)) := by
  have hunit : outline.unit name (do body; return (.ok () : Except ε Unit))
      = let out := body.run ⟨"", 0, true⟩
        (.ok (), outline.put (name, out.2.buffer)) := rfl
  rw [hunit, h, String.empty_append]

/-- A body that writes lines records them as the text of its unit. -/
theorem record_eq {body : Writing Unit} {lines : List Line} (h : body.Writes lines)
    (outline : Outline) (name : String) :
    outline.record name body = outline.put (name, Line.allWritten 0 lines) :=
  congrArg Prod.snd (unit_eq h outline name)

end Outline

end Hydration
