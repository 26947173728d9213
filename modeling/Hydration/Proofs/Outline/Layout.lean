import Hydration.Proofs.Outline.Lines

/-!
# The layout of a unit

What a unit holds is laid out from the characters that were written and the
depths at which they were: a line that is not empty stands behind the indentation
of the depth of its first character, and nothing else is added. How the text was
cut into writings makes no difference.
-/

namespace Hydration

/-- A character and the depth at which it is written. -/
structure PlacedChar where
  /-- The number of enclosing indented blocks. -/
  depth : Nat
  /-- The character. -/
  char : Char

namespace PlacedChar

/-- Placed characters cut after each line feed. -/
def cutLines : List PlacedChar → List (List PlacedChar)
  | [] => []
  | p :: rest =>
    if p.char = '\n' then [p] :: cutLines rest
    else
      match cutLines rest with
      | [] => [[p]]
      | line :: more => (p :: line) :: more

/-- The lines in order are the characters. -/
theorem flatten_cutLines (written : List PlacedChar) : (cutLines written).flatten = written := by
  induction written with
  | nil => rfl
  | cons p rest ih =>
    unfold cutLines
    split
    · rw [List.flatten_cons, ih, List.singleton_append]
    · split
      · rename_i h
        rw [h] at ih
        rw [← ih]
        rfl
      · rename_i line more h
        rw [h] at ih
        rw [← ih]
        rfl

/-- The lines are those of the text. -/
theorem map_cutLines (written : List PlacedChar) :
    (cutLines written).map (List.map char) = Text.pieces (written.map char) := by
  induction written with
  | nil => rfl
  | cons p rest ih =>
    rw [List.map_cons, Text.pieces, ← ih, cutLines]
    split
    · rfl
    · cases cutLines rest <;> rfl

/-- A line as it stands in a unit: behind the indentation of its first character, unless it
is empty. -/
def layLine : List PlacedChar → List Char
  | [] => []
  | p :: rest =>
    if p.char = '\n' then ['\n'] else TextUnit.indentation p.depth ++ (p :: rest).map char

/-- Characters as they stand in a unit that is at the start of a line, or within one that
the first of them continue. -/
def layOut (atLineStart : Bool) (written : List PlacedChar) : List Char :=
  if atLineStart then (cutLines written).flatMap layLine
  else
    match cutLines written with
    | [] => []
    | line :: rest => line.map char ++ rest.flatMap layLine

/-- Whether a line starts after some characters. -/
def startsLine (atLineStart : Bool) (written : List PlacedChar) : Bool :=
  match written.getLast? with
  | some p => p.char == '\n'
  | none => atLineStart

/-- What one character adds, and how it goes on. -/
theorem layOut_cons (atLineStart : Bool) (p : PlacedChar) (rest : List PlacedChar) :
    layOut atLineStart (p :: rest)
      = (if atLineStart && p.char != '\n' then TextUnit.indentation p.depth else [])
        ++ p.char :: layOut (p.char == '\n') rest := by
  by_cases hp : p.char = '\n'
  · have hcut : cutLines (p :: rest) = [p] :: cutLines rest := by rw [cutLines, if_pos hp]
    cases atLineStart <;> simp [layOut, hcut, layLine, hp]
  · have hcut : cutLines (p :: rest)
        = match cutLines rest with
          | [] => [[p]]
          | line :: more => (p :: line) :: more := by rw [cutLines, if_neg hp]
    cases hrest : cutLines rest with
    | nil =>
      rw [hrest] at hcut
      cases atLineStart <;> simp [layOut, hcut, hrest, layLine, hp]
    | cons line more =>
      rw [hrest] at hcut
      cases atLineStart <;> simp [layOut, hcut, hrest, layLine, hp]

/-- After a character a line starts exactly if it is a line feed. -/
theorem startsLine_cons (atLineStart : Bool) (p : PlacedChar) (rest : List PlacedChar) :
    startsLine atLineStart (p :: rest) = startsLine (p.char == '\n') rest := by
  cases rest with
  | nil => rfl
  | cons next rest => rw [startsLine, startsLine, List.getLast?_cons_cons]; rfl

end PlacedChar

/-! ## Character by character -/

/-- No piece of a text is empty. -/
theorem Text.ne_nil_of_mem_pieces {text piece : List Char} (h : piece ∈ pieces text) :
    piece ≠ [] := by
  induction text generalizing piece with
  | nil => cases h
  | cons c rest ih =>
    rw [pieces] at h
    split at h
    · rcases List.mem_cons.mp h with rfl | h
      · exact List.cons_ne_nil _ _
      · exact ih h
    · split at h
      · rw [List.mem_singleton.mp h]
        exact List.cons_ne_nil _ _
      · rename_i first more hcons
        rw [hcons] at ih
        rcases List.mem_cons.mp h with rfl | h
        · exact List.cons_ne_nil _ _
        · exact ih (List.mem_cons_of_mem _ h)

namespace TextUnit

/-- Write one character. -/
def writeChar (u : TextUnit) (c : Char) : TextUnit where
  buffer := u.buffer ++ String.ofList
    ((if u.atLineStart && c != '\n' then indentation u.depth else []) ++ [c])
  depth := u.depth
  atLineStart := c == '\n'

/-- A line feed alone is written as a character. -/
theorem writePiece_lineFeed (u : TextUnit) : u.writePiece ['\n'] = u.writeChar '\n' := by
  simp [writePiece, writeChar]

/-- Any other character alone is written as a character too. -/
theorem writePiece_singleton (u : TextUnit) {c : Char} (h : c ≠ '\n') :
    u.writePiece [c] = u.writeChar c := by
  have hc : (c == '\n') = false := beq_eq_false_iff_ne.mpr h
  have hpiece : ([c] == ['\n']) = false := by rw [List.cons_beq_cons, hc, Bool.false_and]
  cases hu : u.atLineStart <;>
    simp only [writePiece, writeChar, hu, hc, hpiece, bne, Bool.not_false, Bool.and_self,
      Bool.false_and, Bool.false_eq_true, if_true, if_false, List.nil_append, String.ofList_append,
      String.append_assoc, List.getLast?_singleton, Option.some_beq_some]

/-- The first character of a longer piece may be written before the others. -/
theorem writePiece_cons (u : TextUnit) {c : Char} (h : c ≠ '\n') {piece : List Char}
    (hp : piece ≠ []) : u.writePiece (c :: piece) = (u.writeChar c).writePiece piece := by
  obtain ⟨d, rest, rfl⟩ := List.exists_cons_of_ne_nil hp
  have hc : (c == '\n') = false := beq_eq_false_iff_ne.mpr h
  have hpiece : (c :: d :: rest == ['\n']) = false := by
    rw [List.cons_beq_cons, hc, Bool.false_and]
  have hcons : String.ofList (c :: d :: rest) = String.ofList [c] ++ String.ofList (d :: rest) := by
    rw [← String.ofList_append, List.singleton_append]
  cases hu : u.atLineStart <;>
    simp only [writePiece, writeChar, hu, hc, hpiece, bne, Bool.not_false, Bool.and_self,
      Bool.false_and, Bool.false_eq_true, if_true, if_false, hcons, List.nil_append,
      String.ofList_append, String.append_assoc, List.getLast?_cons_cons]

/-- Writing a text is writing its characters. -/
theorem write_eq_foldl (u : TextUnit) (text : String) :
    u.write text = text.toList.foldl writeChar u := by
  unfold write
  induction text.toList generalizing u with
  | nil => rfl
  | cons c rest ih =>
    rw [List.foldl_cons, ← ih, Text.pieces]
    split
    · rename_i hc
      rw [hc, List.foldl_cons, writePiece_lineFeed]
    · rename_i hc
      split
      · rename_i hnil
        rw [hnil, List.foldl_cons, writePiece_singleton u hc]
      · rename_i piece more hcons
        have hpiece : piece ≠ [] := Text.ne_nil_of_mem_pieces (hcons ▸ List.mem_cons_self)
        rw [hcons, List.foldl_cons, List.foldl_cons, writePiece_cons u hc hpiece]

/-- Texts one after the other are written as one text. -/
theorem foldl_write (u : TextUnit) (texts : List String) :
    texts.foldl write u = u.write (String.join texts) := by
  induction texts generalizing u with
  | nil => rw [List.foldl_nil, String.join_nil, write_eq_foldl, String.toList_empty, List.foldl_nil]
  | cons text rest ih =>
    rw [List.foldl_cons, ih, String.join_cons, write_eq_foldl, write_eq_foldl, write_eq_foldl,
      String.toList_append, List.foldl_append]

/-- Write a character at a depth. -/
def put (u : TextUnit) (p : PlacedChar) : TextUnit :=
  { writeChar { u with depth := p.depth } p.char with depth := u.depth }

/-- Characters at the depth of a unit are put as they are written. -/
theorem foldl_put_map (u : TextUnit) (chars : List Char) :
    (chars.map (PlacedChar.mk u.depth)).foldl put u = chars.foldl writeChar u := by
  induction chars generalizing u with
  | nil => rfl
  | cons c rest ih => exact ih (u.writeChar c)

/-- A unit with characters laid out behind its text. -/
def lay (u : TextUnit) (written : List PlacedChar) : TextUnit where
  buffer := u.buffer ++ String.ofList (PlacedChar.layOut u.atLineStart written)
  depth := u.depth
  atLineStart := PlacedChar.startsLine u.atLineStart written

/-- Characters that are put are laid out. -/
theorem foldl_put (u : TextUnit) (written : List PlacedChar) :
    written.foldl put u = u.lay written := by
  induction written generalizing u with
  | nil =>
    cases hu : u.atLineStart <;>
      simp [lay, PlacedChar.layOut, PlacedChar.cutLines, PlacedChar.startsLine, ← hu]
  | cons p rest ih =>
    have hbuffer : (u.put p).buffer = u.buffer ++ String.ofList
        ((if u.atLineStart && p.char != '\n' then indentation p.depth else []) ++ [p.char]) := rfl
    rw [List.foldl_cons, ih, lay, lay, hbuffer, PlacedChar.layOut_cons, PlacedChar.startsLine_cons,
      String.append_assoc, ← String.ofList_append, List.append_assoc, List.singleton_append]
    rfl

/-- A text is laid out at the depth of the unit. -/
theorem write_eq_lay (u : TextUnit) (text : String) :
    u.write text = u.lay (text.toList.map (PlacedChar.mk u.depth)) := by
  rw [← foldl_put, foldl_put_map, write_eq_foldl]

/-- Characters that are laid out one after the other are laid out together. -/
theorem lay_lay (u : TextUnit) (written more : List PlacedChar) :
    (u.lay written).lay more = u.lay (written ++ more) := by
  rw [← foldl_put, ← foldl_put, ← foldl_put, List.foldl_append]

end TextUnit

/-! ## Texts and indented blocks -/

/-- Something that writes to a unit by texts and indented blocks alone. What a block results in,
be it a failure, is for what comes after it to heed or to ignore. -/
inductive Script : Type → Type 1 where
  /-- Write nothing more. -/
  | done {α : Type} (result : α) : Script α
  /-- Write a text, then go on. -/
  | text {α : Type} (s : String) (next : Script α) : Script α
  /-- Write a block one level deeper, then go on from its result. -/
  | indented {α β : Type} (body : Script β) (next : β → Script α) : Script α

namespace Script

/-- Write to a unit. -/
def follow {α : Type} : Script α → Writing α
  | done result => return result
  | text s next => do
    Writing.text s
    follow next
  | indented body next => do
    let result ← Writing.indented (follow body)
    follow (next result)

/-- The result. -/
def outcome {α : Type} : Script α → α
  | done result => result
  | text _ next => outcome next
  | indented body next => outcome (next (outcome body))

/-- The characters of all texts that are written, from a depth on. -/
def placed {α : Type} (depth : Nat) : Script α → List PlacedChar
  | done _ => []
  | text s next => s.toList.map (PlacedChar.mk depth) ++ placed depth next
  | indented body next => placed (depth + 1) body ++ placed depth (next (outcome body))

/-- Write texts one after the other, then go on. -/
def texts {α : Type} (pieces : List String) (next : Script α) : Script α := pieces.foldr text next

/-- The other script is the one with some texts cut into pieces, which may be empty or begin or
end anywhere. -/
inductive Recut : {α : Type} → Script α → Script α → Prop
  | done {α : Type} (result : α) : Recut (done result) (done result)
  | text {α : Type} (pieces : List String) {next other : Script α} (h : Recut next other) :
    Recut (text (String.join pieces) next) (texts pieces other)
  | indented {α β : Type} {body otherBody : Script β} {next other : β → Script α}
    (hb : Recut body otherBody) (h : ∀ result, Recut (next result) (other result)) :
    Recut (indented body next) (indented otherBody other)

variable {α : Type}

/-- Texts that are written one after the other are written before what follows them. -/
theorem run_texts (pieces : List String) (next : Script α) (u : TextUnit) :
    (texts pieces next).follow.run u = next.follow.run (pieces.foldl TextUnit.write u) := by
  induction pieces generalizing u with
  | nil => rfl
  | cons piece rest ih => exact ih (u.write piece)

/-- A block is written one level deeper, and the depth is taken back. -/
theorem run_indented (body : Script α) (u : TextUnit) :
    (Writing.indented body.follow).run u
      = ((body.follow.run { u with depth := u.depth + 1 }).1,
          { (body.follow.run { u with depth := u.depth + 1 }).2 with
            depth := (body.follow.run { u with depth := u.depth + 1 }).2.depth - 1 }) := rfl

/-- After a block the script goes on from its result, at the depth the block was met at. -/
theorem run_follow_indented {β : Type} (body : Script β) (next : β → Script α) (u : TextUnit) :
    (indented body next).follow.run u
      = (next ((Writing.indented body.follow).run u).1).follow.run
          ((Writing.indented body.follow).run u).2 := rfl

/-- A script has its outcome, and lays its characters out. -/
theorem run_follow (script : Script α) (u : TextUnit) :
    script.follow.run u = (script.outcome, u.lay (script.placed u.depth)) := by
  induction script generalizing u with
  | done result => rw [placed, ← TextUnit.foldl_put]; rfl
  | text s next ih =>
    have hrun : (text s next).follow.run u = next.follow.run (u.write s) := rfl
    rw [hrun, ih, TextUnit.write_eq_lay, TextUnit.lay_lay]
    rfl
  | indented body next ihb ih =>
    have hblock : (Writing.indented body.follow).run u
        = (body.outcome, u.lay (body.placed (u.depth + 1))) := by
      rw [run_indented, ihb]
      rfl
    rw [run_follow_indented, hblock, ih, TextUnit.lay_lay]
    rfl

/-- A script and one with its texts cut do the same to any unit. -/
theorem run_recut {script other : Script α} (h : Recut script other) (u : TextUnit) :
    other.follow.run u = script.follow.run u := by
  induction h generalizing u with
  | done result => rfl
  | text pieces _ ih =>
    rw [run_texts, TextUnit.foldl_write, ih]
    rfl
  | @indented α β body otherBody next other hb h ihb ih =>
    have hblock : (Writing.indented otherBody.follow).run u
        = (Writing.indented body.follow).run u := by
      rw [run_indented, run_indented, ihb]
    rw [run_follow_indented, run_follow_indented, hblock, ih]

/-- **The layout of a unit.** However its texts are cut, a script has the same outcome and
leaves the unit with the same text, depth and line start. The text is what was there before and
all that was written, each line that is not empty behind the indentation of the depth of its
first character, and nothing else; the depth is as it was, also after an indented block that
fails. -/
theorem follow_lays_out (script : Script α) (u : TextUnit) :
    (∀ other, Recut script other → other.follow.run u = script.follow.run u)
      ∧ script.follow.run u = (script.outcome,
          ⟨u.buffer ++ String.ofList (PlacedChar.layOut u.atLineStart (script.placed u.depth)),
            u.depth, PlacedChar.startsLine u.atLineStart (script.placed u.depth)⟩)
      ∧ (Writing.indented script.follow).run u = (script.outcome,
          ⟨u.buffer ++ String.ofList (PlacedChar.layOut u.atLineStart (script.placed (u.depth + 1))),
            u.depth, PlacedChar.startsLine u.atLineStart (script.placed (u.depth + 1))⟩) := by
  refine ⟨fun other h => run_recut h u, run_follow script u, ?_⟩
  rw [run_indented, run_follow]
  rfl

/-- A text and a block that fails. -/
def stopped : Script (Except String Unit) :=
  text "a\nb" (indented (text "c\n\nd" (done (.error "stop"))) done)

/-- The same with its texts cut around the line feeds, once with nothing between. -/
def stoppedCut : Script (Except String Unit) :=
  texts ["a", "\n", "", "b"] (indented (texts ["c\n", "\nd"] (done (.error "stop"))) done)

/-- The two scripts write the same text in other pieces. -/
theorem recut_stopped : Recut stopped stoppedCut :=
  .text ["a", "\n", "", "b"] (.indented (.text ["c\n", "\nd"] (.done _)) .done)

/-- It leaves its depth, and its text is indented where a line begins. -/
theorem follow_lays_out_stopped :
    stoppedCut.follow.run TextUnit.empty = stopped.follow.run TextUnit.empty
      ∧ stopped.follow.run TextUnit.empty = (.error "stop", ⟨"a\nbc\n\n    d", 0, false⟩) := by
  obtain ⟨hcut, hlaid, -⟩ := follow_lays_out stopped TextUnit.empty
  exact ⟨hcut stoppedCut recut_stopped, hlaid.trans rfl⟩

end Script

/-! ## Instructions -/

namespace WriteStep

mutual

/-- An instruction as a script, and how to go on from its result. -/
def script : WriteStep → (Except String Unit → Script (Except String Unit)) →
    Script (Except String Unit)
  | text s, next => .text s (next (.ok ()))
  | indented steps, next => .indented (scriptAll steps) next
  | fail message, next => next (.error message)

/-- Instructions up to the first that fails, as a script. -/
def scriptAll : List WriteStep → Script (Except String Unit)
  | [] => .done (.ok ())
  | step :: rest => script step fun
    | .ok () => scriptAll rest
    | .error message => .done (.error message)

end

mutual

/-- A step is followed by doing it and going on with its result. -/
theorem follow_script (step : WriteStep)
    (next : Except String Unit → Script (Except String Unit)) :
    (script step next).follow = (do
      let result ← perform step
      (next result).follow) := by
  cases step with
  | text s => rfl
  | indented steps =>
    rw [script, Script.follow, follow_scriptAll steps, perform]
  | fail message => rfl

/-- Following instructions is following a script, so their text is laid out as one. -/
theorem follow_scriptAll (steps : List WriteStep) :
    (scriptAll steps).follow = performAll steps := by
  cases steps with
  | nil => rfl
  | cons step rest =>
    rw [scriptAll, follow_script step, performAll]
    refine congrArg (perform step >>= ·) (funext fun result => ?_)
    rcases result with message | ⟨⟨⟩⟩
    · rfl
    · exact follow_scriptAll rest

end

end WriteStep

end Hydration
