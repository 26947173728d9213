import Hydration.Command.Documents
import Hydration.Proofs.Json.Pointer

/-!
# What sources come to

The documents of a path, told without the functions that collect them: the texts of
its file, the part of each that the pointer selects, and the outputs of the filter on
that part. A text or a file that has none comes to the fault that says why.
`pathComesTo_iff` says that the functions compute exactly this.
-/

namespace Hydration.InputOptions

variable (interpreter : Interpreter) (options : InputOptions)

/-- The part of a value that the documents are made of: what the pointer selects, or without a
pointer all of it. -/
inductive Takes (value : Json) : Json → Prop where
  /-- There is no pointer. -/
  | whole (hpointer : options.pointer = none) : Takes value value
  /-- The pointer selects a part. -/
  | part {pointer : String} {part : Json} (hpointer : options.pointer = some pointer)
      (h : Json.Pointer.Selects pointer value part) : Takes value part

/-- What a text comes to: documents, or the fault of one that has none. -/
inductive TextComesTo (text : Labelled String) :
    Except SourceError (List (Labelled Json)) → Prop where
  /-- The text is not JSON. -/
  | malformed {fault : Json.SyntaxFault} (hparse : Json.parse text.content = .error fault) :
      TextComesTo text (.error (.malformed text.label fault))
  /-- The pointer matches nothing. -/
  | unmatched {value : Json} {pointer : String} (hparse : Json.parse text.content = .ok value)
      (hpointer : options.pointer = some pointer)
      (hnone : ∀ part, ¬ Json.Pointer.Selects pointer value part) :
      TextComesTo text (.error (.nothingSelected text.label pointer))
  /-- Without a filter the part is the only document. -/
  | document {value part : Json} (hparse : Json.parse text.content = .ok value)
      (hpart : options.Takes value part) (hfilter : options.filter = none) :
      TextComesTo text (.ok [⟨text.label, part⟩])
  /-- The filter fails on the part. -/
  | notFiltered {value part : Json} {filter reason : String}
      (hparse : Json.parse text.content = .ok value) (hpart : options.Takes value part)
      (hfilter : options.filter = some filter) (hfails : interpreter filter part = .error reason) :
      TextComesTo text (.error (.notFiltered text.label reason))
  /-- Each output of the filter is a document, labelled with its index. -/
  | outputs {value part : Json} {filter : String} {outputs : List Json}
      (hparse : Json.parse text.content = .ok value) (hpart : options.Takes value part)
      (hfilter : options.filter = some filter) (hruns : interpreter filter part = .ok outputs) :
      TextComesTo text (.ok (outputs.zipIdx.map fun output =>
        ⟨text.label ++ "#" ++ toString output.2, output.1⟩))

/-- The texts of a file: all of it, or each line with a character other than white space, labelled
with its number among all lines. -/
def textsOf (path text : String) : List (Labelled String) :=
  if options.perLine then
    (((Text.lines text).zipIdx 1).filter fun line =>
      line.1.toList.any fun c => !Text.isBlank c).map fun line =>
        ⟨path ++ ":" ++ toString line.2, line.1⟩
  else [⟨path, text⟩]

/-- What a path comes to: what each text of its file does, or the fault of a file that cannot be
read. -/
inductive PathComesTo (workspace : Workspace) (path : String) :
    List (Except SourceError (List (Labelled Json))) → Prop where
  /-- The file cannot be read. -/
  | unreadable {fault : FileFault} (hread : workspace.read path = .error fault) :
      PathComesTo workspace path [.error (.unreadable path fault)]
  /-- The file is read, and its texts come to results. -/
  | texts {text : String} {results : List (Except SourceError (List (Labelled Json)))}
      (hread : workspace.read path = .ok text)
      (h : List.Forall₂ (options.TextComesTo interpreter) (options.textsOf path text) results) :
      PathComesTo workspace path results

/-! ## The functions that collect documents -/

/-- Numbered lines are the lines that are not blank with their numbers. -/
theorem numbered_eq (label : String) (number : Nat) (list : List String) :
    numbered label number list
      = ((list.zipIdx number).filter fun line => line.1.toList.any fun c => !Text.isBlank c).map
          fun line => ⟨label ++ ":" ++ toString line.2, line.1⟩ := by
  induction list generalizing number with
  | nil => rfl
  | cons line rest ih =>
    have hany : (line.toList.any fun c => !Text.isBlank c) = !isBlankLine line := by
      rw [isBlankLine, List.not_all_eq_any_not]
    rw [numbered, List.zipIdx_cons]
    by_cases h : isBlankLine line = true
    · rw [if_pos h, ih, List.filter_cons_of_neg (by rw [hany, h]; exact Bool.false_ne_true)]
    · rw [Bool.not_eq_true] at h
      rw [h, if_neg Bool.false_ne_true, ih, List.filter_cons_of_pos (by rw [hany, h]; rfl),
        List.map_cons]

/-- Indexed documents are the documents with their indexes. -/
theorem indexed_eq (label : String) (place : Nat) (documents : List Json) :
    indexed label place documents
      = (documents.zipIdx place).map fun output =>
          ⟨label ++ "#" ++ toString output.2, output.1⟩ := by
  induction documents generalizing place with
  | nil => rfl
  | cons document rest ih => rw [indexed, ih, List.zipIdx_cons, List.map_cons]

/-- The texts of a source are those of its file. -/
theorem texts_eq (path text : String) : options.texts ⟨path, text⟩ = options.textsOf path text := by
  rw [texts, textsOf, numbered_eq]

variable {interpreter options}

/-- The selected part of a document is the one that is taken of it. -/
theorem selected_eq_ok_iff {label : String} {value part : Json} :
    options.selected ⟨label, value⟩ = .ok part ↔ options.Takes value part := by
  unfold selected
  constructor
  · intro h
    split at h
    · rename_i hpointer
      cases h
      exact .whole hpointer
    · rename_i pointer hpointer
      split at h
      · rename_i hpart
        cases h
        exact .part hpointer (Json.Pointer.resolve?_eq_some_iff.mp hpart)
      · cases h
  · intro h
    cases h with
    | whole hpointer => rw [hpointer]
    | part hpointer h =>
      rw [hpointer]
      dsimp only
      rw [Json.Pointer.resolve?_eq_some_iff.mpr h]

/-- Nothing is selected of a document if there is a pointer that matches nothing. -/
theorem selected_eq_error_iff {label : String} {value : Json} {error : SourceError} :
    options.selected ⟨label, value⟩ = .error error
      ↔ ∃ pointer, options.pointer = some pointer
        ∧ (∀ part, ¬ Json.Pointer.Selects pointer value part)
        ∧ error = .nothingSelected label pointer := by
  unfold selected
  constructor
  · intro h
    split at h
    · cases h
    · rename_i pointer hpointer
      split at h
      · cases h
      · rename_i hnone
        cases h
        exact ⟨pointer, hpointer, Json.Pointer.resolve?_eq_none_iff.mp hnone, rfl⟩
  · rintro ⟨pointer, hpointer, hnone, rfl⟩
    rw [hpointer]
    dsimp only
    rw [Json.Pointer.resolve?_eq_none_iff.mpr hnone]

/-- The documents of a text that is JSON are those that are made of the selected part. -/
theorem documents_of_parse {text : Labelled String} {value : Json}
    (h : Json.parse text.content = .ok value) :
    options.documents interpreter text
      = options.selected ⟨text.label, value⟩ >>= fun part =>
          options.filtered interpreter ⟨text.label, part⟩ := by
  rw [documents, h]

/-- The documents of a text that is JSON are those that are made of the part that is taken. -/
theorem documents_of_takes {text : Labelled String} {value part : Json}
    (hparse : Json.parse text.content = .ok value) (hpart : options.Takes value part) :
    options.documents interpreter text = options.filtered interpreter ⟨text.label, part⟩ := by
  rw [documents_of_parse hparse, selected_eq_ok_iff.mpr hpart]
  rfl

/-- A text comes to its documents, or to the fault for which it has none. -/
theorem textComesTo_iff {text : Labelled String}
    {result : Except SourceError (List (Labelled Json))} :
    options.TextComesTo interpreter text result ↔ options.documents interpreter text = result := by
  constructor
  · intro h
    cases h with
    | malformed hparse => rw [documents, hparse]
    | unmatched hparse hpointer hnone =>
      rw [documents_of_parse hparse, selected_eq_error_iff.mpr ⟨_, hpointer, hnone, rfl⟩]
      rfl
    | document hparse hpart hfilter =>
      rw [documents_of_takes hparse hpart, filtered, hfilter]
    | notFiltered hparse hpart hfilter hfails =>
      rw [documents_of_takes hparse hpart, filtered, hfilter]
      dsimp only
      rw [hfails]
    | outputs hparse hpart hfilter hruns =>
      rw [documents_of_takes hparse hpart, filtered, hfilter]
      dsimp only
      rw [hruns]
      exact congrArg Except.ok (indexed_eq _ _ _)
  · rintro rfl
    cases hparse : Json.parse text.content with
    | error fault =>
      rw [documents, hparse]
      exact .malformed hparse
    | ok value =>
      cases hselected : options.selected ⟨text.label, value⟩ with
      | error error =>
        obtain ⟨pointer, hpointer, hnone, rfl⟩ := selected_eq_error_iff.mp hselected
        rw [documents_of_parse hparse, hselected]
        exact .unmatched hparse hpointer hnone
      | ok part =>
        have hpart := selected_eq_ok_iff.mp hselected
        rw [documents_of_takes hparse hpart]
        unfold filtered
        split
        · rename_i hfilter
          exact .document hparse hpart hfilter
        · rename_i filter hfilter
          split
          · rename_i outputs hruns
            rw [indexed_eq]
            exact .outputs hparse hpart hfilter hruns
          · rename_i reason hfails
            exact .notFiltered hparse hpart hfilter hfails

/-- Texts come to what is computed of each. -/
theorem forall₂_textComesTo_iff {texts : List (Labelled String)}
    {results : List (Except SourceError (List (Labelled Json)))} :
    List.Forall₂ (options.TextComesTo interpreter) texts results
      ↔ texts.map (options.documents interpreter) = results := by
  refine forall₂_iff_map_eq fun text result => ?_
  exact textComesTo_iff

/-- What the texts of a path come to, or the fault of its file. -/
def resultsOf (interpreter : Interpreter) (options : InputOptions) (workspace : Workspace)
    (path : String) : List (Except SourceError (List (Labelled Json))) :=
  match workspace.read path with
  | .ok text => (options.texts ⟨path, text⟩).map (options.documents interpreter)
  | .error fault => [.error (.unreadable path fault)]

/-- A path comes to what is computed of its texts. -/
theorem pathComesTo_iff {workspace : Workspace} {path : String}
    {results : List (Except SourceError (List (Labelled Json)))} :
    options.PathComesTo interpreter workspace path results
      ↔ options.resultsOf interpreter workspace path = results := by
  constructor
  · intro h
    cases h with
    | unreadable hread => rw [resultsOf, hread]
    | texts hread h =>
      rw [resultsOf, hread]
      dsimp only
      rw [texts_eq]
      exact forall₂_textComesTo_iff.mp h
  · rintro rfl
    unfold resultsOf
    split
    · rename_i text hread
      rw [texts_eq]
      exact .texts hread (forall₂_textComesTo_iff.mpr rfl)
    · rename_i fault hread
      exact .unreadable hread

/-- Paths come to what is computed of each. -/
theorem forall₂_pathComesTo_iff {workspace : Workspace} {paths : List String}
    {results : List (List (Except SourceError (List (Labelled Json))))} :
    List.Forall₂ (options.PathComesTo interpreter workspace) paths results
      ↔ paths.map (options.resultsOf interpreter workspace) = results := by
  refine forall₂_iff_map_eq fun path results => ?_
  exact pathComesTo_iff

end Hydration.InputOptions
