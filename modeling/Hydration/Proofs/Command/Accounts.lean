import Hydration.Command.Perform
import Hydration.Proofs.Command.Sources
import Hydration.Proofs.Json.Compact

/-!
# Every document is accounted for

A conversion meets its documents in the order of the paths, of the lines and of
the outputs of the filter, up to the first fault of a source. What it leaves
behind is told from these documents alone: each is a line of the standard output
or a report on the standard error, none is lost and none is added. A report takes
one line, and one more for each line feed in it.
-/

namespace Hydration

/-! ## Lines -/

namespace Text

/-- The lines of texts that are written one after the other are those of each text. -/
theorem lines_linesText (texts : List String) :
    lines (linesText texts) = texts.flatMap fun text => lines (text ++ "\n") := by
  induction texts with
  | nil => rfl
  | cons text rest ih =>
    have htext : (linesText (text :: rest)).toList
        = text.toList ++ '\n' :: (linesText rest).toList := by
      rw [linesText, List.map_cons, String.join_cons, String.toList_append, String.toList_append,
        List.append_assoc]
      rfl
    rw [lines, htext, pieces_append_lineFeed, List.map_append, List.flatMap_cons, ← ih]
    rw [lines, lines, String.toList_append]
    rfl

/-- Texts that are written without control characters are the lines. -/
theorem lines_linesText_of_isInline {texts : List String}
    (h : ∀ text ∈ texts, isInline text = true) : lines (linesText texts) = texts := by
  rw [lines_linesText]
  induction texts with
  | nil => rfl
  | cons text rest ih =>
    rw [List.flatMap_cons, lines_of_isInline (h text List.mem_cons_self),
      ih fun other hm => h other (List.mem_cons_of_mem _ hm), List.singleton_append]

end Text

/-! ## Up to the first fault -/

section Results

variable {ε α : Type}

/-- The first failure among results. -/
def firstFault (results : List (Except ε (List α))) : Option ε := results.findSome? failure?

/-- What the results before the first failure bring. -/
def beforeFault (results : List (Except ε (List α))) : List α :=
  ((results.takeWhile Except.isOk).filterMap Except.toOption).flatten

/-- More results bring something only if there is no failure before them. -/
theorem beforeFault_append (results more : List (Except ε (List α))) :
    beforeFault (results ++ more)
      = beforeFault results ++ if firstFault results = none then beforeFault more else [] := by
  induction results with
  | nil => rfl
  | cons result rest ih =>
    cases result with
    | error e => rfl
    | ok found =>
      have hcons (list : List (Except ε (List α))) :
          beforeFault (.ok found :: list) = found ++ beforeFault list := rfl
      rw [List.cons_append, hcons, hcons, ih, List.append_assoc]
      rfl

/-- The first failure is among the first results if they have one. -/
theorem firstFault_append (results more : List (Except ε (List α))) :
    firstFault (results ++ more) = (firstFault results).or (firstFault more) :=
  List.findSome?_append

end Results

/-! ## The journal of documents -/

namespace Conversion

variable (conversion : Conversion)

/-- The line of a document: what is written back of it once it is read into the class. -/
def line? (document : Labelled Json) : Option String :=
  match conversion.plan.dehydrate conversion.classId document.content with
  | .error _ => none
  | .ok object =>
    match conversion.plan.hydrate object with
    | .error _ => none
    | .ok value => some value.compact

/-- The report on a document that is not read into the class or not written back. -/
def complaint? (document : Labelled Json) : Option String :=
  match conversion.plan.dehydrate conversion.classId document.content with
  | .error error => some ("invalid " ++ document.label ++ ": " ++ error.message)
  | .ok object =>
    match conversion.plan.hydrate object with
    | .error error => some ("invalid " ++ document.label ++ ": " ++ error.message)
    | .ok _ => none

/-- A document adds its line or its report. -/
theorem onDocument_eq (journal : Journal) (document : Labelled Json) :
    conversion.onDocument journal document
      = ⟨journal.converted ++ (conversion.line? document).toList,
          journal.invalid ++ (conversion.complaint? document).toList⟩ := by
  unfold onDocument convert line? complaint?
  cases conversion.plan.dehydrate conversion.classId document.content with
  | error error => exact congrArg (Journal.mk · _) (List.append_nil _).symm
  | ok object =>
    dsimp only [bind, Except.bind]
    cases conversion.plan.hydrate object with
    | error error => exact congrArg (Journal.mk · _) (List.append_nil _).symm
    | ok value => exact congrArg (Journal.mk _) (List.append_nil _).symm

/-- So do documents one after the other. -/
theorem foldl_onDocument (documents : List (Labelled Json)) (journal : Journal) :
    documents.foldl conversion.onDocument journal
      = ⟨journal.converted ++ documents.filterMap conversion.line?,
          journal.invalid ++ documents.filterMap conversion.complaint?⟩ := by
  induction documents generalizing journal with
  | nil =>
    rw [List.foldl_nil, List.filterMap_nil, List.filterMap_nil, List.append_nil, List.append_nil]
  | cons document rest ih =>
    have hcons (f : Labelled Json → Option String) :
        (document :: rest).filterMap f = (f document).toList ++ rest.filterMap f := by
      rw [List.filterMap_cons]
      cases f document <;> rfl
    rw [List.foldl_cons, ih, onDocument_eq, hcons, hcons, List.append_assoc, List.append_assoc]

/-- Texts are converted up to the first that has a fault. -/
theorem onTexts_eq (texts : List (Labelled String)) (journal : Journal) :
    conversion.onTexts texts journal
      = ((beforeFault (texts.map (conversion.options.documents conversion.interpreter))).foldl
            conversion.onDocument journal,
          firstFault (texts.map (conversion.options.documents conversion.interpreter))) := by
  induction texts generalizing journal with
  | nil => rfl
  | cons text rest ih =>
    rw [onTexts, List.map_cons]
    cases conversion.options.documents conversion.interpreter text with
    | error fault => rfl
    | ok documents =>
      dsimp only
      rw [ih]
      refine Prod.ext ?_ rfl
      exact (List.foldl_append).symm

/-- What the paths come to, one result after the other. -/
def results (workspace : Workspace) (paths : List String) :
    List (Except SourceError (List (Labelled Json))) :=
  paths.flatMap (conversion.options.resultsOf conversion.interpreter workspace)

/-- Paths are converted up to the first fault of their texts. -/
theorem onPaths_eq (workspace : Workspace) {paths : List String}
    (h : ∀ path ∈ paths, InputOptions.isStandardInput path = false) (stdin : String)
    (journal : Journal) :
    conversion.onPaths workspace paths stdin journal
      = ((beforeFault (conversion.results workspace paths)).foldl conversion.onDocument journal,
          firstFault (conversion.results workspace paths)) := by
  unfold results
  induction paths generalizing journal with
  | nil => rfl
  | cons path rest ih =>
    rw [onPaths, h path List.mem_cons_self, List.flatMap_cons, beforeFault_append,
      firstFault_append, InputOptions.resultsOf]
    simp only [Bool.false_eq_true, if_false]
    cases workspace.read path with
    | error fault => rfl
    | ok text =>
      dsimp only
      rw [onTexts_eq]
      cases firstFault ((conversion.options.texts ⟨path, text⟩).map
          (conversion.options.documents conversion.interpreter)) with
      | none =>
        dsimp only
        rw [ih fun other hm => h other (List.mem_cons_of_mem _ hm), if_pos rfl, List.foldl_append,
          Option.none_or]
      | some fault =>
        dsimp only
        rw [if_neg (Option.some_ne_none fault), List.append_nil, Option.some_or]

/-- The lines of converted documents stay on their lines. -/
theorem isInline_of_mem_line? {documents : List (Labelled Json)} {line : String}
    (h : line ∈ documents.filterMap conversion.line?) : Text.isInline line = true := by
  obtain ⟨document, -, hline⟩ := List.mem_filterMap.mp h
  unfold line? at hline
  split at hline
  · cases hline
  · split at hline
    · cases hline
    · cases hline
      exact Json.isInline_compact _

/-- Documents without a report are those that are converted. -/
theorem filterMap_complaint?_eq_nil {documents : List (Labelled Json)} :
    documents.filterMap conversion.complaint? = []
      ↔ ∀ document ∈ documents, ∃ object value,
        conversion.plan.dehydrate conversion.classId document.content = .ok object
          ∧ conversion.plan.hydrate object = .ok value := by
  rw [List.filterMap_eq_nil_iff]
  refine forall₂_congr fun document _ => ?_
  unfold complaint?
  cases conversion.plan.dehydrate conversion.classId document.content with
  | error error => simp
  | ok object => cases h : conversion.plan.hydrate object <;> simp [h]

end Conversion

/-- What a conversion leaves behind accounts for documents and for the fault after them. -/
structure Report.AccountsFor (report : Report) (conversion : Conversion)
    (documents : List (Labelled Json)) (fault : Option SourceError) : Prop where
  /-- The standard output is the lines of the documents that are converted, in order. -/
  stdout : report.stdout = linesText (documents.filterMap conversion.line?)
  /-- It has one line for each of these documents. -/
  stdoutLines : Text.lines report.stdout = documents.filterMap conversion.line?
  /-- The standard error is the reports on the other documents, in order, and that of the fault. -/
  stderr : report.stderr = linesText (documents.filterMap conversion.complaint?
    ++ fault.toList.map fun fault => "error: " ++ fault.message)
  /-- Its lines are those of one report after the other. -/
  stderrLines : Text.lines report.stderr = (documents.filterMap conversion.complaint?
    ++ fault.toList.map fun fault => "error: " ++ fault.message).flatMap fun text =>
      Text.lines (text ++ "\n")
  /-- A report is one line, and one more for each line feed in it. -/
  complaintLines : ∀ document ∈ documents, ∀ text ∈ conversion.complaint? document,
    (Text.lines (text ++ "\n")).length = text.toList.count '\n' + 1
  /-- The conversion succeeds exactly if there is no fault and every document is converted. -/
  exitStatus : report.exitStatus = 0 ↔ fault = none ∧ ∀ document ∈ documents, ∃ object value,
    conversion.plan.dehydrate conversion.classId document.content = .ok object
      ∧ conversion.plan.hydrate object = .ok value

namespace Command

variable {interpreter : Interpreter} {workspace : Workspace} {options : GraphOptions}
  {inputs : InputOptions} {className : String} {graph : TypeGraph} {id : TypeId}
  {plan : Converters}

/-- A conversion is prepared once the graph is loaded, the class found and the plan built. -/
theorem prepareConversion_eq (hload : TypeGraph.load workspace options.path = .ok graph)
    (hclass : graph.findClass? className = some id)
    (hplan : Converters.build graph [id] options.target.routing = .ok plan) :
    prepareConversion interpreter workspace options inputs className
      = .ok ⟨plan, id, inputs, interpreter⟩ := by
  unfold prepareConversion
  rw [hload]
  dsimp only [bind, Except.bind]
  rw [hclass]
  dsimp only
  rw [hplan]
  rfl

/-- A prepared conversion of literal paths is reported by its journal and fault. -/
theorem perform_convert_eq {conversion : Conversion}
    (hprepare : prepareConversion interpreter workspace options inputs className = .ok conversion)
    (hinputs : ∀ path ∈ inputs.inputs, Pattern.isPattern path = false) (stdin : String) :
    (Command.convert options inputs className).perform interpreter workspace stdin
      = conversionReport workspace
          (conversion.onPaths workspace inputs.inputs stdin Journal.empty).1
          (conversion.onPaths workspace inputs.inputs stdin Journal.empty).2 := by
  have hrun : runConvert interpreter workspace stdin options inputs className
      = .ok (conversionReport workspace
          (conversion.onPaths workspace inputs.inputs stdin Journal.empty).1
          (conversion.onPaths workspace inputs.inputs stdin Journal.empty).2) := by
    unfold runConvert
    rw [hprepare, InputOptions.resolve_of_not_isPattern workspace hinputs]
    rfl
  rw [perform, hrun, Report.ofResult]

/-- A conversion succeeds if it has neither a report nor a fault. -/
theorem exitStatus_conversionReport (workspace : Workspace) (journal : Journal)
    (fault : Option SourceError) :
    (conversionReport workspace journal fault).exitStatus = 0
      ↔ fault = none ∧ journal.invalid = [] := by
  unfold conversionReport
  cases fault with
  | some fault => simp
  | none => cases journal.invalid <;> simp

/-- What is reported of the journal of documents accounts for them. -/
theorem accountsFor_conversionReport (conversion : Conversion) (workspace : Workspace)
    (documents : List (Labelled Json)) (fault : Option SourceError) :
    (conversionReport workspace (documents.foldl conversion.onDocument Journal.empty)
      fault).AccountsFor conversion documents fault := by
  rw [conversion.foldl_onDocument]
  have hexit := exitStatus_conversionReport workspace
    ⟨[] ++ documents.filterMap conversion.line?, [] ++ documents.filterMap conversion.complaint?⟩
    fault
  rw [List.nil_append, List.nil_append, conversion.filterMap_complaint?_eq_nil] at hexit
  exact {
    stdout := rfl
    stdoutLines := Text.lines_linesText_of_isInline fun _ => conversion.isInline_of_mem_line?
    stderr := rfl
    stderrLines := Text.lines_linesText _
    complaintLines := fun _ _ text _ => Text.length_lines text
    exitStatus := hexit }

/-- **Every document is accounted for.** Once the graph is loaded, the class found and the plan
built, literal paths come to one list of results, whatever the interpreter of filters, and the
documents of these results up to the first fault are what the command leaves behind: a line of
the standard output for each that can be read into the class and written back, and a report with
its label on the standard error for each other one. -/
theorem perform_convert_accounts (hload : TypeGraph.load workspace options.path = .ok graph)
    (hclass : graph.findClass? className = some id)
    (hplan : Converters.build graph [id] options.target.routing = .ok plan)
    (hinputs : ∀ path ∈ inputs.inputs,
      Pattern.isPattern path = false ∧ InputOptions.isStandardInput path = false)
    (interpreter : Interpreter) (stdin : String) :
    ∃ results, (∀ found, List.Forall₂ (inputs.PathComesTo interpreter workspace) inputs.inputs found
        ↔ found = results)
      ∧ ((Command.convert options inputs className).perform interpreter workspace
          stdin).AccountsFor ⟨plan, id, inputs, interpreter⟩ (beforeFault results.flatten)
            (firstFault results.flatten) := by
  refine ⟨inputs.inputs.map (inputs.resultsOf interpreter workspace), fun found => ?_, ?_⟩
  · rw [InputOptions.forall₂_pathComesTo_iff, eq_comm]
  · rw [← List.flatMap_def, perform_convert_eq (prepareConversion_eq hload hclass hplan)
      (fun path hm => (hinputs path hm).1) stdin,
      Conversion.onPaths_eq _ workspace (fun path hm => (hinputs path hm).2)]
    exact accountsFor_conversionReport _ workspace _ _

/-- A class with a string. -/
def itemGraph : TypeGraph where
  types := [.classType ⟨"Item", .ofList [("id", ⟨⟨1⟩, false⟩)]⟩, .string]
  topLevels := .empty
  sound := by decide

/-- Its plan. -/
def itemPlan : Converters where
  entries := [⟨0⟩]
  classes := ⟨[(⟨0⟩, ⟨⟨0⟩, "Item", [⟨"id", false, .copy .string⟩]⟩)], by decide⟩
  enums := .empty
  unions := .empty

/-- The graph as a document. -/
def itemText : String :=
  "\x7b\"types\":\x7b\"Item\":\x7b\"kind\":\"class\",\"fields\":\x7b\"id\":"
    ++ "\x7b\"type\":\"string\"\x7d\x7d\x7d\x7d\x7d"

/-- The graph, a file with an instance and something else in one line, a blank line and a line
without either, and a file whose only line has no items. -/
def itemFiles : Workspace where
  tree := .directory [("g", .file itemText),
    ("a", .file ("\x7b\"items\":[\x7b\"id\":\"x\"\x7d,\x7b\"id\":true\x7d]\x7d\n"
      ++ "\t\n\x7b\"items\":[]\x7d\n")),
    ("b", .file "\n\x7b\x7d\n")]
  here := []

/-- Where the graph is. -/
def itemOptions : GraphOptions := ⟨"g", .rust⟩

/-- Each element of the items of every line, of both files and of one that is not there. -/
def itemInputs : InputOptions := ⟨true, some "/items", some ".[]", ["a", "b", "c"]⟩

/-- An interpreter of the one filter that makes a document of each element of an array. -/
def eachElement : Interpreter
  | ".[]", .array items => .ok items
  | _, _ => .error "jq error"

/-- A graph is loaded if the text of its file is read as its types and entry points. -/
theorem load_of_parts {path text : String} (hread : workspace.read path = .ok text)
    (hparts : (TypeGraph.ofText text).map (fun graph => (graph.types, graph.topLevels))
      = .ok (graph.types, graph.topLevels)) : TypeGraph.load workspace path = .ok graph := by
  obtain ⟨⟨types, topLevels, sound⟩, hgraph, heq⟩ := map_eq_ok.mp hparts
  cases graph
  cases heq
  rw [TypeGraph.load, hread]
  dsimp only
  rw [hgraph]
  rfl

/-- Of two outputs one is converted and one reported, the next line has none, and the line after a
blank one ends the conversion because the pointer matches nothing in it. -/
theorem perform_convert_accounts_items :
    ((Command.convert itemOptions itemInputs "Item").perform eachElement itemFiles "").stdout
        = "\x7b\"id\":\"x\"\x7d\n"
      ∧ ((Command.convert itemOptions itemInputs "Item").perform eachElement itemFiles "").stderr
        = "invalid a:1#1: $.id: expected string, found bool\n"
          ++ "error: JSON pointer /items matched nothing in b:2\n"
      ∧ ((Command.convert itemOptions itemInputs "Item").perform eachElement itemFiles
          "").exitStatus ≠ 0 := by
  have hload : TypeGraph.load itemFiles itemOptions.path = .ok itemGraph :=
    load_of_parts rfl (by decide +kernel)
  have hclass : itemGraph.findClass? "Item" = some ⟨0⟩ := by decide
  have hplan : Converters.build itemGraph [⟨0⟩] itemOptions.target.routing = .ok itemPlan := rfl
  have hinputs : ∀ path ∈ itemInputs.inputs,
      Pattern.isPattern path = false ∧ InputOptions.isStandardInput path = false := by decide
  obtain ⟨results, hresults, haccounts⟩ :=
    perform_convert_accounts hload hclass hplan hinputs eachElement ""
  obtain rfl := (hresults _).mp (InputOptions.forall₂_pathComesTo_iff.mpr rfl)
  have hfault : (firstFault (itemInputs.inputs.map
      (itemInputs.resultsOf eachElement itemFiles)).flatten).isSome = true := by decide +kernel
  refine ⟨haccounts.stdout.trans (by decide +kernel), haccounts.stderr.trans (by decide +kernel),
    fun hstatus => ?_⟩
  rw [(haccounts.exitStatus.mp hstatus).1] at hfault
  cases hfault

/-- A class with a case of an enum. -/
def modeGraph : TypeGraph where
  types := [.enumType ⟨"Mode", .ofList ["on"]⟩,
    .classType ⟨"Item", .ofList [("mode", ⟨⟨0⟩, false⟩)]⟩]
  topLevels := .empty
  sound := by decide

/-- Its plan. -/
def modePlan : Converters where
  entries := [⟨1⟩]
  classes := ⟨[(⟨1⟩, ⟨⟨1⟩, "Item", [⟨"mode", false, .enumRef ⟨0⟩⟩]⟩)], by decide⟩
  enums := ⟨[(⟨0⟩, ⟨⟨0⟩, "Mode", .ofList ["on"]⟩)], by decide⟩
  unions := .empty

/-- A document whose case is none and has a line feed. -/
def modeDocument : Json := .object [("mode", .string "on\noff")]

/-- The graph as a document. -/
def modeText : String :=
  "\x7b\"types\":\x7b\"Mode\":\x7b\"kind\":\"enum\",\"cases\":[\"on\"]\x7d,"
    ++ "\"Item\":\x7b\"kind\":\"class\",\"fields\":\x7b\"mode\":"
    ++ "\x7b\"type\":\"Mode\"\x7d\x7d\x7d\x7d\x7d"

/-- The graph and a file with the document. -/
def modeFiles : Workspace where
  tree := .directory [("g", .file modeText), ("a", .file modeDocument.compact)]
  here := []

/-- The file as it is. -/
def modeInputs : InputOptions := ⟨false, none, none, ["a"]⟩

/-- The report on one document is two lines if the document has a line feed that the report
repeats. -/
theorem two_lines_for_one_document :
    TypeGraph.load modeFiles itemOptions.path = .ok modeGraph
      ∧ modeGraph.findClass? "Item" = some ⟨1⟩
      ∧ Converters.build modeGraph [⟨1⟩] itemOptions.target.routing = .ok modePlan
      ∧ List.Forall₂ (modeInputs.PathComesTo eachElement modeFiles) modeInputs.inputs
        [[.ok [⟨"a", modeDocument⟩]]]
      ∧ modePlan.dehydrate ⟨1⟩ modeDocument
        = .error (.unknownEnumCase (Path.top.child "mode") "Mode" "on\noff")
      ∧ Text.lines ((Command.convert itemOptions modeInputs "Item").perform eachElement modeFiles
          "").stderr
        = ["invalid a: $.mode: `on", "off` is not a case of enum Mode"] := by
  have hparse : Json.parse modeDocument.compact = .ok modeDocument := by decide +kernel
  have hload : TypeGraph.load modeFiles itemOptions.path = .ok modeGraph :=
    load_of_parts rfl (by decide +kernel)
  have hclass : modeGraph.findClass? "Item" = some ⟨1⟩ := by decide
  have hplan : Converters.build modeGraph [⟨1⟩] itemOptions.target.routing = .ok modePlan := rfl
  refine ⟨hload, hclass, hplan, .cons (.texts rfl ?_) .nil, by decide, ?_⟩
  · exact .cons (.document hparse (.whole rfl) rfl) .nil
  · rw [perform_convert_eq (prepareConversion_eq hload hclass hplan) (by decide)]
    decide +kernel

end Command

end Hydration
