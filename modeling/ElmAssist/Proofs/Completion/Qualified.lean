/-
  What is offered behind a qualifier.

  Behind a qualifier, an import is offered in one of two ways: as a module name, under what
  is left of its own name (`moduleLabel?`), or by the members of its module, if it is
  referred to by exactly what is typed (`isNamed`).

  * `qualifier?_eq_some_iff`: the name by which an import is selected.
  * `moduleLabels_qualifiedCandidates`, `members_qualifiedCandidates`: the labels of modules
    and the members that are offered, both in the order of the imports.
  * `complete_moduleLabels`: what is left of a name, put behind the qualifier and a dot,
    gives the name iff it begins with these.
  * `glued_module_offered`: a module is offered behind the first letters of its name.
  * `complete_qualifiedMembers`: exactly the imports that are named open up.
-/
import ElmAssist.Proofs.Completion.Documentation
import ElmAssist.Proofs.Completion.Segments

namespace ElmAssist

namespace Completion

open Elm Text

variable {i : Import} {typed : String}

/-! ## Names of imports -/

/-- The name by which an import is selected: its short name if that begins with what is
    typed, and otherwise its full name if that does. -/
theorem qualifier?_eq_some_iff {name : String} :
    qualifier? i typed = some name ↔ begins name typed = true ∧
      (i.shortName = some name ∨
        (∀ s, i.shortName = some s → begins s typed = false) ∧ i.moduleName = name) := by
  unfold qualifier?
  cases hs : i.shortName with
  | none => by_cases hm : begins i.moduleName typed = true <;> grind
  | some s =>
    by_cases hb : begins s typed = true
    · grind
    · by_cases hm : begins i.moduleName typed = true <;> grind

/-- Whether an import is referred to by exactly what is typed: by its short name, or by its
    full name if it has no short name that begins with what is typed. -/
def isNamed (typed : String) (i : Import) : Bool :=
  i.shortName == some typed || (!i.shortName.any (begins · typed) && i.moduleName == typed)

theorem isNamed_iff : isNamed typed i = true ↔ qualifier? i typed = some typed := by
  rw [qualifier?_eq_some_iff, isNamed]
  cases i.shortName with
  | none => simp
  | some s => simp

/-- The label under which an import is offered behind what is typed: what is left of its
    name, unless that is nothing. -/
def moduleLabel? (typed : String) (i : Import) : Option String :=
  (qualifier? i typed).bind fun name =>
    if remainingSegments name typed = [] then none
    else some (".".intercalate (remainingSegments name typed))

theorem moduleLabel?_eq_some_iff {label : String} :
    moduleLabel? typed i = some label ↔ ∃ name, qualifier? i typed = some name ∧
      remainingSegments name typed ≠ [] ∧ label = ".".intercalate (remainingSegments name typed) := by
  simp only [moduleLabel?, Option.bind_eq_some_iff]
  refine exists_congr fun name => and_congr_right fun _ => ?_
  split
  · next hrem => simp [hrem]
  · next hrem => simp [hrem, eq_comm]

/-- Behind nothing, every import is offered under its short name, or else its full name. -/
theorem moduleLabel?_empty (i : Import) :
    moduleLabel? "" i = some (i.shortName.getD i.moduleName) := by
  refine moduleLabel?_eq_some_iff.2 ⟨i.shortName.getD i.moduleName, ?_, ?_, ?_⟩
  · rw [qualifier?_eq_some_iff]
    cases i.shortName <;> simp
  · rw [remainingSegments_empty]
    exact split_ne_nil _ _
  · rw [remainingSegments_empty, intercalate_split]

/-! ## Imports behind a qualifier -/

/-- **The labels of modules** behind a qualifier are those of the imports in order, without
    repetition and without those that have been offered. -/
theorem moduleLabels_qualifiedCandidates (typed : String) (seen : List String)
    (resolved : List ResolvedImport) :
    moduleLabels (qualifiedCandidates typed seen resolved) =
      ((resolved.filterMap (moduleLabel? typed ·.clause)).filter
        fun label => !seen.contains label).eraseDups := by
  fun_induction qualifiedCandidates typed seen resolved with
  | case1 seen => rfl
  | case2 seen r rest hq ih =>
    have hlabel : moduleLabel? typed r.clause = none := by rw [moduleLabel?, hq]; rfl
    rw [ih, List.filterMap_cons, hlabel]
  | case3 seen r rest name hq hrem ih =>
    have hlabel : moduleLabel? typed r.clause = none := by
      rw [moduleLabel?, hq, Option.bind_some, if_pos hrem]
    rw [moduleLabels_append, moduleLabels_append, moduleLabels_functions,
      moduleLabels_constructors, ih, List.filterMap_cons, hlabel]
    rfl
  | case4 seen r rest name hq hrem label hseen ih =>
    have hlabel : moduleLabel? typed r.clause = some label :=
      moduleLabel?_eq_some_iff.2 ⟨name, hq, hrem, rfl⟩
    rw [ih, List.filterMap_cons, hlabel, List.filter_cons, hseen]
    rfl
  | case5 seen r rest name hq hrem label hseen ih =>
    have hlabel : moduleLabel? typed r.clause = some label :=
      moduleLabel?_eq_some_iff.2 ⟨name, hq, hrem, rfl⟩
    have hnew : seen.contains label = false := by rwa [Bool.not_eq_true] at hseen
    -- The labels behind it are those that differ from it and from the ones before.
    rw [moduleLabels_ofModule, ih, List.filterMap_cons, hlabel, List.filter_cons, hnew,
      Bool.not_false, if_pos rfl, List.eraseDups_cons, List.filter_filter]
    simp only [List.contains_cons, Bool.not_or]

/-- The candidates that are no module names. -/
def members (candidates : List Candidate) : List Candidate :=
  candidates.filter (·.kind != .moduleName)

@[simp] theorem members_append (cs ds : List Candidate) :
    members (cs ++ ds) = members cs ++ members ds :=
  List.filter_append ..

@[simp] theorem members_functions (r : ResolvedImport) : members r.functions = r.functions := by
  rw [members, List.filter_eq_self]
  intro c hc
  obtain ⟨f, -, rfl⟩ := List.mem_map.1 hc
  rfl

@[simp] theorem members_constructors (r : ResolvedImport) :
    members r.constructors = r.constructors := by
  rw [members, List.filter_eq_self]
  intro c hc
  obtain ⟨t, -, rfl⟩ := List.mem_map.1 hc
  rfl

/-- An import opens up iff it is named and something is typed. -/
theorem opens_iff {name : String} (hq : qualifier? i typed = some name) :
    remainingSegments name typed = [] ↔ (!typed.isEmpty && isNamed typed i) = true := by
  rw [remainingSegments_eq_nil_iff (qualifier?_eq_some_iff.1 hq).1, Bool.and_eq_true, isNamed_iff,
    hq]
  simp [and_comm]

/-- **The members** behind a qualifier are those of the imports that are named, in order. -/
theorem members_qualifiedCandidates (typed : String) (seen : List String)
    (resolved : List ResolvedImport) :
    members (qualifiedCandidates typed seen resolved) =
      (resolved.filter fun r => !typed.isEmpty && isNamed typed r.clause).flatMap
        fun r => r.functions ++ r.constructors := by
  fun_induction qualifiedCandidates typed seen resolved with
  | case1 seen => rfl
  | case2 seen r rest hq ih =>
    have hnamed : isNamed typed r.clause = false := by
      rw [← Bool.not_eq_true, isNamed_iff, hq]
      exact Option.some_ne_none typed ∘ Eq.symm
    rw [ih, List.filter_cons, hnamed, Bool.and_false]
    rfl
  | case3 seen r rest name hq hrem ih =>
    rw [members_append, members_append, members_functions, members_constructors, ih,
      List.filter_cons, if_pos ((opens_iff hq).1 hrem), List.flatMap_cons]
  | case4 seen r rest name hq hrem label hseen ih =>
    rw [ih, List.filter_cons, if_neg fun h => hrem ((opens_iff hq).2 h)]
  | case5 seen r rest name hq hrem label hseen ih =>
    rw [List.filter_cons, if_neg fun h => hrem ((opens_iff hq).2 h), ← ih]
    rfl

/-! ## Requests -/

variable {parse : SourceParser} {disk : Disk} {file : Path} {w : Workspace} {text word : String}
  {pos : Position} {current : Module} {resolved : List ResolvedImport} {label : String}

/-- Imports that are resolved keep their order. -/
theorem sublist_resolveImports (w : Workspace) (imports : List Import) :
    ((resolveImports parse disk file w imports).1.map (·.clause)).Sublist imports := by
  induction imports generalizing w with
  | nil => exact List.Sublist.refl []
  | cons i rest ih =>
    rw [fst_resolveImports_cons, resolveAlone]
    cases (w.moduleByName parse disk file i.moduleName).1 with
    | none => exact (ih _).cons i
    | some r => exact (ih _).cons_cons i

/-- The imports that are named are among those that are resolved for a request. -/
theorem filter_isNamed_requestedImports (current : Module) (typed word : String) :
    (requestedImports current (.qualified typed word)).filter (isNamed typed) =
      current.imports.filter (isNamed typed) := by
  rw [requestedImports_eq, List.filter_filter]
  refine List.filter_congr fun i _ => ?_
  cases hi : isNamed typed i with
  | false => rfl
  | true => rw [isRequested, isNamed_iff.1 hi]; rfl

/-- Behind nothing, all imports are resolved. -/
theorem requestedImports_empty (current : Module) (word : String) :
    requestedImports current (.qualified "" word) = current.imports := by
  rw [requestedImports_eq, List.filter_eq_self]
  intro i _
  rw [isRequested, Option.isSome_iff_exists]
  obtain ⟨name, hq, -⟩ := moduleLabel?_eq_some_iff.1 (moduleLabel?_empty i)
  exact ⟨name, hq⟩

theorem complete_qualified (hparse : parse text = .ok current)
    (hcontext : contextAt text pos = some (.qualified typed word)) :
    (complete parse disk w text file pos).1 =
      moduleCandidates typed (resolveImports parse disk file (edited w file current)
        (requestedImports current (.qualified typed word))).1 := by
  rw [complete_of_context hparse hcontext, candidatesIn_fst]
  rfl

theorem complete_fst_of_error {context : Context} {err : ParseError}
    (hparse : parse text = .error err) (hcontext : contextAt text pos = some context) :
    (complete parse disk w text file pos).1 = [] := by
  rw [complete_of_error hparse hcontext]

theorem moduleCandidates_of_ne (h : typed ≠ "") (resolved : List ResolvedImport) :
    moduleCandidates typed resolved = qualifiedCandidates typed [] resolved := by
  have hempty : typed.isEmpty = false := by simpa using h
  rw [moduleCandidates, hempty, if_neg Bool.false_ne_true, List.append_nil]

/-! ## Labels behind a qualifier -/

theorem mem_moduleLabels (h : typed ≠ "") :
    label ∈ moduleLabels (moduleCandidates typed resolved) ↔
      ∃ r ∈ resolved, moduleLabel? typed r.clause = some label := by
  simp [moduleCandidates_of_ne h, moduleLabels_qualifiedCandidates, List.mem_eraseDups]

/-- A label is the end of the name of its import, behind what this name shares with the typed
    qualifier and a dot. -/
theorem exists_name (h : typed ≠ "") (hlabel : moduleLabel? typed i = some label) :
    ∃ name front, qualifier? i typed = some name ∧ name ≠ typed ∧ EndsSegment front ∧
      begins (typed ++ ".") front = true ∧ name = front ++ label ∧
      (typed ++ "." ++ label = name ↔ begins name (typed ++ ".") = true) := by
  obtain ⟨name, hq, hrem, rfl⟩ := moduleLabel?_eq_some_iff.1 hlabel
  have hbegins : begins name typed = true := (qualifier?_eq_some_iff.1 hq).1
  have hne : name ≠ typed := fun hself =>
    hrem ((remainingSegments_eq_nil_iff hbegins).2 ⟨hself, h⟩)
  obtain ⟨front, hends, hfront, hname, hdot⟩ := exists_front hbegins hne h
  refine ⟨name, front, hq, hne, hends, hfront, hname, ?_⟩
  rw [← hdot]
  constructor
  · intro htyped
    exact ((String.append_left_inj _).1 (htyped.trans hname)).symm
  · intro htyped
    rw [← htyped]
    exact hname.symm

/-- A module that is offered behind a qualifier is one of the imports, under its label. -/
theorem exists_import_of_moduleName (htyped : typed ≠ "")
    (hcontext : contextAt text pos = some (.qualified typed word)) {c : Candidate}
    (hc : c ∈ (complete parse disk w text file pos).1) (hkind : c.kind = .moduleName) :
    ∃ current, parse text = .ok current ∧ ∃ i ∈ current.imports,
      moduleLabel? typed i = some c.label := by
  cases hparse : parse text with
  | error err =>
    rw [complete_fst_of_error hparse hcontext] at hc
    exact absurd hc List.not_mem_nil
  | ok current =>
    rw [complete_qualified hparse hcontext] at hc
    have hlabel : c.label ∈ moduleLabels (moduleCandidates typed _) :=
      List.mem_map_of_mem (List.mem_filter.2 ⟨hc, beq_iff_eq.2 hkind⟩)
    obtain ⟨r, hr, hl⟩ := (mem_moduleLabels htyped).1 hlabel
    have hclause : r.clause ∈ requestedImports current (.qualified typed word) :=
      (sublist_resolveImports _ _).subset (List.mem_map_of_mem hr)
    exact ⟨current, rfl, r.clause, mem_imports_of_mem_requestedImports hclause, hl⟩

/-- **Modules behind a qualifier.**  The label of a module that is offered is the end of the
    name of an import, behind dots up to which this name agrees with what is typed.  Put
    behind what is typed and a dot, it gives the name iff the name begins with these, and so
    it always does if the names that are selected go on with a dot. -/
theorem complete_moduleLabels (parse : SourceParser) (disk : Disk) (w : Workspace)
    (text : String) (file : Path) (pos : Position) (typed word : String)
    (hcontext : contextAt text pos = some (.qualified typed word)) (htyped : typed ≠ "") :
    let candidates := (complete parse disk w text file pos).1
    (∀ c ∈ candidates, c.kind = .moduleName → ∃ current, parse text = .ok current ∧
      ∃ i ∈ current.imports, ∃ name front, qualifier? i typed = some name ∧
        (i.shortName = some name ∨ i.moduleName = name) ∧ begins name typed = true ∧
        name = front ++ c.label ∧ EndsSegment front ∧ begins (typed ++ ".") front = true ∧
        (typed ++ "." ++ c.label = name ↔ begins name (typed ++ ".") = true)) ∧
    ((∀ current, parse text = .ok current → ∀ i ∈ current.imports, ∀ name,
        qualifier? i typed = some name → name = typed ∨ begins name (typed ++ ".") = true) →
      ∀ c ∈ candidates, c.kind = .moduleName → ∃ current, parse text = .ok current ∧
        ∃ i ∈ current.imports, i.shortName = some (typed ++ "." ++ c.label) ∨
          i.moduleName = typed ++ "." ++ c.label) := by
  intro candidates
  refine ⟨fun c hc hkind => ?_, fun hdots c hc hkind => ?_⟩
  · obtain ⟨current, hparse, i, hi, hlabel⟩ :=
      exists_import_of_moduleName htyped hcontext hc hkind
    obtain ⟨name, front, hq, -, hends, hfront, hname, hdot⟩ := exists_name htyped hlabel
    obtain ⟨hbegins, hnamed⟩ := qualifier?_eq_some_iff.1 hq
    exact ⟨current, hparse, i, hi, name, front, hq, hnamed.imp_right And.right, hbegins, hname,
      hends, hfront, hdot⟩
  · obtain ⟨current, hparse, i, hi, hlabel⟩ :=
      exists_import_of_moduleName htyped hcontext hc hkind
    obtain ⟨name, front, hq, hne, -, -, -, hdot⟩ := exists_name htyped hlabel
    have hname : typed ++ "." ++ c.label = name :=
      hdot.2 ((hdots current hparse i hi name hq).resolve_left hne)
    rw [hname]
    exact ⟨current, hparse, i, hi, (qualifier?_eq_some_iff.1 hq).2.imp_right And.right⟩

/-! ## Names that begin alike -/

/-- A disk with a module `Set`, one below it, and one whose name begins with the same
    letters. -/
def namesDisk : Disk :=
  { root := .directory [("s", .directory [("Set.elm", .file "f=1".toUTF8),
    ("Set", .directory [("Extra.elm", .file "f=1".toUTF8)]),
    ("Settings.elm", .file "f=1".toUTF8)])] }

/-- A text that imports the first two. -/
def dottedText : String := "import Set\nimport Set.Extra\nx=Set.y"

/-- What that text holds. -/
def dottedModule : Module :=
  { imports := [⟨"Set", none, none⟩, ⟨"Set.Extra", none, none⟩], functions := [⟨"x", none, none⟩] }

/-- A text that imports the third. -/
def gluedText : String := "import Settings\nx=Set.y"

/-- What that text holds. -/
def gluedModule : Module :=
  { imports := [⟨"Settings", none, none⟩], functions := [⟨"x", none, none⟩] }

theorem contextAt_dottedText : contextAt dottedText ⟨2, 7⟩ = some (.qualified "Set" "y") := by
  decide

theorem parse_dottedText : Elm.parse dottedText = .ok dottedModule := by
  decide +kernel

theorem contextAt_gluedText : contextAt gluedText ⟨1, 7⟩ = some (.qualified "Set" "y") := by
  decide

theorem parse_gluedText : Elm.parse gluedText = .ok gluedModule := by
  decide +kernel

theorem load?_set : namesDisk.load? Elm.parse ⟨"/s/Set.elm"⟩ = some Server.importedModule := by
  have hsteps : (⟨"/s/Set.elm"⟩ : Path).steps = ["s", "Set.elm"].map .down := by decide
  exact Disk.load?_of_names hsteps (by decide) (by decide) (by decide) rfl
    Server.parse_importedModule

theorem load?_setExtra :
    namesDisk.load? Elm.parse ⟨"/s/Set/Extra.elm"⟩ = some Server.importedModule := by
  have hsteps : (⟨"/s/Set/Extra.elm"⟩ : Path).steps = ["s", "Set", "Extra.elm"].map .down := by
    decide
  exact Disk.load?_of_names hsteps (by decide) (by decide) (by decide) rfl
    Server.parse_importedModule

theorem load?_settings :
    namesDisk.load? Elm.parse ⟨"/s/Settings.elm"⟩ = some Server.importedModule := by
  have hsteps : (⟨"/s/Settings.elm"⟩ : Path).steps = ["s", "Settings.elm"].map .down := by decide
  exact Disk.load?_of_names hsteps (by decide) (by decide) (by decide) rfl
    Server.parse_importedModule

/-- The imports of the first text are resolved. -/
theorem resolveImports_dottedModule :
    (resolveImports Elm.parse namesDisk ⟨"/s/Main.elm"⟩
        (edited Server.sourceWorkspace ⟨"/s/Main.elm"⟩ dottedModule)
        (requestedImports dottedModule (.qualified "Set" "y"))).1 =
      [⟨⟨"Set", none, none⟩, Server.importedModule⟩,
        ⟨⟨"Set.Extra", none, none⟩, Server.importedModule⟩] := by
  have howns : Server.sourceProject.owns ⟨"/s/Main.elm"⟩ = true := by decide
  have hrequested : requestedImports dottedModule (.qualified "Set" "y") =
      [⟨"Set", none, none⟩, ⟨"Set.Extra", none, none⟩] := by decide
  have hfiles : ∀ moduleName, (edited Server.sourceWorkspace ⟨"/s/Main.elm"⟩
      dottedModule).resolver.filesFor namesDisk ⟨"/s/Main.elm"⟩ moduleName =
        [(⟨"/s"⟩ : Path).join (modulePath moduleName)] :=
    Server.filesFor_sourceWorkspace howns
  rw [hrequested, resolveImports_fst]
  · rw [List.filterMap_cons, List.filterMap_cons,
      Server.resolveAlone_sourceWorkspace howns (by decide) (by decide) load?_set,
      Server.resolveAlone_sourceWorkspace howns (by decide) (by decide) load?_setExtra]
    rfl
  · rw [filesTried, List.flatMap_cons, List.flatMap_singleton, hfiles, hfiles]
    exact spelledAlike_of_short (by decide)

/-- Behind `Set`, its function is offered, and the module below it. -/
theorem complete_dottedText :
    (complete Elm.parse namesDisk Server.sourceWorkspace dottedText ⟨"/s/Main.elm"⟩ ⟨2, 7⟩).1 =
      [.ofFunction "Set" ⟨"f", none, none⟩, .ofModule "Extra" "Set.Extra"] := by
  rw [complete_qualified parse_dottedText contextAt_dottedText, resolveImports_dottedModule]
  decide

/-- The module below it goes on with a dot, and its label is what follows this. -/
theorem complete_moduleLabels_dottedText :
    let candidates :=
      (complete Elm.parse namesDisk Server.sourceWorkspace dottedText ⟨"/s/Main.elm"⟩ ⟨2, 7⟩).1
    .ofModule "Extra" "Set.Extra" ∈ candidates ∧
      ∃ i ∈ dottedModule.imports, i.shortName = some "Set.Extra" ∨ i.moduleName = "Set.Extra" := by
  intro candidates
  have hoffered : .ofModule "Extra" "Set.Extra" ∈ candidates := by
    show _ ∈ (complete Elm.parse namesDisk _ dottedText _ _).1
    rw [complete_dottedText]
    decide
  obtain ⟨current, hparse, i, hi, hname⟩ := (complete_moduleLabels Elm.parse namesDisk
    Server.sourceWorkspace dottedText ⟨"/s/Main.elm"⟩ ⟨2, 7⟩ "Set" "y" contextAt_dottedText
    (by decide)).2 (fun current hparse => by
      rw [parse_dottedText, Except.ok.injEq] at hparse
      subst hparse
      decide) _ hoffered rfl
  rw [parse_dottedText, Except.ok.injEq] at hparse
  subst hparse
  exact ⟨hoffered, i, hi, hname⟩

/-- The third module is offered behind `Set` as well, although no import has the name
    `Set.Settings`. -/
theorem glued_module_offered :
    let candidates :=
      (complete Elm.parse namesDisk Server.sourceWorkspace gluedText ⟨"/s/Main.elm"⟩ ⟨1, 7⟩).1
    contextAt gluedText ⟨1, 7⟩ = some (.qualified "Set" "y") ∧
      Elm.parse gluedText = .ok gluedModule ∧
      .ofModule "Settings" "Settings" ∈ candidates ∧
      ∀ i ∈ gluedModule.imports, i.shortName ≠ some ("Set" ++ "." ++ "Settings") ∧
        i.moduleName ≠ "Set" ++ "." ++ "Settings" := by
  intro candidates
  have howns : Server.sourceProject.owns ⟨"/s/Main.elm"⟩ = true := by decide
  have hrequested : requestedImports gluedModule (.qualified "Set" "y") =
      [⟨"Settings", none, none⟩] := by decide
  refine ⟨contextAt_gluedText, parse_gluedText, ?_, by decide⟩
  show _ ∈ (complete Elm.parse namesDisk _ gluedText _ _).1
  rw [complete_qualified parse_gluedText contextAt_gluedText, hrequested,
    fst_resolveImports_cons,
    Server.resolveAlone_sourceWorkspace howns (by decide) (by decide) load?_settings]
  decide

/-! ## Members behind a qualifier -/

/-- Behind nothing, only module names are offered at first, as no import is named by it. -/
theorem kind_of_mem_qualifiedCandidates {c : Candidate}
    (hc : c ∈ qualifiedCandidates "" [] resolved) : c.kind = .moduleName := by
  have hmembers : members (qualifiedCandidates "" [] resolved) = [] := by
    simp [members_qualifiedCandidates]
  simpa using List.filter_eq_nil_iff.1 hmembers c hc

theorem labels_qualifiedCandidates_empty (resolved : List ResolvedImport) :
    (qualifiedCandidates "" [] resolved).map (·.label) =
      (resolved.map fun r => r.clause.shortName.getD r.clause.moduleName).eraseDups := by
  have hall : (qualifiedCandidates "" [] resolved).filter (·.kind == .moduleName) =
      qualifiedCandidates "" [] resolved :=
    List.filter_eq_self.2 fun c hc => beq_iff_eq.2 (kind_of_mem_qualifiedCandidates hc)
  have hlabels := moduleLabels_qualifiedCandidates "" [] resolved
  rw [moduleLabels, hall] at hlabels
  simpa [moduleLabel?_empty] using hlabels

/-- **Exactly the imports that are named open up.**  Behind a qualifier, the functions and
    constructors that are offered are the exposed ones of the resolved imports that the
    qualifier names, import by import.  Behind nothing, each resolved import is offered
    under its short name, or else its full name, and all their exposed constructors come
    behind these. -/
theorem complete_qualifiedMembers (parse : SourceParser) (disk : Disk) (w : Workspace)
    (text : String) (file : Path) (pos : Position) (typed word : String)
    (hcontext : contextAt text pos = some (.qualified typed word)) :
    let candidates := (complete parse disk w text file pos).1
    (∀ err, parse text = .error err → candidates = []) ∧
    ∀ current, parse text = .ok current →
      let requested := requestedImports current (.qualified typed word)
      let resolved := (resolveImports parse disk file (edited w file current) requested).1
      (resolved.map (·.clause)).Sublist requested ∧
      (typed ≠ "" →
        requested.filter (isNamed typed) = current.imports.filter (isNamed typed) ∧
        candidates.filter (·.kind != .moduleName) =
          (resolved.filter (isNamed typed ·.clause)).flatMap
            fun r => r.functions ++ r.constructors) ∧
      (typed = "" → requested = current.imports ∧
        ∃ modules, candidates = modules ++ resolved.flatMap (·.constructors) ∧
          (∀ c ∈ modules, c.kind = .moduleName) ∧
          modules.map (·.label) =
            (resolved.map fun r => r.clause.shortName.getD r.clause.moduleName).eraseDups) := by
  intro candidates
  refine ⟨fun err hparse => complete_fst_of_error hparse hcontext, fun current hparse => ?_⟩
  intro requested resolved
  have hcandidates : candidates = moduleCandidates typed resolved :=
    complete_qualified hparse hcontext
  refine ⟨sublist_resolveImports _ _, fun htyped => ⟨?_, ?_⟩, fun htyped => ⟨?_, ?_⟩⟩
  · exact filter_isNamed_requestedImports current typed word
  · have hempty : typed.isEmpty = false := by simpa using htyped
    have hmembers := members_qualifiedCandidates typed [] resolved
    rw [hempty] at hmembers
    rw [hcandidates, moduleCandidates_of_ne htyped]
    exact hmembers
  · show requestedImports current (.qualified typed word) = current.imports
    rw [htyped, requestedImports_empty]
  · subst htyped
    exact ⟨qualifiedCandidates "" [] resolved, hcandidates,
      fun c hc => kind_of_mem_qualifiedCandidates hc, labels_qualifiedCandidates_empty resolved⟩

/-- Behind `Set`, the module of this name opens up, and the one below it does not. -/
theorem complete_qualifiedMembers_dottedText :
    contextAt dottedText ⟨2, 7⟩ = some (.qualified "Set" "y") ∧
      (complete Elm.parse namesDisk Server.sourceWorkspace dottedText ⟨"/s/Main.elm"⟩
        ⟨2, 7⟩).1.filter (·.kind != .moduleName) = [.ofFunction "Set" ⟨"f", none, none⟩] := by
  obtain ⟨-, hmembers, -⟩ := (complete_qualifiedMembers Elm.parse namesDisk
    Server.sourceWorkspace dottedText ⟨"/s/Main.elm"⟩ ⟨2, 7⟩ "Set" "y"
    contextAt_dottedText).2 dottedModule parse_dottedText
  refine ⟨contextAt_dottedText, ?_⟩
  rw [(hmembers (by decide)).2, resolveImports_dottedModule]
  decide

end Completion

end ElmAssist
