/-
  What is offered can be documented.

  An item is offered from the module that its import resolves to, and it is documented by
  looking that module up again, by its name.  In between the cache has grown by what the
  request has loaded, so the second look-up finds the module of the first.

  * `documentItem?_function`, `documentItem?_constructor`: what a module declares is
    documented under its name.
  * `moduleByName_after`: after a request, the modules of its imports are found again.
  * `offered_items_documented`: candidates from imports are documented, and so are the items
    that the server makes of them.
  * `hidden_or_unnoted_items`: two reasons why an item may stay without documentation.
-/
import ElmAssist.Proofs.Completion.Independence
import ElmAssist.Server.Backend
import Mathlib.Data.List.Nodup

namespace ElmAssist

namespace Completion

open Elm

variable {parse : SourceParser} {disk : Disk} {file : Path} {w base : Workspace}
  {tried : List Path}

/-! ## Documentation in a module -/

theorem name_of_function? {m : Module} {f : Function} {name : String}
    (h : m.function? name = some f) : f.name = name := by
  have hfound := List.find?_some h
  exact beq_iff_eq.1 hfound

theorem name_of_customType? {m : Module} {t : CustomType} {name : String}
    (h : m.customType? name = some t) : t.name = name := by
  have hfound := List.find?_some h
  exact beq_iff_eq.1 hfound

/-- The documentation of a function names it.  Its type is the one that is shown, as long as
    no other function has the name. -/
theorem documentItem?_function {m : Module} {f : Function} (hf : f ∈ m.functions) :
    ∃ doc, documentItem? m f.name = some doc ∧ doc.name = f.name ∧
      ((m.functions.map (·.name)).Nodup → doc.signature = f.signature) := by
  obtain ⟨g, hg⟩ : ∃ g, m.function? f.name = some g :=
    Option.isSome_iff_exists.1 (List.find?_isSome.2 ⟨f, hf, beq_self_eq_true _⟩)
  have hname := name_of_function? hg
  refine ⟨⟨g.name, g.signature, g.comment⟩, by rw [documentItem?, hg]; rfl, hname, fun hnodup => ?_⟩
  rw [List.inj_on_of_nodup_map hnodup (List.mem_of_find?_eq_some hg) hf hname]

/-- The documentation of a constructor names it, also where a function or a type has the
    same name. -/
theorem documentItem?_constructor {m : Module} {t : CustomType} {name : String}
    (ht : t ∈ m.types) (hname : name ∈ t.constructors) :
    ∃ doc, documentItem? m name = some doc ∧ doc.name = name := by
  obtain ⟨owner, howner⟩ : ∃ owner, m.typeOfConstructor? name = some owner :=
    Option.isSome_iff_exists.1 (List.find?_isSome.2 ⟨t, ht, List.contains_iff_mem.2 hname⟩)
  unfold documentItem?
  cases hf : m.function? name with
  | some f => exact ⟨_, rfl, name_of_function? hf⟩
  | none =>
    cases ht : m.customType? name with
    | some t => exact ⟨_, rfl, name_of_customType? ht⟩
    | none => exact ⟨_, by rw [howner]; rfl, rfl⟩

/-- Everything that an import offers is documented in its module. -/
theorem ResolvedImport.documented {r : ResolvedImport} {c : Candidate}
    (hc : c ∈ r.functions ++ r.constructors) :
    c.moduleName = r.clause.moduleName ∧
      ∃ doc, documentItem? r.parsed c.label = some doc ∧ doc.name = c.label ∧
        (c.kind = .function → (r.parsed.functions.map (·.name)).Nodup →
          doc.signature = c.detail) := by
  rcases List.mem_append.1 hc with hc | hc
  · obtain ⟨f, hf, rfl⟩ := List.mem_map.1 hc
    obtain ⟨doc, hdoc, hname, hsignature⟩ :=
      documentItem?_function (Module.mem_exposedFunctions.1 hf).1
    exact ⟨rfl, doc, hdoc, hname, fun _ => hsignature⟩
  · obtain ⟨⟨t, name⟩, ht, rfl⟩ := List.mem_map.1 hc
    obtain ⟨hdeclared, -, hmem⟩ := Module.mem_exposedConstructors.1 ht
    obtain ⟨doc, hdoc, hname⟩ := documentItem?_constructor hdeclared hmem
    exact ⟨rfl, doc, hdoc, hname, nofun⟩

variable (parse disk) in
theorem describe_fst (w : Workspace) (file : Path) (moduleName item : String) :
    (describe parse disk w file moduleName item).1 =
      (w.moduleByName parse disk file moduleName).1.bind fun r => documentItem? r.parsed item :=
  rfl

/-! ## The state after a request -/

/-- A request lets the workspace grow. -/
theorem grown_candidatesIn {current : Module} {context : Context}
    (halike : disk.ReadsAlike parse tried)
    (htried : filesTried disk file w (requestedImports current context) ⊆ tried) :
    Workspace.Grown parse disk tried w (candidatesIn parse disk w file current context).2 := by
  cases context with
  | value typed => exact (resolveImports_grown (.refl w) halike htried).2
  | qualified qualifier word => exact (resolveImports_grown (.refl w) halike htried).2
  | importing typed =>
    rw [candidatesIn_importing]
    exact ⟨Resolver.loaded_loaded _ _, .refl _⟩

/-- After a request, the module of an import that was resolved is found again. -/
theorem moduleByName_after {imports : List Import} {r : ResolvedImport}
    (hgrown : Workspace.Grown parse disk (filesTried disk file base imports) base w)
    (halike : Path.SpelledAlike (filesTried disk file base imports))
    (hr : r ∈ (resolveImports parse disk file base imports).1) :
    ∃ path, (w.moduleByName parse disk file r.clause.moduleName).1 = some ⟨path, r.parsed⟩ := by
  rw [resolveImports_fst halike] at hr
  obtain ⟨i, hi, halone⟩ := List.mem_filterMap.1 hr
  obtain ⟨found, hfound, rfl⟩ := Option.map_eq_some_iff.1 halone
  refine ⟨found.path, ?_⟩
  rw [hgrown.moduleByName_fst (readsAlike_filesTried halike) (filesFor_subset_filesTried hi)]
  exact hfound

/-- After a request, items are looked for in the modules to which its imports have been
    resolved. -/
theorem describe_after {text : String} {pos : Position} {current : Module} {context : Context}
    (hparse : parse text = .ok current) (hcontext : contextAt text pos = some context)
    (halike : Path.SpelledAlike (filesTried disk file w (requestedImports current context)))
    {r : ResolvedImport} (hr : r ∈ (resolveImports parse disk file (edited w file current)
      (requestedImports current context)).1) (item : String) :
    (describe parse disk (complete parse disk w text file pos).2 file r.clause.moduleName item).1 =
      documentItem? r.parsed item := by
  have hedited : Path.SpelledAlike
      (filesTried disk file (edited w file current) (requestedImports current context)) := halike
  have hreads : disk.ReadsAlike parse
      (filesTried disk file (edited w file current) (requestedImports current context)) :=
    readsAlike_filesTried hedited
  have hgrown := grown_candidatesIn hreads (List.Subset.refl _)
  rw [← complete_of_context hparse hcontext] at hgrown
  obtain ⟨path, hfound⟩ := moduleByName_after hgrown hedited hr
  rw [describe_fst, hfound]
  rfl

/-- What an import offers can be described after the request. -/
theorem describe_offered {text : String} {pos : Position} {current : Module}
    {context : Context} (hparse : parse text = .ok current)
    (hcontext : contextAt text pos = some context)
    (halike : Path.SpelledAlike (filesTried disk file w (requestedImports current context)))
    {r : ResolvedImport} (hr : r ∈ (resolveImports parse disk file (edited w file current)
      (requestedImports current context)).1)
    {c : Candidate} (hc : c ∈ r.functions ++ r.constructors) :
    ∃ doc, (describe parse disk (complete parse disk w text file pos).2 file c.moduleName
        c.label).1 = some doc ∧ doc.name = c.label ∧
      (c.kind = .function → (r.parsed.functions.map (·.name)).Nodup →
        doc.signature = c.detail) := by
  obtain ⟨hmodule, doc, hdoc, hrest⟩ := r.documented hc
  refine ⟨doc, ?_, hrest⟩
  rw [hmodule, describe_after hparse hcontext halike hr]
  exact hdoc

end Completion

namespace Server

open Completion

/-! ## Items -/

/-- The path of a document is text if its bytes are UTF-8. -/
theorem isText_of_filePath? {uri : Uri} {file : Path} (h : uri.filePath? = some file) :
    file.isText = (Text.text? file.bytes).isSome := by
  obtain ⟨bytes, -, rfl⟩ := Option.map_eq_some_iff.1 h
  rw [Path.isText_ofBytes, Path.bytes_ofBytes]

/-- The note on an item can be read back if the path in it is text. -/
theorem Origin.ofJson?_toJson {o : Origin} (h : o.path.isText = true) :
    ofJson? o.toJson = some o := by
  have hread : ofJson? o.toJson = some ⟨.ofText o.path.shown, o.moduleName⟩ := rfl
  rw [hread, Path.ofText_shown h]

/-- An item for a function or constructor tells where it comes from. -/
theorem Item.origin?_ofCandidate {c : Candidate} (h : c.kind ≠ .moduleName) {file : Path}
    (htext : file.isText = true) : (ofCandidate file c).origin? = some ⟨file, c.moduleName⟩ := by
  have hnote : Origin.ofJson? (Origin.toJson ⟨file, c.moduleName⟩) = some ⟨file, c.moduleName⟩ :=
    Origin.ofJson?_toJson htext
  simp [origin?, ofCandidate, h, hnote]

/-- An item, and the same item with the documentation of something that a module declares. -/
structure Item.Documents (doc : ItemDocumentation) (moduleName : String)
    (item documented : Item) : Prop where
  documentation : documented.documentation = some (.object
    [("kind", .string "markdown"), ("value", .string (markdown doc moduleName))])
  label : documented.label = item.label
  kind : documented.kind = item.kind
  data : documented.data = item.data
  others : documented.others = item.others
  /-- A detail that is there stays. -/
  detail {d : String} : item.detail = some d → documented.detail = some d

theorem Item.documents_document (item : Item) (doc : ItemDocumentation) (moduleName : String) :
    Documents doc moduleName item (item.document doc moduleName) :=
  ⟨rfl, rfl, rfl, rfl, rfl, fun h => by rw [document, h]; rfl⟩

namespace Backend

variable {disk : Disk} {b : Backend} {uri : Uri} {pos : Position} {file : Path} {text : String}

variable (disk pos) in
/-- The answer about a document that is open. -/
theorem completion_of_open (hfile : uri.filePath? = some file) (hopen : b.text? uri = some text) :
    let result := complete Elm.parse disk b.workspace text file pos
    let items := result.1.map (Item.ofCandidate file)
    b.completion disk uri pos =
      (some (if file.isText then items else items.map (·.withoutData)),
        { b with workspace := result.2 }) := by
  intro result items
  rw [completion, hfile, hopen]

variable (b) in
theorem resolve_of_describe {item : Item} {o : Origin} {doc : ItemDocumentation}
    (ho : item.origin? = some o)
    (hdoc : (describe Elm.parse disk b.workspace o.path o.moduleName item.label).1 = some doc) :
    (b.resolve disk item).1 = item.document doc o.moduleName := by
  rw [resolve, ho]
  show (Option.map _ (describe _ _ _ _ _ _).1).getD item = _
  rw [hdoc]
  rfl

end Backend

/-- **What an import offers can be documented.**  As long as no file that is tried for the
    imports is spelled both too long and short enough, everything that a resolved import
    offers is described after the request, under its label and with the type that was shown
    with it; and if the path of the document is UTF-8, the item that the server has made of
    it is returned with this documentation and otherwise as it was. -/
theorem offered_items_documented (disk : Disk) :
    (∀ (parse : Elm.SourceParser) (w : Workspace) (text : String) (file : Path) (pos : Position)
      (current : Elm.Module) (context : Context),
      parse text = .ok current → contextAt text pos = some context →
      Path.SpelledAlike (filesTried disk file w (requestedImports current context)) →
      let resolved := (resolveImports parse disk file (edited w file current)
        (requestedImports current context)).1
      let w' := (complete parse disk w text file pos).2
      ∀ r ∈ resolved, ∀ c ∈ r.functions ++ r.constructors,
        ∃ doc, (describe parse disk w' file c.moduleName c.label).1 = some doc ∧
          doc.name = c.label ∧
          (c.kind = .function → (r.parsed.functions.map (·.name)).Nodup →
            doc.signature = c.detail)) ∧
    ∀ (b : Backend) (uri : Uri) (text : String) (file : Path) (pos : Position)
      (current : Elm.Module) (context : Context),
      uri.filePath? = some file → (Text.text? file.bytes).isSome = true → b.text? uri = some text →
      Elm.parse text = .ok current → contextAt text pos = some context →
      Path.SpelledAlike (filesTried disk file b.workspace (requestedImports current context)) →
      let resolved := (resolveImports Elm.parse disk file (edited b.workspace file current)
        (requestedImports current context)).1
      let candidates := (complete Elm.parse disk b.workspace text file pos).1
      let answer := b.completion disk uri pos
      answer.1 = some (candidates.map (Item.ofCandidate file)) ∧
      ∀ r ∈ resolved, ∀ c ∈ r.functions ++ r.constructors,
        ∃ doc, doc.name = c.label ∧ Item.Documents doc c.moduleName (Item.ofCandidate file c)
          (answer.2.resolve disk (Item.ofCandidate file c)).1 := by
  constructor
  · intro parse w text file pos current context hparse hcontext halike resolved w' r hr c hc
    exact describe_offered hparse hcontext halike hr hc
  intro b uri text file pos current context hfile hbytes hopen hparse hcontext halike resolved
    candidates answer
  have htext : file.isText = true := (isText_of_filePath? hfile).trans hbytes
  have hanswer : answer = _ := Backend.completion_of_open disk pos hfile hopen
  rw [if_pos htext] at hanswer
  refine ⟨congrArg Prod.fst hanswer, fun r hr c hc => ?_⟩
  obtain ⟨doc, hdoc, hname, -⟩ := describe_offered hparse hcontext halike hr hc
  refine ⟨doc, hname, ?_⟩
  have hkind : c.kind ≠ .moduleName := by
    rcases List.mem_append.1 hc with hc | hc
    · obtain ⟨f, -, rfl⟩ := List.mem_map.1 hc; exact nofun
    · obtain ⟨t, -, rfl⟩ := List.mem_map.1 hc; exact nofun
  have hresolve := Backend.resolve_of_describe
    { b with workspace := (complete Elm.parse disk b.workspace text file pos).2 }
    (Item.origin?_ofCandidate hkind htext) hdoc
  rw [hanswer, hresolve]
  exact Item.documents_document _ doc c.moduleName

/-! ## Sources -/

/-- A disk with one module. -/
def sourceDisk : Disk :=
  { root := .directory [("s", .directory [("A.elm", .file "f=1".toUTF8)])] }

/-- The project with that module. -/
def sourceProject : Project :=
  { manifest := ⟨"/s/elm.json"⟩
    kind := .application
    elmVersion := "0.19.1"
    sourceDirectories := [⟨"/s"⟩]
    dependencies := [] }

/-- A workspace with that project. -/
def sourceWorkspace : Workspace :=
  { resolver := { projects := some [sourceProject] } }

/-- A text that imports it. -/
def importingText : String := "import A\nx=A.f"

/-- What that text holds. -/
def importingModule : Elm.Module :=
  { imports := [⟨"A", none, none⟩], functions := [⟨"x", none, none⟩] }

/-- What the module holds. -/
def importedModule : Elm.Module :=
  { functions := [⟨"f", none, none⟩] }

/-- A server on which the text has been opened as a document. -/
def sourceBackend (uri : Uri) : Backend :=
  { workspace := sourceWorkspace, documents := [(uri, importingText)] }

@[simp] theorem workspace_sourceBackend (uri : Uri) :
    (sourceBackend uri).workspace = sourceWorkspace := rfl

theorem parse_importingText : Elm.parse importingText = .ok importingModule := by
  decide +kernel

theorem contextAt_importingText : contextAt importingText ⟨1, 5⟩ = some (.qualified "A" "f") := by
  decide

theorem parse_importedModule : Elm.parse "f=1" = .ok importedModule := by
  decide +kernel

theorem load?_importedModule : sourceDisk.load? Elm.parse ⟨"/s/A.elm"⟩ = some importedModule := by
  have hsteps : (⟨"/s/A.elm"⟩ : Path).steps = ["s", "A.elm"].map .down := by decide
  exact Disk.load?_of_names hsteps (by decide) (by decide) (by decide) rfl
    parse_importedModule

variable {disk : Disk} {file : Path}

/-- The import that a completion behind `A.` asks for. -/
theorem requestedImports_importingModule :
    requestedImports importingModule (.qualified "A" "f") = [⟨"A", none, none⟩] := by
  decide

/-- From a file of the project, a module is looked for in one place. -/
theorem filesFor_sourceWorkspace (howns : sourceProject.owns file = true) (moduleName : String) :
    sourceWorkspace.resolver.filesFor disk file moduleName =
      [(⟨"/s"⟩ : Path).join (modulePath moduleName)] := by
  have howner : (sourceWorkspace.resolver.projectFor disk file).1 = some sourceProject := by
    show [sourceProject].find? (fun q => q.owns file) = _
    exact List.find?_cons_of_pos howns
  rw [Resolver.filesFor_of_project howner]
  rfl

/-- An import is resolved there, from any other file of the project. -/
theorem resolveAlone_sourceWorkspace {current m : Elm.Module} {i : Elm.Import} {path : Path}
    (howns : sourceProject.owns file = true)
    (hpath : (⟨"/s"⟩ : Path).join (modulePath i.moduleName) = path)
    (hother : file.same path = false) (hload : disk.load? Elm.parse path = some m) :
    resolveAlone Elm.parse disk file (edited sourceWorkspace file current) i = some ⟨i, m⟩ := by
  have hcached : (edited sourceWorkspace file current).cache.module? path = none := by
    rw [edited, ModuleCache.module?_store, hother]; rfl
  have hfiles : (edited sourceWorkspace file current).resolver.filesFor disk file i.moduleName =
      [path] := by
    rw [← hpath]
    exact filesFor_sourceWorkspace howns i.moduleName
  rw [resolveAlone, Workspace.moduleByName_fst, hfiles, List.findSome?_singleton,
    ModuleCache.load?, hcached, hload]
  rfl

theorem spelledAlike_importingModule (howns : sourceProject.owns file = true) :
    Path.SpelledAlike (filesTried disk file sourceWorkspace
      (requestedImports importingModule (.qualified "A" "f"))) := by
  rw [requestedImports_importingModule, filesTried, List.flatMap_singleton,
    filesFor_sourceWorkspace howns]
  exact spelledAlike_of_short (by decide)

/-- The import is resolved from any other file of the project. -/
theorem resolveImports_importingModule {m : Elm.Module} (howns : sourceProject.owns file = true)
    (hother : file.same ⟨"/s/A.elm"⟩ = false)
    (hload : disk.load? Elm.parse ⟨"/s/A.elm"⟩ = some m) :
    (resolveImports Elm.parse disk file (edited sourceWorkspace file importingModule)
        (requestedImports importingModule (.qualified "A" "f"))).1 = [⟨⟨"A", none, none⟩, m⟩] := by
  rw [requestedImports_importingModule, fst_resolveImports_cons,
    resolveAlone_sourceWorkspace howns (by decide) hother hload]
  rfl

/-- The item for the function of the module. -/
def importedFunction : Candidate := .ofFunction "A" ⟨"f", none, none⟩

/-- The function is offered. -/
theorem complete_importingText (howns : sourceProject.owns file = true)
    (hother : file.same ⟨"/s/A.elm"⟩ = false) :
    (complete Elm.parse sourceDisk sourceWorkspace importingText file ⟨1, 5⟩).1 =
      [importedFunction] := by
  rw [complete_of_context parse_importingText contextAt_importingText, candidatesIn_fst,
    resolveImports_importingModule howns hother load?_importedModule]
  rfl

/-- Its item is documented. -/
theorem document_importedFunction :
    let uri : Uri := ⟨"file", none, .segments ["s", "Main.elm"], none, none⟩
    let item := Item.ofCandidate ⟨"/s/Main.elm"⟩ importedFunction
    let answer := (sourceBackend uri).completion sourceDisk uri ⟨1, 5⟩
    answer.1 = some [item] ∧ (answer.2.resolve sourceDisk item).1.documentation.isSome = true := by
  intro uri item answer
  have howns : sourceProject.owns ⟨"/s/Main.elm"⟩ = true := by decide
  have hother : (⟨"/s/Main.elm"⟩ : Path).same ⟨"/s/A.elm"⟩ = false := by decide
  obtain ⟨hitems, hdocumented⟩ := (offered_items_documented sourceDisk).2 (sourceBackend uri) uri
    importingText ⟨"/s/Main.elm"⟩ ⟨1, 5⟩ importingModule (.qualified "A" "f") (by decide +kernel)
    (by decide +kernel) (by decide +kernel) parse_importingText contextAt_importingText
    (spelledAlike_importingModule howns)
  rw [workspace_sourceBackend,
    resolveImports_importingModule howns hother load?_importedModule] at hdocumented
  obtain ⟨doc, -, hdoc⟩ := hdocumented _ List.mem_cons_self importedFunction (by decide)
  refine ⟨?_, by rw [hdoc.documentation]; rfl⟩
  rw [workspace_sourceBackend, complete_importingText howns hother] at hitems
  exact hitems

/-! ## Items that are not documented -/

/-- An item that does not tell where it comes from is returned as it is. -/
theorem Backend.resolve_withoutData (disk : Disk) (b : Backend) (item : Item) :
    b.resolve disk item.withoutData = (item.withoutData, b) := rfl

/-- When `Y.A` and then `A` have been resolved, `Y.A` is another module than before. -/
theorem moduleByName_crossedModule {w : Workspace}
    (hr : w.resolver = (nestedWorkspace crossedDependencies).resolver)
    (hc : w.cache.module? = (edited {} mainFile crossedModule).cache.module?) :
    let first := w.moduleByName packagesParser packagesDisk mainFile nestedImport.moduleName
    let second :=
      first.2.moduleByName packagesParser packagesDisk mainFile plainImport.moduleName
    first.1 = some ⟨⟨"/z/src/Y/A.elm"⟩, secondModule⟩ ∧
      second.1 = some ⟨⟨"/p/src/Y/A.elm"⟩, firstModule⟩ ∧
      (second.2.moduleByName packagesParser packagesDisk mainFile nestedImport.moduleName).1 =
        some ⟨overlongFile, firstModule⟩ := by
  intro first second
  have hsecond : w.cache.load? packagesParser packagesDisk ⟨"/z/src/Y/A.elm"⟩ =
      some secondModule := by
    rw [ModuleCache.load?, hc, load?_secondModule]; decide
  have hfirst : first.1 = some ⟨⟨"/z/src/Y/A.elm"⟩, secondModule⟩ := by
    have h := moduleByName_crossedDependencies hr (by rw [hc]; decide) hsecond
    rw [hc] at h
    exact h
  have hr' := resolver_moduleByName hr nestedImport.moduleName
  have hc' := Workspace.module?_moduleByName hfirst
  have hplain : second.1 = some ⟨⟨"/p/src/Y/A.elm"⟩, firstModule⟩ :=
    moduleByName_plainImport hr' (by rw [hc', hc]; decide)
  have hr'' := resolver_moduleByName hr' plainImport.moduleName
  have hc'' := Workspace.module?_moduleByName hplain
  have h := moduleByName_crossedDependencies hr'' (by rw [hc'', hc', hc]; decide)
    (by rw [ModuleCache.load?, hc'', hc', hc]; decide)
  rw [hc'', if_pos (by decide)] at h
  exact ⟨hfirst, hplain, h⟩

/-- A file the name of which begins with a byte that belongs to no character. -/
def strayFile : Path :=
  ⟨"/s/" ++ String.singleton (Path.byteChar 0xFF) ++ ".elm"⟩

/-- Two reasons why an item may not be documented.  A later import may hide the module that
    it comes from, as one spelling of a file is too long to be read; and a path that is not
    text cannot be noted on the item. -/
theorem hidden_or_unnoted_items :
    (let result :=
      complete packagesParser packagesDisk (nestedWorkspace crossedDependencies) "Q.f" mainFile
        ⟨0, 3⟩
    .ofFunction nestedImport.moduleName ⟨"g", none, none⟩ ∈ result.1 ∧
      (describe packagesParser packagesDisk result.2 mainFile nestedImport.moduleName "g").1 =
        none) ∧
    (let uri : Uri := ⟨"file", none, .segments ["s", "%FF.elm"], none, none⟩
    let answer := (sourceBackend uri).completion sourceDisk uri ⟨1, 5⟩
    ∃ file item, uri.filePath? = some file ∧
      (complete Elm.parse sourceDisk sourceWorkspace importingText file ⟨1, 5⟩).1 =
        [importedFunction] ∧
      answer.1 = some [item] ∧ (answer.2.resolve sourceDisk item).1.documentation = none) := by
  constructor
  · intro result
    let start := edited (nestedWorkspace crossedDependencies) mainFile crossedModule
    obtain ⟨hfirst, hsecond, hthird⟩ := moduleByName_crossedModule (w := start) rfl rfl
    have hcontext : contextAt "Q.f" ⟨0, 3⟩ = some (.qualified "Q" "f") := by decide
    have hrequested : requestedImports crossedModule (.qualified "Q" "f") =
      [nestedImport, plainImport] := by decide
    have hresult : result = candidatesIn packagesParser packagesDisk start mainFile crossedModule
        (.qualified "Q" "f") := complete_of_context rfl hcontext
    have hresolved : (resolveImports packagesParser packagesDisk mainFile start
        [nestedImport, plainImport]).1 =
          [⟨nestedImport, secondModule⟩, ⟨plainImport, firstModule⟩] := by
      rw [fst_resolveImports_cons, fst_resolveImports_cons, resolveAlone, hfirst, resolveAlone,
        hsecond]
      rfl
    have hdescribe : (describe packagesParser packagesDisk (resolveImports packagesParser
        packagesDisk mainFile start [nestedImport, plainImport]).2 mainFile
          nestedImport.moduleName "g").1 = none := by
      rw [snd_resolveImports_cons, snd_resolveImports_cons, resolveImports, describe_fst, hthird]
      rfl
    constructor
    · rw [hresult, candidatesIn_fst, hrequested, hresolved]
      decide
    · rw [hresult]
      exact hdescribe
  · intro uri answer
    have hfile : uri.filePath? = some strayFile := by decide +kernel
    have hopen : (sourceBackend uri).text? uri = some importingText := by decide +kernel
    have hanswer : answer = _ := Backend.completion_of_open sourceDisk ⟨1, 5⟩ hfile hopen
    have hstray : strayFile.isText = false := by decide +kernel
    have hcandidates : (complete Elm.parse sourceDisk sourceWorkspace importingText
        strayFile ⟨1, 5⟩).1 = [importedFunction] :=
      complete_importingText (by decide +kernel) (by decide +kernel)
    rw [hstray, workspace_sourceBackend, hcandidates] at hanswer
    refine ⟨_, (Item.ofCandidate strayFile importedFunction).withoutData, hfile,
      hcandidates, congrArg Prod.fst hanswer, ?_⟩
    rw [Backend.resolve_withoutData]
    rfl

end Server

end ElmAssist
