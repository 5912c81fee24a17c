/-
  What the documentation of a declaration says.

  An item is documented by two names: the name of its module, which is looked up from the
  contextual file, and its own, which is looked for among the functions of that module, then
  among its types, and only then among its constructors.

  * `documentItem?_ofFunction`, `documentItem?_ofType`, `documentItem?_ofConstructor`: what
    is found under a name that is declared once in each of these.
  * `complete_describe_constructor`: a constructor that is offered is documented as one iff
    nothing that is looked for earlier has its name.
  * `constructor_documented_as_type`: a constructor with the name of its type.
  * `complete_describe_own`: the functions of the edited text are documented by it, if its
    file is the first that can be loaded as a module of its name.
  * `other_file_describes`: two files for which another one is.
-/
import ElmAssist.Proofs.Completion.Documentation
import ElmAssist.Proofs.Completion.Effect
import ElmAssist.Proofs.Snapshot

namespace ElmAssist

namespace Elm

/-! ## Names that are declared once -/

/-- No two functions, no two types and no two constructors of a module share a name.  A
    constructor may have the name of a type. -/
structure Module.NamesDistinct (m : Module) : Prop where
  functions : (m.functions.map (·.name)).Nodup
  types : (m.types.map (·.name)).Nodup
  constructors : (m.types.flatMap (·.constructors)).Nodup

/-- If names differ, a search for the name of an element finds this element. -/
theorem find?_of_nodup_map {α : Type} {name : α → String} {as : List α} {a : α}
    (h : (as.map name).Nodup) (ha : a ∈ as) : as.find? (name · == name a) = some a := by
  obtain ⟨b, hb⟩ : ∃ b, as.find? (name · == name a) = some b :=
    Option.isSome_iff_exists.1 (List.find?_isSome.2 ⟨a, ha, beq_self_eq_true _⟩)
  have hname := List.find?_some hb
  rw [hb, List.inj_on_of_nodup_map h (List.mem_of_find?_eq_some hb) ha (beq_iff_eq.1 hname)]

namespace Module

variable {m : Module} {t : CustomType} {name : String}

theorem function?_eq_none_iff : m.function? name = none ↔ ∀ f ∈ m.functions, f.name ≠ name := by
  simp [function?]

theorem customType?_eq_none_iff : m.customType? name = none ↔ ∀ t ∈ m.types, t.name ≠ name := by
  simp [customType?]

/-- A constructor leads to the type that declares it, if no other type does. -/
theorem typeOfConstructor?_of_mem (h : (m.types.flatMap (·.constructors)).Nodup)
    (ht : t ∈ m.types) (hname : name ∈ t.constructors) : m.typeOfConstructor? name = some t := by
  unfold typeOfConstructor?
  generalize m.types = ts at h ht
  induction ts with
  | nil => exact absurd ht List.not_mem_nil
  | cons u ts ih =>
    rw [List.flatMap_cons, List.nodup_append] at h
    obtain ⟨-, hrest, hdisjoint⟩ := h
    rcases List.mem_cons.1 ht with rfl | ht
    · exact List.find?_cons_of_pos (List.contains_iff_mem.2 hname)
    · have hother : name ∉ u.constructors := fun hu =>
        hdisjoint name hu name (List.mem_flatMap.2 ⟨t, ht, hname⟩) rfl
      rw [List.find?_cons_of_neg (by simpa using hother)]
      exact ih hrest ht

end Module

end Elm

namespace Completion

open Elm ModuleCache

/-! ## Documentation by name -/

section

variable {m : Module} {t : CustomType} {name : String}

theorem documentItem?_ofFunction (h : (m.functions.map (·.name)).Nodup) {f : Function}
    (hf : f ∈ m.functions) : documentItem? m f.name = some ⟨f.name, f.signature, f.comment⟩ := by
  have hfound : m.function? f.name = some f := find?_of_nodup_map h hf
  rw [documentItem?, hfound]
  rfl

theorem documentItem?_ofType (hm : m.NamesDistinct) (ht : t ∈ m.types)
    (hfunctions : ∀ f ∈ m.functions, f.name ≠ t.name) :
    documentItem? m t.name = some ⟨t.name, none, t.comment⟩ := by
  have hfound : m.customType? t.name = some t := find?_of_nodup_map hm.types ht
  rw [documentItem?, Module.function?_eq_none_iff.2 hfunctions, hfound]
  rfl

theorem documentItem?_ofConstructor (hm : m.NamesDistinct) (ht : t ∈ m.types)
    (hname : name ∈ t.constructors) (hfunctions : ∀ f ∈ m.functions, f.name ≠ name)
    (htypes : ∀ u ∈ m.types, u.name ≠ name) :
    documentItem? m name = some ⟨name, some t.name, t.comment⟩ := by
  rw [documentItem?, Module.function?_eq_none_iff.2 hfunctions,
    Module.customType?_eq_none_iff.2 htypes,
    Module.typeOfConstructor?_of_mem hm.constructors ht hname]
  rfl

end

/-! ## Constructors -/

variable {parse : SourceParser} {disk : Disk} {file : Path} {w : Workspace} {text : String}
  {pos : Position} {current : Module} {context : Context}

/-- A constructor that is offered belongs to a type of a module to which an import has been
    resolved. -/
theorem exists_type_of_constructor (hparse : parse text = .ok current)
    (hcontext : contextAt text pos = some context) {c : Candidate}
    (hc : c ∈ (complete parse disk w text file pos).1) (hkind : c.kind = .constructor) :
    ∃ r ∈ (resolveImports parse disk file (edited w file current)
      (requestedImports current context)).1, c.moduleName = r.clause.moduleName ∧
        ∃ t ∈ r.parsed.types, c.label ∈ t.constructors ∧ c.detail = some t.name := by
  rw [complete_of_context hparse hcontext] at hc
  cases origin_candidatesIn hc with
  | own hf => cases hkind
  | function hr hf => cases hkind
  | constructor hr ht =>
    obtain ⟨hdeclared, -, hmem⟩ := Module.mem_exposedConstructors.1 ht
    exact ⟨_, hr, rfl, _, hdeclared, hmem, rfl⟩
  | moduleName label name => cases hkind

/-- **How a constructor is documented** that is offered from a module with distinct names:
    as the function of its name if there is one, else as the type of its name if there is
    one, and else as a constructor, with the type that was shown and the comment on it. -/
theorem complete_describe_constructor (parse : SourceParser) (disk : Disk) (w : Workspace)
    (text : String) (file : Path) (pos : Position) (current : Module) (context : Context)
    (hparse : parse text = .ok current) (hcontext : contextAt text pos = some context)
    (halike : Path.SpelledAlike (filesTried disk file w (requestedImports current context))) :
    let result := complete parse disk w text file pos
    let resolved := (resolveImports parse disk file (edited w file current)
      (requestedImports current context)).1
    ∀ c ∈ result.1, c.kind = .constructor →
      ∃ r ∈ resolved, c.moduleName = r.clause.moduleName ∧
        ∃ t ∈ r.parsed.types, c.label ∈ t.constructors ∧ c.detail = some t.name ∧
          (r.parsed.NamesDistinct →
            let doc := (describe parse disk result.2 file c.moduleName c.label).1
            (∀ f ∈ r.parsed.functions, f.name = c.label →
              doc = some ⟨c.label, f.signature, f.comment⟩) ∧
            ((∀ f ∈ r.parsed.functions, f.name ≠ c.label) →
              (∀ u ∈ r.parsed.types, u.name = c.label → doc = some ⟨c.label, none, u.comment⟩) ∧
              ((∀ u ∈ r.parsed.types, u.name ≠ c.label) →
                doc = some ⟨c.label, c.detail, t.comment⟩))) := by
  intro result resolved c hc hkind
  obtain ⟨r, hr, hmodule, t, ht, hlabel, hdetail⟩ :=
    exists_type_of_constructor hparse hcontext hc hkind
  refine ⟨r, hr, hmodule, t, ht, hlabel, hdetail, fun hm => ?_⟩
  intro doc
  have hdoc : doc = documentItem? r.parsed c.label := by
    rw [← describe_after hparse hcontext halike hr, ← hmodule]
  rw [hdoc]
  refine ⟨fun f hf hname => ?_, fun hfunctions => ⟨fun u hu hname => ?_, fun htypes => ?_⟩⟩
  · rw [← hname]
    exact documentItem?_ofFunction hm.functions hf
  · rw [← hname] at hfunctions ⊢
    exact documentItem?_ofType hm hu hfunctions
  · rw [hdetail]
    exact documentItem?_ofConstructor hm ht hlabel hfunctions htypes

/-! ## A type with a constructor of its name -/

/-- A disk with a module that declares one type. -/
def typeDisk : Disk :=
  { root := .directory [("s", .directory [("A.elm", .file "type T=T|C".toUTF8)])] }

/-- What the module holds. -/
def typeModule : Module := { types := [⟨"T", ["T", "C"], none⟩] }

theorem load?_typeModule : typeDisk.load? Elm.parse ⟨"/s/A.elm"⟩ = some typeModule := by
  have hsteps : (⟨"/s/A.elm"⟩ : Path).steps = ["s", "A.elm"].map .down := by decide
  exact Disk.load?_of_names hsteps (by decide) (by decide) (by decide) rfl (by decide +kernel)

theorem namesDistinct_typeModule : typeModule.NamesDistinct :=
  ⟨by decide, by decide, by decide⟩

/-- The import of the text leads to this module. -/
theorem resolveImports_typeModule :
    (resolveImports Elm.parse typeDisk ⟨"/s/Main.elm"⟩
        (edited Server.sourceWorkspace ⟨"/s/Main.elm"⟩ Server.importingModule)
        (requestedImports Server.importingModule (.qualified "A" "f"))).1 =
      [⟨⟨"A", none, none⟩, typeModule⟩] :=
  Server.resolveImports_importingModule (by decide) (by decide) load?_typeModule

/-- Both constructors are offered, with their type. -/
theorem complete_typeModule :
    (complete Elm.parse typeDisk Server.sourceWorkspace Server.importingText ⟨"/s/Main.elm"⟩
        ⟨1, 5⟩).1 =
      [⟨"T", .constructor, "A", some "T"⟩, ⟨"C", .constructor, "A", some "T"⟩] := by
  rw [complete_of_context Server.parse_importingText Server.contextAt_importingText,
    candidatesIn_fst, resolveImports_typeModule]
  decide

/-- The second one is documented with it as well. -/
theorem complete_describe_constructor_typeModule :
    let result := complete Elm.parse typeDisk Server.sourceWorkspace Server.importingText
      ⟨"/s/Main.elm"⟩ ⟨1, 5⟩
    ⟨"C", .constructor, "A", some "T"⟩ ∈ result.1 ∧
      (describe Elm.parse typeDisk result.2 ⟨"/s/Main.elm"⟩ "A" "C").1 =
        some ⟨"C", some "T", none⟩ := by
  intro result
  have hoffered : ⟨"C", .constructor, "A", some "T"⟩ ∈ result.1 := by
    show _ ∈ (complete Elm.parse typeDisk _ _ _ _).1
    rw [complete_typeModule]
    decide
  refine ⟨hoffered, ?_⟩
  obtain ⟨r, hr, -, t, ht, -, -, hdocumented⟩ := complete_describe_constructor Elm.parse typeDisk
    Server.sourceWorkspace Server.importingText ⟨"/s/Main.elm"⟩ ⟨1, 5⟩ Server.importingModule
    (.qualified "A" "f") Server.parse_importingText Server.contextAt_importingText
    (Server.spelledAlike_importingModule (by decide)) _ hoffered rfl
  rw [resolveImports_typeModule, List.mem_singleton] at hr
  subst hr
  obtain ⟨-, hnofunction⟩ := hdocumented namesDistinct_typeModule
  rw [typeModule, List.mem_singleton] at ht
  subst ht
  exact (hnofunction (by decide)).2 (by decide)

/-- The first one, which has the name of its type, is documented as the type. -/
theorem constructor_documented_as_type :
    let result := complete Elm.parse typeDisk Server.sourceWorkspace Server.importingText
      ⟨"/s/Main.elm"⟩ ⟨1, 5⟩
    typeDisk.load? Elm.parse ⟨"/s/A.elm"⟩ = some typeModule ∧ typeModule.NamesDistinct ∧
      ⟨"T", .constructor, "A", some "T"⟩ ∈ result.1 ∧
      (describe Elm.parse typeDisk result.2 ⟨"/s/Main.elm"⟩ "A" "T").1 =
        some ⟨"T", none, none⟩ := by
  intro result
  refine ⟨load?_typeModule, namesDistinct_typeModule, ?_, ?_⟩
  · show _ ∈ (complete Elm.parse typeDisk _ _ _ _).1
    rw [complete_typeModule]
    decide
  · exact describe_after Server.parse_importingText Server.contextAt_importingText
      (Server.spelledAlike_importingModule (by decide))
      (r := ⟨⟨"A", none, none⟩, typeModule⟩) (by rw [resolveImports_typeModule]; decide) "T"

/-! ## Functions of the edited text -/

/-- A completion changes nothing about which projects there are. -/
theorem loaded_complete (w : Workspace) :
    (complete parse disk w text file pos).2.resolver.loaded disk = w.resolver.loaded disk := by
  cases hcontext : contextAt text pos with
  | none => rw [complete_of_no_context hcontext]
  | some context =>
    cases hparse : parse text with
    | error err => rw [complete_of_error hparse hcontext]
    | ok current =>
      rw [complete_of_context hparse hcontext, WorkspaceRun.resolver_candidatesIn]
      have hloaded : ((edited w file current).resolver.loaded disk).loaded disk =
          w.resolver.loaded disk := Resolver.loaded_loaded _ _
      split
      · exact hloaded
      · split
        · rfl
        · exact hloaded

/-- After a completion, modules are looked for in the same files as before. -/
theorem filesFor_complete (w : Workspace) (moduleName : String) :
    (complete parse disk w text file pos).2.resolver.filesFor disk file moduleName =
      w.resolver.filesFor disk file moduleName := by
  rw [← Resolver.filesFor_loaded, loaded_complete, Resolver.filesFor_loaded]

/-- After a completion, the entry for the edited file is the edited text. -/
theorem find?_complete (hparse : parse text = .ok current)
    (hcontext : contextAt text pos = some context) {p : Path} (hp : p.same file = true) :
    (complete parse disk w text file pos).2.cache.find? p = some ⟨file, current⟩ := by
  rw [complete_of_context hparse hcontext]
  refine (added_candidatesIn parse disk _ file current context).kept ?_
  rw [find?_edited, if_pos hp]

/-- **The functions of the edited text** come first for a bare word.  After the request they
    are documented as in the text, if the file of the text is the first, among those in
    which its project looks for a module of its name, that can be loaded. -/
theorem complete_describe_own (parse : SourceParser) (disk : Disk) (w : Workspace) (text : String)
    (file : Path) (pos : Position) (typed : String) (current : Module) (project : Project)
    (hparse : parse text = .ok current) (hcontext : contextAt text pos = some (.value typed))
    (howner : (w.resolver.projectFor disk file).1 = some project)
    (hnames : (current.functions.map (·.name)).Nodup) :
    let result := complete parse disk w text file pos
    current.functions.map (.ofFunction current.name) <+: result.1 ∧
    ∀ before r, FirstLoad parse disk result.2.cache (project.candidates current.name) before r →
      r.path.same file = true →
      ∀ f ∈ current.functions, (describe parse disk result.2 file current.name f.name).1 =
        some ⟨f.name, f.signature, f.comment⟩ := by
  intro result
  constructor
  · have hresult : result = _ := complete_of_context hparse hcontext
    rw [hresult, candidatesIn_fst]
    show _ <+: valueCandidates current _
    rw [valueCandidates, List.append_assoc]
    exact List.prefix_append _ _
  · intro before r hfirst hsame f hf
    have hparsed : r.parsed = current :=
      hfirst.parsed_of_cached (find?_complete hparse hcontext hsame)
    have hfiles : result.2.resolver.filesFor disk file current.name =
        project.candidates current.name := by
      rw [filesFor_complete, Resolver.filesFor_of_project howner]
    have hfound : (result.2.moduleByName parse disk file current.name).1 = some r := by
      rw [Workspace.moduleByName_eq_some_iff, hfiles]
      exact ⟨before, hfirst⟩
    rw [describe_fst, hfound]
    show documentItem? r.parsed f.name = _
    rw [hparsed]
    exact documentItem?_ofFunction hnames hf

/-! ## Two source directories -/

/-- A disk with one module, in the first of two source directories. -/
def twoSourcesDisk : Disk :=
  { root := .directory [("s", .directory [("Main.elm", .file "x:Int\nx=2".toUTF8)])] }

/-- The project with both. -/
def twoSourcesProject : Project :=
  { Server.sourceProject with sourceDirectories := [⟨"/s"⟩, ⟨"/t"⟩] }

/-- A workspace with that project. -/
def twoSourcesWorkspace : Workspace :=
  { resolver := { projects := some [twoSourcesProject] } }

/-- A text without a header. -/
def plainText : String := "x=1"

/-- What that text holds. -/
def plainModule : Module := { functions := [⟨"x", none, none⟩] }

theorem contextAt_plainText : contextAt plainText ⟨0, 1⟩ = some (.value "x") := by
  decide

theorem parse_plainText : Elm.parse plainText = .ok plainModule := by
  decide +kernel

/-- A completion at its function is that function, and loads nothing. -/
theorem complete_plainText (w : Workspace) :
    complete Elm.parse disk w plainText file ⟨0, 1⟩ =
      ([.ofFunction "Main" ⟨"x", none, none⟩], edited w file plainModule) :=
  complete_of_context parse_plainText contextAt_plainText

/-- In the first directory, the text is the module of its name. -/
theorem complete_describe_own_plainText :
    let result := complete Elm.parse twoSourcesDisk twoSourcesWorkspace plainText ⟨"/s/Main.elm"⟩
      ⟨0, 1⟩
    (describe Elm.parse twoSourcesDisk result.2 ⟨"/s/Main.elm"⟩ "Main" "x").1 =
      some ⟨"x", none, none⟩ := by
  intro result
  have howner : (twoSourcesWorkspace.resolver.projectFor twoSourcesDisk ⟨"/s/Main.elm"⟩).1 =
      some twoSourcesProject := by decide
  have hfirst : FirstLoad Elm.parse twoSourcesDisk result.2.cache
      (twoSourcesProject.candidates "Main") [] ⟨⟨"/s/Main.elm"⟩, plainModule⟩ := by
    refine ⟨⟨[⟨"/t/Main.elm"⟩], by decide⟩, nofun, ?_⟩
    rw [show result = _ from complete_plainText _, load?, edited, module?_store]
    rfl
  exact (complete_describe_own Elm.parse twoSourcesDisk twoSourcesWorkspace plainText
    ⟨"/s/Main.elm"⟩ ⟨0, 1⟩ "x" plainModule twoSourcesProject parse_plainText contextAt_plainText
    howner (by decide)).2 [] _ hfirst (by decide) _ List.mem_cons_self

theorem load?_twoSources :
    twoSourcesDisk.load? Elm.parse ⟨"/s/Main.elm"⟩ =
      some { functions := [⟨"x", some "Int", none⟩] } := by
  have hsteps : (⟨"/s/Main.elm"⟩ : Path).steps = ["s", "Main.elm"].map .down := by decide
  exact Disk.load?_of_names hsteps (by decide) (by decide) (by decide) rfl (by decide +kernel)

theorem projectFor_twoSources (howns : twoSourcesProject.owns file = true) :
    (twoSourcesWorkspace.resolver.projectFor disk file).1 = some twoSourcesProject := by
  show [twoSourcesProject].find? (fun q => q.owns file) = _
  exact List.find?_cons_of_pos howns

/-- In the second directory, the module of the first one documents the text. -/
theorem describe_of_second (howns : twoSourcesProject.owns file = true)
    (hother : file.same ⟨"/s/Main.elm"⟩ = false) :
    let result := complete Elm.parse twoSourcesDisk twoSourcesWorkspace plainText file ⟨0, 1⟩
    .ofFunction "Main" ⟨"x", none, none⟩ ∈ result.1 ∧
      (describe Elm.parse twoSourcesDisk result.2 file "Main" "x").1 =
        some ⟨"x", some "Int", none⟩ := by
  intro result
  have hresult : result = _ := complete_plainText _
  have hfiles : (edited twoSourcesWorkspace file plainModule).resolver.filesFor twoSourcesDisk file
      "Main" = [⟨"/s/Main.elm"⟩, ⟨"/t/Main.elm"⟩] := by
    rw [show (edited twoSourcesWorkspace file plainModule).resolver = twoSourcesWorkspace.resolver
      from rfl, Resolver.filesFor_of_project (projectFor_twoSources howns)]
    decide
  have hcached : (edited twoSourcesWorkspace file plainModule).cache.module? ⟨"/s/Main.elm"⟩ =
      none := by
    rw [edited, module?_store, hother]; rfl
  rw [hresult]
  refine ⟨List.mem_singleton_self _, ?_⟩
  rw [describe_fst, Workspace.moduleByName_fst, hfiles, List.findSome?_cons, load?, hcached,
    load?_twoSources]
  rfl

/-- That is so for the file with the right name in the second directory, and for one with
    another name. -/
theorem other_file_describes :
    contextAt plainText ⟨0, 1⟩ = some (.value "x") ∧ Elm.parse plainText = .ok plainModule ∧
    (let result := complete Elm.parse twoSourcesDisk twoSourcesWorkspace plainText ⟨"/t/Main.elm"⟩
      ⟨0, 1⟩
    (twoSourcesWorkspace.resolver.projectFor twoSourcesDisk ⟨"/t/Main.elm"⟩).1 =
        some twoSourcesProject ∧
      .ofFunction "Main" ⟨"x", none, none⟩ ∈ result.1 ∧
      (describe Elm.parse twoSourcesDisk result.2 ⟨"/t/Main.elm"⟩ "Main" "x").1 =
        some ⟨"x", some "Int", none⟩) ∧
    (let result := complete Elm.parse twoSourcesDisk twoSourcesWorkspace plainText ⟨"/t/B.elm"⟩
      ⟨0, 1⟩
    (twoSourcesWorkspace.resolver.projectFor twoSourcesDisk ⟨"/t/B.elm"⟩).1 =
        some twoSourcesProject ∧
      .ofFunction "Main" ⟨"x", none, none⟩ ∈ result.1 ∧
      (describe Elm.parse twoSourcesDisk result.2 ⟨"/t/B.elm"⟩ "Main" "x").1 =
        some ⟨"x", some "Int", none⟩) :=
  ⟨contextAt_plainText, parse_plainText,
    ⟨projectFor_twoSources (by decide), describe_of_second (by decide) (by decide)⟩,
    ⟨projectFor_twoSources (by decide), describe_of_second (by decide) (by decide)⟩⟩

end Completion

end ElmAssist
