/-
  Completion.

  `complete` answers a request at a position of the text that is being edited.
  Candidates are the declarations of that text and the exposed declarations of the
  modules that it imports; on an import line they are the modules of the project.
  Whatever cannot be resolved only makes the answer shorter.

  `describe` looks up the documentation of one item.
-/
import ElmAssist.Completion.Context
import ElmAssist.Elm.ExposedView
import ElmAssist.Resolver

namespace ElmAssist.Completion

open Elm

/-! ## Candidates -/

/-- The kinds of candidates. -/
inductive CandidateKind where
  /-- A function or port. -/
  | function
  /-- A constructor of a custom type. -/
  | constructor
  /-- A module name, or the rest of one. -/
  | moduleName
  deriving DecidableEq, Repr

/-- A suggestion. -/
structure Candidate where
  label : String
  kind : CandidateKind
  /-- The module that declares the item, or the module that is named. -/
  moduleName : String
  /-- A remark on one line: the type, or what is named. -/
  detail : Option String
  deriving DecidableEq, Repr

namespace Candidate

/-- A function of a module. -/
def ofFunction (moduleName : String) (f : Function) : Candidate :=
  ⟨f.name, .function, moduleName, f.signature⟩

/-- A constructor of a custom type of a module. -/
def ofConstructor (moduleName : String) (c : CustomType × String) : Candidate :=
  ⟨c.2, .constructor, moduleName, some c.1.name⟩

/-- A module under a label. -/
def ofModule (label moduleName : String) : Candidate :=
  ⟨label, .moduleName, moduleName, some ("module " ++ moduleName)⟩

end Candidate

/-! ## Imports -/

/-- The name by which an import is referred to that begins with `typed`: its short
    name if that does, and otherwise the full name. -/
def qualifier? (i : Import) (typed : String) : Option String :=
  (i.shortName.filter (Text.begins · typed)).or
    (if Text.begins i.moduleName typed then some i.moduleName else none)

/-- The number of places at which two lists agree from the start. -/
def commonLength : List String → List String → Nat
  | a :: as, b :: bs => if a = b then commonLength as bs + 1 else 0
  | _, _ => 0

/-- The segments of a qualifier behind those that are typed already. -/
def remainingSegments (qualifier typed : String) : List String :=
  let segments := Text.split '.' qualifier
  segments.drop (commonLength segments (if typed.isEmpty then [] else Text.split '.' typed))

/-- An import with the module that it resolves to. -/
structure ResolvedImport where
  clause : Import
  parsed : Module
  deriving DecidableEq, Repr

/-- Resolves imports one after the other; those that cannot be resolved are
    dropped. -/
def resolveImports (parse : SourceParser) (disk : Disk) (file : Path) (w : Workspace) :
    List Import → List ResolvedImport × Workspace
  | [] => ([], w)
  | i :: rest =>
    let (found, w) := w.moduleByName parse disk file i.moduleName
    let (resolved, w) := resolveImports parse disk file w rest
    match found with
    | some r => (⟨i, r.parsed⟩ :: resolved, w)
    | none => (resolved, w)

/-- The exposed functions of an imported module. -/
def ResolvedImport.functions (r : ResolvedImport) : List Candidate :=
  r.parsed.exposedFunctions.map (.ofFunction r.clause.moduleName)

/-- The exposed constructors of an imported module. -/
def ResolvedImport.constructors (r : ResolvedImport) : List Candidate :=
  r.parsed.exposedConstructors.map (.ofConstructor r.clause.moduleName)

/-! ## Candidates by context -/

/-- The candidates for a bare word: the functions of the text itself, then the
    functions and then the constructors of the imports whose name begins with the
    word. -/
def valueCandidates (current : Module) (resolved : List ResolvedImport) : List Candidate :=
  current.functions.map (.ofFunction current.name) ++ resolved.flatMap (·.functions) ++
    resolved.flatMap (·.constructors)

/-- What the imports offer behind a qualifier: the members of a module whose name
    is complete, and otherwise the rest of its name.  `seen` are the labels that
    have been offered. -/
def qualifiedCandidates (typed : String) (seen : List String) :
    List ResolvedImport → List Candidate
  | [] => []
  | r :: rest =>
    match qualifier? r.clause typed with
    | none => qualifiedCandidates typed seen rest
    | some qualifier =>
      match remainingSegments qualifier typed with
      | [] => r.functions ++ r.constructors ++ qualifiedCandidates typed seen rest
      | remaining =>
        let label := ".".intercalate remaining
        if seen.contains label then qualifiedCandidates typed seen rest
        else .ofModule label r.clause.moduleName :: qualifiedCandidates typed (label :: seen) rest

/-- The candidates for a qualified or capitalised word.  A capitalised word by
    itself may also be a constructor. -/
def moduleCandidates (typed : String) (resolved : List ResolvedImport) : List Candidate :=
  qualifiedCandidates typed [] resolved ++
    if typed.isEmpty then resolved.flatMap (·.constructors) else []

/-- The imports of a module that a typed word may refer to. -/
def matchingImports (current : Module) (typed : String) : List Import :=
  current.imports.filter fun i => (qualifier? i typed).isSome

/-- The modules of a project that an import of the current module may name. -/
def importCandidates (disk : Disk) (project : Project) (current : Module) (typed : String) :
    List Candidate :=
  ((project.workspaceModules disk).filter fun name =>
    name != current.name && Text.begins name typed).map fun name => .ofModule name name

/-- The candidates in a context, for a text that parses. -/
def candidatesIn (parse : SourceParser) (disk : Disk) (w : Workspace) (file : Path)
    (current : Module) : Context → List Candidate × Workspace
  | .value text =>
    let (resolved, w) := resolveImports parse disk file w (matchingImports current text)
    (valueCandidates current resolved, w)
  | .qualified qualifier _ =>
    let (resolved, w) := resolveImports parse disk file w (matchingImports current qualifier)
    (moduleCandidates qualifier resolved, w)
  | .importing typed =>
    match w.resolver.projectFor disk file with
    | (none, resolver) => ([], { w with resolver })
    | (some project, resolver) =>
      (importCandidates disk project current typed, { w with resolver })

/-- The candidates at a position of a text that is being edited as the contents of
    a file.  The text replaces what the cache knows of the file. -/
def complete (parse : SourceParser) (disk : Disk) (w : Workspace) (text : String) (file : Path)
    (pos : Position) : List Candidate × Workspace :=
  match contextAt text pos with
  | none => ([], w)
  | some context =>
    match (w.cache.invalidate file).getWithSource parse file text with
    | (none, cache) => ([], { w with cache })
    | (some current, cache) => candidatesIn parse disk { w with cache } file current context

/-! ## Documentation -/

/-- The documentation of an item. -/
structure ItemDocumentation where
  name : String
  signature : Option String
  comment : Option String
  deriving DecidableEq, Repr

/-- The documentation of an item of a module: a function, a custom type, a
    constructor or a type alias, in this order. -/
def documentItem? (m : Module) (item : String) : Option ItemDocumentation :=
  ((m.function? item).map fun f => ⟨f.name, f.signature, f.comment⟩).or <|
  ((m.customType? item).map fun t => ⟨t.name, none, t.comment⟩).or <|
  ((m.typeOfConstructor? item).map fun t => ⟨item, some t.name, t.comment⟩).or <|
  (m.typeAlias? item).map fun a => ⟨a.name, none, a.comment⟩

/-- The documentation of an item of a module, as it is seen from a file. -/
def describe (parse : SourceParser) (disk : Disk) (w : Workspace) (file : Path)
    (moduleName item : String) : Option ItemDocumentation × Workspace :=
  let (found, w) := w.moduleByName parse disk file moduleName
  (found.bind fun r => documentItem? r.parsed item, w)

end ElmAssist.Completion
