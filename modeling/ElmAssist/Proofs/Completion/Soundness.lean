/-
  Every candidate is justified.

  * `Origin`: the ways in which something can become a candidate, given the current module
    and the resolved imports; by `origin_candidatesIn` there are no others in any context.
  * `mem_resolveImports`: a resolved import comes from an import clause, and its module is
    the one that is found for it when its turn comes.
  * `nodup_moduleLabels_candidatesIn`: no module is offered twice.
  * `complete_sound`: the candidates of a request, with all this put together.
-/
import ElmAssist.Completion.Engine
import ElmAssist.Proofs.Resolution

namespace ElmAssist

/-! ## The modules of a project -/

/-- Taking out neighbours that are equal leaves a sorted list strictly increasing; the
    elements that have been kept so far are in `acc`, last one first. -/
theorem pairwise_eraseReps_loop (a : String) (as acc : List String)
    (hs : (a :: as).Pairwise (· ≤ ·)) (hacc : (a :: acc).Pairwise (· > ·)) :
    (List.eraseRepsBy.loop (· == ·) a as acc).Pairwise (· < ·) := by
  induction as generalizing a acc with
  | nil =>
    rw [List.eraseRepsBy.loop, List.pairwise_reverse]
    exact hacc
  | cons b as ih =>
    obtain ⟨ha, hb⟩ := List.pairwise_cons.1 hs
    rw [List.eraseRepsBy.loop]
    cases hab : a == b with
    | true =>
      refine ih a acc (List.pairwise_cons.2 ⟨fun x hx => ha x (List.mem_cons_of_mem b hx), ?_⟩) hacc
      exact (List.pairwise_cons.1 hb).2
    | false =>
      have hlt : a < b := by
        rw [← String.not_le]
        intro hba
        have hne : a ≠ b := by simpa using hab
        exact hne (String.le_antisymm (ha b List.mem_cons_self) hba)
      refine ih b (a :: acc) hb (List.pairwise_cons.2 ⟨fun x hx => ?_, hacc⟩)
      rcases List.mem_cons.1 hx with rfl | hx
      · exact hlt
      · exact String.lt_trans ((List.pairwise_cons.1 hacc).1 x hx) hlt

/-- The modules of a project are listed in strictly increasing order. -/
theorem pairwise_workspaceModules (disk : Disk) (project : Project) :
    (project.workspaceModules disk).Pairwise (· < ·) := by
  unfold Project.workspaceModules
  generalize (project.sourceDirectories.flatMap fun dir =>
    (disk.glob sourcePattern [dir]).filterMap (moduleName? dir)) = names
  have hsorted : (names.mergeSort fun a b => decide (a ≤ b)).Pairwise (· ≤ ·) := by
    refine (List.pairwise_mergeSort ?_ ?_ names).imp fun h => of_decide_eq_true h
    · intro a b c hab hbc
      simp only [decide_eq_true_eq] at hab hbc ⊢
      exact String.le_trans hab hbc
    · intro a b
      simpa using String.le_total a b
  show (names.mergeSort fun a b => decide (a ≤ b)).eraseReps.Pairwise (· < ·)
  revert hsorted
  cases names.mergeSort fun a b => decide (a ≤ b) with
  | nil => exact fun _ => List.Pairwise.nil
  | cons a as =>
    exact fun hsorted => pairwise_eraseReps_loop a as [] hsorted (List.pairwise_singleton _ a)

namespace Completion

open Elm

/-! ## Resolved imports -/

variable {parse : SourceParser} {disk : Disk} {file : Path}

/-- The module that is found for an import when its turn comes: the imports in front of it
    have been resolved by then. -/
def Resolves (parse : SourceParser) (disk : Disk) (file : Path) (w : Workspace)
    (imports : List Import) (i : Import) (m : Module) : Prop :=
  ∃ before after path, imports = before ++ i :: after ∧
    ((resolveImports parse disk file w before).2.moduleByName parse disk file i.moduleName).1 =
      some ⟨path, m⟩

theorem Resolves.mem {w : Workspace} {imports : List Import} {i : Import} {m : Module}
    (h : Resolves parse disk file w imports i m) : i ∈ imports := by
  obtain ⟨before, after, path, rfl, -⟩ := h
  simp

/-- Whether an import is resolved or not, it leaves the state that looking it up leaves. -/
theorem snd_resolveImports_cons (w : Workspace) (i : Import) (rest : List Import) :
    (resolveImports parse disk file w (i :: rest)).2 =
      (resolveImports parse disk file (w.moduleByName parse disk file i.moduleName).2 rest).2 := by
  rw [resolveImports]
  cases hfound : (w.moduleByName parse disk file i.moduleName).1 with
  | some r => simp only [hfound]
  | none => simp only [hfound]

/-- Behind an import, the others are resolved in the state that it leaves. -/
theorem Resolves.cons {w : Workspace} {imports : List Import} {i j : Import} {m : Module}
    (h : Resolves parse disk file (w.moduleByName parse disk file j.moduleName).2 imports i m) :
    Resolves parse disk file w (j :: imports) i m := by
  obtain ⟨before, after, path, rfl, hfound⟩ := h
  refine ⟨j :: before, after, path, rfl, ?_⟩
  rw [snd_resolveImports_cons]
  exact hfound

/-- Every resolved import comes from an import, with the module that is found for it. -/
theorem mem_resolveImports {w : Workspace} {imports : List Import} {r : ResolvedImport}
    (h : r ∈ (resolveImports parse disk file w imports).1) :
    Resolves parse disk file w imports r.clause r.parsed := by
  -- The workspace is generalized: each import is looked up in what the ones before it left.
  induction imports generalizing w with
  | nil => exact absurd h List.not_mem_nil
  | cons i rest ih =>
    unfold resolveImports at h
    cases hfound : (w.moduleByName parse disk file i.moduleName).1 with
    | none =>
      simp only [hfound] at h
      exact (ih h).cons
    | some found =>
      simp only [hfound] at h
      rcases List.mem_cons.1 h with rfl | h
      · exact ⟨[], rest, found.path, rfl, hfound⟩
      · exact (ih h).cons

/-! ## Where candidates come from -/

/-- What can be a candidate in a context, given the current module and the resolved
    imports. -/
inductive Origin (current : Module) (resolved : List ResolvedImport) : Context → Candidate → Prop
  /-- A function of the current module, for a bare word. -/
  | own {typed : String} {f : Function} : f ∈ current.functions →
      Origin current resolved (.value typed) (.ofFunction current.name f)
  /-- An exposed function of an imported module. -/
  | function {context : Context} {r : ResolvedImport} {f : Function} : r ∈ resolved →
      f ∈ r.parsed.exposedFunctions →
      Origin current resolved context (.ofFunction r.clause.moduleName f)
  /-- An exposed constructor of an imported module. -/
  | constructor {context : Context} {r : ResolvedImport} {t : CustomType} {name : String} :
      r ∈ resolved → (t, name) ∈ r.parsed.exposedConstructors →
      Origin current resolved context (.ofConstructor r.clause.moduleName (t, name))
  /-- The name of a module, or the rest of one. -/
  | moduleName {context : Context} (label name : String) :
      Origin current resolved context (.ofModule label name)

variable {current : Module} {resolved : List ResolvedImport} {context : Context} {c : Candidate}

theorem origin_functions {r : ResolvedImport} (hr : r ∈ resolved) (h : c ∈ r.functions) :
    Origin current resolved context c := by
  obtain ⟨f, hf, rfl⟩ := List.mem_map.1 h
  exact .function hr hf

theorem origin_constructors {r : ResolvedImport} (hr : r ∈ resolved) (h : c ∈ r.constructors) :
    Origin current resolved context c := by
  obtain ⟨⟨t, name⟩, ht, rfl⟩ := List.mem_map.1 h
  exact .constructor hr ht

/-- More imports offer no less. -/
theorem Origin.cons {r : ResolvedImport} (h : Origin current resolved context c) :
    Origin current (r :: resolved) context c := by
  cases h with
  | own hf => exact .own hf
  | function hr hf => exact .function (List.mem_cons_of_mem r hr) hf
  | constructor hr ht => exact .constructor (List.mem_cons_of_mem r hr) ht
  | moduleName label name => exact .moduleName label name

/-- The candidates for a bare word. -/
theorem origin_valueCandidates {typed : String} (h : c ∈ valueCandidates current resolved) :
    Origin current resolved (.value typed) c := by
  simp only [valueCandidates, List.mem_append, List.mem_flatMap] at h
  rcases h with (h | ⟨r, hr, h⟩) | ⟨r, hr, h⟩
  · obtain ⟨f, hf, rfl⟩ := List.mem_map.1 h
    exact .own hf
  · exact origin_functions hr h
  · exact origin_constructors hr h

/-- What the imports offer behind a qualifier. -/
theorem origin_qualifiedCandidates {typed : String} {seen : List String}
    (h : c ∈ qualifiedCandidates typed seen resolved) : Origin current resolved context c := by
  fun_induction qualifiedCandidates typed seen resolved with
  | case1 seen => exact absurd h List.not_mem_nil
  | case2 seen r rest hq ih => exact (ih h).cons
  | case3 seen r rest qualifier hq hrem ih =>
    rcases List.mem_append.1 h with h | h
    · rcases List.mem_append.1 h with h | h
      · exact origin_functions List.mem_cons_self h
      · exact origin_constructors List.mem_cons_self h
    · exact (ih h).cons
  | case4 seen r rest qualifier hq hrem label hseen ih => exact (ih h).cons
  | case5 seen r rest qualifier hq hrem label hseen ih =>
    rcases List.mem_cons.1 h with rfl | h
    · exact .moduleName label r.clause.moduleName
    · exact (ih h).cons

/-- The candidates for a qualified or capitalised word. -/
theorem origin_moduleCandidates {typed : String} (h : c ∈ moduleCandidates typed resolved) :
    Origin current resolved context c := by
  rcases List.mem_append.1 h with h | h
  · exact origin_qualifiedCandidates h
  · split at h
    · obtain ⟨r, hr, h⟩ := List.mem_flatMap.1 h
      exact origin_constructors hr h
    · exact absurd h List.not_mem_nil

/-- The candidates on an import line. -/
theorem origin_importCandidates {project : Project} {typed : String}
    (h : c ∈ importCandidates disk project current typed) : Origin current resolved context c := by
  obtain ⟨name, -, rfl⟩ := List.mem_map.1 h
  exact .moduleName name name

/-- The imports that are resolved for a request. -/
def requestedImports (current : Module) : Context → List Import
  | .value typed => matchingImports current typed
  | .qualified qualifier _ => matchingImports current qualifier
  | .importing _ => []

theorem mem_imports_of_mem_requestedImports {i : Import}
    (h : i ∈ requestedImports current context) : i ∈ current.imports := by
  cases context with
  | value typed => exact (List.mem_filter.1 h).1
  | qualified qualifier word => exact (List.mem_filter.1 h).1
  | importing typed => exact absurd h List.not_mem_nil

/-- **Nothing else is offered.**  Every candidate in a context has one of the origins. -/
theorem origin_candidatesIn {w : Workspace}
    (h : c ∈ (candidatesIn parse disk w file current context).1) :
    Origin current (resolveImports parse disk file w (requestedImports current context)).1
      context c := by
  cases context with
  | value typed => exact origin_valueCandidates h
  | qualified qualifier word => exact origin_moduleCandidates h
  | importing typed =>
    rw [candidatesIn] at h
    split at h
    · exact absurd h List.not_mem_nil
    · exact origin_importCandidates h

/-! ## Labels of modules -/

/-- The labels under which modules are offered. -/
def moduleLabels (candidates : List Candidate) : List String :=
  (candidates.filter (·.kind == .moduleName)).map (·.label)

@[simp] theorem moduleLabels_append (cs ds : List Candidate) :
    moduleLabels (cs ++ ds) = moduleLabels cs ++ moduleLabels ds := by
  simp [moduleLabels]

@[simp] theorem moduleLabels_ofModule (label name : String) (cs : List Candidate) :
    moduleLabels (.ofModule label name :: cs) = label :: moduleLabels cs := rfl

theorem moduleLabels_eq_nil {cs : List Candidate} (h : ∀ c ∈ cs, c.kind ≠ .moduleName) :
    moduleLabels cs = [] := by
  rw [moduleLabels, List.map_eq_nil_iff, List.filter_eq_nil_iff]
  intro c hc hk
  exact h c hc (beq_iff_eq.1 hk)

@[simp] theorem moduleLabels_ofFunction (name : String) (fs : List Function) :
    moduleLabels (fs.map (.ofFunction name)) = [] := by
  refine moduleLabels_eq_nil fun c hc => ?_
  obtain ⟨f, -, rfl⟩ := List.mem_map.1 hc
  exact nofun

@[simp] theorem moduleLabels_functions (r : ResolvedImport) : moduleLabels r.functions = [] :=
  moduleLabels_ofFunction _ _

@[simp] theorem moduleLabels_constructors (r : ResolvedImport) :
    moduleLabels r.constructors = [] := by
  refine moduleLabels_eq_nil fun c hc => ?_
  obtain ⟨t, -, rfl⟩ := List.mem_map.1 hc
  exact nofun

theorem moduleLabels_flatMap {f : ResolvedImport → List Candidate}
    (h : ∀ r, moduleLabels (f r) = []) (rs : List ResolvedImport) :
    moduleLabels (rs.flatMap f) = [] := by
  induction rs with
  | nil => rfl
  | cons r rs ih => rw [List.flatMap_cons, moduleLabels_append, h, ih]; rfl

/-- The labels that are offered behind a qualifier differ from each other and from those
    that have been offered. -/
theorem nodup_moduleLabels_qualified (typed : String) (seen : List String)
    (resolved : List ResolvedImport) :
    (moduleLabels (qualifiedCandidates typed seen resolved)).Nodup ∧
      ∀ label ∈ moduleLabels (qualifiedCandidates typed seen resolved), label ∉ seen := by
  fun_induction qualifiedCandidates typed seen resolved with
  | case1 seen => exact ⟨List.nodup_nil, fun label h => absurd h List.not_mem_nil⟩
  | case2 seen r rest hq ih => exact ih
  | case3 seen r rest qualifier hq hrem ih => simpa using ih
  | case4 seen r rest qualifier hq hrem label hseen ih => exact ih
  | case5 seen r rest qualifier hq hrem label hseen ih =>
    -- The label goes into `seen`, so nothing behind it is offered under this label.
    obtain ⟨hnodup, hnew⟩ := ih
    rw [moduleLabels_ofModule]
    refine ⟨List.nodup_cons.2 ⟨fun h => hnew label h List.mem_cons_self, hnodup⟩, ?_⟩
    intro other h
    rcases List.mem_cons.1 h with rfl | h
    · simpa using hseen
    · exact fun hmem => hnew other h (List.mem_cons_of_mem label hmem)

theorem nodup_moduleLabels_import (project : Project) (typed : String) :
    (moduleLabels (importCandidates disk project current typed)).Nodup := by
  have hlabels : ∀ names : List String,
      moduleLabels (names.map fun name => .ofModule name name) = names := by
    intro names
    induction names with
    | nil => rfl
    | cons name names ih => rw [List.map_cons, moduleLabels_ofModule, ih]
  rw [importCandidates, hlabels]
  refine ((pairwise_workspaceModules disk project).imp fun hlt heq => ?_).filter _
  exact String.lt_irrefl _ (heq ▸ hlt)

/-- **No module is offered twice.** -/
theorem nodup_moduleLabels_candidatesIn (w : Workspace) :
    (moduleLabels (candidatesIn parse disk w file current context).1).Nodup := by
  cases context with
  | value typed =>
    show (moduleLabels (valueCandidates current _)).Nodup
    rw [valueCandidates, moduleLabels_append, moduleLabels_append, moduleLabels_ofFunction,
      moduleLabels_flatMap moduleLabels_functions, moduleLabels_flatMap moduleLabels_constructors]
    exact List.nodup_nil
  | qualified qualifier word =>
    show (moduleLabels (moduleCandidates qualifier _)).Nodup
    have hrest : ∀ resolved : List ResolvedImport,
        moduleLabels (if qualifier.isEmpty then resolved.flatMap (·.constructors) else []) = [] := by
      intro resolved
      split
      · exact moduleLabels_flatMap moduleLabels_constructors resolved
      · rfl
    rw [moduleCandidates, moduleLabels_append, hrest, List.append_nil]
    exact (nodup_moduleLabels_qualified qualifier [] _).1
  | importing typed =>
    rw [candidatesIn]
    split
    · exact List.nodup_nil
    · exact nodup_moduleLabels_import _ typed

/-! ## Requests -/

/-- A request has candidates only at a position with a context and for a text that parses;
    they are then looked for with the text as the contents of its file. -/
theorem complete_cases (parse : SourceParser) (disk : Disk) (w : Workspace) (text : String)
    (file : Path) (pos : Position) :
    (complete parse disk w text file pos).1 = [] ∨
      ∃ current context, parse text = .ok current ∧ contextAt text pos = some context ∧
        complete parse disk w text file pos =
          candidatesIn parse disk
            { w with cache := (w.cache.invalidate file).store file current }
            file current context := by
  unfold complete
  cases contextAt text pos with
  | none => exact .inl rfl
  | some context =>
    cases hparse : parse text with
    | error err =>
      rw [ModuleCache.getWithSource_of_error hparse]
      exact .inl rfl
    | ok current =>
      rw [ModuleCache.getWithSource_of_ok hparse]
      exact .inr ⟨current, context, rfl, rfl, rfl⟩

/-- **Every candidate is justified.**  A function that is offered is one of the edited text,
    for a bare word, or is declared and exposed by the module that an import of the text
    resolves to; a constructor belongs to a type that such a module exposes together with
    its constructors; and no two modules are offered under one label. -/
theorem complete_sound (parse : SourceParser) (disk : Disk) (w : Workspace) (text : String)
    (file : Path) (pos : Position) :
    let candidates := (complete parse disk w text file pos).1
    (∀ c ∈ candidates, ∃ current context,
      parse text = .ok current ∧ contextAt text pos = some context ∧
      let edited := { w with cache := (w.cache.invalidate file).store file current }
      let resolves := Resolves parse disk file edited (requestedImports current context)
      (c.kind = .function →
        ((∃ typed, context = .value typed) ∧ c.moduleName = current.name ∧
          ∃ f ∈ current.functions, c.label = f.name) ∨
        ∃ i ∈ current.imports, ∃ m, resolves i m ∧ c.moduleName = i.moduleName ∧
          ∃ f ∈ m.functions, c.label = f.name ∧ m.exposing.exposesValue f.name = true) ∧
      (c.kind = .constructor →
        ∃ i ∈ current.imports, ∃ m, resolves i m ∧ c.moduleName = i.moduleName ∧
          ∃ t ∈ m.types, c.detail = some t.name ∧ m.exposing.exposesType? t.name = some true ∧
            c.label ∈ t.constructors)) ∧
    ((candidates.filter (·.kind == .moduleName)).map (·.label)).Nodup := by
  intro candidates
  rcases complete_cases parse disk w text file pos with
    hnil | ⟨current, context, hparse, hcontext, hin⟩
  · have hcandidates : candidates = [] := hnil
    rw [hcandidates]
    exact ⟨fun c hc => absurd hc List.not_mem_nil, List.nodup_nil⟩
  · have hcandidates : candidates = (candidatesIn parse disk _ file current context).1 :=
      congrArg Prod.fst hin
    rw [hcandidates]
    refine ⟨fun c hc => ⟨current, context, hparse, hcontext, ?_⟩, nodup_moduleLabels_candidatesIn _⟩
    cases origin_candidatesIn hc with
    | own hf => exact ⟨fun _ => .inl ⟨⟨_, rfl⟩, rfl, _, hf, rfl⟩, nofun⟩
    | function hr hf =>
      have hresolves := mem_resolveImports hr
      have hi := mem_imports_of_mem_requestedImports hresolves.mem
      obtain ⟨hdeclared, hexposed⟩ := Module.mem_exposedFunctions.1 hf
      exact ⟨fun _ => .inr ⟨_, hi, _, hresolves, rfl, _, hdeclared, rfl, hexposed⟩, nofun⟩
    | constructor hr ht =>
      have hresolves := mem_resolveImports hr
      have hi := mem_imports_of_mem_requestedImports hresolves.mem
      obtain ⟨hdeclared, hexposed, hmem⟩ := Module.mem_exposedConstructors.1 ht
      exact ⟨nofun, fun _ => ⟨_, hi, _, hresolves, rfl, _, hdeclared, rfl, hexposed, hmem⟩⟩
    | moduleName label name => exact ⟨nofun, nofun⟩

end Completion

end ElmAssist
