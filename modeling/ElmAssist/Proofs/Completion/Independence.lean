/-
  Imports are resolved independently of each other.

  One cache is threaded through the imports of a module, and each look-up may add to it.
  `ModuleCache.Grown` says how: the entries that were there stay, and a new one holds what
  some file that was tried holds on disk.  So a later import finds in the cache what it
  would have read from disk, as long as all spellings of a file that are tried read alike.

  * `firstLoadable_fst`: a search over files depends on what each of them gives alone.
  * `resolveImports_grown`: the imports of a list are resolved as each would be alone.
  * `imports_resolve_alone`: hence imports that cannot be resolved do not matter to the
    others, and it makes no difference whether the imports are resolved first and then
    selected by what is typed.
  * `earlier_import_shows`: where one file is spelled in two ways, one of which is too long
    to be read, an import can be resolved because of the one before it.
-/
import ElmAssist.Proofs.Completion.Soundness
import ElmAssist.Proofs.Disk.Spelling
import ElmAssist.Proofs.Path.Bytes
import Mathlib.Data.List.Basic

namespace ElmAssist

variable {parse : Elm.SourceParser} {disk : Disk}

/-! ## Spellings of the files that are tried -/

/-- Of two spellings of one file, both or neither are too long to be read. -/
def Path.SpelledAlike (ps : List Path) : Prop :=
  ∀ p ∈ ps, ∀ q ∈ ps, p.same q = true →
    (Disk.pathLimit ≤ p.size ↔ Disk.pathLimit ≤ q.size)

theorem Path.SpelledAlike.mono {ps qs : List Path} (h : SpelledAlike ps) (hsub : qs ⊆ ps) :
    SpelledAlike qs :=
  fun p hp q hq => h p (hsub hp) q (hsub hq)

/-- All spellings of a file that are tried hold the same module. -/
def Disk.ReadsAlike (disk : Disk) (parse : Elm.SourceParser) (ps : List Path) : Prop :=
  ∀ p ∈ ps, ∀ q ∈ ps, p.same q = true → disk.load? parse p = disk.load? parse q

/-- A path ends like what is joined to it. -/
theorem Path.endsInName_join {p q : Path} (h : q.EndsInName) : (p.join q).EndsInName := by
  obtain ⟨c, hc, hslash, hdot⟩ := h
  refine ⟨c, ?_, hslash, hdot⟩
  unfold join
  split
  · exact hc
  · split
    · simp [List.getLast?_append, hc]
    · simp [List.getLast?_append, List.getLast?_cons, hc]

theorem endsInName_modulePath (moduleName : String) : (modulePath moduleName).EndsInName := by
  have hextension : Path.spell sourceExtension = "elm" := rfl
  refine ⟨'m', ?_, by decide, by decide⟩
  rw [modulePath, Path.ofText, moduleFile, Path.spell_append, hextension]
  simp [List.getLast?_append]

/-- The files that are tried for modules. -/
theorem Resolver.endsInName_of_mem_filesFor {r : Resolver} {file p : Path} {moduleName : String}
    (h : p ∈ r.filesFor disk file moduleName) : p.EndsInName := by
  obtain ⟨project, -, hfiles⟩ := exists_project h
  rw [hfiles, Project.candidates, List.mem_map] at h
  obtain ⟨dir, -, rfl⟩ := h
  exact Path.endsInName_join (endsInName_modulePath moduleName)

/-! ## Searches -/

/-- A search depends on what it gives for the elements of the list. -/
theorem findSome?_congr {α β : Type} {f g : α → Option β} {as : List α}
    (h : ∀ a ∈ as, f a = g a) : as.findSome? f = as.findSome? g := by
  induction as with
  | nil => rfl
  | cons a as ih =>
    rw [List.findSome?_cons, List.findSome?_cons, h a List.mem_cons_self,
      ih fun b hb => h b (List.mem_cons_of_mem a hb)]

variable (parse disk) in
/-- **A search over files** gives the first of them that gives something alone. -/
theorem ModuleCache.firstLoadable_fst (c : ModuleCache) (ps : List Path) :
    (c.firstLoadable parse disk ps).1 =
      ps.findSome? fun p => (c.load? parse disk p).map fun m => ⟨p, m⟩ := by
  induction ps generalizing c with
  | nil => rfl
  | cons p ps ih =>
    have hfst := get_fst parse disk c p
    rw [List.findSome?_cons, ← hfst, firstLoadable]
    cases hc : c.get parse disk p with
    | mk found c' =>
      cases found with
      | some m => rfl
      | none =>
        -- The look-up failed, so the entries are still the same.
        have hentries : c'.entries = c.entries := by
          have hnone : (c.get parse disk p).1 = none := by rw [hc]
          have hget := entries_get_of_none hnone
          rwa [hc] at hget
        have hload : ∀ q, c'.load? parse disk q = c.load? parse disk q := fun q => by
          rw [load?, load?, module?, module?, find?_of_entries hentries]
        simp only [ih, hload, Option.map_none]

variable (parse disk) in
theorem Workspace.moduleByName_fst (w : Workspace) (file : Path) (moduleName : String) :
    (w.moduleByName parse disk file moduleName).1 =
      (w.resolver.filesFor disk file moduleName).findSome? fun p =>
        (w.cache.load? parse disk p).map fun m => ⟨p, m⟩ := by
  rw [moduleByName_eq, ModuleCache.firstLoadable_fst]

/-- What has been found for a file is cached for it, and nothing else changes. -/
theorem ModuleCache.module?_found {c : ModuleCache} {p : Path} {m : Elm.Module}
    (h : ∀ e, c.find? p = some e → m = e.parsed) (q : Path) :
    (c.found p m).module? q = if p.same q then some m else c.module? q := by
  cases hc : c.find? p with
  | some e =>
    rw [found_of_find?_some hc, show c.countHit.module? q = c.module? q from rfl]
    split
    · next hs => rw [← module?_congr c hs, module?, hc, h e hc]; rfl
    · rfl
  | none =>
    have hcontains : c.contains p = false := by rw [contains, hc]; rfl
    rw [found, hcontains]
    exact module?_store c.countMiss p q m

/-- A module that has been found is cached for its file. -/
theorem Workspace.module?_moduleByName {w : Workspace} {file : Path} {moduleName : String}
    {r : ResolvedModule} (h : (w.moduleByName parse disk file moduleName).1 = some r) (p : Path) :
    (w.moduleByName parse disk file moduleName).2.cache.module? p =
      if r.path.same p then some r.parsed else w.cache.module? p := by
  obtain ⟨before, hr⟩ := moduleByName_eq_some_iff.1 h
  have hcached : ∀ e, (w.cache.failed disk before).find? r.path = some e → r.parsed = e.parsed :=
    fun e he => hr.parsed_of_cached he
  rw [moduleByName_of_firstLoad hr]
  exact ModuleCache.module?_found hcached p

/-! ## Caches that grow -/

namespace ModuleCache

/-- A cache holds what `base` holds and, for the rest, what files that were tried hold on
    disk. -/
structure Grown (parse : Elm.SourceParser) (disk : Disk) (tried : List Path)
    (base c : ModuleCache) : Prop where
  kept {p : Path} {m : Elm.Module} : base.module? p = some m → c.module? p = some m
  read {p : Path} {m : Elm.Module} : c.module? p = some m →
    base.module? p = some m ∨ ∃ q ∈ tried, q.same p = true ∧ disk.load? parse q = some m

variable {tried : List Path} {base c : ModuleCache} {p : Path}

theorem Grown.refl (base : ModuleCache) : Grown parse disk tried base base :=
  ⟨id, Or.inl⟩

/-- A file that is tried gives what it would give at the start. -/
theorem Grown.load?_eq (h : Grown parse disk tried base c) (halike : disk.ReadsAlike parse tried)
    (hp : p ∈ tried) : c.load? parse disk p = base.load? parse disk p := by
  unfold load?
  cases hb : base.module? p with
  | some m => rw [h.kept hb]
  | none =>
    cases hc : c.module? p with
    | none => rfl
    | some m =>
      rcases h.read hc with hm | ⟨q, hq, hs, hl⟩
      · rw [hb] at hm; cases hm
      · rw [← halike q hq p hp hs, hl]; rfl

/-- **A look-up lets the cache grow.** -/
theorem Grown.get (h : Grown parse disk tried base c) (hp : p ∈ tried) :
    Grown parse disk tried base (c.get parse disk p).2 := by
  constructor
  · intro q m hb
    rw [module?_get]
    split
    · next hs => rw [load?, module?_congr c hs, h.kept hb]; rfl
    · exact h.kept hb
  · intro q m hm
    rw [module?_get] at hm
    split at hm
    · next hs =>
      rw [load?] at hm
      cases hc : c.module? p with
      | some m' =>
        rw [hc, Option.some_or, Option.some.injEq] at hm
        exact h.read (by rw [← module?_congr c hs, hc, hm])
      | none =>
        rw [hc, Option.none_or] at hm
        exact .inr ⟨p, hp, hs, hm⟩
    · exact h.read hm

theorem Grown.firstLoadable {ps : List Path} (h : Grown parse disk tried base c)
    (hps : ps ⊆ tried) : Grown parse disk tried base (c.firstLoadable parse disk ps).2 := by
  induction ps generalizing c with
  | nil => exact h
  | cons p ps ih =>
    have hget := h.get (hps List.mem_cons_self)
    unfold ModuleCache.firstLoadable
    cases hc : c.get parse disk p with
    | mk found c' =>
      rw [hc] at hget
      cases found with
      | some m => exact hget
      | none => exact ih hget fun q hq => hps (List.mem_cons_of_mem p hq)

end ModuleCache

namespace Workspace

/-- A workspace with the projects of another, whose cache has grown from that one's. -/
structure Grown (parse : Elm.SourceParser) (disk : Disk) (tried : List Path)
    (base w : Workspace) : Prop where
  resolver : w.resolver.loaded disk = base.resolver.loaded disk
  cache : ModuleCache.Grown parse disk tried base.cache w.cache

variable {tried : List Path} {base w : Workspace} {file : Path} {moduleName : String}

theorem Grown.refl (base : Workspace) : Grown parse disk tried base base :=
  ⟨rfl, .refl _⟩

theorem Grown.filesFor_eq (h : Grown parse disk tried base w) (file : Path) (moduleName : String) :
    w.resolver.filesFor disk file moduleName = base.resolver.filesFor disk file moduleName := by
  rw [← Resolver.filesFor_loaded, h.resolver, Resolver.filesFor_loaded]

/-- **A module is found as it would be at the start.** -/
theorem Grown.moduleByName_fst (h : Grown parse disk tried base w)
    (halike : disk.ReadsAlike parse tried)
    (htried : base.resolver.filesFor disk file moduleName ⊆ tried) :
    (w.moduleByName parse disk file moduleName).1 =
      (base.moduleByName parse disk file moduleName).1 := by
  rw [Workspace.moduleByName_fst, Workspace.moduleByName_fst, h.filesFor_eq]
  refine findSome?_congr fun p hp => ?_
  rw [h.cache.load?_eq halike (htried hp)]

theorem Grown.moduleByName_snd (h : Grown parse disk tried base w)
    (htried : base.resolver.filesFor disk file moduleName ⊆ tried) :
    Grown parse disk tried base (w.moduleByName parse disk file moduleName).2 := by
  rw [moduleByName_eq, h.filesFor_eq]
  refine ⟨?_, h.cache.firstLoadable htried⟩
  rw [Resolver.loaded_loaded, h.resolver]

end Workspace

namespace Completion

open Elm

variable {file : Path} {tried : List Path} {base w : Workspace}

/-! ## Imports alone -/

/-- An import with the module that it resolves to alone. -/
def resolveAlone (parse : SourceParser) (disk : Disk) (file : Path) (w : Workspace) (i : Import) :
    Option ResolvedImport :=
  (w.moduleByName parse disk file i.moduleName).1.map fun r => ⟨i, r.parsed⟩

/-- The files that are tried for some imports. -/
def filesTried (disk : Disk) (file : Path) (w : Workspace) (imports : List Import) : List Path :=
  imports.flatMap fun i => w.resolver.filesFor disk file i.moduleName

theorem filesFor_subset_filesTried {imports : List Import} {i : Import} (h : i ∈ imports) :
    w.resolver.filesFor disk file i.moduleName ⊆ filesTried disk file w imports :=
  fun _ hp => List.mem_flatMap.2 ⟨i, h, hp⟩

theorem filesTried_mono {imports others : List Import} (h : imports ⊆ others) :
    filesTried disk file w imports ⊆ filesTried disk file w others := by
  intro p hp
  obtain ⟨i, hi, hp⟩ := List.mem_flatMap.1 hp
  exact List.mem_flatMap.2 ⟨i, h hi, hp⟩

theorem filesTried_cons_subset {i : Import} {rest : List Import}
    (h : filesTried disk file w (i :: rest) ⊆ tried) :
    w.resolver.filesFor disk file i.moduleName ⊆ tried ∧ filesTried disk file w rest ⊆ tried :=
  List.append_subset.1 h

/-- Files that are spelled alike hold the same module. -/
theorem readsAlike_filesTried {imports : List Import}
    (h : Path.SpelledAlike (filesTried disk file w imports)) :
    disk.ReadsAlike parse (filesTried disk file w imports) := by
  have hname : ∀ p ∈ filesTried disk file w imports, p.EndsInName := by
    intro p hp
    obtain ⟨i, -, hp⟩ := List.mem_flatMap.1 hp
    exact Resolver.endsInName_of_mem_filesFor hp
  intro p hp q hq hs
  exact Disk.load?_congr hs (hname p hp) (hname q hq) (h p hp q hq hs) disk parse

/-- The first import comes first, if it is resolved. -/
theorem fst_resolveImports_cons (w : Workspace) (i : Import) (rest : List Import) :
    (resolveImports parse disk file w (i :: rest)).1 =
      (resolveAlone parse disk file w i).toList ++ (resolveImports parse disk file
        (w.moduleByName parse disk file i.moduleName).2 rest).1 := by
  rw [resolveImports, resolveAlone]
  cases hfound : (w.moduleByName parse disk file i.moduleName).1 with
  | some r => simp only [hfound, Option.map_some, Option.toList_some, List.singleton_append]
  | none => simp only [hfound, Option.map_none, Option.toList_none, List.nil_append]

/-- **The imports of a list are resolved as each would be alone**, from any state that has
    grown from the start. -/
theorem resolveImports_grown {imports : List Import} (h : Workspace.Grown parse disk tried base w)
    (halike : disk.ReadsAlike parse tried) (htried : filesTried disk file base imports ⊆ tried) :
    (resolveImports parse disk file w imports).1 =
        imports.filterMap (resolveAlone parse disk file base) ∧
      Workspace.Grown parse disk tried base (resolveImports parse disk file w imports).2 := by
  induction imports generalizing w with
  | nil => exact ⟨rfl, h⟩
  | cons i rest ih =>
    obtain ⟨hi, hrest⟩ := filesTried_cons_subset htried
    obtain ⟨hfst, hgrown⟩ := ih (h.moduleByName_snd hi) hrest
    have hsame : resolveAlone parse disk file w i = resolveAlone parse disk file base i := by
      rw [resolveAlone, resolveAlone, h.moduleByName_fst halike hi]
    refine ⟨?_, by rwa [snd_resolveImports_cons]⟩
    rw [fst_resolveImports_cons, hfst, hsame, List.filterMap_cons]
    cases resolveAlone parse disk file base i <;> rfl

/-- At its turn, an import resolves as it would at the start. -/
theorem moduleByName_turn {before after : List Import} {i : Import}
    (halike : Path.SpelledAlike (filesTried disk file w (before ++ i :: after))) :
    ((resolveImports parse disk file w before).2.moduleByName parse disk file i.moduleName).1 =
      (w.moduleByName parse disk file i.moduleName).1 := by
  have hbefore : before ⊆ before ++ i :: after := List.subset_append_left _ _
  have hreads : disk.ReadsAlike parse (filesTried disk file w (before ++ i :: after)) :=
    readsAlike_filesTried halike
  have hgrown := (resolveImports_grown (.refl w) hreads (filesTried_mono hbefore)).2
  exact hgrown.moduleByName_fst hreads (filesFor_subset_filesTried (by simp))

/-- The imports of a list are resolved as each would be alone. -/
theorem resolveImports_fst {imports : List Import}
    (halike : Path.SpelledAlike (filesTried disk file w imports)) :
    (resolveImports parse disk file w imports).1 =
      imports.filterMap (resolveAlone parse disk file w) :=
  (resolveImports_grown (.refl w) (readsAlike_filesTried halike) (List.Subset.refl _)).1

/-- Selecting imports before or after they are resolved makes no difference. -/
theorem resolveImports_filter {imports : List Import} (selected : Import → Bool)
    (halike : Path.SpelledAlike (filesTried disk file w imports)) :
    (resolveImports parse disk file w (imports.filter selected)).1 =
      (resolveImports parse disk file w imports).1.filter fun r => selected r.clause := by
  have hsub : imports.filter selected ⊆ imports := List.filter_sublist.subset
  rw [resolveImports_fst halike, resolveImports_fst (halike.mono (filesTried_mono hsub)),
    List.filterMap_filter, List.filter_filterMap]
  refine List.filterMap_congr fun i _ => ?_
  unfold resolveAlone
  cases (w.moduleByName parse disk file i.moduleName).1 with
  | none => simp
  | some r => simp [Option.filter]

/-! ## What is seen of a module from outside -/

/-- A module as others see it: without its imports. -/
def outside (m : Module) : Module :=
  { m with imports := [] }

/-- A resolved import as far as candidates depend on it. -/
def ResolvedImport.outside (r : ResolvedImport) : ResolvedImport :=
  { r with parsed := Completion.outside r.parsed }

theorem flatMap_outside {f : ResolvedImport → List Candidate} (h : ∀ r, f r.outside = f r)
    (rs : List ResolvedImport) : (rs.map (·.outside)).flatMap f = rs.flatMap f := by
  rw [List.flatMap_map]
  exact congrArg (rs.flatMap ·) (funext h)

theorem qualifiedCandidates_outside (typed : String) (seen : List String)
    (rs : List ResolvedImport) :
    qualifiedCandidates typed seen (rs.map (·.outside)) = qualifiedCandidates typed seen rs := by
  induction rs generalizing seen with
  | nil => rfl
  | cons r rs ih =>
    rw [List.map_cons, qualifiedCandidates, qualifiedCandidates]
    simp only [ih]
    rfl

/-- Whether an import may be what is typed in a context. -/
def isRequested : Context → Import → Bool
  | .value typed, i => (qualifier? i typed).isSome
  | .qualified qualifier _, i => (qualifier? i qualifier).isSome
  | .importing _, _ => false

theorem requestedImports_eq (current : Module) (context : Context) :
    requestedImports current context = current.imports.filter (isRequested context) := by
  cases context with
  | value typed => rfl
  | qualified qualifier word => rfl
  | importing typed => exact (List.filter_eq_nil_iff.2 fun _ _ => Bool.false_ne_true).symm

/-- The candidates in a context, given the imports that have been resolved for it. -/
def candidatesOf (disk : Disk) (r : Resolver) (file : Path) (current : Module)
    (resolved : List ResolvedImport) : Context → List Candidate
  | .value _ => valueCandidates current resolved
  | .qualified qualifier _ => moduleCandidates qualifier resolved
  | .importing typed =>
    match (r.projectFor disk file).1 with
    | some project => importCandidates disk project current typed
    | none => []

theorem candidatesIn_fst (w : Workspace) (file : Path) (current : Module) (context : Context) :
    (candidatesIn parse disk w file current context).1 =
      candidatesOf disk w.resolver file current
        (resolveImports parse disk file w (requestedImports current context)).1 context := by
  cases context with
  | value typed => rfl
  | qualified qualifier word => rfl
  | importing typed =>
    rw [candidatesIn, candidatesOf]
    cases w.resolver.projectFor disk file with
    | mk project? resolver => cases project? <;> rfl

/-- Candidates do not depend on the imports of the modules that they are taken from. -/
theorem candidatesOf_outside (r : Resolver) (current : Module) (rs : List ResolvedImport)
    (context : Context) :
    candidatesOf disk r file (outside current) (rs.map (·.outside)) context =
      candidatesOf disk r file current rs context := by
  have hconstructors : (rs.map (·.outside)).flatMap (·.constructors) =
      rs.flatMap (·.constructors) := flatMap_outside (fun _ => rfl) rs
  have hfunctions : (rs.map (·.outside)).flatMap (·.functions) =
      rs.flatMap (·.functions) := flatMap_outside (fun _ => rfl) rs
  cases context with
  | value typed =>
    rw [candidatesOf, candidatesOf, valueCandidates, valueCandidates, hconstructors, hfunctions]
    rfl
  | qualified qualifier word =>
    rw [candidatesOf, candidatesOf, moduleCandidates, moduleCandidates,
      qualifiedCandidates_outside, hconstructors]
  | importing typed => rfl

/-- An import resolves alike from two texts of the edited file that differ in their imports
    only. -/
theorem resolveAlone_outside {w : Workspace} {current current' : Module}
    (h : outside current = outside current') (i : Import) :
    (resolveAlone parse disk file
        { w with cache := (w.cache.invalidate file).store file current } i).map (·.outside) =
      (resolveAlone parse disk file
        { w with cache := (w.cache.invalidate file).store file current' } i).map (·.outside) := by
  unfold resolveAlone
  rw [Workspace.moduleByName_fst, Workspace.moduleByName_fst]
  simp only [List.map_findSome?]
  refine findSome?_congr fun p _ => ?_
  simp only [Function.comp, ModuleCache.load?, ModuleCache.module?_store]
  split
  · simp [ResolvedImport.outside, h]
  · rfl

/-! ## Requests -/

/-- The state in which the imports of a request are resolved: the edited text is the module
    of its file. -/
def edited (w : Workspace) (file : Path) (current : Module) : Workspace :=
  { w with cache := (w.cache.invalidate file).store file current }

theorem complete_of_context {text : String} {pos : Position} {current : Module}
    {context : Context} (hparse : parse text = .ok current)
    (hcontext : contextAt text pos = some context) :
    complete parse disk w text file pos =
      candidatesIn parse disk (edited w file current) file current context := by
  rw [complete, hcontext]
  simp only [ModuleCache.getWithSource_of_ok hparse]
  rfl

theorem complete_of_no_context {text : String} {pos : Position}
    (hcontext : contextAt text pos = none) : complete parse disk w text file pos = ([], w) := by
  rw [complete, hcontext]

theorem complete_of_error {text : String} {pos : Position} {context : Context} {err : ParseError}
    (hparse : parse text = .error err) (hcontext : contextAt text pos = some context) :
    complete parse disk w text file pos =
      ([], { w with cache := (w.cache.invalidate file).countParseFailure }) := by
  rw [complete, hcontext]
  simp only [ModuleCache.getWithSource_of_error hparse]

/-- On an import line, only the projects are needed. -/
theorem candidatesIn_importing (w : Workspace) (file : Path) (current : Module) (typed : String) :
    (candidatesIn parse disk w file current (.importing typed)).2 =
      { w with resolver := w.resolver.loaded disk } := by
  rw [candidatesIn]
  cases hp : w.resolver.projectFor disk file with
  | mk project? resolver =>
    have hresolver : resolver = w.resolver.loaded disk := congrArg Prod.snd hp.symm
    cases project? with
    | none => rw [hresolver]
    | some project => rw [hresolver]

/-- Without the imports that cannot be resolved, the same imports are resolved. -/
theorem resolveImports_deleted {current current' : Module} {context : Context}
    (halike : Path.SpelledAlike (filesTried disk file w current.imports))
    (hdeleted : current' = { current with
      imports := current.imports.filter fun i =>
        (resolveAlone parse disk file (edited w file current) i).isSome }) :
    (resolveImports parse disk file (edited w file current')
        (requestedImports current' context)).1.map (·.outside) =
      (resolveImports parse disk file (edited w file current)
        (requestedImports current context)).1.map (·.outside) := by
  have houtside : outside current = outside current' := by rw [hdeleted]; rfl
  have himports : current'.imports ⊆ current.imports := by
    rw [hdeleted]; exact List.filter_sublist.subset
  -- The files that are tried depend on the projects only, and not on the edited text.
  have hrequested : ∀ m : Module, m.imports ⊆ current.imports →
      Path.SpelledAlike (filesTried disk file (edited w file m) (requestedImports m context)) :=
    fun m hm => halike.mono (filesTried_mono fun i hi =>
      hm (mem_imports_of_mem_requestedImports hi))
  rw [resolveImports_fst (hrequested current (List.Subset.refl _)),
    resolveImports_fst (hrequested current' himports), List.map_filterMap, List.map_filterMap,
    requestedImports_eq, requestedImports_eq, hdeleted, List.filter_filter,
    List.filterMap_filter, List.filterMap_filter]
  refine List.filterMap_congr fun i _ => ?_
  rw [← hdeleted, edited, edited, ← resolveAlone_outside houtside i]
  cases resolveAlone parse disk file _ i with
  | none => simp
  | some r => simp

/-- Imports that cannot be resolved may as well be deleted. -/
theorem complete_deleted {text text' : String} {pos pos' : Position} {current : Module}
    {context : Context} (hparse : parse text = .ok current)
    (hcontext : contextAt text pos = some context)
    (halike : Path.SpelledAlike (filesTried disk file w current.imports))
    (hparse' : parse text' = .ok { current with
      imports := current.imports.filter fun i =>
        (resolveAlone parse disk file (edited w file current) i).isSome })
    (hcontext' : contextAt text' pos' = some context) :
    (complete parse disk w text' file pos').1 = (complete parse disk w text file pos).1 := by
  rw [complete_of_context hparse hcontext, complete_of_context hparse' hcontext',
    candidatesIn_fst, candidatesIn_fst, ← candidatesOf_outside, ← candidatesOf_outside _ current,
    resolveImports_deleted halike rfl]
  rfl

/-- The imports that are requested may as well be selected after all are resolved. -/
theorem complete_selected {text : String} {pos : Position} {current : Module}
    {context : Context} (hparse : parse text = .ok current)
    (hcontext : contextAt text pos = some context)
    (halike : Path.SpelledAlike (filesTried disk file w current.imports)) :
    (complete parse disk w text file pos).1 =
      candidatesOf disk w.resolver file current
        ((resolveImports parse disk file (edited w file current) current.imports).1.filter
          fun r => isRequested context r.clause) context := by
  have hedited : Path.SpelledAlike
      (filesTried disk file (edited w file current) current.imports) := halike
  rw [complete_of_context hparse hcontext, candidatesIn_fst, requestedImports_eq,
    resolveImports_filter _ hedited]
  rfl

/-- **Imports are resolved independently of each other.**  As long as no file that is tried
    for some imports is spelled both too long and short enough, each import is resolved as
    it would be alone, at its turn and in the whole.  So the candidates of a request stay the
    same if the imports that cannot be resolved are deleted, or if all imports are resolved
    before those that fit what is typed are selected. -/
theorem imports_resolve_alone (parse : SourceParser) (disk : Disk) :
    (∀ (w : Workspace) (file : Path) (imports : List Import),
      Path.SpelledAlike (filesTried disk file w imports) →
      ((resolveImports parse disk file w imports).1 = imports.filterMap fun i =>
        (w.moduleByName parse disk file i.moduleName).1.map fun r => ⟨i, r.parsed⟩) ∧
      ∀ before i after, imports = before ++ i :: after →
        ((resolveImports parse disk file w before).2.moduleByName parse disk file i.moduleName).1 =
          (w.moduleByName parse disk file i.moduleName).1) ∧
    ∀ (w : Workspace) (text : String) (file : Path) (pos : Position) (current : Module)
      (context : Context), parse text = .ok current → contextAt text pos = some context →
      Path.SpelledAlike (filesTried disk file w current.imports) →
      let start := edited w file current
      let candidates := (complete parse disk w text file pos).1
      candidates = candidatesOf disk w.resolver file current
          ((resolveImports parse disk file start current.imports).1.filter
            fun r => isRequested context r.clause) context ∧
        ∀ text' pos', contextAt text' pos' = some context →
          parse text' = .ok { current with imports := current.imports.filter fun i =>
            (start.moduleByName parse disk file i.moduleName).1.isSome } →
          (complete parse disk w text' file pos').1 = candidates := by
  refine ⟨fun w file imports halike => ⟨resolveImports_fst halike, ?_⟩, ?_⟩
  · rintro before i after rfl
    exact moduleByName_turn halike
  · intro w text file pos current context hparse hcontext halike start candidates
    refine ⟨complete_selected hparse hcontext halike, fun text' pos' hcontext' hparse' => ?_⟩
    refine complete_deleted hparse hcontext halike ?_ hcontext'
    simp only [resolveAlone, Option.isSome_map]
    exact hparse'

/-! ## Two modules of one name

A project inside a package, with two dependencies: the package itself, spelled too long to
be read, and another package that holds a module of the same name. -/

/-- A disk with two packages, each of which holds a module `Y.A`. -/
def packagesDisk : Disk :=
  let package := fun (text : String) =>
    Entry.directory [("src", .directory [("Y", .directory [("A.elm", .file text.toUTF8)])])]
  { root := .directory [("p", package ""), ("z", package "z")] }

/-- The module in the first of them. -/
def firstModule : Module := { functions := [⟨"f", none, none⟩] }

/-- The module in the second one. -/
def secondModule : Module := { functions := [⟨"g", none, none⟩] }

/-- The import of `A`, which names the first module as the project has it. -/
def plainImport : Import := ⟨"A", some "Q", none⟩

/-- The import of `Y.A`, which names it as the packages have it. -/
def nestedImport : Import := ⟨"Y.A", some "Q", none⟩

/-- A text that imports both. -/
def crossedModule : Module := { imports := [nestedImport, plainImport] }

theorem imports_crossedModule : crossedModule.imports = [nestedImport, plainImport] := rfl

/-- A parser for these modules and for texts that import `Y.A` and `A`, or only `A`. -/
def packagesParser : SourceParser := fun text =>
  if text = "" then .ok firstModule
  else if text = "z" then .ok secondModule
  else if text = "Q.f" then .ok crossedModule
  else .ok { imports := [plainImport] }

/-- The file that is edited. -/
def mainFile : Path := ⟨"/p/src/Y/Main.elm"⟩

/-- A project inside the first package. -/
def nestedProject (dependencies : List Dependency) : Project :=
  { manifest := ⟨"/p/src/Y/elm.json"⟩
    kind := .application
    elmVersion := "0.19.1"
    sourceDirectories := [⟨"/p/src/Y"⟩]
    dependencies }

/-- A workspace with that project. -/
def nestedWorkspace (dependencies : List Dependency) : Workspace :=
  { resolver := { projects := some [nestedProject dependencies] } }

variable {dependencies : List Dependency}

/-- The files that are tried from the edited file. -/
theorem filesFor_nestedWorkspace {r : Resolver}
    (hr : r = (nestedWorkspace dependencies).resolver) (moduleName : String) :
    r.filesFor packagesDisk mainFile moduleName =
      (⟨"/p/src/Y"⟩ : Path).join (modulePath moduleName) ::
        dependencies.map fun d => d.sourceDir.join (modulePath moduleName) := by
  have howns : (nestedProject dependencies).owns mainFile = true := by
    show ([⟨"/p/src/Y"⟩] : List Path).any (fun dir => mainFile.startsWith dir) = true
    decide
  have howner : (r.projectFor packagesDisk mainFile).1 = some (nestedProject dependencies) := by
    rw [hr]
    show [nestedProject dependencies].find? (fun q => q.owns mainFile) = _
    exact List.find?_cons_of_pos howns
  rw [Resolver.filesFor_of_project howner]
  simp [Project.candidates, nestedProject]

theorem join_plainImport :
    (⟨"/p/src/Y"⟩ : Path).join (modulePath plainImport.moduleName) = ⟨"/p/src/Y/A.elm"⟩ := by
  decide

theorem join_nestedImport :
    (⟨"/p/src/Y"⟩ : Path).join (modulePath nestedImport.moduleName) = ⟨"/p/src/Y/Y/A.elm"⟩ := by
  decide

theorem load?_firstModule :
    packagesDisk.load? packagesParser ⟨"/p/src/Y/A.elm"⟩ = some firstModule := by
  have hsteps : (⟨"/p/src/Y/A.elm"⟩ : Path).steps = ["p", "src", "Y", "A.elm"].map .down := by decide
  have hfile : packagesDisk.root.get? ["p", "src", "Y", "A.elm"] = some (.file "".toUTF8) := by
    rfl
  exact Disk.load?_of_names hsteps (by decide) (by decide) (by decide) hfile rfl

theorem load?_secondModule :
    packagesDisk.load? packagesParser ⟨"/z/src/Y/A.elm"⟩ = some secondModule := by
  have hsteps : (⟨"/z/src/Y/A.elm"⟩ : Path).steps = ["z", "src", "Y", "A.elm"].map .down := by decide
  have hfile : packagesDisk.root.get? ["z", "src", "Y", "A.elm"] = some (.file "z".toUTF8) := by
    rfl
  exact Disk.load?_of_names hsteps (by decide) (by decide) (by decide) hfile rfl

theorem load?_packagesDisk_missing :
    packagesDisk.load? packagesParser ⟨"/p/src/Y/Y/A.elm"⟩ = none := by
  have hsteps : (⟨"/p/src/Y/Y/A.elm"⟩ : Path).steps =
      [.down "p", .down "src", .down "Y", .down "Y", .down "A.elm"] := by decide
  have habsolute : (⟨"/p/src/Y/Y/A.elm"⟩ : Path).isAbsolute = true := by decide
  have hshort : ¬ Disk.pathLimit ≤ (⟨"/p/src/Y/Y/A.elm"⟩ : Path).size := by decide
  have hname : ¬ Disk.maxName < (Path.bytesOf "Y").length := by decide
  simp [Disk.load?, Disk.contents, Disk.lookup, hsteps, habsolute, hshort, hname, packagesDisk,
    Disk.walkFrom, Entry.get?, Entry.find?, Except.toOption]

variable (hr : w.resolver = (nestedWorkspace dependencies).resolver)
include hr

/-- `A` is the first module. -/
theorem moduleByName_plainImport (hA : w.cache.module? ⟨"/p/src/Y/A.elm"⟩ = none) :
    (w.moduleByName packagesParser packagesDisk mainFile plainImport.moduleName).1 =
      some ⟨⟨"/p/src/Y/A.elm"⟩, firstModule⟩ := by
  have hload : w.cache.load? packagesParser packagesDisk ⟨"/p/src/Y/A.elm"⟩ =
      some firstModule := by
    rw [ModuleCache.load?, hA, load?_firstModule]; rfl
  rw [Workspace.moduleByName_fst, filesFor_nestedWorkspace hr, join_plainImport,
    List.findSome?_cons, hload]
  rfl

/-- `Y.A` is looked for in the dependencies, as the project does not hold it. -/
theorem moduleByName_nestedImport (hYA : w.cache.module? ⟨"/p/src/Y/Y/A.elm"⟩ = none) :
    (w.moduleByName packagesParser packagesDisk mainFile nestedImport.moduleName).1 =
      (dependencies.map fun d => d.sourceDir.join ⟨"Y/A.elm"⟩).findSome? fun p =>
        (w.cache.load? packagesParser packagesDisk p).map fun m => ⟨p, m⟩ := by
  have hmissing : w.cache.load? packagesParser packagesDisk ⟨"/p/src/Y/Y/A.elm"⟩ = none := by
    rw [ModuleCache.load?, hYA, load?_packagesDisk_missing]; rfl
  have hfile : modulePath nestedImport.moduleName = ⟨"Y/A.elm"⟩ := by decide
  rw [Workspace.moduleByName_fst, filesFor_nestedWorkspace hr, join_nestedImport, hfile,
    List.findSome?_cons, hmissing]
  rfl

/-- The projects stay as they are. -/
theorem resolver_moduleByName (moduleName : String) :
    (w.moduleByName packagesParser packagesDisk mainFile moduleName).2.resolver =
      (nestedWorkspace dependencies).resolver := by
  rw [Workspace.moduleByName_eq, hr]
  rfl

omit hr

/-- Short paths are spelled alike. -/
theorem spelledAlike_of_short {ps : List Path}
    (h : ∀ p ∈ ps, p.size < Disk.pathLimit) : Path.SpelledAlike ps :=
  fun p hp q hq _ => ⟨fun hl => absurd (h p hp) (by omega), fun hl => absurd (h q hq) (by omega)⟩

/-- Without dependencies, `Y.A` cannot be resolved, and what is offered behind `Q` is the
    same without it. -/
theorem complete_without_nestedImport :
    let w := nestedWorkspace []
    let candidates := (complete packagesParser packagesDisk w "Q.f" mainFile ⟨0, 3⟩).1
    candidates.map (·.label) = ["f"] ∧
      (complete packagesParser packagesDisk w "Q.f " mainFile ⟨0, 3⟩).1 = candidates := by
  intro w candidates
  let start := edited w mainFile crossedModule
  have hstart : start.resolver = (nestedWorkspace []).resolver := rfl
  have htried : filesTried packagesDisk mainFile start crossedModule.imports =
      [⟨"/p/src/Y/Y/A.elm"⟩, ⟨"/p/src/Y/A.elm"⟩] := by
    rw [filesTried, imports_crossedModule, List.flatMap_cons, List.flatMap_singleton,
      filesFor_nestedWorkspace hstart, filesFor_nestedWorkspace hstart, join_plainImport,
      join_nestedImport]
    rfl
  have hshort : Path.SpelledAlike
      (filesTried packagesDisk mainFile start crossedModule.imports) := by
    rw [htried]
    exact spelledAlike_of_short (by decide)
  have hplain := moduleByName_plainImport hstart (by decide)
  have hnested : (start.moduleByName packagesParser packagesDisk mainFile
      nestedImport.moduleName).1 = none := moduleByName_nestedImport hstart (by decide)
  obtain ⟨hresolved, -⟩ := (imports_resolve_alone packagesParser packagesDisk).1 start mainFile
    crossedModule.imports hshort
  obtain ⟨hcandidates, hdeleted⟩ := (imports_resolve_alone packagesParser packagesDisk).2 w "Q.f"
    mainFile ⟨0, 3⟩ crossedModule (.qualified "Q" "f") rfl (by decide) hshort
  refine ⟨?_, hdeleted "Q.f " ⟨0, 3⟩ (by decide) ?_⟩
  · show (complete packagesParser packagesDisk w "Q.f" mainFile ⟨0, 3⟩).1.map (·.label) = _
    rw [hcandidates, hresolved]
    simp only [imports_crossedModule, List.filterMap_cons, List.filterMap_nil, hplain, hnested]
    decide
  · simp only [imports_crossedModule, List.filter_cons, List.filter_nil]
    rw [hplain, hnested]
    rfl

/-! ## Imports that resolve because of others -/

/-- The package around the project, in a spelling that is too long to be read, and the
    second package. -/
def crossedDependencies : List Dependency :=
  [⟨"a", "1.0.0", .behindSlashes Disk.pathLimit "p"⟩, ⟨"b", "1.0.0", ⟨"/z"⟩⟩]

/-- The first module, in a spelling that is too long to be read. -/
def overlongFile : Path :=
  .behindSlashes Disk.pathLimit "p/src/Y/A.elm"

theorem same_overlongFile : (⟨"/p/src/Y/A.elm"⟩ : Path).same overlongFile = true := by
  rw [Path.same_iff, overlongFile, Path.components_behindSlashes]
  decide

theorem files_crossedDependencies :
    (crossedDependencies.map fun d => d.sourceDir.join ⟨"Y/A.elm"⟩) =
      [overlongFile, ⟨"/z/src/Y/A.elm"⟩] := by
  have hsrc : (Path.behindSlashes Disk.pathLimit "p").join ⟨"src"⟩ =
      .behindSlashes Disk.pathLimit "p/src" :=
    Path.join_behindSlashes (c := 'p') (by decide) (by decide) (by decide)
  have hfile : (Path.behindSlashes Disk.pathLimit "p/src").join ⟨"Y/A.elm"⟩ = overlongFile :=
    Path.join_behindSlashes (c := 'c') (by decide) (by decide) (by decide)
  have hshort : ((⟨"/z"⟩ : Path).join ⟨"src"⟩).join ⟨"Y/A.elm"⟩ = ⟨"/z/src/Y/A.elm"⟩ := by decide
  simp only [crossedDependencies, Dependency.sourceDir, List.map_cons, List.map_nil, hsrc, hfile,
    hshort]

/-- `Y.A` is the second module, unless the first one is cached. -/
theorem moduleByName_crossedDependencies
    (hr : w.resolver = (nestedWorkspace crossedDependencies).resolver)
    (hYA : w.cache.module? ⟨"/p/src/Y/Y/A.elm"⟩ = none)
    (hz : w.cache.load? packagesParser packagesDisk ⟨"/z/src/Y/A.elm"⟩ = some secondModule) :
    (w.moduleByName packagesParser packagesDisk mainFile nestedImport.moduleName).1 =
      match w.cache.module? ⟨"/p/src/Y/A.elm"⟩ with
      | some m => some ⟨overlongFile, m⟩
      | none => some ⟨⟨"/z/src/Y/A.elm"⟩, secondModule⟩ := by
  have hoverlong : w.cache.load? packagesParser packagesDisk overlongFile =
      w.cache.module? ⟨"/p/src/Y/A.elm"⟩ := by
    have hunreadable : packagesDisk.load? packagesParser overlongFile = none :=
      Disk.load?_of_overlong (Nat.le_of_lt (Path.lt_size_behindSlashes Disk.pathLimit _))
    rw [ModuleCache.load?, hunreadable, ← ModuleCache.module?_congr _ same_overlongFile,
      Option.or_none]
  rw [moduleByName_nestedImport hr hYA, files_crossedDependencies, List.findSome?_cons, hoverlong,
    List.findSome?_singleton, hz]
  cases w.cache.module? ⟨"/p/src/Y/A.elm"⟩ <;> rfl

/-- `Y.A` is the second module, but the first one if `A` has been resolved before it. -/
theorem earlier_import_shows :
    let w := nestedWorkspace crossedDependencies
    let imports := [plainImport, nestedImport]
    let resolved := (resolveImports packagesParser packagesDisk mainFile w imports).1
    resolved = [⟨plainImport, firstModule⟩, ⟨nestedImport, firstModule⟩] ∧
      resolved ≠ imports.filterMap fun i =>
        (w.moduleByName packagesParser packagesDisk mainFile i.moduleName).1.map
          fun r => ⟨i, r.parsed⟩ := by
  intro w imports resolved
  have hstart : w.resolver = (nestedWorkspace crossedDependencies).resolver := rfl
  have hsecond : (w.cache.module? ⟨"/z/src/Y/A.elm"⟩).or
      (packagesDisk.load? packagesParser ⟨"/z/src/Y/A.elm"⟩) = some secondModule :=
    load?_secondModule
  have hplain := moduleByName_plainImport hstart rfl
  have hcached := Workspace.module?_moduleByName hplain
  have hlater := moduleByName_crossedDependencies
    (resolver_moduleByName hstart plainImport.moduleName) (by rw [hcached]; decide)
    (by rw [ModuleCache.load?, hcached]; exact hsecond)
  rw [hcached, if_pos (by decide)] at hlater
  have halone := moduleByName_crossedDependencies hstart rfl hsecond
  have hresolved : resolved = [⟨plainImport, firstModule⟩, ⟨nestedImport, firstModule⟩] := by
    show (resolveImports packagesParser packagesDisk mainFile w imports).1 = _
    rw [fst_resolveImports_cons, fst_resolveImports_cons, resolveAlone, hplain, resolveAlone,
      hlater]
    rfl
  refine ⟨hresolved, ?_⟩
  rw [hresolved]
  simp only [imports, List.filterMap_cons, List.filterMap_nil, hplain, halone]
  decide

end Completion

end ElmAssist
