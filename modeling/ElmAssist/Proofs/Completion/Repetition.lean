/-
  Requests that are made twice.

  The first of two equal requests takes over the edited text and caches each module that is
  found for an import.  The second one finds the same modules, and finds all of them in the
  cache, so that it only puts the edited text in its own place again.  This holds as long as
  no file is tried both in a spelling that is too long to be read and in one that is not.

  * `entries_moduleByName_of_contains`: what is cached already is found without a new entry.
  * `contains_resolveImports`: the modules that are found for some imports are cached behind
    them.
  * `entries_resolveImports_of_cached`: imports whose modules are cached change no entry.
  * `complete_twice`: the second request gives the candidates of the first one and leaves the
    entries and projects that it found.
  * `second_request_differs`: where a file is spelled in both ways, it need not.
-/
import ElmAssist.Proofs.Completion.Declared

namespace ElmAssist

variable {parse : Elm.SourceParser} {disk : Disk}

/-! ## Modules that are cached -/

namespace ModuleCache

variable {tried : List Path} {base c c' : ModuleCache}

theorem contains_congr (h : ∀ p, c.find? p = c'.find? p) (p : Path) :
    c.contains p = c'.contains p := by
  rw [contains, contains, h]

/-- A cache that answers like one that has grown has grown too. -/
theorem Grown.congr (h : Grown parse disk tried base c) (hfind : ∀ p, c'.find? p = c.find? p) :
    Grown parse disk tried base c' := by
  have hmodule : ∀ p, c'.module? p = c.module? p := fun p => by rw [module?, module?, hfind]
  constructor
  · intro p m hm
    rw [hmodule]
    exact h.kept hm
  · intro p m hm
    rw [hmodule] at hm
    exact h.read hm

end ModuleCache

/-- **A module that is cached** is found without a new entry. -/
theorem Workspace.entries_moduleByName_of_contains {w : Workspace} {file : Path}
    {moduleName : String}
    (h : ∀ r, (w.moduleByName parse disk file moduleName).1 = some r →
      w.cache.contains r.path = true) :
    (w.moduleByName parse disk file moduleName).2.cache.entries = w.cache.entries := by
  rcases ModuleCache.exists_firstLoad parse disk w.cache
    (w.resolver.filesFor disk file moduleName) with ⟨before, r, hr⟩ | hnone
  · have hcached : (w.cache.failed disk before).contains r.path = true :=
      h r (moduleByName_eq_some_iff.2 ⟨before, hr⟩)
    rw [moduleByName_of_firstLoad hr, ModuleCache.found, if_pos hcached]
    rfl
  · rw [moduleByName_of_none hnone]
    rfl

namespace Completion

open Elm ModuleCache

variable {file : Path} {tried : List Path} {base w : Workspace} {imports : List Import}

/-- The modules that are found for some imports in a workspace are cached. -/
def FoundCached (parse : SourceParser) (disk : Disk) (file : Path) (base : Workspace)
    (imports : List Import) (c : ModuleCache) : Prop :=
  ∀ i ∈ imports, ∀ r, (base.moduleByName parse disk file i.moduleName).1 = some r →
    c.contains r.path = true

/-- **Behind some imports**, the modules that are found for them are cached. -/
theorem contains_resolveImports (h : Workspace.Grown parse disk tried base w)
    (halike : disk.ReadsAlike parse tried) (htried : filesTried disk file base imports ⊆ tried) :
    FoundCached parse disk file base imports
      (resolveImports parse disk file w imports).2.cache := by
  induction imports generalizing w with
  | nil => exact fun i hi => absurd hi List.not_mem_nil
  | cons j rest ih =>
    obtain ⟨hj, hrest⟩ := filesTried_cons_subset htried
    intro i hi r hr
    rw [snd_resolveImports_cons]
    rcases List.mem_cons.1 hi with rfl | hi
    · -- The module is cached when its turn comes, and its entry stays.
      have hfound : (w.moduleByName parse disk file i.moduleName).1 = some r := by
        rw [h.moduleByName_fst halike hj, hr]
      have hself : r.path.same r.path = true := by rw [Path.same_iff]
      have hcached := Workspace.module?_moduleByName hfound r.path
      rw [if_pos hself] at hcached
      obtain ⟨e, he, -⟩ := Option.map_eq_some_iff.1 hcached
      rw [contains, (added_resolveImports parse disk _ file rest).kept he]
      rfl
    · exact ih (h.moduleByName_snd hj) hrest i hi r hr

/-- **Imports whose modules are cached** change no entry. -/
theorem entries_resolveImports_of_cached (h : Workspace.Grown parse disk tried base w)
    (halike : disk.ReadsAlike parse tried) (htried : filesTried disk file base imports ⊆ tried)
    (hcached : FoundCached parse disk file base imports w.cache) :
    (resolveImports parse disk file w imports).2.cache.entries = w.cache.entries := by
  induction imports generalizing w with
  | nil => rfl
  | cons i rest ih =>
    obtain ⟨hi, hrest⟩ := filesTried_cons_subset htried
    have hentries : (w.moduleByName parse disk file i.moduleName).2.cache.entries =
        w.cache.entries := by
      refine Workspace.entries_moduleByName_of_contains fun r hr => ?_
      rw [h.moduleByName_fst halike hi] at hr
      exact hcached i List.mem_cons_self r hr
    rw [snd_resolveImports_cons, ih (h.moduleByName_snd hi) hrest, hentries]
    intro j hj r hr
    rw [contains_congr (find?_of_entries hentries)]
    exact hcached j (List.mem_cons_of_mem i hj) r hr

/-! ## The state behind a request -/

variable {current : Module} {context : Context}

/-- The modules that are found for a request are cached behind it. -/
theorem contains_candidatesIn (halike : disk.ReadsAlike parse tried)
    (htried : filesTried disk file base (requestedImports current context) ⊆ tried) :
    FoundCached parse disk file base (requestedImports current context)
      (candidatesIn parse disk base file current context).2.cache := by
  cases context with
  | value typed => exact contains_resolveImports (.refl base) halike htried
  | qualified qualifier word => exact contains_resolveImports (.refl base) halike htried
  | importing typed => exact fun i hi => absurd hi List.not_mem_nil

/-- A request whose modules are cached changes no entry. -/
theorem entries_candidatesIn_of_cached (h : Workspace.Grown parse disk tried base w)
    (halike : disk.ReadsAlike parse tried)
    (htried : filesTried disk file base (requestedImports current context) ⊆ tried)
    (hcached : FoundCached parse disk file base (requestedImports current context) w.cache) :
    (candidatesIn parse disk w file current context).2.cache.entries = w.cache.entries := by
  cases context with
  | value typed => exact entries_resolveImports_of_cached h halike htried hcached
  | qualified qualifier word => exact entries_resolveImports_of_cached h halike htried hcached
  | importing typed => rw [candidatesIn_importing]

/-- A request in a workspace that has grown gives the candidates that it gives at the start. -/
theorem candidatesIn_fst_of_grown (h : Workspace.Grown parse disk tried base w)
    (halike : disk.ReadsAlike parse tried)
    (htried : filesTried disk file base (requestedImports current context) ⊆ tried) :
    (candidatesIn parse disk w file current context).1 =
      (candidatesIn parse disk base file current context).1 := by
  have howner : (w.resolver.projectFor disk file).1 = (base.resolver.projectFor disk file).1 :=
    congrArg (·.owner? file) h.resolver
  rw [candidatesIn_fst, candidatesIn_fst, (resolveImports_grown h halike htried).1,
    (resolveImports_grown (.refl base) halike htried).1]
  cases context with
  | value typed => rfl
  | qualified qualifier word => rfl
  | importing typed => rw [candidatesOf, candidatesOf, howner]

/-- A request that is made again leaves the projects as they are. -/
theorem resolver_candidatesIn_again {w' : Workspace}
    (h : w'.resolver = (candidatesIn parse disk w file current context).2.resolver) :
    (candidatesIn parse disk w' file current context).2.resolver = w'.resolver := by
  have hloaded : w'.resolver = w.resolver.loaded disk →
      w'.resolver.loaded disk = w'.resolver := by
    intro hw'
    rw [hw', Resolver.loaded_loaded]
  rw [WorkspaceRun.resolver_candidatesIn] at h ⊢
  cases context with
  | importing typed => exact hloaded h
  | value typed =>
    by_cases hnone : requestedImports current (.value typed) = []
    · exact if_pos hnone
    · exact (if_neg hnone).trans (hloaded (h.trans (if_neg hnone)))
  | qualified qualifier word =>
    by_cases hnone : requestedImports current (.qualified qualifier word) = []
    · exact if_pos hnone
    · exact (if_neg hnone).trans (hloaded (h.trans (if_neg hnone)))

/-- Once the edited text has an entry, taking it over again changes at most its place. -/
theorem perm_entries_edited {c : ModuleCache}
    (h : Added parse disk tried (edited w file current).cache c) :
    ((c.invalidate file).store file current).entries.Perm c.entries := by
  obtain ⟨new, hentries, hnew⟩ := h.entries
  rw [entries_edited] at hentries
  have hself : file.same file = true := by rw [Path.same_iff]
  have hothers : c.others file = new ++ w.cache.others file := by
    have hnewOthers : new.filter (!·.filePath.same file) = new := by
      rw [List.filter_eq_self]
      intro e he
      have hfree := (hnew e he).2.1
      rw [find?_edited] at hfree
      split at hfree
      · cases hfree
      · next hs => simpa using hs
    rw [others, hentries, List.filter_append, hnewOthers, List.filter_cons_of_neg (by simp [hself]),
      others, List.filter_filter]
    simp
  rw [store, others_invalidate, hothers, hentries]
  exact List.perm_middle.symm

/-! ## Requests -/

variable {text : String} {pos : Position}

/-- Taking over the edited text again changes no look-up. -/
theorem find?_edited_complete (hparse : parse text = .ok current)
    (hcontext : contextAt text pos = some context) (p : Path) :
    (edited (complete parse disk w text file pos).2 file current).cache.find? p =
      (complete parse disk w text file pos).2.cache.find? p := by
  rw [find?_edited]
  split
  · next hs => rw [find?_complete hparse hcontext hs]
  · rfl

/-- Taking over the edited text again changes at most the place of its entry. -/
theorem perm_entries_edited_complete (hparse : parse text = .ok current)
    (hcontext : contextAt text pos = some context) :
    (edited (complete parse disk w text file pos).2 file current).cache.entries.Perm
      (complete parse disk w text file pos).2.cache.entries := by
  rw [complete_of_context hparse hcontext]
  exact perm_entries_edited
    (added_candidatesIn parse disk (edited w file current) file current context)

/-- The state in which the imports of the second request are resolved has grown from that of
    the first one, and the modules that are found for them are cached in it. -/
theorem grown_edited_complete (hparse : parse text = .ok current)
    (hcontext : contextAt text pos = some context)
    (halike : disk.ReadsAlike parse tried)
    (htried : filesTried disk file (edited w file current) (requestedImports current context) ⊆
      tried) :
    let second := edited (complete parse disk w text file pos).2 file current
    Workspace.Grown parse disk tried (edited w file current) second ∧
      FoundCached parse disk file (edited w file current) (requestedImports current context)
        second.cache := by
  intro second
  have hfirst : complete parse disk w text file pos =
      candidatesIn parse disk (edited w file current) file current context :=
    complete_of_context hparse hcontext
  have hfind : ∀ p, second.cache.find? p = (complete parse disk w text file pos).2.cache.find? p :=
    find?_edited_complete hparse hcontext
  have hgrown := grown_candidatesIn halike htried
  have hcached := contains_candidatesIn halike htried
  rw [← hfirst] at hgrown hcached
  refine ⟨⟨hgrown.resolver, hgrown.cache.congr hfind⟩, fun i hi r hr => ?_⟩
  rw [contains_congr hfind]
  exact hcached i hi r hr

/-- The second request gives the candidates of the first one and leaves its projects, and does
    nothing to the entries but to take over the edited text. -/
theorem complete_again (hparse : parse text = .ok current)
    (hcontext : contextAt text pos = some context)
    (halike : Path.SpelledAlike (filesTried disk file w (requestedImports current context))) :
    let first := complete parse disk w text file pos
    let second := complete parse disk first.2 text file pos
    second.1 = first.1 ∧ second.2.resolver = first.2.resolver ∧
      second.2.cache.entries = (edited first.2 file current).cache.entries := by
  intro first second
  have hedited : Path.SpelledAlike
      (filesTried disk file (edited w file current) (requestedImports current context)) := halike
  have hreads : disk.ReadsAlike parse
      (filesTried disk file (edited w file current) (requestedImports current context)) :=
    readsAlike_filesTried hedited
  have hfirst : first = candidatesIn parse disk (edited w file current) file current context :=
    complete_of_context hparse hcontext
  have hsecond : second =
      candidatesIn parse disk (edited first.2 file current) file current context :=
    complete_of_context hparse hcontext
  obtain ⟨hgrown, hcached⟩ := grown_edited_complete hparse hcontext hreads (List.Subset.refl _)
  have hcandidates := candidatesIn_fst_of_grown hgrown hreads (List.Subset.refl _)
  rw [hsecond]
  refine ⟨hcandidates.trans (congrArg Prod.fst hfirst.symm), ?_, ?_⟩
  · exact resolver_candidatesIn_again (congrArg (·.2.resolver) hfirst)
  · exact entries_candidatesIn_of_cached hgrown hreads (List.Subset.refl _) hcached

/-- A text that does not parse has no entry to lose the second time. -/
theorem complete_again_of_error {err : ParseError} (hparse : parse text = .error err)
    (hcontext : contextAt text pos = some context) :
    let first := complete parse disk w text file pos
    let second := complete parse disk first.2 text file pos
    second.1 = first.1 ∧ second.2.resolver = first.2.resolver ∧
      second.2.cache.entries = first.2.cache.entries := by
  intro first second
  have hfirst : first = ([], { w with cache := (w.cache.invalidate file).countParseFailure }) :=
    complete_of_error hparse hcontext
  have hsecond : second =
      ([], { first.2 with cache := (first.2.cache.invalidate file).countParseFailure }) :=
    complete_of_error hparse hcontext
  rw [hsecond, hfirst]
  exact ⟨rfl, rfl, others_invalidate w.cache file⟩

/-- **A request that is made twice** gives the same candidates and leaves the same projects and
    entries the second time, as long as no file that is tried for its imports is spelled both
    too long and short enough.  The entries may come to stand in another order, which no
    look-up shows. -/
theorem complete_twice (parse : SourceParser) (disk : Disk) (w : Workspace) (text : String)
    (file : Path) (pos : Position)
    (halike : ∀ current context, parse text = .ok current → contextAt text pos = some context →
      Path.SpelledAlike (filesTried disk file w (requestedImports current context))) :
    let first := complete parse disk w text file pos
    let second := complete parse disk first.2 text file pos
    second.1 = first.1 ∧ second.2.resolver = first.2.resolver ∧
      (∀ p, second.2.cache.find? p = first.2.cache.find? p) ∧
      second.2.cache.entries.Perm first.2.cache.entries := by
  intro first second
  cases hcontext : contextAt text pos with
  | none =>
    have hfirst : first = ([], w) := complete_of_no_context hcontext
    have hsecond : second = ([], first.2) := complete_of_no_context hcontext
    rw [hsecond, hfirst]
    exact ⟨rfl, rfl, fun p => rfl, .refl _⟩
  | some context =>
    cases hparse : parse text with
    | error err =>
      obtain ⟨hcandidates, hresolver, hentries⟩ := complete_again_of_error hparse hcontext
      exact ⟨hcandidates, hresolver, find?_of_entries hentries, .of_eq hentries⟩
    | ok current =>
      obtain ⟨hcandidates, hresolver, hentries⟩ :=
        complete_again hparse hcontext (halike current context hparse hcontext)
      refine ⟨hcandidates, hresolver, fun p => ?_, ?_⟩
      · exact (find?_of_entries hentries p).trans (find?_edited_complete hparse hcontext p)
      · exact (List.Perm.of_eq hentries).trans (perm_entries_edited_complete hparse hcontext)

theorem contextAt_crossedText : contextAt "Q.f" ⟨0, 3⟩ = some (.qualified "Q" "f") := by
  decide

theorem requestedImports_crossedModule :
    requestedImports crossedModule (.qualified "Q" "f") = [nestedImport, plainImport] := by
  decide

/-- Without dependencies, a function is offered behind `Q`, and a second request changes
    nothing. -/
theorem complete_twice_nestedProject :
    let first := complete packagesParser packagesDisk (nestedWorkspace []) "Q.f" mainFile ⟨0, 3⟩
    let second := complete packagesParser packagesDisk first.2 "Q.f" mainFile ⟨0, 3⟩
    first.1.map (·.label) = ["f"] ∧ second.1 = first.1 ∧
      second.2.resolver = first.2.resolver ∧
      (∀ p, second.2.cache.find? p = first.2.cache.find? p) ∧
      second.2.cache.entries.Perm first.2.cache.entries := by
  intro first second
  let start := edited (nestedWorkspace []) mainFile crossedModule
  have hstart : start.resolver = (nestedWorkspace []).resolver := rfl
  have hfiles : filesTried packagesDisk mainFile start [nestedImport, plainImport] =
      [⟨"/p/src/Y/Y/A.elm"⟩, ⟨"/p/src/Y/A.elm"⟩] := by
    rw [filesTried, List.flatMap_cons, List.flatMap_singleton, filesFor_nestedWorkspace hstart,
      filesFor_nestedWorkspace hstart, join_plainImport, join_nestedImport]
    rfl
  have hshort : Path.SpelledAlike
      (filesTried packagesDisk mainFile start [nestedImport, plainImport]) := by
    rw [hfiles]
    exact spelledAlike_of_short (by decide)
  constructor
  · have hfirst : first = candidatesIn packagesParser packagesDisk start mainFile crossedModule
        (.qualified "Q" "f") := complete_of_context rfl contextAt_crossedText
    have hplain := moduleByName_plainImport hstart (by decide)
    have hnested : (start.moduleByName packagesParser packagesDisk mainFile
        nestedImport.moduleName).1 = none := moduleByName_nestedImport hstart (by decide)
    rw [hfirst, candidatesIn_fst, requestedImports_crossedModule, resolveImports_fst hshort]
    simp only [List.filterMap_cons, List.filterMap_nil, resolveAlone, hplain, hnested]
    decide
  · refine complete_twice packagesParser packagesDisk (nestedWorkspace []) "Q.f" mainFile ⟨0, 3⟩
      fun current context hparse hcontext => ?_
    obtain rfl : crossedModule = current := Except.ok.inj hparse
    obtain rfl := Option.some.inj (contextAt_crossedText.symm.trans hcontext)
    rw [requestedImports_crossedModule]
    exact hshort

/-! ## Files in two spellings -/

section

variable {v : Workspace} (hr : v.resolver = (nestedWorkspace crossedDependencies).resolver)
  (hYA : v.cache.module? ⟨"/p/src/Y/Y/A.elm"⟩ = none)
  (hz : v.cache.load? packagesParser packagesDisk ⟨"/z/src/Y/A.elm"⟩ = some secondModule)
include hr hYA hz

/-- The first time, `Y.A` is the second module, and both modules are cached behind the
    imports. -/
theorem resolveImports_crossedModule (hA : v.cache.module? ⟨"/p/src/Y/A.elm"⟩ = none) :
    let result := resolveImports packagesParser packagesDisk mainFile v [nestedImport, plainImport]
    result.1 = [⟨nestedImport, secondModule⟩, ⟨plainImport, firstModule⟩] ∧
      ∀ q, result.2.cache.module? q =
        if (⟨"/p/src/Y/A.elm"⟩ : Path).same q then some firstModule
        else if (⟨"/z/src/Y/A.elm"⟩ : Path).same q then some secondModule
        else v.cache.module? q := by
  intro result
  have hnested := moduleByName_crossedDependencies hr hYA hz
  rw [hA] at hnested
  have hbehind := Workspace.module?_moduleByName hnested
  have hplain := moduleByName_plainImport (resolver_moduleByName hr nestedImport.moduleName)
    (by rw [hbehind, if_neg (by decide), hA])
  refine ⟨?_, fun q => ?_⟩
  · show (resolveImports packagesParser packagesDisk mainFile v _).1 = _
    rw [fst_resolveImports_cons, fst_resolveImports_cons, resolveAlone, hnested, resolveAlone,
      hplain]
    rfl
  · show (resolveImports packagesParser packagesDisk mainFile v _).2.cache.module? q = _
    rw [snd_resolveImports_cons, snd_resolveImports_cons, resolveImports,
      Workspace.module?_moduleByName hplain, hbehind]

/-- Once the first module is cached, `Y.A` is that one. -/
theorem resolveImports_crossedModule_cached
    (hA : v.cache.module? ⟨"/p/src/Y/A.elm"⟩ = some firstModule) :
    ∃ rest, (resolveImports packagesParser packagesDisk mainFile v [nestedImport, plainImport]).1 =
      ⟨nestedImport, firstModule⟩ :: rest := by
  have hnested := moduleByName_crossedDependencies hr hYA hz
  rw [hA] at hnested
  rw [fst_resolveImports_cons, resolveAlone, hnested]
  exact ⟨_, rfl⟩

end

/-- The second request offers a function of the first module, where the first one offers a
    function of the second module. -/
theorem second_request_differs :
    let w := nestedWorkspace crossedDependencies
    let first := complete packagesParser packagesDisk w "Q.f" mainFile ⟨0, 3⟩
    let second := complete packagesParser packagesDisk first.2 "Q.f" mainFile ⟨0, 3⟩
    contextAt "Q.f" ⟨0, 3⟩ = some (.qualified "Q" "f") ∧
      first.1.map (·.label) = ["g", "f"] ∧ second.1.head?.map (·.label) = some "f" := by
  intro w first second
  have hfirst : first = candidatesIn packagesParser packagesDisk (edited w mainFile crossedModule)
      mainFile crossedModule (.qualified "Q" "f") := complete_of_context rfl contextAt_crossedText
  have hsecond : second = candidatesIn packagesParser packagesDisk
      (edited first.2 mainFile crossedModule) mainFile crossedModule (.qualified "Q" "f") :=
    complete_of_context rfl contextAt_crossedText
  have hstart : (edited w mainFile crossedModule).resolver =
      (nestedWorkspace crossedDependencies).resolver := rfl
  obtain ⟨hresolved, hcached⟩ :=
    resolveImports_crossedModule hstart (by decide) load?_secondModule (by decide)
  -- Behind the first request, both modules are cached.
  have hbehind : ∀ q, q.same mainFile = false →
      (edited first.2 mainFile crossedModule).cache.module? q =
        (resolveImports packagesParser packagesDisk mainFile (edited w mainFile crossedModule)
          [nestedImport, plainImport]).2.cache.module? q := by
    intro q hq
    rw [module?, find?_edited, hq, if_neg Bool.false_ne_true, hfirst,
      ← requestedImports_crossedModule]
    rfl
  have hagain : (edited first.2 mainFile crossedModule).resolver =
      (nestedWorkspace crossedDependencies).resolver := by
    show first.2.resolver = _
    rw [hfirst, WorkspaceRun.resolver_candidatesIn]
    rfl
  have hmissing : (edited first.2 mainFile crossedModule).cache.module? ⟨"/p/src/Y/Y/A.elm"⟩ =
      none := by
    rw [hbehind _ (by decide), hcached]
    decide
  have hplain : (edited first.2 mainFile crossedModule).cache.module? ⟨"/p/src/Y/A.elm"⟩ =
      some firstModule := by
    rw [hbehind _ (by decide), hcached, if_pos (by decide)]
  have hnested : (edited first.2 mainFile crossedModule).cache.module? ⟨"/z/src/Y/A.elm"⟩ =
      some secondModule := by
    rw [hbehind _ (by decide), hcached, if_neg (by decide), if_pos (by decide)]
  obtain ⟨rest, hrest⟩ := resolveImports_crossedModule_cached hagain hmissing
    (by rw [load?, hnested, Option.some_or]) hplain
  refine ⟨contextAt_crossedText, ?_, ?_⟩
  · rw [hfirst, candidatesIn_fst, requestedImports_crossedModule, hresolved]
    decide
  · rw [hsecond, candidatesIn_fst, requestedImports_crossedModule, hrest]
    rfl

end Completion

end ElmAssist
