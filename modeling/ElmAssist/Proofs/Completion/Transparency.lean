/-
  The cache does not show in the answers.

  Two runs of one request are compared, one that starts from a cache and one that starts
  from an empty cache.  The relation between the two caches is `ModuleCache.Over`: the
  first holds what the second holds and, where that holds nothing, what it held at the
  start.  A look-up keeps this relation and gives the same answer on both sides as long as
  the file is `Fresh` at the start, that is, its entry holds what the file holds on disk.

  * `get_over` for one look-up, and from it `firstLoadable_over`, `moduleByName_over`,
    `resolveImports_over` and `candidatesIn_over` for all that are made by a request.
  * `complete_describe_of_fresh`: completions and documentation are those that an empty
    cache gives, if the files that are tried are fresh.  The text that is being edited
    replaces the entry for its own file, so for completions that entry need not be fresh.
  * `cached_spelling_shows`: freshness has to be asked of a file as the request spells it,
    and not as it was spelled when its entry was made.
-/
import ElmAssist.Proofs.Completion.Soundness

namespace ElmAssist

variable {parse : Elm.SourceParser} {disk : Disk}

/-! ## Look-ups from two caches -/

namespace ModuleCache

/-- The entry for a file, if there is one, holds what the file holds on disk, where it is
    read under the given spelling of its path. -/
def Fresh (parse : Elm.SourceParser) (disk : Disk) (c : ModuleCache) (p : Path) : Prop :=
  ∀ e, c.find? p = some e → disk.load? parse p = some e.parsed

/-- A cache holds what `top` holds and, where that holds nothing, what `base` holds. -/
def Over (c top base : ModuleCache) : Prop :=
  ∀ p, c.module? p = (top.module? p).or (base.module? p)

variable {c top base : ModuleCache} {p : Path}

theorem Fresh.load? (h : c.Fresh parse disk p) {m : Elm.Module} (hm : c.module? p = some m) :
    disk.load? parse p = some m := by
  obtain ⟨e, he, rfl⟩ := Option.map_eq_some_iff.1 hm
  exact h e he

/-- Dropping another file does not matter, and a file that was dropped is fresh. -/
theorem Fresh.invalidate {q : Path} (h : p.same q = false → c.Fresh parse disk p) :
    (c.invalidate q).Fresh parse disk p := by
  intro e he
  rw [find?_invalidate] at he
  split at he
  · cases he
  · next hs =>
    rw [Path.same_comm, Bool.not_eq_true] at hs
    exact h hs e he

/-- Both look-ups give the same module. -/
theorem Over.load?_eq (h : Over c top base) (hf : base.Fresh parse disk p) :
    c.load? parse disk p = top.load? parse disk p := by
  rw [ModuleCache.load?, ModuleCache.load?, h p]
  cases ht : top.module? p with
  | some m => rfl
  | none =>
    cases hb : base.module? p with
    | none => rfl
    | some m => rw [hf.load? hb]; rfl

/-- **One look-up from two caches.** -/
theorem get_over (h : Over c top base) (hf : base.Fresh parse disk p) :
    (c.get parse disk p).1 = (top.get parse disk p).1 ∧
      Over (c.get parse disk p).2 (top.get parse disk p).2 base := by
  have hload := h.load?_eq hf
  refine ⟨by rw [get_fst, get_fst, hload], fun q => ?_⟩
  rw [module?_get, module?_get]
  by_cases hs : p.same q = true
  · rw [if_pos hs, if_pos hs, ← hload]
    cases hc : c.load? parse disk p with
    | some m => rfl
    | none =>
      -- Nothing was found, so `c` had no entry, and neither had `base`.
      have hb : base.module? p = none := by
        have hm : c.module? p = none := (Option.or_eq_none_iff.1 hc).1
        rw [h p] at hm
        exact (Option.or_eq_none_iff.1 hm).2
      rw [← module?_congr base hs, hb]; rfl
  · rw [if_neg hs, if_neg hs]
    exact h q

/-- The search over files from two caches. -/
theorem firstLoadable_over {ps : List Path} (h : Over c top base)
    (hf : ∀ p ∈ ps, base.Fresh parse disk p) :
    (c.firstLoadable parse disk ps).1 = (top.firstLoadable parse disk ps).1 ∧
      Over (c.firstLoadable parse disk ps).2 (top.firstLoadable parse disk ps).2 base := by
  induction ps generalizing c top with
  | nil => exact ⟨rfl, h⟩
  | cons p ps ih =>
    obtain ⟨hfst, hover⟩ := get_over h (hf p List.mem_cons_self)
    have hrest : ∀ q ∈ ps, base.Fresh parse disk q := fun q hq => hf q (List.mem_cons_of_mem p hq)
    unfold firstLoadable
    cases hc : c.get parse disk p with
    | mk found c' =>
      cases ht : top.get parse disk p with
      | mk found' top' =>
        rw [hc, ht] at hfst hover
        cases hfst
        cases found with
        | some m => exact ⟨rfl, hover⟩
        | none => exact ih hover hrest

end ModuleCache

/-! ## Modules from two caches -/

namespace Workspace

/-- Two workspaces that differ only in their caches, related as above. -/
structure Over (w top : Workspace) (base : ModuleCache) : Prop where
  resolver : w.resolver = top.resolver
  cache : w.cache.Over top.cache base

theorem moduleByName_over {w top : Workspace} {base : ModuleCache} {file : Path}
    {moduleName : String} (h : w.Over top base)
    (hf : ∀ p ∈ w.resolver.filesFor disk file moduleName, base.Fresh parse disk p) :
    (w.moduleByName parse disk file moduleName).1 =
        (top.moduleByName parse disk file moduleName).1 ∧
      (w.moduleByName parse disk file moduleName).2.Over
        (top.moduleByName parse disk file moduleName).2 base := by
  rw [moduleByName_eq, moduleByName_eq, ← h.resolver]
  obtain ⟨hfst, hover⟩ := ModuleCache.firstLoadable_over h.cache hf
  exact ⟨hfst, rfl, hover⟩

/-- Looking for a module does not change where others are looked for. -/
theorem filesFor_moduleByName (w : Workspace) (file : Path) (moduleName other : String) :
    (w.moduleByName parse disk file moduleName).2.resolver.filesFor disk file other =
      w.resolver.filesFor disk file other := by
  rw [moduleByName_eq]
  exact Resolver.filesFor_loaded _ _ _ _

end Workspace

namespace Completion

open Elm

variable {w top : Workspace} {base : ModuleCache} {file : Path}

theorem resolveImports_over {imports : List Import} (h : w.Over top base)
    (hf : ∀ i ∈ imports, ∀ p ∈ w.resolver.filesFor disk file i.moduleName,
      base.Fresh parse disk p) :
    (resolveImports parse disk file w imports).1 = (resolveImports parse disk file top imports).1 ∧
      (resolveImports parse disk file w imports).2.Over
        (resolveImports parse disk file top imports).2 base := by
  induction imports generalizing w top with
  | nil => exact ⟨rfl, h⟩
  | cons i rest ih =>
    obtain ⟨hfst, hover⟩ := Workspace.moduleByName_over h (hf i List.mem_cons_self)
    obtain ⟨hrest, hover'⟩ := ih hover fun j hj p hp => by
      rw [Workspace.filesFor_moduleByName] at hp
      exact hf j (List.mem_cons_of_mem i hj) p hp
    unfold resolveImports
    simp only [hfst, hrest]
    cases (top.moduleByName parse disk file i.moduleName).1 with
    | some r => exact ⟨rfl, hover'⟩
    | none => exact ⟨rfl, hover'⟩

/-- The candidates in a context from two caches. -/
theorem candidatesIn_over {current : Module} {context : Context} (h : w.Over top base)
    (hf : ∀ i ∈ requestedImports current context, ∀ p ∈ w.resolver.filesFor disk file i.moduleName,
      base.Fresh parse disk p) :
    (candidatesIn parse disk w file current context).1 =
        (candidatesIn parse disk top file current context).1 ∧
      (candidatesIn parse disk w file current context).2.Over
        (candidatesIn parse disk top file current context).2 base := by
  cases context with
  | value typed =>
    obtain ⟨hfst, hover⟩ := resolveImports_over h hf
    exact ⟨congrArg (valueCandidates current) hfst, hover⟩
  | qualified qualifier typed =>
    obtain ⟨hfst, hover⟩ := resolveImports_over h hf
    exact ⟨congrArg (moduleCandidates qualifier) hfst, hover⟩
  | importing typed =>
    unfold candidatesIn
    rw [← h.resolver]
    cases hp : w.resolver.projectFor disk file with
    | mk project? resolver =>
      cases project? with
      | none => exact ⟨rfl, rfl, h.cache⟩
      | some project => exact ⟨rfl, rfl, h.cache⟩

/-! ## Requests -/

/-- **Documentation does not depend on a fresh cache.** -/
theorem describe_of_fresh (w : Workspace) (file : Path) (moduleName item : String)
    (hf : ∀ p ∈ w.resolver.filesFor disk file moduleName, w.cache.Fresh parse disk p) :
    (describe parse disk w file moduleName item).1 =
        (describe parse disk { w with cache := {} } file moduleName item).1 ∧
      (describe parse disk w file moduleName item).2.Over
        (describe parse disk { w with cache := {} } file moduleName item).2 w.cache := by
  have hover : w.Over { w with cache := {} } w.cache := ⟨rfl, fun p => rfl⟩
  obtain ⟨hfst, hover'⟩ := Workspace.moduleByName_over hover hf
  exact ⟨congrArg (·.bind fun r => documentItem? r.parsed item) hfst, hover'⟩

/-- The caches that a request starts from once it has taken over the edited text. -/
theorem over_edited (w : Workspace) (file : Path) (current : Module) :
    Workspace.Over { w with cache := (w.cache.invalidate file).store file current }
      { w with cache := (({} : ModuleCache).invalidate file).store file current }
      (w.cache.invalidate file) := by
  refine ⟨rfl, fun p => ?_⟩
  simp only [ModuleCache.module?_store]
  split
  · rfl
  · rfl

/-- **Completions do not depend on a fresh cache.**  The entry for the edited file may be
    anything. -/
theorem complete_of_fresh (w : Workspace) (text : String) (file : Path) (pos : Position)
    (hf : ∀ current context, parse text = .ok current → contextAt text pos = some context →
      ∀ i ∈ requestedImports current context,
        ∀ p ∈ w.resolver.filesFor disk file i.moduleName, p.same file = false →
          w.cache.Fresh parse disk p) :
    (complete parse disk w text file pos).1 =
        (complete parse disk { w with cache := {} } text file pos).1 ∧
      (complete parse disk w text file pos).2.resolver =
        (complete parse disk { w with cache := {} } text file pos).2.resolver ∧
      ∀ p, p.same file = false →
        (complete parse disk w text file pos).2.cache.module? p =
          ((complete parse disk { w with cache := {} } text file pos).2.cache.module? p).or
            (w.cache.module? p) := by
  have hothers : ∀ p, p.same file = false →
      (w.cache.invalidate file).module? p = w.cache.module? p := by
    intro p hp
    rw [ModuleCache.module?_invalidate, Path.same_comm, hp]; rfl
  unfold complete
  cases hcontext : contextAt text pos with
  | none => exact ⟨rfl, rfl, fun p _ => rfl⟩
  | some context =>
    cases hparse : parse text with
    | error err =>
      rw [ModuleCache.getWithSource_of_error hparse, ModuleCache.getWithSource_of_error hparse]
      exact ⟨rfl, rfl, fun p hp => hothers p hp⟩
    | ok current =>
      rw [ModuleCache.getWithSource_of_ok hparse, ModuleCache.getWithSource_of_ok hparse]
      obtain ⟨hfst, hover⟩ := candidatesIn_over (over_edited w file current)
        fun i hi p hp => ModuleCache.Fresh.invalidate (hf current context hparse hcontext i hi p hp)
      refine ⟨hfst, hover.resolver, fun p hp => ?_⟩
      rw [← hothers p hp]
      exact hover.cache p

/-- **A fresh cache does not show in the answers.**  If the entries for the files that are
    tried for the imports that a completion asks for, other than the edited file, hold what
    these files hold on disk, then the candidates are those that an empty cache gives; and if
    the entries for the files that are tried for a documented module do so, the edited file
    among them or not, the documentation is the same.  Afterwards the projects are the same,
    and the cache holds what it holds after starting empty and, for the rest, what it held
    before; behind a completion this is said of all files but the edited one. -/
theorem complete_describe_of_fresh (parse : SourceParser) (disk : Disk) (w : Workspace)
    (text : String) (file : Path) (pos : Position) :
    let empty : Workspace := { w with cache := {} }
    ((∀ current context, parse text = .ok current → contextAt text pos = some context →
        ∀ i ∈ requestedImports current context,
          ∀ p ∈ w.resolver.filesFor disk file i.moduleName, p.same file = false →
            w.cache.Fresh parse disk p) →
      let (candidates, after) := complete parse disk w text file pos
      let (candidates₀, after₀) := complete parse disk empty text file pos
      candidates = candidates₀ ∧ after.resolver = after₀.resolver ∧
        ∀ p, p.same file = false →
          after.cache.module? p = (after₀.cache.module? p).or (w.cache.module? p)) ∧
    ∀ moduleName item,
      (∀ p ∈ w.resolver.filesFor disk file moduleName, w.cache.Fresh parse disk p) →
      let (answer, after) := describe parse disk w file moduleName item
      let (answer₀, after₀) := describe parse disk empty file moduleName item
      answer = answer₀ ∧ after.resolver = after₀.resolver ∧
        ∀ p, after.cache.module? p = (after₀.cache.module? p).or (w.cache.module? p) := by
  intro empty
  refine ⟨fun hf => complete_of_fresh w text file pos hf, fun moduleName item hf => ?_⟩
  obtain ⟨hanswer, hover⟩ := describe_of_fresh w file moduleName item hf
  exact ⟨hanswer, hover.resolver, hover.cache⟩

/-- A module that imports itself. -/
def selfImporting : Module :=
  { name := "A", imports := [{ moduleName := "A" }], functions := [⟨"f", none, none⟩] }

/-- A workspace with one project, one module of which is cached. -/
def withCachedModule : Workspace :=
  { resolver := { projects := some [{
      manifest := ⟨"/p/elm.json"⟩
      kind := .application
      elmVersion := "0.19.1"
      sourceDirectories := [⟨"/p/src"⟩]
      dependencies := [] }] }
    cache := { entries := [⟨⟨"/p/src/A.elm"⟩, selfImporting⟩] } }

theorem filesFor_withCachedModule :
    withCachedModule.resolver.filesFor Workspace.packageDisk ⟨"/p/src/Main.elm"⟩ "A" =
      [⟨"/p/src/A.elm"⟩] := by
  decide

theorem fresh_withCachedModule :
    withCachedModule.cache.Fresh (fun _ => .ok selfImporting) Workspace.packageDisk
      ⟨"/p/src/A.elm"⟩ := by
  intro e he
  have hfind : withCachedModule.cache.find? ⟨"/p/src/A.elm"⟩ =
      some ⟨⟨"/p/src/A.elm"⟩, selfImporting⟩ := by decide
  rw [hfind, Option.some.injEq] at he
  rw [← he]
  exact Workspace.load?_packageDisk rfl

/-- The cache of that workspace is fresh and not empty. -/
theorem complete_describe_withCachedModule :
    let parse : SourceParser := fun _ => .ok selfImporting
    let disk := Workspace.packageDisk
    let file : Path := ⟨"/p/src/Main.elm"⟩
    let empty : Workspace := { withCachedModule with cache := {} }
    withCachedModule.cache.contains ⟨"/p/src/A.elm"⟩ = true ∧
    (complete parse disk withCachedModule "A.f" file ⟨0, 3⟩).1 =
      (complete parse disk empty "A.f" file ⟨0, 3⟩).1 ∧
    (describe parse disk withCachedModule file "A" "f").1 =
      (describe parse disk empty file "A" "f").1 := by
  intro parse disk file empty
  obtain ⟨hcomplete, hdescribe⟩ :=
    complete_describe_of_fresh parse disk withCachedModule "A.f" file ⟨0, 3⟩
  refine ⟨by decide, (hcomplete fun current context hc _ i hi p hp _ => ?_).1,
    (hdescribe "A" "f" fun p hp => ?_).1⟩
  · have hc' : selfImporting = current := Except.ok.inj hc
    replace hi := mem_imports_of_mem_requestedImports hi
    rw [← hc', selfImporting, List.mem_singleton] at hi
    rw [hi, filesFor_withCachedModule, List.mem_singleton] at hp
    rw [hp]
    exact fresh_withCachedModule
  · rw [filesFor_withCachedModule, List.mem_singleton] at hp
    rw [hp]
    exact fresh_withCachedModule

/-! ## Entries in another spelling

An entry answers look-ups of its file in every spelling, also in one that is too long to be
read from disk. -/

/-- A project that depends on a package whose path is spelled too long to be read. -/
def longInstalled : Project :=
  { Workspace.twiceInstalled with
    dependencies := [⟨"a", "1.0.0", .behindSlashes Disk.pathLimit "p"⟩] }

theorem filesFor_longInstalled :
    ({ projects := some [longInstalled] } : Resolver).filesFor Workspace.packageDisk
        ⟨"/w/Main.elm"⟩ "A" =
      [⟨"/w/A.elm"⟩, .behindSlashes Disk.pathLimit "p/src/A.elm"] := by
  have howns : longInstalled.owns ⟨"/w/Main.elm"⟩ = true := by
    rw [Project.owns, longInstalled, Workspace.twiceInstalled]; decide
  have howner : (({ projects := some [longInstalled] } : Resolver).projectFor
      Workspace.packageDisk ⟨"/w/Main.elm"⟩).1 = some longInstalled := by
    show [longInstalled].find? (fun q => q.owns ⟨"/w/Main.elm"⟩) = _
    exact List.find?_cons_of_pos howns
  have hm : modulePath "A" = ⟨"A.elm"⟩ := by decide
  have hw : (⟨"/w"⟩ : Path).join ⟨"A.elm"⟩ = ⟨"/w/A.elm"⟩ := by decide
  rw [Resolver.filesFor_of_project howner]
  simp only [longInstalled, Workspace.twiceInstalled, Project.candidates, Dependency.sourceDir,
    List.map_cons, List.map_nil, List.cons_append, List.nil_append, hm, hw,
    Workspace.join_longSpelling]

variable (parse) in
/-- The module of that package is found iff it is cached. -/
theorem moduleByName_longInstalled (c : ModuleCache) (hc : c.module? ⟨"/w/A.elm"⟩ = none) :
    (Workspace.moduleByName parse Workspace.packageDisk
        { resolver := { projects := some [longInstalled] }, cache := c } ⟨"/w/Main.elm"⟩ "A").1 =
      (c.module? ⟨"/p/src/A.elm"⟩).map fun m =>
        ⟨.behindSlashes Disk.pathLimit "p/src/A.elm", m⟩ := by
  have hmissing : c.load? parse Workspace.packageDisk ⟨"/w/A.elm"⟩ = none := by
    rw [ModuleCache.load?, hc, Workspace.load?_packageDisk_missing]; rfl
  have hlong : c.load? parse Workspace.packageDisk
      (.behindSlashes Disk.pathLimit "p/src/A.elm") = c.module? ⟨"/p/src/A.elm"⟩ := by
    rw [ModuleCache.load?, Workspace.load?_longSpelling,
      ← ModuleCache.module?_congr c Workspace.same_longSpelling, Option.or_none]
  rw [Workspace.moduleByName_eq, filesFor_longInstalled]
  cases hm : c.module? ⟨"/p/src/A.elm"⟩ with
  | none =>
    rw [ModuleCache.firstLoadable_of_none]
    · rfl
    · intro q hq
      simp only [List.mem_cons, List.not_mem_nil, or_false] at hq
      rcases hq with rfl | rfl
      · exact hmissing
      · exact hlong.trans hm
  | some m =>
    have hfirst : ModuleCache.FirstLoad parse Workspace.packageDisk c
        [⟨"/w/A.elm"⟩, .behindSlashes Disk.pathLimit "p/src/A.elm"] [⟨"/w/A.elm"⟩]
        ⟨.behindSlashes Disk.pathLimit "p/src/A.elm", m⟩ := by
      refine ⟨⟨[], rfl⟩, fun q hq => ?_, hlong.trans hm⟩
      rw [List.mem_singleton] at hq
      rw [hq]
      exact hmissing
    rw [ModuleCache.firstLoadable_of_firstLoad hfirst]
    rfl

/-- The candidates behind a qualifier that fits one import. -/
theorem complete_of_one_import {text typed word : String} {pos : Position} {current : Module}
    {i : Import} (hcontext : contextAt text pos = some (.qualified typed word))
    (hparse : parse text = .ok current) (himports : matchingImports current typed = [i]) :
    (complete parse disk w text file pos).1 =
      moduleCandidates typed (((Workspace.moduleByName parse disk
        { w with cache := (w.cache.invalidate file).store file current } file i.moduleName).1.map
          fun r => (⟨i, r.parsed⟩ : ResolvedImport)).toList) := by
  rw [complete, hcontext]
  simp only [ModuleCache.getWithSource_of_ok hparse, candidatesIn, himports, resolveImports]
  cases (Workspace.moduleByName parse disk
      { w with cache := (w.cache.invalidate file).store file current } file i.moduleName).1 with
  | some r => rfl
  | none => rfl

/-- Its function is offered iff the module is cached. -/
theorem complete_longInstalled (c : ModuleCache) (hc : c.module? ⟨"/w/A.elm"⟩ = none) :
    (complete (fun _ => .ok selfImporting) Workspace.packageDisk
        { resolver := { projects := some [longInstalled] }, cache := c }
        "A.f" ⟨"/w/Main.elm"⟩ ⟨0, 3⟩).1 =
      moduleCandidates "A" ((c.module? ⟨"/p/src/A.elm"⟩).map fun m =>
        (⟨{ moduleName := "A" }, m⟩ : ResolvedImport)).toList := by
  have hcontext : contextAt "A.f" ⟨0, 3⟩ = some (.qualified "A" "f") := by decide
  have himports : matchingImports selfImporting "A" = [{ moduleName := "A" }] := by decide
  -- Taking over the edited text does not touch the entries for the other files.
  have hothers : ∀ p, (⟨"/w/Main.elm"⟩ : Path).same p = false →
      ((c.invalidate ⟨"/w/Main.elm"⟩).store ⟨"/w/Main.elm"⟩ selfImporting).module? p =
        c.module? p := by
    intro p hp
    rw [ModuleCache.module?_store, ModuleCache.module?_invalidate, hp]; rfl
  have hmissing := (hothers ⟨"/w/A.elm"⟩ (by decide)).trans hc
  rw [complete_of_one_import hcontext rfl himports, moduleByName_longInstalled _ _ hmissing,
    hothers ⟨"/p/src/A.elm"⟩ (by decide), Option.map_map]
  rfl

/-- The entries hold what their own paths hold on disk, but a request that spells one of
    them too long finds it in the cache only. -/
theorem cached_spelling_shows :
    let parse : SourceParser := fun _ => .ok selfImporting
    let disk := Workspace.packageDisk
    let file : Path := ⟨"/w/Main.elm"⟩
    let w : Workspace :=
      { resolver := { projects := some [longInstalled] }
        cache := { entries := [⟨⟨"/p/src/A.elm"⟩, selfImporting⟩] } }
    let empty : Workspace := { w with cache := {} }
    (∀ e ∈ w.cache.entries, disk.load? parse e.filePath = some e.parsed) ∧
    (complete parse disk w "A.f" file ⟨0, 3⟩).1 ≠
      (complete parse disk empty "A.f" file ⟨0, 3⟩).1 ∧
    (describe parse disk w file "A" "f").1 ≠ (describe parse disk empty file "A" "f").1 := by
  intro parse disk file w empty
  have hcached : w.cache.module? ⟨"/p/src/A.elm"⟩ = some selfImporting := by decide
  have hmissing : w.cache.module? ⟨"/w/A.elm"⟩ = none := by decide
  refine ⟨fun e he => ?_, ?_, ?_⟩
  · rw [List.mem_singleton] at he
    rw [he]
    exact Workspace.load?_packageDisk rfl
  · rw [complete_longInstalled w.cache hmissing, complete_longInstalled {} rfl, hcached]
    decide
  · have hwarm : (describe parse disk w file "A" "f").1 =
        (some selfImporting).bind (documentItem? · "f") := by
      show ((w.moduleByName parse disk file "A").1.bind _) = _
      rw [moduleByName_longInstalled parse w.cache hmissing, hcached]; rfl
    have hcold : (describe parse disk empty file "A" "f").1 = none := by
      show ((empty.moduleByName parse disk file "A").1.bind _) = _
      rw [moduleByName_longInstalled parse {} rfl]; rfl
    rw [hwarm, hcold]
    decide

end Completion

end ElmAssist
