/-
  What a completion changes.

  Besides its candidates, a completion leaves a changed cache behind: the text that is being
  edited takes the place of the entry for its file, and the files that are tried for the
  imports may be added.  `ModuleCache.Added` says how look-ups add to a cache: new entries
  come in front of the old ones, each for a file that was tried and had no entry, and with
  what that file holds on disk.

  * `Added.get`, `Added.firstLoadable`, `added_moduleByName`: one look-up, a search over
    files, and a search for a module.
  * `added_candidatesIn`: all look-ups of a request.
  * `complete_effect`: the state behind a completion in each of its three ways.
-/
import ElmAssist.Proofs.Completion.Independence
import ElmAssist.Proofs.Completion.Transparency

namespace ElmAssist

variable {parse : Elm.SourceParser} {disk : Disk}

/-! ## Look-ups -/

namespace ModuleCache

/-- A cache holds the entries of another behind new ones, for files that were tried and had
    no entry; each holds what its file holds on disk. -/
structure Added (parse : Elm.SourceParser) (disk : Disk) (tried : List Path)
    (base c : ModuleCache) : Prop where
  entries : ∃ new, c.entries = new ++ base.entries ∧ ∀ e ∈ new,
    e.filePath ∈ tried ∧ base.find? e.filePath = none ∧
      disk.load? parse e.filePath = some e.parsed
  invalidations : c.stats.invalidations = base.stats.invalidations

variable {tried : List Path} {base c c' : ModuleCache} {p : Path} {e : CacheEntry}

/-- Counting changes no entry. -/
theorem added_of_entries (hentries : c.entries = base.entries)
    (hinvalidations : c.stats.invalidations = base.stats.invalidations) :
    Added parse disk tried base c :=
  ⟨⟨[], hentries, fun _ he => absurd he List.not_mem_nil⟩, hinvalidations⟩

/-- An entry that was there is found first, unless a new one is. -/
theorem find?_append {new : List CacheEntry} (h : c.entries = new ++ base.entries) (p : Path) :
    c.find? p = (new.find? (·.filePath.same p)).or (base.find? p) := by
  rw [find?, h, List.find?_append, find?]

theorem Added.mono {others : List Path} (h : Added parse disk tried base c)
    (hsub : tried ⊆ others) : Added parse disk others base c := by
  obtain ⟨new, hc, hnew⟩ := h.entries
  exact ⟨⟨new, hc, fun e he => ⟨hsub (hnew e he).1, (hnew e he).2⟩⟩, h.invalidations⟩

theorem Added.trans (h : Added parse disk tried base c) (h' : Added parse disk tried c c') :
    Added parse disk tried base c' := by
  obtain ⟨new, hc, hnew⟩ := h.entries
  obtain ⟨new', hc', hnew'⟩ := h'.entries
  refine ⟨⟨new' ++ new, by rw [hc', hc, List.append_assoc], fun e he => ?_⟩,
    h'.invalidations.trans h.invalidations⟩
  rcases List.mem_append.1 he with he | he
  · obtain ⟨htried, hfree, hload⟩ := hnew' e he
    -- A file without an entry in the grown cache had none before either.
    rw [find?_append hc, Option.or_eq_none_iff] at hfree
    exact ⟨htried, hfree.2, hload⟩
  · exact hnew e he

variable (parse disk)

/-- **A look-up adds at most its own file.** -/
theorem added_get (c : ModuleCache) (hp : p ∈ tried) :
    Added parse disk tried c (c.get parse disk p).2 := by
  obtain ⟨m, -, h⟩ | ⟨m, hm, hl, h⟩ | ⟨-, -, -, h⟩ | ⟨-, -, -, h⟩ := get_cases parse disk c p
  · rw [h]; exact added_of_entries rfl rfl
  · have hfree : c.find? p = none := Option.map_eq_none_iff.1 hm
    have hothers : c.countMiss.others p = c.entries := others_of_none hfree
    rw [h]
    refine ⟨⟨[⟨p, m⟩], by rw [store, hothers]; rfl, fun e he => ?_⟩, rfl⟩
    rw [List.mem_singleton] at he
    subst he
    exact ⟨hp, hfree, hl⟩
  · rw [h]; exact added_of_entries rfl rfl
  · rw [h]; exact added_of_entries rfl rfl

theorem added_firstLoadable (c : ModuleCache) {ps : List Path} (hps : ps ⊆ tried) :
    Added parse disk tried c (c.firstLoadable parse disk ps).2 := by
  induction ps generalizing c with
  | nil => exact added_of_entries rfl rfl
  | cons p ps ih =>
    have hget := added_get parse disk c (hps List.mem_cons_self)
    unfold firstLoadable
    cases hc : c.get parse disk p with
    | mk found c' =>
      rw [hc] at hget
      cases found with
      | some m => exact hget
      | none => exact hget.trans (ih c' fun q hq => hps (List.mem_cons_of_mem p hq))

variable {parse disk}

/-- Entries that were there stay. -/
theorem Added.kept (h : Added parse disk tried base c) (he : base.find? p = some e) :
    c.find? p = some e := by
  obtain ⟨new, hc, hnew⟩ := h.entries
  rw [find?_append hc, he, List.find?_eq_none.2, Option.none_or]
  intro e' he' hs
  -- A new entry for this file would have been made although the file had one.
  have hfree := (hnew e' he').2.1
  rw [find?_congr base hs, he] at hfree
  cases hfree

/-- Entries that were not there are for files that were tried. -/
theorem Added.tried_of_new (h : Added parse disk tried base c) (hn : base.find? p = none)
    (he : c.find? p = some e) :
    e.filePath ∈ tried ∧ e.filePath.same p = true ∧
      disk.load? parse e.filePath = some e.parsed := by
  obtain ⟨new, hc, hnew⟩ := h.entries
  rw [find?_append hc, hn, Option.or_none] at he
  obtain ⟨htried, -, hload⟩ := hnew e (List.mem_of_find?_eq_some he)
  have hsame := List.find?_some he
  exact ⟨htried, hsame, hload⟩

/-- Dropping a file twice is dropping it once. -/
theorem others_invalidate (c : ModuleCache) (p : Path) : (c.invalidate p).others p = c.others p := by
  rw [others, invalidate, others, List.filter_filter]
  simp

end ModuleCache

/-! ## Requests -/

namespace Completion

open Elm ModuleCache

variable {w : Workspace} {file : Path}

variable (parse disk)

theorem added_moduleByName (w : Workspace) (file : Path) (moduleName : String) :
    Added parse disk (w.resolver.filesFor disk file moduleName) w.cache
      (w.moduleByName parse disk file moduleName).2.cache := by
  rw [Workspace.moduleByName_eq]
  exact added_firstLoadable parse disk w.cache (List.Subset.refl _)

theorem added_resolveImports (w : Workspace) (file : Path) (imports : List Import) :
    Added parse disk (filesTried disk file w imports) w.cache
      (resolveImports parse disk file w imports).2.cache := by
  induction imports generalizing w with
  | nil => exact added_of_entries rfl rfl
  | cons i rest ih =>
    have hfirst := added_moduleByName parse disk w file i.moduleName
    have hrest := ih (w.moduleByName parse disk file i.moduleName).2
    -- The files for the other imports are the same before and after the first look-up.
    have hfiles : filesTried disk file (w.moduleByName parse disk file i.moduleName).2 rest =
        filesTried disk file w rest := by
      simp only [filesTried, Workspace.filesFor_moduleByName]
    rw [hfiles] at hrest
    rw [snd_resolveImports_cons]
    exact (hfirst.mono (filesFor_subset_filesTried List.mem_cons_self)).trans
      (hrest.mono (filesTried_mono (List.subset_cons_self i rest)))

/-- **What the look-ups of a request add** is for files that are tried for its imports. -/
theorem added_candidatesIn (w : Workspace) (file : Path) (current : Module) (context : Context) :
    Added parse disk (filesTried disk file w (requestedImports current context)) w.cache
      (candidatesIn parse disk w file current context).2.cache := by
  cases context with
  | value typed => exact added_resolveImports parse disk w file _
  | qualified qualifier word => exact added_resolveImports parse disk w file _
  | importing typed =>
    rw [candidatesIn_importing]
    exact added_of_entries rfl rfl

variable {parse disk}

/-- The entry of the edited file, and those of the others. -/
theorem find?_edited (w : Workspace) (file : Path) (current : Module) (p : Path) :
    (edited w file current).cache.find? p =
      if p.same file then some ⟨file, current⟩ else w.cache.find? p := by
  rw [edited, find?_store, find?_invalidate, Path.same_comm file p]
  split <;> rfl

theorem entries_edited (w : Workspace) (file : Path) (current : Module) :
    (edited w file current).cache.entries = ⟨file, current⟩ :: w.cache.others file := by
  rw [edited, store, others_invalidate]

/-- A file that is tried is a candidate of the project that owns the edited file. -/
theorem candidate_of_filesTried {imports : List Import} {p : Path}
    (h : p ∈ filesTried disk file w imports) :
    ∃ project, (w.resolver.projectFor disk file).1 = some project ∧
      ∃ i ∈ imports, p ∈ project.candidates i.moduleName := by
  obtain ⟨i, hi, hp⟩ := List.mem_flatMap.1 h
  obtain ⟨project, howner, hfiles⟩ := Resolver.exists_project hp
  exact ⟨project, howner, i, hi, hfiles ▸ hp⟩

/-- **What a completion changes.**  Without a context, nothing.  For a text that does not
    parse, the entry for its file is dropped, and one dropped entry and one failure are
    counted.  Otherwise the file has the text as its entry, all other entries stay as they
    are, and each new entry is for a candidate, in the project that owns the file, of one of
    the imports of the text. -/
theorem complete_effect (parse : SourceParser) (disk : Disk) (w : Workspace) (text : String)
    (file : Path) (pos : Position) :
    let result := complete parse disk w text file pos
    let c := w.cache
    let c' := result.2.cache
    (contextAt text pos = none → result = ([], w)) ∧
    (∀ context err, contextAt text pos = some context → parse text = .error err →
      result = ([], { w with cache :=
        { entries := c.others file
          stats := { c.stats with
            invalidations := c.stats.invalidations + 1
            parseFailures := c.stats.parseFailures + 1 } } })) ∧
    ∀ context current, contextAt text pos = some context → parse text = .ok current →
      c'.find? file = some ⟨file, current⟩ ∧
      (∀ p e, p.same file = false → c.find? p = some e → c'.find? p = some e) ∧
      (∀ p e, p.same file = false → c.find? p = none → c'.find? p = some e →
        ∃ project, (w.resolver.projectFor disk file).1 = some project ∧
          ∃ i ∈ current.imports, i ∈ requestedImports current context ∧
            e.filePath ∈ project.candidates i.moduleName ∧ e.filePath.same p = true ∧
            disk.load? parse e.filePath = some e.parsed) ∧
      (∃ new, c'.entries = new ++ ⟨file, current⟩ :: c.others file) ∧
      c'.stats.invalidations = c.stats.invalidations + 1 := by
  intro result c c'
  refine ⟨complete_of_no_context, fun context err hcontext hparse =>
    complete_of_error hparse hcontext, fun context current hcontext hparse => ?_⟩
  have hadded : Added parse disk
      (filesTried disk file (edited w file current) (requestedImports current context))
      (edited w file current).cache c' := by
    have hc' : c' = (candidatesIn parse disk (edited w file current) file current context).2.cache :=
      congrArg (·.2.cache) (complete_of_context hparse hcontext)
    rw [hc']
    exact added_candidatesIn parse disk _ file current context
  have hself : file.same file = true := by rw [Path.same_iff]
  refine ⟨hadded.kept ?_, fun p e hs he => hadded.kept ?_, fun p e hs hn he => ?_, ?_,
    hadded.invalidations⟩
  · rw [find?_edited, if_pos hself]
  · rw [find?_edited, hs]; exact he
  · have hfree : (edited w file current).cache.find? p = none := by
      rw [find?_edited, hs]; exact hn
    obtain ⟨htried, hsame, hload⟩ := hadded.tried_of_new hfree he
    obtain ⟨project, howner, i, hi, hp⟩ := candidate_of_filesTried htried
    exact ⟨project, howner, i, mem_imports_of_mem_requestedImports hi, hi, hp, hsame, hload⟩
  · obtain ⟨new, hentries, -⟩ := hadded.entries
    refine ⟨new, hentries.trans ?_⟩
    rw [edited, store, others_invalidate]

/-- A completion in a workspace that has one module cached, which its text imports. -/
theorem complete_effect_withCachedModule :
    let parse : SourceParser := fun _ => .ok selfImporting
    let file : Path := ⟨"/p/src/Main.elm"⟩
    let c' := (complete parse Workspace.packageDisk withCachedModule "A.f" file ⟨0, 3⟩).2.cache
    contextAt "A.f" ⟨0, 3⟩ = some (.qualified "A" "f") ∧
    c'.find? file = some ⟨file, selfImporting⟩ ∧
    c'.find? ⟨"/p/src/A.elm"⟩ = some ⟨⟨"/p/src/A.elm"⟩, selfImporting⟩ := by
  intro parse file c'
  have hcontext : contextAt "A.f" ⟨0, 3⟩ = some (.qualified "A" "f") := by decide +kernel
  obtain ⟨hown, hkept, -⟩ :=
    (complete_effect parse Workspace.packageDisk withCachedModule "A.f" file ⟨0, 3⟩).2.2
      _ selfImporting hcontext rfl
  exact ⟨hcontext, hown, hkept _ _ (by decide) (by decide)⟩

end Completion

end ElmAssist
