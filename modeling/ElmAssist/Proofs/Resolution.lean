/-
  Which file a module is taken from.

  A module is looked for in the candidates of the project that owns the contextual file,
  one after the other.  `FirstLoad` says that a file is the first of some that can be
  loaded, from the cache or from disk.

  * `firstLoadable_of_firstLoad`, `firstLoadable_of_none`: what the search over a list of
    files returns, and all that it does to the cache.
  * `moduleByName_eq`: looking for a module is that search over the candidates.
  * `moduleByName_first_load`: the first candidate that can be loaded wins, so that local
    modules shadow those of packages; at most its entry is added to the cache, and each
    candidate in front of it counts as one miss and one failure.
-/
import ElmAssist.Proofs.Cache.Basic
import ElmAssist.Proofs.Path.Components
import ElmAssist.Resolver

namespace ElmAssist

/-! ## Failed look-ups -/

/-- The counters after look-ups of files that cannot be loaded: each is a miss, and its
    file either could not be read or did not parse. -/
def CacheStats.failed (disk : Disk) (s : CacheStats) (ps : List Path) : CacheStats :=
  { s with
    misses := s.misses + ps.length
    notFound := s.notFound + ps.countP fun p => !disk.readable p
    parseFailures := s.parseFailures + ps.countP fun p => disk.readable p }

theorem CacheStats.failed_cons (disk : Disk) (s : CacheStats) (p : Path) (ps : List Path) :
    s.failed disk (p :: ps) = (s.failed disk [p]).failed disk ps := by
  simp only [failed, List.length_cons, List.length_nil, List.countP_cons, List.countP_nil,
    CacheStats.mk.injEq, true_and, and_true]
  omega

namespace ModuleCache

variable (parse : Elm.SourceParser) (disk : Disk) (c : ModuleCache)

/-- The cache after look-ups of files that cannot be loaded. -/
def failed (ps : List Path) : ModuleCache :=
  { c with stats := c.stats.failed disk ps }

/-- The cache after a look-up of a file that can be loaded. -/
def found (p : Path) (m : Elm.Module) : ModuleCache :=
  if c.contains p then c.countHit else c.countMiss.store p m

@[simp] theorem entries_failed (ps : List Path) : (c.failed disk ps).entries = c.entries := rfl

theorem failed_cons (p : Path) (ps : List Path) :
    c.failed disk (p :: ps) = (c.failed disk [p]).failed disk ps := by
  rw [failed, CacheStats.failed_cons]; rfl

variable {parse disk c}

theorem load?_eq_none_iff {p : Path} :
    c.load? parse disk p = none ↔ c.contains p = false ∧ disk.load? parse p = none := by
  rw [load?, Option.or_eq_none_iff, contains_eq, Option.isSome_eq_false_iff,
    Option.isNone_iff_eq_none]

theorem get_of_load?_none {p : Path} (h : c.load? parse disk p = none) :
    c.get parse disk p = (none, c.failed disk [p]) := by
  have hfst := get_fst parse disk c p
  rw [h] at hfst
  obtain ⟨m, -, hg⟩ | ⟨m, -, -, hg⟩ | ⟨-, -, hr, hg⟩ | ⟨-, -, hr, hg⟩ := get_cases parse disk c p
  · rw [hg] at hfst; cases hfst
  · rw [hg] at hfst; cases hfst
  all_goals
    rw [hg]
    simp [failed, CacheStats.failed, countMiss, countNotFound, countParseFailure, hr]

/-- A look-up of a file that is cached is a hit and changes no entry. -/
theorem found_of_find?_some {p : Path} {m : Elm.Module} {e : CacheEntry} (h : c.find? p = some e) :
    c.found p m = c.countHit := by
  rw [found, contains, h]; rfl

/-- A file that was not cached is a miss and is added to the entries. -/
theorem found_of_find?_none {p : Path} {m : Elm.Module} (h : c.find? p = none) :
    c.found p m = { entries := ⟨p, m⟩ :: c.entries, stats := c.countMiss.stats } := by
  have hothers : c.countMiss.others p = c.entries := others_of_none h
  rw [found, contains, h, store, hothers]; rfl

theorem contains_found_of_not_same {p q : Path} {m : Elm.Module} (h : q.same p = false) :
    (c.found p m).contains q = c.contains q := by
  rw [Path.same_comm] at h
  unfold found
  split
  · rfl
  · rw [contains_eq, module?_store, if_neg (by simp [h])]
    exact (contains_eq c q).symm

theorem get_of_load?_some {p : Path} {m : Elm.Module} (h : c.load? parse disk p = some m) :
    c.get parse disk p = (some m, c.found p m) := by
  have hfst := get_fst parse disk c p
  rw [h] at hfst
  obtain ⟨m', hm, hg⟩ | ⟨m', hm, -, hg⟩ | ⟨-, -, -, hg⟩ | ⟨-, -, -, hg⟩ := get_cases parse disk c p
  · rw [hg, Option.some.injEq] at hfst
    rw [hg, hfst, found, contains_eq, hm]
    rfl
  · rw [hg, Option.some.injEq] at hfst
    rw [hg, hfst, found, contains_eq, hm]
    rfl
  · rw [hg] at hfst; cases hfst
  · rw [hg] at hfst; cases hfst

/-! ## The search over a list of files -/

/-- A file is the first of some that can be loaded, behind the files `before`. -/
structure FirstLoad (parse : Elm.SourceParser) (disk : Disk) (c : ModuleCache)
    (ps before : List Path) (r : ResolvedModule) : Prop where
  split : ∃ after, ps = before ++ r.path :: after
  earlier : ∀ q ∈ before, c.load? parse disk q = none
  loads : c.load? parse disk r.path = some r.parsed

theorem loadable_iff {p : Path} :
    c.load? parse disk p ≠ none ↔
      c.contains p = true ∨ (disk.load? parse p).isSome = true := by
  rw [Ne, load?_eq_none_iff, Classical.not_and_iff_not_or_not, Bool.not_eq_false,
    Option.isSome_iff_ne_none]

/-- Files that cannot be loaded are passed over. -/
theorem firstLoadable_append {before : List Path} (rest : List Path)
    (h : ∀ q ∈ before, c.load? parse disk q = none) :
    c.firstLoadable parse disk (before ++ rest) =
      (c.failed disk before).firstLoadable parse disk rest := by
  induction before generalizing c with
  | nil => rfl
  | cons p before ih =>
    have hp := get_of_load?_none (h p List.mem_cons_self)
    have hrest : ∀ q ∈ before, (c.failed disk [p]).load? parse disk q = none :=
      fun q hq => h q (List.mem_cons_of_mem p hq)
    rw [List.cons_append, firstLoadable, hp, failed_cons disk c p before]
    exact ih hrest

theorem firstLoadable_of_none {ps : List Path} (h : ∀ q ∈ ps, c.load? parse disk q = none) :
    c.firstLoadable parse disk ps = (none, c.failed disk ps) := by
  rw [← List.append_nil ps, firstLoadable_append [] h, List.append_nil]; rfl

/-- **The first file that can be loaded is found.** -/
theorem firstLoadable_of_firstLoad {ps before : List Path} {r : ResolvedModule}
    (h : FirstLoad parse disk c ps before r) :
    c.firstLoadable parse disk ps = (some r, (c.failed disk before).found r.path r.parsed) := by
  obtain ⟨after, rfl⟩ := h.split
  have hr : (c.failed disk before).load? parse disk r.path = some r.parsed := h.loads
  rw [firstLoadable_append _ h.earlier, firstLoadable, get_of_load?_some hr]

/-- Either one of some files is the first that can be loaded, or none can be. -/
theorem exists_firstLoad (parse : Elm.SourceParser) (disk : Disk) (c : ModuleCache)
    (ps : List Path) :
    (∃ before r, FirstLoad parse disk c ps before r) ∨ ∀ q ∈ ps, c.load? parse disk q = none := by
  induction ps with
  | nil => exact Or.inr fun q hq => absurd hq List.not_mem_nil
  | cons p ps ih =>
    cases hp : c.load? parse disk p with
    | some m => exact Or.inl ⟨[], ⟨p, m⟩, ⟨ps, rfl⟩, fun q hq => absurd hq List.not_mem_nil, hp⟩
    | none =>
      rcases ih with ⟨before, r, ⟨after, rfl⟩, he, hl⟩ | h
      · refine Or.inl ⟨p :: before, r, ⟨after, rfl⟩, fun q hq => ?_, hl⟩
        rcases List.mem_cons.1 hq with rfl | hq
        · exact hp
        · exact he q hq
      · refine Or.inr fun q hq => ?_
        rcases List.mem_cons.1 hq with rfl | hq
        · exact hp
        · exact h q hq

theorem firstLoadable_eq_some_iff {ps : List Path} {r : ResolvedModule} :
    (c.firstLoadable parse disk ps).1 = some r ↔ ∃ before, FirstLoad parse disk c ps before r := by
  constructor
  · intro h
    rcases exists_firstLoad parse disk c ps with ⟨before, r', hr⟩ | hn
    · rw [firstLoadable_of_firstLoad hr, Option.some.injEq] at h
      exact ⟨before, h ▸ hr⟩
    · rw [firstLoadable_of_none hn] at h; cases h
  · rintro ⟨before, hr⟩
    rw [firstLoadable_of_firstLoad hr]

theorem FirstLoad.mem {ps before : List Path} {r : ResolvedModule}
    (h : FirstLoad parse disk c ps before r) : r.path ∈ ps := by
  obtain ⟨after, rfl⟩ := h.split
  simp

/-- A cached file is found with its cached module, whatever the disk holds. -/
theorem FirstLoad.parsed_of_cached {ps before : List Path} {r : ResolvedModule} {e : CacheEntry}
    (h : FirstLoad parse disk c ps before r) (he : c.find? r.path = some e) :
    r.parsed = e.parsed := by
  have hloads := h.loads
  rw [load?, module?, he] at hloads
  exact (Option.some.inj hloads).symm

theorem FirstLoad.load?_of_uncached {ps before : List Path} {r : ResolvedModule}
    (h : FirstLoad parse disk c ps before r) (hn : c.find? r.path = none) :
    disk.load? parse r.path = some r.parsed := by
  have hloads := h.loads
  rw [load?, module?, hn] at hloads
  exact hloads

/-- A file that can be loaded is found unless one in front of it is. -/
theorem FirstLoad.mem_of_loadable {ps before front back : List Path} {p : Path} {r : ResolvedModule}
    (h : FirstLoad parse disk c ps before r) (hps : ps = front ++ p :: back)
    (hp : c.load? parse disk p ≠ none) : r.path ∈ front ++ [p] := by
  obtain ⟨after, hsplit⟩ := h.split
  rw [hsplit, List.append_eq_append_iff] at hps
  rcases hps with ⟨between, rfl, hr⟩ | ⟨between, rfl, hr⟩
  · cases between with
    | nil =>
      rw [List.nil_append, List.cons.injEq] at hr
      simp [hr.1]
    | cons q between =>
      rw [List.cons_append, List.cons.injEq] at hr
      simp [hr.1]
  · cases between with
    | nil =>
      rw [List.nil_append, List.cons.injEq] at hr
      simp [hr.1]
    | cons q between =>
      -- Here `p` stands in front of the file that was found.
      rw [List.cons_append, List.cons.injEq] at hr
      exact absurd (h.earlier p (by simp [hr.1])) hp

end ModuleCache

/-! ## Looking for a module -/

namespace Resolver

/-- The files that are tried for a module, as it is seen from a file. -/
def filesFor (r : Resolver) (disk : Disk) (file : Path) (moduleName : String) : List Path :=
  match (r.projectFor disk file).1 with
  | some project => project.candidates moduleName
  | none => []

/-- Where files are tried, a project owns the contextual file. -/
theorem exists_project {r : Resolver} {disk : Disk} {file p : Path} {moduleName : String}
    (h : p ∈ r.filesFor disk file moduleName) :
    ∃ project, (r.projectFor disk file).1 = some project ∧
      r.filesFor disk file moduleName = project.candidates moduleName := by
  unfold filesFor at h ⊢
  cases hp : (r.projectFor disk file).1 with
  | none => rw [hp] at h; exact absurd h List.not_mem_nil
  | some project => exact ⟨project, rfl, rfl⟩

theorem filesFor_of_project {r : Resolver} {disk : Disk} {file : Path} {project : Project}
    (h : (r.projectFor disk file).1 = some project) (moduleName : String) :
    r.filesFor disk file moduleName = project.candidates moduleName := by
  rw [filesFor, h]

theorem loaded_loaded (r : Resolver) (disk : Disk) :
    (r.loaded disk).loaded disk = r.loaded disk := by
  unfold loaded
  split
  · rfl
  · simp [refresh]

theorem filesFor_loaded (r : Resolver) (disk : Disk) (file : Path) (moduleName : String) :
    (r.loaded disk).filesFor disk file moduleName = r.filesFor disk file moduleName := by
  simp only [filesFor, projectFor, loaded_loaded]

end Resolver

namespace Workspace

open ModuleCache

variable (parse : Elm.SourceParser) (disk : Disk) (w : Workspace) (file : Path)
  (moduleName : String)

/-- Looking for a module is the search over its candidates. -/
theorem moduleByName_eq :
    w.moduleByName parse disk file moduleName =
      ((w.cache.firstLoadable parse disk (w.resolver.filesFor disk file moduleName)).1,
        { resolver := w.resolver.loaded disk
          cache := (w.cache.firstLoadable parse disk
            (w.resolver.filesFor disk file moduleName)).2 }) := by
  unfold moduleByName Resolver.filesFor Resolver.projectFor
  cases h : (w.resolver.loaded disk).owner? file with
  | none => simp only [h]; rfl
  | some project => simp only [h]

variable {parse disk w file moduleName}

/-- What is found, and what is left behind, when a candidate can be loaded. -/
theorem moduleByName_of_firstLoad {before : List Path} {r : ResolvedModule}
    (h : FirstLoad parse disk w.cache (w.resolver.filesFor disk file moduleName) before r) :
    w.moduleByName parse disk file moduleName =
      (some r, { resolver := w.resolver.loaded disk
                 cache := (w.cache.failed disk before).found r.path r.parsed }) := by
  rw [moduleByName_eq, firstLoadable_of_firstLoad h]

/-- What is left behind when no candidate can be loaded. -/
theorem moduleByName_of_none
    (h : ∀ q ∈ w.resolver.filesFor disk file moduleName, w.cache.load? parse disk q = none) :
    w.moduleByName parse disk file moduleName =
      (none, { resolver := w.resolver.loaded disk
               cache := w.cache.failed disk (w.resolver.filesFor disk file moduleName) }) := by
  rw [moduleByName_eq, firstLoadable_of_none h]

theorem moduleByName_eq_some_iff {r : ResolvedModule} :
    (w.moduleByName parse disk file moduleName).1 = some r ↔
      ∃ before, FirstLoad parse disk w.cache (w.resolver.filesFor disk file moduleName) before r := by
  rw [moduleByName_eq, firstLoadable_eq_some_iff]

/-- A module is found iff a project owns the file and one of its candidates can be
    loaded. -/
theorem isSome_moduleByName_iff :
    (w.moduleByName parse disk file moduleName).1.isSome = true ↔
      ∃ project, (w.resolver.projectFor disk file).1 = some project ∧
        ∃ p ∈ project.candidates moduleName, w.cache.load? parse disk p ≠ none := by
  constructor
  · intro h
    obtain ⟨r, hr⟩ := Option.isSome_iff_exists.1 h
    obtain ⟨before, hf⟩ := moduleByName_eq_some_iff.1 hr
    obtain ⟨project, ho, hc⟩ := Resolver.exists_project hf.mem
    exact ⟨project, ho, r.path, hc ▸ hf.mem, by rw [hf.loads]; exact Option.some_ne_none _⟩
  · rintro ⟨project, ho, p, hp, hl⟩
    rw [← Resolver.filesFor_of_project ho] at hp
    rcases exists_firstLoad parse disk w.cache (w.resolver.filesFor disk file moduleName) with
      ⟨before, r, hr⟩ | hn
    · rw [moduleByName_of_firstLoad hr]; rfl
    · exact absurd (hn p hp) hl

/-- The candidates below the source directories come first, in their order. -/
theorem candidates_of_split {project : Project} {front back : List Path} {dir : Path}
    (h : project.sourceDirectories = front ++ dir :: back) :
    project.candidates moduleName =
      front.map (·.join (modulePath moduleName)) ++ dir.join (modulePath moduleName) ::
        (back ++ project.dependencies.map (·.sourceDir)).map (·.join (modulePath moduleName)) := by
  simp [Project.candidates, h]

/-- **Source directories shadow what comes behind them.**  If the candidate below a source
    directory can be loaded, then a module is found below it or below an earlier one. -/
theorem moduleByName_of_sourceDirectory {project : Project} {front back : List Path} {dir : Path}
    (ho : (w.resolver.projectFor disk file).1 = some project)
    (hdirs : project.sourceDirectories = front ++ dir :: back)
    (hl : w.cache.load? parse disk (dir.join (modulePath moduleName)) ≠ none) :
    ∃ r d, (w.moduleByName parse disk file moduleName).1 = some r ∧ d ∈ front ++ [dir] ∧
      r.path = d.join (modulePath moduleName) := by
  have hps := (Resolver.filesFor_of_project ho moduleName).trans (candidates_of_split hdirs)
  rcases exists_firstLoad parse disk w.cache (w.resolver.filesFor disk file moduleName) with
    ⟨before, r, hr⟩ | hnone
  · have hmem := hr.mem_of_loadable hps hl
    obtain ⟨d, hd, he⟩ : ∃ d ∈ front ++ [dir], d.join (modulePath moduleName) = r.path := by
      rwa [← List.mem_map, List.map_append]
    exact ⟨r, d, moduleByName_eq_some_iff.2 ⟨before, hr⟩, hd, he.symm⟩
  · refine absurd (hnone _ ?_) hl
    rw [hps]
    simp

variable (parse disk w file moduleName)

/-- **The first candidate that can be loaded wins.**  A module is found iff a project owns
    the file and one of its candidates is cached, or can be read and parsed.  What is found
    is then the first such candidate, with its cached module or else the one on disk, so
    that a source directory shadows all that come behind it.  At most the entry for that
    candidate is added to the cache; every candidate in front of it counts as one miss and
    one failure, and stays uncached unless it names the same file. -/
theorem moduleByName_first_load :
    let project? := (w.resolver.projectFor disk file).1
    let found? := (w.moduleByName parse disk file moduleName).1
    let w' := (w.moduleByName parse disk file moduleName).2
    (found?.isSome = true ↔ ∃ project, project? = some project ∧
      ∃ p ∈ project.candidates moduleName,
        w.cache.contains p = true ∨ (disk.load? parse p).isSome = true) ∧
    (∀ r, found? = some r → ∃ project before after, project? = some project ∧
      project.candidates moduleName = before ++ r.path :: after ∧
      (∀ q ∈ before, w.cache.contains q = false ∧ disk.load? parse q = none) ∧
      (∀ e, w.cache.find? r.path = some e → r.parsed = e.parsed ∧
        w'.cache.entries = w.cache.entries ∧
        w'.cache.stats =
          { w.cache.stats.failed disk before with hits := w.cache.stats.hits + 1 }) ∧
      (w.cache.find? r.path = none → disk.load? parse r.path = some r.parsed ∧
        w'.cache.entries = ⟨r.path, r.parsed⟩ :: w.cache.entries ∧
        w'.cache.stats =
          { w.cache.stats.failed disk before with
            misses := w.cache.stats.misses + before.length + 1 }) ∧
      ∀ q ∈ before, q.same r.path = false → w'.cache.contains q = false) ∧
    (found? = none → w'.cache.entries = w.cache.entries ∧
      w'.cache.stats =
        w.cache.stats.failed disk (w.resolver.filesFor disk file moduleName)) ∧
    (∀ project front dir back, project? = some project →
      project.sourceDirectories = front ++ dir :: back →
      (w.cache.contains (dir.join (modulePath moduleName)) = true ∨
        (disk.load? parse (dir.join (modulePath moduleName))).isSome = true) →
      ∃ r d, found? = some r ∧ d ∈ front ++ [dir] ∧ r.path = d.join (modulePath moduleName)) ∧
    w'.resolver = w.resolver.loaded disk := by
  intro project? found? w'
  refine ⟨?_, fun r hr => ?_, fun hn => ?_, fun project front dir back ho hdirs hl => ?_, ?_⟩
  · simp only [← loadable_iff]
    exact isSome_moduleByName_iff
  · obtain ⟨before, hf⟩ := moduleByName_eq_some_iff.1 hr
    obtain ⟨after, hps⟩ := hf.split
    obtain ⟨project, ho, hc⟩ := Resolver.exists_project hf.mem
    have hw : w'.cache = (w.cache.failed disk before).found r.path r.parsed :=
      congrArg (·.2.cache) (moduleByName_of_firstLoad hf)
    have hfailed := find?_of_entries (entries_failed disk w.cache before) r.path
    refine ⟨project, before, after, ho, hc ▸ hps,
      fun q hq => load?_eq_none_iff.1 (hf.earlier q hq), fun e he => ?_, fun hn => ?_, ?_⟩
    · rw [hw, found_of_find?_some (hfailed.trans he)]
      exact ⟨hf.parsed_of_cached he, rfl, rfl⟩
    · rw [hw, found_of_find?_none (hfailed.trans hn)]
      exact ⟨hf.load?_of_uncached hn, rfl, rfl⟩
    · intro q hq hs
      rw [hw, contains_found_of_not_same hs]
      exact (load?_eq_none_iff.1 (hf.earlier q hq)).1
  · rcases exists_firstLoad parse disk w.cache (w.resolver.filesFor disk file moduleName) with
      ⟨before, r, hr⟩ | hnone
    · rw [show found? = some r from moduleByName_eq_some_iff.2 ⟨before, hr⟩] at hn; cases hn
    · have hw : w'.cache = w.cache.failed disk (w.resolver.filesFor disk file moduleName) :=
        congrArg (·.2.cache) (moduleByName_of_none hnone)
      rw [hw]
      exact ⟨rfl, rfl⟩
  · exact moduleByName_of_sourceDirectory ho hdirs (loadable_iff.2 hl)
  · show (w.moduleByName parse disk file moduleName).2.resolver = _
    rw [moduleByName_eq]

end Workspace

/-! ## Two spellings of a file

An entry is kept for a file however its path is spelled, but a path can be spelled too
long to be read.  So a candidate that could not be read may be cached afterwards, when a
later candidate spells the same file in a shorter way. -/

/-- A path that is too long cannot be read. -/
theorem Disk.load?_of_overlong {disk : Disk} {parse : Elm.SourceParser} {p : Path}
    (h : pathLimit ≤ p.size) : disk.load? parse p = none := by
  unfold load? contents lookup
  by_cases hz : p.text.toList.any (·.toNat == 0) = true
  · simp [hz, Except.toOption]
  · simp [hz, h, Except.toOption]

namespace Workspace

open ModuleCache

/-- A project with two dependencies on one package, whose path is too long in the first. -/
def twiceInstalled : Project :=
  { manifest := ⟨"/w/elm.json"⟩
    kind := .application
    elmVersion := "0.19.1"
    sourceDirectories := [⟨"/w"⟩]
    dependencies := [⟨"a", "1.0.0", .behindSlashes Disk.pathLimit "p"⟩, ⟨"b", "1.0.0", ⟨"/p"⟩⟩] }

/-- A disk that holds one module of that package. -/
def packageDisk : Disk :=
  { root := .directory [("p", .directory [("src", .directory [("A.elm", .file "".toUTF8)])])] }

/-- The long spelling of the candidate below that package. -/
theorem join_longSpelling :
    ((Path.behindSlashes Disk.pathLimit "p").join ⟨"src"⟩).join ⟨"A.elm"⟩ =
      .behindSlashes Disk.pathLimit "p/src/A.elm" := by
  have hsrc : (Path.behindSlashes Disk.pathLimit "p").join ⟨"src"⟩ =
      .behindSlashes Disk.pathLimit "p/src" :=
    Path.join_behindSlashes (c := 'p') (by decide) (by decide) (by decide)
  have hfile : (Path.behindSlashes Disk.pathLimit "p/src").join ⟨"A.elm"⟩ =
      .behindSlashes Disk.pathLimit "p/src/A.elm" :=
    Path.join_behindSlashes (c := 'c') (by decide) (by decide) (by decide)
  rw [hsrc, hfile]

/-- Both spellings name the same file. -/
theorem same_longSpelling :
    (⟨"/p/src/A.elm"⟩ : Path).same (.behindSlashes Disk.pathLimit "p/src/A.elm") = true := by
  rw [Path.same_iff, Path.components_behindSlashes]
  decide

theorem load?_longSpelling (disk : Disk) (parse : Elm.SourceParser) :
    disk.load? parse (.behindSlashes Disk.pathLimit "p/src/A.elm") = none :=
  Disk.load?_of_overlong (Nat.le_of_lt (Path.lt_size_behindSlashes Disk.pathLimit _))

theorem candidates_twiceInstalled :
    twiceInstalled.candidates "A" =
      [⟨"/w/A.elm"⟩, .behindSlashes Disk.pathLimit "p/src/A.elm", ⟨"/p/src/A.elm"⟩] := by
  have hm : modulePath "A" = ⟨"A.elm"⟩ := by decide
  have hw : (⟨"/w"⟩ : Path).join ⟨"A.elm"⟩ = ⟨"/w/A.elm"⟩ := by decide
  have hshort : ((⟨"/p"⟩ : Path).join ⟨"src"⟩).join ⟨"A.elm"⟩ = ⟨"/p/src/A.elm"⟩ := by decide
  simp only [twiceInstalled, Project.candidates, Dependency.sourceDir, List.map_cons, List.map_nil,
    List.cons_append, List.nil_append, hm, join_longSpelling, hw, hshort]

theorem load?_packageDisk_missing (parse : Elm.SourceParser) :
    packageDisk.load? parse ⟨"/w/A.elm"⟩ = none := by
  have hs : (⟨"/w/A.elm"⟩ : Path).steps = [.down "w", .down "A.elm"] := by decide
  have ha : (⟨"/w/A.elm"⟩ : Path).isAbsolute = true := by decide
  have hl : ¬ Disk.pathLimit ≤ (⟨"/w/A.elm"⟩ : Path).size := by decide
  have hn : ¬ Disk.maxName < (Path.bytesOf "w").length := by decide
  simp [Disk.load?, Disk.contents, Disk.lookup, hs, ha, hl, hn, packageDisk, Disk.walkFrom,
    Entry.get?, Entry.find?, Except.toOption]

theorem load?_packageDisk {parse : Elm.SourceParser} {m : Elm.Module} (h : parse "" = .ok m) :
    packageDisk.load? parse ⟨"/p/src/A.elm"⟩ = some m := by
  have hs : (⟨"/p/src/A.elm"⟩ : Path).steps = [.down "p", .down "src", .down "A.elm"] := by decide
  have ha : (⟨"/p/src/A.elm"⟩ : Path).isAbsolute = true := by decide
  have hl : ¬ Disk.pathLimit ≤ (⟨"/p/src/A.elm"⟩ : Path).size := by decide
  have hb : packageDisk.contents ⟨"/p/src/A.elm"⟩ = .ok "".toUTF8 := by
    simp [Disk.contents, Disk.lookup, hs, ha, hl, packageDisk, Disk.walkFrom, Entry.get?,
      Entry.find?]
  have ht : String.fromUTF8? "".toUTF8 = some "" := by decide
  exact Disk.load?_of_contents hb ht h

/-- A candidate in front of the one that is found can be cached afterwards: here the second
    candidate cannot be read, and the third names the same file. -/
theorem earlier_candidate_becomes_cached :
    let parse : Elm.SourceParser := fun _ => .ok {}
    let w : Workspace := { resolver := { projects := some [twiceInstalled] } }
    let long := Path.behindSlashes Disk.pathLimit "p/src/A.elm"
    let result := w.moduleByName parse packageDisk ⟨"/w/Main.elm"⟩ "A"
    (w.resolver.projectFor packageDisk ⟨"/w/Main.elm"⟩).1 = some twiceInstalled ∧
    twiceInstalled.candidates "A" = [⟨"/w/A.elm"⟩, long, ⟨"/p/src/A.elm"⟩] ∧
    result.1 = some ⟨⟨"/p/src/A.elm"⟩, {}⟩ ∧
    w.cache.contains long = false ∧ result.2.cache.contains long = true := by
  intro parse w long result
  have howner : (w.resolver.projectFor packageDisk ⟨"/w/Main.elm"⟩).1 = some twiceInstalled := by
    have howns : twiceInstalled.owns ⟨"/w/Main.elm"⟩ = true := by
      rw [Project.owns, twiceInstalled]; decide
    show [twiceInstalled].find? (fun q => q.owns ⟨"/w/Main.elm"⟩) = _
    exact List.find?_cons_of_pos howns
  have hfirst : FirstLoad parse packageDisk w.cache
      (w.resolver.filesFor packageDisk ⟨"/w/Main.elm"⟩ "A") [⟨"/w/A.elm"⟩, long]
      ⟨⟨"/p/src/A.elm"⟩, {}⟩ := by
    rw [Resolver.filesFor_of_project howner, candidates_twiceInstalled]
    refine ⟨⟨[], rfl⟩, fun q hq => ?_, ?_⟩
    · simp only [List.mem_cons, List.not_mem_nil, or_false] at hq
      rcases hq with rfl | rfl
      · exact load?_packageDisk_missing parse
      · exact load?_eq_none_iff.2 ⟨rfl, load?_longSpelling _ _⟩
    · exact load?_packageDisk rfl
  have hresult : result = _ := moduleByName_of_firstLoad hfirst
  refine ⟨howner, candidates_twiceInstalled, by rw [hresult], rfl, ?_⟩
  rw [hresult, contains_eq, ← module?_congr _ same_longSpelling, ← contains_eq]
  rfl

end Workspace

end ElmAssist
