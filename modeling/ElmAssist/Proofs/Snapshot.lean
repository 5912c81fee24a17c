/-
  Projects as they were when they were last loaded.

  A `WorkspaceRun` is a workspace together with the disk that it reads, and
  `WorkspaceEvent`s are the operations on it and changes of the disk.  The projects are
  loaded by every `refresh` and by the first operation that needs them, and by nothing else.

  * `projects_run`: the projects are those that the roots and the disk had at the last load.
  * `find?_owns_eq_some_iff`: the first project that owns a file is the first one with a
    source directory whose components are the first components of its path.
  * `owner_from_last_load`: both together, for the answer to any question along a run.
-/
import ElmAssist.Proofs.Completion.Independence
import Mathlib.Data.List.Induction

namespace ElmAssist

/-! ## Runs -/

/-- What happens to a workspace and to the disk below it. -/
inductive WorkspaceEvent where
  /-- The roots become other ones. -/
  | setRoots (roots : List Path)
  /-- The projects are asked for. -/
  | projects
  /-- The projects are loaded again. -/
  | refresh
  /-- The project of a file is asked for. -/
  | projectFor (file : Path)
  /-- A module is looked for. -/
  | moduleByName (file : Path) (moduleName : String)
  /-- Completions are asked for. -/
  | complete (text : String) (file : Path) (pos : Completion.Position)
  /-- Documentation is asked for. -/
  | describe (file : Path) (moduleName item : String)
  /-- The disk becomes another one. -/
  | diskChange (disk : Disk)

/-- A workspace and the disk that it reads. -/
structure WorkspaceRun where
  workspace : Workspace
  disk : Disk

namespace WorkspaceRun

open Completion

variable (parse : Elm.SourceParser)

/-- The workspace after an event. -/
def stepWorkspace (s : WorkspaceRun) : WorkspaceEvent → Workspace
  | .setRoots roots => { s.workspace with resolver := s.workspace.resolver.setRoots roots }
  | .projects => { s.workspace with resolver := s.workspace.resolver.loaded s.disk }
  | .refresh => { s.workspace with resolver := s.workspace.resolver.refresh s.disk }
  | .projectFor file =>
    { s.workspace with resolver := (s.workspace.resolver.projectFor s.disk file).2 }
  | .moduleByName file moduleName => (s.workspace.moduleByName parse s.disk file moduleName).2
  | .complete text file pos => (complete parse s.disk s.workspace text file pos).2
  | .describe file moduleName item => (describe parse s.disk s.workspace file moduleName item).2
  | .diskChange _ => s.workspace

/-- Performs one event. -/
def step (s : WorkspaceRun) (e : WorkspaceEvent) : WorkspaceRun :=
  { workspace := s.stepWorkspace parse e
    disk := match e with
      | .diskChange disk => disk
      | _ => s.disk }

/-- Performs events one after the other. -/
def run (s : WorkspaceRun) (events : List WorkspaceEvent) : WorkspaceRun :=
  events.foldl (step parse) s

theorem run_append (s : WorkspaceRun) (events more : List WorkspaceEvent) :
    s.run parse (events ++ more) = (s.run parse events).run parse more := by
  simp [run]

theorem run_snoc (s : WorkspaceRun) (events : List WorkspaceEvent) (e : WorkspaceEvent) :
    s.run parse (events ++ [e]) = (s.run parse events).step parse e := by
  simp [run]

/-! ## Loads -/

/-- An operation that needs the projects.  A completion does on an import line, and
    otherwise when it has an import to look up. -/
inductive Needs : WorkspaceEvent → Prop
  | projects : Needs .projects
  | projectFor (file : Path) : Needs (.projectFor file)
  | moduleByName (file : Path) (moduleName : String) : Needs (.moduleByName file moduleName)
  | describe (file : Path) (moduleName item : String) : Needs (.describe file moduleName item)
  /-- A completion on an import line. -/
  | onImportLine {text typed : String} {pos : Position} {current : Elm.Module} (file : Path) :
      parse text = .ok current → contextAt text pos = some (.importing typed) →
      Needs (.complete text file pos)
  /-- A completion with imports to look up. -/
  | withImports {text : String} {pos : Position} {current : Elm.Module} {context : Context}
      (file : Path) : parse text = .ok current → contextAt text pos = some context →
      requestedImports current context ≠ [] → Needs (.complete text file pos)

/-- An operation behind which the projects are loaded. -/
def Uses (e : WorkspaceEvent) : Prop :=
  e = .refresh ∨ Needs parse e

/-- The event at position `n` loads the projects: it is a refresh, or the first operation
    that needs them. -/
def LoadAt (events : List WorkspaceEvent) (n : Nat) : Prop :=
  ∃ e, events[n]? = some e ∧ (e = .refresh ∨ Needs parse e ∧ ∀ e' ∈ events.take n, ¬ Uses parse e')

/-- The last position at which the projects are loaded. -/
def LastLoad (events : List WorkspaceEvent) (n : Nat) : Prop :=
  LoadAt parse events n ∧ ∀ k, n < k → ¬ LoadAt parse events k

variable {parse}

/-! ## One event -/

variable {disk : Disk} {w : Workspace} {file : Path}

/-- Looking up imports needs the projects, unless there are none. -/
theorem resolver_resolveImports (parse : Elm.SourceParser) (disk : Disk) (file : Path)
    (w : Workspace) (imports : List Elm.Import) :
    (resolveImports parse disk file w imports).2.resolver =
      if imports = [] then w.resolver else w.resolver.loaded disk := by
  induction imports generalizing w with
  | nil => rfl
  | cons i rest ih =>
    rw [snd_resolveImports_cons, ih, Workspace.moduleByName_eq, if_neg (List.cons_ne_nil i rest)]
    split
    · rfl
    · exact Resolver.loaded_loaded _ _

theorem resolver_candidatesIn (parse : Elm.SourceParser) (disk : Disk) (w : Workspace)
    (file : Path) (current : Elm.Module) (context : Context) :
    (candidatesIn parse disk w file current context).2.resolver =
      match context with
      | .importing _ => w.resolver.loaded disk
      | _ => if requestedImports current context = [] then w.resolver
          else w.resolver.loaded disk := by
  cases context with
  | value typed => exact resolver_resolveImports parse disk file w _
  | qualified qualifier word => exact resolver_resolveImports parse disk file w _
  | importing typed =>
    rw [candidatesIn_importing]

/-- An operation that needs the projects loads them unless they are loaded. -/
theorem resolver_of_needs {s : WorkspaceRun} {e : WorkspaceEvent} (h : Needs parse e) :
    (s.step parse e).workspace.resolver = s.workspace.resolver.loaded s.disk := by
  have hmodule : ∀ file moduleName,
      (s.workspace.moduleByName parse s.disk file moduleName).2.resolver =
        s.workspace.resolver.loaded s.disk :=
    fun file moduleName => by rw [Workspace.moduleByName_eq]
  cases h with
  | projects => rfl
  | projectFor file => rfl
  | moduleByName file moduleName => exact hmodule file moduleName
  | describe file moduleName item => exact hmodule file moduleName
  | onImportLine file hparse hcontext =>
    show (complete _ _ _ _ _ _).2.resolver = _
    rw [complete_of_context hparse hcontext, resolver_candidatesIn]
    rfl
  | @withImports text pos current context file hparse hcontext himports =>
    show (complete _ _ _ _ _ _).2.resolver = _
    rw [complete_of_context hparse hcontext, resolver_candidatesIn]
    cases context with
    | value typed => exact if_neg himports
    | qualified qualifier word => exact if_neg himports
    | importing typed => rfl

/-- A completion that does not need the projects leaves them as they are. -/
theorem resolver_complete {s : WorkspaceRun} {text : String} {pos : Position}
    (h : ¬ Needs parse (.complete text file pos)) :
    (s.step parse (.complete text file pos)).workspace.resolver = s.workspace.resolver := by
  show (complete _ _ _ _ _ _).2.resolver = _
  cases hcontext : contextAt text pos with
  | none => rw [complete_of_no_context hcontext]
  | some context =>
    cases hparse : parse text with
    | error err => rw [complete_of_error hparse hcontext]
    | ok current =>
      rw [complete_of_context hparse hcontext, resolver_candidatesIn]
      have himports : requestedImports current context = [] :=
        Classical.byContradiction fun himports => h (.withImports file hparse hcontext himports)
      cases context with
      | value typed => exact if_pos himports
      | qualified qualifier word => exact if_pos himports
      | importing typed => exact (h (.onImportLine file hparse hcontext)).elim

/-- All other events leave the projects as they are. -/
theorem projects_of_not_uses {s : WorkspaceRun} {e : WorkspaceEvent} (h : ¬ Uses parse e) :
    (s.step parse e).workspace.resolver.projects = s.workspace.resolver.projects := by
  cases e with
  | setRoots roots => rfl
  | diskChange disk => rfl
  | complete text file pos =>
    exact congrArg (·.projects) (resolver_complete fun hneeds => h (.inr hneeds))
  | refresh => exact (h (.inl rfl)).elim
  | projects => exact (h (.inr .projects)).elim
  | projectFor file => exact (h (.inr (.projectFor file))).elim
  | moduleByName file moduleName => exact (h (.inr (.moduleByName file moduleName))).elim
  | describe file moduleName item => exact (h (.inr (.describe file moduleName item))).elim

/-- No event changes where packages are installed. -/
theorem packages_step (s : WorkspaceRun) (e : WorkspaceEvent) :
    (s.step parse e).workspace.resolver.packages = s.workspace.resolver.packages := by
  have hloaded : (s.workspace.resolver.loaded s.disk).packages = s.workspace.resolver.packages := by
    unfold Resolver.loaded
    split <;> rfl
  by_cases hneeds : Needs parse e
  · rw [resolver_of_needs hneeds, hloaded]
  · cases e with
    | complete text file pos => rw [resolver_complete hneeds]
    | setRoots roots => rfl
    | diskChange disk => rfl
    | refresh => rfl
    | projects => exact (hneeds .projects).elim
    | projectFor file => exact (hneeds (.projectFor file)).elim
    | moduleByName file moduleName => exact (hneeds (.moduleByName file moduleName)).elim
    | describe file moduleName item => exact (hneeds (.describe file moduleName item)).elim

theorem packages_run (s : WorkspaceRun) (events : List WorkspaceEvent) :
    (s.run parse events).workspace.resolver.packages = s.workspace.resolver.packages := by
  induction events using List.reverseRecOn with
  | nil => rfl
  | append_singleton events e ih => rw [run_snoc, packages_step, ih]

/-! ## Positions -/

theorem LoadAt.lt_length {events : List WorkspaceEvent} {n : Nat} (h : LoadAt parse events n) :
    n < events.length := by
  obtain ⟨e, he, -⟩ := h
  exact (List.getElem?_eq_some_iff.1 he).1

/-- An event at which the projects are loaded. -/
theorem LoadAt.exists_uses {events : List WorkspaceEvent} {n : Nat} (h : LoadAt parse events n) :
    ∃ e ∈ events, Uses parse e := by
  obtain ⟨e, he, hload⟩ := h
  exact ⟨e, List.mem_of_getElem? he, hload.imp_right And.left⟩

/-- Appending an event adds the last position. -/
theorem loadAt_snoc {events : List WorkspaceEvent} {e : WorkspaceEvent} {n : Nat} :
    LoadAt parse (events ++ [e]) n ↔ LoadAt parse events n ∨
      n = events.length ∧ (e = .refresh ∨ Needs parse e ∧ ∀ e' ∈ events, ¬ Uses parse e') := by
  unfold LoadAt
  rcases Nat.lt_trichotomy n events.length with h | h | h
  · rw [List.getElem?_append_left h, List.take_append_of_le_length (Nat.le_of_lt h)]
    simp [Nat.ne_of_lt h]
  · subst h
    simp
  · rw [List.getElem?_eq_none (by simp; omega), List.getElem?_eq_none (by omega)]
    simp [Nat.ne_of_gt h]

/-- The last event loads the projects. -/
theorem lastLoad_of_last {events : List WorkspaceEvent} {e : WorkspaceEvent}
    (h : e = .refresh ∨ Needs parse e ∧ ∀ e' ∈ events, ¬ Uses parse e') :
    LastLoad parse (events ++ [e]) events.length := by
  refine ⟨loadAt_snoc.2 (.inr ⟨rfl, h⟩), fun k hk hload => ?_⟩
  have hlt := hload.lt_length
  rw [List.length_append, List.length_singleton] at hlt
  omega

/-- An event that does not load the projects. -/
theorem LastLoad.snoc {events : List WorkspaceEvent} {e : WorkspaceEvent} {n : Nat}
    (h : LastLoad parse events n) (he : e ≠ .refresh) : LastLoad parse (events ++ [e]) n := by
  refine ⟨loadAt_snoc.2 (.inl h.1), fun k hk hload => ?_⟩
  rcases loadAt_snoc.1 hload with hload | ⟨-, hlast | ⟨-, hnone⟩⟩
  · exact h.2 k hk hload
  · exact he hlast
  · obtain ⟨e', he', huses⟩ := h.1.exists_uses
    exact hnone e' he' huses

/-! ## The projects of a run -/

/-- Once the projects are loaded, only a refresh changes them. -/
theorem projects_step {s : WorkspaceRun} {e : WorkspaceEvent} {projects : List Project}
    (h : s.workspace.resolver.projects = some projects) (he : e ≠ .refresh) :
    (s.step parse e).workspace.resolver.projects = some projects := by
  by_cases hneeds : Needs parse e
  · have hloaded : s.workspace.resolver.loaded s.disk = s.workspace.resolver := by
      rw [Resolver.loaded, h]; rfl
    rw [resolver_of_needs hneeds, hloaded, h]
  · rw [projects_of_not_uses (not_or.2 ⟨he, hneeds⟩), h]

theorem projects_run_of_some {s : WorkspaceRun} {events : List WorkspaceEvent}
    {projects : List Project} (h : s.workspace.resolver.projects = some projects)
    (he : .refresh ∉ events) :
    (s.run parse events).workspace.resolver.projects = some projects := by
  induction events using List.reverseRecOn with
  | nil => exact h
  | append_singleton events e ih =>
    rw [List.mem_append, List.mem_singleton, not_or] at he
    rw [run_snoc]
    exact projects_step (ih he.1) (Ne.symm he.2)

/-- The projects that an event in a state loads. -/
def onDisk (s : WorkspaceRun) : List Project :=
  Project.loadAll s.workspace.resolver.packages s.disk s.workspace.resolver.roots

variable (parse) in
/-- **The projects are those of the last load.**  Before it there are none. -/
theorem projects_run {s : WorkspaceRun} (hs : s.workspace.resolver.projects = none)
    (events : List WorkspaceEvent) :
    (s.run parse events).workspace.resolver.projects = none ∧ (∀ e ∈ events, ¬ Uses parse e) ∨
    ∃ n, LastLoad parse events n ∧
      (s.run parse events).workspace.resolver.projects =
        some (s.run parse (events.take n)).onDisk := by
  induction events using List.reverseRecOn with
  | nil => exact .inl ⟨hs, fun e he => absurd he List.not_mem_nil⟩
  | append_singleton events e ih =>
    rw [run_snoc]
    by_cases hrefresh : e = .refresh
    · refine .inr ⟨events.length, lastLoad_of_last (.inl hrefresh), ?_⟩
      rw [hrefresh, List.take_left]
      rfl
    rcases ih with ⟨hnone, hunused⟩ | ⟨n, hlast, hprojects⟩
    · by_cases hneeds : Needs parse e
      · refine .inr ⟨events.length, lastLoad_of_last (.inr ⟨hneeds, hunused⟩), ?_⟩
        rw [resolver_of_needs hneeds, Resolver.loaded, hnone, List.take_left]
        rfl
      · have huses : ¬ Uses parse e := not_or.2 ⟨hrefresh, hneeds⟩
        refine .inl ⟨(projects_of_not_uses huses).trans hnone, fun e' he' => ?_⟩
        rcases List.mem_append.1 he' with he' | he'
        · exact hunused e' he'
        · rwa [List.mem_singleton.1 he']
    · refine .inr ⟨n, hlast.snoc hrefresh, ?_⟩
      have hbefore : (events ++ [e]).take n = events.take n :=
        List.take_append_of_le_length (Nat.le_of_lt hlast.1.lt_length)
      rw [hbefore]
      exact projects_step hprojects hrefresh

end WorkspaceRun

/-! ## Owners -/

/-- A project owns the files below its source directories. -/
theorem Project.owns_iff {project : Project} {file : Path} :
    project.owns file = true ↔
      ∃ dir ∈ project.sourceDirectories, dir.components <+: file.components := by
  simp [owns, Path.startsWith_iff]

/-- The first project that owns a file. -/
theorem Project.find?_owns_eq_some_iff {projects : List Project} {project : Project}
    {file : Path} :
    projects.find? (·.owns file) = some project ↔
      ∃ front back, projects = front ++ project :: back ∧
        (∃ dir ∈ project.sourceDirectories, dir.components <+: file.components) ∧
        ∀ q ∈ front, ∀ dir ∈ q.sourceDirectories, ¬ dir.components <+: file.components := by
  rw [List.find?_eq_some_iff_append]
  constructor
  · rintro ⟨howns, front, back, rfl, hfront⟩
    refine ⟨front, back, rfl, owns_iff.1 howns, fun q hq dir hdir hprefix => ?_⟩
    have hnot := hfront q hq
    rw [owns_iff.2 ⟨dir, hdir, hprefix⟩] at hnot
    cases hnot
  · rintro ⟨front, back, rfl, howns, hfront⟩
    refine ⟨owns_iff.2 howns, front, back, rfl, fun q hq => ?_⟩
    rw [Bool.not_eq_true', ← Bool.not_eq_true, owns_iff]
    rintro ⟨dir, hdir, hprefix⟩
    exact hfront q hq dir hdir hprefix

theorem Project.find?_owns_eq_none_iff {projects : List Project} {file : Path} :
    projects.find? (·.owns file) = none ↔
      ∀ q ∈ projects, ∀ dir ∈ q.sourceDirectories, ¬ dir.components <+: file.components := by
  simp only [List.find?_eq_none, owns_iff, not_exists, not_and]

/-- A file below the sibling of a directory is not below the directory. -/
theorem Path.not_startsWith_sibling {dir file : Path} {parents below : List Path.Component}
    {name sibling : String} (hdir : dir.components = parents ++ [.name name])
    (hfile : file.components = parents ++ .name sibling :: below) (hne : name ≠ sibling) :
    ¬ dir.components <+: file.components := by
  rw [hdir, hfile, List.prefix_append_right_inj, List.cons_prefix_cons]
  rintro ⟨hname, -⟩
  exact hne (Component.name.inj hname)

example : (⟨"/w/src-extra/A.elm"⟩ : Path).startsWith ⟨"/w/src"⟩ = false := by decide

/-! ## Answers -/

namespace WorkspaceRun

variable {parse : Elm.SourceParser}

/-- The answer to a question for the project of a file. -/
def owner? (s : WorkspaceRun) (file : Path) : Option Project :=
  (s.workspace.resolver.projectFor s.disk file).1

variable (parse) in
/-- An answer comes from the projects that the question leaves. -/
theorem owner?_of_projects {s : WorkspaceRun} {file : Path} {projects : List Project}
    (h : (s.step parse (.projectFor file)).workspace.resolver.projects = some projects) :
    s.owner? file = projects.find? (·.owns file) := by
  show ((s.step parse (.projectFor file)).workspace.resolver.projects.getD []).find? _ = _
  rw [h]
  rfl

variable (parse) in
/-- A question needs the projects, so that they have been loaded when it is answered. -/
theorem owner?_run {s : WorkspaceRun} (hs : s.workspace.resolver.projects = none)
    (events : List WorkspaceEvent) (file : Path) :
    ∃ n, LastLoad parse (events ++ [.projectFor file]) n ∧
      (s.run parse events).owner? file =
        (s.run parse (events.take n)).onDisk.find? (·.owns file) := by
  rcases projects_run parse hs (events ++ [.projectFor file]) with
    ⟨-, hunused⟩ | ⟨n, hlast, hprojects⟩
  · exact (hunused _ (by simp) (.inr (.projectFor file))).elim
  · have hn : n ≤ events.length := by
      have hlt := hlast.1.lt_length
      rw [List.length_append, List.length_singleton] at hlt
      omega
    rw [List.take_append_of_le_length hn, run_snoc] at hprojects
    exact ⟨n, hlast, owner?_of_projects parse hprojects⟩

/-- Once the projects are loaded, only a refresh changes the answers. -/
theorem owner?_run_append {s : WorkspaceRun} {events more : List WorkspaceEvent}
    (hs : s.workspace.resolver.projects = none) (hloaded : ∃ e ∈ events, Uses parse e)
    (hmore : .refresh ∉ more) (file : Path) :
    (s.run parse (events ++ more)).owner? file = (s.run parse events).owner? file := by
  rcases projects_run parse hs events with ⟨-, hunused⟩ | ⟨n, -, hprojects⟩
  · obtain ⟨e, he, huses⟩ := hloaded
    exact (hunused e he huses).elim
  · rw [run_append, owner?_of_projects parse (projects_step hprojects nofun),
      owner?_of_projects parse (projects_step (projects_run_of_some hprojects hmore) nofun)]

/-- **Files belong to projects as they were when these were last loaded.**  At any time, a
    file belongs to the first of the projects that the roots and the disk had at the last
    load which has a source directory whose components are the first ones of its path, and
    to none iff there is no such project.  Once the projects are loaded, nothing but a
    refresh changes the answer; and a source directory never owns what is below its sibling. -/
theorem owner_from_last_load (parse : Elm.SourceParser) (packages : PackageCache)
    (roots : List Path) (cache : ModuleCache) (disk : Disk) (events : List WorkspaceEvent)
    (file : Path) :
    let start : WorkspaceRun := ⟨{ resolver := { packages, roots }, cache }, disk⟩
    let answer := (start.run parse events).owner? file
    (∃ n, LastLoad parse (events ++ [.projectFor file]) n ∧
      let loaded := start.run parse (events.take n)
      let projects := Project.loadAll packages loaded.disk loaded.workspace.resolver.roots
      (∀ project, answer = some project ↔ ∃ front back, projects = front ++ project :: back ∧
        (∃ dir ∈ project.sourceDirectories, dir.components <+: file.components) ∧
        ∀ q ∈ front, ∀ dir ∈ q.sourceDirectories, ¬ dir.components <+: file.components) ∧
      (answer = none ↔ ∀ q ∈ projects, ∀ dir ∈ q.sourceDirectories,
        ¬ dir.components <+: file.components)) ∧
    (∀ more, (∃ e ∈ events, Uses parse e) → .refresh ∉ more →
      (start.run parse (events ++ more)).owner? file = answer) ∧
    ∀ dir : Path, ∀ parents below name sibling, name ≠ sibling →
      dir.components = parents ++ [.name name] →
      file.components = parents ++ .name sibling :: below →
      ¬ dir.components <+: file.components := by
  intro start answer
  obtain ⟨n, hlast, howner⟩ := owner?_run parse (s := start) rfl events file
  have hprojects : (start.run parse (events.take n)).onDisk = Project.loadAll packages
      (start.run parse (events.take n)).disk
      (start.run parse (events.take n)).workspace.resolver.roots := by
    rw [onDisk, packages_run]
  rw [hprojects] at howner
  refine ⟨⟨n, hlast, fun project => ?_, ?_⟩, fun more hloaded hmore =>
    owner?_run_append rfl hloaded hmore file, fun dir parents below name sibling hne hdir hfile =>
    Path.not_startsWith_sibling hdir hfile hne⟩
  · rw [← Project.find?_owns_eq_some_iff, ← howner]
  · rw [← Project.find?_owns_eq_none_iff, ← howner]

end WorkspaceRun

end ElmAssist
