/-
  Batches of changed files.

  The editor announces changes of files in batches.  The cached modules of all changed files
  are dropped; if one of the files is a manifest, all projects are loaded again, once for the
  whole batch, and the cache is emptied.

  * `foldl_invalidate`: what dropping several files does to the server.
  * `watchedFilesChanged_perm`: the order of the changes does not count.
  * `watchedFilesChanged_batch`: what a batch does.
-/
import ElmAssist.Proofs.Cache.Basic
import ElmAssist.Server.Backend

namespace ElmAssist

/-- A path with the name of a manifest. -/
def Path.NamesManifest (p : Path) : Prop :=
  p.fileName = some "elm.json" ∨ p.fileName = some "elm-package.json"

instance (p : Path) : Decidable p.NamesManifest :=
  inferInstanceAs (Decidable (_ ∨ _))

theorem isManifest_iff {p : Path} : isManifest p = true ↔ p.NamesManifest := by
  rw [isManifest, Bool.or_eq_true, beq_iff_eq, beq_iff_eq]
  rfl

namespace ModuleCache

/-- The cache from which several files have been dropped, one after the other. -/
def without (c : ModuleCache) (files : List Path) : ModuleCache :=
  { entries := c.entries.filter fun e => !files.any (·.same e.filePath)
    stats := { c.stats with invalidations := c.stats.invalidations + files.length } }

variable {c : ModuleCache} {files files' : List Path}

theorem without_nil (c : ModuleCache) : c.without [] = c := by
  have hall : (c.entries.filter fun e => !([] : List Path).any (·.same e.filePath)) = c.entries :=
    List.filter_eq_self.2 fun _ _ => rfl
  rw [without, hall]
  rfl

theorem without_cons (c : ModuleCache) (file : Path) (files : List Path) :
    c.without (file :: files) = (c.invalidate file).without files := by
  have hentries : (c.without (file :: files)).entries =
      ((c.invalidate file).without files).entries := by
    simp only [without, invalidate, others, List.filter_filter, List.any_cons, Bool.not_or,
      Path.same_comm file, Bool.and_comm]
  have hstats : (c.without (file :: files)).stats =
      ((c.invalidate file).without files).stats := by
    simp only [without, invalidate, List.length_cons, Nat.add_assoc, Nat.add_comm 1]
  show (⟨(c.without (file :: files)).entries, (c.without (file :: files)).stats⟩ : ModuleCache) = _
  rw [hentries, hstats]

theorem mem_without {e : CacheEntry} :
    e ∈ (c.without files).entries ↔
      e ∈ c.entries ∧ ∀ file ∈ files, file.same e.filePath = false := by
  simp [without]

/-- Files that have been dropped are not found any more. -/
theorem find?_without {file : Path} (h : file ∈ files) : (c.without files).find? file = none := by
  rw [find?, List.find?_eq_none]
  intro e he hsame
  rw [Path.same_comm, (mem_without.1 he).2 file h] at hsame
  cases hsame

theorem without_perm (h : files.Perm files') (c : ModuleCache) :
    c.without files = c.without files' := by
  have hany : ∀ e : CacheEntry, files.any (·.same e.filePath) = files'.any (·.same e.filePath) :=
    fun e => h.any_eq
  rw [without, without, h.length_eq]
  simp only [hany]

end ModuleCache

namespace Server.Backend

variable {disk : Disk} {b : Backend} {uris uris' : List Uri}

/-- **Dropping several files** changes the cache alone. -/
theorem foldl_invalidate (files : List Path) (b : Backend) :
    files.foldl invalidate b =
      { b with workspace := { b.workspace with cache := b.workspace.cache.without files } } := by
  induction files generalizing b with
  | nil => rw [ModuleCache.without_nil]; rfl
  | cons file files ih => rw [List.foldl_cons, ih, ModuleCache.without_cons]; rfl

/-- **The order of the changes** in a batch does not count. -/
theorem watchedFilesChanged_perm (h : uris.Perm uris') (disk : Disk) (b : Backend) :
    b.watchedFilesChanged disk uris = b.watchedFilesChanged disk uris' := by
  have hfiles : (uris.filterMap (·.filePath?)).Perm (uris'.filterMap (·.filePath?)) := h.filterMap _
  have hcache := ModuleCache.without_perm (hfiles.filter (!isManifest ·)) b.workspace.cache
  unfold watchedFilesChanged
  dsimp only
  rw [foldl_invalidate, foldl_invalidate, hcache, hfiles.any_eq]

/-- The files of a batch that are no manifests. -/
def sources (uris : List Uri) : List Path :=
  (uris.filterMap (·.filePath?)).filter (!isManifest ·)

theorem watchedFilesChanged_of_manifest
    (h : ∃ file ∈ uris.filterMap (·.filePath?), file.NamesManifest) :
    b.watchedFilesChanged disk uris =
      ({ b with workspace :=
          { resolver := b.workspace.resolver.refresh disk
            cache := (b.workspace.cache.without (sources uris)).clear } },
        [reloadNotice (b.workspace.resolver.load disk)]) := by
  have hany : (uris.filterMap (·.filePath?)).any isManifest = true := by
    rw [List.any_eq_true]
    simpa only [isManifest_iff] using h
  unfold watchedFilesChanged
  dsimp only
  rw [foldl_invalidate, hany, if_pos rfl]
  rfl

theorem watchedFilesChanged_of_no_manifest
    (h : ¬ ∃ file ∈ uris.filterMap (·.filePath?), file.NamesManifest) :
    b.watchedFilesChanged disk uris =
      ({ b with workspace := { b.workspace with
          cache := b.workspace.cache.without (uris.filterMap (·.filePath?)) } }, []) := by
  have hnone : ∀ file ∈ uris.filterMap (·.filePath?), isManifest file = false := by
    intro file hfile
    rw [← Bool.not_eq_true, isManifest_iff]
    exact fun hnames => h ⟨file, hfile, hnames⟩
  have hany : (uris.filterMap (·.filePath?)).any isManifest = false := by
    rw [List.any_eq_false]
    exact fun file hfile => by rw [hnone file hfile]; exact Bool.false_ne_true
  have hall : (uris.filterMap (·.filePath?)).filter (!isManifest ·) =
      uris.filterMap (·.filePath?) := by
    rw [List.filter_eq_self]
    exact fun file hfile => by rw [hnone file hfile]; rfl
  unfold watchedFilesChanged
  dsimp only
  rw [foldl_invalidate, hany, hall, if_neg Bool.false_ne_true]

/-- Each file that is no manifest counts as dropped, as often as it is named. -/
theorem length_sources (uris : List Uri) : (sources uris).length =
    (uris.filterMap (·.filePath?)).countP fun file => ¬ file.NamesManifest := by
  rw [sources, ← List.countP_eq_length_filter]
  refine List.countP_congr fun file _ => ?_
  rw [decide_eq_true_eq, ← isManifest_iff, Bool.not_eq_true']
  exact Bool.not_eq_true _ |>.symm.to_iff

/-- **What a batch of changes does**, whatever their order.  If no manifest is among the files
    that are named, the entries for these files are dropped, and the projects stay as they are.
    Otherwise all projects are loaded from the disk and the roots as they are now, the cache is
    emptied, and there is one notice.  In either case no entry is left for any of the files, and
    one call to drop an entry is counted for each file that is no manifest. -/
theorem watchedFilesChanged_batch (disk : Disk) (b : Backend) (uris : List Uri) :
    let files := uris.filterMap (·.filePath?)
    let cache := b.workspace.cache
    let resolver := b.workspace.resolver
    let projects := Project.loadAll resolver.packages disk resolver.roots
    let after := (b.watchedFilesChanged disk uris).1
    let notices := (b.watchedFilesChanged disk uris).2
    (∀ uris', uris.Perm uris' →
      b.watchedFilesChanged disk uris' = b.watchedFilesChanged disk uris) ∧
    ((¬ ∃ file ∈ files, file.NamesManifest) →
      after.workspace.cache.entries = cache.entries.filter (fun e => !files.any (·.same e.filePath)) ∧
        after.workspace.resolver = resolver ∧ notices = []) ∧
    ((∃ file ∈ files, file.NamesManifest) →
      after.workspace.cache.entries = [] ∧
        after.workspace.resolver = { resolver with projects := some projects } ∧
        notices = [reloadNotice projects]) ∧
    (∀ file ∈ files, after.workspace.cache.find? file = none) ∧
    after.workspace.cache.stats = { cache.stats with
      invalidations := cache.stats.invalidations +
        files.countP fun file => ¬ file.NamesManifest } ∧
    after.documents = b.documents := by
  intro files cache resolver projects after notices
  refine ⟨fun uris' h => (watchedFilesChanged_perm h disk b).symm, ?_⟩
  by_cases hnamed : ∃ file ∈ files, file.NamesManifest
  · have hbatch : b.watchedFilesChanged disk uris = _ := watchedFilesChanged_of_manifest hnamed
    have hafter : after = _ := congrArg Prod.fst hbatch
    have hnotices : notices = _ := congrArg Prod.snd hbatch
    rw [hafter, hnotices]
    refine ⟨fun hnone => absurd hnamed hnone, fun _ => ⟨rfl, rfl, rfl⟩, fun file _ => rfl, ?_, rfl⟩
    show { cache.stats with invalidations := cache.stats.invalidations + (sources uris).length } = _
    rw [length_sources]
  · have hbatch : b.watchedFilesChanged disk uris = _ := watchedFilesChanged_of_no_manifest hnamed
    have hafter : after = _ := congrArg Prod.fst hbatch
    have hnotices : notices = _ := congrArg Prod.snd hbatch
    have hcount : (files.countP fun file => ¬ file.NamesManifest) = files.length :=
      List.countP_eq_length.2 fun file hfile => decide_eq_true fun hnames => hnamed ⟨file, hfile, hnames⟩
    rw [hafter, hnotices, hcount]
    exact ⟨fun _ => ⟨rfl, rfl, rfl⟩, fun hsome => absurd hsome hnamed,
      fun file hfile => ModuleCache.find?_without hfile, rfl, rfl⟩

end Server.Backend

end ElmAssist
