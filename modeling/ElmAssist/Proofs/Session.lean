/-
  Modules of documents that are not open.

  A completion puts the unsaved text of a document into the cache that other files read.
  An entry is current if its file is an open document, or else if it holds what the file
  holds on disk.  All that the server does keeps the entries current, as long as the editor
  announces changes of files, except that a document can be closed while its unsaved text is
  still cached.

  * `forall_complete`: what a completion adds to the cache is the text of its document and
    what files hold on disk.
  * `coherent_step`, `coherent_closed_iff`: what each message does to the entries.
  * `coherent_run_iff`: all entries are current along a run iff no document is closed whose
    entry is not.
-/
import ElmAssist.Proofs.ChangedFiles
import ElmAssist.Proofs.Completion.Documentation
import ElmAssist.Server.Dispatch

namespace ElmAssist

variable {parse : Elm.SourceParser} {disk : Disk} {P : CacheEntry → Prop}

/-! ## Conditions on entries -/

namespace ModuleCache

variable {c : ModuleCache}

theorem forall_store {p : Path} {m : Elm.Module} (h : ∀ e ∈ c.entries, P e) (hp : P ⟨p, m⟩) :
    ∀ e ∈ (c.store p m).entries, P e := by
  rintro e he
  rcases List.mem_cons.1 he with rfl | he
  · exact hp
  · exact h e (List.mem_filter.1 he).1

theorem forall_invalidate (p : Path) (h : ∀ e ∈ c.entries, P e) :
    ∀ e ∈ (c.invalidate p).entries, P e :=
  fun e he => h e (List.mem_filter.1 he).1

variable (hdisk : ∀ p m, disk.load? parse p = some m → P ⟨p, m⟩)
include hdisk

/-- A look-up adds what a file holds on disk. -/
theorem forall_get (p : Path) (h : ∀ e ∈ c.entries, P e) :
    ∀ e ∈ (c.get parse disk p).2.entries, P e := by
  obtain ⟨m, -, hg⟩ | ⟨m, -, hl, hg⟩ | ⟨-, -, -, hg⟩ | ⟨-, -, -, hg⟩ := get_cases parse disk c p
  · rw [hg]; exact h
  · rw [hg]; exact forall_store h (hdisk p m hl)
  · rw [hg]; exact h
  · rw [hg]; exact h

theorem forall_firstLoadable (ps : List Path) (h : ∀ e ∈ c.entries, P e) :
    ∀ e ∈ (c.firstLoadable parse disk ps).2.entries, P e := by
  induction ps generalizing c with
  | nil => exact h
  | cons p ps ih =>
    have hget := forall_get hdisk p h
    unfold firstLoadable
    cases hc : c.get parse disk p with
    | mk found c' =>
      rw [hc] at hget
      cases found with
      | some m => exact hget
      | none => exact ih hget

end ModuleCache

namespace Completion

variable {w : Workspace}
variable (hdisk : ∀ p m, disk.load? parse p = some m → P ⟨p, m⟩)
include hdisk

theorem forall_moduleByName (file : Path) (moduleName : String)
    (h : ∀ e ∈ w.cache.entries, P e) :
    ∀ e ∈ (w.moduleByName parse disk file moduleName).2.cache.entries, P e := by
  rw [Workspace.moduleByName_eq]
  exact ModuleCache.forall_firstLoadable hdisk _ h

theorem forall_resolveImports (file : Path) (imports : List Elm.Import)
    (h : ∀ e ∈ w.cache.entries, P e) :
    ∀ e ∈ (resolveImports parse disk file w imports).2.cache.entries, P e := by
  induction imports generalizing w with
  | nil => exact h
  | cons i rest ih =>
    rw [snd_resolveImports_cons]
    exact ih (forall_moduleByName hdisk file i.moduleName h)

theorem forall_candidatesIn (file : Path) (current : Elm.Module) (context : Context)
    (h : ∀ e ∈ w.cache.entries, P e) :
    ∀ e ∈ (candidatesIn parse disk w file current context).2.cache.entries, P e := by
  cases context with
  | value typed => exact forall_resolveImports hdisk file _ h
  | qualified qualifier word => exact forall_resolveImports hdisk file _ h
  | importing typed =>
    rw [candidatesIn_importing]
    exact h

/-- **What a completion adds to the cache** is the text that is edited and what files hold
    on disk. -/
theorem forall_complete {file : Path} (hfile : ∀ m, P ⟨file, m⟩) (text : String) (pos : Position)
    (h : ∀ e ∈ w.cache.entries, P e) :
    ∀ e ∈ (complete parse disk w text file pos).2.cache.entries, P e := by
  have hdropped := ModuleCache.forall_invalidate file h
  cases hcontext : contextAt text pos with
  | none => rw [complete_of_no_context hcontext]; exact h
  | some context =>
    cases hparse : parse text with
    | error err =>
      rw [complete_of_error hparse hcontext]
      exact hdropped
    | ok current =>
      rw [complete_of_context hparse hcontext]
      exact forall_candidatesIn hdisk file current context
        (ModuleCache.forall_store hdropped (hfile current))

end Completion

/-- What a file holds depends on its contents. -/
theorem Disk.load?_of_contents_eq {disk disk' : Disk} {p : Path}
    (h : disk.contents p = disk'.contents p) : disk.load? parse p = disk'.load? parse p := by
  rw [load?, load?, h]

namespace Server

/-! ## Documents -/

namespace Backend

/-- A file is open if a document names it. -/
def Opened (documents : List (Uri × String)) (p : Path) : Prop :=
  ∃ doc ∈ documents, ∃ file, doc.1.filePath? = some file ∧ file.same p = true

variable {b : Backend} {uri : Uri} {text : String} {p : Path}

theorem Opened.mono {documents documents' : List (Uri × String)}
    (h : ∀ doc ∈ documents, ∃ doc' ∈ documents', doc'.1 = doc.1) (hp : Opened documents p) :
    Opened documents' p := by
  obtain ⟨doc, hdoc, file, hfile, hs⟩ := hp
  obtain ⟨doc', hdoc', he⟩ := h doc hdoc
  exact ⟨doc', hdoc', file, by rw [he, hfile], hs⟩

/-- A text that is set opens its file and closes none. -/
theorem opened_setText (uri : Uri) (text : String) (hp : Opened b.documents p) :
    Opened (b.setText uri text).documents p := by
  refine hp.mono fun doc hdoc => ?_
  by_cases hu : doc.1 = uri
  · exact ⟨(uri, text), List.mem_cons_self, hu.symm⟩
  · exact ⟨doc, List.mem_cons_of_mem _ (List.mem_filter.2 ⟨hdoc, bne_iff_ne.2 hu⟩), rfl⟩

theorem opened_didChange (uri : Uri) (changes : List String) (hp : Opened b.documents p) :
    Opened (b.didChange uri changes).documents p := by
  unfold didChange
  split
  · exact opened_setText uri _ hp
  · exact hp

/-- A document with a text names its file. -/
theorem opened_of_text? {file : Path} (htext : b.text? uri = some text)
    (hfile : uri.filePath? = some file) (hs : file.same p = true) : Opened b.documents p := by
  obtain ⟨doc, hdoc, -⟩ := Option.map_eq_some_iff.1 htext
  have huri := List.find?_some hdoc
  rw [beq_iff_eq] at huri
  exact ⟨doc, List.mem_of_find?_eq_some hdoc, file, by rw [huri, hfile], hs⟩

/-! ## Entries -/

/-- The entries of the cache. -/
def entries (b : Backend) : List CacheEntry :=
  b.workspace.cache.entries

/-- What is left when some files have been dropped. -/
theorem mem_foldl_invalidate {files : List Path} {e : CacheEntry} :
    e ∈ (files.foldl invalidate b).entries ↔
      e ∈ b.entries ∧ ∀ file ∈ files, file.same e.filePath = false := by
  rw [foldl_invalidate]
  exact ModuleCache.mem_without

/-- When files have changed, what is left are entries for other files. -/
theorem mem_watchedFilesChanged {disk : Disk} {uris : List Uri} {e : CacheEntry}
    (he : e ∈ (b.watchedFilesChanged disk uris).1.entries) :
    e ∈ b.entries ∧ ∀ file ∈ uris.filterMap (·.filePath?), file.same e.filePath = false := by
  by_cases hnamed : ∃ file ∈ uris.filterMap (·.filePath?), file.NamesManifest
  · rw [watchedFilesChanged_of_manifest hnamed] at he
    exact absurd he List.not_mem_nil
  · rw [watchedFilesChanged_of_no_manifest hnamed] at he
    exact ModuleCache.mem_without.1 he

/-- When files have changed, no document is closed. -/
theorem opened_watchedFilesChanged (disk : Disk) (uris : List Uri) (hp : Opened b.documents p) :
    Opened (b.watchedFilesChanged disk uris).1.documents p := by
  by_cases hnamed : ∃ file ∈ uris.filterMap (·.filePath?), file.NamesManifest
  · rw [watchedFilesChanged_of_manifest hnamed]
    exact hp
  · rw [watchedFilesChanged_of_no_manifest hnamed]
    exact hp

theorem mem_didSave {e : CacheEntry} (he : e ∈ (b.didSave uri).entries) :
    e ∈ b.entries ∧ ∀ file ∈ uri.filePath?.toList, file.same e.filePath = false := by
  unfold didSave at he
  cases hfile : uri.filePath? with
  | none => rw [hfile] at he; exact ⟨he, fun file h => absurd h List.not_mem_nil⟩
  | some file =>
    rw [hfile] at he
    have hdropped : e ∈ ([file].foldl invalidate b).entries := he
    exact mem_foldl_invalidate.1 hdropped

theorem opened_didSave (uri : Uri) (hp : Opened b.documents p) :
    Opened (b.didSave uri).documents p := by
  unfold didSave
  split
  · exact hp
  · exact hp

/-- A completion leaves entries for its own document and entries with what files hold. -/
theorem forall_completion (pos : Completion.Position) {P : CacheEntry → Prop}
    (hdisk : ∀ p m, disk.load? Elm.parse p = some m → P ⟨p, m⟩)
    (hopen : ∀ p m, Opened b.documents p → P ⟨p, m⟩) (h : ∀ e ∈ b.entries, P e) :
    ∀ e ∈ (b.completion disk uri pos).2.entries, P e := by
  unfold completion
  cases hfile : uri.filePath? with
  | none => exact h
  | some file =>
    cases htext : b.text? uri with
    | none => exact h
    | some text =>
      have hself : file.same file = true := (Path.same_iff file file).2 rfl
      exact Completion.forall_complete hdisk
        (fun m => hopen file m (opened_of_text? htext hfile hself)) text pos h

theorem documents_completion (pos : Completion.Position) :
    (b.completion disk uri pos).2.documents = b.documents := by
  unfold completion
  split <;> rfl

theorem forall_resolve (item : Item) {P : CacheEntry → Prop}
    (hdisk : ∀ p m, disk.load? Elm.parse p = some m → P ⟨p, m⟩) (h : ∀ e ∈ b.entries, P e) :
    ∀ e ∈ (b.resolve disk item).2.entries, P e := by
  unfold resolve
  cases item.origin? with
  | none => exact h
  | some origin => exact Completion.forall_moduleByName hdisk origin.path origin.moduleName h

theorem documents_resolve (item : Item) :
    (b.resolve disk item).2.documents = b.documents := by
  unfold resolve
  split <;> rfl

end Backend

/-! ## Sessions -/

/-- A server and the disk that it reads. -/
structure Session where
  backend : Backend
  disk : Disk

/-- What happens in a session. -/
inductive SessionEvent where
  /-- A notice arrives, directly behind a change of the disk if there is one. -/
  | notice (disk : Disk) (n : Notification)
  /-- A request is answered. -/
  | request (r : Request)
  /-- The server has seen that a manifest has changed on disk. -/
  | manifestChanged (disk : Disk)

/-- The files of which a notice says that they may have changed on disk. -/
def Notification.files : Notification → List Path
  | saved uri => uri.filePath?.toList
  | filesChanged uris => uris.filterMap (·.filePath?)
  | opened _ _ | changed _ _ | closed _ => []

namespace Session

/-- Performs one event. -/
def step (s : Session) : SessionEvent → Session
  | .notice disk n => ⟨(n.apply disk s.backend).1, disk⟩
  | .request r => ⟨(r.answer s.disk s.backend).2, s.disk⟩
  | .manifestChanged disk => ⟨(s.backend.reload disk).1, disk⟩

/-- Performs events one after the other. -/
def run (s : Session) (events : List SessionEvent) : Session :=
  events.foldl step s

/-- A notice names all cached files that have changed since the message before it. -/
def Announced (s : Session) : SessionEvent → Prop
  | .notice disk n => ∀ e ∈ s.backend.entries,
      disk.contents e.filePath ≠ s.disk.contents e.filePath →
        ∃ file ∈ n.files, file.same e.filePath = true
  | .request _ | .manifestChanged _ => True

/-- An entry holds what its file holds on disk. -/
def Fresh (s : Session) (e : CacheEntry) : Prop :=
  s.disk.load? Elm.parse e.filePath = some e.parsed

/-- Every entry is for an open document, or holds what its file holds on disk. -/
def Coherent (s : Session) : Prop :=
  ∀ e ∈ s.backend.entries, Backend.Opened s.backend.documents e.filePath ∨ s.Fresh e

/-- A document can be closed without leaving its unsaved text in the cache: an entry for
    its file holds what the file holds on disk, or is also for another open document. -/
def Clean (s : Session) (uri : Uri) : Prop :=
  ∀ e ∈ s.backend.entries, (∃ file, uri.filePath? = some file ∧ file.same e.filePath = true) →
    Backend.Opened (s.backend.otherDocuments uri) e.filePath ∨ s.Fresh e

variable {s : Session}

/-- An entry for a file that is not announced stays fresh. -/
theorem fresh_of_not_announced {disk : Disk} {n : Notification} {e : CacheEntry}
    (ha : s.Announced (.notice disk n)) (he : e ∈ s.backend.entries) {b : Backend}
    (hn : ∀ file ∈ n.files, file.same e.filePath = false) :
    Fresh ⟨b, disk⟩ e ↔ s.Fresh e := by
  have hcontents : disk.contents e.filePath = s.disk.contents e.filePath := by
    by_contra hne
    obtain ⟨file, hfile, hs⟩ := ha e he hne
    rw [hn file hfile] at hs
    cases hs
  rw [Fresh, Fresh, Disk.load?_of_contents_eq hcontents]

/-- A notice that drops the files it names and closes no document. -/
theorem coherent_of_dropped {disk : Disk} {n : Notification} (h : s.Coherent)
    (ha : s.Announced (.notice disk n))
    (hopened : ∀ p, Backend.Opened s.backend.documents p →
      Backend.Opened (n.apply disk s.backend).1.documents p)
    (hdropped : ∀ e ∈ (n.apply disk s.backend).1.entries,
      e ∈ s.backend.entries ∧ ∀ file ∈ n.files, file.same e.filePath = false) :
    (s.step (.notice disk n)).Coherent := by
  intro e he
  obtain ⟨hmem, hother⟩ := hdropped e he
  rcases h e hmem with hopen | hfresh
  · exact .inl (hopened _ hopen)
  · exact .inr ((fresh_of_not_announced ha hmem hother).2 hfresh)

/-- A document is closed. -/
theorem coherent_closed_iff {disk : Disk} {uri : Uri} (h : s.Coherent)
    (ha : s.Announced (.notice disk (.closed uri))) :
    (s.step (.notice disk (.closed uri))).Coherent ↔ s.Clean uri := by
  have hfresh : ∀ e ∈ s.backend.entries,
      ((s.step (.notice disk (.closed uri))).Fresh e ↔ s.Fresh e) :=
    fun e he => fresh_of_not_announced ha he fun file hfile => absurd hfile List.not_mem_nil
  constructor
  · intro hafter e he _
    exact (hafter e he).imp_right (hfresh e he).1
  · intro hclean e he
    rw [hfresh e he]
    by_cases hnamed : ∃ file, uri.filePath? = some file ∧ file.same e.filePath = true
    · exact hclean e he hnamed
    · -- A document for another file stays open.
      refine (h e he).imp_left fun ⟨doc, hdoc, file, hfile, hs⟩ => ?_
      have hne : doc.1 ≠ uri := fun hu => hnamed ⟨file, by rw [← hu, hfile], hs⟩
      exact ⟨doc, List.mem_filter.2 ⟨hdoc, bne_iff_ne.2 hne⟩, file, hfile, hs⟩

/-- A request adds entries for its document and for what files hold on disk. -/
theorem coherent_request (r : Request) (h : s.Coherent) : (s.step (.request r)).Coherent := by
  have hdisk : ∀ p m, s.disk.load? Elm.parse p = some m →
      Backend.Opened s.backend.documents p ∨ s.Fresh ⟨p, m⟩ := fun p m hl => .inr hl
  cases r with
  | completion uri pos =>
    intro e he
    rw [show (s.step (.request (.completion uri pos))).backend.documents =
      s.backend.documents from Backend.documents_completion pos]
    exact Backend.forall_completion pos hdisk (fun p m hp => .inl hp) h e he
  | resolve item =>
    intro e he
    rw [show (s.step (.request (.resolve item))).backend.documents =
      s.backend.documents from Backend.documents_resolve item]
    exact Backend.forall_resolve item hdisk h e he

/-- **All other events keep the entries current.** -/
theorem coherent_step {e : SessionEvent} (h : s.Coherent) (ha : s.Announced e)
    (hclosed : ∀ disk uri, e = .notice disk (.closed uri) → s.Clean uri) :
    (s.step e).Coherent := by
  cases e with
  | notice disk n =>
    cases n with
    | opened uri text =>
      exact coherent_of_dropped h ha (fun p => Backend.opened_setText uri text)
        fun e he => ⟨he, fun file hfile => absurd hfile List.not_mem_nil⟩
    | changed uri texts =>
      refine coherent_of_dropped h ha (fun p => Backend.opened_didChange uri texts)
        fun e he => ⟨?_, fun file hfile => absurd hfile List.not_mem_nil⟩
      have hentries : (s.backend.didChange uri texts).entries = s.backend.entries := by
        unfold Backend.didChange
        split <;> rfl
      rw [← hentries]
      exact he
    | saved uri =>
      exact coherent_of_dropped h ha (fun p => Backend.opened_didSave uri)
        fun e => Backend.mem_didSave
    | closed uri => exact (coherent_closed_iff h ha).2 (hclosed disk uri rfl)
    | filesChanged uris =>
      exact coherent_of_dropped h ha (fun p => Backend.opened_watchedFilesChanged disk uris)
        fun e => Backend.mem_watchedFilesChanged
  | request r => exact coherent_request r h
  | manifestChanged disk => exact fun e he => absurd he List.not_mem_nil

theorem run_take_succ (s : Session) {events : List SessionEvent} {n : Nat} {e : SessionEvent}
    (he : events[n]? = some e) :
    s.run (events.take (n + 1)) = (s.run (events.take n)).step e := by
  rw [List.take_add_one, he, run, List.foldl_append]
  rfl

/-- **Entries are current until a document is closed too early.**  In a session in which
    all changes of cached files are announced, every entry is for an open document or holds
    what its file holds on disk, at every time, iff no document is closed while an entry for
    its file holds something else. -/
theorem coherent_run_iff (packages : PackageCache) (roots : List Path) (disk : Disk)
    (events : List SessionEvent) :
    let start : Session := ⟨(Backend.start packages).setRoots roots, disk⟩
    (∀ n e, events[n]? = some e → (start.run (events.take n)).Announced e) →
    ((∀ n ≤ events.length, (start.run (events.take n)).Coherent) ↔
      ∀ n disk' uri, events[n]? = some (.notice disk' (.closed uri)) →
        (start.run (events.take n)).Clean uri) := by
  intro start hannounced
  constructor
  · intro hcoherent n disk' uri he
    have hlt := (List.getElem?_eq_some_iff.1 he).1
    rw [← coherent_closed_iff (hcoherent n (Nat.le_of_lt hlt)) (hannounced n _ he),
      ← run_take_succ start he]
    exact hcoherent (n + 1) hlt
  · intro hclean n hn
    induction n with
    | zero => exact fun e he => absurd he List.not_mem_nil
    | succ n ih =>
      have he : events[n]? = some events[n] := List.getElem?_eq_getElem hn
      rw [run_take_succ start he]
      exact coherent_step (ih (Nat.le_of_lt hn)) (hannounced n _ he)
        fun disk' uri hclosed => hclean n disk' uri (hclosed ▸ he)

/-! ## A module that is edited -/

/-- The document of the module on `sourceDisk`. -/
def editedUri : Uri := ⟨"file", none, .segments ["s", "A.elm"], none, none⟩

/-- It is opened with a text, completions are asked for, and it is closed. -/
def editedEvents (text : String) : List SessionEvent :=
  [.notice sourceDisk (.opened editedUri text), .request (.completion editedUri ⟨0, 1⟩),
    .notice sourceDisk (.closed editedUri)]

/-- A session on that disk. -/
def sourceSession : Session := ⟨(Backend.start {}).setRoots [], sourceDisk⟩

/-- The disk does not change. -/
theorem announced_editedEvents (text : String) (n : Nat) (e : SessionEvent)
    (he : (editedEvents text)[n]? = some e) :
    (sourceSession.run ((editedEvents text).take n)).Announced e := by
  rcases n with _ | _ | _ | n
  · obtain rfl := Option.some.inj he
    exact fun _ _ hne => (hne rfl).elim
  · obtain rfl := Option.some.inj he
    exact trivial
  · obtain rfl := Option.some.inj he
    exact fun _ _ hne => (hne rfl).elim
  · cases he

/-- Its text is cached, without what other files hold. -/
theorem entries_edited {text typed : String} {current : Elm.Module}
    (hparse : Elm.parse text = .ok current)
    (hcontext : Completion.contextAt text ⟨0, 1⟩ = some (.value typed))
    (himports : Completion.matchingImports current typed = []) :
    (sourceSession.run ((editedEvents text).take 2)).backend.entries =
      [⟨⟨"/s/A.elm"⟩, current⟩] := by
  have hfile : editedUri.filePath? = some ⟨"/s/A.elm"⟩ := by decide +kernel
  have hopen : (Backend.didOpen sourceSession.backend editedUri text).text? editedUri =
      some text := by
    simp [Backend.didOpen, Backend.text?, Backend.setText]
  show ((Backend.didOpen sourceSession.backend editedUri text).completion sourceDisk editedUri
    ⟨0, 1⟩).2.entries = _
  rw [Backend.completion_of_open sourceDisk ⟨0, 1⟩ hfile hopen,
    Completion.complete_of_context hparse hcontext]
  have hrequested : (Completion.resolveImports Elm.parse sourceDisk ⟨"/s/A.elm"⟩
      (Completion.edited (sourceSession.backend.didOpen editedUri text).workspace ⟨"/s/A.elm"⟩
        current) (Completion.matchingImports current typed)).2.cache.entries =
          [⟨⟨"/s/A.elm"⟩, current⟩] := by
    rw [himports]
    rfl
  exact hrequested

/-- If the text is that of the file, it can be closed. -/
theorem coherent_editedEvents :
    (sourceSession.run ((editedEvents "f=1").take 2)).backend.entries ≠ [] ∧
      (sourceSession.run (editedEvents "f=1")).Coherent := by
  have hparse : Elm.parse "f=1" = .ok importedModule := by decide +kernel
  have hcontext : Completion.contextAt "f=1" ⟨0, 1⟩ = some (.value "f") := by decide +kernel
  have hentries := entries_edited hparse hcontext (by decide)
  refine ⟨by rw [hentries]; exact List.cons_ne_nil _ _, ?_⟩
  refine (coherent_run_iff {} [] sourceDisk (editedEvents "f=1")
    (announced_editedEvents "f=1")).2 (fun n disk' uri he => ?_) 3 (Nat.le_refl 3)
  rcases n with _ | _ | _ | n
  · cases he
  · cases he
  · intro e hmem _
    have hmem' : e ∈ (sourceSession.run ((editedEvents "f=1").take 2)).backend.entries := hmem
    rw [hentries, List.mem_singleton] at hmem'
    rw [hmem']
    exact .inr load?_importedModule
  · cases he

/-- If it is not, it stays in the cache when it is closed. -/
theorem closed_document_stays_cached :
    (∀ n e, (editedEvents "g=2")[n]? = some e →
      (sourceSession.run ((editedEvents "g=2").take n)).Announced e) ∧
    (sourceSession.run (editedEvents "g=2")).backend.documents = [] ∧
    ¬ (sourceSession.run (editedEvents "g=2")).Coherent := by
  have hparse : Elm.parse "g=2" = .ok { functions := [⟨"g", none, none⟩] } := by decide +kernel
  have hcontext : Completion.contextAt "g=2" ⟨0, 1⟩ = some (.value "g") := by decide +kernel
  have hentries := entries_edited hparse hcontext (by decide)
  have hdocuments : (sourceSession.run (editedEvents "g=2")).backend.documents = [] := by
    show ((sourceSession.backend.didOpen editedUri "g=2").completion sourceDisk editedUri
      ⟨0, 1⟩).2.documents.filter (·.1 != editedUri) = []
    rw [Backend.documents_completion]
    simp [Backend.didOpen, Backend.setText, Backend.otherDocuments, sourceSession, Backend.start,
      Backend.setRoots]
  refine ⟨announced_editedEvents "g=2", hdocuments, fun hcoherent => ?_⟩
  have hmem : ⟨⟨"/s/A.elm"⟩, { functions := [⟨"g", none, none⟩] }⟩ ∈
      (sourceSession.run (editedEvents "g=2")).backend.entries := by
    show _ ∈ (sourceSession.run ((editedEvents "g=2").take 2)).backend.entries
    rw [hentries]
    exact List.mem_singleton.2 rfl
  rcases hcoherent _ hmem with ⟨doc, hdoc, -⟩ | hfresh
  · rw [hdocuments] at hdoc
    cases hdoc
  · have hsame := load?_importedModule.symm.trans hfresh
    exact absurd hsame (by decide)

end Session

end Server

end ElmAssist
