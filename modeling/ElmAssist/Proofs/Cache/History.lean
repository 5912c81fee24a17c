/-
  What a cache holds, told from its history.

  A `CacheRun` is a cache together with the disk that it reads.  `CacheEvent`s are
  the operations on the cache and, at any time, a change of the disk to an arbitrary
  other one; `CacheRun.run` performs a list of them.

  * `Loads`: an event loads a file, with the text that is parsed for it, either from
    disk (on a miss) or from a text that is handed over; `Drops`: it drops a file.
  * `module?_run`: a file is cached iff some event loaded it and no later event dropped
    it, and then the cached module is the parse of the text of the last load.
  * `stats_run`: each counter, or sum of counters, is the number of events of a kind.
  * `cache_refines_history`: all of it, for runs that start with an empty cache.
-/
import ElmAssist.Proofs.Cache.Basic
import Mathlib.Data.List.Induction

namespace ElmAssist

/-! ## Runs -/

/-- What happens to a cache and to the disk below it. -/
inductive CacheEvent where
  /-- A look-up. -/
  | get (p : Path)
  /-- A text is taken as the contents of a file. -/
  | getWithSource (p : Path) (source : String)
  /-- The entry for a file is dropped. -/
  | invalidate (p : Path)
  /-- All entries are dropped. -/
  | clear
  /-- The disk becomes another one. -/
  | diskChange (disk : Disk)

/-- A cache and the disk that it reads. -/
structure CacheRun where
  cache : ModuleCache := {}
  disk : Disk

namespace CacheRun

variable (parse : Elm.SourceParser)

/-- Performs one event. -/
def step (s : CacheRun) : CacheEvent → CacheRun
  | .get p => { s with cache := (s.cache.get parse s.disk p).2 }
  | .getWithSource p source => { s with cache := (s.cache.getWithSource parse p source).2 }
  | .invalidate p => { s with cache := s.cache.invalidate p }
  | .clear => { s with cache := s.cache.clear }
  | .diskChange disk => { s with disk }

/-- Performs events one after the other. -/
def run (s : CacheRun) (events : List CacheEvent) : CacheRun :=
  events.foldl (step parse) s

theorem run_snoc (s : CacheRun) (events : List CacheEvent) (e : CacheEvent) :
    s.run parse (events ++ [e]) = (s.run parse events).step parse e := by
  simp [run]

/-- The number of events of a run that satisfy a condition, each in the state in which
    it happens. -/
def count (P : CacheRun → CacheEvent → Bool) (s : CacheRun) : List CacheEvent → Nat
  | [] => 0
  | e :: rest => (if P s e then 1 else 0) + count P (s.step parse e) rest

/-! ## Loads and drops -/

/-- An event that loads a file in a state, and the text that is parsed for it. -/
inductive Loads (s : CacheRun) : CacheEvent → Path → String → Prop
  /-- A look-up of a file that is not cached, whose contents are UTF-8 and parse. -/
  | fromDisk {q p : Path} {bytes : ByteArray} {text : String} {m : Elm.Module} :
      q.same p = true → s.cache.contains q = false → s.disk.contents q = .ok bytes →
      String.fromUTF8? bytes = some text → parse text = .ok m → Loads s (.get q) p text
  /-- A text that is handed over and parses. -/
  | fromText {q p : Path} {text : String} {m : Elm.Module} :
      q.same p = true → parse text = .ok m → Loads s (.getWithSource q text) p text

/-- Whether an event drops a file. -/
def Drops : CacheEvent → Path → Prop
  | .invalidate q, p => q.same p = true
  | .clear, _ => True
  | _, _ => False

/-- The event at position `n` of a run loads a file. -/
def LoadedAt (s : CacheRun) (events : List CacheEvent) (n : Nat) (p : Path) (text : String) :
    Prop :=
  ∃ e, events[n]? = some e ∧ Loads parse (s.run parse (events.take n)) e p text

/-- The event at position `n` drops a file. -/
def DroppedAt (events : List CacheEvent) (n : Nat) (p : Path) : Prop :=
  ∃ e, events[n]? = some e ∧ Drops e p

/-- A file is loaded at position `n`, and is not dropped behind it. -/
def LiveFrom (s : CacheRun) (events : List CacheEvent) (n : Nat) (p : Path) (text : String) :
    Prop :=
  LoadedAt parse s events n p text ∧ ∀ k, n < k → ¬ DroppedAt events k p

/-- A load is live, and no other load of the file comes behind it. -/
def LastLoad (s : CacheRun) (events : List CacheEvent) (n : Nat) (p : Path) (text : String) :
    Prop :=
  LiveFrom parse s events n p text ∧ ∀ k text', n < k → ¬ LoadedAt parse s events k p text'

variable {parse}

/-! ## One event -/

/-- A file that is loaded is cached with the parse of its text. -/
theorem module?_of_loads {s : CacheRun} {e : CacheEvent} {p : Path} {text : String}
    (h : Loads parse s e p text) :
    ∃ m, parse text = .ok m ∧ (s.step parse e).cache.module? p = some m := by
  cases h with
  | @fromDisk q p bytes text m hs hc hb ht hm =>
    have hl := Disk.load?_of_contents hb ht hm
    rw [ModuleCache.contains_eq, Option.isSome_eq_false_iff, Option.isNone_iff_eq_none] at hc
    refine ⟨m, hm, ?_⟩
    rw [step, ModuleCache.module?_get, if_pos hs, ModuleCache.load?, hc, hl]
    rfl
  | @fromText q p text m hs hm =>
    refine ⟨m, hm, ?_⟩
    rw [step, ModuleCache.getWithSource_of_ok hm]
    exact (ModuleCache.module?_store _ _ _ _).trans (if_pos hs)

/-- A file that is dropped is not cached. -/
theorem module?_of_drops {s : CacheRun} {e : CacheEvent} {p : Path} (h : Drops e p) :
    (s.step parse e).cache.module? p = none := by
  cases e with
  | invalidate q => exact (ModuleCache.module?_invalidate _ _ _).trans (if_pos h)
  | clear => rfl
  | get q => exact h.elim
  | getWithSource q source => exact h.elim
  | diskChange d => exact h.elim

/-- All other events leave a file as it is. -/
theorem module?_of_neither {s : CacheRun} {e : CacheEvent} {p : Path}
    (hl : ∀ text, ¬ Loads parse s e p text) (hd : ¬ Drops e p) :
    (s.step parse e).cache.module? p = s.cache.module? p := by
  cases e with
  | get q =>
    rw [step, ModuleCache.module?_get]
    split
    · next hs =>
      rw [ModuleCache.load?, ModuleCache.module?_congr _ hs]
      cases hm : s.cache.module? p with
      | some m => rfl
      | none =>
        cases hq : s.disk.load? parse q with
        | none => rfl
        | some m =>
          obtain ⟨bytes, text, hb, ht, hp⟩ := Disk.load?_eq_some hq
          have hc : s.cache.contains q = false := by
            rw [ModuleCache.contains_eq, ModuleCache.module?_congr _ hs, hm]; rfl
          exact (hl text (.fromDisk hs hc hb ht hp)).elim
    · rfl
  | getWithSource q source =>
    rw [step]
    cases hp : parse source with
    | error err => rw [ModuleCache.getWithSource_of_error hp]; rfl
    | ok m =>
      have hs : ¬ q.same p = true := fun hs => hl source (.fromText hs hp)
      rw [ModuleCache.getWithSource_of_ok hp]
      exact (ModuleCache.module?_store _ _ _ _).trans (if_neg hs)
  | invalidate q => exact (ModuleCache.module?_invalidate _ _ _).trans (if_neg hd)
  | clear => exact (hd trivial).elim
  | diskChange d => rfl

/-! ## Positions -/

/-- Appending an event adds the last position. -/
theorem droppedAt_snoc {events : List CacheEvent} {e : CacheEvent} {n : Nat} {p : Path} :
    DroppedAt (events ++ [e]) n p ↔ DroppedAt events n p ∨ (n = events.length ∧ Drops e p) := by
  unfold DroppedAt
  rcases Nat.lt_trichotomy n events.length with h | h | h
  · rw [List.getElem?_append_left h]
    simp [Nat.ne_of_lt h]
  · subst h
    simp
  · rw [List.getElem?_eq_none (by simp; omega), List.getElem?_eq_none (by omega)]
    simp [Nat.ne_of_gt h]

theorem loadedAt_snoc {s : CacheRun} {events : List CacheEvent} {e : CacheEvent} {n : Nat}
    {p : Path} {text : String} :
    LoadedAt parse s (events ++ [e]) n p text ↔
      LoadedAt parse s events n p text ∨
        (n = events.length ∧ Loads parse (s.run parse events) e p text) := by
  unfold LoadedAt
  rcases Nat.lt_trichotomy n events.length with h | h | h
  · rw [List.getElem?_append_left h, List.take_append_of_le_length (Nat.le_of_lt h)]
    simp [Nat.ne_of_lt h]
  · subst h
    simp
  · rw [List.getElem?_eq_none (by simp; omega), List.getElem?_eq_none (by omega)]
    simp [Nat.ne_of_gt h]

theorem LoadedAt.lt_length {s : CacheRun} {events : List CacheEvent} {n : Nat} {p : Path}
    {text : String} (h : LoadedAt parse s events n p text) : n < events.length := by
  obtain ⟨e, he, -⟩ := h
  exact (List.getElem?_eq_some_iff.1 he).1

/-! ## The entries of a run -/

/-- An event that neither loads nor drops a file keeps its last load. -/
theorem LastLoad.snoc {s : CacheRun} {events : List CacheEvent} {e : CacheEvent} {n : Nat}
    {p : Path} {text : String} (h : LastLoad parse s events n p text)
    (hl : ∀ text, ¬ Loads parse (s.run parse events) e p text) (hd : ¬ Drops e p) :
    LastLoad parse s (events ++ [e]) n p text := by
  obtain ⟨⟨hn, hdrop⟩, hload⟩ := h
  refine ⟨⟨loadedAt_snoc.2 (Or.inl hn), fun k hk hdk => ?_⟩, fun k text' hk hlk => ?_⟩
  · rcases droppedAt_snoc.1 hdk with h | ⟨-, h⟩
    · exact hdrop k hk h
    · exact hd h
  · rcases loadedAt_snoc.1 hlk with h | ⟨-, h⟩
    · exact hload k text' hk h
    · exact hl text' h

/-- A load at the end of a run is the last one. -/
theorem lastLoad_of_loads {s : CacheRun} {events : List CacheEvent} {e : CacheEvent} {p : Path}
    {text : String} (h : Loads parse (s.run parse events) e p text) :
    LastLoad parse s (events ++ [e]) events.length p text := by
  have hlast : ∀ k, events.length < k → (events ++ [e])[k]? = none := fun k hk =>
    List.getElem?_eq_none (by simp; omega)
  refine ⟨⟨loadedAt_snoc.2 (Or.inr ⟨rfl, h⟩), fun k hk hd => ?_⟩, fun k text' hk hl => ?_⟩
  · obtain ⟨e', he, -⟩ := hd
    rw [hlast k hk] at he; cases he
  · obtain ⟨e', he, -⟩ := hl
    rw [hlast k hk] at he; cases he

/-- A live load of a run is still live after an event, or was dropped by it. -/
theorem liveFrom_snoc {s : CacheRun} {events : List CacheEvent} {e : CacheEvent} {n : Nat}
    {p : Path} {text : String} (h : LiveFrom parse s (events ++ [e]) n p text) :
    Loads parse (s.run parse events) e p text ∨
      (LiveFrom parse s events n p text ∧ ¬ Drops e p) := by
  obtain ⟨hn, hdrop⟩ := h
  rcases loadedAt_snoc.1 hn with hn | ⟨-, hl⟩
  · refine Or.inr ⟨⟨hn, fun k hk hd => hdrop k hk (droppedAt_snoc.2 (Or.inl hd))⟩, fun hd => ?_⟩
    exact hdrop _ hn.lt_length (droppedAt_snoc.2 (Or.inr ⟨rfl, hd⟩))
  · exact Or.inl hl

variable (parse) in
/-- **The entry of a file after a run.**  Without a live load there is none, and
    otherwise it is the parse of the text of the last load. -/
theorem module?_run (s : CacheRun) (hs : s.cache.entries = []) (events : List CacheEvent)
    (p : Path) :
    ((s.run parse events).cache.module? p = none ∧ ∀ n text, ¬ LiveFrom parse s events n p text) ∨
    ∃ n text m, LastLoad parse s events n p text ∧ parse text = .ok m ∧
      (s.run parse events).cache.module? p = some m := by
  -- The run is taken apart at its end: what the last event does to the file decides.
  induction events using List.reverseRecOn with
  | nil =>
    refine Or.inl ⟨by simp [run, ModuleCache.module?, ModuleCache.find?, hs], fun n text h => ?_⟩
    exact absurd h.1.lt_length (Nat.not_lt_zero n)
  | append_singleton events e ih =>
    rw [run_snoc]
    by_cases hl : ∃ text, Loads parse (s.run parse events) e p text
    · obtain ⟨text, hl⟩ := hl
      obtain ⟨m, hm, hc⟩ := module?_of_loads hl
      exact Or.inr ⟨_, text, m, lastLoad_of_loads hl, hm, hc⟩
    have hl' : ∀ text, ¬ Loads parse (s.run parse events) e p text := fun text h => hl ⟨text, h⟩
    by_cases hd : Drops e p
    · refine Or.inl ⟨module?_of_drops hd, fun n text h => ?_⟩
      rcases liveFrom_snoc h with h | ⟨-, h⟩
      · exact hl' text h
      · exact h hd
    · rw [module?_of_neither hl' hd]
      rcases ih with ⟨hc, hn⟩ | ⟨n, text, m, hn, hm, hc⟩
      · refine Or.inl ⟨hc, fun n text h => ?_⟩
        rcases liveFrom_snoc h with h | ⟨h, -⟩
        · exact hl' text h
        · exact hn n text h
      · exact Or.inr ⟨n, text, m, hn.snoc hl' hd, hm, hc⟩

/-! ## The counters of a run -/

/-- Whether an event is a look-up. -/
def isGet : CacheEvent → Bool
  | .get _ => true
  | _ => false

/-- Whether an event drops the entry for one file. -/
def isInvalidate : CacheEvent → Bool
  | .invalidate _ => true
  | _ => false

variable (parse)

/-- Whether an event is a look-up that loads a file from disk. -/
def loadsFromDisk (s : CacheRun) : CacheEvent → Bool
  | .get p => !s.cache.contains p && (s.disk.load? parse p).isSome
  | _ => false

/-- Whether an event hands over a text that does not parse. -/
def refusesText : CacheEvent → Bool
  | .getWithSource _ source => !(parse source).isOk
  | _ => false

/-- What one look-up counts. -/
theorem stats_get (s : CacheRun) (p : Path) :
    let u := s.cache.stats
    let t := (s.step parse (.get p)).cache.stats
    t.hits + t.misses = u.hits + u.misses + 1 ∧
    t.notFound + t.parseFailures + u.misses +
        (if loadsFromDisk parse s (.get p) then 1 else 0) =
      u.notFound + u.parseFailures + t.misses ∧
    t.invalidations = u.invalidations := by
  obtain ⟨m, hm, h⟩ | ⟨m, hm, hl, h⟩ | ⟨hm, hl, -, h⟩ | ⟨hm, hl, -, h⟩ :=
    ModuleCache.get_cases parse s.disk s.cache p
  all_goals
    simp only [step, h, loadsFromDisk, ModuleCache.contains_eq, hm]
  · simp [ModuleCache.countHit]; omega
  · simp [ModuleCache.countMiss, ModuleCache.store, hl]; omega
  · simp [ModuleCache.countMiss, ModuleCache.countNotFound, hl]; omega
  · simp [ModuleCache.countMiss, ModuleCache.countParseFailure, hl]; omega

/-- What one event counts. -/
theorem stats_step (s : CacheRun) (e : CacheEvent) :
    let u := s.cache.stats
    let t := (s.step parse e).cache.stats
    t.hits + t.misses = u.hits + u.misses + (if isGet e then 1 else 0) ∧
    t.notFound + t.parseFailures + u.misses + (if loadsFromDisk parse s e then 1 else 0) =
      u.notFound + u.parseFailures + t.misses + (if refusesText parse e then 1 else 0) ∧
    t.invalidations = u.invalidations + (if isInvalidate e then 1 else 0) := by
  cases e with
  | get p => exact stats_get parse s p
  | getWithSource p source =>
    cases hp : parse source with
    | error err =>
      have hr : refusesText parse (.getWithSource p source) = true := by simp [refusesText, hp]; rfl
      rw [hr, step, ModuleCache.getWithSource_of_error hp]
      simp [isGet, isInvalidate, loadsFromDisk, ModuleCache.countParseFailure]; omega
    | ok m =>
      have hr : refusesText parse (.getWithSource p source) = false := by
        simp [refusesText, hp]; rfl
      rw [hr, step, ModuleCache.getWithSource_of_ok hp]
      simp [isGet, isInvalidate, loadsFromDisk, ModuleCache.store]
  | invalidate p =>
    simp [step, ModuleCache.invalidate, isGet, isInvalidate, loadsFromDisk, refusesText]
  | clear => simp [step, ModuleCache.clear, isGet, isInvalidate, loadsFromDisk, refusesText]
  | diskChange d => simp [step, isGet, isInvalidate, loadsFromDisk, refusesText]

/-- **The counters of a run.**  Hits and misses are the look-ups; files that could not be
    read, texts that did not parse and files that were loaded are the misses and the
    refused texts; and each call to drop an entry is counted. -/
theorem stats_run (s : CacheRun) (events : List CacheEvent) :
    let u := s.cache.stats
    let t := (s.run parse events).cache.stats
    t.hits + t.misses = u.hits + u.misses + events.countP isGet ∧
    t.notFound + t.parseFailures + u.misses + s.count parse (loadsFromDisk parse) events =
      u.notFound + u.parseFailures + t.misses + events.countP (refusesText parse) ∧
    t.invalidations = u.invalidations + events.countP isInvalidate := by
  induction events generalizing s with
  | nil => simp [run, count]
  | cons e rest ih =>
    obtain ⟨h1, h2, h3⟩ := stats_step parse s e
    obtain ⟨i1, i2, i3⟩ := ih (s.step parse e)
    simp only [run, List.foldl_cons, count, List.countP_cons] at i1 i2 i3 ⊢
    refine ⟨?_, ?_, ?_⟩
    · rw [i1, h1]; omega
    · omega
    · rw [i3, h3]; omega

/-! ## The history of a cache -/

/-- **A cache is what its history says.**  After any run from an empty cache, a file is
    cached iff an event loaded it and no later one dropped it; its module is the parse of
    the text of the last load, and look-ups return it whatever the disk holds by then.
    Loads that fail change no entry, and the counters count the events. -/
theorem cache_refines_history (disk : Disk) (events : List CacheEvent) :
    let start : CacheRun := { disk }
    let c := (start.run parse events).cache
    (∀ p, c.contains p = true ↔ ∃ n text, LiveFrom parse start events n p text) ∧
    (∀ p entry, c.find? p = some entry →
      (∃ n text, LastLoad parse start events n p text ∧ parse text = .ok entry.parsed) ∧
      entry.moduleName = entry.parsed.name ∧
      ∀ disk', (c.get parse disk' p).1 = some entry.parsed) ∧
    (∀ p disk', (c.get parse disk' p).1 = none → (c.get parse disk' p).2.entries = c.entries) ∧
    (∀ p source, (c.getWithSource parse p source).1 = none →
      (c.getWithSource parse p source).2.entries = c.entries) ∧
    c.stats.hits + c.stats.misses = events.countP isGet ∧
    c.stats.notFound + c.stats.parseFailures + start.count parse (loadsFromDisk parse) events =
      c.stats.misses + events.countP (refusesText parse) ∧
    c.stats.invalidations = events.countP isInvalidate ∧
    c.clear.stats = c.stats := by
  intro start c
  have hrun := fun p => module?_run parse start rfl events p
  refine ⟨fun p => ?_, fun p entry he => ?_, fun p disk' => ModuleCache.entries_get_of_none,
    fun p source => ModuleCache.entries_getWithSource_of_none, ?_⟩
  · rw [ModuleCache.contains_eq]
    rcases hrun p with ⟨hc, hn⟩ | ⟨n, text, m, hn, -, hc⟩
    · rw [hc]
      exact ⟨fun h => (Bool.false_ne_true h).elim, fun ⟨n, text, h⟩ => (hn n text h).elim⟩
    · rw [hc]
      exact ⟨fun _ => ⟨n, text, hn.1⟩, fun _ => rfl⟩
  · have hm : c.module? p = some entry.parsed := by rw [ModuleCache.module?, he]; rfl
    refine ⟨?_, rfl, fun disk' => ?_⟩
    · rcases hrun p with ⟨hc, -⟩ | ⟨n, text, m, hn, hp, hc⟩
      · rw [hc] at hm; cases hm
      · rw [hc, Option.some.injEq] at hm
        exact ⟨n, text, hn, hm ▸ hp⟩
    · rw [ModuleCache.get_fst, ModuleCache.load?, hm]; rfl
  · obtain ⟨h1, h2, h3⟩ := stats_run parse start events
    simp only [start, Nat.zero_add, Nat.add_zero] at h1 h2 h3
    exact ⟨h1, h2, h3, rfl⟩

end CacheRun

end ElmAssist
