/-
  The cache as a map from files to modules.

  `ModuleCache.find?` is the view through which all operations are described: what
  `store`, `invalidate` and `clear` do to it, and that it does not tell apart two
  paths that name the same file.  The counters are no part of it.

  * `Disk.load?` is the module that a file holds on disk, and `ModuleCache.load?`
    the one that a look-up gives: the cached one, or else that on disk.
  * `get_cases`: the four ways a look-up can go, each with its answer and all that
    it does to the cache.
-/
import ElmAssist.ModuleCache

namespace ElmAssist

/-! ## Paths -/

namespace Path

theorem same_comm (p q : Path) : p.same q = q.same p := by
  simp [same, Bool.beq_comm]

/-- A path that names the same file as another is compared with others like it. -/
theorem same_congr {p q : Path} (h : p.same q = true) (r : Path) : r.same p = r.same q := by
  rw [same_iff] at h
  simp only [same, h]

theorem same_trans {p q r : Path} (h : p.same q = true) (h' : q.same r = true) :
    p.same r = true := by
  rw [← same_congr h']; exact h

end Path

/-! ## Files on disk -/

/-- The module that a file on disk holds, if it can be read and parsed. -/
def Disk.load? (disk : Disk) (parse : Elm.SourceParser) (p : Path) : Option Elm.Module :=
  (disk.contents p).toOption.bind fun bytes => (parse.ofBytes bytes).toOption

/-- Whether the contents of a file can be read. -/
def Disk.readable (disk : Disk) (p : Path) : Bool :=
  (disk.contents p).isOk

namespace Disk

/-- What a file on disk holds is the parse of a text. -/
theorem load?_eq_some {parse : Elm.SourceParser} {disk : Disk} {p : Path} {m : Elm.Module}
    (h : disk.load? parse p = some m) :
    ∃ bytes text, disk.contents p = .ok bytes ∧ String.fromUTF8? bytes = some text ∧
      parse text = .ok m := by
  unfold load? Elm.SourceParser.ofBytes at h
  cases hb : disk.contents p with
  | error e => simp [hb, Except.toOption] at h
  | ok bytes =>
    cases ht : String.fromUTF8? bytes with
    | none => simp [hb, ht, Except.toOption] at h
    | some text =>
      cases hm : parse text with
      | error e => simp [hb, ht, hm, Except.toOption] at h
      | ok m' =>
        simp only [hb, ht, hm, Except.toOption, Option.bind_some, Option.some.injEq] at h
        exact ⟨bytes, text, rfl, ht, by rw [hm, h]⟩

theorem load?_of_contents {parse : Elm.SourceParser} {disk : Disk} {p : Path}
    {bytes : ByteArray} {text : String} {m : Elm.Module}
    (hb : disk.contents p = .ok bytes) (ht : String.fromUTF8? bytes = some text)
    (hm : parse text = .ok m) : disk.load? parse p = some m := by
  simp [load?, Elm.SourceParser.ofBytes, hb, ht, hm, Except.toOption]

end Disk

namespace ModuleCache

variable (parse : Elm.SourceParser) (disk : Disk) (c : ModuleCache)

/-! ## Entries -/

/-- The module that is cached for a file. -/
def module? (p : Path) : Option Elm.Module :=
  (c.find? p).map (·.parsed)

/-- The module that a look-up gives: the cached one, or else the one on disk. -/
def load? (p : Path) : Option Elm.Module :=
  (c.module? p).or (disk.load? parse p)

theorem find?_congr {p q : Path} (h : p.same q = true) : c.find? p = c.find? q := by
  simp only [find?, Path.same_congr h]

theorem module?_congr {p q : Path} (h : p.same q = true) : c.module? p = c.module? q := by
  rw [module?, module?, find?_congr c h]

theorem contains_eq (p : Path) : c.contains p = (c.module? p).isSome := by
  simp [contains, module?]

/-- Only the entries count for look-ups. -/
theorem find?_of_entries {c c' : ModuleCache} (h : c.entries = c'.entries) (p : Path) :
    c.find? p = c'.find? p := by
  rw [find?, find?, h]

/-- A file without an entry has nothing to be dropped. -/
theorem others_of_none {c : ModuleCache} {p : Path} (h : c.find? p = none) :
    c.others p = c.entries := by
  rw [find?, List.find?_eq_none] at h
  rw [others, List.filter_eq_self]
  intro e he
  simpa using h e he

/-- The entries for other files answer look-ups of other files as before. -/
theorem find?_others (p q : Path) :
    (c.others p).find? (·.filePath.same q) = if p.same q then none else c.find? q := by
  rw [others, List.find?_filter]
  by_cases h : p.same q = true
  · rw [if_pos h, List.find?_eq_none]
    intro e _
    simp [Path.same_congr h]
  · rw [if_neg h, find?]
    congr 1
    funext e
    by_cases he : e.filePath.same q = true
    · have hp : e.filePath.same p = false := by
        rw [Bool.eq_false_iff]
        intro hp
        rw [Path.same_comm] at hp
        exact h (Path.same_trans hp he)
      simp [he, hp]
    · simp [he]

theorem find?_store (p q : Path) (m : Elm.Module) :
    (c.store p m).find? q = if p.same q then some ⟨p, m⟩ else c.find? q := by
  rw [find?, store, List.find?_cons]
  by_cases h : p.same q = true
  · simp [h]
  · simp [h, find?_others]

theorem find?_invalidate (p q : Path) :
    (c.invalidate p).find? q = if p.same q then none else c.find? q := by
  rw [← find?_others c p q]; rfl

theorem module?_store (p q : Path) (m : Elm.Module) :
    (c.store p m).module? q = if p.same q then some m else c.module? q := by
  rw [module?, find?_store]
  split <;> rfl

theorem module?_invalidate (p q : Path) :
    (c.invalidate p).module? q = if p.same q then none else c.module? q := by
  rw [module?, find?_invalidate]
  split <;> rfl

/-! ## Look-ups -/

/-- **The ways of a look-up**: the file is cached; it is not, and is loaded from disk;
    it cannot be read; it can be read and holds no module. -/
theorem get_cases (p : Path) :
    (∃ m, c.module? p = some m ∧ c.get parse disk p = (some m, c.countHit)) ∨
    (∃ m, c.module? p = none ∧ disk.load? parse p = some m ∧
      c.get parse disk p = (some m, c.countMiss.store p m)) ∨
    (c.module? p = none ∧ disk.load? parse p = none ∧ disk.readable p = false ∧
      c.get parse disk p = (none, c.countMiss.countNotFound)) ∨
    (c.module? p = none ∧ disk.load? parse p = none ∧ disk.readable p = true ∧
      c.get parse disk p = (none, c.countMiss.countParseFailure)) := by
  unfold get module? Disk.load? Disk.readable
  cases hf : c.find? p with
  | some e => exact Or.inl ⟨e.parsed, rfl, rfl⟩
  | none =>
    right
    cases hb : disk.contents p with
    | error e => exact Or.inr (Or.inl ⟨rfl, rfl, rfl, rfl⟩)
    | ok bytes =>
      cases hm : parse.ofBytes bytes with
      | ok m => exact Or.inl ⟨m, rfl, by simp [Except.toOption, hm], by simp [record, hm]⟩
      | error e =>
        exact Or.inr (Or.inr ⟨rfl, by simp [Except.toOption, hm], rfl, by simp [record, hm]⟩)

variable {parse} {c} in
theorem getWithSource_of_ok {p : Path} {source : String} {m : Elm.Module}
    (h : parse source = .ok m) : c.getWithSource parse p source = (some m, c.store p m) := by
  simp [getWithSource, record, h]

variable {parse} {c} in
theorem getWithSource_of_error {p : Path} {source : String} {e : Elm.ParseError}
    (h : parse source = .error e) :
    c.getWithSource parse p source = (none, c.countParseFailure) := by
  simp [getWithSource, record, h]

/-- The answer of a look-up. -/
theorem get_fst (p : Path) : (c.get parse disk p).1 = c.load? parse disk p := by
  obtain ⟨m, hm, h⟩ | ⟨m, hm, hl, h⟩ | ⟨hm, hl, -, h⟩ | ⟨hm, hl, -, h⟩ := get_cases parse disk c p
  · rw [h, load?, hm]; rfl
  all_goals rw [h, load?, hm, hl]; rfl

/-- What a look-up leaves in the cache: a file that was loaded is cached, and nothing
    else changes. -/
theorem module?_get (p q : Path) :
    (c.get parse disk p).2.module? q =
      if p.same q then c.load? parse disk p else c.module? q := by
  obtain ⟨m, hm, h⟩ | ⟨m, hm, hl, h⟩ | ⟨hm, hl, -, h⟩ | ⟨hm, hl, -, h⟩ := get_cases parse disk c p
  · rw [h]
    split
    · next hs => rw [load?, hm, ← module?_congr c.countHit hs]; exact hm
    · rfl
  · rw [h, module?_store, load?, hm, hl]; rfl
  all_goals
    rw [h]
    split
    · next hs => rw [load?, hm, hl]; exact (module?_congr c hs).symm.trans hm
    · rfl

variable {parse disk c}

/-- A look-up that fails changes no entry. -/
theorem entries_get_of_none {p : Path} (h : (c.get parse disk p).1 = none) :
    (c.get parse disk p).2.entries = c.entries := by
  obtain ⟨m, -, hg⟩ | ⟨m, -, -, hg⟩ | ⟨-, -, -, hg⟩ | ⟨-, -, -, hg⟩ := get_cases parse disk c p
  · rw [hg] at h; cases h
  · rw [hg] at h; cases h
  · rw [hg]; rfl
  · rw [hg]; rfl

/-- A text that does not parse changes no entry. -/
theorem entries_getWithSource_of_none {p : Path} {source : String}
    (h : (c.getWithSource parse p source).1 = none) :
    (c.getWithSource parse p source).2.entries = c.entries := by
  cases hp : parse source with
  | ok m => rw [getWithSource_of_ok hp] at h; cases h
  | error e => rw [getWithSource_of_error hp]; rfl

end ModuleCache

end ElmAssist
