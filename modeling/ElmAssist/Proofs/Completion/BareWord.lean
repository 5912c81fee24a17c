/-
  Bare words.

  A bare word never starts with a capital, but imports are selected by what their names begin
  with.  So where all these names are capitalised, no import is selected for a bare word that
  is not empty: the candidates are the functions of the edited text, and nothing is looked up.

  * `not_isCapitalized_of_contextAt`: bare words are not capitalised.
  * `matchingImports_eq_nil`: no capitalised name begins with one.
  * `complete_bareWord`: the candidates for a bare word, and the state behind the request.
-/
import ElmAssist.Elm.Parse
import ElmAssist.Proofs.Completion.Effect
import ElmAssist.Proofs.Completion.Token
import ElmAssist.Proofs.Text.Split

namespace ElmAssist.Completion

open Elm Text

/-! ## Capitals -/

theorem not_isCapitalized_of_classify {token typed : String} (h : classify token = .value typed) :
    isCapitalized typed = false := by
  unfold classify at h
  split at h
  next qualifier word hsplit =>
  split at h
  · cases h
  · next hcap =>
    obtain rfl := Context.value.inj h
    rw [Bool.or_eq_true, not_or] at hcap
    exact Bool.eq_false_iff.2 hcap.2

/-- **A bare word** at a position does not start with a capital. -/
theorem not_isCapitalized_of_contextAt {text typed : String} {pos : Position}
    (h : contextAt text pos = some (.value typed)) : isCapitalized typed = false := by
  obtain ⟨line, column, -, hcontext⟩ := contextAt_eq_some_iff.1 h
  obtain ⟨r, hr, hc⟩ := exists_isRun_of_contextInLine hcontext
  obtain ⟨-, htoken⟩ := (contextInLine_of_isRun hr hc).1 hcontext
  split at htoken
  · cases htoken
  · exact not_isCapitalized_of_classify htoken

/-- What a capitalised name begins with is capitalised, unless it is empty. -/
theorem isCapitalized_of_begins {name typed : String} (h : begins name typed = true)
    (htyped : typed ≠ "") (hname : isCapitalized name = true) : isCapitalized typed = true := by
  obtain ⟨rest, rfl⟩ := begins_iff.1 h
  cases hchars : typed.toList with
  | nil => exact absurd (String.toList_eq_nil_iff.1 hchars) htyped
  | cons c chars => simpa [isCapitalized, hchars] using hname

/-! ## Imports -/

/-- The names by which an import can be referred to are capitalised. -/
def HasCapitals (i : Import) : Prop :=
  isCapitalized i.moduleName = true ∧ ∀ name, i.shortName = some name → isCapitalized name = true

/-- No capitalised name begins with a bare word. -/
theorem qualifier?_eq_none {i : Import} {typed : String} (hi : HasCapitals i) (htyped : typed ≠ "")
    (hcap : isCapitalized typed = false) : qualifier? i typed = none := by
  have hnot : ∀ name, isCapitalized name = true → begins name typed = false := by
    intro name hname
    rw [Bool.eq_false_iff]
    intro hbegins
    rw [isCapitalized_of_begins hbegins htyped hname] at hcap
    cases hcap
  obtain ⟨hmodule, hshort⟩ := hi
  rw [qualifier?, hnot i.moduleName hmodule, if_neg Bool.false_ne_true, Option.or_none,
    Option.filter_eq_none_iff]
  intro name hname
  rw [hnot name (hshort name hname)]
  exact Bool.false_ne_true

/-- **No import is selected** for a bare word. -/
theorem matchingImports_eq_nil {current : Module} {typed : String}
    (h : ∀ i ∈ current.imports, HasCapitals i) (htyped : typed ≠ "")
    (hcap : isCapitalized typed = false) : matchingImports current typed = [] := by
  rw [matchingImports, List.filter_eq_nil_iff]
  intro i hi
  rw [qualifier?_eq_none (h i hi) htyped hcap]
  exact Bool.false_ne_true

/-! ## Requests -/

variable {parse : SourceParser} {disk : Disk}

/-- If no import is selected, the candidates are the functions of the edited text, and nothing
    is done but to take over that text. -/
theorem candidatesIn_of_no_imports {w : Workspace} {file : Path} {current : Module}
    {typed : String} (h : matchingImports current typed = []) :
    candidatesIn parse disk w file current (.value typed) =
      (current.functions.map (.ofFunction current.name), w) := by
  simp only [candidatesIn, h, resolveImports, valueCandidates, List.flatMap_nil, List.append_nil]

/-- **Bare words never reach imports.**  If all names of imports are capitalised, the candidates
    for a bare word that is not empty are the functions of the edited text, in their order.
    Nothing is looked up: the projects stay as they are, loaded or not, and so do the entries
    for other files and all counters but that of dropped entries. -/
theorem complete_bareWord (parse : SourceParser) (disk : Disk) (w : Workspace) (text : String)
    (file : Path) (pos : Position) (typed : String) (current : Module)
    (hparse : parse text = .ok current) (hcontext : contextAt text pos = some (.value typed))
    (htyped : typed ≠ "") (himports : ∀ i ∈ current.imports, HasCapitals i) :
    let result := complete parse disk w text file pos
    let c := w.cache
    let c' := result.2.cache
    result.1 = current.functions.map (.ofFunction current.name) ∧
      requestedImports current (.value typed) = [] ∧
      result.2.resolver = w.resolver ∧
      c'.stats = { c.stats with invalidations := c.stats.invalidations + 1 } ∧
      c'.entries = ⟨file, current⟩ :: c.others file ∧
      ∀ p, p.same file = false → c'.find? p = c.find? p := by
  intro result c c'
  have hnone : matchingImports current typed = [] :=
    matchingImports_eq_nil himports htyped (not_isCapitalized_of_contextAt hcontext)
  have hresult : result =
      (current.functions.map (.ofFunction current.name), edited w file current) :=
    (complete_of_context hparse hcontext).trans (candidatesIn_of_no_imports hnone)
  have hc' : c' = (edited w file current).cache := congrArg (·.2.cache) hresult
  refine ⟨by rw [hresult], hnone, by rw [hresult]; rfl, by rw [hc']; rfl, ?_, fun p hp => ?_⟩
  · rw [hc', entries_edited]
  · rw [hc', find?_edited, hp, if_neg Bool.false_ne_true]

/-- A text with an import under a short name. -/
def shortNameText : String := "import A as B\nx=1"

/-- What it holds. -/
def shortNameModule : Module :=
  { imports := [⟨"A", some "B", none⟩], functions := [⟨"x", none, none⟩] }

/-- Behind its own function, only that is offered. -/
theorem complete_bareWord_shortName :
    let file : Path := ⟨"/s/Main.elm"⟩
    Elm.parse shortNameText = .ok shortNameModule ∧
      contextAt shortNameText ⟨1, 1⟩ = some (.value "x") ∧
      (complete Elm.parse { root := .directory [] } {} shortNameText file ⟨1, 1⟩).1 =
        [⟨"x", .function, "Main", none⟩] := by
  intro file
  have hparse : Elm.parse shortNameText = .ok shortNameModule := by decide +kernel
  have hcontext : contextAt shortNameText ⟨1, 1⟩ = some (.value "x") := by decide +kernel
  have himports : ∀ i ∈ shortNameModule.imports, HasCapitals i := by
    intro i hi
    obtain rfl := List.mem_singleton.1 hi
    exact ⟨by decide, fun name hname => by cases hname; decide⟩
  obtain ⟨hcandidates, -⟩ := complete_bareWord Elm.parse { root := .directory [] } {} shortNameText
    file ⟨1, 1⟩ "x" shortNameModule hparse hcontext (by decide) himports
  refine ⟨hparse, hcontext, hcandidates.trans ?_⟩
  decide

end ElmAssist.Completion
