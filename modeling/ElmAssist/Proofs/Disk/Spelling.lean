/-
  Reading a file in different spellings.

  A path that names a file can be spelled with repeated slashes and with `.` between its
  components.  A look-up on disk passes over both, so that two spellings of a file read the
  same contents; only a spelling that is too long is refused by itself.

  * `walkFrom_filter`: steps that stay at their place do not count, except at the end.
  * `steps_filter`: the other steps of a path are given by its components.
  * `load?_congr`: two paths with the same components hold the same module on disk, if
    both or neither are too long and none of them ends like the name of a directory.
  * `contents_of_names`: a path of names only is followed down the tree.
-/
import ElmAssist.Proofs.Cache.Basic
import ElmAssist.Proofs.Path.Components

namespace ElmAssist

/-! ## Steps that stay -/

namespace Disk

variable (d : Disk) (follow : Bool)

/-- A step that stays asks for a directory, and so does the step behind it. -/
theorem walkFrom_stay (links : Nat) (place : List String) (s : Step) (rest : List Step) :
    d.walkFrom follow links place (.stay :: s :: rest) =
      d.walkFrom follow links place (s :: rest) := by
  rw [walkFrom]
  cases here : d.root.get? place.reverse with
  | none => rw [walkFrom, here]
  | some entry =>
    simp only
    split
    · rfl
    · next hdir =>
      rw [walkFrom, here]
      cases s with
      | stay => simp [hdir]
      | up => simp [hdir]
      | down name =>
        cases entry with
        | directory entries => exact absurd rfl hdir
        | file contents => rfl
        | link target => rfl

variable {d follow}

/-- The steps behind a first one may be replaced by others that lead to the same end, also
    behind the steps of a link on the way. -/
theorem walkFrom_cons_congr {links : Nat} {rest rest' : List Step}
    (hnil : rest = [] ↔ rest' = [])
    (hrest : ∀ place, d.walkFrom follow links place rest = d.walkFrom follow links place rest')
    (hlink : ∀ k < links, ∀ place target,
      d.walkFrom follow k place (target ++ rest) = d.walkFrom follow k place (target ++ rest'))
    (place : List String) (s : Step) :
    d.walkFrom follow links place (s :: rest) = d.walkFrom follow links place (s :: rest') := by
  have hempty : rest.isEmpty = rest'.isEmpty := by
    rw [Bool.eq_iff_iff, List.isEmpty_iff, List.isEmpty_iff, hnil]
  rw [walkFrom, walkFrom]
  cases d.root.get? place.reverse with
  | none => rfl
  | some here =>
    cases s with
    | stay => simp only [hrest]
    | up => simp only [hrest]
    | down name =>
      cases here with
      | file contents => rfl
      | link target => rfl
      | directory entries =>
        simp only [hempty]
        cases Entry.find? name entries with
        | none => rfl
        | some entry =>
          cases entry with
          | file contents => exact hrest _
          | directory entries => exact hrest _
          | link target =>
            cases links with
            | zero => rfl
            | succ k =>
              show (if _ then _ else _) = if _ then _ else _
              split
              · rfl
              · exact hlink k (Nat.lt_succ_self k) _ _

/-- Steps that stay do not count in front of another step. -/
theorem walkFrom_append (links : Nat) (place : List String) (steps : List Step) (last : Step) :
    d.walkFrom follow links place (steps ++ [last]) =
      d.walkFrom follow links place (steps.filter (· != .stay) ++ [last]) := by
  -- A link puts the steps of its target in front, so that the number of steps may grow; but
  -- one link less can be followed then.
  induction links using Nat.strongRecOn generalizing place steps with
  | ind links ihLinks =>
    induction steps generalizing place with
    | nil => rfl
    | cons s steps ih =>
      have hrest : d.walkFrom follow links place (s :: (steps ++ [last])) =
          d.walkFrom follow links place (s :: (steps.filter (· != .stay) ++ [last])) := by
        refine walkFrom_cons_congr (by simp) ih (fun k hk place target => ?_) place s
        rw [← List.append_assoc, ← List.append_assoc, ihLinks k hk,
          ihLinks k hk _ (target ++ steps.filter (· != .stay))]
        simp
      rw [List.cons_append, hrest]
      cases s with
      | stay =>
        cases hs : steps.filter (· != .stay) ++ [last] with
        | nil => simp at hs
        | cons t ts => simp [walkFrom_stay, hs]
      | up => rfl
      | down name => rfl

/-- **Steps that stay do not count**, except at the end. -/
theorem walkFrom_filter (links : Nat) (place : List String) {steps : List Step}
    (h : steps.getLast? ≠ some .stay) :
    d.walkFrom follow links place steps =
      d.walkFrom follow links place (steps.filter (· != .stay)) := by
  rcases List.eq_nil_or_concat steps with rfl | ⟨init, last, rfl⟩
  · rfl
  · have hlast : (last != .stay) = true := by simpa using h
    rw [List.concat_eq_append, walkFrom_append]
    simp [hlast]

end Disk

/-! ## Steps and components -/

namespace Path

/-- The step that a component stands for, if any. -/
def Component.step? : Component → Option Step
  | root | here => none
  | up => some .up
  | name s => some (.down s)

/-- A path that does not end like the name of a directory, with a slash or a dot. -/
def EndsInName (p : Path) : Prop :=
  ∃ c, p.text.toList.getLast? = some c ∧ c ≠ '/' ∧ c ≠ '.'

variable {p q : Path}

theorem filterMap_componentsOfPieces (pieces : List (List Char)) :
    (componentsOfPieces pieces).filterMap Component.step? =
      pieces.filterMap fun piece => (Component.ofPiece? piece).bind Component.step? := by
  rw [← List.filterMap_filterMap]
  fun_cases componentsOfPieces pieces with
  | case1 => rfl
  | case2 => rfl
  | case3 pieces hne =>
    rw [List.filterMap_cons_none rfl, List.filterMap_cons_none (by simp [Component.ofPiece?])]
  | case4 first pieces hne hroot =>
    rw [List.filterMap_append, List.filterMap_cons]
    by_cases hdot : first = ['.']
    · simp [hdot, Component.ofPiece?, Component.step?]
    · rw [if_neg hdot]
      cases Component.ofPiece? first with
      | none => rfl
      | some c => rw [List.filterMap_cons]; cases hc : c.step? <;> simp [hc]

/-- The steps of a path other than those that stay are given by its components. -/
theorem steps_filter (p : Path) :
    p.steps.filter (· != .stay) = p.components.filterMap Component.step? := by
  have hpiece : ∀ piece : List Char,
      (if piece = ['.'] then some Step.stay
        else if piece = ['.', '.'] then some Step.up
        else if piece = [] then none
        else some (.down (String.ofList piece))).filter (· != .stay) =
      (Component.ofPiece? piece).bind Component.step? := by
    intro piece
    unfold Component.ofPiece?
    split
    · next h => simp [h]
    · split
      · next h => simp [h, Component.step?]
      · split <;> simp_all [Component.step?]
  rw [components, filterMap_componentsOfPieces, steps, List.filter_append, List.filter_filterMap]
  simp only [hpiece]
  split <;> simp

theorem EndsInName.last_piece (h : p.EndsInName) :
    ∃ init piece, p.pieces = init ++ [piece] ∧ piece ≠ [] ∧ piece ≠ ['.'] := by
  obtain ⟨c, hc, hslash, hdot⟩ := h
  obtain ⟨init, piece, hs, hlast⟩ := Text.getLast?_splitList hc hslash
  refine ⟨init, piece, hs, ?_, ?_⟩
  · rintro rfl; simp at hlast
  · rintro rfl
    exact hdot (by simpa using hlast.symm)

theorem EndsInName.getLast?_steps (h : p.EndsInName) : p.steps.getLast? ≠ some .stay := by
  obtain ⟨init, piece, hs, hnil, hdot⟩ := h.last_piece
  obtain ⟨c, hc, hslash, -⟩ := h
  have htail : ¬ p.text.toList.getLast? = some '/' := by
    rw [hc]; simpa using hslash
  rw [steps, if_neg htail, hs]
  by_cases hup : piece = ['.', '.']
  · simp [hup]
  · simp [hnil, hdot, hup]

end Path

/-! ## Look-ups -/

namespace Disk

variable {p q : Path}

/-- A look-up depends on the components of a path and on whether it is too long. -/
theorem lookup_congr (h : p.same q = true) (hp : p.EndsInName) (hq : q.EndsInName)
    (hlong : pathLimit ≤ p.size ↔ pathLimit ≤ q.size)
    (d : Disk) (follow : Bool) : d.lookup follow p = d.lookup follow q := by
  rw [Path.same_iff] at h
  have hwalk : ∀ place, d.walkFrom follow maxLinks place p.steps =
      d.walkFrom follow maxLinks place q.steps := by
    intro place
    rw [walkFrom_filter _ _ hp.getLast?_steps, walkFrom_filter _ _ hq.getLast?_steps,
      Path.steps_filter, Path.steps_filter, h]
  have hnul : p.text.toList.any (·.toNat == 0) = q.text.toList.any (·.toNat == 0) := by
    rw [← Path.any_components (by decide) (by decide) p,
      ← Path.any_components (by decide) (by decide) q, h]
  have hempty : ∀ {r : Path}, r.EndsInName → r.text.isEmpty = false := by
    rintro r ⟨c, hc, -⟩
    rw [Bool.eq_false_iff, Ne, String.isEmpty_iff]
    intro hr
    simp [hr] at hc
  unfold lookup
  rw [hnul, Path.isAbsolute_eq p, Path.isAbsolute_eq q, h, hempty hp, hempty hq, hwalk, hwalk]
  simp only [hlong]

/-- **Reading depends on the components of a path.**  Two spellings of a file hold the same
    module, unless just one of them is too long. -/
theorem load?_congr (h : p.same q = true) (hp : p.EndsInName)
    (hq : q.EndsInName)
    (hlong : pathLimit ≤ p.size ↔ pathLimit ≤ q.size)
    (disk : Disk) (parse : Elm.SourceParser) : disk.load? parse p = disk.load? parse q := by
  unfold load? contents
  rw [lookup_congr h hp hq hlong]
  cases disk.lookup true q with
  | entry place entry => cases entry <;> rfl
  | _ => rfl

end Disk

/-! ## Paths of names -/

/-- A chain of names is followed in two parts. -/
theorem Entry.get?_append (e : Entry) (names others : List String) :
    e.get? (names ++ others) = (e.get? names).bind (·.get? others) := by
  induction names generalizing e with
  | nil => cases others <;> rfl
  | cons name names ih =>
    cases e with
    | file contents => rfl
    | link target => rfl
    | directory entries =>
      rw [List.cons_append, Entry.get?, Entry.get?]
      cases Entry.find? name entries with
      | none => rfl
      | some entry => exact ih entry

namespace Disk

/-- Names lead down to a file, if no link is on the way. -/
theorem walkFrom_names {d : Disk} {follow : Bool} (links : Nat) {names place : List String}
    {here : Entry} {contents : ByteArray} (hhere : d.root.get? place.reverse = some here)
    (hfile : here.get? names = some (.file contents)) :
    d.walkFrom follow links place (names.map .down) =
      .entry (place.reverse ++ names) (.file contents) := by
  induction names generalizing place here with
  | nil =>
    obtain rfl : here = .file contents := Option.some.inj hfile
    rw [List.map_nil, walkFrom, hhere, List.append_nil]
  | cons name names ih =>
    cases here with
    | file contents => cases hfile
    | link target => cases hfile
    | directory entries =>
      obtain ⟨entry, hentry, hrest⟩ := Option.bind_eq_some_iff.1 hfile
      have hplace : d.root.get? (name :: place).reverse = some entry := by
        rw [List.reverse_cons, Entry.get?_append, hhere, Option.bind_some, Entry.get?, hentry]
        cases entry <;> rfl
      rw [List.map_cons, walkFrom, hhere]
      cases entry with
      | link target => cases names <;> cases hrest
      | file contents => simp [hentry, ih hplace hrest]
      | directory entries => simp [hentry, ih hplace hrest]

/-- A path of names only is read where they lead. -/
theorem contents_of_names {d : Disk} {p : Path} {names : List String} {contents : ByteArray}
    (hsteps : p.steps = names.map .down) (habsolute : p.isAbsolute = true)
    (hnul : p.text.toList.any (·.toNat == 0) = false)
    (hshort : p.size < pathLimit)
    (hfile : d.root.get? names = some (.file contents)) : d.contents p = .ok contents := by
  have hwalk : d.walkFrom true maxLinks [] (names.map .down) = .entry names (.file contents) :=
    walkFrom_names maxLinks rfl hfile
  rw [Disk.contents, lookup, hnul, if_neg Bool.false_ne_true, if_neg (Nat.not_le.2 hshort),
    habsolute, if_pos rfl, hsteps, hwalk]

/-- The bytes of a text are read as the text. -/
theorem fromUTF8?_toUTF8 (text : String) : String.fromUTF8? text.toUTF8 = some text := by
  unfold String.fromUTF8?
  rw [dif_pos (by simpa using text.isValidUTF8)]
  rfl

/-- A file that is reached by names only holds what its text describes. -/
theorem load?_of_names {d : Disk} {parse : Elm.SourceParser} {p : Path} {names : List String}
    {text : String} {m : Elm.Module} (hsteps : p.steps = names.map .down)
    (habsolute : p.isAbsolute = true) (hnul : p.text.toList.any (·.toNat == 0) = false)
    (hshort : p.size < pathLimit)
    (hfile : d.root.get? names = some (.file text.toUTF8)) (hparse : parse text = .ok m) :
    d.load? parse p = some m :=
  load?_of_contents (contents_of_names hsteps habsolute hnul hshort hfile)
    (fromUTF8?_toUTF8 text) hparse

end Disk

end ElmAssist
