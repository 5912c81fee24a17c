/-
  Names of modules and files.

  A module name is cut at its dots to give a file, and a file at its slashes to give a
  name.  Only the first character of a part of a file path is looked at, so that such a part
  may hold dots itself: these become dots of the name, and then slashes of another file.

  * `moduleName?_eq_some_iff`: the files that have a name.
  * `components_candidate`: the components of the file that is tried for a name.
  * `moduleName?_modulePath`: the file of a module name has this name, and lies below its
    directory.
  * `same_modulePath_iff`: a file that has a name is the one that is tried for it iff no part
    of its path holds a dot.
-/
import ElmAssist.Proofs.Path.Bytes
import ElmAssist.Proofs.Project.Modules
import Mathlib.Data.List.Forall2

namespace ElmAssist

open ElmAssist.Path (Component)

/-! ## Capitals -/

theorem exists_cons_of_isCapitalized {s : String} (h : Text.isCapitalized s = true) :
    ∃ c rest, s.toList = c :: rest ∧ Text.isCapital c = true := by
  obtain ⟨c, hhead, hc⟩ := (Option.any_eq_true _ _).1 h
  obtain ⟨rest, hs⟩ := List.head?_eq_some_iff.1 hhead
  exact ⟨c, rest, hs, hc⟩

theorem ne_empty_of_isCapitalized {s : String} (h : Text.isCapitalized s = true) : s ≠ "" := by
  rintro rfl
  exact absurd h (by decide)

/-- The first segment of a capitalised text is not empty. -/
theorem exists_segment_of_isCapitalized {s : String} (h : Text.isCapitalized s = true) :
    ∃ segment ∈ Text.split '.' s, segment ≠ "" := by
  obtain ⟨c, rest, hs, hc⟩ := exists_cons_of_isCapitalized h
  have hdot : '.' ∉ [c] := by
    rw [List.mem_singleton]
    rintro rfl
    exact absurd hc (by decide)
  obtain ⟨piece, pieces, -, hsplit⟩ := Text.splitList_append_of_not_mem hdot rest
  refine ⟨String.ofList (c :: piece), ?_, by simp⟩
  rw [Text.split, hs, ← List.singleton_append, hsplit]
  exact List.mem_cons_self

/-- Capitalised texts have at least as many segments that are not empty. -/
theorem length_le_segments {parts : List String}
    (h : ∀ part ∈ parts, Text.isCapitalized part = true) :
    parts.length ≤ ((parts.flatMap (Text.split '.')).filter (· ≠ "")).length := by
  induction parts with
  | nil => exact Nat.le_refl 0
  | cons part parts ih =>
    rw [List.forall_mem_cons] at h
    obtain ⟨segment, hmem, hne⟩ := exists_segment_of_isCapitalized h.1
    have hpos : 0 < ((Text.split '.' part).filter (· ≠ "")).length :=
      List.length_pos_of_mem (List.mem_filter.2 ⟨hmem, by simpa using hne⟩)
    have hrest := ih h.2
    rw [List.flatMap_cons, List.filter_append, List.length_append, List.length_cons]
    omega

/-- A text that begins with a capitalised one is capitalised. -/
theorem isCapitalized_append {s : String} (h : Text.isCapitalized s = true) (t : String) :
    Text.isCapitalized (s ++ t) = true := by
  obtain ⟨c, rest, hs, hc⟩ := exists_cons_of_isCapitalized h
  simp [Text.isCapitalized, hs, hc]

theorem isCapitalized_intercalate {parts : List String} (hne : parts ≠ [])
    (h : ∀ part ∈ parts, Text.isCapitalized part = true) :
    Text.isCapitalized (".".intercalate parts) = true := by
  obtain ⟨first, rest, rfl⟩ := List.exists_cons_of_ne_nil hne
  have hfirst := h first List.mem_cons_self
  cases rest with
  | nil => simpa using hfirst
  | cons next rest =>
    rw [String.intercalate_cons_cons, String.append_assoc]
    exact isCapitalized_append hfirst _

/-! ## Names of files -/

/-- The components of a file below its source directory, for the parts of its name. -/
def fileComponents (front : List String) (last : String) : List Component :=
  (front.map Path.spell).map .name ++ [.name (Path.spell last ++ "." ++ sourceExtension)]

theorem map_text_name (names : List String) : (names.map Component.name).map (·.text) = names := by
  rw [List.map_map]
  exact List.map_id names

theorem spell_ne_empty {s : String} : Path.spell s ≠ "" ↔ s ≠ "" :=
  not_congr ⟨fun h => Path.spell_injective (h.trans rfl), fun h => by rw [h]; rfl⟩

/-- The parts of a name that a file gives: those that its path spells, the last one without
    the extension. -/
theorem moduleSegments?_eq_some_iff {components : List Component} {segments : List String} :
    moduleSegments? components = some segments ↔ ∃ before front last, last ≠ "" ∧
      components = before ++ [.name (Path.spell last ++ "." ++ sourceExtension)] ∧
      before.map (·.text) = front.map Path.spell ∧ segments = front ++ [last] := by
  constructor
  · intro h
    unfold moduleSegments? at h
    split at h
    · next name hlast =>
      obtain ⟨before, rfl⟩ := List.getLast?_eq_some_iff.1 hlast
      split at h
      · next stem ext hsplit =>
        split at h
        · next hext =>
          obtain ⟨hstem, -, hname⟩ := Path.splitExtension_eq_some_iff.1 hsplit
          rw [List.dropLast_concat, Path.mapM_textOf?_eq_some_iff] at h
          obtain ⟨front, back, rfl, hbefore, hback⟩ := List.map_eq_append_iff.1 h.symm
          obtain ⟨last, rfl, rfl⟩ := List.map_eq_singleton_iff.1 hback
          exact ⟨before, front, last, spell_ne_empty.1 hstem, by rw [hname, hext],
            hbefore.symm, rfl⟩
        · cases h
      · cases h
    · cases h
  · rintro ⟨before, front, last, hlast, rfl, hbefore, rfl⟩
    have hsplit : Path.splitExtension (Path.spell last ++ "." ++ sourceExtension) =
        (Path.spell last, some sourceExtension) :=
      Path.splitExtension_eq_some_iff.2 ⟨spell_ne_empty.2 hlast, by decide, rfl⟩
    have hparts : (before.map (·.text) ++ [Path.spell last]).mapM Path.textOf? =
        some (front ++ [last]) :=
      Path.mapM_textOf?_eq_some_iff.2 (by rw [hbefore, List.map_append]; rfl)
    simp [moduleSegments?, hsplit, hparts]

theorem moduleSegments?_fileComponents {front : List String} {last : String} (h : last ≠ "") :
    moduleSegments? (fileComponents front last) = some (front ++ [last]) :=
  moduleSegments?_eq_some_iff.2 ⟨_, front, last, h, rfl, map_text_name _, rfl⟩

/-- A component that spells a capitalised text is a name. -/
theorem eq_name_of_isCapitalized {c : Component} {part : String} (hc : c.text = Path.spell part)
    (h : Text.isCapitalized part = true) : c = .name c.text := by
  have hpart : ∀ s, Path.spell s = s → c.text = s → part = s := fun s hs hcs =>
    Path.spell_injective (by rw [← hc, hs, hcs])
  cases c with
  | root => rw [hpart "/" rfl rfl] at h; exact absurd h (by decide)
  | here => rw [hpart "." rfl rfl] at h; exact absurd h (by decide)
  | up => rw [hpart ".." rfl rfl] at h; exact absurd h (by decide)
  | name s => rfl

/-- **The files that have a name** lie below the directory, and all parts of their paths
    there are capitalised. -/
theorem moduleName?_eq_some_iff {dir file : Path} {m : String} :
    moduleName? dir file = some m ↔ ∃ front last,
      (∀ part ∈ front ++ [last], Text.isCapitalized part = true) ∧
      file.components = dir.components ++ fileComponents front last ∧
      m = ".".intercalate (front ++ [last]) := by
  unfold moduleName?
  constructor
  · intro h
    obtain ⟨components, hbelow, h⟩ := Option.bind_eq_some_iff.1 h
    obtain ⟨segments, hsegments, h⟩ := Option.bind_eq_some_iff.1 h
    obtain ⟨⟨⟩, hall, hm⟩ := Option.bind_eq_some_iff.1 h
    obtain ⟨before, front, last, -, rfl, hbefore, rfl⟩ := moduleSegments?_eq_some_iff.1 hsegments
    rw [Option.guard_eq_some', List.all_eq_true] at hall
    have hnames : before = (before.map (·.text)).map .name := by
      rw [List.map_map]
      refine (List.map_id before).symm.trans (List.map_congr_left fun c hc => ?_)
      have htext : c.text ∈ front.map Path.spell := hbefore ▸ List.mem_map_of_mem hc
      obtain ⟨part, hpart, hspell⟩ := List.mem_map.1 htext
      exact eq_name_of_isCapitalized hspell.symm (hall part (List.mem_append_left _ hpart))
    refine ⟨front, last, hall, ?_, (Option.some.inj hm).symm⟩
    rw [fileComponents, ← hbefore, ← hnames, List.isPrefixOf?_eq_some_iff_append_eq.1 hbelow]
  · rintro ⟨front, last, hall, hfile, rfl⟩
    have hbelow : file.below? dir = some (fileComponents front last) :=
      List.isPrefixOf?_eq_some_iff_append_eq.2 hfile.symm
    have hsegments : moduleSegments? (fileComponents front last) = some (front ++ [last]) :=
      moduleSegments?_fileComponents (ne_empty_of_isCapitalized (hall last (by simp)))
    refine Option.bind_eq_some_iff.2 ⟨_, hbelow, Option.bind_eq_some_iff.2 ⟨_, hsegments, ?_⟩⟩
    refine Option.bind_eq_some_iff.2 ⟨(), ?_, rfl⟩
    rw [Option.guard_eq_some', List.all_eq_true]
    exact hall

/-- Which name a file has depends on its components. -/
theorem moduleName?_congr (dir : Path) {file file' : Path} (h : file.same file' = true) :
    moduleName? dir file = moduleName? dir file' := by
  rw [Path.same_iff] at h
  rw [moduleName?, moduleName?, Path.below?, Path.below?, h]

/-! ## Files of names -/

theorem toList_moduleFile (m : String) : (moduleFile m).toList =
    m.toList.map (fun c => if c = '.' then '/' else c) ++ ['.', 'e', 'l', 'm'] := by
  simp [moduleFile, sourceExtension]

variable {m : String} {front : List String} {last : String}

/-- The file of a name is cut like the name; an empty segment is no component. -/
theorem components_moduleFile (hcap : Text.isCapitalized m = true) (hslash : '/' ∉ m.toList)
    (hsplit : Text.split '.' m = front ++ [last]) :
    (⟨moduleFile m⟩ : Path).components =
      (front.filter (· ≠ "")).map .name ++ [.name (last ++ "." ++ sourceExtension)] := by
  obtain ⟨pieces, lastPiece, hpieces, rfl, rfl⟩ : ∃ pieces lastPiece,
      Text.splitList '.' m.toList = pieces ++ [lastPiece] ∧ pieces.map String.ofList = front ∧
        String.ofList lastPiece = last := by
    obtain ⟨pieces, back, hpieces, hfront, hback⟩ := List.map_eq_append_iff.1 hsplit
    obtain ⟨lastPiece, rfl, hlast⟩ := List.map_eq_singleton_iff.1 hback
    exact ⟨pieces, lastPiece, hpieces, hfront, hlast⟩
  have hfile : (⟨moduleFile m⟩ : Path).pieces = pieces ++ [lastPiece ++ ['.', 'e', 'l', 'm']] := by
    rw [Path.pieces, toList_moduleFile]
    exact Text.splitList_append_right ((Text.splitList_map hslash).trans hpieces) (by decide)
  have hfront : pieces.filterMap Component.ofPiece? =
      ((pieces.map String.ofList).filter (· ≠ "")).map .name := by
    have hdot : ∀ piece ∈ pieces, '.' ∉ piece := fun piece hpiece =>
      Text.not_mem_of_mem_splitList (hpieces ▸ List.mem_append_left _ hpiece)
    clear hpieces hfile hsplit
    induction pieces with
    | nil => rfl
    | cons piece pieces ih =>
      have hpiece := Path.ofPiece?_of_not_mem (hdot piece List.mem_cons_self)
      rw [List.filterMap_cons, hpiece, ih fun q hq => hdot q (List.mem_cons_of_mem piece hq)]
      by_cases hempty : piece = []
      · simp [hempty]
      · simp [hempty]
  have hlast : 2 < (lastPiece ++ ['.', 'e', 'l', 'm']).length := by simp
  obtain ⟨c, rest, hm, hc⟩ := exists_cons_of_isCapitalized hcap
  have hne : c ≠ '/' ∧ c ≠ '.' := by
    constructor
    · rintro rfl; exact absurd hc (by decide)
    · rintro rfl; exact absurd hc (by decide)
  have hhead : (moduleFile m).toList.head? = some c := by
    rw [toList_moduleFile, hm, List.map_cons, if_neg hne.2]; rfl
  have hname : String.ofList (lastPiece ++ ['.', 'e', 'l', 'm']) =
      String.ofList lastPiece ++ "." ++ sourceExtension := by
    rw [String.ofList_append, String.append_assoc]; rfl
  rw [Path.components_eq_filterMap (p := ⟨moduleFile m⟩) hhead hne.1 hne.2, hfile,
    List.filterMap_append, hfront, List.filterMap_cons, Path.ofPiece?_of_two_lt hlast, hname]
  rfl

theorem components_modulePath (hcap : Text.isCapitalized m = true) (hslash : '/' ∉ m.toList)
    (hsplit : Text.split '.' m = front ++ [last]) :
    (modulePath m).components = fileComponents (front.filter (· ≠ "")) last := by
  have hlast : Path.spell (last ++ "." ++ sourceExtension) =
      Path.spell last ++ "." ++ sourceExtension := by
    rw [Path.spell_append, Path.spell_append]
    rfl
  rw [modulePath, Path.components_ofText, components_moduleFile hcap hslash hsplit, fileComponents,
    List.map_append, List.map_map, List.map_map, List.map_singleton, Component.spell, hlast]
  rfl

/-- **The file that is tried for a name** below a directory. -/
theorem components_candidate (dir : Path) (hcap : Text.isCapitalized m = true)
    (hslash : '/' ∉ m.toList) (hsplit : Text.split '.' m = front ++ [last]) :
    (dir.join (modulePath m)).components =
      dir.components ++ fileComponents (front.filter (· ≠ "")) last := by
  have hfile := components_modulePath hcap hslash hsplit
  obtain ⟨s, hhead⟩ : ∃ s, (modulePath m).components.head? = some (.name s) := by
    rw [hfile, fileComponents]
    cases front.filter (· ≠ "") with
    | nil => exact ⟨_, rfl⟩
    | cons first rest => exact ⟨_, rfl⟩
  have habsolute : (modulePath m).isAbsolute = false := by
    rw [Path.isAbsolute_eq, hhead]; rfl
  rw [Path.components_join habsolute (by rw [hhead]; exact nofun), hfile]

/-! ## From names to files and back -/

/-- The name of a module: its segments are capitalised, and none of them holds a slash. -/
def IsModuleName (m : String) : Prop :=
  ∀ segment ∈ Text.split '.' m, Text.isCapitalized segment = true ∧ '/' ∉ segment.toList

instance (m : String) : Decidable (IsModuleName m) :=
  inferInstanceAs (Decidable (∀ segment ∈ Text.split '.' m, _ ∧ _))

theorem exists_split_eq (m : String) : ∃ front last, Text.split '.' m = front ++ [last] :=
  (List.eq_nil_or_concat' _).resolve_left (Text.split_ne_nil '.' m)

namespace IsModuleName

/-- Capitalised texts without dots and slashes are the segments of a module name. -/
theorem intercalate {segments : List String} (hne : segments ≠ [])
    (hcap : ∀ segment ∈ segments, Text.isCapitalized segment = true)
    (hdot : ∀ segment ∈ segments, '.' ∉ segment.toList)
    (hslash : ∀ segment ∈ segments, '/' ∉ segment.toList) :
    IsModuleName (".".intercalate segments) := by
  rw [IsModuleName, Text.split_intercalate_of_not_mem hne hdot]
  exact fun segment hs => ⟨hcap segment hs, hslash segment hs⟩

theorem isCapitalized (h : IsModuleName m) : Text.isCapitalized m = true := by
  rw [← Text.intercalate_split m]
  exact isCapitalized_intercalate (Text.split_ne_nil '.' m) fun segment hs => (h segment hs).1

theorem not_mem (h : IsModuleName m) : '/' ∉ m.toList := by
  rw [← Text.intercalate_split m]
  exact Text.not_mem_intercalate (by decide) fun segment hs => (h segment hs).2

/-- The file of a module name has the segments of the name as its parts. -/
theorem components_candidate (h : IsModuleName m) (hsplit : Text.split '.' m = front ++ [last])
    (dir : Path) :
    (dir.join (modulePath m)).components = dir.components ++ fileComponents front last := by
  have hfront : front.filter (· ≠ "") = front := by
    rw [List.filter_eq_self]
    intro segment hs
    have hcap := (h segment (hsplit ▸ List.mem_append_left _ hs)).1
    simpa using ne_empty_of_isCapitalized hcap
  rw [ElmAssist.components_candidate dir h.isCapitalized h.not_mem hsplit, hfront]

/-- The file of a module name has this name. -/
theorem moduleName?_eq (h : IsModuleName m) (dir : Path) :
    moduleName? dir (dir.join (modulePath m)) = some m := by
  obtain ⟨front, last, hsplit⟩ := exists_split_eq m
  refine moduleName?_eq_some_iff.2 ⟨front, last, fun part hpart => ?_,
    h.components_candidate hsplit dir, ?_⟩
  · exact (h part (hsplit ▸ hpart)).1
  · rw [← hsplit, Text.intercalate_split]

theorem startsWith (h : IsModuleName m) (dir : Path) :
    (dir.join (modulePath m)).startsWith dir = true := by
  obtain ⟨front, last, hsplit⟩ := exists_split_eq m
  rw [Path.startsWith_iff, h.components_candidate hsplit]
  exact List.prefix_append _ _

theorem same_dir (h : IsModuleName m) (dir : Path) : (dir.join (modulePath m)).same dir = false := by
  obtain ⟨front, last, hsplit⟩ := exists_split_eq m
  rw [Path.same, h.components_candidate hsplit, fileComponents]
  simp

end IsModuleName

/-- **From a module name to its file and back.**  Below every directory, the file of a module
    name has this name.  The candidates of a project for the name are, in order, one for each
    source directory and then one for each dependency; each lies below its directory, and
    differs from the candidate there for any other module name. -/
theorem moduleName?_modulePath (project : Project) {m : String} (h : IsModuleName m) :
    (∀ dir, moduleName? dir (dir.join (modulePath m)) = some m) ∧
    List.Forall₂
      (fun dir c => c = dir.join (modulePath m) ∧ c.startsWith dir = true ∧ c.same dir = false)
      (project.sourceDirectories ++ project.dependencies.map (·.sourceDir))
      (project.candidates m) ∧
    ∀ m', IsModuleName m' → m' ≠ m →
      List.Forall₂ (fun c c' => c.same c' = false) (project.candidates m)
        (project.candidates m') := by
  refine ⟨h.moduleName?_eq, ?_, fun m' h' hne => ?_⟩
  · rw [Project.candidates, List.forall₂_map_right_iff, List.forall₂_same]
    exact fun dir _ => ⟨rfl, h.startsWith dir, h.same_dir dir⟩
  · rw [Project.candidates, Project.candidates, List.forall₂_map_left_iff,
      List.forall₂_map_right_iff, List.forall₂_same]
    intro dir _
    rw [Bool.eq_false_iff]
    intro hsame
    -- Files that are the same have the same name.
    have hname := moduleName?_congr dir hsame
    rw [h.moduleName?_eq, h'.moduleName?_eq, Option.some.injEq] at hname
    exact hne hname.symm

/-- Two modules of a project whose directories are spelled with more slashes than needed. -/
theorem moduleName?_modulePath_nested :
    let project : Project :=
      { manifest := ⟨"/w/elm.json"⟩
        kind := .application
        elmVersion := "0.19.1"
        sourceDirectories := [⟨"/w/src"⟩, ⟨"/w/lib/"⟩]
        dependencies := [⟨"elm/html", "1.0.0", ⟨"/cache//html"⟩⟩] }
    IsModuleName "Html.Attributes" ∧ IsModuleName "Main" ∧
      project.candidates "Html.Attributes" =
        [⟨"/w/src/Html/Attributes.elm"⟩, ⟨"/w/lib/Html/Attributes.elm"⟩,
          ⟨"/cache//html/src/Html/Attributes.elm"⟩] ∧
      moduleName? ⟨"/w/lib/"⟩ ⟨"/w/lib/Html/Attributes.elm"⟩ = some "Html.Attributes" ∧
      List.Forall₂ (fun c c' => c.same c' = false) (project.candidates "Html.Attributes")
        (project.candidates "Main") := by
  intro project
  have hattributes : IsModuleName "Html.Attributes" := by decide
  have hmain : IsModuleName "Main" := by decide
  obtain ⟨hname, -, hdiffer⟩ := moduleName?_modulePath project hattributes
  exact ⟨hattributes, hmain, by decide, hname ⟨"/w/lib/"⟩, hdiffer "Main" hmain (by decide)⟩

/-! ## From files to names and back -/

/-- The parts of the path of a source file below a directory: the names of the directories on
    the way and that of the file, without its extension. -/
def nameParts (dir file : Path) : List String :=
  ((file.below? dir).bind moduleSegments?).getD []

section

variable {dir file : Path}
  (hfile : file.components = dir.components ++ fileComponents front last)
include hfile

theorem nameParts_eq (hlast : last ≠ "") : nameParts dir file = front ++ [last] := by
  have hbelow : file.below? dir = some (fileComponents front last) :=
    List.isPrefixOf?_eq_some_iff_append_eq.2 hfile.symm
  rw [nameParts, hbelow, Option.bind_some, moduleSegments?_fileComponents hlast, Option.getD_some]

/-- No part of a path holds a slash. -/
theorem not_mem_part : ∀ part ∈ front ++ [last], '/' ∉ part.toList := by
  intro part hpart
  rw [← Path.mem_spell (by decide)]
  rcases List.mem_append.1 hpart with hpart | hpart
  · refine Path.not_mem_of_name_mem (p := file) ?_
    rw [hfile, fileComponents]
    exact List.mem_append_right _ (List.mem_append_left _
      (List.mem_map_of_mem (List.mem_map_of_mem hpart)))
  · obtain rfl := List.mem_singleton.1 hpart
    have hname : '/' ∉ (Path.spell part ++ "." ++ sourceExtension).toList := by
      refine Path.not_mem_of_name_mem (p := file) ?_
      rw [hfile, fileComponents]
      simp
    simp only [String.toList_append, List.mem_append, not_or] at hname
    exact hname.1.1

variable (hall : ∀ part ∈ front ++ [last], Text.isCapitalized part = true)
include hall

/-- The file that is tried for a name without further dots is the one that has it. -/
theorem same_of_not_mem (hdot : ∀ part ∈ front ++ [last], '.' ∉ part.toList) :
    (dir.join (modulePath (".".intercalate (front ++ [last])))).same file = true := by
  have hne : front ++ [last] ≠ [] := by simp
  have hsplit := Text.split_intercalate_of_not_mem hne hdot
  have hname : IsModuleName (".".intercalate (front ++ [last])) :=
    .intercalate hne hall hdot (not_mem_part hfile)
  rw [Path.same_iff, hname.components_candidate hsplit, hfile]

/-- If the file that is tried for a name in any directory is the one that has it, then no part
    of its path holds a dot. -/
theorem not_mem_of_same {other : Path}
    (hsame : (other.join (modulePath (".".intercalate (front ++ [last])))).same file = true) :
    ∀ part ∈ front ++ [last], '.' ∉ part.toList := by
  have hne : front ++ [last] ≠ [] := by simp
  have hslash : '/' ∉ (".".intercalate (front ++ [last])).toList :=
    Text.not_mem_intercalate (by decide) (not_mem_part hfile)
  obtain ⟨segments, lastSegment, hsplit⟩ := exists_split_eq (".".intercalate (front ++ [last]))
  rw [Path.same_iff, components_candidate other (isCapitalized_intercalate hne hall) hslash hsplit,
    hfile, fileComponents, fileComponents, ← List.append_assoc, ← List.append_assoc,
    List.append_singleton_inj] at hsame
  obtain ⟨hcomponents, hlast⟩ := hsame
  have hdot : ∀ segment ∈ segments ++ [lastSegment], '.' ∉ segment.toList := fun segment hs =>
    Text.not_mem_of_mem_split (hsplit ▸ hs)
  obtain rfl : lastSegment = last := by
    refine Path.spell_injective ?_
    simpa [String.append_left_inj] using hlast
  have hlastDot : '.' ∉ lastSegment.toList := hdot lastSegment (by simp)
  -- The last part is the last segment, so the other segments are those of the other parts.
  have hsegments : front.flatMap (Text.split '.') = segments := by
    rw [Text.split_intercalate, Text.split_of_not_mem hlastDot] at hsplit
    exact List.append_cancel_right hsplit
  have hlength : front.length ≤ (segments.filter (· ≠ "")).length := by
    rw [← hsegments]
    exact length_le_segments fun part hpart => hall part (List.mem_append_left _ hpart)
  -- There are no fewer of these, and both are the end of one list.
  have hsuffix : (front.map Path.spell).map Component.name <:+
      ((segments.filter (· ≠ "")).map Path.spell).map .name :=
    List.suffix_of_suffix_length_le ⟨dir.components, hcomponents.symm⟩ ⟨other.components, rfl⟩
      (by simpa only [List.length_map] using hlength)
  intro part hpart
  rcases List.mem_append.1 hpart with hpart | hpart
  · obtain ⟨name, hname, heq⟩ := List.mem_map.1
      (hsuffix.subset (List.mem_map_of_mem (List.mem_map_of_mem hpart)))
    obtain ⟨segment, hsegment, rfl⟩ := List.mem_map.1 hname
    obtain rfl := Path.spell_injective (Component.name.inj heq)
    exact hdot segment (List.mem_append_left _ (List.mem_filter.1 hsegment).1)
  · rw [List.mem_singleton.1 hpart]
    exact hlastDot

end

/-- A file that has a name is a candidate for it below some directories, one of which is its
    own, iff no part of its path holds a dot. -/
theorem exists_candidate_iff {dir file : Path} {m : String} {dirs : List Path}
    (h : moduleName? dir file = some m) (hdir : dir ∈ dirs) :
    (∃ c ∈ dirs.map (·.join (modulePath m)), c.same file = true) ↔
      ∀ part ∈ nameParts dir file, '.' ∉ part.toList := by
  obtain ⟨front, last, hall, hfile, rfl⟩ := moduleName?_eq_some_iff.1 h
  rw [nameParts_eq hfile (ne_empty_of_isCapitalized (hall last (by simp)))]
  constructor
  · rintro ⟨c, hc, hsame⟩
    obtain ⟨other, -, rfl⟩ := List.mem_map.1 hc
    exact not_mem_of_same hfile hall hsame
  · exact fun hdot => ⟨_, List.mem_map_of_mem hdir, same_of_not_mem hfile hall hdot⟩

/-- **From a file to its name and back.**  If a file below a directory has a name, then the
    file of this name there is the same one iff no part of its path holds a dot; the same
    condition tells, for a source directory of a project, whether any candidate of the
    project is this file.  So it does for the modules of a project, each of which is listed
    for a file below a source directory. -/
theorem same_modulePath_iff (project : Project) (disk : Disk) :
    (∀ dir file m, moduleName? dir file = some m →
      ((dir.join (modulePath m)).same file = true ↔
        ∀ part ∈ nameParts dir file, '.' ∉ part.toList) ∧
      (dir ∈ project.sourceDirectories →
        ((∃ c ∈ project.candidates m, c.same file = true) ↔
          ∀ part ∈ nameParts dir file, '.' ∉ part.toList))) ∧
    ∀ m ∈ project.workspaceModules disk, ∃ dir ∈ project.sourceDirectories, ∃ entries file,
      disk.directory? dir = some entries ∧ FileBelow sourcePattern.Enters dir entries file ∧
        moduleName? dir file = some m ∧
        ((∃ c ∈ project.candidates m, c.same file = true) ↔
          ∀ part ∈ nameParts dir file, '.' ∉ part.toList) := by
  refine ⟨fun dir file m h => ⟨?_, fun hdir => ?_⟩, fun m hm => ?_⟩
  · simpa using exists_candidate_iff h (List.mem_singleton_self dir)
  · exact exists_candidate_iff h (List.mem_append_left _ hdir)
  · obtain ⟨dir, hdir, entries, file, hentries, hbelow, hname⟩ := mem_workspaceModules.1 hm
    exact ⟨dir, hdir, entries, file, hentries, hbelow, hname,
      exists_candidate_iff hname (List.mem_append_left _ hdir)⟩

/-- A disk with two source files, the name of one of which holds a dot. -/
def dottedNameDisk : Disk :=
  { root := .directory
      [("s", .directory [("A.B.elm", .file "".toUTF8), ("Main.elm", .file "".toUTF8)])] }

/-- A project with these files. -/
def dottedNameProject : Project :=
  { manifest := ⟨"/elm.json"⟩
    kind := .application
    elmVersion := "0.19.1"
    sourceDirectories := [⟨"/s"⟩]
    dependencies := [] }

theorem directory?_dottedNameDisk : dottedNameDisk.directory? ⟨"/s"⟩ =
    some [("A.B.elm", .file "".toUTF8), ("Main.elm", .file "".toUTF8)] := by
  have hs : (⟨"/s"⟩ : Path).steps = [.down "s"] := by decide
  have ha : (⟨"/s"⟩ : Path).isAbsolute = true := by decide
  have hl : ¬ Disk.pathLimit ≤ (⟨"/s"⟩ : Path).size := by decide
  simp [Disk.directory?, Disk.lookup, hs, ha, hl, dottedNameDisk, Disk.walkFrom, Entry.get?,
    Entry.find?]

/-- Both are listed. -/
theorem mem_workspaceModules_dottedName (name : String) {m : String}
    (hname : name ∈ ["A.B.elm", "Main.elm"])
    (h : moduleName? ⟨"/s"⟩ ((⟨"/s"⟩ : Path).join ⟨name⟩) = some m) :
    m ∈ dottedNameProject.workspaceModules dottedNameDisk := by
  have hmem : (name, .file "".toUTF8) ∈
      [("A.B.elm", Entry.file "".toUTF8), ("Main.elm", .file "".toUTF8)] := by
    simpa using hname
  exact mem_workspaceModules.2 ⟨⟨"/s"⟩, List.mem_singleton_self _, _, _, directory?_dottedNameDisk,
    .here hmem, h⟩

/-- The file without a dot is tried for its name. -/
theorem same_modulePath_main :
    let dir : Path := ⟨"/s"⟩
    let file : Path := ⟨"/s/Main.elm"⟩
    moduleName? dir file = some "Main" ∧ (dir.join (modulePath "Main")).same file = true ∧
      (∃ c ∈ dottedNameProject.candidates "Main", c.same file = true) ∧
      ∃ dir ∈ dottedNameProject.sourceDirectories, ∃ file, moduleName? dir file = some "Main" := by
  intro dir file
  have hname : moduleName? dir file = some "Main" := by decide
  have hparts : ∀ part ∈ nameParts dir file, '.' ∉ part.toList := by decide
  have hlisted : "Main" ∈ dottedNameProject.workspaceModules dottedNameDisk :=
    mem_workspaceModules_dottedName "Main.elm" (by decide) (by decide)
  obtain ⟨hfile, hmodules⟩ := same_modulePath_iff dottedNameProject dottedNameDisk
  obtain ⟨hsame, hcandidate⟩ := hfile dir file "Main" hname
  obtain ⟨dir', hdir', entries, file', -, -, hname', -⟩ := hmodules "Main" hlisted
  exact ⟨hname, hsame.2 hparts, (hcandidate (List.mem_singleton_self dir)).2 hparts, dir', hdir',
    file', hname'⟩

/-- The other one is not, and the file that is tried for its name does not exist. -/
theorem dotted_name_not_tried :
    let dir : Path := ⟨"/s"⟩
    let file : Path := ⟨"/s/A.B.elm"⟩
    moduleName? dir file = some "A.B" ∧ (dir.join (modulePath "A.B")).same file = false ∧
      "A.B" ∈ dottedNameProject.workspaceModules dottedNameDisk ∧
      ∀ c ∈ dottedNameProject.candidates "A.B",
        c.same file = false ∧ dottedNameDisk.contents c = .error (.notFound c) := by
  intro dir file
  have hcandidates : dottedNameProject.candidates "A.B" = [⟨"/s/A/B.elm"⟩] := by decide
  refine ⟨by decide, by decide, ?_, ?_⟩
  · exact mem_workspaceModules_dottedName "A.B.elm" (by decide) (by decide)
  · rw [hcandidates, List.forall_mem_singleton]
    refine ⟨by decide, ?_⟩
    have hs : (⟨"/s/A/B.elm"⟩ : Path).steps = [.down "s", .down "A", .down "B.elm"] := by decide
    have ha : (⟨"/s/A/B.elm"⟩ : Path).isAbsolute = true := by decide
    have hl : ¬ Disk.pathLimit ≤ (⟨"/s/A/B.elm"⟩ : Path).size := by decide
    have hn : ¬ Disk.maxName < (Path.bytesOf "A").length := by decide
    simp [Disk.contents, Disk.lookup, hs, ha, hl, hn, dottedNameDisk, Disk.walkFrom, Entry.get?,
      Entry.find?]

end ElmAssist
