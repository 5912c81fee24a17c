/-
  The components of a path.

  * `isAbsolute_eq`: a path is absolute iff its first component is the root.
  * `components_eq_filterMap`: the components of a path that begins with a name are those of
    its pieces.
  * `components_join`: a path that is joined to a directory adds its components.
  * `isAbsolute_parent`: the directory of an absolute path is absolute.
  * `components_ofComponents`: components that can stand between slashes are those of the path
    that they spell.
  * `splitExtension_eq_some_iff`: a file name ends in a dot and its extension.
-/
import ElmAssist.Path.Bytes
import ElmAssist.Proofs.Text.Split
import Mathlib.Data.List.DropRight

namespace ElmAssist.Path

variable {p q : Path}

/-! ## The first component -/

/-- A first piece that is not empty stands for a component below the root. -/
theorem exists_firstComponent {piece : List Char} (h : piece ≠ []) :
    ∃ first, (if piece = ['.'] then some Component.here else Component.ofPiece? piece) =
      some first ∧ first ≠ .root := by
  unfold Component.ofPiece?
  split
  · exact ⟨_, rfl, by simp⟩
  · next hdot =>
    rw [if_neg (not_or.2 ⟨h, hdot⟩)]
    split
    · exact ⟨_, rfl, by simp⟩
    · exact ⟨_, rfl, by simp⟩

/-- A path is absolute iff its first component is the root. -/
theorem isAbsolute_eq (p : Path) : p.isAbsolute = (p.components.head? == some .root) := by
  unfold isAbsolute components pieces
  cases p.text.toList with
  | nil => rfl
  | cons c rest =>
    rw [Text.splitList]
    cases hs : Text.splitList '/' rest with
    | nil => exact absurd hs (Text.splitList_ne_nil '/' rest)
    | cons piece pieces =>
      by_cases hc : c = '/'
      · simp [hc, componentsOfPieces]
      · obtain ⟨first, hcomp, hne⟩ := exists_firstComponent (List.cons_ne_nil c piece)
        rw [if_neg hc, componentsOfPieces, hcomp]
        · simp [beq_eq_false_iff_ne.2 hc, beq_eq_false_iff_ne.2 hne]
        · simp
        · simp

/-- The characters of names. -/
theorem any_components {P : Char → Bool} (hslash : P '/' = false) (hdot : P '.' = false)
    (p : Path) : p.components.any (·.text.toList.any P) = p.text.toList.any P := by
  have hpiece : ∀ piece : List Char,
      (Component.ofPiece? piece).any (·.text.toList.any P) = piece.any P := by
    intro piece
    unfold Component.ofPiece?
    split
    · next h => rcases h with rfl | rfl <;> simp [hdot]
    · split
      · next h => simp [h, hdot, Component.text]
      · simp [Component.text]
  have hpieces : ∀ pieces : List (List Char),
      (pieces.filterMap Component.ofPiece?).any (·.text.toList.any P) = pieces.any (·.any P) := by
    intro pieces
    induction pieces with
    | nil => rfl
    | cons piece pieces ih =>
      rw [List.any_cons, ← hpiece, ← ih, List.filterMap_cons]
      cases Component.ofPiece? piece <;> simp
  rw [← Text.any_splitList hslash]
  unfold components
  show _ = p.pieces.any _
  fun_cases componentsOfPieces p.pieces with
  | case1 => rfl
  | case2 => rfl
  | case3 pieces hne =>
    rw [List.any_cons, hpieces]
    simp [Component.text, hslash]
  | case4 first pieces hne hroot =>
    rw [List.any_append, hpieces]
    by_cases hfirst : first = ['.']
    · simp [hfirst, hdot, Component.text]
    · rw [if_neg hfirst, List.any_cons, ← hpiece first]
      cases Component.ofPiece? first <;> simp

/-! ## Pieces -/

theorem componentsOfPieces_root {rest : List (List Char)} (h : rest ≠ []) :
    componentsOfPieces ([] :: rest) = .root :: rest.filterMap Component.ofPiece? := by
  rw [componentsOfPieces]
  exact h

theorem componentsOfPieces_cons {first : List Char} (h : first ≠ []) (rest : List (List Char)) :
    componentsOfPieces (first :: rest) =
      (if first = ['.'] then some Component.here else Component.ofPiece? first).toList ++
        rest.filterMap Component.ofPiece? := by
  rw [componentsOfPieces]
  · exact fun hnil => absurd hnil h
  · exact fun hnil => absurd hnil h

/-- Pieces that begin with a name or a `..` are what each of them stands for. -/
theorem componentsOfPieces_of_ne {first : List Char} (hempty : first ≠ []) (hdot : first ≠ ['.'])
    (rest : List (List Char)) :
    componentsOfPieces (first :: rest) = (first :: rest).filterMap Component.ofPiece? := by
  rw [componentsOfPieces_cons hempty, if_neg hdot, List.filterMap_cons]
  cases Component.ofPiece? first <;> rfl

/-- A component other than the root is a leading `.` or what a piece stands for. -/
theorem mem_componentsOfPieces {pieces : List (List Char)} {c : Component}
    (h : c ∈ componentsOfPieces pieces) :
    c = .root ∨ c = .here ∨ ∃ piece ∈ pieces, Component.ofPiece? piece = some c := by
  cases pieces with
  | nil => cases h
  | cons first rest =>
    have hrest (hc : c ∈ rest.filterMap Component.ofPiece?) :
        ∃ piece ∈ first :: rest, Component.ofPiece? piece = some c := by
      obtain ⟨piece, hpiece, hc⟩ := List.mem_filterMap.1 hc
      exact ⟨piece, List.mem_cons_of_mem _ hpiece, hc⟩
    by_cases hfirst : first = []
    · subst hfirst
      by_cases hnil : rest = []
      · subst hnil; cases h
      · rw [componentsOfPieces_root hnil] at h
        exact (List.mem_cons.1 h).imp_right fun h => .inr (hrest h)
    · rw [componentsOfPieces_cons hfirst, List.mem_append, Option.mem_toList] at h
      rcases h with h | h
      · split at h
        · exact .inr (.inl (Option.some.inj h).symm)
        · exact .inr (.inr ⟨first, List.mem_cons_self, h⟩)
      · exact .inr (.inr (hrest h))

theorem eq_of_ofPiece?_eq_name {piece : List Char} {name : String}
    (h : Component.ofPiece? piece = some (.name name)) : name = String.ofList piece := by
  unfold Component.ofPiece? at h
  split at h
  · cases h
  · split at h
    · cases h
    · exact (Component.name.inj (Option.some.inj h)).symm

/-- A piece without dots stands for a name, unless it is empty. -/
theorem ofPiece?_of_not_mem {piece : List Char} (h : '.' ∉ piece) :
    Component.ofPiece? piece =
      if piece = [] then none else some (.name (String.ofList piece)) := by
  have hhere : piece ≠ ['.'] := by rintro rfl; exact h List.mem_cons_self
  have hup : piece ≠ ['.', '.'] := by rintro rfl; exact h List.mem_cons_self
  simp [Component.ofPiece?, hhere, hup]

/-- A piece of more than two characters stands for a name. -/
theorem ofPiece?_of_two_lt {piece : List Char} (h : 2 < piece.length) :
    Component.ofPiece? piece = some (.name (String.ofList piece)) := by
  have hempty : ¬(piece = [] ∨ piece = ['.']) := by rintro (rfl | rfl) <;> simp at h
  have hup : piece ≠ ['.', '.'] := by rintro rfl; simp at h
  rw [Component.ofPiece?, if_neg hempty, if_neg hup]

/-- **No name holds a slash.** -/
theorem not_mem_of_name_mem {name : String} (h : .name name ∈ p.components) :
    '/' ∉ name.toList := by
  rcases mem_componentsOfPieces h with h | h | ⟨piece, hpiece, h⟩
  · cases h
  · cases h
  · rw [eq_of_ofPiece?_eq_name h, String.toList_ofList]
    exact Text.not_mem_of_mem_splitList hpiece

/-- A path that begins with a name consists of what its pieces stand for. -/
theorem components_eq_filterMap {c : Char} (h : p.text.toList.head? = some c) (hslash : c ≠ '/')
    (hdot : c ≠ '.') : p.components = p.pieces.filterMap Component.ofPiece? := by
  obtain ⟨rest, hrest⟩ := List.head?_eq_some_iff.1 h
  have hnot : '/' ∉ [c] := by simpa using hslash.symm
  obtain ⟨piece, pieces, -, hpieces⟩ := Text.splitList_append_of_not_mem hnot rest
  rw [List.singleton_append, List.singleton_append, ← hrest] at hpieces
  have hfirst : c :: piece ≠ ['.'] := fun hself => hdot (List.cons.inj hself).1
  rw [components, Path.pieces, hpieces, componentsOfPieces_of_ne (List.cons_ne_nil _ _) hfirst]

/-! ## Joining -/

/-- Behind other pieces, pieces stand for what they stand for by themselves. -/
theorem componentsOfPieces_append {ps qs : List (List Char)} (hps : ps ≠ []) (hqs : qs ≠ []) :
    componentsOfPieces (ps ++ qs) =
      componentsOfPieces (ps ++ [[]]) ++ qs.filterMap Component.ofPiece? := by
  obtain ⟨first, rest, rfl⟩ := List.exists_cons_of_ne_nil hps
  have hnil : Component.ofPiece? [] = none := rfl
  rw [List.cons_append, List.cons_append]
  by_cases hfirst : first = []
  · subst hfirst
    rw [componentsOfPieces_root (by simp [hqs]), componentsOfPieces_root (by simp)]
    simp [hnil]
  · rw [componentsOfPieces_cons hfirst, componentsOfPieces_cons hfirst]
    simp [hnil]

/-- An empty piece behind others stands for nothing. -/
theorem componentsOfPieces_concat {pieces : List (List Char)} (h : pieces ≠ [[]]) :
    componentsOfPieces (pieces ++ [[]]) = componentsOfPieces pieces := by
  have hnil : Component.ofPiece? [] = none := rfl
  cases pieces with
  | nil => rfl
  | cons first rest =>
    rw [List.cons_append]
    by_cases hfirst : first = []
    · subst hfirst
      have hrest : rest ≠ [] := fun hrest => h (by rw [hrest])
      rw [componentsOfPieces_root hrest, componentsOfPieces_root (by simp)]
      simp [hnil]
    · rw [componentsOfPieces_cons hfirst, componentsOfPieces_cons hfirst]
      simp [hnil]

/-- **A path consists of what its pieces stand for**, behind the root if it is absolute, and
    else behind a leading `.` if it has one. -/
theorem components_eq_append (p : Path) : ∃ lead,
    (if p.isAbsolute then lead = [.root] else lead = [] ∨ lead = [.here]) ∧
      p.components = lead ++ p.pieces.filterMap Component.ofPiece? := by
  rw [isAbsolute_eq, components]
  obtain ⟨first, rest, hpieces⟩ := List.exists_cons_of_ne_nil
    (Text.splitList_ne_nil '/' p.text.toList)
  rw [pieces, hpieces]
  by_cases hfirst : first = []
  · subst hfirst
    by_cases hrest : rest = []
    · subst hrest; exact ⟨[], .inl rfl, rfl⟩
    · rw [componentsOfPieces_root hrest]; exact ⟨[.root], rfl, rfl⟩
  · by_cases hdot : first = ['.']
    · subst hdot; exact ⟨[.here], .inr rfl, componentsOfPieces_cons hfirst rest⟩
    · obtain ⟨c, hc, hne⟩ := exists_firstComponent hfirst
      rw [if_neg hdot] at hc
      rw [componentsOfPieces_of_ne hfirst hdot, List.filterMap_cons_some hc]
      exact ⟨[], by simp [hne], rfl⟩

/-- Joining a path that is not absolute adds what its pieces stand for. -/
theorem components_join_of_relative (hp : p.text ≠ "") (hq : q.isAbsolute = false) :
    (p.join q).components = p.components ++ q.pieces.filterMap Component.ofPiece? := by
  have hpieces : q.pieces ≠ [] := Text.splitList_ne_nil '/' q.text.toList
  unfold join
  rw [hq, if_neg Bool.false_ne_true]
  by_cases hslash : p.text.toList.getLast? = some '/'
  · obtain ⟨front, hfront⟩ := List.getLast?_eq_some_iff.1 hslash
    have hfrontPieces : p.pieces = Text.splitList '/' front ++ [[]] := by
      rw [pieces, hfront, Text.splitList_append]; rfl
    have hjoin : (⟨p.text ++ q.text⟩ : Path).pieces = Text.splitList '/' front ++ q.pieces := by
      rw [pieces, String.toList_append, hfront, List.append_assoc, List.singleton_append,
        Text.splitList_append]
      rfl
    rw [hslash, if_pos (by simp), components, hjoin,
      componentsOfPieces_append (Text.splitList_ne_nil '/' front) hpieces, ← hfrontPieces]
    rfl
  · have hne : p.pieces ≠ [] := Text.splitList_ne_nil '/' p.text.toList
    have hself : p.pieces ≠ [[]] := by
      intro hself
      have htext := Text.joinList_splitList '/' p.text.toList
      rw [show Text.splitList '/' p.text.toList = [[]] from hself] at htext
      exact hp (String.toList_eq_nil_iff.1 htext.symm)
    have hjoin : (⟨p.text ++ "/" ++ q.text⟩ : Path).pieces = p.pieces ++ q.pieces := by
      have htoList : (p.text ++ "/" ++ q.text).toList = p.text.toList ++ '/' :: q.text.toList := by
        simp
      rw [pieces, htoList, Text.splitList_append]
      rfl
    rw [if_neg (by simp [hp, hslash]), components, hjoin,
      componentsOfPieces_append hne hpieces, componentsOfPieces_concat hself]
    rfl

/-- **Joining** a path that is neither absolute nor begins with a `.` adds its components. -/
theorem components_join (habsolute : q.isAbsolute = false)
    (hhere : q.components.head? ≠ some .here) :
    (p.join q).components = p.components ++ q.components := by
  obtain ⟨lead, hlead, hq⟩ := components_eq_append q
  rw [habsolute, if_neg Bool.false_ne_true] at hlead
  obtain rfl | rfl := hlead
  · by_cases hp : p.text = ""
    · have hnil : p.components = [] := by rw [components, pieces, hp]; rfl
      rw [join, habsolute, hp, hnil, List.nil_append]
      simp
    · rw [components_join_of_relative hp habsolute, hq, List.nil_append]
  · rw [hq] at hhere
    exact absurd rfl hhere

theorem isAbsolute_join (h : p.isAbsolute = true) (q : Path) : (p.join q).isAbsolute = true := by
  have hhead : p.text.toList.head? = some '/' := by simpa [isAbsolute] using h
  unfold join
  split
  · assumption
  · split <;> simp [isAbsolute, String.toList_append, List.head?_append, hhead]

/-! ## Directories -/

theorem dropTrailing_eq (pieces : List (List Char)) :
    dropTrailing pieces = (pieces.zipIdx.rdropWhile fun (piece, i) => !countsAt i piece).map (·.1) := by
  rw [dropTrailing, List.rdropWhile, List.map_reverse]

theorem isPrefix_dropTrailing (pieces : List (List Char)) : dropTrailing pieces <+: pieces := by
  rw [dropTrailing_eq]
  simpa using (List.rdropWhile_prefix (fun (piece, i) => !countsAt i piece) pieces.zipIdx).map (·.1)

/-- The last piece that is kept stands for a component, so it is not empty. -/
theorem dropTrailing_ne (pieces : List (List Char)) : dropTrailing pieces ≠ [[]] := by
  rw [dropTrailing_eq]
  intro h
  obtain ⟨⟨piece, i⟩, hkept, rfl⟩ := List.map_eq_singleton_iff.1 h
  have hne : pieces.zipIdx.rdropWhile (fun (piece, i) => !countsAt i piece) ≠ [] := by simp [hkept]
  have hlast := List.rdropWhile_last_not _ _ hne
  simp only [hkept, List.getLast_singleton] at hlast
  exact hlast rfl

/-- **The directory** of an absolute path is absolute. -/
theorem isAbsolute_parent {dir : Path} (h : p.parent = some dir) (hp : p.isAbsolute = true) :
    dir.isAbsolute = true := by
  obtain ⟨rest, htext⟩ : ∃ rest, p.text.toList = '/' :: rest := by
    rw [← List.head?_eq_some_iff]
    simpa [isAbsolute] using hp
  have hpieces : p.pieces = [] :: Text.splitList '/' rest := by
    rw [pieces, htext, Text.splitList, if_pos rfl]
  have hprefix : dropTrailing (dropTrailing p.pieces).dropLast <+: [] :: Text.splitList '/' rest :=
    hpieces ▸ (isPrefix_dropTrailing _).trans
      ((List.dropLast_prefix _).trans (isPrefix_dropTrailing p.pieces))
  have hself := dropTrailing_ne (dropTrailing p.pieces).dropLast
  unfold parent at h
  split at h
  · cases h
  · split at h
    · rw [if_pos hp] at h
      rw [← Option.some.inj h]
      rfl
    · next hkept hne =>
      rw [← Option.some.inj h]
      cases hdir : dropTrailing (dropTrailing p.pieces).dropLast with
      | nil => exact absurd hdir hne
      | cons piece more =>
        rw [hdir] at hprefix hself
        obtain rfl : piece = [] := (List.cons_prefix_cons.1 hprefix).1
        cases more with
        | nil => exact absurd rfl hself
        | cons next more => simp [isAbsolute, Text.joinList]

/-! ## Spelling components -/

/-- A component that can stand between two slashes: a name or a `..`. -/
def Component.IsPiece (c : Component) : Prop :=
  '/' ∉ c.text.toList ∧ ofPiece? c.text.toList = some c

instance (c : Component) : Decidable c.IsPiece :=
  inferInstanceAs (Decidable (_ ∧ _))

theorem Component.IsPiece.ne_root {c : Component} (h : c.IsPiece) : c ≠ .root := by
  rintro rfl
  exact h.1 List.mem_cons_self

theorem Component.IsPiece.ne_here {c : Component} (h : c.IsPiece) : c ≠ .here := by
  rintro rfl
  cases h.2

theorem Component.isPiece_up : Component.up.IsPiece := by decide

/-- What a piece stands for is written like the piece. -/
theorem text_of_ofPiece?_eq_some {piece : List Char} {c : Component}
    (h : Component.ofPiece? piece = some c) : c.text.toList = piece := by
  unfold Component.ofPiece? at h
  split at h
  · cases h
  · split at h
    · next hup => rw [← Option.some.inj h, hup]; rfl
    · rw [← Option.some.inj h]; exact String.toList_ofList

/-- The pieces of a path stand for components that can stand between slashes. -/
theorem isPiece_of_mem_pieces {piece : List Char} (hpiece : piece ∈ p.pieces) {c : Component}
    (h : Component.ofPiece? piece = some c) : c.IsPiece := by
  rw [Component.IsPiece, text_of_ofPiece?_eq_some h]
  exact ⟨Text.not_mem_of_mem_splitList hpiece, h⟩

theorem filterMap_texts {cs : List Component} (h : ∀ c ∈ cs, c.IsPiece) :
    (cs.map (·.text.toList)).filterMap Component.ofPiece? = cs := by
  induction cs with
  | nil => rfl
  | cons c cs ih =>
    rw [List.forall_mem_cons] at h
    rw [List.map_cons, List.filterMap_cons_some h.1.2, ih h.2]

theorem splitList_texts {cs : List Component} (hne : cs ≠ []) (h : ∀ c ∈ cs, c.IsPiece) :
    Text.splitList '/' ("/".intercalate (cs.map (·.text))).toList = cs.map (·.text.toList) := by
  have hslash : "/".toList = ['/'] := rfl
  rw [String.toList_intercalate, hslash, List.map_map]
  refine Text.splitList_intercalate (by simpa using hne) fun piece hpiece => ?_
  obtain ⟨c, hc, rfl⟩ := List.mem_map.1 hpiece
  exact (h c hc).1

theorem ofComponents_of_isPiece {cs : List Component} (h : ∀ c ∈ cs, c.IsPiece) :
    ofComponents cs = ⟨"/".intercalate (cs.map (·.text))⟩ := by
  cases cs with
  | nil => rfl
  | cons c cs =>
    rw [ofComponents]
    exact fun rest hrest => (h c List.mem_cons_self).ne_root (List.cons.inj hrest).1

/-- **The path that components spell** has these components. -/
theorem components_ofComponents {cs : List Component} (h : ∀ c ∈ cs, c.IsPiece) :
    (ofComponents cs).components = cs := by
  rw [ofComponents_of_isPiece h, components, pieces]
  cases cs with
  | nil => rfl
  | cons c cs =>
    have hc := (h c List.mem_cons_self).2
    have hempty : c.text.toList ≠ [] := by intro he; rw [he] at hc; cases hc
    have hdot : c.text.toList ≠ ['.'] := by intro he; rw [he] at hc; cases hc
    have hmeant := filterMap_texts h
    rw [List.map_cons] at hmeant
    rw [splitList_texts (List.cons_ne_nil c cs) h, List.map_cons,
      componentsOfPieces_of_ne hempty hdot, hmeant]

theorem components_ofComponents_root {cs : List Component} (h : ∀ c ∈ cs, c.IsPiece) :
    (ofComponents (.root :: cs)).components = .root :: cs := by
  have htext : ("/" ++ "/".intercalate (cs.map (·.text))).toList =
      '/' :: ("/".intercalate (cs.map (·.text))).toList := by simp
  rw [ofComponents, components, pieces, htext, Text.splitList, if_pos rfl,
    componentsOfPieces_root (Text.splitList_ne_nil _ _)]
  cases cs with
  | nil => rfl
  | cons c cs => rw [splitList_texts (List.cons_ne_nil c cs) h, filterMap_texts h]

/-! ## Slashes at the start -/

/-- The path with the text `s` behind `n + 1` slashes. -/
def behindSlashes (n : Nat) (s : String) : Path :=
  ⟨String.ofList (List.replicate (n + 1) '/') ++ s⟩

theorem splitList_slashes (n : Nat) (cs : List Char) :
    Text.splitList '/' (List.replicate n '/' ++ cs) =
      List.replicate n [] ++ Text.splitList '/' cs := by
  induction n with
  | zero => rfl
  | succ n ih => simp [List.replicate_succ, Text.splitList, ih]

/-- Slashes at the start of a path count as one. -/
theorem components_behindSlashes (n : Nat) (s : String) :
    (behindSlashes n s).components =
      .root :: (Text.splitList '/' s.toList).filterMap Component.ofPiece? := by
  have hdrop : (List.replicate n ([] : List Char)).filterMap Component.ofPiece? = [] := by
    simp [Component.ofPiece?]
  rw [components, pieces, behindSlashes, String.toList_append, String.toList_ofList,
    splitList_slashes, List.replicate_succ, List.cons_append]
  cases hs : List.replicate n ([] : List Char) ++ Text.splitList '/' s.toList with
  | nil => exact absurd (List.append_eq_nil_iff.1 hs).2 (Text.splitList_ne_nil _ _)
  | cons piece rest =>
    rw [componentsOfPieces, ← hs, List.filterMap_append, hdrop, List.nil_append]
    exact fun h => by simp at h

theorem join_behindSlashes {n : Nat} {s : String} {c : Char} {q : Path}
    (hs : s.toList.getLast? = some c) (hc : c ≠ '/') (hq : q.isAbsolute = false) :
    (behindSlashes n s).join q = behindSlashes n (s ++ "/" ++ q.text) := by
  have hlast : (behindSlashes n s).text.toList.getLast? = some c := by
    rw [behindSlashes, String.toList_append, List.getLast?_append, hs]; rfl
  have hne : s ≠ "" := by rintro rfl; simp at hs
  have hemp : (behindSlashes n s).text.isEmpty = false := by simp [behindSlashes, hne]
  rw [join, hq, hemp, hlast]
  simp [hc, behindSlashes, String.append_assoc]

theorem join_slashes (n : Nat) {q : Path} (hq : q.isAbsolute = false) :
    (behindSlashes n "").join q = behindSlashes n q.text := by
  have hlast : (behindSlashes n "").text.toList.getLast? = some '/' := by
    simp [behindSlashes, List.getLast?_replicate]
  rw [join, hq, hlast, if_neg Bool.false_ne_true, if_pos (by simp)]
  simp [behindSlashes]

theorem size_behindSlashes (n : Nat) (s : String) :
    (behindSlashes n s).size = n + 1 + (⟨s⟩ : Path).size := by
  have hslashes : ∀ k, (bytesOf (String.ofList (List.replicate k '/'))).length = k := by
    intro k
    have hslash : charBytes '/' = [0x2F] := by decide
    rw [bytesOf, String.toList_ofList, List.flatMap_replicate, hslash, List.length_flatten]
    simp
  rw [size, bytes, behindSlashes, bytesOf_append, List.length_append, hslashes]
  rfl

theorem lt_size_behindSlashes (n : Nat) (s : String) :
    n < (behindSlashes n s).size := by
  rw [size_behindSlashes]
  omega

/-! ## Extensions -/

/-- **A file name with an extension** is a stem, a dot and the extension. -/
theorem splitExtension_eq_some_iff {name stem ext : String} :
    splitExtension name = (stem, some ext) ↔
      stem ≠ "" ∧ '.' ∉ ext.toList ∧ name = stem ++ "." ++ ext := by
  have hcut : Text.cutLast '.' name = some (stem, ext) ↔
      '.' ∉ ext.toList ∧ name = stem ++ "." ++ ext := by
    rw [Text.cutLast_eq_some_iff, and_comm, ← String.toList_inj]
    simp
  rw [← hcut, splitExtension]
  cases Text.cutLast '.' name with
  | none => simp
  | some parts =>
    obtain ⟨before, after⟩ := parts
    simp only [String.isEmpty_iff, Option.some.injEq, Prod.mk.injEq]
    by_cases hbefore : before = ""
    · rw [if_pos hbefore, hbefore]
      simp +contextual [eq_comm]
    · rw [if_neg hbefore]
      simp only [Prod.mk.injEq, Option.some.injEq]
      exact ⟨fun h => ⟨h.1 ▸ hbefore, h⟩, And.right⟩

end ElmAssist.Path
