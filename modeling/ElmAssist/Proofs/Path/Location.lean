/-
  Where a path leads.

  `Path.location` follows the components of a path without looking at the disk: a name leads
  down, a `..` leads up and stays where nothing is above.  From a directory, a path that is
  not absolute comes to going up some directories and then down some names, its `Route`.

  * `location_join`: where a path leads from a directory.
  * `components_normalize`: normalizing keeps the names of the route, and a single `..` if the
    route leads up an odd number of directories.
  * `normalize_of_isAbsolute`: an absolute path is normal and leads to the same place.
  * `location_join_normalize_iff`: another path leads to the same place if its route leads up
    at most one directory.
-/
import ElmAssist.Path.Normal
import ElmAssist.Proofs.Path.Components

namespace ElmAssist.Path

/-! ## Places -/

/-- The place to which a component leads from a place.  Places are given by the names on the
    way from the root, last one first. -/
def Component.move (place : List String) : Component → List String
  | root => []
  | here => place
  | up => place.tail
  | name s => s :: place

/-- The place to which a path leads from the root. -/
def location (p : Path) : List String :=
  p.components.foldl Component.move []

/-- A way from a directory: up some directories, and then down some names, last one first. -/
structure Route where
  up : Nat := 0
  names : List String := []

namespace Route

/-- The way that goes on with a component.  A `..` takes the last name away, and leads one
    more directory up if there is none. -/
def step (r : Route) : Component → Route
  | .root | .here => r
  | .up =>
    match r.names with
    | [] => { r with up := r.up + 1 }
    | _ :: names => { r with names }
  | .name s => { r with names := s :: r.names }

/-- The place to which a way leads from a place. -/
def placeFrom (r : Route) (place : List String) : List String :=
  r.names ++ place.drop r.up

/-- What normalizing keeps of a way, last component first: each two `..` at its start cancel. -/
def kept (r : Route) : List Component :=
  r.names.map .name ++ if r.up % 2 = 1 then [.up] else []

variable {r : Route} {c : Component} {cs : List Component}

theorem placeFrom_step (hc : c ≠ .root) (r : Route) (place : List String) :
    (r.step c).placeFrom place = c.move (r.placeFrom place) := by
  obtain ⟨k, names⟩ := r
  cases c with
  | root => exact absurd rfl hc
  | here => rfl
  | name s => rfl
  | up =>
    cases names with
    | nil => exact List.tail_drop.symm
    | cons s names => rfl

theorem placeFrom_foldl (hcs : ∀ c ∈ cs, c ≠ .root) (r : Route) (place : List String) :
    (cs.foldl step r).placeFrom place = cs.foldl Component.move (r.placeFrom place) := by
  induction cs generalizing r with
  | nil => rfl
  | cons c cs ih =>
    rw [List.forall_mem_cons] at hcs
    rw [List.foldl_cons, List.foldl_cons, ih hcs.2, placeFrom_step hcs.1]

theorem kept_step {lead : List Component} (hlead : lead = [] ∨ lead = [.root]) (hc : c ≠ .root)
    (r : Route) : normalizeStep (r.kept ++ lead) c = (r.step c).kept ++ lead := by
  obtain ⟨k, names⟩ := r
  cases c with
  | root => exact absurd rfl hc
  | here => rfl
  | name s => rfl
  | up =>
    cases names with
    | cons s names => rfl
    | nil =>
      -- A `..` that was kept is taken away, and otherwise this one is kept.
      rcases Nat.mod_two_eq_zero_or_one k with hk | hk
      · have hk' : (k + 1) % 2 = 1 := by omega
        rcases hlead with rfl | rfl <;> simp [kept, step, hk, hk', normalizeStep]
      · have hk' : (k + 1) % 2 = 0 := by omega
        simp [kept, step, hk, hk', normalizeStep]

/-- **What normalizing keeps** depends on the way alone. -/
theorem kept_foldl {lead : List Component} (hlead : lead = [] ∨ lead = [.root])
    (hcs : ∀ c ∈ cs, c ≠ .root) (r : Route) :
    cs.foldl normalizeStep (r.kept ++ lead) = (cs.foldl step r).kept ++ lead := by
  induction cs generalizing r with
  | nil => rfl
  | cons c cs ih =>
    rw [List.forall_mem_cons] at hcs
    rw [List.foldl_cons, List.foldl_cons, kept_step hlead hcs.1, ih hcs.2]

theorem isPiece_of_mem_names (hcs : ∀ c ∈ cs, c.IsPiece)
    (hr : ∀ s ∈ r.names, (Component.name s).IsPiece) :
    ∀ s ∈ (cs.foldl step r).names, (Component.name s).IsPiece := by
  induction cs generalizing r with
  | nil => exact hr
  | cons c cs ih =>
    rw [List.forall_mem_cons] at hcs
    refine ih hcs.2 fun s hs => ?_
    obtain ⟨k, names⟩ := r
    cases c with
    | root => exact hr s hs
    | here => exact hr s hs
    | name t =>
      rcases List.mem_cons.1 hs with rfl | hs
      · exact hcs.1
      · exact hr s hs
    | up =>
      cases names with
      | nil => exact absurd hs List.not_mem_nil
      | cons t names => exact hr s (List.mem_cons_of_mem t hs)

theorem foldl_names (names : List String) (r : Route) :
    (names.map .name).foldl step r = { r with names := names.reverse ++ r.names } := by
  induction names generalizing r with
  | nil => rfl
  | cons s names ih => rw [List.map_cons, List.foldl_cons, ih]; simp [step]

theorem reverse_kept (r : Route) : r.kept.reverse =
    (if r.up % 2 = 1 then [.up] else []) ++ r.names.reverse.map .name := by
  rw [kept, List.reverse_append, List.map_reverse]
  split <;> rfl

theorem foldl_kept (r : Route) : r.kept.reverse.foldl step {} = ⟨r.up % 2, r.names⟩ := by
  rw [reverse_kept, List.foldl_append, foldl_names]
  rcases Nat.mod_two_eq_zero_or_one r.up with h | h <;> simp [h, step]

end Route

variable {b p : Path}

/-- The way of a path, from the root if it is absolute. -/
def route (p : Path) : Route :=
  p.components.foldl Route.step {}

theorem isPiece_of_mem_filterMap (p : Path) :
    ∀ c ∈ p.pieces.filterMap Component.ofPiece?, c.IsPiece := by
  intro c hc
  obtain ⟨piece, hpiece, hc⟩ := List.mem_filterMap.1 hc
  exact isPiece_of_mem_pieces hpiece hc

theorem route_eq (p : Path) :
    p.route = (p.pieces.filterMap Component.ofPiece?).foldl Route.step {} := by
  obtain ⟨lead, hlead, hp⟩ := components_eq_append p
  rw [route, hp, List.foldl_append]
  split at hlead
  · rw [hlead]; rfl
  · rcases hlead with rfl | rfl <;> rfl

theorem isPiece_of_mem_route (p : Path) : ∀ s ∈ p.route.names, (Component.name s).IsPiece := by
  rw [route_eq]
  exact Route.isPiece_of_mem_names p.isPiece_of_mem_filterMap fun s hs =>
    absurd hs List.not_mem_nil

/-- An absolute path leads to the names of its way. -/
theorem location_of_isAbsolute (h : p.isAbsolute = true) : p.location = p.route.names := by
  obtain ⟨lead, hlead, hp⟩ := components_eq_append p
  rw [h, if_pos rfl] at hlead
  have hplace := Route.placeFrom_foldl (fun c hc => (p.isPiece_of_mem_filterMap c hc).ne_root) {} []
  rw [← route_eq, Route.placeFrom, List.drop_nil, List.append_nil] at hplace
  rw [location, hp, hlead, hplace]
  rfl

/-- **From a directory, a path leads where its way does.** -/
theorem location_join (hb : b.isAbsolute = true) (hp : p.isAbsolute = false) :
    (b.join p).location = p.route.placeFrom b.location := by
  have hne : b.text ≠ "" := by
    intro htext
    rw [isAbsolute, htext] at hb
    cases hb
  rw [location, components_join_of_relative hne hp, List.foldl_append, route_eq,
    Route.placeFrom_foldl fun c hc => (p.isPiece_of_mem_filterMap c hc).ne_root]
  rfl

/-! ## Normal paths -/

def lead (p : Path) : List Component :=
  if p.isAbsolute then [.root] else []

theorem lead_cases (p : Path) : p.lead = [] ∨ p.lead = [.root] := by
  rw [lead]
  split
  · exact .inr rfl
  · exact .inl rfl

theorem normalize_eq (p : Path) : p.normalize = ofComponents (p.lead ++ p.route.kept.reverse) := by
  have hkept : p.components.foldl normalizeStep [] = p.route.kept ++ p.lead := by
    obtain ⟨first, hfirst, hp⟩ := components_eq_append p
    have hlead : first.foldl normalizeStep [] = ({} : Route).kept ++ p.lead := by
      unfold lead
      split at hfirst
      · next h => rw [hfirst, if_pos h]; rfl
      · next h => rw [if_neg h]; rcases hfirst with rfl | rfl <;> rfl
    rw [hp, List.foldl_append, hlead, Route.kept_foldl p.lead_cases
      fun c hc => (p.isPiece_of_mem_filterMap c hc).ne_root, ← route_eq]
  rw [normalize, normalizeComponents, hkept, List.reverse_append]
  rcases p.lead_cases with h | h <;> rw [h] <;> rfl

theorem isPiece_of_mem_kept (p : Path) : ∀ c ∈ p.route.kept.reverse, c.IsPiece := by
  intro c hc
  rw [Route.reverse_kept, List.mem_append] at hc
  rcases hc with hc | hc
  · split at hc
    · rw [List.mem_singleton.1 hc]; exact Component.isPiece_up
    · exact absurd hc List.not_mem_nil
  · obtain ⟨s, hs, rfl⟩ := List.mem_map.1 hc
    exact p.isPiece_of_mem_route s (List.mem_reverse.1 hs)

theorem components_normalize (p : Path) :
    p.normalize.components = p.lead ++ p.route.kept.reverse := by
  rw [normalize_eq]
  rcases p.lead_cases with h | h
  · rw [h]; exact components_ofComponents p.isPiece_of_mem_kept
  · rw [h]; exact components_ofComponents_root p.isPiece_of_mem_kept

theorem isAbsolute_normalize (p : Path) : p.normalize.isAbsolute = p.isAbsolute := by
  rw [isAbsolute_eq p.normalize, components_normalize, lead]
  cases p.isAbsolute with
  | true => rfl
  | false =>
    rw [if_neg Bool.false_ne_true, List.nil_append, beq_eq_false_iff_ne]
    intro h
    exact (p.isPiece_of_mem_kept _ (List.mem_of_mem_head? h)).ne_root rfl

theorem route_normalize (p : Path) : p.normalize.route = ⟨p.route.up % 2, p.route.names⟩ := by
  rw [route, components_normalize, List.foldl_append, ← Route.foldl_kept]
  rcases p.lead_cases with h | h <;> rw [h] <;> rfl

theorem normalize_normalize (p : Path) : p.normalize.normalize = p.normalize := by
  have hlead : p.normalize.lead = p.lead := by rw [lead, lead, isAbsolute_normalize]
  have hkept : p.normalize.route.kept = p.route.kept := by
    rw [route_normalize, Route.kept, Route.kept, Nat.mod_mod]
  rw [normalize_eq p.normalize, hlead, hkept, ← normalize_eq]

/-- A name behind a path stays where it is. -/
theorem components_normalize_join {q : Path} {name : String} (hq : q.components = [.name name])
    (p : Path) : (p.join q).normalize.components = p.normalize.components ++ [.name name] := by
  have hrelative : q.isAbsolute = false := by rw [isAbsolute_eq, hq]; rfl
  have hjoin : (p.join q).components = p.components ++ [.name name] := by
    rw [components_join hrelative (by simp [hq]), hq]
  have hlead : (p.join q).lead = p.lead := by
    rw [lead, lead, isAbsolute_eq, isAbsolute_eq, hjoin]
    cases p.components <;> rfl
  have hroute : (p.join q).route = p.route.step (.name name) := by
    rw [route, hjoin, List.foldl_append]
    rfl
  have hkept : (p.route.step (.name name)).kept = .name name :: p.route.kept := rfl
  rw [components_normalize, components_normalize, hlead, hroute, hkept, List.reverse_cons,
    List.append_assoc]

/-- A path with a name behind it is normal iff the path is. -/
theorem same_normalize_join {q : Path} {name : String} (hq : q.components = [.name name])
    (p : Path) : (p.join q).normalize.same (p.join q) = p.normalize.same p := by
  have hrelative : q.isAbsolute = false := by rw [isAbsolute_eq, hq]; rfl
  rw [Bool.eq_iff_iff, same_iff, same_iff, components_normalize_join hq,
    components_join hrelative (by simp [hq]), hq, List.append_cancel_right_eq]

theorem count_up_kept (r : Route) : r.kept.reverse.count .up ≤ 1 := by
  have hnames : (r.names.reverse.map Component.name).count .up = 0 := by
    rw [List.count_eq_zero, List.mem_map]
    rintro ⟨s, -, hs⟩
    cases hs
  rw [Route.reverse_kept, List.count_append, hnames]
  split <;> decide

/-- A `..` that is kept comes first. -/
theorem eq_zero_of_kept_up (r : Route) {i : Nat} (h : r.kept.reverse[i]? = some .up) : i = 0 := by
  have hnames : ∀ j : Nat, (r.names.reverse.map Component.name)[j]? ≠ some .up := by
    intro j hj
    rw [List.getElem?_map, Option.map_eq_some_iff] at hj
    obtain ⟨s, -, hs⟩ := hj
    cases hs
  rw [Route.reverse_kept] at h
  cases i with
  | zero => rfl
  | succ i =>
    split at h
    · rw [List.singleton_append, List.getElem?_cons_succ] at h
      exact absurd h (hnames i)
    · exact absurd h (hnames (i + 1))

/-- **An absolute path** is still absolute when it has been normalized, and leads to the same
    place.  It has no `.` any more, and at most one `..`, directly behind the root; and it is
    normal then. -/
theorem normalize_of_isAbsolute (p : Path) (h : p.isAbsolute = true) :
    p.normalize.isAbsolute = true ∧ p.normalize.location = p.location ∧
      .here ∉ p.normalize.components ∧ p.normalize.components.count .up ≤ 1 ∧
      (∀ i, p.normalize.components[i]? = some .up → i = 1) ∧
      p.normalize.normalize = p.normalize := by
  have habsolute : p.normalize.isAbsolute = true := by rw [isAbsolute_normalize, h]
  have hcomponents : p.normalize.components = .root :: p.route.kept.reverse := by
    rw [components_normalize, lead, if_pos h]; rfl
  refine ⟨habsolute, ?_, ?_, ?_, fun i hi => ?_, normalize_normalize p⟩
  · rw [location_of_isAbsolute habsolute, location_of_isAbsolute h, route_normalize]
  · rw [hcomponents, List.mem_cons]
    rintro (hhere | hhere)
    · cases hhere
    · exact (p.isPiece_of_mem_kept _ hhere).ne_here rfl
  · rw [hcomponents, List.count_cons_of_ne (by decide)]
    exact count_up_kept p.route
  · rw [hcomponents] at hi
    cases i with
    | zero => cases hi
    | succ i =>
      rw [List.getElem?_cons_succ] at hi
      rw [eq_zero_of_kept_up p.route hi]

/-- A path that leads above the root three times. -/
theorem normalize_of_isAbsolute_climbing :
    (⟨"/../../a/./../../b/c//../"⟩ : Path).isAbsolute = true ∧
      (⟨"/../../a/./../../b/c//../"⟩ : Path).normalize.components = [.root, .up, .name "b"] ∧
      (⟨"/../../a/./../../b/c//../"⟩ : Path).normalize.location =
        (⟨"/../../a/./../../b/c//../"⟩ : Path).location := by
  have habsolute : (⟨"/../../a/./../../b/c//../"⟩ : Path).isAbsolute = true := by decide
  exact ⟨habsolute, by decide, (normalize_of_isAbsolute _ habsolute).2.1⟩

/-! ## Paths that are not absolute -/

/-- **A path that is not absolute** leads to the same place from a directory when it has been
    normalized iff its way leads up at most one directory, or there are so few directories
    above that the root is reached all the same.  Otherwise it leads up one directory only if
    it did so an odd number of times, and else none. -/
theorem location_join_normalize_iff (b p : Path) (hb : b.isAbsolute = true)
    (hp : p.isAbsolute = false) :
    (b.join p.normalize).location = (b.join p).location ↔
      p.route.up ≤ 1 ∨ b.location.length ≤ p.route.up % 2 := by
  have hnormal : p.normalize.isAbsolute = false := by rw [isAbsolute_normalize, hp]
  have hplace : (b.join p).location = p.route.names ++ b.location.drop p.route.up :=
    location_join hb hp
  have hplaceNormal : (b.join p.normalize).location =
      p.route.names ++ b.location.drop (p.route.up % 2) := by
    rw [location_join hb hnormal, route_normalize, Route.placeFrom]
  rw [hplace, hplaceNormal, List.append_cancel_left_eq, List.drop_eq_drop_iff]
  omega

theorem location_join_normalize_sibling :
    (⟨"/a/b"⟩ : Path).isAbsolute = true ∧ (⟨"./c/../../d"⟩ : Path).isAbsolute = false ∧
      ((⟨"/a/b"⟩ : Path).join (normalize ⟨"./c/../../d"⟩)).location =
        ((⟨"/a/b"⟩ : Path).join ⟨"./c/../../d"⟩).location := by
  have hb : (⟨"/a/b"⟩ : Path).isAbsolute = true := by decide
  have hp : (⟨"./c/../../d"⟩ : Path).isAbsolute = false := by decide
  exact ⟨hb, hp, (location_join_normalize_iff _ _ hb hp).2 (.inl (by decide))⟩

/-- Two directories up: both are lost. -/
theorem location_lost_by_normalize :
    (⟨"/a/b"⟩ : Path).isAbsolute = true ∧ (⟨"../.."⟩ : Path).isAbsolute = false ∧
      ((⟨"/a/b"⟩ : Path).join (normalize ⟨"../.."⟩)).location ≠
        ((⟨"/a/b"⟩ : Path).join ⟨"../.."⟩).location := by
  decide

end ElmAssist.Path
