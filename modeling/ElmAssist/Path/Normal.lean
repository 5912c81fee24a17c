/-
  Normal paths.

  `Path.normalize` removes `.` and resolves `..` without looking at the disk: a
  `..` takes away the component before it, and is kept only where there is none
  (at the start, or right behind the root).
-/
import ElmAssist.Path.Basic

namespace ElmAssist.Path

/-- Takes one component into account, given those kept so far, last one first.
    A `..` that was kept before is taken away by the next one like a name. -/
def normalizeStep (kept : List Component) (c : Component) : List Component :=
  match c with
  | .here => kept
  | .up =>
    match kept with
    | [] => [.up]
    | .root :: rest => .up :: .root :: rest
    | _ :: rest => rest
  | c => c :: kept

/-- The components that remain after resolving `.` and `..`. -/
def normalizeComponents (cs : List Component) : List Component :=
  (cs.foldl normalizeStep []).reverse

/-- The path without `.` and with `..` resolved where it can be. -/
def normalize (p : Path) : Path :=
  ofComponents (normalizeComponents p.components)

end ElmAssist.Path
