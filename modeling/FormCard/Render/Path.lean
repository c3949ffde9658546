import FormCard.Decimal.Natural

/-!
# Paths of components

Forms are recognized from pass to pass by their paths, and this part of the renderer makes the
paths.  The path of a component joins the segments from the root of the card down to it.  A segment
is the id of the component; where siblings share an id, each of them has its position in its
segment.

Two things follow that are worth knowing.  Positions are those of the current pass, so a path stays
with a component only as long as its id is its own among its siblings.  And the root has the empty
path, so a component at the root with an empty id leaves no trace in the paths below it.  What paths
tell apart and what they do not is the subject of `FormCard.Proofs.Path`,
`FormCard.Proofs.Collision` and `FormCard.Proofs.Removal`.

Main statements: there is one path for each sibling (`length_siblingPaths`), and a sibling whose id
no other has is known by its id wherever it stands (`segment_of_count_le_one`).
-/

namespace FormCard

/-- The segment of the sibling at a position, among siblings with these ids. -/
def segment (ids : List String) (position : Nat) (id : String) : String :=
  if 1 < ids.count id then id ++ "@" ++ Decimal.text position else id

/-- The path of a segment below a parent; the root has the empty path. -/
def childPath (parent segment : String) : String :=
  if parent = "" then segment else parent ++ "/" ++ segment

/-- The paths of siblings below their parent, in order. -/
def siblingPaths (parent : String) (ids : List String) : List String :=
  ids.mapIdx fun position id => childPath parent (segment ids position id)

@[simp] theorem length_siblingPaths (parent : String) (ids : List String) :
    (siblingPaths parent ids).length = ids.length := by
  simp [siblingPaths]

theorem segment_of_count_le_one {ids : List String} {id : String} (h : ids.count id ≤ 1)
    (position : Nat) : segment ids position id = id := if_neg (by omega)

end FormCard
