import AssessmentItem.Evaluation.Operand

/-!
# Scoring of responses

A mapping scores every distinct member of a response once.  An area mapping scores every area once
that is hit by a point, and the default for every point outside all areas.  The total is brought
within the bounds of the table.

## Main definitions

* `distinct` : the distinct members of a list.
* `scoreResponse`, `scorePoints` : the scores of a response.
-/

namespace AssessmentItem.Evaluation

/-- The members that differ from all members kept before them; `kept` are those already kept. -/
def distinctAfter (kept : List Scalar) : List Scalar → List Scalar
  | [] => []
  | s :: rest =>
    if kept.any fun t ↦ t == s then distinctAfter kept rest
    else s :: distinctAfter (kept ++ [s]) rest

/-- The distinct members of a list, in the order in which they first occur; they are compared by
`==`. -/
def distinct (members : List Scalar) : List Scalar := distinctAfter [] members

/-- The score of a response by `mapping`: of every distinct member once, clamped; a record has
none. -/
def scoreResponse (mapping : Mapping) (v : Value) : Except Fault Value := do
  let total ← match v with
    | .null => pure mapping.defaultScore
    | .single s => pure (mapping.score s)
    | .multiple c | .ordered c =>
      pure (((distinct c.members).map mapping.score).foldl (· + ·) 0)
    | .record _ => throw .recordResponse
  return .float (mapping.clamp total)

/-- The points of the response `identifier`; a member of another type is a fault. -/
def readPoints (identifier : String) (v : Value) : Except Fault (List (Int64 × Int64)) :=
  v.members.mapM fun
    | .point x y => .ok (x, y)
    | other => .error (.notPoint identifier other.baseType)

/-- The scores that points add up one after the other.  `hit` are the numbers of the areas hit
before. -/
def pointScores (defaultScore : Float) (entries : List (Nat × AreaEntry)) (hit : List Nat) :
    List (Int64 × Int64) → List Float
  | [] => []
  | (x, y) :: points =>
    let around := entries.filter fun e ↦ e.2.area.contains x y
    let fresh := around.filter fun e ↦ !hit.contains e.1
    let scores := if around.isEmpty then [defaultScore] else fresh.map fun e ↦ e.2.score
    scores ++ pointScores defaultScore entries (hit ++ fresh.map (·.1)) points

/-- The score of the response `identifier` by `mapping`: every area once, and `defaultScore` for
every point outside all of them. -/
def scorePoints (mapping : AreaMapping) (identifier : String) (v : Value) :
    Except Fault Value := do
  if v.isNull then return .float (mapping.clamp mapping.defaultScore)
  if v.cardinality? = some .record then throw .recordResponse
  let points ← readPoints identifier v
  let entries := mapping.entries.zipIdx.map fun e ↦ (e.2, e.1)
  let scores := pointScores mapping.defaultScore entries [] points
  return .float (mapping.clamp (scores.foldl (· + ·) 0))

end AssessmentItem.Evaluation
