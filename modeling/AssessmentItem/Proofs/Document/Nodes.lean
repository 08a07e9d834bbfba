import AssessmentItem.Document.Node
import AssessmentItem.Proofs.Computation

/-!
# What a node of an expression is read from

The fields of a JSON object give a leaf or an operator its operands: names, literals, literals that
may be names, modes.  What each of them is written in is said here field by field, without the
reader; a node that is read is the one that is written.

## Main definitions

* `Json.Shows`, `Json.ShowsOr` : what a field shows, and what it shows if it may be missing.
* `Leaf.WrittenIn`, `Operator.WrittenIn` : a leaf and an operator with the fields of an object.

## Main results

* `writtenIn_of_readKind` : a node that is read has the name and the fields of the object.
-/

namespace AssessmentItem

open Json

/-! ### Fields -/

namespace Json

variable {α : Type}

/-- The `field` of an object shows the value `a` to a `view`. -/
def Shows (node : Json) (field : String) (view : Json → Option α) (a : α) : Prop :=
  ∃ v, node.field? field = some v ∧ view v = some a

/-- The `field` of an object shows `a` to a `view`, or it is missing and `a` is the `default`. -/
def ShowsOr (node : Json) (field : String) (view : Json → Option α) (default a : α) : Prop :=
  node.Shows field view a ∨ node.field? field = none ∧ a = default

end Json

section Fields

variable {α : Type} {node : Json} {field context : String} {view : Json → Option α} {a default : α}

theorem field?_of_readString {s : String} (h : readString node field context = .ok s) :
    node.field? field = some (.string s) := by
  unfold readString at h
  split at h
  · rename_i s' hfield
    rw [hfield, Except.ok.inj h]
  · cases h
  · cases h

theorem shows_of_readOptional {a : Option α} (h : readOptional node field context view = .ok a) :
    a = none ∧ node.field? field = none ∨ ∃ b, a = some b ∧ node.Shows field view b := by
  unfold readOptional at h
  split at h
  · rename_i hfield
    exact .inl ⟨(Except.ok.inj h).symm, hfield⟩
  · rename_i v hfield
    split at h
    · rename_i b hb
      exact .inr ⟨b, (Except.ok.inj h).symm, v, hfield, hb⟩
    · cases h

theorem shows_of_readField (h : readField node field context view = .ok a) :
    node.Shows field view a := by
  obtain ⟨a', ha', h⟩ := bind_eq_ok_iff.1 h
  rcases shows_of_readOptional ha' with ⟨rfl, -⟩ | ⟨b, rfl, hb⟩
  · cases h
  · cases h
    exact hb

theorem showsOr_of_readDefaulted (h : readDefaulted node field context default view = .ok a) :
    node.ShowsOr field view default a := by
  obtain ⟨a', ha', h⟩ := bind_eq_ok_iff.1 h
  rcases shows_of_readOptional ha' with ⟨rfl, hnone⟩ | ⟨b, rfl, hb⟩
  · cases h
    exact .inr ⟨hnone, rfl⟩
  · cases h
    exact .inl hb

end Fields

/-! ### Leaves and operators -/

/-- The leaf has the operands that are written in the fields of `node`. -/
def Leaf.WrittenIn (node : Json) : Leaf → Prop
  | baseValue s => ∃ t text, node.Shows "baseType" (asNamed? BaseType.ofName?) t ∧
      node.field? "value" = some (.string text) ∧ Scalar.read text t = .ok s
  | valueOf x | correctOf x | defaultOf x | mapResponse x | mapResponsePoint x =>
    node.field? "identifier" = some (.string x)
  | null => True
  | randomInteger min max step => node.ShowsOr "min" integerLiteral? (.given 0) min ∧
      node.Shows "max" integerLiteral? max ∧ node.ShowsOr "step" integerLiteral? (.given 1) step
  | randomFloat min max => node.ShowsOr "min" numberLiteral? (.given 0) min ∧
      node.Shows "max" numberLiteral? max
  | mathConstant c => node.Shows "name" (asNamed? MathConstant.ofName?) c

/-- The `mode` is written in the field `"roundingMode"`, or is `.significantFigures` without it. -/
def RoundingMode.WrittenIn (node : Json) (mode : RoundingMode) : Prop :=
  node.ShowsOr "roundingMode" (asNamed? RoundingMode.ofName?) .significantFigures mode

/-- The operator has the operands that are written in the fields of `node`. -/
def Operator.WrittenIn (node : Json) : Operator → Prop
  | index n => node.Shows "n" integerLiteral? n
  | fieldValue field => node.field? "fieldIdentifier" = some (.string field)
  | repeated times => node.Shows "numberRepeats" integerLiteral? times
  | record fields => node.Shows "fields" (asList? asText?) fields
  | anyN least most => node.Shows "min" integerLiteral? least ∧
      node.Shows "max" integerLiteral? most
  | substring caseSensitive => node.ShowsOr "caseSensitive" asBool? true caseSensitive
  | stringMatch caseSensitive anywhere => node.Shows "caseSensitive" asBool? caseSensitive ∧
      node.ShowsOr "substring" asBool? false anywhere
  | patternMatch pattern => node.field? "pattern" = some (.string pattern)
  | equal mode tolerances includesLower includesUpper =>
    node.ShowsOr "toleranceMode" (asNamed? ToleranceMode.ofName?) .exact mode ∧
      node.ShowsOr "tolerance" (asList? numberLiteral?) [] tolerances ∧
      node.ShowsOr "includeLowerBound" asBool? true includesLower ∧
      node.ShowsOr "includeUpperBound" asBool? true includesUpper
  | equalRounded mode figures | roundTo mode figures => mode.WrittenIn node ∧
      node.Shows "figures" integerLiteral? figures
  | inside area => node.Shows "shape" Area.ofJson? area
  | statistic s => node.Shows "name" (asNamed? Statistic.ofName?) s
  | math f => node.Shows "name" (asNamed? MathFunction.ofName?) f
  | _ => True

/-- The kind has the operands that are written in the fields of `node`. -/
def ExpressionKind.WrittenIn (node : Json) : ExpressionKind → Prop
  | leaf l => l.WrittenIn node
  | operator o => o.WrittenIn node

section Kinds

variable {name path : String} {node : Json}

theorem writtenIn_of_readLeaf {reading : Reading Leaf} (h : readLeaf? name node path = some reading)
    {l : Leaf} (hl : reading = .ok l) : l.name = name ∧ l.WrittenIn node := by
  unfold readLeaf? at h
  dsimp only at h
  split at h
  all_goals first | (cases h; done) | obtain rfl := Option.some.inj h
  -- The leaves that only name a variable.
  all_goals try
    obtain ⟨x, hx, rfl⟩ := map_eq_ok_iff.1 hl
    exact ⟨rfl, field?_of_readString hx⟩
  · obtain ⟨t, ht, hl⟩ := bind_eq_ok_iff.1 hl
    obtain ⟨text, htext, hl⟩ := bind_eq_ok_iff.1 hl
    split at hl
    · rename_i s hs
      cases hl
      exact ⟨rfl, t, text, shows_of_readField ht, field?_of_readString htext, hs⟩
    · cases hl
  · cases hl
    exact ⟨rfl, trivial⟩
  · obtain ⟨min, hmin, hl⟩ := bind_eq_ok_iff.1 hl
    obtain ⟨max, hmax, hl⟩ := bind_eq_ok_iff.1 hl
    obtain ⟨step, hstep, hl⟩ := bind_eq_ok_iff.1 hl
    cases hl
    exact ⟨rfl, showsOr_of_readDefaulted hmin, shows_of_readField hmax,
      showsOr_of_readDefaulted hstep⟩
  · obtain ⟨min, hmin, hl⟩ := bind_eq_ok_iff.1 hl
    obtain ⟨max, hmax, hl⟩ := bind_eq_ok_iff.1 hl
    cases hl
    exact ⟨rfl, showsOr_of_readDefaulted hmin, shows_of_readField hmax⟩
  · obtain ⟨c, hc, hl⟩ := bind_eq_ok_iff.1 hl
    cases hl
    exact ⟨rfl, shows_of_readField hc⟩

theorem writtenIn_of_readOperator {o : Operator} (h : readOperator name node path = .ok o) :
    o.name = name ∧ o.WrittenIn node := by
  unfold readOperator at h
  split at h
  -- Names that are not known, operators without operands of their own, and those with one.
  all_goals try first
    | (cases h; done)
    | (cases h; exact ⟨rfl, trivial⟩)
  all_goals try
    obtain ⟨a, ha, rfl⟩ := map_eq_ok_iff.1 h
    first
    | exact ⟨rfl, shows_of_readField ha⟩
    | exact ⟨rfl, field?_of_readString ha⟩
    | exact ⟨rfl, showsOr_of_readDefaulted ha⟩
  · obtain ⟨least, hleast, h⟩ := bind_eq_ok_iff.1 h
    obtain ⟨most, hmost, h⟩ := bind_eq_ok_iff.1 h
    cases h
    exact ⟨rfl, shows_of_readField hleast, shows_of_readField hmost⟩
  · obtain ⟨caseSensitive, hcase, h⟩ := bind_eq_ok_iff.1 h
    obtain ⟨anywhere, hanywhere, h⟩ := bind_eq_ok_iff.1 h
    cases h
    exact ⟨rfl, shows_of_readField hcase, showsOr_of_readDefaulted hanywhere⟩
  · obtain ⟨mode, hmode, h⟩ := bind_eq_ok_iff.1 h
    obtain ⟨tolerances, htolerances, h⟩ := bind_eq_ok_iff.1 h
    obtain ⟨includesLower, hlower, h⟩ := bind_eq_ok_iff.1 h
    obtain ⟨includesUpper, hupper, h⟩ := bind_eq_ok_iff.1 h
    cases h
    exact ⟨rfl, showsOr_of_readDefaulted hmode, showsOr_of_readDefaulted htolerances,
      showsOr_of_readDefaulted hlower, showsOr_of_readDefaulted hupper⟩
  all_goals
    obtain ⟨mode, hmode, h⟩ := bind_eq_ok_iff.1 h
    obtain ⟨figures, hfigures, h⟩ := bind_eq_ok_iff.1 h
    cases h
    exact ⟨rfl, showsOr_of_readDefaulted hmode, shows_of_readField hfigures⟩

/-- What `readKind` reads has the name and the operands that are written in `node`. -/
theorem writtenIn_of_readKind {kind : ExpressionKind} (h : readKind name node path = .ok kind) :
    kind.name = name ∧ kind.WrittenIn node := by
  unfold readKind at h
  split at h
  · rename_i reading hreading
    obtain ⟨l, hl, rfl⟩ := map_eq_ok_iff.1 h
    exact writtenIn_of_readLeaf hreading hl
  · obtain ⟨o, ho, rfl⟩ := map_eq_ok_iff.1 h
    exact writtenIn_of_readOperator ho

end Kinds

end AssessmentItem
