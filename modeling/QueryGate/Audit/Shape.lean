import QueryGate.Core.Exceptions
import QueryGate.Foundation.BoolTree
import QueryGate.Validation.References

/-! # The audit shape of a boolean tree

`_where_shape`: which combinator and which children the audit trail records for
a WHERE node. What it records for a predicate is a parameter.
-/

namespace QueryGate

open Foundation

/-- `bool(terms)` of an optional list of nodes. -/
def hasTerms : Option (List WhereNode) → Bool
  | none => false
  | some nodes => !nodes.isEmpty

theorem hasTerms_eq_truthyTerms (terms : Option (List WhereNode)) :
    hasTerms terms = truthyTerms terms := by
  cases terms <;> rfl

variable {α : Type}

mutual

/-- `_where_shape`. -/
def whereShape (predicateShape : Predicate → α) : WhereNode → Gate (BoolTree α)
  | .predicate pred => .ok (.leaf (predicateShape pred))
  | .group andTerms orTerms notTerms =>
      if hasTerms andTerms then do
        let terms ← termShapes predicateShape andTerms
        pure (.and terms)
      else if hasTerms orTerms then do
        let terms ← termShapes predicateShape orTerms
        pure (.or terms)
      else do
        let term ← optionShape predicateShape notTerms
        pure (.not term)
termination_by structural node => node

/-- The shapes of an optional list of nodes. -/
def termShapes (predicateShape : Predicate → α) : Option (List WhereNode) → Gate (List (BoolTree α))
  | none => .ok []
  | some nodes => nodeShapes predicateShape nodes
termination_by structural nodes => nodes

/-- The shapes of a list of nodes. -/
def nodeShapes (predicateShape : Predicate → α) : List WhereNode → Gate (List (BoolTree α))
  | [] => .ok []
  | node :: rest => do
      let shape ← whereShape predicateShape node
      let others ← nodeShapes predicateShape rest
      pure (shape :: others)
termination_by structural nodes => nodes

/-- The shape of the node under a negation; there is none to record where the
group has no field set. -/
def optionShape (predicateShape : Predicate → α) : Option WhereNode → Gate (BoolTree α)
  | none => .error ⟨.typeError, "Unsupported where node: NoneType"⟩
  | some node => whereShape predicateShape node
termination_by structural node => node

end

end QueryGate
