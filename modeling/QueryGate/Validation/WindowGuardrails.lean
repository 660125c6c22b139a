import QueryGate.Validation.PolicyAcceptance

/-! # Window guardrails

The caps on window functions, over every window call of the query tree. The
policy checks walk the window projections of each scope; a window call written
as an operand inside a projected expression is not among them. The guardrails
hold for an accepted query exactly when its operands fit in what the projections
leave over.
-/

namespace QueryGate

open Foundation

/-- The partition columns of a list of window calls. -/
def partitionColumns (calls : List WindowCall) : Int :=
  ((calls.flatMap fun call => call.over_.partitionBy).length : Nat)

/-- The window guardrails of a policy over every window call of a query tree. -/
structure WindowGuardrails (policy : Policy) (query : StructuredQuery) : Prop where
  count : ((windowCalls query).length : Int) ≤ policy.maxWindowSpecs
  partitions : partitionColumns (windowCalls query) +
    totalOver scopeTopNPartition (reachableQueries query) ≤ policy.maxPartitionBy
  offsets : ∀ call ∈ windowCalls query, ∀ offset ∈ call.offsets,
    offset ≤ policy.maxWindowFrameOffset
  noAggregate : policy.minGroupSize ≠ none →
    ∀ call ∈ windowCalls query, call.isAggregateWindow = false

/-- The call of a window projection. -/
def AstNode.windowItem? : AstNode → Option WindowCall
  | .window .selectItem call => some call
  | _ => none

/-- The call of a window operand. -/
def AstNode.windowOperand? : AstNode → Option WindowCall
  | .window .operand call => some call
  | _ => none

/-- The window calls written as select items. -/
def windowItems (query : StructuredQuery) : List WindowCall :=
  query.nodes.filterMap AstNode.windowItem?

/-- The window calls written as operands inside an expression. -/
def windowOperands (query : StructuredQuery) : List WindowCall :=
  query.nodes.filterMap AstNode.windowOperand?

/-- The operands fit in the caps that the window projections and top-n clauses
leave over, reach no further than the offset cap, and do not aggregate under a
k-anonymity floor. -/
structure WindowOperandsFit (policy : Policy) (query : StructuredQuery) : Prop where
  count : ((windowOperands query).length : Int) ≤
    policy.maxWindowSpecs - (windowItems query).length
  partitions : partitionColumns (windowOperands query) ≤ policy.maxPartitionBy -
    (partitionColumns (windowItems query) + totalOver scopeTopNPartition (reachableQueries query))
  offsets : ∀ call ∈ windowOperands query, ∀ offset ∈ call.offsets,
    offset ≤ policy.maxWindowFrameOffset
  noAggregate : policy.minGroupSize ≠ none →
    ∀ call ∈ windowOperands query, call.isAggregateWindow = false

/-- Each window call is written in one of the two spellings. -/
theorem windowCalls_perm_spellings (query : StructuredQuery) :
    (windowCalls query).Perm (windowItems query ++ windowOperands query) := by
  unfold windowCalls windowItems windowOperands
  induction query.nodes with
  | nil => exact List.Perm.refl _
  | cons node rest ih =>
      cases node with
      | query inner => exact ih
      | window spelling call =>
          cases spelling with
          | selectItem => exact ih.cons call
          | operand => exact (ih.cons call).trans List.perm_middle.symm

theorem partitionColumns_append (first second : List WindowCall) :
    partitionColumns (first ++ second) = partitionColumns first + partitionColumns second := by
  simp [partitionColumns]

theorem partitionColumns_perm {first second : List WindowCall} (perm : first.Perm second) :
    partitionColumns first = partitionColumns second := by
  unfold partitionColumns
  rw [(perm.flatMap_right _).length_eq]

/-- Narrowing to a purpose leaves the window caps and the floor alone. -/
theorem forPurpose_windowCaps (policy : Policy) (purpose : Option String) :
    (policy.forPurpose purpose).maxWindowSpecs = policy.maxWindowSpecs ∧
      (policy.forPurpose purpose).maxPartitionBy = policy.maxPartitionBy ∧
      (policy.forPurpose purpose).maxWindowFrameOffset = policy.maxWindowFrameOffset ∧
      (policy.forPurpose purpose).minGroupSize = policy.minGroupSize := by
  unfold Policy.forPurpose
  split
  · exact ⟨rfl, rfl, rfl, rfl⟩
  · exact ⟨rfl, rfl, rfl, rfl⟩

section Accepted

variable {context : RequestContext} {query : StructuredQuery} {policy effective : Policy}
  {connections : ScopeConnections}

/-- The window projections of an accepted query are those of its scopes. -/
theorem windowItems_perm (valid : query.validate = .ok ())
    (accepted : PolicyAccepted context query policy effective connections) :
    (windowItems query).Perm ((scopesOf query).flatMap scopeWindows) := by
  have listed := (StructuredQuery.nodes_perm_scopes valid).filterMap AstNode.windowItem?
  refine listed.trans (List.Perm.of_eq ?_)
  rw [List.filterMap_flatMap]
  refine List.flatMap_congr fun scope member => ?_
  rw [scopeNodes_eq_windows (accepted.hidesNoSubquery member), List.filterMap_cons,
    List.filterMap_append, List.filterMap_map, List.filterMap_map]
  simp only [AstNode.windowItem?, Function.comp_def, List.filterMap_some, List.filterMap_none,
    List.append_nil]

/-- The per-scope window rules hold for every window projection. -/
theorem checkWindow_of_windowItems (valid : query.validate = .ok ())
    (accepted : PolicyAccepted context query policy effective connections) {call : WindowCall}
    (member : call ∈ windowItems query) : checkWindow effective call = .ok () := by
  obtain ⟨scope, inside, item⟩ :=
    List.mem_flatMap.mp ((windowItems_perm valid accepted).mem_iff.mp member)
  have rules := accepted.scopes scope inside
  simp only [validateScope, checkScopeShape, bind_eq_ok_iff, checkAll_eq_ok_iff] at rules
  obtain ⟨_, ⟨_, _, _, _, _, windows, _⟩, _⟩ := rules
  exact windows call item

end Accepted

/-- `SELECT Orders.total / SUM(Orders.total) OVER () AS share FROM Orders`. -/
def shareOfTotal : StructuredQuery where
  fromTable := "Orders"
  select := [.expression (.binaryOp .div (.column "Orders.total")
    (.window { fn := .sum, over_ := {}, arg := some (.column "Orders.total") })) "share"]

/-- A policy with a k-anonymity floor and no window functions. -/
def flooredNoWindows : Policy where
  maxWindowSpecs := 0
  minGroupSize := some 5

/-- `SELECT RANK() OVER (ORDER BY Orders.total) AS place FROM Orders`. -/
def rankedOrders : StructuredQuery where
  fromTable := "Orders"
  select := [.window { fn := .rank, over_ := { orderBy := [{ col := "Orders.total" }] } } "place"]

end QueryGate
