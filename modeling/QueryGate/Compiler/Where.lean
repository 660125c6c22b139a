import QueryGate.Audit.Shape
import QueryGate.Compiler.Expressions
import QueryGate.Validation.ScopeCoverage

/-! # What a compiled condition means

A boolean tree of the AST is read as a `BoolTree` over its predicates; the
compiled condition is one over its leaf tests. The predicate walk, the depth
measure and the audit shape all agree with the reading. The compiled condition
does where no group carries an empty `and` list beside two or more `or` terms:
there the compiler takes the children from `or` and the combinator from `and`.
-/

namespace QueryGate

open Foundation

mutual

/-- A boolean tree as it is written: each group has the one field that is set. -/
def WhereNode.reading : WhereNode → BoolTree Predicate
  | .predicate pred => .leaf pred
  | .group andTerms orTerms notTerms =>
      match notTerms with
      | some node => .not node.reading
      | none =>
          if truthyTerms andTerms then .and (termReadings andTerms) else .or (termReadings orTerms)
termination_by structural node => node

/-- The readings of an optional list of terms. -/
def termReadings : Option (List WhereNode) → List (BoolTree Predicate)
  | none => []
  | some nodes => nodeReadings nodes
termination_by structural nodes => nodes

/-- The readings of a list of terms. -/
def nodeReadings : List WhereNode → List (BoolTree Predicate)
  | [] => []
  | node :: rest => node.reading :: nodeReadings rest
termination_by structural nodes => nodes

end

mutual

/-- The tree the compiler builds: an `and` list that is present, even empty, makes
the group a conjunction. -/
def WhereNode.rendering : WhereNode → BoolTree Predicate
  | .predicate pred => .leaf pred
  | .group andTerms orTerms notTerms =>
      match notTerms with
      | some node => .not node.rendering
      | none =>
          let terms := if truthyTerms andTerms then termRenderings andTerms
            else termRenderings orTerms
          if andTerms.isSome then .and terms else .or terms
termination_by structural node => node

/-- The trees the compiler builds for an optional list of terms. -/
def termRenderings : Option (List WhereNode) → List (BoolTree Predicate)
  | none => []
  | some nodes => nodeRenderings nodes
termination_by structural nodes => nodes

/-- The trees the compiler builds for a list of terms. -/
def nodeRenderings : List WhereNode → List (BoolTree Predicate)
  | [] => []
  | node :: rest => node.rendering :: nodeRenderings rest
termination_by structural nodes => nodes

end

/-- The predicate a compiled test comes from. -/
def SqlCondition.origin? : SqlCondition → Option Predicate
  | .test origin _ _ => some origin
  | _ => none

mutual

/-- The boolean structure of a compiled condition over its leaf conditions. -/
def SqlCondition.tree : SqlCondition → BoolTree SqlCondition
  | .and terms => .and (conditionTrees terms)
  | .or terms => .or (conditionTrees terms)
  | .not term => .not term.tree
  | .test origin operands subselect => .leaf (.test origin operands subselect)
  | .equal left right => .leaf (.equal left right)
  | .rowFilter source column value => .leaf (.rowFilter source column value)
  | .countAtLeast floor => .leaf (.countAtLeast floor)
  | .always => .leaf .always
termination_by structural condition => condition

/-- The boolean structure of a list of conditions. -/
def conditionTrees : List SqlCondition → List (BoolTree SqlCondition)
  | [] => []
  | condition :: rest => condition.tree :: conditionTrees rest
termination_by structural conditions => conditions

end

/-- A compiled predicate is a test of that predicate. -/
theorem compilePredicate_eq_ok {adapter : DialectAdapter} {tables : Tables} {aliasMap : AliasMap}
    {ctx : Option WhereCtx} {index : Nat} {pred : Predicate} {condition : SqlCondition}
    (compiled : compilePredicate adapter tables aliasMap ctx index pred = .ok condition) :
    ∃ operands subselect, condition = .test pred operands subselect := by
  obtain ⟨col, expr, colFn, op, value, valueCol, valueExpr, valueSubquery, existsSubquery⟩ := pred
  rw [compilePredicate] at compiled
  split at compiled
  · unfold compileExists at compiled
    split at compiled
    · cases compiled
    · split at compiled
      · cases compiled
      · rw [bind_eq_ok_iff] at compiled
        obtain ⟨statement, _, returned⟩ := compiled
        cases returned
        exact ⟨_, _, rfl⟩
  · rw [bind_eq_ok_iff] at compiled
    obtain ⟨target, _, compiled⟩ := compiled
    split at compiled
    · rw [bind_eq_ok_iff] at compiled
      obtain ⟨subselect, _, returned⟩ := compiled
      cases returned
      exact ⟨_, _, rfl⟩
    · rw [bind_eq_ok_iff] at compiled
      obtain ⟨operand, _, returned⟩ := compiled
      cases returned
      exact ⟨_, _, rfl⟩

section Rendering

variable (adapter : DialectAdapter) (tables : Tables) (aliasMap : AliasMap) (ctx : Option WhereCtx)

mutual

/-- The compiled condition is the rendering, leaf by leaf. -/
theorem compileWhere_tree :
    ∀ (node : WhereNode) (index : Nat) (condition : SqlCondition),
      compileWhere adapter tables aliasMap ctx index node = .ok condition →
      condition.tree.map SqlCondition.origin? = node.rendering.map some
  | .predicate pred => fun index condition compiled => by
      rw [compileWhere] at compiled
      obtain ⟨operands, subselect, rfl⟩ := compilePredicate_eq_ok compiled
      rfl
  | .group andTerms orTerms (some node) => fun index condition compiled => by
      rw [compileWhere, bind_eq_ok_iff] at compiled
      obtain ⟨term, compiledTerm, returned⟩ := compiled
      cases returned
      rw [SqlCondition.tree, BoolTree.map, WhereNode.rendering, BoolTree.map,
        compileWhere_tree node index term compiledTerm]
  | .group andTerms orTerms none => fun index condition compiled => by
      rw [compileWhere, bind_eq_ok_iff] at compiled
      obtain ⟨terms, compiledTerms, returned⟩ := compiled
      cases returned
      have same : BoolTree.listMap SqlCondition.origin? (conditionTrees terms) =
          BoolTree.listMap some (if truthyTerms andTerms then termRenderings andTerms
            else termRenderings orTerms) := by
        by_cases truthy : truthyTerms andTerms = true
        · simp only [truthy, ↓reduceIte] at compiledTerms ⊢
          exact compileTerms_trees andTerms index terms compiledTerms
        · simp only [truthy] at compiledTerms ⊢
          exact compileTerms_trees orTerms index terms compiledTerms
      rw [WhereNode.rendering]
      by_cases present : andTerms.isSome = true
      · simp only [present, ↓reduceIte, SqlCondition.tree, BoolTree.map, same]
      · simp only [present, Bool.false_eq_true, ↓reduceIte, SqlCondition.tree, BoolTree.map, same]
termination_by structural node => node

theorem compileTerms_trees :
    ∀ (nodes : Option (List WhereNode)) (index : Nat) (terms : List SqlCondition),
      compileTerms adapter tables aliasMap ctx index nodes = .ok terms →
      BoolTree.listMap SqlCondition.origin? (conditionTrees terms) =
        BoolTree.listMap some (termRenderings nodes)
  | none => fun index terms compiled => by
      rw [compileTerms] at compiled
      cases compiled
      rfl
  | some nodes => fun index terms compiled => by
      rw [compileTerms] at compiled
      rw [termRenderings]
      exact compileNodes_trees nodes index terms compiled
termination_by structural nodes => nodes

theorem compileNodes_trees :
    ∀ (nodes : List WhereNode) (index : Nat) (terms : List SqlCondition),
      compileNodes adapter tables aliasMap ctx index nodes = .ok terms →
      BoolTree.listMap SqlCondition.origin? (conditionTrees terms) =
        BoolTree.listMap some (nodeRenderings nodes)
  | [] => fun index terms compiled => by
      rw [compileNodes] at compiled
      cases compiled
      rfl
  | node :: rest => fun index terms compiled => by
      simp only [compileNodes, bind_eq_ok_iff] at compiled
      obtain ⟨term, compiledTerm, others, compiledOthers, returned⟩ := compiled
      cases returned
      rw [conditionTrees, BoolTree.listMap, nodeRenderings, BoolTree.listMap,
        compileWhere_tree node index term compiledTerm,
        compileNodes_trees rest _ others compiledOthers]
termination_by structural nodes => nodes

end

end Rendering

section Visitors

mutual

/-- The predicate walk yields the leaves of the reading. -/
theorem leaves_reading : ∀ node : WhereNode, node.reading.leaves = iterWherePredicates node
  | .predicate pred => by rw [WhereNode.reading, BoolTree.leaves, iterWherePredicates]
  | .group andTerms orTerms (some node) => by
      rw [WhereNode.reading, BoolTree.leaves, iterWherePredicates, leaves_reading node]
  | .group andTerms orTerms none => by
      rw [WhereNode.reading, iterWherePredicates]
      by_cases truthy : truthyTerms andTerms = true
      · simp only [truthy, ↓reduceIte, BoolTree.leaves]
        exact leaves_termReadings andTerms
      · simp only [truthy, Bool.false_eq_true, ↓reduceIte, BoolTree.leaves]
        exact leaves_termReadings orTerms
termination_by structural node => node

theorem leaves_termReadings : ∀ nodes : Option (List WhereNode),
    BoolTree.listLeaves (termReadings nodes) = termPredicates nodes
  | none => rfl
  | some nodes => by
      rw [termReadings, termPredicates]
      exact leaves_nodeReadings nodes
termination_by structural nodes => nodes

theorem leaves_nodeReadings : ∀ nodes : List WhereNode,
    BoolTree.listLeaves (nodeReadings nodes) = nodePredicates nodes
  | [] => rfl
  | node :: rest => by
      rw [nodeReadings, BoolTree.listLeaves, nodePredicates, leaves_reading node,
        leaves_nodeReadings rest]
termination_by structural nodes => nodes

end

mutual

/-- The depth measure is the depth of the reading. -/
theorem depthFrom_reading : ∀ (node : WhereNode) (depth : Nat),
    node.reading.depthFrom depth = whereDepthFrom depth node
  | .predicate pred, depth => by rw [WhereNode.reading, BoolTree.depthFrom, whereDepthFrom]
  | .group andTerms orTerms (some node), depth => by
      rw [WhereNode.reading, BoolTree.depthFrom, whereDepthFrom, depthFrom_reading node]
  | .group andTerms orTerms none, depth => by
      rw [WhereNode.reading, whereDepthFrom]
      by_cases truthy : truthyTerms andTerms = true
      · simp only [truthy, ↓reduceIte, BoolTree.depthFrom]
        exact depth_termReadings andTerms depth
      · simp only [truthy, Bool.false_eq_true, ↓reduceIte, BoolTree.depthFrom]
        exact depth_termReadings orTerms depth
termination_by structural node => node

theorem depth_termReadings : ∀ (nodes : Option (List WhereNode)) (depth : Nat),
    BoolTree.listDepth depth (termReadings nodes) = termDepth depth nodes
  | none, depth => rfl
  | some nodes, depth => by
      rw [termReadings, termDepth]
      exact depth_nodeReadings nodes depth
termination_by structural nodes => nodes

theorem depth_nodeReadings : ∀ (nodes : List WhereNode) (depth : Nat),
    BoolTree.listDepth depth (nodeReadings nodes) = nodeDepths depth nodes
  | [], depth => rfl
  | node :: rest, depth => by
      rw [nodeReadings, BoolTree.listDepth, nodeDepths, depthFrom_reading node,
        depth_nodeReadings rest]
termination_by structural nodes => nodes

end

variable {α : Type} (predicateShape : Predicate → α)

mutual

/-- The audit shape of an accepted tree is its reading. -/
theorem whereShape_eq_reading : ∀ node : WhereNode, node.validate = .ok () →
    whereShape predicateShape node = .ok (node.reading.map predicateShape)
  | .predicate pred => fun _ => by rw [whereShape, WhereNode.reading, BoolTree.map]
  | .group andTerms orTerms (some node) => fun valid => by
      simp only [WhereNode.validate, seq_eq_ok_iff] at valid
      obtain ⟨_, _, validNot, one⟩ := valid
      obtain ⟨_, _, ands, ors⟩ | ⟨absurd, _⟩ | ⟨absurd, _⟩ := exactlyOneBoolean_cases one
      · rw [validateOptionNode] at validNot
        rw [whereShape, hasTerms_eq_truthyTerms, hasTerms_eq_truthyTerms]
        simp only [ands, ors, Bool.false_eq_true, ↓reduceIte]
        rw [optionShape, whereShape_eq_reading node validNot, WhereNode.reading, BoolTree.map]
        rfl
      · cases absurd
      · cases absurd
  | .group andTerms orTerms none => fun valid => by
      simp only [WhereNode.validate, seq_eq_ok_iff] at valid
      obtain ⟨validAnd, validOr, _, one⟩ := valid
      rw [whereShape, hasTerms_eq_truthyTerms, hasTerms_eq_truthyTerms, WhereNode.reading]
      obtain ⟨_, absurd, _⟩ | ⟨_, ands, ors⟩ | ⟨_, ands, ors⟩ := exactlyOneBoolean_cases one
      · cases absurd
      · simp only [ands, ↓reduceIte, termShapes_eq_readings andTerms validAnd, BoolTree.map]
        rfl
      · simp only [ands, ors, Bool.false_eq_true, ↓reduceIte,
          termShapes_eq_readings orTerms validOr, BoolTree.map]
        rfl
termination_by structural node => node

theorem termShapes_eq_readings : ∀ nodes : Option (List WhereNode),
    validateOptionNodes nodes = .ok () →
    termShapes predicateShape nodes =
      .ok (BoolTree.listMap predicateShape (termReadings nodes))
  | none => fun _ => rfl
  | some nodes => fun valid => by
      rw [validateOptionNodes] at valid
      rw [termShapes, termReadings]
      exact nodeShapes_eq_readings nodes valid
termination_by structural nodes => nodes

theorem nodeShapes_eq_readings : ∀ nodes : List WhereNode, validateNodes nodes = .ok () →
    nodeShapes predicateShape nodes = .ok (BoolTree.listMap predicateShape (nodeReadings nodes))
  | [] => fun _ => rfl
  | node :: rest => fun valid => by
      simp only [validateNodes, seq_eq_ok_iff] at valid
      rw [nodeShapes, whereShape_eq_reading node valid.1, nodeShapes_eq_readings rest valid.2,
        nodeReadings, BoolTree.listMap]
      rfl
termination_by structural nodes => nodes

end

end Visitors

section Meaning

mutual

/-- No group carries an empty `and` list beside two or more `or` terms. -/
def WhereNode.plainGroups : WhereNode → Bool
  | .predicate _ => true
  | .group andTerms orTerms notTerms =>
      match notTerms with
      | some node => node.plainGroups
      | none =>
          if truthyTerms andTerms then termsPlain andTerms
          else (andTerms.isNone || decide ((orTerms.getD []).length < 2)) && termsPlain orTerms
termination_by structural node => node

/-- No term of an optional list carries such a group. -/
def termsPlain : Option (List WhereNode) → Bool
  | none => true
  | some nodes => nodesPlain nodes
termination_by structural nodes => nodes

/-- No term of a list carries such a group. -/
def nodesPlain : List WhereNode → Bool
  | [] => true
  | node :: rest => node.plainGroups && nodesPlain rest
termination_by structural nodes => nodes

end

mutual

theorem leaves_rendering : ∀ node : WhereNode, node.rendering.leaves = iterWherePredicates node
  | .predicate pred => by rw [WhereNode.rendering, BoolTree.leaves, iterWherePredicates]
  | .group andTerms orTerms (some node) => by
      rw [WhereNode.rendering, BoolTree.leaves, iterWherePredicates, leaves_rendering node]
  | .group andTerms orTerms none => by
      have terms : BoolTree.listLeaves (if truthyTerms andTerms then termRenderings andTerms
          else termRenderings orTerms) = iterWherePredicates (.group andTerms orTerms none) := by
        rw [iterWherePredicates]
        by_cases truthy : truthyTerms andTerms = true
        · simp only [truthy, ↓reduceIte]
          exact leaves_termRenderings andTerms
        · simp only [truthy, Bool.false_eq_true, ↓reduceIte]
          exact leaves_termRenderings orTerms
      rw [WhereNode.rendering, ← terms]
      by_cases present : andTerms.isSome = true
      · simp only [present, ↓reduceIte, BoolTree.leaves]
      · simp only [present, Bool.false_eq_true, ↓reduceIte, BoolTree.leaves]
termination_by structural node => node

theorem leaves_termRenderings : ∀ nodes : Option (List WhereNode),
    BoolTree.listLeaves (termRenderings nodes) = termPredicates nodes
  | none => rfl
  | some nodes => by
      rw [termRenderings, termPredicates]
      exact leaves_nodeRenderings nodes
termination_by structural nodes => nodes

theorem leaves_nodeRenderings : ∀ nodes : List WhereNode,
    BoolTree.listLeaves (nodeRenderings nodes) = nodePredicates nodes
  | [] => rfl
  | node :: rest => by
      rw [nodeRenderings, BoolTree.listLeaves, nodePredicates, leaves_rendering node,
        leaves_nodeRenderings rest]
termination_by structural nodes => nodes

end

theorem size_reading (node : WhereNode) : node.reading.size = (iterWherePredicates node).length := by
  rw [BoolTree.size, leaves_reading]

theorem size_rendering (node : WhereNode) :
    node.rendering.size = (iterWherePredicates node).length := by
  rw [BoolTree.size, leaves_rendering]

/-- With at most one member, a conjunction and a disjunction of trees agree. -/
theorem conj_eq_disj_of_short {values : List Truth} (short : values.length = 1) :
    Truth.conj values = Truth.disj values := by
  obtain ⟨value, rfl⟩ := List.length_eq_one_iff.mp short
  rw [Truth.conj_singleton, Truth.disj_singleton]

theorem length_evalAll_nodeRenderings (nodes : List WhereNode) (values : List Truth) :
    (BoolTree.evalAll (nodeRenderings nodes) values).length = nodes.length := by
  induction nodes generalizing values with
  | nil => rfl
  | cons node rest ih => rw [nodeRenderings, BoolTree.evalAll, List.length_cons, ih, List.length_cons]

mutual

/-- Without such a group the rendering denotes what the reading does. -/
theorem eval_rendering_of_plain : ∀ (node : WhereNode) (values : List Truth),
    node.validate = .ok () → node.plainGroups = true →
    node.rendering.eval values = node.reading.eval values
  | .predicate pred => fun values _ _ => rfl
  | .group andTerms orTerms (some node) => fun values valid plain => by
      simp only [WhereNode.validate, seq_eq_ok_iff, validateOptionNode] at valid
      rw [WhereNode.plainGroups] at plain
      rw [WhereNode.rendering, WhereNode.reading, BoolTree.eval, BoolTree.eval,
        eval_rendering_of_plain node values valid.2.2.1 plain]
  | .group andTerms orTerms none => fun values valid plain => by
      simp only [WhereNode.validate, seq_eq_ok_iff] at valid
      obtain ⟨validAnd, validOr, _, one⟩ := valid
      rw [WhereNode.plainGroups] at plain
      rw [WhereNode.rendering, WhereNode.reading]
      obtain ⟨_, absurd, _⟩ | ⟨_, ands, ors⟩ | ⟨_, ands, ors⟩ := exactlyOneBoolean_cases one
      · cases absurd
      · have present : andTerms.isSome = true := by
          cases andTerms with
          | none => cases ands
          | some nodes => rfl
        simp only [ands, ↓reduceIte] at plain
        simp only [ands, present, ↓reduceIte, BoolTree.eval,
          evalAll_renderings_of_plain andTerms values validAnd plain]
      · simp only [ands, Bool.false_eq_true, ↓reduceIte, Bool.and_eq_true] at plain
        obtain ⟨short, plainTerms⟩ := plain
        have same := evalAll_renderings_of_plain orTerms values validOr plainTerms
        cases andTerms with
        | none => simp only [truthyTerms, Option.isSome_none, Bool.false_eq_true, ↓reduceIte,
            BoolTree.eval, same]
        | some nodes =>
            simp only [ands, Option.isSome_some, Bool.false_eq_true, ↓reduceIte, BoolTree.eval]
            cases orTerms with
            | none => cases ors
            | some terms =>
                have one : terms.length = 1 := by
                  simp only [truthyTerms, Bool.not_eq_true', List.isEmpty_eq_false_iff] at ors
                  have positive := List.length_pos_iff.mpr ors
                  simp only [Option.isNone_some, Option.getD_some, Bool.false_or,
                    decide_eq_true_eq] at short
                  omega
                rw [← same, conj_eq_disj_of_short]
                rw [termRenderings, length_evalAll_nodeRenderings, one]
termination_by structural node => node

theorem evalAll_renderings_of_plain : ∀ (nodes : Option (List WhereNode)) (values : List Truth),
    validateOptionNodes nodes = .ok () → termsPlain nodes = true →
    BoolTree.evalAll (termRenderings nodes) values = BoolTree.evalAll (termReadings nodes) values
  | none => fun _ _ _ => rfl
  | some nodes => fun values valid plain => by
      rw [validateOptionNodes] at valid
      rw [termsPlain] at plain
      rw [termRenderings, termReadings]
      exact evalAll_nodeRenderings_of_plain nodes values valid plain
termination_by structural nodes => nodes

theorem evalAll_nodeRenderings_of_plain : ∀ (nodes : List WhereNode) (values : List Truth),
    validateNodes nodes = .ok () → nodesPlain nodes = true →
    BoolTree.evalAll (nodeRenderings nodes) values = BoolTree.evalAll (nodeReadings nodes) values
  | [] => fun _ _ _ => rfl
  | node :: rest => fun values valid plain => by
      simp only [validateNodes, seq_eq_ok_iff] at valid
      simp only [nodesPlain, Bool.and_eq_true] at plain
      rw [nodeRenderings, nodeReadings, BoolTree.evalAll, BoolTree.evalAll, size_rendering,
        size_reading, eval_rendering_of_plain node _ valid.1 plain.1,
        evalAll_nodeRenderings_of_plain rest _ valid.2 plain.2]
termination_by structural nodes => nodes

end

/-- Some leaf values give the reading and the rendering these values. -/
def WhereNode.Attains (node : WhereNode) (read rendered : Truth) : Prop :=
  ∃ values : List Truth, values.length = (iterWherePredicates node).length ∧
    node.reading.eval values = read ∧ node.rendering.eval values = rendered

/-- Some leaf values give the readings and the renderings of a list these
values. -/
def AttainsAll (nodes : List WhereNode) (read rendered : List Truth) : Prop :=
  ∃ values : List Truth, values.length = (nodePredicates nodes).length ∧
    BoolTree.evalAll (nodeReadings nodes) values = read ∧
    BoolTree.evalAll (nodeRenderings nodes) values = rendered

/-- The leaves of different terms take their values independently. -/
theorem AttainsAll.cons {node : WhereNode} {rest : List WhereNode} {read rendered : Truth}
    {reads renderings : List Truth} (first : node.Attains read rendered)
    (others : AttainsAll rest reads renderings) :
    AttainsAll (node :: rest) (read :: reads) (rendered :: renderings) := by
  obtain ⟨values, length, readValue, renderedValue⟩ := first
  obtain ⟨more, moreLength, readRest, renderedRest⟩ := others
  refine ⟨values ++ more, ?_, ?_, ?_⟩
  · rw [nodePredicates, List.length_append, List.length_append, length, moreLength]
  · rw [nodeReadings, BoolTree.evalAll_append (length.trans (size_reading node).symm), readValue,
      readRest]
  · rw [nodeRenderings, BoolTree.evalAll_append (length.trans (size_rendering node).symm),
      renderedValue, renderedRest]

theorem truthyTerms_eq_true {terms : Option (List WhereNode)} (truthy : truthyTerms terms = true) :
    ∃ node rest, terms = some (node :: rest) := by
  cases terms with
  | none => cases truthy
  | some nodes =>
      cases nodes with
      | nil => cases truthy
      | cons node rest => exact ⟨node, rest, rfl⟩

/-- Values attained by the terms of a group, with the group's own connective in
the reading and the rendering. -/
theorem attains_and {terms : List WhereNode} (orTerms : Option (List WhereNode))
    {reads renderings : List Truth} (nonempty : truthyTerms (some terms) = true)
    (attained : AttainsAll terms reads renderings) :
    WhereNode.Attains (.group (some terms) orTerms none) (.conj reads) (.conj renderings) := by
  obtain ⟨values, length, readValues, renderedValues⟩ := attained
  refine ⟨values, ?_, ?_, ?_⟩
  · simp only [length, iterWherePredicates, nonempty, ↓reduceIte, termPredicates]
  · simp only [WhereNode.reading, nonempty, ↓reduceIte, BoolTree.eval, termReadings, readValues]
  · simp only [WhereNode.rendering, nonempty, Option.isSome_some, ↓reduceIte, BoolTree.eval,
      termRenderings, renderedValues]

theorem attains_or {terms : List WhereNode} {andTerms : Option (List WhereNode)}
    {reads renderings : List Truth} (empty : truthyTerms andTerms = false)
    (attained : AttainsAll terms reads renderings) :
    WhereNode.Attains (.group andTerms (some terms) none) (.disj reads)
      (if andTerms.isSome then .conj renderings else .disj renderings) := by
  obtain ⟨values, length, readValues, renderedValues⟩ := attained
  refine ⟨values, ?_, ?_, ?_⟩
  · simp only [length, iterWherePredicates, empty, Bool.false_eq_true, ↓reduceIte, termPredicates]
  · simp only [WhereNode.reading, empty, Bool.false_eq_true, ↓reduceIte, BoolTree.eval,
      termReadings, readValues]
  · by_cases present : andTerms.isSome = true
    · simp only [WhereNode.rendering, empty, present, Bool.false_eq_true, ↓reduceIte,
        BoolTree.eval, termRenderings, renderedValues]
    · simp only [WhereNode.rendering, empty, present, Bool.false_eq_true, ↓reduceIte,
        BoolTree.eval, termRenderings, renderedValues]

theorem attains_not {node : WhereNode} (andTerms orTerms : Option (List WhereNode))
    {read rendered : Truth} (attained : node.Attains read rendered) :
    WhereNode.Attains (.group andTerms orTerms (some node)) read.not rendered.not := by
  obtain ⟨values, length, readValue, renderedValue⟩ := attained
  refine ⟨values, ?_, ?_, ?_⟩
  · rw [length, iterWherePredicates]
  · rw [WhereNode.reading, BoolTree.eval, readValue]
  · rw [WhereNode.rendering, BoolTree.eval, renderedValue]

mutual

/-- The reading and the rendering of an accepted tree can be given any one value
together. -/
theorem attains_common : ∀ (node : WhereNode) (value : Truth), node.validate = .ok () →
    node.Attains value value
  | .predicate pred => fun value _ => ⟨[value], rfl, rfl, rfl⟩
  | .group andTerms orTerms (some node) => fun value valid => by
      simp only [WhereNode.validate, seq_eq_ok_iff, validateOptionNode] at valid
      have inner := attains_common node value.not valid.2.2.1
      have outer := attains_not andTerms orTerms inner
      cases value <;> exact outer
  | .group andTerms orTerms none => fun value valid => by
      simp only [WhereNode.validate, seq_eq_ok_iff] at valid
      obtain ⟨validAnd, validOr, _, one⟩ := valid
      obtain ⟨_, absurd, _⟩ | ⟨_, ands, _⟩ | ⟨_, ands, ors⟩ := exactlyOneBoolean_cases one
      · cases absurd
      · have terms := attainsAll_common andTerms value validAnd
        obtain ⟨first, rest, rfl⟩ := truthyTerms_eq_true ands
        have group := attains_and orTerms ands terms
        rwa [Option.getD_some, List.length_cons, Truth.conj_replicate] at group
      · have terms := attainsAll_common orTerms value validOr
        obtain ⟨first, rest, rfl⟩ := truthyTerms_eq_true ors
        have group := attains_or ands terms
        rwa [Option.getD_some, List.length_cons, Truth.conj_replicate, Truth.disj_replicate,
          ite_self] at group
termination_by structural node => node

theorem attainsAll_common : ∀ (nodes : Option (List WhereNode)) (value : Truth),
    validateOptionNodes nodes = .ok () →
    AttainsAll (nodes.getD []) (List.replicate (nodes.getD []).length value)
      (List.replicate (nodes.getD []).length value)
  | none => fun _ _ => ⟨[], rfl, rfl, rfl⟩
  | some nodes => fun value valid => by
      rw [validateOptionNodes] at valid
      exact attainsAll_nodes nodes value valid
termination_by structural nodes => nodes

theorem attainsAll_nodes : ∀ (nodes : List WhereNode) (value : Truth),
    validateNodes nodes = .ok () →
    AttainsAll nodes (List.replicate nodes.length value) (List.replicate nodes.length value)
  | [] => fun _ _ => ⟨[], rfl, rfl, rfl⟩
  | node :: rest => fun value valid => by
      simp only [validateNodes, seq_eq_ok_iff] at valid
      exact .cons (attains_common node value valid.1) (attainsAll_nodes rest value valid.2)
termination_by structural nodes => nodes

end

/-- All terms have one common value but one term, whose reading and rendering
differ. -/
def DiffersAmong (nodes : List WhereNode) (value : Truth) : Prop :=
  ∃ before after read rendered, read ≠ rendered ∧
    AttainsAll nodes (List.replicate before value ++ read :: List.replicate after value)
      (List.replicate before value ++ rendered :: List.replicate after value)

mutual

/-- With such a group the rendering and the reading of an accepted tree differ. -/
theorem differs_of_not_plain : ∀ node : WhereNode, node.validate = .ok () →
    node.plainGroups = false → ∃ read rendered, read ≠ rendered ∧ node.Attains read rendered
  | .predicate pred => fun _ notPlain => by
      rw [WhereNode.plainGroups] at notPlain
      cases notPlain
  | .group andTerms orTerms (some node) => fun valid notPlain => by
      simp only [WhereNode.validate, seq_eq_ok_iff, validateOptionNode] at valid
      rw [WhereNode.plainGroups] at notPlain
      obtain ⟨read, rendered, differ, attained⟩ := differs_of_not_plain node valid.2.2.1 notPlain
      exact ⟨read.not, rendered.not, fun same => differ (Truth.not_injective same),
        attains_not andTerms orTerms attained⟩
  | .group andTerms orTerms none => fun valid notPlain => by
      simp only [WhereNode.validate, seq_eq_ok_iff] at valid
      obtain ⟨validAnd, validOr, _, one⟩ := valid
      rw [WhereNode.plainGroups] at notPlain
      obtain ⟨_, absurd, _⟩ | ⟨_, ands, _⟩ | ⟨_, ands, ors⟩ := exactlyOneBoolean_cases one
      · cases absurd
      · simp only [ands, ↓reduceIte] at notPlain
        have among := termsDiffer_of_not_plain andTerms .holds validAnd notPlain
        obtain ⟨first, rest, rfl⟩ := truthyTerms_eq_true ands
        obtain ⟨before, after, read, rendered, differ, attained⟩ := among
        have group := attains_and orTerms ands attained
        rw [Truth.conj_among_holds, Truth.conj_among_holds] at group
        exact ⟨read, rendered, differ, group⟩
      · simp only [ands, Bool.false_eq_true, ↓reduceIte, Bool.and_eq_false_iff,
          Bool.or_eq_false_iff, decide_eq_false_iff_not, not_lt] at notPlain
        have among := termsDiffer_of_not_plain orTerms .fails validOr
        by_cases misread : andTerms.isNone = false ∧ 2 ≤ (orTerms.getD []).length
        -- One term holds and the others fail: the disjunction holds, the conjunction does not.
        · obtain ⟨first, rest, rfl⟩ := truthyTerms_eq_true ors
          rw [Option.getD_some] at misread
          rw [validateOptionNodes, validateNodes, seq_eq_ok_iff] at validOr
          have attained := AttainsAll.cons (attains_common first .holds validOr.1)
            (attainsAll_nodes rest .fails validOr.2)
          have group := attains_or ands attained
          have present : andTerms.isSome = true := by
            rw [← Option.not_isNone, misread.1]
            rfl
          have failing : Truth.fails ∈ Truth.holds :: List.replicate rest.length Truth.fails := by
            refine List.mem_cons_of_mem _ (List.mem_replicate.mpr ⟨?_, rfl⟩)
            have enough := misread.2
            rw [List.length_cons] at enough
            omega
          simp only [present, ↓reduceIte] at group
          rw [Truth.disj_eq_holds (List.mem_cons_self ..), Truth.conj_eq_fails failing] at group
          exact ⟨.holds, .fails, by decide, group⟩
        · have notTerms : termsPlain orTerms = false :=
            notPlain.resolve_left misread
          obtain ⟨before, after, read, rendered, differ, attained⟩ := among notTerms
          obtain ⟨first, rest, rfl⟩ := truthyTerms_eq_true ors
          have group := attains_or ands attained
          rw [Truth.disj_among_fails, Truth.disj_among_fails] at group
          cases andTerms with
          | none => exact ⟨read, rendered, differ, group⟩
          | some nodes =>
              -- A single term: the conjunction of one value is that value.
              have single : (List.replicate before Truth.fails ++
                  rendered :: List.replicate after Truth.fails).length = 1 := by
                obtain ⟨values, _, _, renderedValues⟩ := attained
                rw [← renderedValues, length_evalAll_nodeRenderings]
                rw [Option.isNone_some, Option.getD_some] at misread
                simp only [Option.getD_some, true_and, not_le] at misread ⊢
                rw [List.length_cons] at misread ⊢
                omega
              rw [conj_eq_disj_of_short single, Truth.disj_among_fails] at group
              exact ⟨read, rendered, differ, group⟩
termination_by structural node => node

theorem termsDiffer_of_not_plain : ∀ (nodes : Option (List WhereNode)) (value : Truth),
    validateOptionNodes nodes = .ok () → termsPlain nodes = false →
    DiffersAmong (nodes.getD []) value
  | none => fun _ _ notPlain => by
      rw [termsPlain] at notPlain
      cases notPlain
  | some nodes => fun value valid notPlain => by
      rw [validateOptionNodes] at valid
      rw [termsPlain] at notPlain
      exact nodesDiffer_of_not_plain nodes value valid notPlain
termination_by structural nodes => nodes

theorem nodesDiffer_of_not_plain : ∀ (nodes : List WhereNode) (value : Truth),
    validateNodes nodes = .ok () → nodesPlain nodes = false → DiffersAmong nodes value
  | [] => fun _ _ notPlain => by
      rw [nodesPlain] at notPlain
      cases notPlain
  | node :: rest => fun value valid notPlain => by
      simp only [validateNodes, seq_eq_ok_iff] at valid
      simp only [nodesPlain, Bool.and_eq_false_iff] at notPlain
      rcases notPlain with here | later
      · obtain ⟨read, rendered, differ, attained⟩ := differs_of_not_plain node valid.1 here
        exact ⟨0, rest.length, read, rendered, differ,
          .cons attained (attainsAll_nodes rest value valid.2)⟩
      · obtain ⟨before, after, read, rendered, differ, attained⟩ :=
          nodesDiffer_of_not_plain rest value valid.2 later
        exact ⟨before + 1, after, read, rendered, differ,
          .cons (attains_common node value valid.1) attained⟩
termination_by structural nodes => nodes

end

end Meaning

/-- A compiled condition keeps the meaning of the boolean tree it comes from: its
leaf tests are those of the tree's predicates in order, it denotes the same
function of their values, and the predicate walk, the depth measure and the audit
shape read the same tree. -/
structure KeepsMeaning (node : WhereNode) (condition : SqlCondition) : Prop where
  leaves : condition.tree.leaves.map SqlCondition.origin? = node.reading.leaves.map some
  denotes : ∀ values : List Truth, values.length = node.reading.size →
    condition.tree.eval values = node.reading.eval values
  predicates : iterWherePredicates node = node.reading.leaves
  depth : whereDepth node = node.reading.depthFrom 1
  shape : ∀ {α : Type} (predicateShape : Predicate → α),
    whereShape predicateShape node = .ok (node.reading.map predicateShape)

/-- A compiled condition keeps its meaning exactly when no group carries an empty
`and` list beside two or more `or` terms. -/
theorem compileWhere_keepsMeaning_iff {adapter : DialectAdapter} {tables : Tables}
    {aliasMap : AliasMap} {ctx : Option WhereCtx} {index : Nat} {node : WhereNode}
    {condition : SqlCondition} (valid : node.validate = .ok ())
    (compiled : compileWhere adapter tables aliasMap ctx index node = .ok condition) :
    KeepsMeaning node condition ↔ node.plainGroups = true := by
  have rendered := compileWhere_tree adapter tables aliasMap ctx node index condition compiled
  have evaluated : ∀ values, condition.tree.eval values = node.rendering.eval values := by
    intro values
    rw [← BoolTree.eval_map SqlCondition.origin?, rendered, BoolTree.eval_map]
  constructor
  · intro keeps
    by_contra notPlain
    rw [Bool.not_eq_true] at notPlain
    obtain ⟨read, rendering, differ, values, length, readValue, renderedValue⟩ :=
      differs_of_not_plain node valid notPlain
    apply differ
    rw [← readValue, ← renderedValue, ← evaluated]
    exact (keeps.denotes values (length.trans (size_reading node).symm)).symm
  · intro plain
    refine ⟨?_, ?_, (leaves_reading node).symm, (depthFrom_reading node 1).symm,
      fun predicateShape => whereShape_eq_reading predicateShape node valid⟩
    · rw [← BoolTree.leaves_map, rendered, BoolTree.leaves_map, leaves_rendering, leaves_reading]
    · intro values _
      rw [evaluated, eval_rendering_of_plain node values valid plain]

/-- `Orders.state = 'open'`. -/
def openOrders : WhereNode :=
  .predicate { col := some "Orders.state", op := .eq, value := .str "open" }

/-- `Orders.total > 100`. -/
def largeOrders : WhereNode :=
  .predicate { col := some "Orders.total", op := .gt, value := .int 100 }

/-- The tables of a scope over `Orders`. -/
def orderTables : Tables :=
  [("Orders", .table "main" "Orders"
    { name := "Orders", columns := [{ name := "state" }, { name := "total" }] })]

/-- `{"and": [], "or": [open, large]}` is accepted and compiled to a conjunction,
which fails on an open small order where the written disjunction holds. -/
theorem compileWhere_misreads_empty_and :
    WhereNode.validate (.group (some []) (some [openOrders, largeOrders]) none) = .ok () ∧
      ∃ condition,
        compileWhere (fun _ _ => .ok ()) orderTables [] none 0
            (.group (some []) (some [openOrders, largeOrders]) none) = .ok condition ∧
          ¬ KeepsMeaning (.group (some []) (some [openOrders, largeOrders]) none) condition := by
  refine ⟨by decide +kernel, _, rfl, fun keeps => ?_⟩
  have same := keeps.denotes [.holds, .fails] rfl
  exact absurd same (by decide +kernel)

/-- A disjunction without the empty list keeps its meaning. -/
theorem compileWhere_keeps_disjunction :
    ∃ condition,
      compileWhere (fun _ _ => .ok ()) orderTables [] none 0
          (.group none (some [openOrders, largeOrders]) none) = .ok condition ∧
        KeepsMeaning (.group none (some [openOrders, largeOrders]) none) condition := by
  have compiles : accepts (compileWhere (fun _ _ => .ok ()) orderTables [] none 0
      (.group none (some [openOrders, largeOrders]) none)) = true := by
    decide +kernel
  obtain ⟨condition, compiled⟩ := accepts_iff.mp compiles
  exact ⟨condition, compiled,
    (compileWhere_keepsMeaning_iff (by decide +kernel) compiled).mpr (by decide +kernel)⟩

end QueryGate
