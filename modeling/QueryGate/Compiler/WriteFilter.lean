import QueryGate.Compiler.WriteCompiler

/-! # What a write filter becomes

A write filter is read as a `BoolTree` over its predicates. The converted filter,
and with it the WHERE clause of the statement and of the affected-row count, is
the same tree where no group carries an empty `and` list beside its `or` terms.
Such a group is accepted for its `or` terms and converted for its `and` list, so
that those terms are neither compiled nor checked.
-/

namespace QueryGate

open Foundation

mutual

/-- A write filter as it is written: each group has the one field that is set. -/
def WriteWhereNode.reading : WriteWhereNode → BoolTree WritePredicate
  | .predicate pred => .leaf pred
  | .group _ _ (some node) => .not node.reading
  | .group andTerms orTerms none =>
      if hasWriteTerms andTerms then .and (writeTermReadings andTerms)
      else .or (writeTermReadings orTerms)
termination_by structural node => node

/-- The readings of an optional list of write terms. -/
def writeTermReadings : Option (List WriteWhereNode) → List (BoolTree WritePredicate)
  | none => []
  | some nodes => writeNodeReadings nodes
termination_by structural nodes => nodes

/-- The readings of a list of write terms. -/
def writeNodeReadings : List WriteWhereNode → List (BoolTree WritePredicate)
  | [] => []
  | node :: rest => node.reading :: writeNodeReadings rest
termination_by structural nodes => nodes

end

mutual

/-- No group carries an empty `and` list beside its `or` terms. -/
def WriteWhereNode.noEmptyAnd : WriteWhereNode → Bool
  | .predicate _ => true
  | .group _ _ (some node) => node.noEmptyAnd
  | .group (some nodes) _ none => !nodes.isEmpty && writeNodesNoEmptyAnd nodes
  | .group none (some nodes) none => writeNodesNoEmptyAnd nodes
  | .group none none none => true
termination_by structural node => node

/-- No term of a list carries such a group. -/
def writeNodesNoEmptyAnd : List WriteWhereNode → Bool
  | [] => true
  | node :: rest => node.noEmptyAnd && writeNodesNoEmptyAnd rest
termination_by structural nodes => nodes

end

section Conversion

mutual

/-- An accepted filter is converted. -/
theorem toReadWhere_total : ∀ node : WriteWhereNode, node.validate = .ok () →
    ∃ readWhere, toReadWhere node = .ok readWhere
  | .predicate pred => fun _ => ⟨_, rfl⟩
  | .group andTerms orTerms (some node) => fun valid => by
      simp only [WriteWhereNode.validate, seq_eq_ok_iff, validateOptionWriteNode] at valid
      obtain ⟨term, converted⟩ := toReadWhere_total node valid.2.2.1
      exact ⟨_, by rw [toReadWhere, converted]; rfl⟩
  | .group (some nodes) orTerms none => fun valid => by
      simp only [WriteWhereNode.validate, seq_eq_ok_iff, validateWriteTerms] at valid
      obtain ⟨terms, converted⟩ := toReadNodes_total nodes valid.1
      exact ⟨_, by rw [toReadWhere, converted]; rfl⟩
  | .group none (some nodes) none => fun valid => by
      simp only [WriteWhereNode.validate, seq_eq_ok_iff, validateWriteTerms] at valid
      obtain ⟨terms, converted⟩ := toReadNodes_total nodes valid.2.1
      exact ⟨_, by rw [toReadWhere, converted]; rfl⟩
  | .group none none none => fun valid => by
      simp only [WriteWhereNode.validate, seq_eq_ok_iff] at valid
      cases valid.2.2.2
termination_by structural node => node

theorem toReadNodes_total : ∀ nodes : List WriteWhereNode, validateWriteNodes nodes = .ok () →
    ∃ terms, toReadNodes nodes = .ok terms
  | [] => fun _ => ⟨_, rfl⟩
  | node :: rest => fun valid => by
      simp only [validateWriteNodes, seq_eq_ok_iff] at valid
      obtain ⟨term, converted⟩ := toReadWhere_total node valid.1
      obtain ⟨others, convertedRest⟩ := toReadNodes_total rest valid.2
      exact ⟨_, by rw [toReadNodes, converted, convertedRest]; rfl⟩
termination_by structural nodes => nodes

end

/-- A tree over read predicates is the filter, predicate by predicate. -/
abbrev IsReadTree (node : WriteWhereNode) (tree : BoolTree Predicate) : Prop :=
  tree = node.reading.map WritePredicate.asReadPredicate

mutual

/-- Without an empty `and` list the converted filter is the filter, both as it is
written and as it is compiled. -/
theorem toReadWhere_tree : ∀ (node : WriteWhereNode) (readWhere : WhereNode),
    node.validate = .ok () → node.noEmptyAnd = true → toReadWhere node = .ok readWhere →
    IsReadTree node readWhere.reading ∧ IsReadTree node readWhere.rendering
  | .predicate pred => fun readWhere _ _ converted => by
      cases converted
      exact ⟨rfl, rfl⟩
  | .group andTerms orTerms (some node) => fun readWhere valid plain converted => by
      simp only [WriteWhereNode.validate, seq_eq_ok_iff, validateOptionWriteNode] at valid
      rw [WriteWhereNode.noEmptyAnd] at plain
      rw [toReadWhere, bind_eq_ok_iff] at converted
      obtain ⟨term, convertedTerm, returned⟩ := converted
      cases returned
      have inner := toReadWhere_tree node term valid.2.2.1 plain convertedTerm
      rw [IsReadTree, IsReadTree, WhereNode.reading, WhereNode.rendering, WriteWhereNode.reading,
        BoolTree.map, inner.1, inner.2]
      exact ⟨rfl, rfl⟩
  | .group (some nodes) orTerms none => fun readWhere valid plain converted => by
      simp only [WriteWhereNode.validate, seq_eq_ok_iff, validateWriteTerms] at valid
      simp only [WriteWhereNode.noEmptyAnd, Bool.and_eq_true] at plain
      rw [toReadWhere, bind_eq_ok_iff] at converted
      obtain ⟨terms, convertedTerms, returned⟩ := converted
      cases returned
      obtain ⟨length, read, rendered⟩ :=
        toReadNodes_trees nodes terms valid.1 plain.2 convertedTerms
      have filled : truthyTerms (some terms) = true := by
        have written := plain.1
        rw [Bool.not_eq_true', List.isEmpty_eq_false_iff, ← List.length_pos_iff] at written
        rw [truthyTerms, Bool.not_eq_true', List.isEmpty_eq_false_iff, ← List.length_pos_iff, length]
        exact written
      have written : hasWriteTerms (some nodes) = true := plain.1
      simp only [IsReadTree, WhereNode.reading, WhereNode.rendering, WriteWhereNode.reading,
        filled, written, ↓reduceIte, Option.isSome_some, termReadings, termRenderings,
        writeTermReadings, BoolTree.map, read, rendered, and_self]
  | .group none (some nodes) none => fun readWhere valid plain converted => by
      simp only [WriteWhereNode.validate, seq_eq_ok_iff, validateWriteTerms] at valid
      rw [WriteWhereNode.noEmptyAnd] at plain
      rw [toReadWhere, bind_eq_ok_iff] at converted
      obtain ⟨terms, convertedTerms, returned⟩ := converted
      cases returned
      obtain ⟨_, read, rendered⟩ :=
        toReadNodes_trees nodes terms valid.2.1 plain convertedTerms
      simp only [IsReadTree, WhereNode.reading, WhereNode.rendering, WriteWhereNode.reading,
        truthyTerms, hasWriteTerms, Bool.false_eq_true, ↓reduceIte, Option.isSome_none,
        termReadings, termRenderings, writeTermReadings, BoolTree.map, read, rendered, and_self]
  | .group none none none => fun readWhere _ _ converted => by
      rw [toReadWhere] at converted
      cases converted
termination_by structural node => node

theorem toReadNodes_trees : ∀ (nodes : List WriteWhereNode) (terms : List WhereNode),
    validateWriteNodes nodes = .ok () → writeNodesNoEmptyAnd nodes = true →
    toReadNodes nodes = .ok terms →
    terms.length = nodes.length ∧
      nodeReadings terms =
        BoolTree.listMap WritePredicate.asReadPredicate (writeNodeReadings nodes) ∧
      nodeRenderings terms =
        BoolTree.listMap WritePredicate.asReadPredicate (writeNodeReadings nodes)
  | [] => fun terms _ _ converted => by
      cases converted
      exact ⟨rfl, rfl, rfl⟩
  | node :: rest => fun terms valid plain converted => by
      simp only [validateWriteNodes, seq_eq_ok_iff] at valid
      simp only [writeNodesNoEmptyAnd, Bool.and_eq_true] at plain
      simp only [toReadNodes, bind_eq_ok_iff] at converted
      obtain ⟨term, convertedTerm, others, convertedRest, returned⟩ := converted
      cases returned
      obtain ⟨read, rendered⟩ := toReadWhere_tree node term valid.1 plain.1 convertedTerm
      obtain ⟨length, reads, renderings⟩ :=
        toReadNodes_trees rest others valid.2 plain.2 convertedRest
      refine ⟨by rw [List.length_cons, List.length_cons, length], ?_, ?_⟩
      · rw [nodeReadings, writeNodeReadings, BoolTree.listMap, read, reads]
      · rw [nodeRenderings, writeNodeReadings, BoolTree.listMap, rendered, renderings]
termination_by structural nodes => nodes

end

mutual

/-- An accepted filter has a predicate. -/
theorem leaves_reading_pos : ∀ node : WriteWhereNode, node.validate = .ok () →
    0 < node.reading.leaves.length
  | .predicate pred => fun _ => Nat.one_pos
  | .group andTerms orTerms (some node) => fun valid => by
      simp only [WriteWhereNode.validate, seq_eq_ok_iff, validateOptionWriteNode] at valid
      rw [WriteWhereNode.reading, BoolTree.leaves]
      exact leaves_reading_pos node valid.2.2.1
  | .group andTerms orTerms none => fun valid => by
      simp only [WriteWhereNode.validate, seq_eq_ok_iff] at valid
      obtain ⟨validAnd, validOr, _, one⟩ := valid
      rw [WriteWhereNode.reading]
      obtain ⟨_, absurd, _⟩ | ⟨_, ands, _⟩ | ⟨_, ands, ors⟩ := exactlyOneWriteBoolean_cases one
      · cases absurd
      · simp only [ands, ↓reduceIte, BoolTree.leaves]
        exact termLeaves_pos andTerms validAnd ands
      · simp only [ands, Bool.false_eq_true, ↓reduceIte, BoolTree.leaves]
        exact termLeaves_pos orTerms validOr ors
termination_by structural node => node

theorem termLeaves_pos : ∀ terms : Option (List WriteWhereNode),
    validateWriteTerms terms = .ok () → hasWriteTerms terms = true →
    0 < (BoolTree.listLeaves (writeTermReadings terms)).length
  | none => fun _ absurd => by cases absurd
  | some nodes => fun valid filled => by
      rw [validateWriteTerms] at valid
      rw [writeTermReadings]
      exact nodeLeaves_pos nodes valid filled
termination_by structural terms => terms

theorem nodeLeaves_pos : ∀ nodes : List WriteWhereNode, validateWriteNodes nodes = .ok () →
    hasWriteTerms (some nodes) = true →
    0 < (BoolTree.listLeaves (writeNodeReadings nodes)).length
  | [] => fun _ absurd => by cases absurd
  | node :: rest => fun valid _ => by
      simp only [validateWriteNodes, seq_eq_ok_iff] at valid
      have first := leaves_reading_pos node valid.1
      rw [writeNodeReadings, BoolTree.listLeaves, List.length_append]
      omega
termination_by structural nodes => nodes

end

/-- A count of kept predicates against the count written: none is made up, and one
is lost unless the filter is plain. -/
structure KeptCount (plain : Bool) (kept written : Nat) : Prop where
  bounded : kept ≤ written
  lost : plain = false → kept < written

theorem KeptCount.append {plain other : Bool} {first second : List Predicate}
    {written others : List WritePredicate}
    (counted : KeptCount plain first.length written.length)
    (rest : KeptCount other second.length others.length) :
    KeptCount (plain && other) (first ++ second).length (written ++ others).length := by
  have bounded := counted.bounded
  have restBounded := rest.bounded
  rw [List.length_append, List.length_append]
  refine ⟨by omega, fun either => ?_⟩
  rcases Bool.and_eq_false_iff.mp either with here | later
  · have lost := counted.lost here
    omega
  · have lost := rest.lost later
    omega

mutual

/-- The converted filter has fewer predicates wherever an empty `and` list hides
`or` terms. -/
theorem keptCount_toReadWhere : ∀ (node : WriteWhereNode) (readWhere : WhereNode),
    node.validate = .ok () → toReadWhere node = .ok readWhere →
    KeptCount node.noEmptyAnd (iterWherePredicates readWhere).length node.reading.leaves.length
  | .predicate pred => fun readWhere _ converted => by
      cases converted
      exact ⟨Nat.le_refl 1, fun absurd => by cases absurd⟩
  | .group andTerms orTerms (some node) => fun readWhere valid converted => by
      simp only [WriteWhereNode.validate, seq_eq_ok_iff, validateOptionWriteNode] at valid
      rw [toReadWhere, bind_eq_ok_iff] at converted
      obtain ⟨term, convertedTerm, returned⟩ := converted
      cases returned
      rw [WriteWhereNode.noEmptyAnd, iterWherePredicates, WriteWhereNode.reading, BoolTree.leaves]
      exact keptCount_toReadWhere node term valid.2.2.1 convertedTerm
  | .group (some []) orTerms none => fun readWhere valid converted => by
      -- The written filter has the `or` terms; the converted one is an empty conjunction.
      cases converted
      have written := leaves_reading_pos (.group (some []) orTerms none) valid
      have none_ : (iterWherePredicates (.group (some []) none none)).length = 0 := rfl
      rw [none_]
      exact ⟨Nat.zero_le _, fun _ => written⟩
  | .group (some (node :: rest)) orTerms none => fun readWhere valid converted => by
      simp only [WriteWhereNode.validate, seq_eq_ok_iff, validateWriteTerms,
        validateWriteNodes] at valid
      rw [toReadWhere, bind_eq_ok_iff] at converted
      obtain ⟨terms, convertedTerms, returned⟩ := converted
      cases returned
      simp only [toReadNodes, bind_eq_ok_iff] at convertedTerms
      obtain ⟨term, convertedTerm, others, convertedRest, returned⟩ := convertedTerms
      cases returned
      have first := keptCount_toReadWhere node term valid.1.1 convertedTerm
      have second := keptCount_toReadNodes rest others valid.1.2 convertedRest
      have written : hasWriteTerms (some (node :: rest)) = true := rfl
      have filled : truthyTerms (some (term :: others)) = true := rfl
      simp only [WriteWhereNode.noEmptyAnd, List.isEmpty_cons, Bool.not_false, Bool.true_and,
        writeNodesNoEmptyAnd, WriteWhereNode.reading, written, ↓reduceIte, writeTermReadings,
        writeNodeReadings, BoolTree.leaves, BoolTree.listLeaves, iterWherePredicates, filled,
        termPredicates, nodePredicates]
      exact first.append second
  | .group none (some nodes) none => fun readWhere valid converted => by
      simp only [WriteWhereNode.validate, seq_eq_ok_iff, validateWriteTerms] at valid
      rw [toReadWhere, bind_eq_ok_iff] at converted
      obtain ⟨terms, convertedTerms, returned⟩ := converted
      cases returned
      have counted := keptCount_toReadNodes nodes terms valid.2.1 convertedTerms
      simp only [WriteWhereNode.noEmptyAnd, WriteWhereNode.reading, hasWriteTerms,
        Bool.false_eq_true, ↓reduceIte, writeTermReadings, BoolTree.leaves, iterWherePredicates,
        truthyTerms, termPredicates]
      exact counted
  | .group none none none => fun readWhere _ converted => by
      rw [toReadWhere] at converted
      cases converted
termination_by structural node => node

theorem keptCount_toReadNodes : ∀ (nodes : List WriteWhereNode) (terms : List WhereNode),
    validateWriteNodes nodes = .ok () → toReadNodes nodes = .ok terms →
    KeptCount (writeNodesNoEmptyAnd nodes) (nodePredicates terms).length
      (BoolTree.listLeaves (writeNodeReadings nodes)).length
  | [] => fun terms _ converted => by
      cases converted
      exact ⟨Nat.le_refl 0, fun absurd => by cases absurd⟩
  | node :: rest => fun terms valid converted => by
      simp only [validateWriteNodes, seq_eq_ok_iff] at valid
      simp only [toReadNodes, bind_eq_ok_iff] at converted
      obtain ⟨term, convertedTerm, others, convertedRest, returned⟩ := converted
      cases returned
      have first := keptCount_toReadWhere node term valid.1 convertedTerm
      have second := keptCount_toReadNodes rest others valid.2 convertedRest
      rw [writeNodesNoEmptyAnd, nodePredicates, writeNodeReadings, BoolTree.listLeaves]
      exact first.append second
termination_by structural nodes => nodes

end

end Conversion

/-- A boolean tree keeps a write filter: its leaves are the filter's predicates in
order, there is at least one, and it denotes the same function of their values. -/
structure KeepsFilter {α : Type} (node : WriteWhereNode) (origin : α → Option Predicate)
    (tree : BoolTree α) : Prop where
  leaves : tree.leaves.map origin =
    node.reading.leaves.map fun pred => some pred.asReadPredicate
  nonempty : tree.leaves ≠ []
  denotes : ∀ values : List Truth, values.length = node.reading.size →
    tree.eval values = node.reading.eval values

/-- A tree whose relabelled leaves make up the filter's own tree keeps the filter. -/
theorem keepsFilter_of_map {α : Type} {node : WriteWhereNode} {origin : α → Option Predicate}
    {tree : BoolTree α} (valid : node.validate = .ok ())
    (same : tree.map origin = node.reading.map fun pred => some pred.asReadPredicate) :
    KeepsFilter node origin tree := by
  have leaves : tree.leaves.map origin =
      node.reading.leaves.map fun pred => some pred.asReadPredicate := by
    rw [← BoolTree.leaves_map, same, BoolTree.leaves_map]
  refine ⟨leaves, fun empty => ?_, fun values _ => ?_⟩
  · have positive := leaves_reading_pos node valid
    rw [empty, List.map_nil, eq_comm, List.map_eq_nil_iff] at leaves
    rw [leaves] at positive
    cases positive
  · rw [← BoolTree.eval_map origin, same, BoolTree.eval_map]

/-- A tree that keeps the filter has as many leaves as the filter has predicates. -/
theorem KeepsFilter.count {α : Type} {node : WriteWhereNode} {origin : α → Option Predicate}
    {tree : BoolTree α} (kept : KeepsFilter node origin tree) :
    tree.leaves.length = node.reading.leaves.length := by
  have lengths := congrArg List.length kept.leaves
  rwa [List.length_map, List.length_map] at lengths

/-- What becomes of a write filter: the converted filter keeps it, and in every
update or delete with that filter the statement and the affected-row count carry
a WHERE clause that keeps it, and each column of each of its predicates was
checked. -/
structure FilterHonoured (node : WriteWhereNode) : Prop where
  converted : ∃ readWhere, toReadWhere node = .ok readWhere ∧
    KeepsFilter node some readWhere.reading
  compiled : ∀ {statement : WriteStatement} {policy : Policy} {connectionId dialect : String}
    {adapter : DialectAdapter} {table : FromObj} {dml : Dml}, statement.where? = some node →
    validateWritePolicy statement policy connectionId = .ok () →
    compileWrite adapter dialect statement table = .ok dml →
    ∃ condition, dml.where? = some condition ∧
      compileWriteWhere adapter statement.table table node = .ok condition ∧
      KeepsFilter node SqlCondition.origin? condition.tree
  checked : ∀ {statement : WriteStatement} {policy : Policy} {connectionId : String},
    statement.where? = some node → validateWritePolicy statement policy connectionId = .ok () →
    ∀ pred ∈ node.reading.leaves, ∀ ref ∈ predicateColumnRefs pred.asReadPredicate,
      FilterRefReadable policy ref

/-- Without an empty `and` list the compiled WHERE clause keeps the filter. -/
theorem keepsFilter_compileWriteWhere {node : WriteWhereNode} {adapter : DialectAdapter}
    {target : String} {table : FromObj} {condition : SqlCondition}
    (valid : node.validate = .ok ()) (plain : node.noEmptyAnd = true)
    (compiled : compileWriteWhere adapter target table node = .ok condition) :
    KeepsFilter node SqlCondition.origin? condition.tree := by
  rw [compileWriteWhere, bind_eq_ok_iff] at compiled
  obtain ⟨readWhere, converted, compiled⟩ := compiled
  have rendered := compileWhere_tree adapter _ _ _ readWhere 0 condition compiled
  have tree := (toReadWhere_tree node readWhere valid plain converted).2
  refine keepsFilter_of_map valid ?_
  rw [rendered, tree, BoolTree.map_map]
  rfl

/-- Without an empty `and` list every column of every predicate was checked. -/
theorem filterRefs_checked {node : WriteWhereNode} {statement : WriteStatement} {policy : Policy}
    {connectionId : String} (valid : node.validate = .ok ()) (plain : node.noEmptyAnd = true)
    (filter : statement.where? = some node)
    (passed : validateWritePolicy statement policy connectionId = .ok ())
    {pred : WritePredicate} (member : pred ∈ node.reading.leaves) {ref : String}
    (referred : ref ∈ predicateColumnRefs pred.asReadPredicate) : FilterRefReadable policy ref := by
  obtain ⟨readWhere, converted⟩ := toReadWhere_total node valid
  have allowed := (writeAllowed_of_validateWritePolicy passed).filter node filter
  have tree := (toReadWhere_tree node readWhere valid plain converted).1
  have inRead : pred.asReadPredicate ∈ iterWherePredicates readWhere := by
    rw [← leaves_reading, tree, BoolTree.leaves_map]
    exact List.mem_map_of_mem member
  exact filterRefs_readable allowed converted inRead referred

/-- A write filter is honoured exactly when no group of it carries an empty `and`
list beside its `or` terms. -/
theorem filterHonoured_iff {node : WriteWhereNode} (valid : node.validate = .ok ()) :
    FilterHonoured node ↔ node.noEmptyAnd = true := by
  constructor
  · intro honoured
    by_contra hidden
    rw [Bool.not_eq_true] at hidden
    obtain ⟨readWhere, converted, kept⟩ := honoured.converted
    have lost := (keptCount_toReadWhere node readWhere valid converted).lost hidden
    rw [← leaves_reading, kept.count] at lost
    exact Nat.lt_irrefl _ lost
  · intro plain
    refine ⟨?_, ?_, ?_⟩
    · obtain ⟨readWhere, converted⟩ := toReadWhere_total node valid
      have tree := (toReadWhere_tree node readWhere valid plain converted).1
      refine ⟨readWhere, converted, keepsFilter_of_map valid ?_⟩
      rw [tree, BoolTree.map_map]
      rfl
    · intro statement policy connectionId dialect adapter table dml filter _ compiled
      obtain ⟨condition, carried, compiledWhere⟩ := compileWrite_where compiled filter
      exact ⟨condition, carried, compiledWhere,
        keepsFilter_compileWriteWhere valid plain compiledWhere⟩
    · intro statement policy connectionId filter passed pred member ref referred
      exact filterRefs_checked valid plain filter passed member referred

/-- `Orders.id = 7`. -/
def orderSeven : WriteWhereNode :=
  .predicate { col := some "Orders.id", op := .eq, value := .int 7 }

/-- `{"and": [], "or": [Orders.id = 7]}`. -/
def orderSevenBesideEmptyAnd : WriteWhereNode :=
  .group (some []) (some [orderSeven]) none

/-- A policy under which rows of `Orders` may be changed and removed. -/
def writableOrders : Policy where
  write := {
    enabled := true
    allowedTables := ["Orders"]
    allowedOperations := [.update, .delete] }

/-- The reflected table of `Orders`. -/
def ordersTable : FromObj :=
  .table "main" "Orders"
    { name := "Orders", columns := [{ name := "id" }, { name := "state" }], primaryKey := ["id"] }

/-- A delete filtered by `{"and": [], "or": [Orders.id = 7]}` is accepted, passes the
policy and becomes a delete of every row. -/
theorem filterHonoured_fails_on_emptyAnd :
    orderSevenBesideEmptyAnd.validate = .ok () ∧
      validateWritePolicy (.delete ⟨"Orders", orderSevenBesideEmptyAnd⟩) writableOrders "main" =
        .ok () ∧
      compileWrite (fun _ _ => .ok ()) "postgresql" (.delete ⟨"Orders", orderSevenBesideEmptyAnd⟩)
        ordersTable = .ok (.delete ordersTable (.and [])) ∧
      ¬ FilterHonoured orderSevenBesideEmptyAnd := by
  refine ⟨rfl, rfl, rfl, fun honoured => ?_⟩
  obtain ⟨readWhere, converted, kept⟩ := honoured.converted
  cases converted
  exact kept.nonempty rfl

/-- The same filter without the empty list is honoured. -/
theorem filterHonoured_orderSeven : FilterHonoured (.group none (some [orderSeven]) none) := by
  have accepted : WriteWhereNode.validate (.group none (some [orderSeven]) none) = .ok () := by
    decide +kernel
  exact (filterHonoured_iff accepted).mpr rfl

end QueryGate
