import QueryGate.QueryAst.DumpInjective
import QueryGate.WriteAst.Models

/-! # The dump of a write

`model_dump(mode="json")` of the write AST, and that it tells writes apart. A row is a
dictionary, so the order of its columns is not part of the write: `sortLiterals` puts rows,
and the objects in values, in the order of their keys.
-/

namespace QueryGate

open Foundation

/-! ## Dumping -/

/-- `WritePredicate`. -/
def WritePredicate.dump (pred : WritePredicate) : Dumped :=
  .dict [("col", dumpText pred.col), ("col_fn", dumpCall pred.colFn),
    ("op", .str pred.op.read.value), ("value", dumpValue pred.value),
    ("value_col", dumpText pred.valueCol)]

mutual

/-- `WritePredicate` or `WriteWhereGroup`. -/
def WriteWhereNode.dump : WriteWhereNode → Dumped
  | .predicate pred => pred.dump
  | .group andTerms orTerms notTerms =>
      .dict [("and_terms", dumpWriteTerms andTerms), ("or_terms", dumpWriteTerms orTerms),
        ("not_terms", dumpWriteNode notTerms)]
termination_by structural node => node

/-- An optional list of terms. -/
def dumpWriteTerms : Option (List WriteWhereNode) → Dumped
  | none => .null
  | some nodes => .list (dumpWriteNodes nodes)
termination_by structural nodes => nodes

/-- A list of terms. -/
def dumpWriteNodes : List WriteWhereNode → List Dumped
  | [] => []
  | node :: rest => node.dump :: dumpWriteNodes rest
termination_by structural nodes => nodes

/-- An optional term. -/
def dumpWriteNode : Option WriteWhereNode → Dumped
  | none => .null
  | some node => node.dump
termination_by structural node => node

end

/-- A row. -/
def dumpRow (row : Row) : Dumped :=
  .dict (dumpEntries row)

/-- `InsertStatement`. -/
def InsertStatement.dump (statement : InsertStatement) : Dumped :=
  .dict [("op", .str "insert"), ("table", .str statement.table),
    ("rows", .list (statement.rows.map dumpRow))]

/-- `UpdateStatement`. -/
def UpdateStatement.dump (statement : UpdateStatement) : Dumped :=
  .dict [("op", .str "update"), ("table", .str statement.table), ("set", dumpRow statement.set_),
    ("where", statement.where_.dump)]

/-- `DeleteStatement`. -/
def DeleteStatement.dump (statement : DeleteStatement) : Dumped :=
  .dict [("op", .str "delete"), ("table", .str statement.table), ("where", statement.where_.dump)]

/-- `UpsertStatement`. -/
def UpsertStatement.dump (statement : UpsertStatement) : Dumped :=
  .dict [("op", .str "upsert"), ("table", .str statement.table),
    ("rows", .list (statement.rows.map dumpRow)),
    ("conflict_columns", dumpTexts statement.conflictColumns),
    ("update_columns", dumpTexts statement.updateColumns)]

/-- A member of the union of write statements. -/
def WriteStatement.dump : WriteStatement → Dumped
  | .insert statement => statement.dump
  | .update statement => statement.dump
  | .delete statement => statement.dump
  | .upsert statement => statement.dump

/-! ## Rows and literals in the order of their keys -/

/-- A row in the order of its columns. -/
def sortRow (row : Row) : Row :=
  sortByKey (sortedEntries row)

/-- A predicate with its literal sorted. -/
def WritePredicate.sortLiterals (pred : WritePredicate) : WritePredicate :=
  { pred with value := pred.value.sorted }

mutual

/-- A filter with its literals sorted. -/
def WriteWhereNode.sortLiterals : WriteWhereNode → WriteWhereNode
  | .predicate pred => .predicate pred.sortLiterals
  | .group andTerms orTerms notTerms =>
      .group (sortWriteTerms andTerms) (sortWriteTerms orTerms) (sortWriteNode notTerms)
termination_by structural node => node

def sortWriteTerms : Option (List WriteWhereNode) → Option (List WriteWhereNode)
  | none => none
  | some nodes => some (sortWriteNodes nodes)
termination_by structural nodes => nodes

def sortWriteNodes : List WriteWhereNode → List WriteWhereNode
  | [] => []
  | node :: rest => node.sortLiterals :: sortWriteNodes rest
termination_by structural nodes => nodes

def sortWriteNode : Option WriteWhereNode → Option WriteWhereNode
  | none => none
  | some node => some node.sortLiterals
termination_by structural node => node

end

/-- A write with its rows and literals in the order of their keys. -/
def WriteStatement.sortLiterals : WriteStatement → WriteStatement
  | .insert ⟨table, rows⟩ => .insert ⟨table, rows.map sortRow⟩
  | .update ⟨table, set_, where_⟩ => .update ⟨table, sortRow set_, where_.sortLiterals⟩
  | .delete ⟨table, where_⟩ => .delete ⟨table, where_.sortLiterals⟩
  | .upsert ⟨table, rows, conflictColumns, updateColumns⟩ =>
      .upsert ⟨table, rows.map sortRow, conflictColumns, updateColumns⟩

/-! ## The dump tells writes apart -/

theorem CompareOp.read_injective : Function.Injective CompareOp.read := by
  intro first second same
  cases first <;> cases second <;> first | rfl | cases same

theorem WritePredicate.dump_injective {first second : WritePredicate}
    (same : sortKeys first.dump = sortKeys second.dump) :
    first.sortLiterals = second.sortLiterals := by
  have values := @values_eq_of_sortKeys _ ["col", "col_fn", "op", "value", "value_col"]
    (by decide) _ _ rfl rfl same
  simp only [List.map_cons, List.map_nil, List.cons.injEq, and_true] at values
  obtain ⟨cols, calls, ops, literals, valueCols⟩ := values
  rw [sortLiterals, sortLiterals, dumpText_inj cols, dumpCall_inj calls,
    CompareOp.read_injective (ReadCompareOp.value_injective (Json.str.inj ops)),
    sorted_eq_of_dumpValue literals, dumpText_inj valueCols]

theorem WriteWhereNode.dump_dict (node : WriteWhereNode) : ∃ entries, node.dump = .dict entries := by
  cases node
  all_goals exact ⟨_, rfl⟩

mutual

theorem WriteWhereNode.dump_injective : ∀ first second : WriteWhereNode,
    sortKeys first.dump = sortKeys second.dump → first.sortLiterals = second.sortLiterals
  | .predicate pred => fun second same => by
      cases second with
      | predicate other =>
          rw [WriteWhereNode.sortLiterals, WriteWhereNode.sortLiterals,
            WritePredicate.dump_injective same]
      | group => exact nomatch (contains_eq_of_sortKeys same "op" : true = false)
  | .group andTerms orTerms notTerms => fun second same => by
      cases second with
      | predicate other => exact nomatch (contains_eq_of_sortKeys same "op" : false = true)
      | group otherAnd otherOr otherNot =>
          have values := @values_eq_of_sortKeys _ ["and_terms", "or_terms", "not_terms"]
            (by decide) _ _ rfl rfl same
          simp only [List.map_cons, List.map_nil, List.cons.injEq, and_true] at values
          obtain ⟨ands, ors, nots⟩ := values
          rw [WriteWhereNode.sortLiterals, WriteWhereNode.sortLiterals,
            dumpWriteTerms_injective andTerms otherAnd ands,
            dumpWriteTerms_injective orTerms otherOr ors,
            dumpWriteNode_injective notTerms otherNot nots]
termination_by structural first => first

theorem dumpWriteTerms_injective : ∀ first second : Option (List WriteWhereNode),
    sortKeys (dumpWriteTerms first) = sortKeys (dumpWriteTerms second) →
      sortWriteTerms first = sortWriteTerms second
  | none => fun second same => by
      cases second with
      | none => rfl
      | some _ => cases same
  | some nodes => fun second same => by
      cases second with
      | none => cases same
      | some others =>
          rw [sortWriteTerms, sortWriteTerms,
            dumpWriteNodes_injective nodes others (Json.list.inj same)]
termination_by structural first => first

theorem dumpWriteNodes_injective : ∀ first second : List WriteWhereNode,
    sortKeysItems (dumpWriteNodes first) = sortKeysItems (dumpWriteNodes second) →
      sortWriteNodes first = sortWriteNodes second
  | [] => fun second same => by
      cases second with
      | nil => rfl
      | cons _ _ => cases same
  | node :: rest => fun second same => by
      cases second with
      | nil => cases same
      | cons other more =>
          obtain ⟨head, tail⟩ := List.cons.inj same
          rw [sortWriteNodes, sortWriteNodes, WriteWhereNode.dump_injective node other head,
            dumpWriteNodes_injective rest more tail]
termination_by structural first => first

theorem dumpWriteNode_injective : ∀ first second : Option WriteWhereNode,
    sortKeys (dumpWriteNode first) = sortKeys (dumpWriteNode second) →
      sortWriteNode first = sortWriteNode second
  | none => fun second same => by
      cases second with
      | none => rfl
      | some other => exact absurd same.symm (ne_null_of_dict other.dump_dict)
  | some node => fun second same => by
      cases second with
      | none => exact absurd same (ne_null_of_dict node.dump_dict)
      | some other => rw [sortWriteNode, sortWriteNode, WriteWhereNode.dump_injective node other same]
termination_by structural first => first

end

theorem dumpRow_inj {first second : Row} (same : sortKeys (dumpRow first) = sortKeys (dumpRow second)) :
    sortRow first = sortRow second :=
  Value.dict.inj (@sorted_eq_of_dumpValue (.dict first) (.dict second) same)

theorem dumpRows_inj {first second : List Row}
    (same : sortKeys (.list (first.map dumpRow)) = sortKeys (.list (second.map dumpRow))) :
    first.map sortRow = second.map sortRow := by
  rw [sortKeys, sortKeys, sortKeysItems_eq_map, sortKeysItems_eq_map] at same
  have mapped := Json.list.inj same
  rw [List.map_map, List.map_map] at mapped
  clear same
  induction first generalizing second with
  | nil =>
      cases second with
      | nil => rfl
      | cons _ _ => cases mapped
  | cons row rest ih =>
      cases second with
      | nil => cases mapped
      | cons other more =>
          obtain ⟨head, tail⟩ := List.cons.inj mapped
          rw [List.map_cons, List.map_cons, dumpRow_inj head, ih tail]

theorem InsertStatement.dump_injective {first second : InsertStatement}
    (same : sortKeys first.dump = sortKeys second.dump) :
    first.table = second.table ∧ first.rows.map sortRow = second.rows.map sortRow := by
  have values := @values_eq_of_sortKeys _ ["op", "table", "rows"] (by decide) _ _ rfl rfl same
  simp only [List.map_cons, List.map_nil, List.cons.injEq, and_true] at values
  obtain ⟨_, tables, rows⟩ := values
  exact ⟨Json.str.inj tables, dumpRows_inj rows⟩

theorem UpdateStatement.dump_injective {first second : UpdateStatement}
    (same : sortKeys first.dump = sortKeys second.dump) :
    first.table = second.table ∧ sortRow first.set_ = sortRow second.set_ ∧
      first.where_.sortLiterals = second.where_.sortLiterals := by
  have values := @values_eq_of_sortKeys _ ["op", "table", "set", "where"] (by decide) _ _ rfl rfl same
  simp only [List.map_cons, List.map_nil, List.cons.injEq, and_true] at values
  obtain ⟨_, tables, sets, wheres⟩ := values
  exact ⟨Json.str.inj tables, dumpRow_inj sets, WriteWhereNode.dump_injective _ _ wheres⟩

theorem DeleteStatement.dump_injective {first second : DeleteStatement}
    (same : sortKeys first.dump = sortKeys second.dump) :
    first.table = second.table ∧ first.where_.sortLiterals = second.where_.sortLiterals := by
  have values := @values_eq_of_sortKeys _ ["op", "table", "where"] (by decide) _ _ rfl rfl same
  simp only [List.map_cons, List.map_nil, List.cons.injEq, and_true] at values
  obtain ⟨_, tables, wheres⟩ := values
  exact ⟨Json.str.inj tables, WriteWhereNode.dump_injective _ _ wheres⟩

theorem UpsertStatement.dump_injective {first second : UpsertStatement}
    (same : sortKeys first.dump = sortKeys second.dump) :
    first.table = second.table ∧ first.rows.map sortRow = second.rows.map sortRow ∧
      first.conflictColumns = second.conflictColumns ∧
      first.updateColumns = second.updateColumns := by
  have values := @values_eq_of_sortKeys _ ["op", "table", "rows", "conflict_columns",
    "update_columns"] (by decide) _ _ rfl rfl same
  simp only [List.map_cons, List.map_nil, List.cons.injEq, and_true] at values
  obtain ⟨_, tables, rows, conflicts, updates⟩ := values
  exact ⟨Json.str.inj tables, dumpRows_inj rows, dumpTexts_inj conflicts, dumpTexts_inj updates⟩

theorem field?_of_names {names : List String} (distinct : names.Nodup)
    {entries : List (String × Dumped)} (keys : dictKeys entries = names) (key : String) :
    field? (sortKeys (.dict entries)) key = (dictGet entries key).map sortKeys :=
  field?_sortKeys_dict (keys ▸ distinct) key

/-- The tag of a write is in its dump. -/
theorem WriteStatement.field_op (statement : WriteStatement) :
    field? (sortKeys statement.dump) "op" = some (.str statement.op.value) := by
  have inserted : ["op", "table", "rows"].Nodup := by decide
  have updated : ["op", "table", "set", "where"].Nodup := by decide
  have deleted : ["op", "table", "where"].Nodup := by decide
  have upserted : ["op", "table", "rows", "conflict_columns", "update_columns"].Nodup := by decide
  cases statement with
  | insert statement => exact field?_of_names inserted rfl "op"
  | update statement => exact field?_of_names updated rfl "op"
  | delete statement => exact field?_of_names deleted rfl "op"
  | upsert statement => exact field?_of_names upserted rfl "op"

theorem WriteOp.value_injective : Function.Injective WriteOp.value := by
  apply @injective_of_listed _ _ _ [.insert, .update, .delete, .upsert] (by decide)
  intro op
  cases op <;> decide

/-- Writes whose dumps agree up to the order of keys are equal up to the order of keys in
their rows and literals. -/
theorem WriteStatement.dump_injective {first second : WriteStatement}
    (same : sortKeys first.dump = sortKeys second.dump) :
    first.sortLiterals = second.sortLiterals := by
  have ops : first.op = second.op := by
    have tags := first.field_op
    rw [same, second.field_op] at tags
    exact (WriteOp.value_injective (Json.str.inj (Option.some.inj tags))).symm
  cases first with
  | insert statement =>
      cases second with
      | insert other =>
          obtain ⟨tables, rows⟩ := InsertStatement.dump_injective same
          rw [WriteStatement.sortLiterals, WriteStatement.sortLiterals, tables, rows]
      | _ => cases ops
  | update statement =>
      cases second with
      | update other =>
          obtain ⟨tables, sets, wheres⟩ := UpdateStatement.dump_injective same
          rw [WriteStatement.sortLiterals, WriteStatement.sortLiterals, tables, sets, wheres]
      | _ => cases ops
  | delete statement =>
      cases second with
      | delete other =>
          obtain ⟨tables, wheres⟩ := DeleteStatement.dump_injective same
          rw [WriteStatement.sortLiterals, WriteStatement.sortLiterals, tables, wheres]
      | _ => cases ops
  | upsert statement =>
      cases second with
      | upsert other =>
          obtain ⟨tables, rows, conflicts, updates⟩ := UpsertStatement.dump_injective same
          rw [WriteStatement.sortLiterals, WriteStatement.sortLiterals, tables, rows, conflicts,
            updates]
      | _ => cases ops

end QueryGate
