import QueryGate.QueryAst.Dump

/-! # The dump tells queries apart

Each model's dump has its own keys, and its values are told apart one by one. So queries
whose dumps agree up to the order of keys are equal up to the order of keys in their
literals (`StructuredQuery.dump_injective`).
-/

namespace QueryGate

open Foundation

/-! ## Enumerations -/

theorem injective_of_listed {α β : Type} {spell : α → β} {all : List α}
    (distinct : (all.map spell).Nodup) (listed : ∀ member, member ∈ all) :
    Function.Injective spell :=
  fun first second same => List.inj_on_of_nodup_map distinct (listed first) (listed second) same

theorem ReadCompareOp.value_injective : Function.Injective ReadCompareOp.value := by
  apply @injective_of_listed _ _ _ [.eq, .neq, .lt, .lte, .gt, .gte, .in_, .notIn, .like, .between,
    .isNull, .isNotNull, .exists_, .notExists] (by decide)
  intro op
  cases op <;> decide

theorem AggregateFn.value_injective : Function.Injective AggregateFn.value := by
  apply @injective_of_listed _ _ _ [.count, .sum, .avg, .min, .max, .stddev, .variance] (by decide)
  intro fn
  cases fn <;> decide

theorem JoinType.value_injective : Function.Injective JoinType.value := by
  apply @injective_of_listed _ _ _ [.inner, .left, .full, .cross] (by decide)
  intro type
  cases type <;> decide

theorem SortDir.value_injective : Function.Injective SortDir.value := by
  apply @injective_of_listed _ _ _ [.asc, .desc] (by decide)
  intro dir
  cases dir <;> decide

theorem NullsOrder.value_injective : Function.Injective NullsOrder.value := by
  apply @injective_of_listed _ _ _ [.first, .last] (by decide)
  intro order
  cases order <;> decide

theorem RankFn.value_injective : Function.Injective RankFn.value := by
  apply @injective_of_listed _ _ _ [.rowNumber, .rank, .denseRank] (by decide)
  intro fn
  cases fn <;> decide

theorem DateGranularity.value_injective : Function.Injective DateGranularity.value := by
  apply @injective_of_listed _ _ _ [.day, .week, .month, .quarter, .year] (by decide)
  intro granularity
  cases granularity <;> decide

theorem SetOpKind.value_injective : Function.Injective SetOpKind.value := by
  apply @injective_of_listed _ _ _ [.union, .intersect, .except_] (by decide)
  intro kind
  cases kind <;> decide

theorem ScalarFn.value_injective : Function.Injective ScalarFn.value := by
  apply @injective_of_listed _ _ _ [.coalesce, .lower, .upper, .trim, .concat] (by decide)
  intro fn
  cases fn <;> decide

theorem BinaryOp.value_injective : Function.Injective BinaryOp.value := by
  apply @injective_of_listed _ _ _ [.add, .sub, .mul, .div] (by decide)
  intro op
  cases op <;> decide

theorem ExprFn.value_injective : Function.Injective ExprFn.value := by
  apply @injective_of_listed _ _ _ [.coalesce, .lower, .upper, .trim, .concat, .abs, .ceil, .floor,
    .round, .length, .nullif, .replace, .substring] (by decide)
  intro fn
  cases fn <;> decide

theorem CastType.value_injective : Function.Injective CastType.value := by
  apply @injective_of_listed _ _ _ [.text, .integer, .numeric, .boolean, .date, .timestamp]
    (by decide)
  intro type
  cases type <;> decide

theorem DatePart.value_injective : Function.Injective DatePart.value := by
  apply @injective_of_listed _ _ _ [.year, .quarter, .month, .week, .day, .dayofweek, .dayofyear,
    .hour, .minute, .second] (by decide)
  intro part
  cases part <;> decide

theorem IntervalUnit.value_injective : Function.Injective IntervalUnit.value := by
  apply @injective_of_listed _ _ _ [.year, .month, .week, .day, .hour, .minute, .second] (by decide)
  intro unit
  cases unit <;> decide

theorem NowKind.value_injective : Function.Injective NowKind.value := by
  apply @injective_of_listed _ _ _ [.timestamp, .date] (by decide)
  intro kind
  cases kind <;> decide

theorem WindowFn.value_injective : Function.Injective WindowFn.value := by
  apply @injective_of_listed _ _ _ [.sum, .avg, .min, .max, .count, .rowNumber, .rank, .denseRank,
    .ntile, .lag, .lead, .firstValue, .lastValue] (by decide)
  intro fn
  cases fn <;> decide

theorem WindowBoundKind.value_injective : Function.Injective WindowBoundKind.value := by
  apply @injective_of_listed _ _ _ [.unboundedPreceding, .preceding, .currentRow, .following,
    .unboundedFollowing] (by decide)
  intro kind
  cases kind <;> decide

theorem WindowFrameMode.value_injective : Function.Injective WindowFrameMode.value := by
  apply @injective_of_listed _ _ _ [.rows, .range] (by decide)
  intro mode
  cases mode <;> decide

/-! ## Leaves -/

theorem dumpText_inj {first second : Option String}
    (same : sortKeys (dumpText first) = sortKeys (dumpText second)) : first = second := by
  cases first with
  | none =>
      cases second with
      | none => rfl
      | some _ => cases same
  | some text =>
      cases second with
      | none => cases same
      | some other => rw [Json.str.inj same]

theorem dumpInt_inj {first second : Option Int}
    (same : sortKeys (dumpInt first) = sortKeys (dumpInt second)) : first = second := by
  cases first with
  | none =>
      cases second with
      | none => rfl
      | some _ => cases same
  | some value =>
      cases second with
      | none => cases same
      | some other => rw [Json.int.inj same]

/-- Lists whose items are told apart are told apart. -/
theorem dumpList_inj {α : Type} {dump : α → Dumped}
    (items : ∀ {first second}, sortKeys (dump first) = sortKeys (dump second) → first = second)
    {first second : List α}
    (same : sortKeys (.list (first.map dump)) = sortKeys (.list (second.map dump))) :
    first = second := by
  rw [sortKeys, sortKeys, sortKeysItems_eq_map, sortKeysItems_eq_map] at same
  have mapped := Json.list.inj same
  rw [List.map_map, List.map_map] at mapped
  exact List.map_injective_iff.mpr (fun _ _ equal => items equal) mapped

theorem dumpTexts_inj {first second : List String}
    (same : sortKeys (dumpTexts first) = sortKeys (dumpTexts second)) : first = second :=
  @dumpList_inj _ Json.str (fun equal => Json.str.inj equal) _ _ same

theorem dumpLiteral_inj {first second : Literal}
    (same : sortKeys (dumpLiteral first) = sortKeys (dumpLiteral second)) : first = second := by
  cases first <;> cases second <;> cases same <;> rfl

theorem DateBucketSelectItem.dump_inj {first second : DateBucketSelectItem}
    (same : sortKeys first.dump = sortKeys second.dump) : first = second := by
  have values := @values_eq_of_sortKeys _ ["col", "granularity", "alias"] (by decide) _ _ rfl rfl same
  simp only [List.map_cons, List.map_nil, List.cons.injEq, and_true] at values
  obtain ⟨col, granularity, named⟩ := values
  cases first
  cases second
  cases col
  cases DateGranularity.value_injective (Json.str.inj granularity)
  cases dumpText_inj named
  rfl

theorem StringAggSelectItem.dump_inj {first second : StringAggSelectItem}
    (same : sortKeys first.dump = sortKeys second.dump) : first = second := by
  have values := @values_eq_of_sortKeys _ ["col", "delimiter", "alias"] (by decide) _ _ rfl rfl same
  simp only [List.map_cons, List.map_nil, List.cons.injEq, and_true] at values
  obtain ⟨col, delimiter, named⟩ := values
  cases first
  cases second
  cases col
  cases delimiter
  cases dumpText_inj named
  rfl

theorem ArrayAggSelectItem.dump_inj {first second : ArrayAggSelectItem}
    (same : sortKeys first.dump = sortKeys second.dump) : first = second := by
  have values := @values_eq_of_sortKeys _ ["col", "alias"] (by decide) _ _ rfl rfl same
  simp only [List.map_cons, List.map_nil, List.cons.injEq, and_true] at values
  obtain ⟨col, named⟩ := values
  cases first
  cases second
  cases col
  cases dumpText_inj named
  rfl

theorem PercentileContSelectItem.dump_inj {first second : PercentileContSelectItem}
    (same : sortKeys first.dump = sortKeys second.dump) : first = second := by
  have values := @values_eq_of_sortKeys _ ["col", "fraction", "alias"] (by decide) _ _ rfl rfl same
  simp only [List.map_cons, List.map_nil, List.cons.injEq, and_true] at values
  obtain ⟨col, fraction, named⟩ := values
  cases first
  cases second
  cases col
  cases fraction
  cases dumpText_inj named
  rfl

theorem ScalarFunctionArg.dump_inj {first second : ScalarFunctionArg}
    (same : sortKeys first.dump = sortKeys second.dump) : first = second := by
  cases first with
  | col ref =>
      cases second with
      | col other =>
          cases same
          rfl
      | literal value => exact nomatch (contains_eq_of_sortKeys same "col" : true = false)
  | literal value =>
      cases second with
      | col other => exact nomatch (contains_eq_of_sortKeys same "col" : false = true)
      | literal other =>
          have values := @values_eq_of_sortKeys _ ["literal"] (by decide) _ _ rfl rfl same
          simp only [List.map_cons, List.map_nil, List.cons.injEq, and_true] at values
          rw [dumpLiteral_inj values]

theorem ScalarFunctionCall.dump_inj {first second : ScalarFunctionCall}
    (same : sortKeys first.dump = sortKeys second.dump) : first = second := by
  have values := @values_eq_of_sortKeys _ ["fn", "args"] (by decide) _ _ rfl rfl same
  simp only [List.map_cons, List.map_nil, List.cons.injEq, and_true] at values
  obtain ⟨fn, args⟩ := values
  cases first
  cases second
  cases ScalarFn.value_injective (Json.str.inj fn)
  cases dumpList_inj ScalarFunctionArg.dump_inj args
  rfl

theorem dumpCall_inj {first second : Option ScalarFunctionCall}
    (same : sortKeys (dumpCall first) = sortKeys (dumpCall second)) : first = second := by
  cases first with
  | none =>
      cases second with
      | none => rfl
      | some _ => cases same
  | some call =>
      cases second with
      | none => cases same
      | some other => rw [ScalarFunctionCall.dump_inj same]

theorem OrderBySpec.dump_inj {first second : OrderBySpec}
    (same : sortKeys first.dump = sortKeys second.dump) : first = second := by
  have values := @values_eq_of_sortKeys _ ["col", "dir", "nulls"] (by decide) _ _ rfl rfl same
  simp only [List.map_cons, List.map_nil, List.cons.injEq, and_true] at values
  obtain ⟨col, dir, nulls⟩ := values
  cases first
  cases second
  cases col
  cases SortDir.value_injective (Json.str.inj dir)
  cases Option.map_injective NullsOrder.value_injective (dumpText_inj nulls)
  rfl

theorem WindowBound.dump_inj {first second : WindowBound}
    (same : sortKeys first.dump = sortKeys second.dump) : first = second := by
  have values := @values_eq_of_sortKeys _ ["bound", "offset"] (by decide) _ _ rfl rfl same
  simp only [List.map_cons, List.map_nil, List.cons.injEq, and_true] at values
  obtain ⟨bound, offset⟩ := values
  cases first
  cases second
  cases WindowBoundKind.value_injective (Json.str.inj bound)
  cases dumpInt_inj offset
  rfl

theorem WindowFrame.dump_inj {first second : WindowFrame}
    (same : sortKeys first.dump = sortKeys second.dump) : first = second := by
  have values := @values_eq_of_sortKeys _ ["mode", "start", "end"] (by decide) _ _ rfl rfl same
  simp only [List.map_cons, List.map_nil, List.cons.injEq, and_true] at values
  obtain ⟨mode, start, stop⟩ := values
  cases first
  cases second
  cases WindowFrameMode.value_injective (Json.str.inj mode)
  cases WindowBound.dump_inj start
  cases WindowBound.dump_inj stop
  rfl

theorem dumpFrame_inj {first second : Option WindowFrame}
    (same : sortKeys (dumpFrame first) = sortKeys (dumpFrame second)) : first = second := by
  cases first with
  | none =>
      cases second with
      | none => rfl
      | some _ => cases same
  | some frame =>
      cases second with
      | none => cases same
      | some other => rw [WindowFrame.dump_inj same]

theorem WindowSpec.dump_inj {first second : WindowSpec}
    (same : sortKeys first.dump = sortKeys second.dump) : first = second := by
  have values := @values_eq_of_sortKeys _ ["partition_by", "order_by", "frame"] (by decide) _ _ rfl rfl same
  simp only [List.map_cons, List.map_nil, List.cons.injEq, and_true] at values
  obtain ⟨partitionBy, orderBy, frame⟩ := values
  cases first
  cases second
  cases dumpTexts_inj partitionBy
  cases dumpList_inj OrderBySpec.dump_inj orderBy
  cases dumpFrame_inj frame
  rfl

theorem TopNSpec.dump_inj {first second : TopNSpec}
    (same : sortKeys first.dump = sortKeys second.dump) : first = second := by
  have values := @values_eq_of_sortKeys _ ["partition_by", "order_by", "n", "fn"] (by decide) _ _ rfl rfl same
  simp only [List.map_cons, List.map_nil, List.cons.injEq, and_true] at values
  obtain ⟨partitionBy, orderBy, n, fn⟩ := values
  cases first
  cases second
  cases dumpTexts_inj partitionBy
  cases dumpList_inj OrderBySpec.dump_inj orderBy
  cases n
  cases RankFn.value_injective (Json.str.inj fn)
  rfl

theorem dumpTopN_inj {first second : Option TopNSpec}
    (same : sortKeys (dumpTopN first) = sortKeys (dumpTopN second)) : first = second := by
  cases first with
  | none =>
      cases second with
      | none => rfl
      | some _ => cases same
  | some spec =>
      cases second with
      | none => cases same
      | some other => rw [TopNSpec.dump_inj same]

theorem dumpPair_inj {first second : String × String}
    (same : sortKeys (dumpPair first) = sortKeys (dumpPair second)) : first = second := by
  obtain ⟨left, right⟩ := first
  obtain ⟨otherLeft, otherRight⟩ := second
  cases same
  rfl

theorem dumpOn_inj {first second : Option (String × String)}
    (same : sortKeys (dumpOn first) = sortKeys (dumpOn second)) : first = second := by
  cases first with
  | none =>
      cases second with
      | none => rfl
      | some _ => cases same
  | some pair =>
      cases second with
      | none => cases same
      | some other => rw [dumpPair_inj same]

/-! ## Literal values -/

theorem dumpEntries_eq_map (entries : List (String × Value)) :
    dumpEntries entries = entries.map fun entry => (entry.1, dumpValue entry.2) := by
  induction entries with
  | nil => rfl
  | cons entry rest ih => rw [dumpEntries, ih, List.map_cons]

mutual

theorem sortKeys_dumpValue : ∀ value : Value, sortKeys (dumpValue value) = dumpValue value.sorted
  | .null => rfl
  | .bool _ => rfl
  | .int _ => rfl
  | .float _ => rfl
  | .str _ => rfl
  | .list items => by
      rw [dumpValue, sortKeys, sortKeysItems_dumpValues items, Value.sorted, dumpValue]
  | .dict entries => by
      rw [dumpValue, sortKeys, sortKeysEntries_dumpEntries entries, Value.sorted, dumpValue,
        dumpEntries_eq_map, dumpEntries_eq_map, sortByKey_map]
termination_by structural value => value

theorem sortKeysItems_dumpValues : ∀ items : List Value,
    sortKeysItems (dumpValues items) = dumpValues (sortedValues items)
  | [] => rfl
  | item :: rest => by
      rw [dumpValues, sortKeysItems, sortKeys_dumpValue item, sortKeysItems_dumpValues rest,
        sortedValues, dumpValues]
termination_by structural items => items

theorem sortKeysEntries_dumpEntries : ∀ entries : List (String × Value),
    sortKeysEntries (dumpEntries entries) = dumpEntries (sortedEntries entries)
  | [] => rfl
  | (key, value) :: rest => by
      rw [dumpEntries, sortKeysEntries, sortKeys_dumpValue value, sortKeysEntries_dumpEntries rest,
        sortedEntries, dumpEntries]
termination_by structural entries => entries

end

mutual

theorem dumpValue_inj : ∀ first second : Value, dumpValue first = dumpValue second → first = second
  | .null => fun second same => by cases second <;> first | rfl | cases same
  | .bool _ => fun second same => by cases second <;> first | (cases same; rfl) | cases same
  | .int _ => fun second same => by cases second <;> first | (cases same; rfl) | cases same
  | .float _ => fun second same => by cases second <;> first | (cases same; rfl) | cases same
  | .str _ => fun second same => by cases second <;> first | (cases same; rfl) | cases same
  | .list items => fun second same => by
      cases second with
      | list others => rw [dumpValues_inj items others (Json.list.inj same)]
      | _ => cases same
  | .dict entries => fun second same => by
      cases second with
      | dict others => rw [dumpEntries_inj entries others (Json.dict.inj same)]
      | _ => cases same
termination_by structural first => first

theorem dumpValues_inj : ∀ first second : List Value,
    dumpValues first = dumpValues second → first = second
  | [] => fun second same => by
      cases second with
      | nil => rfl
      | cons _ _ => cases same
  | item :: rest => fun second same => by
      cases second with
      | nil => cases same
      | cons other more =>
          obtain ⟨head, tail⟩ := List.cons.inj same
          rw [dumpValue_inj item other head, dumpValues_inj rest more tail]
termination_by structural first => first

theorem dumpEntries_inj : ∀ first second : List (String × Value),
    dumpEntries first = dumpEntries second → first = second
  | [] => fun second same => by
      cases second with
      | nil => rfl
      | cons _ _ => cases same
  | (key, value) :: rest => fun second same => by
      cases second with
      | nil => cases same
      | cons other more =>
          obtain ⟨otherKey, otherValue⟩ := other
          obtain ⟨head, tail⟩ := List.cons.inj same
          obtain ⟨keys, values⟩ := Prod.mk.inj head
          rw [keys, dumpValue_inj value otherValue values, dumpEntries_inj rest more tail]
termination_by structural first => first

end

theorem sorted_eq_of_dumpValue {first second : Value}
    (same : sortKeys (dumpValue first) = sortKeys (dumpValue second)) :
    first.sorted = second.sorted := by
  rw [sortKeys_dumpValue, sortKeys_dumpValue] at same
  exact dumpValue_inj _ _ same

/-! ## Queries -/

theorem Expression.dump_dict (expr : Expression) : ∃ entries, expr.dump = .dict entries := by
  cases expr
  all_goals exact ⟨_, rfl⟩

theorem WhereNode.dump_dict (node : WhereNode) : ∃ entries, node.dump = .dict entries := by
  cases node with
  | predicate pred =>
      cases pred
      exact ⟨_, rfl⟩
  | group => exact ⟨_, rfl⟩

theorem StructuredQuery.dump_dict (query : StructuredQuery) :
    ∃ entries, query.dump = .dict entries := by
  cases query
  exact ⟨_, rfl⟩

/-- A model is not null, up to the order of keys. -/
theorem ne_null_of_dict {value : Dumped} (isDict : ∃ entries, value = .dict entries) :
    sortKeys value ≠ sortKeys .null := by
  obtain ⟨entries, rfl⟩ := isDict
  intro same
  cases same

mutual

theorem Expression.dump_injective : ∀ first second : Expression,
    sortKeys first.dump = sortKeys second.dump → first.sortLiterals = second.sortLiterals
  | .column col => fun second same => by
      cases second with
      | column other =>
          cases same
          rfl
      | window call =>
          cases call
          exact nomatch (contains_eq_of_sortKeys same "col" : true = false)
      | _ => exact nomatch (contains_eq_of_sortKeys same "col" : true = false)
  | .literal value => fun second same => by
      cases second with
      | literal other =>
          have values := @values_eq_of_sortKeys _ ["literal"] (by decide) _ _ rfl rfl same
          simp only [List.map_cons, List.map_nil, List.cons.injEq, and_true] at values
          rw [dumpLiteral_inj values]
      | window call =>
          cases call
          exact nomatch (contains_eq_of_sortKeys same "literal" : true = false)
      | _ => exact nomatch (contains_eq_of_sortKeys same "literal" : true = false)
  | .binaryOp op left right => fun second same => by
      cases second with
      | binaryOp otherOp otherLeft otherRight =>
          have values := @values_eq_of_sortKeys _ ["op", "left", "right"] (by decide) _ _ rfl rfl same
          simp only [List.map_cons, List.map_nil, List.cons.injEq, and_true] at values
          obtain ⟨ops, lefts, rights⟩ := values
          rw [Expression.sortLiterals, Expression.sortLiterals, BinaryOp.value_injective (Json.str.inj ops),
            Expression.dump_injective left otherLeft lefts,
            Expression.dump_injective right otherRight rights]
      | window call =>
          cases call
          exact nomatch (contains_eq_of_sortKeys same "left" : true = false)
      | _ => exact nomatch (contains_eq_of_sortKeys same "left" : true = false)
  | .function fn args => fun second same => by
      cases second with
      | function otherFn otherArgs =>
          have values := @values_eq_of_sortKeys _ ["fn", "args"] (by decide) _ _ rfl rfl same
          simp only [List.map_cons, List.map_nil, List.cons.injEq, and_true] at values
          obtain ⟨fns, items⟩ := values
          rw [Expression.sortLiterals, Expression.sortLiterals, ExprFn.value_injective (Json.str.inj fns),
            dumpExpressions_injective args otherArgs (Json.list.inj items)]
      | window call =>
          cases call
          exact nomatch (contains_eq_of_sortKeys same "args" : true = false)
      | _ => exact nomatch (contains_eq_of_sortKeys same "args" : true = false)
  | .cast operand target => fun second same => by
      cases second with
      | cast otherOperand otherTarget =>
          have values := @values_eq_of_sortKeys _ ["cast", "to"] (by decide) _ _ rfl rfl same
          simp only [List.map_cons, List.map_nil, List.cons.injEq, and_true] at values
          obtain ⟨operands, targets⟩ := values
          rw [Expression.sortLiterals, Expression.sortLiterals, CastType.value_injective (Json.str.inj targets),
            Expression.dump_injective operand otherOperand operands]
      | window call =>
          cases call
          exact nomatch (contains_eq_of_sortKeys same "cast" : true = false)
      | _ => exact nomatch (contains_eq_of_sortKeys same "cast" : true = false)
  | .case when_ else_ => fun second same => by
      cases second with
      | case otherWhen otherElse =>
          have values := @values_eq_of_sortKeys _ ["when", "else_"] (by decide) _ _ rfl rfl same
          simp only [List.map_cons, List.map_nil, List.cons.injEq, and_true] at values
          obtain ⟨whens, elses⟩ := values
          rw [Expression.sortLiterals, Expression.sortLiterals, dumpBranches_injective when_ otherWhen (Json.list.inj whens),
            dumpExpression_injective else_ otherElse elses]
      | window call =>
          cases call
          exact nomatch (contains_eq_of_sortKeys same "when" : true = false)
      | _ => exact nomatch (contains_eq_of_sortKeys same "when" : true = false)
  | .extract operand part => fun second same => by
      cases second with
      | extract otherOperand otherPart =>
          have values := @values_eq_of_sortKeys _ ["extract", "part"] (by decide) _ _ rfl rfl same
          simp only [List.map_cons, List.map_nil, List.cons.injEq, and_true] at values
          obtain ⟨operands, parts⟩ := values
          rw [Expression.sortLiterals, Expression.sortLiterals, DatePart.value_injective (Json.str.inj parts),
            Expression.dump_injective operand otherOperand operands]
      | window call =>
          cases call
          exact nomatch (contains_eq_of_sortKeys same "extract" : true = false)
      | _ => exact nomatch (contains_eq_of_sortKeys same "extract" : true = false)
  | .now kind => fun second same => by
      cases second with
      | now other =>
          have values := @values_eq_of_sortKeys _ ["now"] (by decide) _ _ rfl rfl same
          simp only [List.map_cons, List.map_nil, List.cons.injEq, and_true] at values
          rw [NowKind.value_injective (Json.str.inj values)]
      | window call =>
          cases call
          exact nomatch (contains_eq_of_sortKeys same "now" : true = false)
      | _ => exact nomatch (contains_eq_of_sortKeys same "now" : true = false)
  | .dateAdd operand unit amount => fun second same => by
      cases second with
      | dateAdd otherOperand otherUnit otherAmount =>
          have values := @values_eq_of_sortKeys _ ["date_add", "unit", "amount"] (by decide) _ _ rfl rfl same
          simp only [List.map_cons, List.map_nil, List.cons.injEq, and_true] at values
          obtain ⟨operands, units, amounts⟩ := values
          rw [Expression.sortLiterals, Expression.sortLiterals, IntervalUnit.value_injective (Json.str.inj units),
            Json.int.inj amounts, Expression.dump_injective operand otherOperand operands]
      | window call =>
          cases call
          exact nomatch (contains_eq_of_sortKeys same "date_add" : true = false)
      | _ => exact nomatch (contains_eq_of_sortKeys same "date_add" : true = false)
  | .window ⟨fn, over_, arg, offset, buckets⟩ => fun second same => by
      cases second with
      | window call =>
          have values := @values_eq_of_sortKeys _ ["fn", "over", "arg", "offset", "buckets"]
            (by decide) _ _ rfl (by cases call; rfl) same
          rw [Expression.sortLiterals, Expression.sortLiterals,
            WindowCall.dump_injective ⟨fn, over_, arg, offset, buckets⟩ call values]
      | _ => exact nomatch (contains_eq_of_sortKeys same "over" : true = false)
termination_by structural first => first

theorem dumpExpressions_injective : ∀ first second : List Expression,
    sortKeysItems (dumpExpressions first) = sortKeysItems (dumpExpressions second) →
      sortExpressions first = sortExpressions second
  | [] => fun second same => by
      cases second with
      | nil => rfl
      | cons _ _ => cases same
  | expr :: rest => fun second same => by
      cases second with
      | nil => cases same
      | cons other more =>
          obtain ⟨head, tail⟩ := List.cons.inj same
          rw [sortExpressions, sortExpressions, Expression.dump_injective expr other head,
            dumpExpressions_injective rest more tail]
termination_by structural first => first

theorem dumpExpression_injective : ∀ first second : Option Expression,
    sortKeys (dumpExpression first) = sortKeys (dumpExpression second) →
      sortExpression first = sortExpression second
  | none => fun second same => by
      cases second with
      | none => rfl
      | some other => exact absurd same.symm (ne_null_of_dict other.dump_dict)
  | some expr => fun second same => by
      cases second with
      | none => exact absurd same (ne_null_of_dict expr.dump_dict)
      | some other =>
          rw [sortExpression, sortExpression, Expression.dump_injective expr other same]
termination_by structural first => first

theorem WindowCall.dump_injective : ∀ first second : WindowCall,
    (first.dumpFields.map fun entry => sortKeys entry.2) =
      (second.dumpFields.map fun entry => sortKeys entry.2) →
        first.sortLiterals = second.sortLiterals
  | ⟨fn, over_, arg, offset, buckets⟩ =>
      fun ⟨otherFn, otherOver, otherArg, otherOffset, otherBuckets⟩ values => by
      simp only [WindowCall.dumpFields, List.map_cons, List.map_nil, List.cons.injEq, and_true]
        at values
      obtain ⟨fns, overs, args, offsets, counts⟩ := values
      rw [WindowCall.sortLiterals, WindowCall.sortLiterals,
        WindowFn.value_injective (Json.str.inj fns), WindowSpec.dump_inj overs,
        dumpExpression_injective arg otherArg args, dumpInt_inj offsets, dumpInt_inj counts]
termination_by structural first => first

theorem CaseWhen.dump_injective : ∀ first second : CaseWhen,
    sortKeys first.dump = sortKeys second.dump → first.sortLiterals = second.sortLiterals
  | ⟨when_, then_⟩ => fun ⟨otherWhen, otherThen⟩ same => by
      have values := @values_eq_of_sortKeys _ ["when", "then"] (by decide) _ _ rfl rfl same
      simp only [List.map_cons, List.map_nil, List.cons.injEq, and_true] at values
      obtain ⟨whens, thens⟩ := values
      rw [CaseWhen.sortLiterals, CaseWhen.sortLiterals,
        WhereNode.dump_injective when_ otherWhen whens,
        Expression.dump_injective then_ otherThen thens]
termination_by structural first => first

theorem dumpBranches_injective : ∀ first second : List CaseWhen,
    sortKeysItems (dumpBranches first) = sortKeysItems (dumpBranches second) →
      sortBranches first = sortBranches second
  | [] => fun second same => by
      cases second with
      | nil => rfl
      | cons _ _ => cases same
  | branch :: rest => fun second same => by
      cases second with
      | nil => cases same
      | cons other more =>
          obtain ⟨head, tail⟩ := List.cons.inj same
          rw [sortBranches, sortBranches, CaseWhen.dump_injective branch other head,
            dumpBranches_injective rest more tail]
termination_by structural first => first

theorem WhereNode.dump_injective : ∀ first second : WhereNode,
    sortKeys first.dump = sortKeys second.dump → first.sortLiterals = second.sortLiterals
  | .predicate pred => fun second same => by
      cases second with
      | predicate other =>
          rw [WhereNode.sortLiterals, WhereNode.sortLiterals,
            Predicate.dump_injective pred other same]
      | group =>
          cases pred
          exact nomatch (contains_eq_of_sortKeys same "op" : true = false)
  | .group andTerms orTerms notTerms => fun second same => by
      cases second with
      | predicate other =>
          cases other
          exact nomatch (contains_eq_of_sortKeys same "op" : false = true)
      | group otherAnd otherOr otherNot =>
          have values := @values_eq_of_sortKeys _ ["and_terms", "or_terms", "not_terms"]
            (by decide) _ _ rfl rfl same
          simp only [List.map_cons, List.map_nil, List.cons.injEq, and_true] at values
          obtain ⟨ands, ors, nots⟩ := values
          rw [WhereNode.sortLiterals, WhereNode.sortLiterals,
            dumpTerms_injective andTerms otherAnd ands, dumpTerms_injective orTerms otherOr ors,
            dumpNode_injective notTerms otherNot nots]
termination_by structural first => first

theorem dumpTerms_injective : ∀ first second : Option (List WhereNode),
    sortKeys (dumpTerms first) = sortKeys (dumpTerms second) → sortTerms first = sortTerms second
  | none => fun second same => by
      cases second with
      | none => rfl
      | some _ => cases same
  | some nodes => fun second same => by
      cases second with
      | none => cases same
      | some others =>
          rw [sortTerms, sortTerms, dumpNodes_injective nodes others (Json.list.inj same)]
termination_by structural first => first

theorem dumpNodes_injective : ∀ first second : List WhereNode,
    sortKeysItems (dumpNodes first) = sortKeysItems (dumpNodes second) →
      sortNodes first = sortNodes second
  | [] => fun second same => by
      cases second with
      | nil => rfl
      | cons _ _ => cases same
  | node :: rest => fun second same => by
      cases second with
      | nil => cases same
      | cons other more =>
          obtain ⟨head, tail⟩ := List.cons.inj same
          rw [sortNodes, sortNodes, WhereNode.dump_injective node other head,
            dumpNodes_injective rest more tail]
termination_by structural first => first

theorem dumpNode_injective : ∀ first second : Option WhereNode,
    sortKeys (dumpNode first) = sortKeys (dumpNode second) → sortNode first = sortNode second
  | none => fun second same => by
      cases second with
      | none => rfl
      | some other => exact absurd same.symm (ne_null_of_dict other.dump_dict)
  | some node => fun second same => by
      cases second with
      | none => exact absurd same (ne_null_of_dict node.dump_dict)
      | some other => rw [sortNode, sortNode, WhereNode.dump_injective node other same]
termination_by structural first => first

theorem Predicate.dump_injective : ∀ first second : Predicate,
    sortKeys first.dump = sortKeys second.dump → first.sortLiterals = second.sortLiterals
  | ⟨col, expr, colFn, op, value, valueCol, valueExpr, valueSubquery, existsSubquery⟩ =>
      fun ⟨otherCol, otherExpr, otherFn, otherOp, otherValue, otherValueCol, otherValueExpr,
        otherSubquery, otherExists⟩ same => by
      have values := @values_eq_of_sortKeys _ ["col", "expr", "col_fn", "op", "value", "value_col",
        "value_expr", "value_subquery", "exists_subquery"] (by decide) _ _ rfl rfl same
      simp only [List.map_cons, List.map_nil, List.cons.injEq, and_true] at values
      obtain ⟨cols, exprs, calls, ops, literals, valueCols, valueExprs, subqueries, existences⟩ :=
        values
      rw [Predicate.sortLiterals, Predicate.sortLiterals, dumpText_inj cols,
        dumpExpression_injective expr otherExpr exprs, dumpCall_inj calls,
        ReadCompareOp.value_injective (Json.str.inj ops), sorted_eq_of_dumpValue literals,
        dumpText_inj valueCols, dumpExpression_injective valueExpr otherValueExpr valueExprs,
        dumpQuery_injective valueSubquery otherSubquery subqueries,
        dumpQuery_injective existsSubquery otherExists existences]
termination_by structural first => first

theorem SelectItem.dump_injective : ∀ first second : SelectItem,
    sortKeys first.dump = sortKeys second.dump → first.sortLiterals = second.sortLiterals
  | .bare ref => fun second same => by
      cases second with
      | bare other =>
          cases same
          rfl
      | _ => cases same
  | .aggregate fn col arg distinct alias_ => fun second same => by
      cases second with
      | aggregate otherFn otherCol otherArg otherDistinct otherAlias =>
          have values := @values_eq_of_sortKeys _ ["fn", "col", "arg", "distinct", "alias"]
            (by decide) _ _ rfl rfl same
          simp only [List.map_cons, List.map_nil, List.cons.injEq, and_true] at values
          obtain ⟨fns, cols, args, distincts, named⟩ := values
          rw [SelectItem.sortLiterals, SelectItem.sortLiterals,
            AggregateFn.value_injective (Json.str.inj fns), dumpText_inj cols,
            dumpExpression_injective arg otherArg args, Json.bool.inj distincts, dumpText_inj named]
      | bare _ => cases same
      | window call _ =>
          cases call
          exact nomatch (contains_eq_of_sortKeys same "distinct" : true = false)
      | _ => exact nomatch (contains_eq_of_sortKeys same "distinct" : true = false)
  | .dateBucket item => fun second same => by
      cases second with
      | dateBucket other => rw [DateBucketSelectItem.dump_inj same]
      | bare _ => cases same
      | window call _ =>
          cases call
          exact nomatch (contains_eq_of_sortKeys same "granularity" : true = false)
      | _ => exact nomatch (contains_eq_of_sortKeys same "granularity" : true = false)
  | .stringAgg item => fun second same => by
      cases second with
      | stringAgg other => rw [StringAggSelectItem.dump_inj same]
      | bare _ => cases same
      | window call _ =>
          cases call
          exact nomatch (contains_eq_of_sortKeys same "delimiter" : true = false)
      | _ => exact nomatch (contains_eq_of_sortKeys same "delimiter" : true = false)
  | .arrayAgg item => fun second same => by
      cases second with
      | bare _ => cases same
      | aggregate => exact nomatch (contains_eq_of_sortKeys same "fn" : false = true)
      | dateBucket _ => exact nomatch (contains_eq_of_sortKeys same "granularity" : false = true)
      | stringAgg _ => exact nomatch (contains_eq_of_sortKeys same "delimiter" : false = true)
      | arrayAgg other => rw [ArrayAggSelectItem.dump_inj same]
      | percentileCont _ => exact nomatch (contains_eq_of_sortKeys same "fraction" : false = true)
      | scalarFunction => exact nomatch (contains_eq_of_sortKeys same "fn" : false = true)
      | case => exact nomatch (contains_eq_of_sortKeys same "when" : false = true)
      | expression => exact nomatch (contains_eq_of_sortKeys same "expr" : false = true)
      | window call _ =>
          cases call
          exact nomatch (contains_eq_of_sortKeys same "fn" : false = true)
  | .percentileCont item => fun second same => by
      cases second with
      | percentileCont other => rw [PercentileContSelectItem.dump_inj same]
      | bare _ => cases same
      | window call _ =>
          cases call
          exact nomatch (contains_eq_of_sortKeys same "fraction" : true = false)
      | _ => exact nomatch (contains_eq_of_sortKeys same "fraction" : true = false)
  | .scalarFunction call alias_ => fun second same => by
      cases second with
      | scalarFunction otherCall otherAlias =>
          have values := @values_eq_of_sortKeys _ ["fn", "args", "alias"] (by decide) _ _ rfl rfl same
          simp only [List.map_cons, List.map_nil, List.cons.injEq, and_true] at values
          obtain ⟨fns, args, named⟩ := values
          cases call
          cases otherCall
          cases ScalarFn.value_injective (Json.str.inj fns)
          cases dumpList_inj ScalarFunctionArg.dump_inj args
          rw [dumpText_inj named]
      | bare _ => cases same
      | window call _ =>
          cases call
          exact nomatch (contains_eq_of_sortKeys same "args" : true = false)
      | _ => exact nomatch (contains_eq_of_sortKeys same "args" : true = false)
  | .case when_ else_ alias_ => fun second same => by
      cases second with
      | case otherWhen otherElse otherAlias =>
          have values := @values_eq_of_sortKeys _ ["when", "else_", "alias"] (by decide) _ _ rfl rfl
            same
          simp only [List.map_cons, List.map_nil, List.cons.injEq, and_true] at values
          obtain ⟨whens, elses, named⟩ := values
          rw [SelectItem.sortLiterals, SelectItem.sortLiterals,
            dumpBranches_injective when_ otherWhen (Json.list.inj whens),
            dumpExpression_injective else_ otherElse elses, Json.str.inj named]
      | bare _ => cases same
      | window call _ =>
          cases call
          exact nomatch (contains_eq_of_sortKeys same "when" : true = false)
      | _ => exact nomatch (contains_eq_of_sortKeys same "when" : true = false)
  | .expression expr alias_ => fun second same => by
      cases second with
      | expression otherExpr otherAlias =>
          have values := @values_eq_of_sortKeys _ ["expr", "alias"] (by decide) _ _ rfl rfl same
          simp only [List.map_cons, List.map_nil, List.cons.injEq, and_true] at values
          obtain ⟨exprs, named⟩ := values
          rw [SelectItem.sortLiterals, SelectItem.sortLiterals,
            Expression.dump_injective expr otherExpr exprs, Json.str.inj named]
      | bare _ => cases same
      | window call _ =>
          cases call
          exact nomatch (contains_eq_of_sortKeys same "expr" : true = false)
      | _ => exact nomatch (contains_eq_of_sortKeys same "expr" : true = false)
  | .window ⟨fn, over_, arg, offset, buckets⟩ alias_ => fun second same => by
      cases second with
      | window call otherAlias =>
          have values := @values_eq_of_sortKeys _ ["fn", "over", "arg", "offset", "buckets", "alias"]
            (by decide) _ _ rfl (by cases call; rfl) same
          rw [List.map_append, List.map_append] at values
          obtain ⟨fields, named⟩ := List.append_inj' values rfl
          rw [SelectItem.sortLiterals, SelectItem.sortLiterals,
            WindowCall.dump_injective ⟨fn, over_, arg, offset, buckets⟩ call fields,
            Json.str.inj (List.cons.inj named).1]
      | bare _ => cases same
      | _ => exact nomatch (contains_eq_of_sortKeys same "over" : true = false)
termination_by structural first => first

theorem dumpItems_injective : ∀ first second : List SelectItem,
    sortKeysItems (dumpItems first) = sortKeysItems (dumpItems second) →
      sortItems first = sortItems second
  | [] => fun second same => by
      cases second with
      | nil => rfl
      | cons _ _ => cases same
  | head :: rest => fun second same => by
      cases second with
      | nil => cases same
      | cons other more =>
          obtain ⟨heads, tails⟩ := List.cons.inj same
          rw [sortItems, sortItems, SelectItem.dump_injective head other heads,
            dumpItems_injective rest more tails]
termination_by structural first => first

theorem JoinSpec.dump_injective : ∀ first second : JoinSpec,
    sortKeys first.dump = sortKeys second.dump → first.sortLiterals = second.sortLiterals
  | ⟨table, alias_, type, on, extraOn, condition, connection⟩ =>
      fun ⟨otherTable, otherAlias, otherType, otherOn, otherExtra, otherCondition,
        otherConnection⟩ same => by
      have values := @values_eq_of_sortKeys _ ["table", "alias", "type", "on", "extra_on",
        "condition", "connection"] (by decide) _ _ rfl rfl same
      simp only [List.map_cons, List.map_nil, List.cons.injEq, and_true] at values
      obtain ⟨tables, named, types, ons, extras, conditions, connections⟩ := values
      rw [JoinSpec.sortLiterals, JoinSpec.sortLiterals, Json.str.inj tables, dumpText_inj named,
        JoinType.value_injective (Json.str.inj types), dumpOn_inj ons,
        dumpList_inj dumpPair_inj extras, dumpNode_injective condition otherCondition conditions,
        dumpText_inj connections]
termination_by structural first => first

theorem dumpJoins_injective : ∀ first second : List JoinSpec,
    sortKeysItems (dumpJoins first) = sortKeysItems (dumpJoins second) →
      sortJoins first = sortJoins second
  | [] => fun second same => by
      cases second with
      | nil => rfl
      | cons _ _ => cases same
  | head :: rest => fun second same => by
      cases second with
      | nil => cases same
      | cons other more =>
          obtain ⟨heads, tails⟩ := List.cons.inj same
          rw [sortJoins, sortJoins, JoinSpec.dump_injective head other heads,
            dumpJoins_injective rest more tails]
termination_by structural first => first

theorem dumpSetOp_injective : ∀ first second : Option SetOpSpec,
    sortKeys (dumpSetOp first) = sortKeys (dumpSetOp second) → sortSetOp first = sortSetOp second
  | none => fun second same => by
      cases second with
      | none => rfl
      | some other =>
          cases other
          cases same
  | some spec => fun second same => by
      cases second with
      | none =>
          cases spec
          cases same
      | some other => rw [sortSetOp, sortSetOp, SetOpSpec.dump_injective spec other same]
termination_by structural first => first

theorem SetOpSpec.dump_injective : ∀ first second : SetOpSpec,
    sortKeys first.dump = sortKeys second.dump → first.sortLiterals = second.sortLiterals
  | ⟨op, all, arms⟩ => fun ⟨otherOp, otherAll, otherArms⟩ same => by
      have values := @values_eq_of_sortKeys _ ["op", "all_", "arms"] (by decide) _ _ rfl rfl same
      simp only [List.map_cons, List.map_nil, List.cons.injEq, and_true] at values
      obtain ⟨ops, alls, queries⟩ := values
      rw [SetOpSpec.sortLiterals, SetOpSpec.sortLiterals,
        SetOpKind.value_injective (Json.str.inj ops), Json.bool.inj alls,
        dumpQueries_injective arms otherArms (Json.list.inj queries)]
termination_by structural first => first

theorem CteSpec.dump_injective : ∀ first second : CteSpec,
    sortKeys first.dump = sortKeys second.dump → first.sortLiterals = second.sortLiterals
  | ⟨name, query⟩ => fun ⟨otherName, otherQuery⟩ same => by
      have values := @values_eq_of_sortKeys _ ["name", "query"] (by decide) _ _ rfl rfl same
      simp only [List.map_cons, List.map_nil, List.cons.injEq, and_true] at values
      obtain ⟨names, queries⟩ := values
      rw [CteSpec.sortLiterals, CteSpec.sortLiterals, Json.str.inj names,
        StructuredQuery.dump_injective query otherQuery queries]
termination_by structural first => first

theorem dumpCtes_injective : ∀ first second : List CteSpec,
    sortKeysItems (dumpCtes first) = sortKeysItems (dumpCtes second) →
      sortCtes first = sortCtes second
  | [] => fun second same => by
      cases second with
      | nil => rfl
      | cons _ _ => cases same
  | head :: rest => fun second same => by
      cases second with
      | nil => cases same
      | cons other more =>
          obtain ⟨heads, tails⟩ := List.cons.inj same
          rw [sortCtes, sortCtes, CteSpec.dump_injective head other heads,
            dumpCtes_injective rest more tails]
termination_by structural first => first

theorem dumpQueries_injective : ∀ first second : List StructuredQuery,
    sortKeysItems (dumpQueries first) = sortKeysItems (dumpQueries second) →
      sortQueries first = sortQueries second
  | [] => fun second same => by
      cases second with
      | nil => rfl
      | cons _ _ => cases same
  | head :: rest => fun second same => by
      cases second with
      | nil => cases same
      | cons other more =>
          obtain ⟨heads, tails⟩ := List.cons.inj same
          rw [sortQueries, sortQueries, StructuredQuery.dump_injective head other heads,
            dumpQueries_injective rest more tails]
termination_by structural first => first

theorem dumpQuery_injective : ∀ first second : Option StructuredQuery,
    sortKeys (dumpQuery first) = sortKeys (dumpQuery second) → sortQuery first = sortQuery second
  | none => fun second same => by
      cases second with
      | none => rfl
      | some other => exact absurd same.symm (ne_null_of_dict other.dump_dict)
  | some query => fun second same => by
      cases second with
      | none => exact absurd same (ne_null_of_dict query.dump_dict)
      | some other => rw [sortQuery, sortQuery, StructuredQuery.dump_injective query other same]
termination_by structural first => first

/-- Queries whose dumps agree up to the order of keys are equal up to the order of keys in
their literals. -/
theorem StructuredQuery.dump_injective : ∀ first second : StructuredQuery,
    sortKeys first.dump = sortKeys second.dump → first.sortLiterals = second.sortLiterals
  | ⟨fromTable, fromAlias, select, distinct, joins, where_, groupBy, having, orderBy, limit,
      offset, topN, setOp, correlate, ctes, intent, purpose⟩ =>
      fun ⟨otherTable, otherAlias, otherSelect, otherDistinct, otherJoins, otherWhere,
        otherGroupBy, otherHaving, otherOrderBy, otherLimit, otherOffset, otherTopN, otherSetOp,
        otherCorrelate, otherCtes, otherIntent, otherPurpose⟩ same => by
      have values := @values_eq_of_sortKeys _ ["from_table", "from_alias", "select", "distinct",
        "joins", "where", "group_by", "having", "order_by", "limit", "offset", "top_n", "set_op",
        "correlate", "ctes", "intent", "purpose"] (by decide) _ _ rfl rfl same
      simp only [List.map_cons, List.map_nil, List.cons.injEq, and_true] at values
      obtain ⟨tables, aliases, selects, distincts, joined, wheres, groups, havings, orders, limits,
        offsets, tops, setOps, correlates, blocks, intents, purposes⟩ := values
      rw [StructuredQuery.sortLiterals, StructuredQuery.sortLiterals, Json.str.inj tables,
        dumpText_inj aliases, dumpItems_injective select otherSelect (Json.list.inj selects),
        Json.bool.inj distincts, dumpJoins_injective joins otherJoins (Json.list.inj joined),
        dumpNode_injective where_ otherWhere wheres, dumpTexts_inj groups,
        dumpNode_injective having otherHaving havings, dumpList_inj OrderBySpec.dump_inj orders,
        dumpInt_inj limits, Json.int.inj offsets, dumpTopN_inj tops,
        dumpSetOp_injective setOp otherSetOp setOps, dumpTexts_inj correlates,
        dumpCtes_injective ctes otherCtes (Json.list.inj blocks), dumpText_inj intents,
        dumpText_inj purposes]
termination_by structural first => first

end

end QueryGate
