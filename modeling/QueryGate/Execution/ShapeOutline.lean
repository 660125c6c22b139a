import QueryGate.Audit.Outline
import QueryGate.Execution.DisclosureBudget

/-! # The canonical shape, from the outline

What `canonicalize` makes of a query's shape, and the output names it collects from
it, are functions of the query's outline.
-/

namespace QueryGate

open Foundation

section Canonical

variable (rewrite : String → String)

mutual

/-- The canonical shape of an outline, with its names rewritten. -/
def Outline.canonical : Outline → Shape
  | .absent => .null
  | .flag value => .bool value
  | .count value => .int value
  | .name token => .str (rewrite token.text)
  | .list items => .list (sortByText (canonicalList items))
  | .dict entries => .dict (canonicalDict entries)
  | .declares _ body => body.canonical
termination_by structural outline => outline

/-- The canonical shapes of the items of a list. -/
def canonicalList : List Outline → List Shape
  | [] => []
  | item :: rest => item.canonical :: canonicalList rest
termination_by structural items => items

/-- The canonical shapes of the entries of a dictionary. -/
def canonicalDict : List (String × Outline) → List (String × Shape)
  | [] => []
  | (key, value) :: rest => (key, value.canonical) :: canonicalDict rest
termination_by structural entries => entries

end

@[simp]
theorem canonicalDict_append (first second : List (String × Outline)) :
    canonicalDict rewrite (first ++ second) =
      canonicalDict rewrite first ++ canonicalDict rewrite second := by
  induction first with
  | nil => rfl
  | cons entry rest ih => rw [List.cons_append, canonicalDict, canonicalDict, ih, List.cons_append]

end Canonical

section Equation

variable {aliases : List (String × String)} {authored : List String}

@[simp]
theorem canonicalEntries_append (first second : List (String × Shape)) :
    canonicalEntries aliases authored (first ++ second) =
      canonicalEntries aliases authored first ++ canonicalEntries aliases authored second := by
  induction first with
  | nil => rfl
  | cons entry rest ih =>
      obtain ⟨key, value⟩ := entry
      rw [List.cons_append, canonicalEntries, canonicalEntries, ih]
      split
      · rfl
      · rw [List.cons_append]

@[simp]
theorem canonicalEntries_aliasEntry (alias_ : Option String) :
    canonicalEntries aliases authored (aliasEntry alias_) = [] := by
  cases alias_ <;> rfl

@[simp]
theorem canonical_named (rewrite : String → String) (alias_ : Option String) (body : Outline) :
    (Outline.named alias_ body).canonical rewrite = body.canonical rewrite := by
  cases alias_ <;> rfl

theorem canonicalize_textList (sight : Sight) (texts : List String) :
    canonicalize aliases authored (textList texts) =
      (Outline.refs sight texts).canonical (canonicalText aliases authored) := by
  have items : canonicalItems aliases authored (texts.map .str) =
      canonicalList (canonicalText aliases authored) (texts.map (Outline.ref sight)) := by
    induction texts with
    | nil => rfl
    | cons text rest ih =>
        rw [List.map_cons, List.map_cons, canonicalItems, canonicalList, ih]
        rfl
  rw [textList, canonicalize, items]
  rfl

theorem canonicalEntries_frameEntry (spec : WindowSpec) :
    canonicalEntries aliases authored (frameEntry spec) =
      canonicalDict (canonicalText aliases authored) (Outline.frame spec) := by
  unfold frameEntry Outline.frame
  cases spec.frame <;> rfl

theorem canonicalize_orderShape (sight : Sight) (spec : OrderBySpec) :
    canonicalize aliases authored (orderShape spec) =
      (Outline.order sight spec).canonical (canonicalText aliases authored) := rfl

theorem canonicalItems_orderShapes (sight : Sight) (specs : List OrderBySpec) :
    canonicalItems aliases authored (specs.map orderShape) =
      canonicalList (canonicalText aliases authored) (specs.map (Outline.order sight)) := by
  induction specs with
  | nil => rfl
  | cons spec rest ih =>
      rw [List.map_cons, List.map_cons, canonicalItems, canonicalList, ih,
        canonicalize_orderShape sight]

theorem canonicalEntries_subject (sight : Sight) (col : Option String)
    (colFn : Option ScalarFunctionCall) {shape : Shape} {expression : Outline}
    (same : canonicalize aliases authored shape =
      expression.canonical (canonicalText aliases authored)) :
    canonicalEntries aliases authored (subjectEntries col colFn shape) =
      canonicalDict (canonicalText aliases authored)
        (Outline.subject sight col colFn expression) := by
  cases col with
  | some ref => rfl
  | none =>
      cases colFn with
      | some call =>
          simp [subjectEntries, Outline.subject, canonicalEntries, canonicalDict,
            volatileShapeKeys, canonicalize_textList sight]
          rfl
      | none =>
          simp [subjectEntries, Outline.subject, canonicalEntries, canonicalDict,
            volatileShapeKeys, same]

theorem canonicalEntries_argument (sight : Sight) (col : Option String) (arg : Option Expression)
    (columns : List String) {shape : Shape} {expression : Outline}
    (same : canonicalize aliases authored shape =
      expression.canonical (canonicalText aliases authored)) :
    canonicalEntries aliases authored (argumentEntries col arg shape columns) =
      canonicalDict (canonicalText aliases authored)
        (Outline.argument sight col arg expression columns) := by
  unfold argumentEntries Outline.argument
  split
  · cases col <;> rfl
  · rfl
  · simp [canonicalEntries, canonicalDict, volatileShapeKeys, same, canonicalize_textList sight]

theorem canonicalEntries_single {key : String} (kept : key ∉ volatileShapeKeys) {shape : Shape}
    {body : Outline}
    (same : canonicalize aliases authored shape =
      body.canonical (canonicalText aliases authored)) :
    canonicalEntries aliases authored [(key, shape)] =
      canonicalDict (canonicalText aliases authored) [(key, body)] := by
  rw [canonicalEntries, if_neg kept, canonicalDict, same]
  rfl

mutual

theorem canonicalize_expression (sight : Sight) : ∀ expr : Expression,
    canonicalize aliases authored (expressionShape expr) =
      (outlineExpression sight expr).canonical (canonicalText aliases authored)
  | .column _ => rfl
  | .literal _ => rfl
  | .now _ => rfl
  | .binaryOp _ left right => by
      simp [expressionShape, outlineExpression, canonicalize, Outline.canonical, canonicalEntries,
        canonicalDict, canonicalItems, canonicalList, volatileShapeKeys, Outline.word, Token.text,
        canonicalize_expression sight left, canonicalize_expression sight right]
  | .function _ args => by
      simp [expressionShape, outlineExpression, canonicalize, Outline.canonical, canonicalEntries,
        canonicalDict, volatileShapeKeys, Outline.word, Token.text, canonicalItems_arguments sight args]
  | .cast operand _ => by
      simp [expressionShape, outlineExpression, canonicalize, Outline.canonical, canonicalEntries,
        canonicalDict, volatileShapeKeys, Outline.word, Token.text,
        canonicalize_expression sight operand]
  | .extract operand _ => by
      simp [expressionShape, outlineExpression, canonicalize, Outline.canonical, canonicalEntries,
        canonicalDict, volatileShapeKeys, Outline.word, Token.text,
        canonicalize_expression sight operand]
  | .dateAdd operand _ _ => by
      simp [expressionShape, outlineExpression, canonicalize, Outline.canonical, canonicalEntries,
        canonicalDict, volatileShapeKeys, Outline.word, Token.text,
        canonicalize_expression sight operand]
  | .case when_ else_ => by
      simp [expressionShape, outlineExpression, canonicalize, Outline.canonical, canonicalEntries,
        canonicalDict, volatileShapeKeys, Outline.word, Token.text,
        canonicalItems_conditions sight when_, canonicalItems_results sight when_,
        canonicalEntries_expression sight else_]
  | .window call => by
      rw [expressionShape, outlineExpression, canonicalize, Outline.canonical,
        canonicalEntries_window sight call]
termination_by structural expr => expr

theorem canonicalItems_arguments (sight : Sight) : ∀ exprs : List Expression,
    canonicalItems aliases authored (argumentShapes exprs) =
      canonicalList (canonicalText aliases authored) (outlineArguments sight exprs)
  | [] => rfl
  | expr :: rest => by
      rw [argumentShapes, outlineArguments, canonicalItems, canonicalList,
        canonicalize_expression sight expr, canonicalItems_arguments sight rest]
termination_by structural exprs => exprs

theorem canonicalEntries_expression (sight : Sight) : ∀ (expr : Option Expression) {key : String},
    key ∉ volatileShapeKeys →
    canonicalEntries aliases authored (expressionEntry key expr) =
      canonicalDict (canonicalText aliases authored) (expressionOutline sight key expr)
  | none, _, _ => rfl
  | some expr, _, kept => canonicalEntries_single kept (canonicalize_expression sight expr)
termination_by structural expr => expr

theorem canonicalEntries_window (sight : Sight) : ∀ call : WindowCall,
    canonicalEntries aliases authored (windowEntries call) =
      canonicalDict (canonicalText aliases authored) (outlineWindow sight call)
  | ⟨_, over_, arg, _, _⟩ => by
      simp [windowEntries, outlineWindow, canonicalize, Outline.canonical, canonicalEntries,
        canonicalDict, volatileShapeKeys, Outline.word, Token.text, canonicalize_textList sight,
        canonicalEntries_frameEntry, canonicalEntries_expression sight arg]
termination_by structural call => call

theorem canonicalEntries_windowItem (sight : Sight) : ∀ call : WindowCall,
    canonicalEntries aliases authored (windowItemEntries call) =
      canonicalDict (canonicalText aliases authored) (outlineWindowItem sight call)
  | ⟨_, over_, arg, _, _⟩ => by
      rw [windowItemEntries, outlineWindowItem, canonicalEntries_append, canonicalDict_append,
        canonicalEntries_frameEntry, canonicalEntries_expression sight arg (by decide)]
termination_by structural call => call

theorem canonicalItems_conditions (sight : Sight) : ∀ branches : List CaseWhen,
    canonicalItems aliases authored (conditionShapes branches) =
      canonicalList (canonicalText aliases authored) (outlineConditions sight branches)
  | [] => rfl
  | ⟨when_, _⟩ :: rest => by
      rw [conditionShapes, outlineConditions, canonicalItems, canonicalList, conditionShape,
        outlineCondition, canonicalize_where sight when_, canonicalItems_conditions sight rest]
termination_by structural branches => branches

theorem canonicalItems_results (sight : Sight) : ∀ branches : List CaseWhen,
    canonicalItems aliases authored (resultShapes branches) =
      canonicalList (canonicalText aliases authored) (outlineResults sight branches)
  | [] => rfl
  | ⟨_, then_⟩ :: rest => by
      rw [resultShapes, outlineResults, canonicalItems, canonicalList, resultShape,
        outlineResult, canonicalize_expression sight then_, canonicalItems_results sight rest]
termination_by structural branches => branches

theorem canonicalize_where (sight : Sight) : ∀ node : WhereNode,
    canonicalize aliases authored (whereNodeShape node) =
      (outlineWhere sight node).canonical (canonicalText aliases authored)
  | .predicate pred => by
      rw [whereNodeShape, outlineWhere, canonicalize_predicate sight pred]
  | .group andTerms orTerms notTerms => by
      rw [whereNodeShape, outlineWhere]
      split
      · simp [canonicalize, Outline.canonical, canonicalEntries, canonicalDict, volatileShapeKeys,
          canonicalItems_terms sight andTerms]
      · split
        · simp [canonicalize, Outline.canonical, canonicalEntries, canonicalDict,
            volatileShapeKeys, canonicalItems_terms sight orTerms]
        · simp [canonicalize, Outline.canonical, canonicalEntries, canonicalDict,
            volatileShapeKeys, canonicalize_optionNode sight notTerms]
termination_by structural node => node

theorem canonicalItems_terms (sight : Sight) : ∀ terms : Option (List WhereNode),
    canonicalItems aliases authored (termNodeShapes terms) =
      canonicalList (canonicalText aliases authored) (outlineTerms sight terms)
  | none => rfl
  | some nodes => canonicalItems_nodes sight nodes
termination_by structural terms => terms

theorem canonicalItems_nodes (sight : Sight) : ∀ nodes : List WhereNode,
    canonicalItems aliases authored (nodeListShapes nodes) =
      canonicalList (canonicalText aliases authored) (outlineNodes sight nodes)
  | [] => rfl
  | node :: rest => by
      rw [nodeListShapes, outlineNodes, canonicalItems, canonicalList,
        canonicalize_where sight node, canonicalItems_nodes sight rest]
termination_by structural nodes => nodes

theorem canonicalize_optionNode (sight : Sight) : ∀ node : Option WhereNode,
    canonicalize aliases authored (optionNodeShape node) =
      (outlineOptionNode sight node).canonical (canonicalText aliases authored)
  | none => rfl
  | some node => canonicalize_where sight node
termination_by structural node => node

theorem canonicalEntries_where (sight : Sight) : ∀ (node : Option WhereNode) {key : String},
    key ∉ volatileShapeKeys →
    canonicalEntries aliases authored (whereEntry key node) =
      canonicalDict (canonicalText aliases authored) (whereOutline sight key node)
  | none, _, _ => rfl
  | some node, _, kept => canonicalEntries_single kept (canonicalize_where sight node)
termination_by structural node => node

theorem canonicalize_predicate (sight : Sight) : ∀ pred : Predicate,
    canonicalize aliases authored (predicateShape pred) =
      (outlinePredicate sight pred).canonical (canonicalText aliases authored)
  | ⟨col, expr, colFn, op, _, valueCol, valueExpr, valueSubquery, existsSubquery⟩ => by
      have column : canonicalEntries aliases authored
          (optionalEntry "value_column" (valueCol.map .str)) =
            canonicalDict (canonicalText aliases authored)
              (Outline.entry "value_column" (valueCol.map (Outline.ref sight))) := by
        cases valueCol <;> rfl
      rw [predicateShape, outlinePredicate]
      split
      · simp [canonicalize, Outline.canonical, canonicalEntries, canonicalDict, volatileShapeKeys,
          Outline.word, Token.text, canonicalEntries_subquery sight existsSubquery]
      · simp [canonicalize, Outline.canonical, canonicalEntries, canonicalDict, volatileShapeKeys,
          Outline.word, Token.text, canonicalEntries_subquery sight valueSubquery,
          canonicalEntries_expression sight valueExpr, column,
          canonicalEntries_subject sight col colFn (canonicalize_optionExpression sight expr)]
termination_by structural pred => pred

theorem canonicalize_optionExpression (sight : Sight) : ∀ expr : Option Expression,
    canonicalize aliases authored (optionExpressionShape expr) =
      (outlineOptionExpression sight expr).canonical (canonicalText aliases authored)
  | none => rfl
  | some expr => canonicalize_expression sight expr
termination_by structural expr => expr

theorem canonicalEntries_subquery (sight : Sight) :
    ∀ (query : Option StructuredQuery) {key : String}, key ∉ volatileShapeKeys →
    canonicalEntries aliases authored (queryEntry key query) =
      canonicalDict (canonicalText aliases authored) (subqueryOutline sight key query)
  | none, _, _ => rfl
  | some query, _, kept => canonicalEntries_single kept (canonicalize_query sight.frames query)
termination_by structural query => query

theorem canonicalize_select (sight : Sight) : ∀ item : SelectItem,
    canonicalize aliases authored (selectShape item) =
      (outlineSelect sight item).canonical (canonicalText aliases authored)
  | .bare _ => rfl
  | .dateBucket _ => by
      simp [selectShape, outlineSelect, canonicalize, Outline.canonical, canonicalEntries,
        canonicalDict, volatileShapeKeys, Outline.word, Outline.ref, Sight.token, Token.text]
  | .stringAgg _ => by
      simp [selectShape, outlineSelect, canonicalize, Outline.canonical, canonicalEntries,
        canonicalDict, volatileShapeKeys, Outline.word, Outline.ref, Sight.token, Token.text]
  | .arrayAgg _ => by
      simp [selectShape, outlineSelect, canonicalize, Outline.canonical, canonicalEntries,
        canonicalDict, volatileShapeKeys, Outline.word, Outline.ref, Sight.token, Token.text]
  | .percentileCont _ => by
      simp [selectShape, outlineSelect, canonicalize, Outline.canonical, canonicalEntries,
        canonicalDict, volatileShapeKeys, Outline.word, Outline.ref, Sight.token, Token.text]
  | .scalarFunction _ _ => by
      simp [selectShape, outlineSelect, canonicalize, Outline.canonical, canonicalEntries,
        canonicalDict, volatileShapeKeys, Outline.word, Token.text, canonicalize_textList sight]
  | .aggregate _ col arg _ _ => by
      simp [selectShape, outlineSelect, canonicalize, Outline.canonical, canonicalEntries,
        canonicalDict, volatileShapeKeys, Outline.word, Token.text,
        canonicalEntries_argument sight col arg _ (canonicalize_optionExpression sight arg)]
  | .expression expr _ => by
      simp [selectShape, outlineSelect, canonicalize, Outline.canonical, canonicalEntries,
        canonicalDict, volatileShapeKeys, Outline.word, Token.text, canonicalize_textList sight,
        canonicalize_expression sight expr]
  | .case when_ _ _ => by
      simp [selectShape, outlineSelect, canonicalize, Outline.canonical, canonicalEntries,
        canonicalDict, volatileShapeKeys, Outline.word, Token.text, canonicalize_textList sight,
        canonicalItems_conditions sight when_]
  | .window call _ => by
      simp [selectShape, outlineSelect, canonicalize, Outline.canonical, canonicalEntries,
        canonicalDict, volatileShapeKeys, Outline.word, Token.text, canonicalize_textList sight,
        canonicalEntries_windowItem sight call]
termination_by structural item => item

theorem canonicalItems_select (sight : Sight) : ∀ items : List SelectItem,
    canonicalItems aliases authored (selectShapes items) =
      canonicalList (canonicalText aliases authored) (outlineSelects sight items)
  | [] => rfl
  | item :: rest => by
      rw [selectShapes, outlineSelects, canonicalItems, canonicalList,
        canonicalize_select sight item, canonicalItems_select sight rest]
termination_by structural items => items

theorem canonicalize_join (sight : Sight) : ∀ join : JoinSpec,
    canonicalize aliases authored (joinShape join) =
      (outlineJoin sight join).canonical (canonicalText aliases authored)
  | ⟨_, _, _, on, _, condition, connection⟩ => by
      have pair : canonicalEntries aliases authored
          (optionalEntry "on" (on.map fun pair => textList [pair.1, pair.2])) =
            canonicalDict (canonicalText aliases authored)
              (Outline.entry "on" (on.map fun pair => Outline.refs sight [pair.1, pair.2])) := by
        cases on with
        | none => rfl
        | some pair => exact canonicalEntries_single (by decide) (canonicalize_textList sight _)
      have database : canonicalEntries aliases authored
          (optionalEntry "connection" ((connection.filter (· != "")).map .str)) =
            canonicalDict (canonicalText aliases authored)
              (Outline.entry "connection" ((connection.filter (· != "")).map Outline.word)) := by
        cases connection.filter (· != "") <;> rfl
      simp [joinShape, outlineJoin, canonicalize, Outline.canonical, canonicalEntries,
        canonicalDict, volatileShapeKeys, Outline.word, Token.text, pair, database,
        canonicalEntries_where sight condition]
termination_by structural join => join

theorem canonicalItems_joins (sight : Sight) : ∀ joins : List JoinSpec,
    canonicalItems aliases authored (joinShapes joins) =
      canonicalList (canonicalText aliases authored) (outlineJoins sight joins)
  | [] => rfl
  | join :: rest => by
      rw [joinShapes, outlineJoins, canonicalItems, canonicalList, canonicalize_join sight join,
        canonicalItems_joins sight rest]
termination_by structural joins => joins

theorem canonicalEntries_setOp : ∀ spec : Option SetOpSpec,
    canonicalEntries aliases authored (setOpEntry spec) =
      canonicalDict (canonicalText aliases authored) (setOpOutline spec)
  | none => rfl
  | some ⟨op, all, arms⟩ => by
      simp [setOpEntry, setOpOutline, setOpShape, outlineSetOp, canonicalize, Outline.canonical,
        canonicalEntries, canonicalDict, volatileShapeKeys, Outline.word, Token.text,
        canonicalItems_queries arms]
termination_by structural spec => spec

theorem canonicalItems_queries : ∀ queries : List StructuredQuery,
    canonicalItems aliases authored (queryShapes queries) =
      canonicalList (canonicalText aliases authored) (outlineQueries queries)
  | [] => rfl
  | query :: rest => by
      rw [queryShapes, outlineQueries, canonicalItems, canonicalList, canonicalize_query [] query,
        canonicalItems_queries rest]
termination_by structural queries => queries

theorem canonicalItems_ctes : ∀ specs : List CteSpec,
    canonicalItems aliases authored (cteShapes specs) =
      canonicalList (canonicalText aliases authored) (outlineCtes specs)
  | [] => rfl
  | ⟨name, query⟩ :: rest => by
      simp [cteShapes, outlineCtes, cteShape, outlineCte, canonicalItems, canonicalList,
        canonicalize, Outline.canonical, canonicalEntries, canonicalDict, volatileShapeKeys,
        canonicalize_query [] query, canonicalItems_ctes rest]
termination_by structural specs => specs

/-- The canonical shape of a query is read off its outline, wherever it stands. -/
theorem canonicalize_query (around : List (List (String × String))) : ∀ query : StructuredQuery,
    canonicalize aliases authored (normalizeQueryShape query) =
      (outlineIn around query).canonical (canonicalText aliases authored)
  | ⟨fromTable, fromAlias, select, distinct, joins, where_, groupBy, having, orderBy, limit,
      offset, topN, setOp, correlate, ctes, intent, purpose⟩ => by
      have ranked : ∀ sight : Sight, canonicalEntries aliases authored
          (optionalEntry "top_n" (topN.map topNShape)) =
            canonicalDict (canonicalText aliases authored)
              (Outline.entry "top_n" (topN.map (Outline.topN sight))) := by
        intro sight
        cases topN with
        | none => rfl
        | some spec =>
            refine canonicalEntries_single (by decide) ?_
            simp [topNShape, Outline.topN, canonicalize, Outline.canonical, canonicalEntries,
              canonicalDict, volatileShapeKeys, Outline.word, Token.text,
              canonicalize_textList sight, canonicalItems_orderShapes sight]
      have limited : canonicalEntries aliases authored
          (optionalEntry "requested_limit" (limit.map .int)) = [] := by
        cases limit <;> rfl
      have outer : canonicalEntries aliases authored
          (if correlate.isEmpty then [] else [("correlate", textList correlate)]) =
            canonicalDict (canonicalText aliases authored) (if correlate.isEmpty then []
              else [("correlate", .refs { frames := around } correlate)]) := by
        split
        · rfl
        · exact canonicalEntries_single (by decide) (canonicalize_textList _ correlate)
      have blocks : canonicalEntries aliases authored
          (if ctes.isEmpty then [] else [("ctes", .list (cteShapes ctes))]) =
            canonicalDict (canonicalText aliases authored) (if ctes.isEmpty then []
              else [("ctes", .list (outlineCtes ctes))]) := by
        split
        · rfl
        · refine canonicalEntries_single (by decide) ?_
          rw [canonicalize, Outline.canonical, canonicalItems_ctes ctes]
      rw [normalizeQueryShape, outlineIn]
      generalize StructuredQuery.sight _ around = sight
      simp only [canonicalize, Outline.canonical, canonicalEntries_append, canonicalDict_append,
        outer, blocks, limited, ranked sight, canonicalEntries_setOp setOp, List.append_nil,
        canonicalEntries_where sight where_ (by decide : "where" ∉ volatileShapeKeys),
        canonicalEntries_where sight having (by decide : "having" ∉ volatileShapeKeys)]
      simp [canonicalEntries, canonicalDict, canonicalize, Outline.canonical, volatileShapeKeys,
        Token.text, canonicalize_textList sight, canonicalItems_select sight select,
        canonicalItems_joins sight joins, canonicalItems_orderShapes sight]
termination_by structural query => query

end

end Equation

section Authored

theorem entryAuthoredNames_cons {key : String} (other : key ∉ authoredNameKeys) (value : Shape)
    (rest : List (String × Shape)) :
    entryAuthoredNames ((key, value) :: rest) =
      collectAuthoredNames value ++ entryAuthoredNames rest := by
  have undeclared : declaredName key value = none := by
    cases value with
    | str text => exact if_neg other
    | _ => rfl
  rw [entryAuthoredNames, undeclared]

@[simp]
theorem entryAuthoredNames_append (first second : List (String × Shape)) :
    entryAuthoredNames (first ++ second) =
      entryAuthoredNames first ++ entryAuthoredNames second := by
  induction first with
  | nil => rfl
  | cons entry rest ih =>
      rw [List.cons_append, entryAuthoredNames, entryAuthoredNames, ih, List.append_assoc]

@[simp]
theorem entryAuthoredNames_aliasEntry (alias_ : Option String) :
    entryAuthoredNames (aliasEntry alias_) = alias_.toList.map casefold := by
  cases alias_ <;> rfl

@[simp]
theorem dictOutputs_append (first second : List (String × Outline)) :
    dictOutputs (first ++ second) = dictOutputs first ++ dictOutputs second := by
  induction first with
  | nil => rfl
  | cons entry rest ih => rw [List.cons_append, dictOutputs, dictOutputs, ih, List.append_assoc]

@[simp]
theorem outputs_named (alias_ : Option String) (body : Outline) :
    (Outline.named alias_ body).outputs = alias_.toList ++ body.outputs := by
  cases alias_ <;> rfl

end Authored

end QueryGate
