import QueryGate.Compiler.Resolution
import QueryGate.Validation.AccessRules

/-! # Access rules over the whole query tree

Which physical columns an accepted query can reach. Policy validation resolves a
name through the scope's own map, the compiler through the objects validation
bound; the two agree except on names that a `correlate` opens.
-/

namespace QueryGate

open Foundation

/-- A table object stands for no physical column the policy refuses: it is not a
physical table, or the table and the column are allowed. -/
def AllowedOn (policy : Policy) (object : FromObj) (column : String) : Prop :=
  ∀ connection spelling schema, object.element = .table connection spelling schema →
    policy.tableAllowed spelling = true ∧ policy.columnAllowed spelling column = true

/-- Every reference of every scope resolves, in the tables the compiler uses, to an
object on which the policy allows it, whatever the compiled WITH blocks are. -/
def PolicySound (policy : Policy) (query : StructuredQuery) (reflected : ReflectedQuery) : Prop :=
  ∀ path scope, ScopeAt query path scope → ∃ tables,
    dictGet reflected.scopeTables path = some tables ∧
    ∀ objects : CteObjects, objects.Visible (visibleCteNames query path) →
      ∀ ref ∈ iterColumnRefs scope, ∃ table column object,
        parseColumnRef ref.ref = .ok (table, column) ∧
        tableByName (compiledTables objects path scope tables) table = .ok object ∧
        AllowedOn policy object column

/-- The references that no rule looked at: those a subquery makes, without
declaring the column, through a name its `correlate` opens. Each is about an
allowed column of the physical table the name stands for in the enclosing scope. -/
def OpenedColumnsAllowed (policy : Policy) (query : StructuredQuery) : Prop :=
  ∀ path scope step nested, (step, nested) ∈ childScopes scope →
    ∀ ref ∈ iterColumnRefs nested, ∀ table column,
      parseColumnRef ref.ref = .ok (table, column) →
      opensOuter (path ++ [step]) nested table = true → ¬ VouchedFor path scope nested table column →
      casefold (physicalTable nested table) ∉ visibleCteNames query (path ++ [step]) →
      ∀ physical, StandsFor query path scope table physical →
        casefold physical ∉ declaredCteNames query → policy.columnAllowed physical column = true

section Sound

variable {context : RequestContext} {query : StructuredQuery} {policy effective : Policy}
  {connections : ScopeConnections} {schema : SchemaContext} {reflected : ReflectedQuery}
  {path : ScopePath} {scope : StructuredQuery} {blocks outer tables : Tables}
  {objects : CteObjects} {name physical : String} {object : FromObj}

/-- A name the compiler resolves to a physical table: neither the name's own entry
nor what it stands for is a WITH block, and the table is the one it stands for. -/
theorem Reflection.of_compiled_table
    (at_ : Reflection schema query reflected path scope blocks outer tables)
    (named : BlocksNamed .placeholder reflected.cteTables (declaredCteNames query))
    (ordered : OrderedBlocks query) (visible : objects.Visible (visibleCteNames query path))
    (found : tableByNameOrNone (compiledTables objects path scope tables) name = some object)
    (stands : StandsFor query path scope name physical) {connection spelling : String}
    {columns : TableSchema} (element : object.element = .table connection spelling columns) :
    casefold spelling = casefold physical ∧
      casefold (physicalTable scope name) ∉ visibleCteNames query path ∧
      casefold physical ∉ declaredCteNames query := by
  have kept : blockOf objects scope name = none := by
    cases isBlock : blockOf objects scope name with
    | none => rfl
    | some block =>
        obtain ⟨blockName, blockColumns, rfl, _⟩ := visible.blocks _ _ isBlock
        rw [(compiledTables_replaced found isBlock).1] at element
        cases element
  have notKey : casefold (physicalTable scope name) ∉ visibleCteNames query path := by
    have absent := kept
    rw [blockOf, dictGet_eq_none_iff] at absent
    exact fun key => absent ((visible.keys _).mpr key)
  obtain ⟨other, otherStands, represents⟩ :=
    at_.standsFor named ordered (compiledTables_kept found kept)
  rw [← stands.unique otherStands] at represents
  rcases represents with ⟨_, _, _, isBlock, _⟩ | ⟨notDeclared, _, _, _, isTable, same⟩
  · rw [isBlock] at element
    cases element
  · rw [isTable] at element
    cases element
    exact ⟨same, notKey, notDeclared⟩

/-- A name that is no WITH block and stands for none is resolved to the physical
table it stands for. -/
theorem Reflection.compiled_table
    (at_ : Reflection schema query reflected path scope blocks outer tables)
    (named : BlocksNamed .placeholder reflected.cteTables (declaredCteNames query))
    (ordered : OrderedBlocks query) (visible : objects.Visible (visibleCteNames query path))
    (found : tableByNameOrNone (compiledTables objects path scope tables) name = some object)
    (stands : StandsFor query path scope name physical)
    (notReplaced : casefold (physicalTable scope name) ∉ visibleCteNames query path)
    (notBlock : casefold physical ∉ declaredCteNames query) :
    ∃ connection spelling columns, object.element = .table connection spelling columns ∧
      casefold spelling = casefold physical := by
  have kept : blockOf objects scope name = none := by
    rw [blockOf, dictGet_eq_none_iff, visible.keys]
    exact notReplaced
  obtain ⟨other, otherStands, represents⟩ :=
    at_.standsFor named ordered (compiledTables_kept found kept)
  rw [← stands.unique otherStands] at represents
  rcases represents with ⟨declared, _⟩ | ⟨_, connection, spelling, columns, isTable, same⟩
  · exact absurd declared notBlock
  · exact ⟨connection, spelling, columns, isTable, same⟩

/-- Every name a scope refers to is bound, and stands for a physical name. -/
theorem Reflection.ref_bound
    (at_ : Reflection schema query reflected path scope blocks outer tables)
    (named : BlocksNamed .placeholder reflected.cteTables (declaredCteNames query))
    (ordered : OrderedBlocks query) {ref : ColumnRef} (inRefs : ref ∈ iterColumnRefs scope)
    (objects : CteObjects) :
    ∃ table column object physical, parseColumnRef ref.ref = .ok (table, column) ∧
      tableByNameOrNone (compiledTables objects path scope tables) table = some object ∧
      StandsFor query path scope table physical := by
  obtain ⟨table, column, parsed, inTables⟩ :=
    (scopeBinding_of_reflectScope at_.bound).refs ref inRefs
  obtain ⟨bound, found⟩ := tableByNameOrNone_of_mem inTables rfl
  obtain ⟨physical, stands, _⟩ := at_.standsFor named ordered found
  obtain ⟨object, compiled⟩ := compiledTables_isSome found
  exact ⟨table, column, object, physical, parsed, compiled, stands⟩

/-- The columns no rule refuses: those read through a scope's own source, and those
declared as outer columns of the enclosing scope's own source. -/
theorem PolicyAccepted.reference_allowed
    (accepted : PolicyAccepted context query policy effective connections)
    (opened : OpenedColumnsAllowed effective query) {ref : ColumnRef}
    (inRefs : ref ∈ iterColumnRefs scope) {table column : String}
    (parsed : parseColumnRef ref.ref = .ok (table, column))
    (stands : StandsFor query path scope table physical)
    (notReplaced : casefold (physicalTable scope table) ∉ visibleCteNames query path)
    (notBlock : casefold physical ∉ declaredCteNames query) :
    effective.columnAllowed physical column = true := by
  have at_ := stands.scopeAt
  cases stands with
  | own _ _ declared => exact accepted.column_allowed at_.mem_scopesOf inRefs parsed declared notBlock
  | @outer path parent _ step _ _ member isOpened _ above =>
      by_cases vouched : VouchedFor path parent scope table column
      · exact (accepted.vouched_allowed member (isSubquery_of_opensOuter isOpened) above vouched).1
      · exact opened path parent step scope member ref inRefs table column parsed isOpened vouched
          notReplaced physical above notBlock

/-- Where every reference resolves to allowed columns, so do the undeclared ones
through opened names. -/
theorem PolicySound.opened (sound : PolicySound policy query reflected)
    (validated : validateSchema schema query = .ok reflected) (ordered : OrderedBlocks query) :
    OpenedColumnsAllowed policy query := by
  obtain ⟨named, covered⟩ := validateSchema_reflected validated
  intro path scope step nested member ref inRefs table column parsed isOpened _ notReplaced physical
    above notBlock
  have at_ : ScopeAt query (path ++ [step]) nested := above.scopeAt.child member
  obtain ⟨tables, recorded, resolves⟩ := sound _ nested at_
  obtain ⟨blocks, outer, found, reflection⟩ := covered at_
  rw [reflection.recorded] at recorded
  cases recorded
  obtain ⟨objects, visible⟩ : ∃ objects : CteObjects,
      objects.Visible (visibleCteNames query (path ++ [step])) := by
    unfold visibleCteNames
    split
    · exact exists_visible _
    · exact exists_visible _
  obtain ⟨_, _, object, refParsed, lookup, allowed⟩ := resolves objects visible ref inRefs
  rw [parsed] at refParsed
  cases refParsed
  rw [tableByName_eq_ok_iff] at lookup
  have owned : casefold table ∈ ownNames scope := by
    obtain ⟨_, _, _, _, received⟩ :=
      reflection.subquery above.scopeAt (isSubquery_of_opensOuter isOpened)
    exact (handedTables_opened received isOpened).1
  have stands : StandsFor query (path ++ [step]) nested table physical :=
    .outer member isOpened owned above
  obtain ⟨connection, spelling, columns, element, same⟩ :=
    reflection.compiled_table named ordered visible lookup stands notReplaced notBlock
  rw [← (allowed connection spelling columns element).2]
  exact policy.columnAllowed_congr same.symm rfl

/-- An accepted query reaches allowed columns only, exactly when the columns its
subqueries read undeclared through an opened name are allowed. -/
theorem policySound_iff {scopeConnections : Option ScopeConnections}
    {snapshot : Option ConnectionResolver}
    (accepted : validatePolicy context query policy scopeConnections snapshot = .ok effective)
    (validated : validateSchema schema query = .ok reflected) :
    PolicySound effective query reflected ↔ OpenedColumnsAllowed effective query := by
  obtain ⟨connections, _, facts⟩ := validatePolicy_accepted accepted
  have ordered : OrderedBlocks query := facts.orderedBlocks
  refine ⟨fun sound => sound.opened validated ordered, ?_⟩
  obtain ⟨named, covered⟩ := validateSchema_reflected validated
  intro opened path scope at_
  obtain ⟨blocks, outer, tables, reflection⟩ := covered at_
  refine ⟨tables, reflection.recorded, fun objects visible ref inRefs => ?_⟩
  obtain ⟨table, column, object, physical, parsed, lookup, stands⟩ :=
    reflection.ref_bound named ordered inRefs objects
  refine ⟨table, column, object, parsed, tableByName_eq_ok_iff.mpr lookup,
    fun connection spelling columns element => ?_⟩
  obtain ⟨same, notReplaced, notBlock⟩ :=
    reflection.of_compiled_table named ordered visible lookup stands element
  obtain ⟨_, owner, ownerAt, declared⟩ := stands.owner
  have tableAllowed := facts.source_allowed ownerAt.mem_scopesOf declared notBlock
  have columnAllowed := facts.reference_allowed opened inRefs parsed stands notReplaced notBlock
  rw [effective.tableAllowed_congr same, effective.columnAllowed_congr same rfl]
  exact ⟨tableAllowed, columnAllowed⟩

/-- Where every opened column is declared, no reference is left unchecked. -/
theorem openedColumnsAllowed_of_declared (declares : DeclaresOpened query) :
    OpenedColumnsAllowed policy query := by
  intro path scope step nested member ref inRefs table column parsed isOpened notVouched _ physical
    above _
  exact absurd (declares.vouched above.scopeAt member inRefs parsed isOpened) notVouched

end Sound

/-- A policy that hides customers' social security numbers. -/
def hiddenSsn : Policy where
  deniedColumns := [("Customers", ["ssn"])]

/-- Through the alias `c`, opened by `correlate ["c.id"]`, a subquery reads the
denied column `Customers.ssn`. -/
theorem policySound_fails_on_opened_alias :
    (customersWithOrders "ssn").validate = .ok () ∧
      accepts (validatePolicy soleConnection (customersWithOrders "ssn") hiddenSsn none none) =
        true ∧
      ∃ reflected, validateSchema shopSchema (customersWithOrders "ssn") = .ok reflected ∧
        ¬ PolicySound hiddenSsn (customersWithOrders "ssn") reflected := by
  have binds : accepts (validateSchema shopSchema (customersWithOrders "ssn")) = true := by
    decide +kernel
  obtain ⟨reflected, validated⟩ := accepts_iff.mp binds
  refine ⟨by decide +kernel, by decide +kernel, reflected, validated, fun sound => ?_⟩
  have noBlocks : OrderedBlocks (customersWithOrders "ssn") :=
    fun _ _ absurd => by cases absurd
  have opened := sound.opened validated noBlocks
  have stands : StandsFor (customersWithOrders "ssn") [] (customersWithOrders "ssn") "c"
      "Customers" := .own (.root _) rfl (by decide +kernel)
  have allowed := opened [] _ (.existence 0) _ (List.mem_singleton.mpr rfl) ⟨.where_, "c.ssn"⟩
    (by decide +kernel) "c" "ssn" rfl (by decide +kernel) (by decide +kernel) (by decide +kernel)
    "Customers" stands (by decide +kernel)
  revert allowed
  decide +kernel

/-- A subquery that reads only what it declares stays inside the policy. -/
theorem policySound_customersWithOrders : ∃ reflected,
    validateSchema shopSchema (customersWithOrders "id") = .ok reflected ∧
      PolicySound hiddenSsn (customersWithOrders "id") reflected := by
  have passes : validatePolicy soleConnection (customersWithOrders "id") hiddenSsn none none =
      .ok hiddenSsn := rfl
  have binds : accepts (validateSchema shopSchema (customersWithOrders "id")) = true := by
    decide +kernel
  obtain ⟨reflected, validated⟩ := accepts_iff.mp binds
  refine ⟨reflected, validated, (policySound_iff passes validated).mpr ?_⟩
  exact openedColumnsAllowed_of_declared (by decide +kernel)

end QueryGate
