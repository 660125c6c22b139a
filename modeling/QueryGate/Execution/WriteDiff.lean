import QueryGate.Execution.WriteLimits
import QueryGate.Execution.WritePreview

/-! # What a diff shows

Whatever its path, a diff is a list of rows with each value redacted whose column
the read policy masks. A column the read policy denies without masking it is
shown: the diff hides what reads hide exactly when each column of the rows it
lists is allowed or masked.
-/

namespace QueryGate

open Foundation

/-- A column the read policy shows: allowed and not masked. -/
def Policy.columnShown (policy : Policy) (table column : String) : Prop :=
  policy.columnAllowed table column = true ∧ policy.columnMask table column = none

/-- The rows of a diff entry that are there. -/
def RowDiff.sides (diff : RowDiff) : List ShownRow :=
  diff.before.toList ++ diff.after.toList

/-- The redacted form of a diff entry. -/
def RowDiff.mask (policy : Policy) (table : String) (diff : RowDiff) : RowDiff :=
  ⟨diff.before.map (maskRow policy table), diff.after.map (maskRow policy table)⟩

/-- Two rows agree on the columns the read policy shows. -/
def AgreeOnShown (policy : Policy) (table : String) (first second : ShownRow) : Prop :=
  List.Forall₂ (fun one other => one.1 = other.1 ∧
    (policy.columnShown table one.1 → one.2 = other.2)) first second

/-- Two diff entries agree on the columns the read policy shows. -/
structure RowDiff.Agree (policy : Policy) (table : String) (first second : RowDiff) : Prop where
  before : Option.Rel (AgreeOnShown policy table) first.before second.before
  after : Option.Rel (AgreeOnShown policy table) first.after second.after

/-- The columns a list of diff entries names. -/
def listedColumns (rows : List RowDiff) : List String :=
  rows.flatMap fun diff => diff.sides.flatMap dictKeys

namespace WriteExecutionService

variable (service : WriteExecutionService)

/-- The rows a diff of an update lists, unredacted. -/
def listedUpdate (view : PreviewView) (update : UpdateStatement) (table : FromObj)
    (schema : TableSchema) (before : List DbRow) (withinCap : Bool) : List RowDiff :=
  match rereadKey schema before withinCap with
  | some key => before.map fun row =>
      ⟨some (storedRow row), some (storedRow (rowWithKey key view.afterDml row))⟩
  | none => before.map fun row =>
      ⟨some (storedRow row), some (overwrittenRow row (coerceRow update.set_ table))⟩

/-- The rows a diff of an update or a delete lists, unredacted. -/
def listedMutation (view : PreviewView) (statement : WriteStatement) (schema : TableSchema)
    (condition : SqlCondition) : List RowDiff :=
  let before := service.beforeRows view condition
  let affected := ((view.atCount.filter (service.engine.selects condition)).length : Int)
  match statement with
  | .update update => listedUpdate view update (service.target statement schema) schema before
      (decide (affected ≤ service.policy.write.maxAffectedRows))
  | _ => before.map fun row => ⟨some (storedRow row), none⟩

/-- The rows a diff lists, unredacted: the leading rows of an insert, and the leading
rows the filter of an update or a delete selects. -/
def listedRows (view : PreviewView) (statement : WriteStatement) (schema : TableSchema) :
    List RowDiff :=
  match statement with
  | .insert insert => (insert.rows.take service.diffLimit).map fun row =>
      ⟨none, some (writtenRow (coerceRow row (service.target statement schema)))⟩
  | .upsert _ => []
  | .update update =>
      match compileWriteWhere service.adapter update.table (service.target statement schema)
          update.where_ with
      | .ok condition => service.listedMutation view statement schema condition
      | .error _ => []
  | .delete delete =>
      match compileWriteWhere service.adapter delete.table (service.target statement schema)
          delete.where_ with
      | .ok condition => service.listedMutation view statement schema condition
      | .error _ => []

variable {service}

theorem mutationRows_eq_ok {view : PreviewView} {statement : WriteStatement}
    {schema : TableSchema} {condition : SqlCondition} {rows : List RowDiff}
    (listed : service.mutationRows view statement schema (service.beforeRows view condition)
      (decide (((view.atCount.filter (service.engine.selects condition)).length : Int) ≤
        service.policy.write.maxAffectedRows)) = .ok rows) :
    rows = (service.listedMutation view statement schema condition).map
      (RowDiff.mask service.policy schema.name) := by
  unfold mutationRows at listed
  unfold listedMutation
  cases statement with
  | update update =>
      simp only [updatedRows] at listed
      simp only [listedUpdate]
      split at listed
      · rename_i key found
        simp only [bind_eq_ok_iff, outside_eq_ok_iff] at listed
        obtain ⟨_, _, returned⟩ := listed
        cases returned
        simp only [found, List.map_map]
        rfl
      · rename_i found
        cases listed
        simp only [found, List.map_map]
        rfl
  | insert insert =>
      cases listed
      rw [List.map_map]
      rfl
  | delete delete =>
      cases listed
      rw [List.map_map]
      rfl
  | upsert upsert =>
      cases listed
      rw [List.map_map]
      rfl

theorem previewMutation_diff {view : PreviewView} {statement : WriteStatement}
    {schema : TableSchema} {where_ : WriteWhereNode} {includeDiff : Bool}
    {effect : Int × Option WriteDiff} {diff : WriteDiff}
    (done : service.previewMutation view statement schema where_ includeDiff = .ok effect)
    (shown : effect.2 = some diff) :
    ∃ condition, compileWriteWhere service.adapter statement.table
        (service.target statement schema) where_ = .ok condition ∧
      diff.rows = (service.listedMutation view statement schema condition).map
        (RowDiff.mask service.policy schema.name) := by
  simp only [previewMutation, bind_eq_ok_iff, attempt_eq_ok_iff] at done
  obtain ⟨condition, compiled, _, _, _, _, found, requested, _, _, returned⟩ := done
  cases returned
  rw [show found = some diff from shown] at requested
  refine ⟨condition, compiled, ?_⟩
  have asked : service.mutationDiff view statement schema condition
      (decide (((view.atCount.filter (service.engine.selects condition)).length : Int) ≤
        service.policy.write.maxAffectedRows)) = .ok diff := by
    unfold requestedDiff at requested
    cases includeDiff with
    | false => cases requested
    | true =>
        cases made : service.mutationDiff view statement schema condition
            (decide (((view.atCount.filter (service.engine.selects condition)).length : Int) ≤
              service.policy.write.maxAffectedRows)) with
        | error failure =>
            simp only [made, ↓reduceIte, Except.map, reduceCtorEq] at requested
        | ok other =>
            simp only [made, ↓reduceIte, Except.map, Except.ok.injEq, Option.some.injEq] at requested
            rw [requested]
  simp only [mutationDiff, bind_eq_ok_iff] at asked
  obtain ⟨_, _, rows, listed, returned⟩ := asked
  cases returned
  exact mutationRows_eq_ok listed

/-- On every path a diff is the redacted form of the rows it lists. -/
theorem preview_rows {view : PreviewView} {statement : WriteStatement} {includeDiff : Bool}
    {result : WritePreview} {diff : WriteDiff}
    (previewed : service.preview view statement includeDiff = .ok result)
    (shown : result.diff = some diff) :
    ∃ schema, validateWriteSchema service.loadTable statement service.connectionId = .ok schema ∧
      result.table = schema.name ∧
      diff.rows = (service.listedRows view statement schema).map
        (RowDiff.mask service.policy schema.name) := by
  simp only [preview, bind_eq_ok_iff, attempt_eq_ok_iff] at previewed
  obtain ⟨_, _, schema, loaded, _, _, _, _, effect, done, returned⟩ := previewed
  cases returned
  refine ⟨schema, loaded, rfl, ?_⟩
  cases statement with
  | insert insert =>
      cases includeDiff with
      | false =>
          cases done
          cases shown
      | true =>
          cases done
          cases shown
          simp only [insertDiff, listedRows, List.map_map]
          rfl
  | upsert upsert =>
      cases done
      cases shown
  | update update =>
      obtain ⟨condition, compiled, rows⟩ := previewMutation_diff done shown
      rw [rows]
      simp only [listedRows]
      rw [show compileWriteWhere service.adapter update.table _ update.where_ = .ok condition
        from compiled]
  | delete delete =>
      obtain ⟨condition, compiled, rows⟩ := previewMutation_diff done shown
      rw [rows]
      simp only [listedRows]
      rw [show compileWriteWhere service.adapter delete.table _ delete.where_ = .ok condition
        from compiled]

end WriteExecutionService

/-- No value of the row is redacted. -/
def Unmasked (row : ShownRow) : Prop :=
  ∀ entry ∈ row, entry.2 ≠ .masked

theorem unmasked_storedRow (row : DbRow) : Unmasked (storedRow row) := by
  intro entry member
  obtain ⟨_, _, rfl⟩ := List.mem_map.mp member
  exact fun absurd => by cases absurd

theorem unmasked_writtenRow (row : BoundRow) : Unmasked (writtenRow row) := by
  intro entry member
  obtain ⟨_, _, rfl⟩ := List.mem_map.mp member
  exact fun absurd => by cases absurd

theorem Unmasked.dictSet {row : ShownRow} (unmasked : Unmasked row) (key : String)
    (value : BoundValue) : Unmasked (dictSet row key (.written value)) := by
  intro entry member
  rcases mem_of_mem_dictSet member with kept | rfl
  · exact unmasked entry kept
  · exact fun absurd => by cases absurd

theorem unmasked_overwrittenRow (before : DbRow) (values : BoundRow) :
    Unmasked (overwrittenRow before values) := by
  have kept : ∀ (values : BoundRow) (row : ShownRow), Unmasked row →
      Unmasked (values.foldl (fun row entry => dictSet row entry.1 (.written entry.2)) row) := by
    intro values
    induction values with
    | nil => exact fun row unmasked => unmasked
    | cons value rest ih => exact fun row unmasked => ih _ (unmasked.dictSet value.1 value.2)
  exact kept values _ (unmasked_storedRow before)

/-- A row shows no value of a column the read policy hides. -/
def RowHides (policy : Policy) (table : String) (row : ShownRow) : Prop :=
  ∀ entry ∈ row, entry.2 ≠ .masked → policy.columnShown table entry.1

theorem dictKeys_maskRow (policy : Policy) (table : String) (row : ShownRow) :
    dictKeys (maskRow policy table row) = dictKeys row := by
  simp only [dictKeys, maskRow, List.map_map, Function.comp_def]

/-- A redacted row hides what it should exactly when each of its columns is allowed
or masked. -/
theorem rowHides_maskRow_iff {policy : Policy} {table : String} {row : ShownRow}
    (unmasked : Unmasked row) :
    RowHides policy table (maskRow policy table row) ↔
      ∀ column ∈ dictKeys row, policy.columnAllowed table column = true ∨
        (policy.columnMask table column).isSome = true := by
  constructor
  · intro hides column member
    obtain ⟨entry, inRow, rfl⟩ := List.mem_map.mp member
    by_cases masked : (policy.columnMask table entry.1).isSome = true
    · exact .inr masked
    · left
      have shown : (entry.1, entry.2) ∈ maskRow policy table row := by
        refine List.mem_map.mpr ⟨entry, inRow, ?_⟩
        simp only [masked, Bool.false_eq_true, ↓reduceIte]
      exact (hides _ shown (unmasked entry inRow)).1
  · intro covered entry member visible
    obtain ⟨source, inRow, rfl⟩ := List.mem_map.mp member
    by_cases masked : (policy.columnMask table source.1).isSome = true
    · simp only [masked, ↓reduceIte, ne_eq, not_true_eq_false] at visible
    · have allowed := (covered source.1 (List.mem_map_of_mem inRow)).resolve_right masked
      rw [Bool.not_eq_true, Option.isSome_eq_false_iff, Option.isNone_iff_eq_none] at masked
      exact ⟨allowed, masked⟩

/-- Rows that agree on the shown columns are redacted to one row, where each column is
allowed or masked. -/
theorem maskRow_congr {policy : Policy} {table : String} {first second : ShownRow}
    (agree : AgreeOnShown policy table first second)
    (covered : ∀ column ∈ dictKeys first, policy.columnAllowed table column = true ∨
      (policy.columnMask table column).isSome = true) :
    maskRow policy table first = maskRow policy table second := by
  induction agree with
  | nil => rfl
  | @cons one other rest others same _ ih =>
      obtain ⟨name, value⟩ := same
      have here := covered one.1 (List.mem_cons_self ..)
      have tail := ih fun column member => covered column (List.mem_cons_of_mem _ member)
      simp only [maskRow, List.map_cons, List.cons.injEq] at tail ⊢
      refine ⟨?_, tail⟩
      rw [← name]
      by_cases masked : (policy.columnMask table one.1).isSome = true
      · simp only [masked, ↓reduceIte]
      · have shown : policy.columnShown table one.1 := by
          rw [Bool.not_eq_true, Option.isSome_eq_false_iff, Option.isNone_iff_eq_none] at masked
          exact ⟨here.resolve_right (by rw [masked]; exact Bool.false_ne_true), masked⟩
        rw [value shown]

namespace WriteExecutionService

variable {service : WriteExecutionService}

/-- No listed row is redacted before it is masked. -/
theorem listedRows_unmasked {view : PreviewView} {statement : WriteStatement}
    {schema : TableSchema} :
    ∀ diff ∈ service.listedRows view statement schema, ∀ row ∈ diff.sides, Unmasked row := by
  have mutation : ∀ condition, ∀ diff ∈ service.listedMutation view statement schema condition,
      ∀ row ∈ diff.sides, Unmasked row := by
    intro condition diff member row side
    have removed : diff ∈ (service.beforeRows view condition).map (fun row =>
        (⟨some (storedRow row), none⟩ : RowDiff)) → Unmasked row := by
      intro listed
      obtain ⟨stored, _, rfl⟩ := List.mem_map.mp listed
      cases List.mem_singleton.mp side
      exact unmasked_storedRow stored
    unfold listedMutation at member
    cases statement with
    | insert insert => exact removed member
    | delete delete => exact removed member
    | upsert upsert => exact removed member
    | update update =>
        simp only [listedUpdate] at member
        split at member
        · obtain ⟨stored, _, rfl⟩ := List.mem_map.mp member
          rcases List.mem_pair.mp side with rfl | rfl
          · exact unmasked_storedRow stored
          · exact unmasked_storedRow _
        · obtain ⟨stored, _, rfl⟩ := List.mem_map.mp member
          rcases List.mem_pair.mp side with rfl | rfl
          · exact unmasked_storedRow stored
          · exact unmasked_overwrittenRow stored _
  intro diff member row side
  unfold listedRows at member
  cases statement with
  | insert insert =>
      obtain ⟨stored, _, rfl⟩ := List.mem_map.mp member
      cases List.mem_singleton.mp side
      exact unmasked_writtenRow _
  | upsert upsert => cases member
  | update update =>
      dsimp only at member
      split at member
      · exact mutation _ diff member row side
      · cases member
  | delete delete =>
      dsimp only at member
      split at member
      · exact mutation _ diff member row side
      · cases member

/-- A diff shows no value of a column the read policy hides, and a preview whose
listed rows differ in hidden columns only shows the same rows. -/
structure DiffHides (service : WriteExecutionService) (view : PreviewView)
    (statement : WriteStatement) (schema : TableSchema) (diff : WriteDiff) : Prop where
  values : ∀ entry ∈ diff.rows, ∀ row ∈ entry.sides, RowHides service.policy schema.name row
  rows : ∀ {other : PreviewView} {includeDiff : Bool} {result : WritePreview}
    {otherDiff : WriteDiff}, service.preview other statement includeDiff = .ok result →
    result.diff = some otherDiff →
    List.Forall₂ (RowDiff.Agree service.policy schema.name)
      (service.listedRows view statement schema) (service.listedRows other statement schema) →
    diff.rows = otherDiff.rows

/-- Each column of the rows a diff lists is allowed or masked. -/
def ColumnsCovered (service : WriteExecutionService) (schema : TableSchema)
    (rows : List RowDiff) : Prop :=
  ∀ column ∈ listedColumns rows, service.policy.columnAllowed schema.name column = true ∨
    (service.policy.columnMask schema.name column).isSome = true

/-- Entries that agree on the shown columns are redacted to one entry, where each
column is allowed or masked. -/
theorem mask_congr {schema : TableSchema} {first second : List RowDiff}
    (agree : List.Forall₂ (RowDiff.Agree service.policy schema.name) first second)
    (covered : ColumnsCovered service schema first) :
    first.map (RowDiff.mask service.policy schema.name) =
      second.map (RowDiff.mask service.policy schema.name) := by
  induction agree with
  | nil => rfl
  | @cons one other rest others same _ ih =>
      have coveredSide : ∀ row ∈ one.sides, ∀ column ∈ dictKeys row,
          service.policy.columnAllowed schema.name column = true ∨
            (service.policy.columnMask schema.name column).isSome = true := by
        intro row side column member
        refine covered column ?_
        rw [listedColumns, List.flatMap_cons]
        exact List.mem_append_left _ (List.mem_flatMap.mpr ⟨row, side, member⟩)
      have tail := ih fun column member => by
        refine covered column ?_
        rw [listedColumns, List.flatMap_cons]
        exact List.mem_append_right _ member
      rw [List.map_cons, List.map_cons, tail]
      congr 1
      obtain ⟨before, after⟩ := same
      obtain ⟨oneBefore, oneAfter⟩ := one
      obtain ⟨otherBefore, otherAfter⟩ := other
      simp only [RowDiff.mask, RowDiff.mk.injEq]
      constructor
      · cases before with
        | none => rfl
        | some rows =>
            have same := maskRow_congr rows (coveredSide _ (List.mem_append_left _
              (List.mem_singleton_self _)))
            rw [Option.map_some, Option.map_some, same]
      · cases after with
        | none => rfl
        | some rows =>
            have same := maskRow_congr rows (coveredSide _ (List.mem_append_right _
              (List.mem_singleton_self _)))
            rw [Option.map_some, Option.map_some, same]

/-- The sides of a redacted entry are the redacted sides. -/
theorem sides_mask (policy : Policy) (table : String) (diff : RowDiff) :
    (diff.mask policy table).sides = diff.sides.map (maskRow policy table) := by
  obtain ⟨before, after⟩ := diff
  cases before <;> cases after <;> rfl

/-- A diff hides what the read policy hides exactly when each column of the rows it
lists is allowed or masked. -/
theorem diffHides_iff {view : PreviewView} {statement : WriteStatement} {includeDiff : Bool}
    {result : WritePreview} {diff : WriteDiff} {schema : TableSchema}
    (previewed : service.preview view statement includeDiff = .ok result)
    (shown : result.diff = some diff)
    (loaded : validateWriteSchema service.loadTable statement service.connectionId = .ok schema) :
    DiffHides service view statement schema diff ↔
      ColumnsCovered service schema (service.listedRows view statement schema) := by
  obtain ⟨found, alsoLoaded, _, rows⟩ := preview_rows previewed shown
  rw [loaded] at alsoLoaded
  cases alsoLoaded
  constructor
  · intro hides column member
    obtain ⟨listed, inRows, member⟩ := List.mem_flatMap.mp member
    obtain ⟨row, side, member⟩ := List.mem_flatMap.mp member
    have masked : listed.mask service.policy schema.name ∈ diff.rows := by
      rw [rows]
      exact List.mem_map_of_mem inRows
    have maskedSide : maskRow service.policy schema.name row ∈
        (listed.mask service.policy schema.name).sides := by
      rw [sides_mask]
      exact List.mem_map_of_mem side
    have rowHides := hides.values _ masked _ maskedSide
    exact (rowHides_maskRow_iff (listedRows_unmasked listed inRows row side)).mp rowHides column
      member
  · intro covered
    constructor
    · intro entry member row side
      rw [rows] at member
      obtain ⟨listed, inRows, rfl⟩ := List.mem_map.mp member
      rw [sides_mask] at side
      obtain ⟨source, sourceSide, rfl⟩ := List.mem_map.mp side
      refine (rowHides_maskRow_iff (listedRows_unmasked listed inRows source sourceSide)).mpr
        fun column named => covered column ?_
      exact List.mem_flatMap.mpr ⟨listed, inRows, List.mem_flatMap.mpr ⟨source, sourceSide, named⟩⟩
    · intro other otherInclude otherResult otherDiff otherPreviewed otherShown agree
      obtain ⟨otherSchema, otherLoaded, _, otherRows⟩ := preview_rows otherPreviewed otherShown
      rw [loaded] at otherLoaded
      cases otherLoaded
      rw [rows, otherRows]
      exact mask_congr agree covered

end WriteExecutionService

/-- The orders service of a principal who may not read the state of an order. -/
def stateDeniedService : WriteExecutionService :=
  { ordersService with
    policy := { ordersService.policy with deniedColumns := [("Orders", ["state"])] } }

/-- The orders service of a principal to whom the state of an order is masked. -/
def stateMaskedService : WriteExecutionService :=
  { ordersService with
    policy := { ordersService.policy with
      columnMasks := [("Orders", [{ column := "state", kind := .null }])] } }

/-- `DELETE FROM Orders WHERE Orders.id = 1`. -/
def deleteFirstOrder : WriteStatement :=
  .delete ⟨"Orders", .predicate { col := some "Orders.id", op := .eq, value := .int 1 }⟩

/-- A preview that meets two open orders. -/
def twoOpenOrders : PreviewView where
  atCount := [openOrder 1, openOrder 2]
  atDiff := [openOrder 1, openOrder 2]

/-- The diff of a delete shows the state of an order to a principal who may not read
it. -/
theorem diffHides_fails_on_deniedColumn :
    ∃ result diff,
      stateDeniedService.preview twoOpenOrders deleteFirstOrder true = .ok result ∧
        result.diff = some diff ∧
        diff.rows = [⟨some [("id", .stored (.int 1)), ("state", .stored (.str "open"))], none⟩] ∧
        stateDeniedService.policy.columnAllowed "Orders" "state" = false ∧
        ¬ WriteExecutionService.DiffHides stateDeniedService twoOpenOrders deleteFirstOrder
          ordersSchema diff := by
  refine ⟨_, _, rfl, rfl, rfl, by decide +kernel, fun hides => ?_⟩
  have shown := hides.values _ (List.mem_singleton_self _) _ (List.mem_singleton_self _)
    ("state", .stored (.str "open")) (List.mem_cons_of_mem _ (List.mem_singleton_self _))
    (fun absurd => by cases absurd)
  exact absurd shown.1 (by decide +kernel)

/-- Masked, the state is hidden. -/
theorem diffHides_of_maskedColumn :
    ∃ result diff,
      stateMaskedService.preview twoOpenOrders deleteFirstOrder true = .ok result ∧
        result.diff = some diff ∧
        WriteExecutionService.DiffHides stateMaskedService twoOpenOrders deleteFirstOrder
          ordersSchema diff := by
  refine ⟨_, _, rfl, rfl, (@WriteExecutionService.diffHides_iff stateMaskedService twoOpenOrders
    deleteFirstOrder true _ _ ordersSchema rfl rfl rfl).mpr ?_⟩
  intro column member
  change column ∈ ["id", "state"] at member
  rcases List.mem_pair.mp member with rfl | rfl
  · left
    decide +kernel
  · right
    decide +kernel

end QueryGate
