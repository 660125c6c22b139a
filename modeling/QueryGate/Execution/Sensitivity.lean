import QueryGate.Validation.Connections
import QueryGate.Validation.References

/-! # Sensitivity labels and the approval gate

`sensitivity_approval_reasons` of `execution/approval.py`, over the lookups of the catalog
store. The gate resolves the names of every scope itself: a name that the scope does not
declare stands for the table of that name. It reports something exactly if one of its
lookups meets a label it is to ask about (`sensitivityApprovalReasons_eq_nil_iff`).
-/

namespace QueryGate

open Foundation

/-! ## The catalog -/

/-- `SensitivityClass`. -/
inductive SensitivityClass where
  | none | internal | confidential | pii
  deriving DecidableEq, Repr

/-- The spelling of a label. -/
def SensitivityClass.value : SensitivityClass → String
  | .none => "none" | .internal => "internal" | .confidential => "confidential" | .pii => "pii"

/-- The first entry whose name is the given one in some spelling. -/
def entryNamed {α : Type} (entries : List (String × α)) (name : String) : Option α :=
  (entries.find? fun entry => casefold entry.1 == casefold name).map Prod.snd

/-- `TableCatalogEntry`: the label of the table, and the labels of its columns under names
that differ in more than their spelling. -/
structure TableCatalogEntry where
  sensitivity : SensitivityClass := .none
  columns : List (String × SensitivityClass) := []
  distinct : ((dictKeys columns).map casefold).Nodup

/-- `ConnectionCatalog`. -/
structure ConnectionCatalog where
  tables : List (String × TableCatalogEntry) := []
  distinct : ((dictKeys tables).map casefold).Nodup

/-- `CatalogStore`: the catalogs of the connections. -/
abbrev CatalogStore := List (String × ConnectionCatalog)

/-- `CatalogStore.get_table`. -/
def CatalogStore.getTable (store : CatalogStore) (connectionId table : String) :
    Option TableCatalogEntry :=
  (dictGet store connectionId).bind fun catalog => entryNamed catalog.tables table

/-- The label of a column: its own, or else the table's. -/
def TableCatalogEntry.label (entry : TableCatalogEntry) (column : String) : SensitivityClass :=
  match entryNamed entry.columns column with
  | some .none => entry.sensitivity
  | some own => own
  | none => entry.sensitivity

/-- The label of a column in the catalog of a connection, where it has the table. -/
def CatalogStore.label? (store : CatalogStore) (connectionId table column : String) :
    Option SensitivityClass :=
  (store.getTable connectionId table).map fun entry => entry.label column

/-! ## The gate's lookups -/

/-- The connections whose catalogs are consulted, in order. -/
def candidateConnections (tableConnection primary : String) : List String :=
  if tableConnection = primary then [primary] else [tableConnection, primary]

/-- The first candidate whose label is one to ask about, with that label. -/
def triggeredLabel (store : CatalogStore) (triggers : List SensitivityClass)
    (table column : String) : List String → Option (SensitivityClass × String)
  | [] => none
  | candidate :: rest =>
      match store.label? candidate table column with
      | some label =>
          if triggers.contains label then some (label, candidate)
          else triggeredLabel store triggers table column rest
      | none => triggeredLabel store triggers table column rest

/-- What has been reported so far. -/
structure SensitivityScan where
  hits : List String := []
  seen : List String := []

/-- `name_to_physical.get(table.casefold(), table)`. -/
def lookupName (scope : StructuredQuery) (table : String) : String :=
  (dictGet (effectiveNameMap scope) (casefold table)).getD table

/-- A hit, unless its column was reported already. -/
def SensitivityScan.report (scan : SensitivityScan) (table column : String)
    (candidates : List String) (label : SensitivityClass) (labelConnection : String) :
    SensitivityScan :=
  let key := table ++ "." ++ column
  if scan.seen.contains key then scan
  else
    let suffix := if 1 < candidates.length then s!" (connection {quoted labelConnection})" else ""
    { hits := scan.hits ++ [s!"references {label.value}-labelled column {key}{suffix}"]
      seen := scan.seen ++ [key] }

section Scan

variable (store : CatalogStore) (triggers : List SensitivityClass) (connectionId : String)
  (cteNames : List String)

/-- One reference of a scope. -/
def scanRef (scope : StructuredQuery) (connections : TableConnections) (scan : SensitivityScan)
    (ref : ColumnRef) : Gate SensitivityScan := do
  let (table, column) ← parseColumnRef ref.ref
  let physical := lookupName scope table
  if cteNames.contains (casefold physical) then
    pure scan
  else
    let candidates := candidateConnections (tableConnectionId connections table connectionId)
      connectionId
    match triggeredLabel store triggers physical column candidates with
    | some (label, labelConnection) =>
        pure (scan.report physical column candidates label labelConnection)
    | none => pure scan

/-- The references of one scope. -/
def scanScope (connections : ScopeConnections) (scan : SensitivityScan) (scope : StructuredQuery) :
    Gate SensitivityScan :=
  (iterColumnRefs scope).foldlM
    (scanRef store triggers connectionId cteNames scope (connections scope)) scan

end Scan

/-- `sensitivity_approval_reasons`. -/
def sensitivityApprovalReasons (store : CatalogStore) (triggers : List SensitivityClass)
    (connectionId : String) (connections : ScopeConnections) (query : StructuredQuery) :
    Gate (List String) :=
  if triggers.isEmpty then .ok []
  else do
    let scan ← (scopesOf query).foldlM
      (scanScope store triggers connectionId (declaredCteNames query) connections) {}
    pure scan.hits

/-- A column reference of a scope makes the gate look a column of a table up in the catalog
of a connection. -/
structure RefLooksUp (connectionId : String) (cteNames : List String) (scope : StructuredQuery)
    (connections : TableConnections) (ref : ColumnRef) (connection table column : String) :
    Prop where
  parsed : ∃ name, parseColumnRef ref.ref = .ok (name, column) ∧ lookupName scope name = table ∧
    connection ∈ candidateConnections (tableConnectionId connections name connectionId) connectionId
  notBlock : casefold table ∉ cteNames

/-- Some reference of a query makes the gate look the column up. -/
def LooksUp (connectionId : String) (connections : ScopeConnections) (query : StructuredQuery)
    (connection table column : String) : Prop :=
  ∃ scope ∈ scopesOf query, ∃ ref ∈ iterColumnRefs scope,
    RefLooksUp connectionId (declaredCteNames query) scope (connections scope) ref connection table
      column

/-! ## What the gate reports -/

theorem triggeredLabel_eq_none_iff {store : CatalogStore} {triggers : List SensitivityClass}
    {table column : String} {candidates : List String} :
    triggeredLabel store triggers table column candidates = none ↔
      ∀ candidate ∈ candidates, ∀ label ∈ triggers, store.label? candidate table column ≠ some label := by
  induction candidates with
  | nil => exact iff_of_true rfl fun _ absurd => by cases absurd
  | cons candidate rest ih =>
      rw [triggeredLabel, List.forall_mem_cons, ← ih]
      cases found : store.label? candidate table column with
      | none => simp
      | some label =>
          by_cases listed : triggers.contains label = true
          · simp only [listed, ↓reduceIte, reduceCtorEq, false_iff, not_and]
            exact fun silent => absurd rfl (silent label (List.contains_iff_mem.mp listed))
          · simp only [listed, Bool.false_eq_true, ↓reduceIte]
            refine (and_iff_right fun other member same => listed ?_).symm
            cases same
            exact List.contains_iff_mem.mpr member

/-- Nothing counts as reported while there is no report. -/
def SensitivityScan.Kept (scan : SensitivityScan) : Prop :=
  scan.hits = [] → scan.seen = []

theorem SensitivityScan.report_kept {scan : SensitivityScan} (kept : scan.Kept)
    (table column : String) (candidates : List String) (label : SensitivityClass)
    (labelConnection : String) :
    (scan.report table column candidates label labelConnection).Kept ∧
      (scan.report table column candidates label labelConnection).hits ≠ [] := by
  by_cases old : scan.seen.contains (table ++ "." ++ column) = true
  · have loud : scan.hits ≠ [] := by
      intro silent
      rw [kept silent] at old
      cases old
    simp only [report, old, ↓reduceIte]
    exact ⟨kept, loud⟩
  · simp only [report, old, Bool.false_eq_true, ↓reduceIte]
    refine ⟨fun silent => ?_, List.append_ne_nil_of_right_ne_nil _ (List.cons_ne_nil _ _)⟩
    exact absurd silent (List.append_ne_nil_of_right_ne_nil _ (List.cons_ne_nil _ _))

section Reports

variable {store : CatalogStore} {triggers : List SensitivityClass} {connectionId : String}
  {cteNames : List String} {scope : StructuredQuery} {connections : TableConnections}

/-- A reference meets a label to ask about. -/
def Triggers (store : CatalogStore) (triggers : List SensitivityClass) (connectionId : String)
    (cteNames : List String) (scope : StructuredQuery) (connections : TableConnections)
    (ref : ColumnRef) : Prop :=
  ∃ connection table column, RefLooksUp connectionId cteNames scope connections ref connection table
    column ∧ ∃ label ∈ triggers, store.label? connection table column = some label

theorem scanRef_spec (scan : SensitivityScan) (ref : ColumnRef) (next : SensitivityScan)
    (kept : scan.Kept)
    (done : scanRef store triggers connectionId cteNames scope connections scan ref = .ok next) :
    next.Kept ∧ (next.hits = [] ↔ scan.hits = [] ∧
      ¬ Triggers store triggers connectionId cteNames scope connections ref) := by
  rw [scanRef, bind_eq_ok_iff] at done
  obtain ⟨⟨name, column⟩, parsed, done⟩ := done
  have lookups : ∀ {connection table other}, RefLooksUp connectionId cteNames scope connections ref
      connection table other → other = column ∧ lookupName scope name = table ∧
        connection ∈ candidateConnections (tableConnectionId connections name connectionId)
          connectionId := by
    rintro connection table other ⟨⟨found, otherParsed, named, candidate⟩, _⟩
    rw [parsed] at otherParsed
    cases otherParsed
    exact ⟨rfl, named, candidate⟩
  simp only at done
  by_cases block : cteNames.contains (casefold (lookupName scope name)) = true
  · rw [if_pos block] at done
    cases done
    refine ⟨kept, (and_iff_left ?_).symm⟩
    rintro ⟨connection, table, other, looked, _⟩
    obtain ⟨_, rfl, _⟩ := lookups looked
    exact looked.notBlock (List.contains_iff_mem.mp block)
  rw [if_neg block] at done
  have own : ∀ {connection}, connection ∈ candidateConnections
      (tableConnectionId connections name connectionId) connectionId →
        RefLooksUp connectionId cteNames scope connections ref connection (lookupName scope name)
          column :=
    fun candidate => ⟨⟨name, parsed, rfl, candidate⟩, fun inside =>
      block (List.contains_iff_mem.mpr inside)⟩
  cases found : triggeredLabel store triggers (lookupName scope name) column
      (candidateConnections (tableConnectionId connections name connectionId) connectionId) with
  | some hit =>
      rw [found] at done
      cases done
      obtain ⟨reported, loud⟩ := SensitivityScan.report_kept kept (lookupName scope name) column
        (candidateConnections (tableConnectionId connections name connectionId) connectionId)
        hit.1 hit.2
      refine ⟨reported, iff_of_false loud fun silent => silent.2 ?_⟩
      by_contra none
      have missed := (@triggeredLabel_eq_none_iff store triggers (lookupName scope name) column
        (candidateConnections (tableConnectionId connections name connectionId)
          connectionId)).mpr fun candidate member label listed same =>
            none ⟨candidate, _, column, own member, label, listed, same⟩
      rw [found] at missed
      cases missed
  | none =>
      rw [found] at done
      cases done
      refine ⟨kept, (and_iff_left ?_).symm⟩
      rintro ⟨connection, table, other, looked, label, listed, same⟩
      obtain ⟨rfl, rfl, candidate⟩ := lookups looked
      exact triggeredLabel_eq_none_iff.mp found connection candidate label listed same

/-- The gate reports nothing exactly if none of its lookups meets a label to ask about. -/
theorem sensitivityApprovalReasons_eq_nil_iff {connections : ScopeConnections}
    {query : StructuredQuery} {reasons : List String}
    (done : sensitivityApprovalReasons store triggers connectionId connections query = .ok reasons) :
    reasons = [] ↔ ∀ connection table column,
      LooksUp connectionId connections query connection table column →
        ∀ label ∈ triggers, store.label? connection table column ≠ some label := by
  unfold sensitivityApprovalReasons at done
  by_cases off : triggers.isEmpty = true
  · rw [if_pos off] at done
    cases done
    rw [List.isEmpty_iff] at off
    subst off
    exact iff_of_true rfl fun _ _ _ _ label absurd => by cases absurd
  rw [if_neg off, bind_eq_ok_iff] at done
  obtain ⟨final, scanned, returned⟩ := done
  cases returned
  have scopes := @foldlM_quiet _ _ _ _ SensitivityScan.Kept (fun scan => scan.hits = [])
    (fun scope => ∃ ref ∈ iterColumnRefs scope, Triggers store triggers connectionId
      (declaredCteNames query) scope (connections scope) ref)
    (fun scan scope next kept stepped => by
      have each := @scanRef_spec store triggers connectionId (declaredCteNames query) scope
        (connections scope)
      obtain ⟨held, silent⟩ := foldlM_quiet each kept stepped
      refine ⟨held, silent.trans ?_⟩
      simp only [not_exists, not_and]) _ _ _ (fun _ => rfl) scanned
  rw [scopes.2]
  constructor
  · rintro ⟨_, silent⟩ connection table column ⟨scope, inside, ref, listed, looked⟩ label asked same
    exact silent scope inside ⟨ref, listed, connection, table, column, looked, label, asked, same⟩
  · intro silent
    refine ⟨rfl, ?_⟩
    rintro scope inside ⟨ref, listed, connection, table, column, looked, label, asked, same⟩
    exact silent connection table column ⟨scope, inside, ref, listed, looked⟩ label asked same

end Reports

end QueryGate
