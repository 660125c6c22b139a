import QueryGate.Catalog.ReflectedTables
import QueryGate.Catalog.Staleness

/-! # What a schema diff names

The changes `diff_schema_snapshots` lists between the snapshots of two sets of reflected tables,
and the renames it proposes.
-/

namespace QueryGate.Catalog

open Foundation

/-! ## Alterations of reflected tables -/

/-- What is different about a table that both sides have: the kind of the change that names it
and the column, when it is one. -/
inductive TableAltered (old new : ReflectedTable) : SchemaChangeKind → Option String → Prop
  | columnRemoved {column : ReflectedColumn} (was : column ∈ old.columns)
      (gone : ∀ other ∈ new.columns, other.name ≠ column.name) :
      TableAltered old new .columnRemoved (some column.name)
  | columnAdded {column : ReflectedColumn} (is : column ∈ new.columns)
      (fresh : ∀ other ∈ old.columns, other.name ≠ column.name) :
      TableAltered old new .columnAdded (some column.name)
  | columnChanged {column other : ReflectedColumn} (was : column ∈ old.columns)
      (is : other ∈ new.columns) (same : other.name = column.name) (differ : column ≠ other) :
      TableAltered old new .columnChanged (some column.name)
  | relationshipsChanged
      (differ : ¬(old.foreignKeys.map ReflectedForeignKey.observe).Perm
        (new.foreignKeys.map ReflectedForeignKey.observe)) :
      TableAltered old new .relationshipsChanged none
  | indexesChanged (differ : ¬old.indexes.Perm new.indexes) :
      TableAltered old new .indexesChanged none
  | commentChanged (differ : old.comment ≠ new.comment) :
      TableAltered old new .commentChanged none

/-- What is different about two sets of tables: the kind of the change that names it, the table,
and the column, when it is one. -/
inductive Altered (olds news : List ReflectedTable) :
    SchemaChangeKind → String → Option String → Prop
  | tableRemoved {old : ReflectedTable} (was : old ∈ olds)
      (gone : ∀ new ∈ news, new.name ≠ old.name) : Altered olds news .tableRemoved old.name none
  | tableAdded {new : ReflectedTable} (is : new ∈ news)
      (fresh : ∀ old ∈ olds, old.name ≠ new.name) : Altered olds news .tableAdded new.name none
  | within {old new : ReflectedTable} {kind : SchemaChangeKind} {column : Option String}
      (was : old ∈ olds) (is : new ∈ news) (same : new.name = old.name)
      (altered : TableAltered old new kind column) : Altered olds news kind old.name column

/-- The change names this object. -/
def SchemaChange.Names (change : SchemaChange) (kind : SchemaChangeKind) (table : String)
    (column : Option String) : Prop :=
  change.kind = kind ∧ change.table = table ∧ change.column = column

/-! ## What a diff lists -/

section Listed

variable {runtime : SchemaRuntime}

theorem of_mem_sharedEntries {α : Type} {old new : List (String × α)}
    {entry : String × α × α} (member : entry ∈ sharedEntries runtime old new) :
    dictGet old entry.1 = some entry.2.1 ∧ dictGet new entry.1 = some entry.2.2 := by
  obtain ⟨name, _, found⟩ := List.mem_filterMap.mp member
  obtain ⟨before, was, found⟩ := Option.bind_eq_some_iff.mp found
  obtain ⟨after, is, rfl⟩ := Option.map_eq_some_iff.mp found
  exact ⟨was, is⟩

theorem mem_keysWithout_byName {α : Type} {name : α → String} {items others : List α}
    {key : String} :
    key ∈ dictKeys (keysWithout (byName name items) (byName name others)) ↔
      ∃ item ∈ items, name item = key ∧ ∀ other ∈ others, name other ≠ key := by
  rw [mem_dictKeys_keysWithout, mem_dictKeys_byName, mem_dictKeys_byName]
  constructor
  · rintro ⟨⟨item, member, named⟩, absent⟩
    exact ⟨item, member, named, fun other inside same => absent ⟨other, inside, same⟩⟩
  · rintro ⟨item, member, named, absent⟩
    exact ⟨⟨item, member, named⟩, fun ⟨other, inside, same⟩ => absent other inside same⟩

/-- Everything a diff can list about one table. -/
theorem tableChanges_cases {name : String} {old new : ObservedTable}
    (oldDistinct : (old.columns.map ObservedColumn.name).Nodup)
    (newDistinct : (new.columns.map ObservedColumn.name).Nodup) {change : SchemaChange}
    (member : change ∈ tableChanges runtime (name, old, new)) :
    change.table = name ∧
      ((∃ column ∈ old.columns, (∀ other ∈ new.columns, other.name ≠ column.name) ∧
          change.kind = .columnRemoved ∧ change.column = some column.name) ∨
        (∃ column ∈ new.columns, (∀ other ∈ old.columns, other.name ≠ column.name) ∧
          change.kind = .columnAdded ∧ change.column = some column.name) ∨
        (∃ column ∈ old.columns, ∃ other ∈ new.columns, other.name = column.name ∧
          column.signature ≠ other.signature ∧
          change.kind = .columnChanged ∧ change.column = some column.name) ∨
        (old.foreignKeys ≠ new.foreignKeys ∧
          change.kind = .relationshipsChanged ∧ change.column = none) ∨
        (old.indexes ≠ new.indexes ∧ change.kind = .indexesChanged ∧ change.column = none) ∨
        (old.commentFingerprint ≠ new.commentFingerprint ∧
          change.kind = .commentChanged ∧ change.column = none)) := by
  simp only [tableChanges, List.append_assoc, List.mem_append, List.mem_map, mem_sortedNames,
    mem_keysWithout_byName, List.mem_flatMap] at member
  rcases member with ⟨_, ⟨column, was, rfl, gone⟩, rfl⟩ | ⟨_, ⟨column, is, rfl, fresh⟩, rfl⟩ |
    ⟨entry, shared, listed⟩ | listed | listed | listed
  · exact ⟨rfl, .inl ⟨column, was, gone, rfl, rfl⟩⟩
  · exact ⟨rfl, .inr (.inl ⟨column, is, fresh, rfl, rfl⟩)⟩
  · obtain ⟨was, is⟩ := of_mem_sharedEntries shared
    obtain ⟨oldMember, oldNamed⟩ := (dictGet_byName oldDistinct).mp was
    obtain ⟨newMember, newNamed⟩ := (dictGet_byName newDistinct).mp is
    unfold columnChange at listed
    split at listed
    next differ =>
      cases List.mem_singleton.mp listed
      exact ⟨rfl, .inr (.inr (.inl ⟨_, oldMember, _, newMember, newNamed.trans oldNamed.symm,
        differ, rfl, congrArg some oldNamed.symm⟩))⟩
    next => cases listed
  · split at listed
    next differ =>
      cases List.mem_singleton.mp listed
      exact ⟨rfl, .inr (.inr (.inr (.inl ⟨of_decide_eq_true differ, rfl, rfl⟩)))⟩
    next => cases listed
  · split at listed
    next differ =>
      cases List.mem_singleton.mp listed
      exact ⟨rfl, .inr (.inr (.inr (.inr (.inl ⟨of_decide_eq_true differ, rfl, rfl⟩))))⟩
    next => cases listed
  · split at listed
    next differ =>
      cases List.mem_singleton.mp listed
      exact ⟨rfl, .inr (.inr (.inr (.inr (.inr ⟨of_decide_eq_true differ, rfl, rfl⟩))))⟩
    next => cases listed

/-- Everything a diff can list. -/
theorem changes_cases {before after : ObservedSchemaSnapshot} {diff : SchemaDiff}
    (compared : diffSchemaSnapshots runtime before after = .ok diff)
    (beforeVerified : before.Verified runtime) (afterVerified : after.Verified runtime)
    {change : SchemaChange} (member : change ∈ diff.changes) :
    (∃ old ∈ before.tables, (∀ new ∈ after.tables, new.name ≠ old.name) ∧
        change.Names .tableRemoved old.name none) ∨
      (∃ new ∈ after.tables, (∀ old ∈ before.tables, old.name ≠ new.name) ∧
        change.Names .tableAdded new.name none) ∨
      (∃ old ∈ before.tables, ∃ new ∈ after.tables, new.name = old.name ∧
        change ∈ tableChanges runtime (old.name, old, new)) := by
  rw [changes_eq_of_diff compared] at member
  simp only [List.append_assoc, List.mem_append, List.mem_map, mem_sortedNames,
    mem_keysWithout_byName, List.mem_flatMap] at member
  rcases member with ⟨_, ⟨old, was, rfl, gone⟩, rfl⟩ | ⟨_, ⟨new, is, rfl, fresh⟩, rfl⟩ |
    ⟨⟨name, old, new⟩, shared, listed⟩
  · exact .inl ⟨old, was, gone, rfl, rfl, rfl⟩
  · exact .inr (.inl ⟨new, is, fresh, rfl, rfl, rfl⟩)
  · obtain ⟨was, is⟩ := of_mem_sharedEntries shared
    dsimp only at was is
    obtain ⟨oldMember, rfl⟩ :=
      (dictGet_byName (nodup_of_casefold beforeVerified.tableNames)).mp was
    obtain ⟨newMember, newNamed⟩ :=
      (dictGet_byName (nodup_of_casefold afterVerified.tableNames)).mp is
    exact .inr (.inr ⟨old, oldMember, new, newMember, newNamed, listed⟩)

theorem column_added_reported {name : String} {old new : ObservedTable} {column : ObservedColumn}
    (is : column ∈ new.columns) (fresh : ∀ other ∈ old.columns, other.name ≠ column.name) :
    { kind := .columnAdded, table := name, column := some column.name } ∈
      tableChanges runtime (name, old, new) := by
  simp only [tableChanges, List.append_assoc]
  apply List.mem_append_right
  apply List.mem_append_left
  exact List.mem_map.mpr ⟨column.name,
    mem_sortedNames.mpr (mem_keysWithout_byName.mpr ⟨column, is, rfl, fresh⟩), rfl⟩

theorem added_mem_changes {before after : ObservedSchemaSnapshot} {diff : SchemaDiff}
    (compared : diffSchemaSnapshots runtime before after = .ok diff) {table : ObservedTable}
    (is : table ∈ after.tables) (fresh : ∀ other ∈ before.tables, other.name ≠ table.name) :
    { kind := .tableAdded, table := table.name } ∈ diff.changes := by
  rw [changes_eq_of_diff compared]
  apply List.mem_append_left
  apply List.mem_append_right
  exact List.mem_map.mpr ⟨table.name,
    mem_sortedNames.mpr (mem_keysWithout_byName.mpr ⟨table, is, rfl, fresh⟩), rfl⟩

end Listed

/-! ## Possible renames -/

section Renames

variable {α σ : Type} [DecidableEq σ] {removed added : List (String × α)} {signature : α → σ}

/-- A proposed pair joins a removed object to an added one, each the only one of its content. -/
theorem uniqueRenamePairs_cases {old : String × α} (member : old ∈ removed)
    {pair : String × String}
    (proposed : (match added.filter fun candidate => signature old.2 = signature candidate.2 with
      | [new] =>
          if (removed.filter fun candidate =>
              signature candidate.2 = signature new.2).length = 1 then
            some (old.1, new.1)
          else none
      | _ => none) = some pair) :
    ∃ new ∈ added, pair = (old.1, new.1) ∧
      (removed.filter fun candidate => signature candidate.2 = signature new.2) = [old] := by
  split at proposed
  next new matched =>
    have listed : new ∈ added.filter fun candidate => signature old.2 = signature candidate.2 := by
      rw [matched]
      exact List.mem_singleton_self new
    obtain ⟨inside, same⟩ := List.mem_filter.mp listed
    split at proposed
    next single =>
      obtain ⟨only, alone⟩ := List.length_eq_one_iff.mp single
      have oldListed : old ∈ removed.filter fun candidate =>
          signature candidate.2 = signature new.2 := List.mem_filter.mpr ⟨member, same⟩
      rw [alone] at oldListed
      have same : old = only := List.mem_singleton.mp oldListed
      exact ⟨new, inside, (Option.some.inj proposed).symm, by rw [alone, same]⟩
    next => cases proposed
  next => cases proposed

theorem mem_uniqueRenamePairs {pair : String × String}
    (member : pair ∈ uniqueRenamePairs removed added signature) :
    pair.1 ∈ dictKeys removed ∧ pair.2 ∈ dictKeys added := by
  obtain ⟨old, inside, proposed⟩ := List.mem_filterMap.mp member
  obtain ⟨new, listed, rfl, _⟩ := uniqueRenamePairs_cases inside proposed
  exact ⟨List.mem_map_of_mem inside, List.mem_map_of_mem listed⟩

/-- No name is on two of the proposed pairs. -/
theorem uniqueRenamePairs_pairwise (removedDistinct : (dictKeys removed).Nodup)
    (addedDistinct : (dictKeys added).Nodup) :
    (uniqueRenamePairs removed added signature).Pairwise fun first second =>
      first.1 ≠ second.1 ∧ first.2 ≠ second.2 := by
  apply List.pairwise_filterMap.mpr
  have distinct : removed.Pairwise fun first second => first.1 ≠ second.1 :=
    List.pairwise_map.mp removedDistinct
  apply distinct.imp_of_mem
  intro first second member otherMember apart pair proposed other otherProposed
  obtain ⟨new, inside, rfl, alone⟩ := uniqueRenamePairs_cases member proposed
  obtain ⟨otherNew, otherInside, rfl, otherAlone⟩ :=
    uniqueRenamePairs_cases otherMember otherProposed
  refine ⟨apart, fun same => apart ?_⟩
  have target : new = otherNew := List.inj_on_of_nodup_map addedDistinct inside otherInside same
  rw [target, otherAlone] at alone
  rw [(List.cons.inj alone).1]

theorem nodup_dictKeys_byName {α : Type} (name : α → String) (items : List α) :
    (dictKeys (byName name items)).Nodup := by
  have kept : ∀ (pairs entries : List (String × α)), (dictKeys entries).Nodup →
      (dictKeys (pairs.foldl (fun held pair => dictSet held pair.1 pair.2) entries)).Nodup := by
    intro pairs
    induction pairs with
    | nil => exact fun _ distinct => distinct
    | cons pair rest ih => exact fun _ distinct => ih _ (nodup_dictSet distinct _ _)
  exact kept _ [] List.nodup_nil

theorem nodup_keysWithout {α : Type} (name : α → String) (items others : List α) :
    (dictKeys (keysWithout (byName name items) (byName name others))).Nodup :=
  nodup_dictKeys_filter (nodup_dictKeys_byName name items) _

end Renames

/-! ## The changes of reflected tables -/

section Reflected

variable {runtime : SchemaRuntime} (injective : Function.Injective runtime.sha256)

/-- No observed column has the name of an observed column of the other side when no reflected
one has. -/
theorem observed_gone_iff {new : ReflectedTable} {newObserved : ObservedTable}
    (newRead : new.observe runtime = .ok newObserved) {column : ReflectedColumn} :
    (∀ other ∈ newObserved.columns, other.name ≠ column.name) ↔
      ∀ other ∈ new.columns, other.name ≠ column.name := by
  constructor
  · intro gone other member
    obtain ⟨image, read⟩ := ReflectedTable.exists_observe_column newRead member
    rw [← ReflectedColumn.name_observe read]
    exact gone image ((ReflectedTable.mem_columns_observe newRead).mpr ⟨other, member, read⟩)
  · intro gone image member
    obtain ⟨other, listed, read⟩ := (ReflectedTable.mem_columns_observe newRead).mp member
    rw [ReflectedColumn.name_observe read]
    exact gone other listed

section OneTable

variable {old new : ReflectedTable} {oldObserved newObserved : ObservedTable}
  (oldRead : old.observe runtime = .ok oldObserved)
  (newRead : new.observe runtime = .ok newObserved)

include injective oldRead newRead

theorem tableAltered_of_mem_tableChanges {name : String} {change : SchemaChange}
    (member : change ∈ tableChanges runtime (name, oldObserved, newObserved)) :
    change.table = name ∧ TableAltered old new change.kind change.column := by
  obtain ⟨named, reported⟩ := tableChanges_cases
    (nodup_of_casefold (ReflectedTable.columnNames_observe oldRead))
    (nodup_of_casefold (ReflectedTable.columnNames_observe newRead)) member
  refine ⟨named, ?_⟩
  rcases reported with ⟨image, listed, gone, kind, column⟩ | ⟨image, listed, fresh, kind, column⟩ |
    ⟨image, listed, other, otherListed, same, differ, kind, column⟩ | ⟨differ, kind, column⟩ |
    ⟨differ, kind, column⟩ | ⟨differ, kind, column⟩
  all_goals rw [kind, column]
  · obtain ⟨reflected, was, read⟩ := (ReflectedTable.mem_columns_observe oldRead).mp listed
    rw [ReflectedColumn.name_observe read] at gone ⊢
    exact .columnRemoved was ((observed_gone_iff newRead).mp gone)
  · obtain ⟨reflected, is, read⟩ := (ReflectedTable.mem_columns_observe newRead).mp listed
    rw [ReflectedColumn.name_observe read] at fresh ⊢
    exact .columnAdded is ((observed_gone_iff oldRead).mp fresh)
  · obtain ⟨reflected, was, read⟩ := (ReflectedTable.mem_columns_observe oldRead).mp listed
    obtain ⟨otherReflected, is, otherRead⟩ :=
      (ReflectedTable.mem_columns_observe newRead).mp otherListed
    rw [ReflectedColumn.name_observe read, ReflectedColumn.name_observe otherRead] at same
    rw [ReflectedColumn.name_observe read]
    refine .columnChanged was is same fun equal => differ ?_
    exact (ReflectedColumn.signature_observe_eq_iff injective read otherRead same).mpr equal
  · exact .relationshipsChanged fun moved =>
      differ ((ReflectedTable.foreignKeys_observe_eq_iff oldRead newRead).mpr moved)
  · exact .indexesChanged fun moved =>
      differ ((ReflectedTable.indexes_observe_eq_iff oldRead newRead).mpr moved)
  · exact .commentChanged fun same =>
      differ ((ReflectedTable.comment_observe_eq_iff injective oldRead newRead).mpr same)

theorem reported_of_tableAltered (name : String) {kind : SchemaChangeKind}
    {column : Option String} (altered : TableAltered old new kind column) :
    ∃ change ∈ tableChanges runtime (name, oldObserved, newObserved),
      change.Names kind name column := by
  cases altered with
  | @columnRemoved column was gone =>
      obtain ⟨image, read⟩ := ReflectedTable.exists_observe_column oldRead was
      have listed := (ReflectedTable.mem_columns_observe oldRead).mpr ⟨column, was, read⟩
      have named := ReflectedColumn.name_observe read
      have absent := (observed_gone_iff newRead).mpr gone
      rw [← named] at absent ⊢
      exact ⟨_, column_removed_reported listed absent, rfl, rfl, rfl⟩
  | @columnAdded column is fresh =>
      obtain ⟨image, read⟩ := ReflectedTable.exists_observe_column newRead is
      have listed := (ReflectedTable.mem_columns_observe newRead).mpr ⟨column, is, read⟩
      have named := ReflectedColumn.name_observe read
      have absent := (observed_gone_iff oldRead).mpr fresh
      rw [← named] at absent ⊢
      exact ⟨_, column_added_reported listed absent, rfl, rfl, rfl⟩
  | @columnChanged column other was is same differ =>
      obtain ⟨image, read⟩ := ReflectedTable.exists_observe_column oldRead was
      obtain ⟨otherImage, otherRead⟩ := ReflectedTable.exists_observe_column newRead is
      have listed := (ReflectedTable.mem_columns_observe oldRead).mpr ⟨column, was, read⟩
      have otherListed := (ReflectedTable.mem_columns_observe newRead).mpr ⟨other, is, otherRead⟩
      have images : image ≠ otherImage := by
        intro equal
        apply differ
        apply (ReflectedColumn.signature_observe_eq_iff injective read otherRead same).mp
        rw [equal]
      have alike : otherImage.name = image.name := by
        rw [ReflectedColumn.name_observe read, ReflectedColumn.name_observe otherRead, same]
      rw [← ReflectedColumn.name_observe read]
      apply column_changed_reported
        (nodup_of_casefold (ReflectedTable.columnNames_observe oldRead))
        (nodup_of_casefold (ReflectedTable.columnNames_observe newRead)) listed otherListed alike
        images
  | relationshipsChanged differ =>
      refine ⟨_, foreignKeys_reported fun same => differ ?_, rfl, rfl, rfl⟩
      exact (ReflectedTable.foreignKeys_observe_eq_iff oldRead newRead).mp same
  | indexesChanged differ =>
      refine ⟨_, indexes_reported fun same => differ ?_, rfl, rfl, rfl⟩
      exact (ReflectedTable.indexes_observe_eq_iff oldRead newRead).mp same
  | commentChanged differ =>
      refine ⟨_, comment_reported fun same => differ ?_, rfl, rfl, rfl⟩
      exact (ReflectedTable.comment_observe_eq_iff injective oldRead newRead).mp same

end OneTable

section Compared

variable {connectionId : String} {olds news : List ReflectedTable}
  {before after : ObservedSchemaSnapshot}
  (beforeRead : fromTables runtime connectionId olds = .ok before)
  (afterRead : fromTables runtime connectionId news = .ok after)

theorem observed_absent_iff (read : fromTables runtime connectionId news = .ok after)
    {name : String} :
    (∀ other ∈ after.tables, other.name ≠ name) ↔ ∀ other ∈ news, other.name ≠ name := by
  constructor
  · intro gone other member
    obtain ⟨observed, tableRead⟩ := exists_observe_of_fromTables read member
    rw [← ReflectedTable.name_observe tableRead]
    exact gone observed ((mem_tables_fromTables read).mpr ⟨other, member, tableRead⟩)
  · intro gone observed member
    obtain ⟨other, listed, tableRead⟩ := (mem_tables_fromTables read).mp member
    rw [ReflectedTable.name_observe tableRead]
    exact gone other listed

include beforeRead afterRead injective

/-- The changes name what is altered, under its kind, and nothing else. -/
theorem changes_names_iff {diff : SchemaDiff}
    (compared : diffSchemaSnapshots runtime before after = .ok diff) {kind : SchemaChangeKind}
    {table : String} {column : Option String} :
    (∃ change ∈ diff.changes, change.Names kind table column) ↔
      Altered olds news kind table column := by
  have beforeVerified := verified_fromTables beforeRead
  have afterVerified := verified_fromTables afterRead
  constructor
  · rintro ⟨change, member, rfl, rfl, rfl⟩
    rcases changes_cases compared beforeVerified afterVerified member with
      ⟨observed, listed, gone, kind, table, column⟩ |
      ⟨observed, listed, fresh, kind, table, column⟩ |
      ⟨observed, listed, other, otherListed, same, reported⟩
    · obtain ⟨old, was, read⟩ := (mem_tables_fromTables beforeRead).mp listed
      rw [kind, table, column]
      rw [ReflectedTable.name_observe read] at gone ⊢
      exact .tableRemoved was ((observed_absent_iff afterRead).mp gone)
    · obtain ⟨new, is, read⟩ := (mem_tables_fromTables afterRead).mp listed
      rw [kind, table, column]
      rw [ReflectedTable.name_observe read] at fresh ⊢
      exact .tableAdded is ((observed_absent_iff beforeRead).mp fresh)
    · obtain ⟨old, was, read⟩ := (mem_tables_fromTables beforeRead).mp listed
      obtain ⟨new, is, otherRead⟩ := (mem_tables_fromTables afterRead).mp otherListed
      obtain ⟨table, altered⟩ :=
        tableAltered_of_mem_tableChanges injective read otherRead reported
      rw [ReflectedTable.name_observe read, ReflectedTable.name_observe otherRead] at same
      rw [table, ReflectedTable.name_observe read]
      exact .within was is same altered
  · intro altered
    cases altered with
    | @tableRemoved old was gone =>
        obtain ⟨observed, read⟩ := exists_observe_of_fromTables beforeRead was
        have listed := (mem_tables_fromTables beforeRead).mpr ⟨old, was, read⟩
        have absent := (observed_absent_iff afterRead).mpr gone
        rw [← ReflectedTable.name_observe read] at absent ⊢
        exact ⟨_, removed_mem_changes compared listed absent, rfl, rfl, rfl⟩
    | @tableAdded new is fresh =>
        obtain ⟨observed, read⟩ := exists_observe_of_fromTables afterRead is
        have listed := (mem_tables_fromTables afterRead).mpr ⟨new, is, read⟩
        have absent := (observed_absent_iff beforeRead).mpr fresh
        rw [← ReflectedTable.name_observe read] at absent ⊢
        exact ⟨_, added_mem_changes compared listed absent, rfl, rfl, rfl⟩
    | @within old new kind column was is same altered =>
        obtain ⟨observed, read⟩ := exists_observe_of_fromTables beforeRead was
        obtain ⟨other, otherRead⟩ := exists_observe_of_fromTables afterRead is
        have listed := (mem_tables_fromTables beforeRead).mpr ⟨old, was, read⟩
        have otherListed := (mem_tables_fromTables afterRead).mpr ⟨new, is, otherRead⟩
        have alike : other.name = observed.name := by
          rw [ReflectedTable.name_observe read, ReflectedTable.name_observe otherRead, same]
        obtain ⟨change, reported, names⟩ :=
          reported_of_tableAltered injective read otherRead observed.name altered
        rw [ReflectedTable.name_observe read] at names
        exact ⟨change, tableChanges_subset_changes compared beforeVerified afterVerified listed
          otherListed alike reported, names⟩

end Compared

/-! ## Unaltered tables -/

section Unaltered

/-- A table that is not altered has the columns it had. -/
theorem column_of_unaltered {old new : ReflectedTable}
    (unaltered : ∀ kind column, ¬TableAltered old new kind column) (column : ReflectedColumn) :
    column ∈ old.columns ↔ column ∈ new.columns := by
  constructor
  · intro was
    by_contra absent
    apply unaltered .columnRemoved (some column.name)
    apply TableAltered.columnRemoved was
    intro other is same
    refine unaltered .columnChanged _ (.columnChanged was is same fun equal => absent ?_)
    rwa [equal]
  · intro is
    by_contra absent
    apply unaltered .columnAdded (some column.name)
    apply TableAltered.columnAdded is
    intro other was same
    refine unaltered .columnChanged _ (.columnChanged was is same.symm fun equal => absent ?_)
    rwa [← equal]

include injective

theorem observe_eq_of_unaltered {old new : ReflectedTable}
    (unaltered : ∀ kind column, ¬TableAltered old new kind column) (same : new.name = old.name)
    {observed other : ObservedTable} (read : old.observe runtime = .ok observed)
    (otherRead : new.observe runtime = .ok other) : observed = other := by
  have columns : observed.columns = other.columns := by
    have distinct := ReflectedTable.columnNames_observe read
    have otherDistinct := ReflectedTable.columnNames_observe otherRead
    apply eq_of_sorted_perm (nameKey_injOn_of_casefold distinct)
      (ReflectedTable.sorted_observe read) (ReflectedTable.sorted_observe otherRead)
    apply (List.perm_ext_iff_of_nodup (nodup_of_casefold distinct).of_map
      (nodup_of_casefold otherDistinct).of_map).mpr
    intro image
    rw [ReflectedTable.mem_columns_observe read, ReflectedTable.mem_columns_observe otherRead]
    simp only [column_of_unaltered unaltered]
  have foreignKeys : observed.foreignKeys = other.foreignKeys := by
    by_contra differ
    apply unaltered _ _ (.relationshipsChanged fun moved => differ ?_)
    exact (ReflectedTable.foreignKeys_observe_eq_iff read otherRead).mpr moved
  have indexes : observed.indexes = other.indexes := by
    by_contra differ
    apply unaltered _ _ (.indexesChanged fun moved => differ ?_)
    exact (ReflectedTable.indexes_observe_eq_iff read otherRead).mpr moved
  have comments : observed.commentFingerprint = other.commentFingerprint := by
    by_contra differ
    apply unaltered _ _ (.commentChanged fun equal => differ ?_)
    exact (ReflectedTable.comment_observe_eq_iff injective read otherRead).mpr equal
  have names : observed.name = other.name := by
    rw [ReflectedTable.name_observe read, ReflectedTable.name_observe otherRead, same]
  cases observed
  cases other
  simp_all only

/-- Tables that are not altered have one snapshot. -/
theorem fromTables_eq_of_unaltered {connectionId : String} {olds news : List ReflectedTable}
    {before after : ObservedSchemaSnapshot}
    (beforeRead : fromTables runtime connectionId olds = .ok before)
    (afterRead : fromTables runtime connectionId news = .ok after)
    (unaltered : ∀ kind table column, ¬Altered olds news kind table column) : before = after := by
  have distinct := (verified_fromTables beforeRead).tableNames
  have otherDistinct := (verified_fromTables afterRead).tableNames
  have matched : ∀ old ∈ olds, ∀ new ∈ news, new.name = old.name → ∀ observed other,
      old.observe runtime = .ok observed → new.observe runtime = .ok other →
      observed = other := by
    intro old was new is same observed other read otherRead
    exact observe_eq_of_unaltered injective
      (fun kind column altered => unaltered _ _ _ (.within was is same altered)) same read otherRead
  have tables : before.tables = after.tables := by
    apply eq_of_sorted_perm (nameKey_injOn_of_casefold distinct) (sorted_fromTables beforeRead)
      (sorted_fromTables afterRead)
    apply (List.perm_ext_iff_of_nodup (nodup_of_casefold distinct).of_map
      (nodup_of_casefold otherDistinct).of_map).mpr
    intro image
    rw [mem_tables_fromTables beforeRead, mem_tables_fromTables afterRead]
    constructor
    · rintro ⟨old, was, read⟩
      by_contra absent
      apply unaltered _ _ _ (.tableRemoved was fun new is same => absent ?_)
      obtain ⟨other, otherRead⟩ := exists_observe_of_fromTables afterRead is
      rw [matched old was new is same image other read otherRead]
      exact ⟨new, is, otherRead⟩
    · rintro ⟨new, is, otherRead⟩
      by_contra absent
      apply unaltered _ _ _ (.tableAdded is fun old was same => absent ?_)
      obtain ⟨observed, read⟩ := exists_observe_of_fromTables beforeRead was
      rw [← matched old was new is same.symm observed image read otherRead]
      exact ⟨old, was, read⟩
  obtain ⟨_, _, _, _, _, rfl⟩ := fromTables_eq_ok_iff.mp beforeRead
  obtain ⟨_, _, _, _, _, rfl⟩ := fromTables_eq_ok_iff.mp afterRead
  dsimp only at tables
  rw [tables]

end Unaltered

end Reflected

/-! ## Diffs of reflected tables -/

section Diffs

variable {runtime : SchemaRuntime}

/-- Nothing is listed between a snapshot and itself. -/
theorem changes_self {snapshot : ObservedSchemaSnapshot} {diff : SchemaDiff}
    (compared : diffSchemaSnapshots runtime snapshot snapshot = .ok diff)
    (verified : snapshot.Verified runtime) : diff.changes = [] := by
  apply List.eq_nil_iff_forall_not_mem.mpr
  intro change member
  rcases changes_cases compared verified verified member with ⟨old, was, gone, _⟩ |
    ⟨new, is, fresh, _⟩ | ⟨old, was, new, is, same, listed⟩
  · exact gone old was rfl
  · exact fresh new is rfl
  · cases List.inj_on_of_nodup_map (nodup_of_casefold verified.tableNames) is was same
    have distinct := nodup_of_casefold (verified.columnNames old was)
    obtain ⟨_, reported⟩ := tableChanges_cases distinct distinct listed
    rcases reported with ⟨column, inside, gone, _⟩ | ⟨column, inside, fresh, _⟩ |
      ⟨column, inside, other, otherInside, named, differ, _⟩ | ⟨differ, _⟩ | ⟨differ, _⟩ |
      ⟨differ, _⟩
    · exact gone column inside rfl
    · exact fresh column inside rfl
    · cases List.inj_on_of_nodup_map distinct otherInside inside named
      exact differ rfl
    · exact differ rfl
    · exact differ rfl
    · exact differ rfl

/-- Two renames of one kind, in one table, share neither name. -/
def PossibleRename.Apart (first second : PossibleRename) : Prop :=
  first.objectType = second.objectType → first.table = second.table →
    first.fromName ≠ second.fromName ∧ first.toName ≠ second.toName

/-- The rename joins the name of a removed object to that of an added one. -/
def PossibleRename.Joins (rename : PossibleRename) (olds news : List ReflectedTable) : Prop :=
  match rename.objectType with
  | .table => rename.table = none ∧ Altered olds news .tableRemoved rename.fromName none ∧
      Altered olds news .tableAdded rename.toName none
  | .column => ∃ table, rename.table = some table ∧
      Altered olds news .columnRemoved table (some rename.fromName) ∧
      Altered olds news .columnAdded table (some rename.toName)

theorem renames_eq_of_diff {before after : ObservedSchemaSnapshot} {diff : SchemaDiff}
    (compared : diffSchemaSnapshots runtime before after = .ok diff) :
    diff.possibleRenames =
      ((uniqueRenamePairs
        (keysWithout (byName ObservedTable.name before.tables)
          (byName ObservedTable.name after.tables))
        (keysWithout (byName ObservedTable.name after.tables)
          (byName ObservedTable.name before.tables))
        (ObservedTable.signature runtime)).map fun pair =>
          { objectType := .table, fromName := pair.1, toName := pair.2 }) ++
      (sharedEntries runtime (byName ObservedTable.name before.tables)
        (byName ObservedTable.name after.tables)).flatMap columnRenames := by
  unfold diffSchemaSnapshots at compared
  obtain ⟨_, _, finished⟩ := (bind_eq_ok_iff ..).mp compared
  rw [← Except.ok.inj finished]

theorem sharedEntries_pairwise {α : Type} {old new : List (String × α)}
    (distinct : (dictKeys old).Nodup) :
    (sharedEntries runtime old new).Pairwise fun first second => first.1 ≠ second.1 := by
  apply List.pairwise_filterMap.mpr
  have names : (sortedNames runtime
      ((dictKeys old).filter fun name => (dictGet new name).isSome)).Nodup :=
    (List.perm_insertionSort _ _).nodup_iff.mpr (distinct.filter _)
  apply names.imp
  intro first second apart entry found other otherFound
  obtain ⟨_, _, found⟩ := Option.bind_eq_some_iff.mp found
  obtain ⟨_, _, rfl⟩ := Option.map_eq_some_iff.mp found
  obtain ⟨_, _, otherFound⟩ := Option.bind_eq_some_iff.mp otherFound
  obtain ⟨_, _, rfl⟩ := Option.map_eq_some_iff.mp otherFound
  exact apart

theorem columnRenames_table {entry : String × ObservedTable × ObservedTable}
    {rename : PossibleRename} (member : rename ∈ columnRenames entry) :
    rename.objectType = .column ∧ rename.table = some entry.1 := by
  obtain ⟨_, _, rfl⟩ := List.mem_map.mp member
  exact ⟨rfl, rfl⟩

/-- No two proposed renames of one kind, in one table, share a name. -/
theorem renames_pairwise {before after : ObservedSchemaSnapshot} {diff : SchemaDiff}
    (compared : diffSchemaSnapshots runtime before after = .ok diff) :
    diff.possibleRenames.Pairwise PossibleRename.Apart := by
  rw [renames_eq_of_diff compared]
  apply List.pairwise_append.mpr
  refine ⟨List.pairwise_map.mpr ?_, List.pairwise_flatMap.mpr ⟨?_, ?_⟩, ?_⟩
  · apply (uniqueRenamePairs_pairwise (nodup_keysWithout ..) (nodup_keysWithout ..)).imp
    exact fun apart _ _ => apart
  · intro entry _
    apply List.pairwise_map.mpr
    apply (uniqueRenamePairs_pairwise (nodup_keysWithout ..) (nodup_keysWithout ..)).imp
    exact fun apart _ _ => apart
  · apply (sharedEntries_pairwise (nodup_dictKeys_byName ..)).imp
    intro entry other apart rename member otherRename otherMember _ same
    rw [(columnRenames_table member).2, (columnRenames_table otherMember).2] at same
    exact absurd (Option.some.inj same) apart
  · intro rename member other otherMember same
    obtain ⟨_, _, rfl⟩ := List.mem_map.mp member
    obtain ⟨_, _, listed⟩ := List.mem_flatMap.mp otherMember
    rw [(columnRenames_table listed).1] at same
    cases same

variable (injective : Function.Injective runtime.sha256) {connectionId : String}
  {olds news : List ReflectedTable} {before after : ObservedSchemaSnapshot}
  (beforeRead : fromTables runtime connectionId olds = .ok before)
  (afterRead : fromTables runtime connectionId news = .ok after)
  {diff : SchemaDiff} (compared : diffSchemaSnapshots runtime before after = .ok diff)

include beforeRead afterRead compared injective

theorem changes_eq_nil_iff : diff.changes = [] ↔ before.fingerprint = after.fingerprint := by
  constructor
  · intro unlisted
    have unaltered : ∀ kind table column, ¬Altered olds news kind table column := by
      intro kind table column altered
      obtain ⟨change, member, _⟩ :=
        (changes_names_iff injective beforeRead afterRead compared).mpr altered
      rw [unlisted] at member
      cases member
    rw [fromTables_eq_of_unaltered injective beforeRead afterRead unaltered]
  · intro same
    have one := (verified_fromTables beforeRead).eq_of_fingerprint injective
      (verified_fromTables afterRead) same
    subst one
    exact changes_self compared (verified_fromTables beforeRead)

/-- A proposed rename joins what the diff lists as removed to what it lists as added. -/
theorem rename_joins {rename : PossibleRename} (member : rename ∈ diff.possibleRenames) :
    rename.Joins olds news := by
  have beforeVerified := verified_fromTables beforeRead
  have afterVerified := verified_fromTables afterRead
  have altered : ∀ kind table column, { kind := kind, table := table, column := column } ∈
      diff.changes → Altered olds news kind table column := fun _ _ _ listed =>
    (changes_names_iff injective beforeRead afterRead compared).mp ⟨_, listed, rfl, rfl, rfl⟩
  rw [renames_eq_of_diff compared] at member
  rcases List.mem_append.mp member with ofTables | ofColumns
  · obtain ⟨pair, proposed, rfl⟩ := List.mem_map.mp ofTables
    obtain ⟨removed, added⟩ := mem_uniqueRenamePairs proposed
    obtain ⟨old, was, named, gone⟩ := mem_keysWithout_byName.mp removed
    obtain ⟨new, is, otherNamed, fresh⟩ := mem_keysWithout_byName.mp added
    rw [← named] at gone
    rw [← otherNamed] at fresh
    refine ⟨rfl, ?_, ?_⟩
    · rw [← named]
      exact altered _ _ _ (removed_mem_changes compared was gone)
    · rw [← otherNamed]
      exact altered _ _ _ (added_mem_changes compared is fresh)
  · obtain ⟨⟨table, old, new⟩, shared, listed⟩ := List.mem_flatMap.mp ofColumns
    obtain ⟨pair, proposed, rfl⟩ := List.mem_map.mp listed
    obtain ⟨removed, added⟩ := mem_uniqueRenamePairs proposed
    obtain ⟨column, was, named, gone⟩ := mem_keysWithout_byName.mp removed
    obtain ⟨other, is, otherNamed, fresh⟩ := mem_keysWithout_byName.mp added
    obtain ⟨tableWas, tableIs⟩ := of_mem_sharedEntries shared
    dsimp only at tableWas tableIs
    obtain ⟨oldMember, rfl⟩ :=
      (dictGet_byName (nodup_of_casefold beforeVerified.tableNames)).mp tableWas
    obtain ⟨newMember, same⟩ :=
      (dictGet_byName (nodup_of_casefold afterVerified.tableNames)).mp tableIs
    have within : ∀ change ∈ tableChanges runtime (old.name, old, new), change ∈ diff.changes :=
      fun _ reported => tableChanges_subset_changes compared beforeVerified afterVerified oldMember
        newMember same reported
    rw [← named] at gone
    rw [← otherNamed] at fresh
    refine ⟨old.name, rfl, ?_, ?_⟩
    · rw [← named]
      exact altered _ _ _ (within _ (column_removed_reported was gone))
    · rw [← otherNamed]
      exact altered _ _ _ (within _ (column_added_reported is fresh))

end Diffs

/-- A reflected schema has one snapshot, in whatever order its objects are enumerated. Between two
of them, a diff is empty exactly when their fingerprints are equal, its changes name what is altered
and nothing else, and no name is on two of the renames it proposes. -/
theorem schemaDiffs_exact {runtime : SchemaRuntime} (injective : Function.Injective runtime.sha256)
    (connectionId : String) :
    (∀ tables others, SameReflection tables others →
      (fromTables runtime connectionId tables).toOption =
        (fromTables runtime connectionId others).toOption) ∧
    ∀ olds news before after, fromTables runtime connectionId olds = .ok before →
      fromTables runtime connectionId news = .ok after →
      ∃ diff, diffSchemaSnapshots runtime before after = .ok diff ∧
        (diff.changes = [] ↔ before.fingerprint = after.fingerprint) ∧
        (∀ kind table column, (∃ change ∈ diff.changes, change.Names kind table column) ↔
          Altered olds news kind table column) ∧
        (∀ rename ∈ diff.possibleRenames, rename.Joins olds news) ∧
        diff.possibleRenames.Pairwise PossibleRename.Apart := by
  refine ⟨fun _ _ same => same.toOption_fromTables connectionId, ?_⟩
  intro olds news before after beforeRead afterRead
  have connected : before.connectionId = after.connectionId := by
    rw [connectionId_fromTables beforeRead, connectionId_fromTables afterRead]
  obtain ⟨diff, compared⟩ := diffSchemaSnapshots_of_connection connected
  refine ⟨diff, compared, changes_eq_nil_iff injective beforeRead afterRead compared, ?_, ?_, ?_⟩
  · exact fun _ _ _ => changes_names_iff injective beforeRead afterRead compared
  · exact fun _ member => rename_joins injective beforeRead afterRead compared member
  · exact renames_pairwise compared

/-! ## What a diff leaves out -/

/-- A table whose only column refers to the user who owns an order. -/
def ownedTable (typeText target : String) : ReflectedTable where
  name := "orders"
  columns := [{ name := "owner", typeText := typeText, nullable := false }]
  foreignKeys := [{ parent := "owner", targetFullname := target }]

def ownedSnapshot (tables : List ObservedTable) : ObservedSchemaSnapshot where
  connectionId := "demo"
  tables := tables
  fingerprint := payloadFingerprint readableRuntime (canonicalPayload "demo" tables)

/-- What a snapshot keeps of the table. -/
def ownedObserved (typeText : String) : ObservedTable where
  name := "orders"
  columns := [{ name := "owner", dataType := typeText, nullable := false }]
  foreignKeys := [{ column := "owner", toTable := "users", toColumn := "id" }]

theorem fromTables_none : fromTables readableRuntime "demo" [] = .ok (ownedSnapshot []) := by
  apply fromTables_eq_ok_iff.mpr
  exact ⟨[], rfl, by decide, by decide, List.nodup_nil, rfl⟩

theorem fromTables_owned {typeText target : String}
    (read : (ownedTable typeText target).observe readableRuntime = .ok (ownedObserved typeText)) :
    fromTables readableRuntime "demo" [ownedTable typeText target] =
      .ok (ownedSnapshot [ownedObserved typeText]) := by
  apply fromTables_eq_ok_iff.mpr
  refine ⟨[ownedObserved typeText], ?_, by decide, by simp, List.nodup_singleton _, rfl⟩
  exact mapAll_eq_ok_iff.mpr (.cons read .nil)

theorem schemaDiffs_exact_ownedTable : ∃ before after diff,
    fromTables readableRuntime "demo" [ownedTable "INTEGER" "sales.users.id"] = .ok before ∧
    fromTables readableRuntime "demo" [ownedTable "TEXT" "sales.users.id"] = .ok after ∧
    diffSchemaSnapshots readableRuntime before after = .ok diff ∧
    before.fingerprint ≠ after.fingerprint ∧
    ∃ change ∈ diff.changes, change.Names .columnChanged "orders" (some "owner") := by
  have beforeRead := fromTables_owned
    (show (ownedTable "INTEGER" "sales.users.id").observe readableRuntime = _ from rfl)
  have afterRead := fromTables_owned
    (show (ownedTable "TEXT" "sales.users.id").observe readableRuntime = _ from rfl)
  obtain ⟨diff, compared, empty, named, _⟩ :=
    (schemaDiffs_exact readableRuntime_injective "demo").2 _ _ _ _ beforeRead afterRead
  have altered : Altered [ownedTable "INTEGER" "sales.users.id"]
      [ownedTable "TEXT" "sales.users.id"] .columnChanged "orders" (some "owner") := by
    have was := List.mem_singleton_self (ownedTable "INTEGER" "sales.users.id")
    have is := List.mem_singleton_self (ownedTable "TEXT" "sales.users.id")
    apply Altered.within was is rfl
    have column : ∀ typeText : String,
        { name := "owner", typeText := typeText, nullable := false } ∈
          (ownedTable typeText "sales.users.id").columns := fun _ => List.mem_singleton_self _
    exact .columnChanged (column "INTEGER") (column "TEXT") rfl (by decide)
  have listed := (named _ _ _).mpr altered
  refine ⟨_, _, diff, beforeRead, afterRead, compared, ?_, listed⟩
  intro same
  obtain ⟨change, member, _⟩ := listed
  rw [empty.mpr same] at member
  cases member

/-- No change names the column of a table that is gone, and no snapshot keeps the schema of the
table a foreign key refers to. -/
theorem not_everyColumn_named : ∃ before after diff,
    fromTables readableRuntime "demo" [ownedTable "INTEGER" "sales.users.id"] = .ok before ∧
    fromTables readableRuntime "demo" [] = .ok after ∧
    diffSchemaSnapshots readableRuntime before after = .ok diff ∧
    (∀ change ∈ diff.changes, change.column ≠ some "owner") ∧
    (ownedTable "INTEGER" "sales.users.id").foreignKeys ≠
      (ownedTable "INTEGER" "hr.users.id").foreignKeys ∧
    fromTables readableRuntime "demo" [ownedTable "INTEGER" "hr.users.id"] = .ok before := by
  have beforeRead := fromTables_owned
    (show (ownedTable "INTEGER" "sales.users.id").observe readableRuntime = _ from rfl)
  have otherRead := fromTables_owned
    (show (ownedTable "INTEGER" "hr.users.id").observe readableRuntime = _ from rfl)
  obtain ⟨diff, compared⟩ : ∃ diff, diffSchemaSnapshots readableRuntime
      (ownedSnapshot [ownedObserved "INTEGER"]) (ownedSnapshot []) = .ok diff :=
    diffSchemaSnapshots_of_connection rfl
  refine ⟨_, _, diff, beforeRead, fromTables_none, compared, ?_, by decide, otherRead⟩
  intro change member column
  rcases changes_cases compared (verified_fromTables beforeRead)
    (verified_fromTables fromTables_none) member with ⟨_, _, _, _, _, none⟩ | ⟨_, is, _⟩ |
    ⟨_, _, _, is, _⟩
  · rw [column] at none
    cases none
  · cases is
  · cases is

end QueryGate.Catalog
