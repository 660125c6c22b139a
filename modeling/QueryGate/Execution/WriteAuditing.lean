import QueryGate.Execution.WriteLimits

/-! # Audit events of writes

A single attempt emits one event. A batch of independent writes emits a second
one for a statement whose approval is resolved inside the batch, and none for the
statements after a resolver that raises; an atomic batch emits its events after
the commit only, so that a failed one leaves none. Events count the rows the
driver reported, or those counted before the statement ran.
-/

namespace QueryGate

open Foundation

/-- The rows a committed statement inserted, changed or removed. -/
def CommittedWrite.affected (engine : Engine) (write : CommittedWrite) : Int :=
  match write.statement.rows? with
  | some rows => (rows.length : Int)
  | none => ((write.changed engine).length : Int)

namespace WriteExecutionService

variable {service : WriteExecutionService}

/-- A statement's trace holds one event, which is about the statement, says allowed
exactly when the statement was committed, and counts the rows it changed. -/
def AuditedOnce (service : WriteExecutionService) (statement : WriteStatement)
    (trace : StatementTrace) : Prop :=
  ∃ event, trace.audits = [event] ∧ event.shape.op = statement.op ∧
    event.shape.columns = shapeColumns statement ∧
    (event.allowed = true ↔ trace.committed.isSome = true) ∧
    ∀ write, trace.committed = some write →
      event.affectedRows = some (write.affected service.engine)

/-- An event counts a statement's rows as they are: the rows come with the statement,
the driver reports them, or as many were counted before. -/
def CountExact (service : WriteExecutionService) (reports : Bool) (write : CommittedWrite)
    (affected : Int) : Prop :=
  write.statement.rows?.isSome = true ∨ reports = true ∨
    affected = ((write.changed service.engine).length : Int)

/-- If an attempt gets as far as its commit, nothing raises after it, and its rows are
counted as they are. -/
def CleanAttempt (service : WriteExecutionService) (view : AttemptView)
    (statement : WriteStatement) (token : Option String) : Prop :=
  ∀ schema dml sql affected actual,
    Reached service view statement token schema dml sql affected actual →
    view.transaction.release = none ∧
      CountExact service view.statement.reportsRowcount (recorded view statement dml token) affected

/-- Every attempt emits exactly one event. -/
theorem execute_audits (view : AttemptView) (statement : WriteStatement) (token : Option String) :
    ∃ event, (service.execute view statement token).trace.audits = [event] := by
  obtain ⟨_, _, _, same⟩ | ⟨_, _, _, _, _, _, ⟨_, same⟩ | ⟨_, _, same⟩⟩ :=
    service.execute_cases view statement token
  · exact ⟨_, by rw [same]; rfl⟩
  · exact ⟨_, by rw [same]⟩
  · exact ⟨_, by rw [same]; rfl⟩

/-- The rows the service goes by are those the statement changed exactly when they
are counted as they are. -/
theorem actualRows_eq_iff {view : AttemptView} {statement : WriteStatement} {dml : Dml}
    {token : Option String} {affected : Int} :
    service.actualRows view.statement statement dml affected =
        (recorded view statement dml token).affected service.engine ↔
      CountExact service view.statement.reportsRowcount (recorded view statement dml token)
        affected := by
  simp only [actualRows, CommittedWrite.affected, CountExact, recorded, CommittedWrite.changed]
  cases rows : statement.rows? with
  | some rows => simp
  | none =>
      cases view.statement.reportsRowcount with
      | true => simp
      | false => simp

theorem auditedOnce_execute_iff {view : AttemptView} {statement : WriteStatement}
    {token : Option String} :
    AuditedOnce service statement (service.execute view statement token).trace ↔
      CleanAttempt service view statement token := by
  constructor
  · rintro ⟨event, audits, _, _, allowed, counted⟩ schema dml sql affected actual reached
    have same := execute_of_reached reached
    cases release : view.transaction.release with
    | some cause =>
        -- The commit stands, and the one event says denied.
        rw [release] at same
        rw [same] at audits allowed
        cases audits
        have denied := allowed.mpr rfl
        cases denied
    | none =>
        rw [release] at same
        rw [same] at audits counted
        cases audits
        have exact_ := counted _ rfl
        rw [auditAllowed, Option.some.injEq, reached.passed.rows] at exact_
        exact ⟨rfl, actualRows_eq_iff.mp exact_⟩
  · intro clean
    obtain ⟨_, _, _, same⟩ | ⟨schema, dml, sql, affected, actual, reached, outcome⟩ :=
      service.execute_cases view statement token
    · rw [same]
      refine ⟨_, rfl, rfl, rfl, ⟨fun absurd => ?_, fun absurd => ?_⟩, fun write absurd => ?_⟩
      · cases absurd
      · cases absurd
      · cases absurd
    · obtain ⟨quiet, counted⟩ := clean schema dml sql affected actual reached
      obtain ⟨_, same⟩ | ⟨cause, loud, _⟩ := outcome
      · rw [same]
        refine ⟨_, rfl, rfl, rfl, ⟨fun _ => rfl, fun _ => rfl⟩, fun write committed => ?_⟩
        cases committed
        rw [auditAllowed, reached.passed.rows, actualRows_eq_iff.mpr counted]
      · rw [quiet] at loud
        cases loud

/-- No attempt of a batch reaches an event too many, too few or wrong: attempts are
clean, no approval is resolved into a second attempt, and the resolver raises, if at
all, for the last statement. -/
def CleanBatch (service : WriteExecutionService) (tokens : List (String × String))
    (resolver : Option ApprovalResolver) : List BatchItem → Prop
  | [] => True
  | item :: rest =>
      let supplied := service.suppliedToken tokens item.statement
      CleanAttempt service item.view item.statement supplied ∧
        match resolverAnswer resolver item.statement
            (service.execute item.view item.statement supplied) with
        | .error _ => rest = []
        | .ok none => CleanBatch service tokens resolver rest
        | .ok (some _) => False

/-- A trace with two events is not audited once. -/
theorem not_auditedOnce_of_two {statement : WriteStatement} {first second : StatementTrace}
    {committed : Option CommittedWrite} (one : ∃ event, first.audits = [event])
    (other : ∃ event, second.audits = [event]) :
    ¬ AuditedOnce service statement ⟨first.audits ++ second.audits, committed⟩ := by
  obtain ⟨event, first⟩ := one
  obtain ⟨again, second⟩ := other
  rintro ⟨only, audits, _⟩
  rw [first, second] at audits
  cases audits

theorem auditedOnce_executeEach_iff {tokens : List (String × String)}
    {resolver : Option ApprovalResolver} :
    ∀ items : List BatchItem,
      List.Forall₂ (AuditedOnce service) (items.map BatchItem.statement)
          (service.executeEach tokens resolver items).traces ↔
        CleanBatch service tokens resolver items
  | [] => ⟨fun _ => trivial, fun _ => .nil⟩
  | item :: rest => by
      have ih := @auditedOnce_executeEach_iff tokens resolver rest
      rw [CleanBatch, executeEach, executeBatchItem, suppliedToken, List.map_cons]
      cases answer : resolverAnswer resolver item.statement (service.execute item.view
          item.statement (dictGet tokens (service.fingerprint item.statement))) with
      | error cause =>
          dsimp only
          rw [List.forall₂_cons, auditedOnce_execute_iff]
          refine and_congr_right fun _ => ⟨fun unattempted => ?_, fun last => ?_⟩
          · cases rest with
            | nil => rfl
            | cons later others =>
                rw [List.map_cons, List.map_cons, List.forall₂_cons] at unattempted
                obtain ⟨event, absurd, _⟩ := unattempted.1
                cases absurd
          · rw [last]
            exact .nil
      | ok resolved =>
          cases resolved with
          | none =>
              dsimp only
              rw [List.forall₂_cons, auditedOnce_execute_iff, ih]
          | some token =>
              dsimp only
              rw [List.forall₂_cons]
              refine ⟨fun audited => ?_, fun absurd => absurd.2.elim⟩
              exact absurd audited.1
                (not_auditedOnce_of_two (service.execute_audits _ _ _)
                  (service.execute_audits _ _ _))

/-- An atomic batch is committed without a failure, before or after its commit, and
counts its rows as they are. -/
def CleanAtomic (service : WriteExecutionService) (view : TransactionView)
    (items : List (WriteStatement × StatementView)) : Prop :=
  ∃ dialect done, service.dialect = .ok dialect ∧
    (∀ item ∈ items, validateWritePolicy item.1 service.policy service.connectionId = .ok ()) ∧
    view.slot = none ∧ service.atomicBody dialect view items = .ok done ∧ view.release = none ∧
    ∀ entry ∈ done, CountExact service false entry.2 entry.1

/-- Statements without an event are not audited once. -/
theorem auditedOnce_unaudited_iff {statements : List WriteStatement}
    {traces : List StatementTrace} (length : traces.length = statements.length)
    (silent : ∀ trace ∈ traces, trace.audits = []) :
    List.Forall₂ (AuditedOnce service) statements traces ↔ statements = [] := by
  cases statements with
  | nil =>
      rw [List.length_nil, List.length_eq_zero_iff] at length
      rw [length]
      exact ⟨fun _ => rfl, fun _ => .nil⟩
  | cons statement rest =>
      cases traces with
      | nil => cases length
      | cons trace others =>
          refine ⟨fun audited => ?_, fun absurd => by cases absurd⟩
          obtain ⟨event, audits, _⟩ := (List.forall₂_cons.mp audited).1
          rw [silent trace (List.mem_cons_self ..)] at audits
          cases audits

theorem auditedOnce_atomicTrace_iff {done : Int × CommittedWrite} :
    AuditedOnce service done.2.statement (atomicTrace done) ↔
      CountExact service false done.2 done.1 := by
  have counts : (atomicItem done.2.statement done.1).affectedRows =
      some (done.2.affected service.engine) ↔ CountExact service false done.2 done.1 := by
    simp only [atomicItem, CommittedWrite.affected, CountExact]
    cases rows : done.2.statement.rows? with
    | some rows => simp
    | none => simp
  rw [← counts]
  constructor
  · rintro ⟨event, audits, _, _, _, counted⟩
    cases audits
    have same := counted _ rfl
    rw [auditAllowed, Option.some.injEq, atomicItem, Option.getD_some] at same
    rw [atomicItem, Option.some.injEq, ← same]
  · intro same
    refine ⟨_, rfl, rfl, rfl, ⟨fun _ => rfl, fun _ => rfl⟩, fun write committed => ?_⟩
    cases committed
    rw [auditAllowed, same, Option.getD_some]

/-- The events of an atomic batch that went through, statement by statement. -/
theorem auditedOnce_atomicTraces_iff {dialect : String}
    {items : List (WriteStatement × StatementView)} {done : List (Int × CommittedWrite)}
    (ran : List.Forall₂ (fun item entry =>
      service.atomicStatement dialect item.2 item.1 = .ok entry) items done) :
    List.Forall₂ (AuditedOnce service) (items.map Prod.fst) (done.map atomicTrace) ↔
      ∀ entry ∈ done, CountExact service false entry.2 entry.1 := by
  induction ran with
  | nil => simp
  | @cons item entry rest others ranHere _ ih =>
      rw [List.map_cons, List.map_cons, List.forall₂_cons, ih, List.forall_mem_cons,
        ← (atomicStatement_eq_ok ranHere).2, auditedOnce_atomicTrace_iff]

theorem auditedOnce_executeAtomicBody_iff {dialect : String} {view : TransactionView}
    {items : List (WriteStatement × StatementView)} (nonempty : items ≠ []) :
    List.Forall₂ (AuditedOnce service) (items.map Prod.fst)
        (service.executeAtomicBody dialect view items).traces ↔
      ∃ done, view.slot = none ∧ service.atomicBody dialect view items = .ok done ∧
        view.release = none ∧ ∀ entry ∈ done, CountExact service false entry.2 entry.1 := by
  have some_ : items.map Prod.fst ≠ [] := fun empty => nonempty (List.map_eq_nil_iff.mp empty)
  have silent_fails : ∀ {traces : List StatementTrace}, traces.length = items.length →
      (∀ trace ∈ traces, trace.audits = []) →
      ¬ List.Forall₂ (AuditedOnce service) (items.map Prod.fst) traces := by
    intro traces length silent audited
    exact some_ ((auditedOnce_unaudited_iff (by rw [length, List.length_map]) silent).mp audited)
  obtain ⟨failure, same⟩ | ⟨done, slot, body, outcome⟩ :=
    service.executeAtomicBody_cases dialect view items
  · have silent : ∀ trace ∈ items.map (fun _ => ({} : StatementTrace)), trace.audits = [] := by
      intro trace member
      obtain ⟨_, _, rfl⟩ := List.mem_map.mp member
      rfl
    refine ⟨fun audited => ?_, fun clean => ?_⟩
    · rw [same] at audited
      exact absurd audited (silent_fails (List.length_map _) silent)
    · obtain ⟨done, slot, body, release, _⟩ := clean
      have traces := congrArg BatchOutcome.traces same
      simp only [executeAtomicBody, slot, body, release] at traces
      cases items with
      | nil => exact absurd rfl nonempty
      | cons item rest =>
          have paired := atomicStatements_eq_ok (atomicBody_eq_ok body)
          cases paired with
          | cons ranHere ranRest =>
              rw [List.map_cons, List.map_cons, List.cons.injEq] at traces
              have absurd := congrArg StatementTrace.audits traces.1
              cases absurd
  · have ran := atomicStatements_eq_ok (atomicBody_eq_ok body)
    obtain ⟨release, same⟩ | ⟨cause, release, same⟩ := outcome
    · rw [same]
      simp only [auditedOnce_atomicTraces_iff ran]
      constructor
      · intro counted
        exact ⟨done, slot, body, release, counted⟩
      · rintro ⟨other, _, otherBody, _, counted⟩
        rw [body] at otherBody
        cases otherBody
        exact counted
    · rw [same]
      have silent : ∀ trace ∈ done.map (fun entry => (⟨[], some entry.2⟩ : StatementTrace)),
          trace.audits = [] := by
        intro trace member
        obtain ⟨_, _, rfl⟩ := List.mem_map.mp member
        rfl
      refine ⟨fun audited => ?_, fun clean => ?_⟩
      · exact absurd audited (silent_fails (by rw [List.length_map, ran.length_eq]) silent)
      · obtain ⟨_, _, _, quiet, _⟩ := clean
        rw [release] at quiet
        cases quiet

/-- Every statement of a call that passes the batch-size check is audited once. -/
def CallAudited (service : WriteExecutionService) : Call → Prop
  | .execute view statement token =>
      AuditedOnce service statement (service.execute view statement token).trace
  | .executeMany tokens resolver items =>
      validateWriteBatchSize items.length service.policy = .ok () →
        List.Forall₂ (AuditedOnce service) (items.map BatchItem.statement)
          (service.executeMany tokens resolver items).traces
  | .executeManyAtomic view items =>
      validateWriteBatchSize items.length service.policy = .ok () →
        List.Forall₂ (AuditedOnce service) (items.map Prod.fst)
          (service.executeManyAtomic view items).traces

/-- A call that loses, repeats and misstates no event. -/
def CallClean (service : WriteExecutionService) : Call → Prop
  | .execute view statement token => CleanAttempt service view statement token
  | .executeMany tokens resolver items =>
      validateWriteBatchSize items.length service.policy = .ok () →
        CleanBatch service tokens resolver items
  | .executeManyAtomic view items =>
      validateWriteBatchSize items.length service.policy = .ok () →
        items = [] ∨ CleanAtomic service view items

theorem auditedOnce_executeManyAtomically_iff {view : TransactionView}
    {items : List (WriteStatement × StatementView)} :
    List.Forall₂ (AuditedOnce service) (items.map Prod.fst)
        (service.executeManyAtomically view items).traces ↔
      items = [] ∨ CleanAtomic service view items := by
  have silent : ∀ trace ∈ items.map (fun _ => ({} : StatementTrace)), trace.audits = [] := by
    intro trace member
    obtain ⟨_, _, rfl⟩ := List.mem_map.mp member
    rfl
  have unaudited : List.Forall₂ (AuditedOnce service) (items.map Prod.fst)
      (items.map fun _ => ({} : StatementTrace)) ↔ items = [] := by
    rw [auditedOnce_unaudited_iff (by rw [List.length_map, List.length_map]) silent,
      List.map_eq_nil_iff]
  by_cases empty : items = []
  · subst empty
    have traces : (service.executeManyAtomically view []).traces = [] := by
      unfold executeManyAtomically
      cases service.dialect with
      | error error => rfl
      | ok dialect =>
          change (service.executeAtomicBody dialect view []).traces = []
          obtain ⟨_, same⟩ | ⟨done, _, body, outcome⟩ :=
            service.executeAtomicBody_cases dialect view []
          · rw [same]
            rfl
          · have ran := atomicStatements_eq_ok (atomicBody_eq_ok body)
            cases ran
            obtain ⟨_, same⟩ | ⟨_, _, same⟩ := outcome
            · rw [same]
              rfl
            · rw [same]
              rfl
    rw [traces]
    exact ⟨fun _ => .inl rfl, fun _ => .nil⟩
  · unfold executeManyAtomically
    cases known : service.dialect with
    | error error =>
        rw [unaudited]
        refine ⟨.inl, fun either => either.resolve_right ?_⟩
        rintro ⟨dialect, _, found, _⟩
        rw [known] at found
        cases found
    | ok dialect =>
        cases checked : checkAll (fun item : WriteStatement × StatementView =>
            validateWritePolicy item.1 service.policy service.connectionId) items with
        | error error =>
            dsimp only
            rw [unaudited]
            refine ⟨.inl, fun either => either.resolve_right ?_⟩
            rintro ⟨_, _, _, passes, _⟩
            have passed : checkAll (fun item : WriteStatement × StatementView =>
                validateWritePolicy item.1 service.policy service.connectionId) items = .ok () :=
              checkAll_eq_ok_iff.mpr passes
            rw [passed] at checked
            cases checked
        | ok _ =>
            dsimp only
            rw [auditedOnce_executeAtomicBody_iff empty]
            constructor
            · rintro ⟨done, slot, body, release, counted⟩
              exact .inr ⟨dialect, done, known, checkAll_eq_ok_iff.mp checked, slot, body, release,
                counted⟩
            · intro either
              obtain ⟨other, done, found, _, slot, body, release, counted⟩ :=
                either.resolve_left empty
              rw [known] at found
              cases found
              exact ⟨done, slot, body, release, counted⟩

/-- Every statement of a call is audited exactly once, as it ended, exactly when the
call loses, repeats and misstates no event. -/
theorem callAudited_iff (call : Call) : CallAudited service call ↔ CallClean service call := by
  cases call with
  | execute view statement token => exact auditedOnce_execute_iff
  | executeMany tokens resolver items =>
      refine forall_congr' fun size => ?_
      rw [executeMany, size]
      exact auditedOnce_executeEach_iff items
  | executeManyAtomic view items =>
      refine forall_congr' fun size => ?_
      rw [executeManyAtomic, size]
      exact auditedOnce_executeManyAtomically_iff

end WriteExecutionService

/-- The service of a principal whose deletes of more than one order need a token,
here one whose text is `granted`. -/
def approvingService : WriteExecutionService :=
  { ordersService with
    openToken := fun text => if text = "granted" then
        some { version := 1, fingerprint := "5e1f", kind := .grant, expires := 300 }
      else none }

/-- An atomic batch whose commit fails emits no event; a statement approved inside a
batch emits two; a driver without a row count has the event count other rows than
were changed. -/
theorem callAudited_fails :
    ¬ WriteExecutionService.CallAudited ordersService
        (.executeManyAtomic { commit := some ⟨"OperationalError", "connection lost", false⟩ }
          [(deleteOpenOrders, openedBetween [1] [1])]) ∧
      ¬ WriteExecutionService.CallAudited approvingService
        (.executeMany [] (some fun _ _ => .ok (some "granted"))
          [⟨deleteOpenOrders, { statement := openedBetween [1, 2] [1, 2] },
            { statement := openedBetween [1, 2] [1, 2] }⟩]) ∧
      ¬ WriteExecutionService.CallAudited ordersService
        (.execute { statement := { openedBetween [1] [1, 2] with reportsRowcount := false } }
          deleteOpenOrders none) := by
  refine ⟨fun audited => ?_, fun audited => ?_, fun audited => ?_⟩
  · obtain ⟨event, absurd, _⟩ := (List.forall₂_cons.mp (audited rfl)).1
    cases absurd
  · exact WriteExecutionService.not_auditedOnce_of_two
      (approvingService.execute_audits { statement := openedBetween [1, 2] [1, 2] }
        deleteOpenOrders none)
      (approvingService.execute_audits { statement := openedBetween [1, 2] [1, 2] }
        deleteOpenOrders (some "granted"))
      (List.forall₂_cons.mp (audited rfl)).1
  · obtain ⟨event, one, _, _, _, counted⟩ := audited
    have said : event.affectedRows = some 1 := by
      cases one
      rfl
    rw [counted _ rfl] at said
    exact absurd said (by decide +kernel)

end QueryGate
