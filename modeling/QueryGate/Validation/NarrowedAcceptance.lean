import QueryGate.Policy.PurposeNarrowing
import QueryGate.Validation.PolicyValidation

/-! # Acceptance under a narrower policy

Every rule of `validate_policy` is monotone in the policy: what it accepts under a
policy, it accepts under every policy that one narrows. One lemma a rule, and from
them the check of the un-narrowed policy that the execution service makes first.
-/

namespace QueryGate

open Foundation

variable {narrow wide : Policy} {context : RequestContext} {query : StructuredQuery}

theorem checkAll_mono {α : Type} {strict lax : α → Gate Unit} {items : List α}
    (each : ∀ item ∈ items, strict item = .ok () → lax item = .ok ())
    (passed : checkAll strict items = .ok ()) : checkAll lax items = .ok () := by
  rw [checkAll_eq_ok_iff] at passed ⊢
  exact fun item member => each item member (passed item member)

/-- The policies consulted for a table differ in the request's own alone. -/
theorem resolveTablePolicies_cons {tableCx connectionId : String} {principal : Option Principal}
    {resolver : ConnectionResolver} {candidates : List Policy} (wide : Policy)
    (resolved : resolveTablePolicies tableCx connectionId narrow principal resolver =
      .ok candidates) :
    ∃ others, resolveTablePolicies tableCx connectionId wide principal resolver =
        .ok (wide :: others) ∧ candidates = narrow :: others := by
  unfold resolveTablePolicies at resolved ⊢
  split
  · rename_i own
    rw [if_pos own] at resolved
    cases resolved
    exact ⟨[], rfl, rfl⟩
  · rename_i foreign
    rw [if_neg foreign, bind_eq_ok_iff] at resolved
    obtain ⟨⟨profile, other⟩, found, returned⟩ := resolved
    cases returned
    refine ⟨[other], ?_, rfl⟩
    rw [found]
    rfl

/-- What the policies consulted for a table all grant, they all grant with the wider
policy in the narrower one's place. -/
theorem resolveTablePolicies_bind {tableCx connectionId : String}
    {principal : Option Principal} {resolver : ConnectionResolver}
    {strict : List Policy → Gate Unit}
    (mono : ∀ others, strict (narrow :: others) = .ok () → strict (wide :: others) = .ok ())
    (passed : (resolveTablePolicies tableCx connectionId narrow principal resolver >>= strict) =
      .ok ()) :
    (resolveTablePolicies tableCx connectionId wide principal resolver >>= strict) = .ok () := by
  rw [bind_eq_ok_iff] at passed ⊢
  obtain ⟨candidates, resolved, passed⟩ := passed
  obtain ⟨others, resolvedToo, rfl⟩ := resolveTablePolicies_cons wide resolved
  exact ⟨_, resolvedToo, mono others passed⟩

namespace Policy.Narrows

/-- Caps do not read what a purpose changes. -/
theorem checkScopeShape_eq (narrows : narrow.Narrows wide) :
    checkScopeShape narrow query = checkScopeShape wide query := by
  rw [narrows.otherwiseSame]
  rfl

theorem enforceTreeWideCaps_eq (narrows : narrow.Narrows wide) (scopes : List StructuredQuery) :
    enforceTreeWideCaps scopes narrow = enforceTreeWideCaps scopes wide := by
  rw [narrows.otherwiseSame]
  rfl

/-- Every name the wider policy has a rule about, the narrower one has. -/
theorem governedNames (narrows : narrow.Narrows wide) :
    wide.governedNames ⊆ narrow.governedNames := by
  have keysSub {α : Type} {larger smaller : List (String × List α)}
      (covers : Foundation.Covers casefold larger smaller) {name : String}
      (member : name ∈ (smaller.map Prod.fst).map casefold) :
      name ∈ (larger.map Prod.fst).map casefold := by
    obtain ⟨key, inKeys, rfl⟩ := List.mem_map.mp member
    obtain ⟨entry, inSmaller, rfl⟩ := List.mem_map.mp inKeys
    obtain ⟨other, inLarger, same⟩ := covers.keys entry inSmaller
    rw [← same]
    exact List.mem_map_of_mem (List.mem_map_of_mem inLarger)
  have allowedTables : narrow.allowedTables = wide.allowedTables := by rw [narrows.otherwiseSame]
  have allowedColumns : narrow.allowedColumns = wide.allowedColumns := by rw [narrows.otherwiseSame]
  intro name member
  simp only [Policy.governedNames, List.map_append, List.mem_append, or_assoc] at member ⊢
  rw [allowedTables, allowedColumns]
  rcases member with filters | masks | tables | allowed | columns | allowedToo
  · exact .inl (List.map_subset _ (List.map_subset _ narrows.rowFilters) filters)
  · exact .inr (.inl (keysSub narrows.columnMasks masks))
  · exact .inr (.inr (.inl (List.map_subset _ narrows.deniedTables tables)))
  · exact .inr (.inr (.inr (.inl allowed)))
  · exact .inr (.inr (.inr (.inr (.inl (keysSub narrows.deniedColumns columns)))))
  · exact .inr (.inr (.inr (.inr (.inr allowedToo))))

/-- No mask under the narrower policy, none under the wider one. -/
theorem columnMask_isSome_eq_false (narrows : narrow.Narrows wide) {table column : String}
    (unmasked : (narrow.columnMask table column).isSome = false) :
    (wide.columnMask table column).isSome = false := by
  rw [← Bool.not_eq_true] at unmasked ⊢
  exact fun masked => unmasked (narrows.columnMask masked)

theorem checkUnmasked (narrows : narrow.Narrows wide) {scope : StructuredQuery}
    {message : String → String} {ref : String}
    (passed : checkUnmasked narrow scope message ref = .ok ()) :
    QueryGate.checkUnmasked wide scope message ref = .ok () := by
  unfold QueryGate.checkUnmasked at passed ⊢
  rw [bind_eq_ok_iff] at passed ⊢
  obtain ⟨halves, parsed, passed⟩ := passed
  refine ⟨halves, parsed, ?_⟩
  rw [deny_eq_ok_iff] at passed ⊢
  exact narrows.columnMask_isSome_eq_false passed

theorem checkSubqueryConstraints (narrows : narrow.Narrows wide) {entry : Nat × StructuredQuery}
    (passed : checkSubqueryConstraints narrow entry = .ok ()) :
    QueryGate.checkSubqueryConstraints wide entry = .ok () := by
  unfold QueryGate.checkSubqueryConstraints at passed ⊢
  simp only [seq_eq_ok_iff] at passed ⊢
  obtain ⟨having, cases_, joins, output⟩ := passed
  refine ⟨having, cases_, joins, ?_⟩
  split
  · rfl
  · rename_i nested
    rw [if_neg nested] at output
    exact checkAll_mono (fun _ _ => narrows.checkUnmasked) output

theorem validateCteConstraints (narrows : narrow.Narrows wide)
    {entries : List (Nat × StructuredQuery)} {cteNames : List String}
    (passed : validateCteConstraints query entries narrow cteNames = .ok ()) :
    QueryGate.validateCteConstraints query entries wide cteNames = .ok () := by
  have cap : narrow.maxCteCount = wide.maxCteCount := by rw [narrows.otherwiseSame]
  unfold QueryGate.validateCteConstraints at passed ⊢
  simp only [seq_eq_ok_iff, cap] at passed ⊢
  obtain ⟨count, topLevel, rules⟩ := passed
  refine ⟨by simpa using count, topLevel, ?_⟩
  split
  · rfl
  · rename_i someCte
    rw [if_neg someCte] at rules
    simp only [seq_eq_ok_iff] at rules ⊢
    obtain ⟨order, shadowing, used, projections⟩ := rules
    refine ⟨order, ?_, used, ?_⟩
    · refine checkAll_mono (fun spec _ fresh => ?_) shadowing
      rw [deny_eq_ok_iff, ← Bool.not_eq_true, List.contains_iff_mem] at fresh ⊢
      exact fun governed => fresh (narrows.governedNames governed)
    · exact checkAll_mono (fun _ _ => checkAll_mono fun _ _ => narrows.checkUnmasked) projections

theorem validateStructuralCaps (narrows : narrow.Narrows wide)
    (passed : validateStructuralCaps query narrow = .ok ()) :
    QueryGate.validateStructuralCaps query wide = .ok () := by
  have cap : narrow.maxSubqueryDepth = wide.maxSubqueryDepth := by rw [narrows.otherwiseSame]
  unfold QueryGate.validateStructuralCaps at passed ⊢
  simp only [seq_eq_ok_iff, deny_eq_ok_iff, cap] at passed ⊢
  exact ⟨narrows.validateCteConstraints passed.1, passed.2⟩

theorem deny_table (narrows : narrow.Narrows wide) {others : List Policy} {table message : String}
    (passed : deny (!(narrow :: others).all fun candidate => candidate.tableAllowed table) message =
      .ok ()) :
    deny (!(wide :: others).all fun candidate => candidate.tableAllowed table) message = .ok () := by
  rw [deny_eq_ok_iff, Bool.not_eq_false', List.all_cons, Bool.and_eq_true] at passed ⊢
  exact ⟨narrows.tableAllowed passed.1, passed.2⟩

theorem deny_column (narrows : narrow.Narrows wide) {others : List Policy}
    {table column message : String}
    (passed : deny (!(narrow :: others).all fun candidate => candidate.columnAllowed table column)
      message = .ok ()) :
    deny (!(wide :: others).all fun candidate => candidate.columnAllowed table column) message =
      .ok () := by
  rw [deny_eq_ok_iff, Bool.not_eq_false', List.all_cons, Bool.and_eq_true] at passed ⊢
  exact ⟨narrows.columnAllowed passed.1, passed.2⟩

theorem deny_mask (narrows : narrow.Narrows wide) {others : List Policy}
    {table column message : String}
    (passed : deny (columnMaskAnywhere table column (narrow :: others)).isSome message = .ok ()) :
    deny (columnMaskAnywhere table column (wide :: others)).isSome message = .ok () := by
  rw [deny_eq_ok_iff, Option.isSome_eq_false_iff, Option.isNone_iff_eq_none, columnMaskAnywhere,
    List.findSome?_eq_none_iff] at passed ⊢
  intro candidate member
  rcases List.mem_cons.mp member with rfl | other
  · have unmasked := passed narrow (List.mem_cons_self ..)
    have cleared := narrows.columnMask_isSome_eq_false (Option.isSome_eq_false_iff.mpr
      (Option.isNone_iff_eq_none.mpr unmasked))
    exact Option.isNone_iff_eq_none.mp (Option.isSome_eq_false_iff.mp cleared)
  · exact passed candidate (List.mem_cons_of_mem _ other)

theorem validateScope (narrows : narrow.Narrows wide) {cteNames : List String}
    {connections : ScopeConnections} {scope : StructuredQuery}
    (passed : validateScope context narrow cteNames connections scope = .ok ()) :
    QueryGate.validateScope context wide cteNames connections scope = .ok () := by
  unfold QueryGate.validateScope at passed ⊢
  rw [seq_eq_ok_iff, bind_eq_ok_iff] at passed ⊢
  obtain ⟨shape, tables, referenced, rules⟩ := passed
  refine ⟨narrows.checkScopeShape_eq ▸ shape, tables, referenced, ?_⟩
  simp only [seq_eq_ok_iff] at rules ⊢
  obtain ⟨tablesPassed, columnsPassed, masksPassed⟩ := rules
  refine ⟨?_, ?_, ?_⟩
  · refine checkAll_mono (fun table _ => checkAll_mono fun tableCx _ allowed => ?_) tablesPassed
    exact resolveTablePolicies_bind (fun _ => narrows.deny_table) allowed
  · refine checkAll_mono (fun ref _ allowed => ?_) columnsPassed
    unfold checkColumnAllowed at allowed ⊢
    rw [bind_eq_ok_iff] at allowed ⊢
    obtain ⟨halves, parsed, allowed⟩ := allowed
    refine ⟨halves, parsed, ?_⟩
    dsimp only at allowed ⊢
    split
    · rfl
    · rename_i notBlock
      rw [if_neg notBlock] at allowed
      exact resolveTablePolicies_bind (fun _ => narrows.deny_column) allowed
  · refine checkAll_mono (fun ref _ allowed => ?_) masksPassed
    unfold checkMaskPosition at allowed ⊢
    split
    · rfl
    · rename_i notBare
      rw [if_neg notBare, bind_eq_ok_iff] at allowed
      rw [bind_eq_ok_iff]
      obtain ⟨halves, parsed, allowed⟩ := allowed
      refine ⟨halves, parsed, ?_⟩
      dsimp only at allowed ⊢
      split
      · rfl
      · rename_i notBlock
        rw [if_neg notBlock] at allowed
        exact resolveTablePolicies_bind (fun _ => narrows.deny_mask) allowed

theorem validateCorrelation (narrows : narrow.Narrows wide) {connections : ScopeConnections}
    (passed : validateCorrelation context query narrow connections = .ok ()) :
    QueryGate.validateCorrelation context query wide connections = .ok () := by
  have cap : narrow.maxCorrelatedRefs = wide.maxCorrelatedRefs := by rw [narrows.otherwiseSame]
  unfold QueryGate.validateCorrelation at passed ⊢
  simp only [seq_eq_ok_iff, deny_eq_ok_iff, cap] at passed ⊢
  obtain ⟨placed, count, used, allowed⟩ := passed
  refine ⟨placed, count, used, checkAll_mono (fun correlation _ checked => ?_) allowed⟩
  unfold checkCorrelationAllowed at checked ⊢
  rw [bind_eq_ok_iff] at checked ⊢
  obtain ⟨halves, parsed, checked⟩ := checked
  refine ⟨halves, parsed, resolveTablePolicies_bind (fun others rules => ?_) checked⟩
  rw [seq_eq_ok_iff, seq_eq_ok_iff] at rules ⊢
  exact ⟨narrows.deny_table rules.1, narrows.deny_column rules.2.1, narrows.deny_mask rules.2.2⟩

/-- The rules under the effective policy. -/
theorem validateNarrowed (narrows : narrow.Narrows wide) {connections : ScopeConnections}
    (passed : validateNarrowed context query narrow connections = .ok ()) :
    QueryGate.validateNarrowed context query wide connections = .ok () := by
  unfold QueryGate.validateNarrowed at passed ⊢
  simp only [seq_eq_ok_iff] at passed ⊢
  obtain ⟨subqueries, correlation, caps, scopes⟩ := passed
  exact ⟨checkAll_mono (fun _ _ => narrows.checkSubqueryConstraints) subqueries,
    narrows.validateCorrelation correlation, narrows.enforceTreeWideCaps_eq _ ▸ caps,
    checkAll_mono (fun _ _ => narrows.validateScope) scopes⟩

/-- A declared purpose is permitted under both, and keeps their order. -/
theorem resolvePurposePolicy (narrows : narrow.Narrows wide) {effective : Policy}
    (resolved : resolvePurposePolicy query narrow = .ok effective) :
    ∃ other, QueryGate.resolvePurposePolicy query wide = .ok other ∧ effective.Narrows other := by
  have purposes : narrow.allowedPurposes = wide.allowedPurposes := by rw [narrows.otherwiseSame]
  unfold QueryGate.resolvePurposePolicy at resolved ⊢
  rw [purposes] at resolved
  split
  · rename_i open'
    rw [if_pos open'] at resolved
    cases resolved
    exact ⟨wide, rfl, narrows⟩
  · rename_i declared
    rw [if_neg declared] at resolved
    cases named : query.purpose with
    | none =>
        rw [named] at resolved
        cases resolved
    | some purpose =>
        rw [named] at resolved
        simp only [seq_eq_ok_iff] at resolved ⊢
        obtain ⟨permitted, returned⟩ := resolved
        cases returned
        exact ⟨_, ⟨permitted, rfl⟩, narrows.forPurpose _⟩

/-- A query `validate_policy` accepts under a policy, it accepts under every policy
that one narrows, and the effective policies keep the order. -/
theorem validatePolicy (narrows : narrow.Narrows wide) {connections : Option ScopeConnections}
    {snapshot : Option ConnectionResolver} {effective : Policy}
    (accepted : validatePolicy context query narrow connections snapshot = .ok effective) :
    ∃ other, QueryGate.validatePolicy context query wide connections snapshot = .ok other ∧
      effective.Narrows other := by
  have enabled : narrow.enabled = wide.enabled := by rw [narrows.otherwiseSame]
  simp only [QueryGate.validatePolicy, bind_eq_ok_iff, enabled] at accepted ⊢
  obtain ⟨⟨⟩, on, resolved, purposed, ⟨⟩, structural, maps, mapped, ⟨⟩, rules, returned⟩ := accepted
  cases returned
  obtain ⟨other, purposedToo, narrowsToo⟩ := narrows.resolvePurposePolicy purposed
  exact ⟨other, ⟨(), on, other, purposedToo, (), narrowsToo.validateStructuralCaps structural, maps,
    mapped, (), narrowsToo.validateNarrowed rules, rfl⟩, narrowsToo⟩

end Policy.Narrows

/-- Applying a purpose never widens what a policy lets through: not its tables or
columns, not its masks or row filters, and not the queries validation accepts. -/
theorem forPurpose_neverWidens (policy : Policy) (purpose : Option String) :
    (∀ table, (policy.forPurpose purpose).tableAllowed table = true →
      policy.tableAllowed table = true) ∧
    (∀ table column, (policy.forPurpose purpose).columnAllowed table column = true →
      policy.columnAllowed table column = true) ∧
    (∀ table column, (policy.columnMask table column).isSome = true →
      ((policy.forPurpose purpose).columnMask table column).isSome = true) ∧
    (∀ rowFilter ∈ policy.mandatoryRowFilters,
      rowFilter ∈ (policy.forPurpose purpose).mandatoryRowFilters) ∧
    ∀ context query,
      (validateStructuralCaps query (policy.forPurpose purpose) = .ok () →
        validateStructuralCaps query policy = .ok ()) ∧
      (∀ connections, validateNarrowed context query (policy.forPurpose purpose) connections = .ok () →
        validateNarrowed context query policy connections = .ok ()) ∧
      ∀ connections snapshot,
        accepts (validatePolicy context query (policy.forPurpose purpose) connections snapshot) =
          true →
        accepts (validatePolicy context query policy connections snapshot) = true := by
  have narrows := policy.forPurpose_narrows purpose
  refine ⟨fun _ => narrows.tableAllowed, fun _ _ => narrows.columnAllowed,
    fun _ _ => narrows.columnMask, narrows.rowFilters, fun context query =>
      ⟨narrows.validateStructuralCaps, fun _ => narrows.validateNarrowed, ?_⟩⟩
  intro connections snapshot accepted
  obtain ⟨effective, accepted⟩ := accepts_iff.mp accepted
  obtain ⟨other, acceptedToo, _⟩ := narrows.validatePolicy accepted
  exact accepts_iff.mpr ⟨other, acceptedToo⟩

/-- A policy that masks a column of `customers`, and a purpose with rules of its own
for the same table under another spelling. -/
def billingPolicy : Policy where
  allowedPurposes := ["billing"]
  columnMasks := [("customers", [{ column := "email", kind := .hash }])]
  deniedColumns := [("customers", ["ssn"])]
  purposePolicies := [("billing", {
    deniedTables := ["audit_log"]
    deniedColumns := [("Customers", ["phone"])]
    columnMasks := [("CUSTOMERS", [{ column := "iban", kind := .null }])] })]

/-- `WITH named AS (SELECT Customers.name FROM Customers) SELECT named.name FROM
named`, for billing. -/
def namedCustomers : StructuredQuery where
  fromTable := "named"
  select := [.bare "named.name"]
  ctes := [{ name := "named",
             query := { fromTable := "Customers", select := [.bare "Customers.name"] } }]
  purpose := some "billing"

theorem forPurpose_neverWidens_billing :
    ((billingPolicy.forPurpose (some "billing")).columnMask "Customers" "Email").isSome = true ∧
      validateStructuralCaps namedCustomers billingPolicy = .ok () ∧
      accepts (validatePolicy soleConnection namedCustomers billingPolicy none none) = true := by
  obtain ⟨_, _, masks, _, queries⟩ := forPurpose_neverWidens billingPolicy (some "billing")
  obtain ⟨structural, _, whole⟩ := queries soleConnection namedCustomers
  refine ⟨masks "Customers" "Email" ?_, structural ?_, whole none none ?_⟩
  · decide +kernel
  · decide +kernel
  · decide +kernel

end QueryGate
