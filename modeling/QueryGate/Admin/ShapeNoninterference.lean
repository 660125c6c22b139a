import QueryGate.Admin.BlankedQueries
import QueryGate.Execution.ApprovalGate

/-! # Queries of one shape

Two queries that differ in nothing but values of one type each are skeletonized alike exactly
when their dumps keep the same of the numbers among them (`sameShape_iff`): a number that
the dump leaves out is a slot the skeleton does not have.
-/

namespace QueryGate

open Foundation

section Shapes

variable (runtime : FingerprintRuntime) (numbers : NumberDump)

/-- What is recorded of a query: `skeletonize`, and `shape_hash` of the skeleton. -/
def observedShape (query : StructuredQuery) :
    Except SkeletonizationError (Dumped × List TemplateParameter × String) := do
  let (skeleton, parameters) ← skeletonize numbers query
  pure (skeleton, parameters, shapeHash runtime skeleton)

/-- Two queries are skeletonized alike: neither has a shape, or both have one. -/
def SameShape (first second : StructuredQuery) : Prop :=
  (accepts (observedShape runtime numbers first) = false ∧
      accepts (observedShape runtime numbers second) = false) ∨
    ∃ shape, observedShape runtime numbers first = .ok shape ∧
      observedShape runtime numbers second = .ok shape

/-- A dump that is walked to the end is a skeleton. -/
theorem skeletonizeDump_eq (dumped : Dumped) :
    skeletonizeDump dumped =
      (fun walked => (walked.1, walked.2.parameters)) <$> walk none dumped {} := by
  unfold skeletonizeDump
  cases walked : walk none dumped {} with
  | error failure => rfl
  | ok out =>
      obtain ⟨skeleton, allocator⟩ := out
      change (assertNoLiteralSurvived skeleton >>= fun _ => _) = _
      rw [assertNoLiteralSurvived_walk walked]
      rfl

/-- The skeleton is a function of the redacted dump. -/
theorem skeletonize_eq_redact (query : StructuredQuery) :
    skeletonize numbers query =
      skeletonizeDump (excludeNone (redact numbers query.dump)) := by
  rw [skeletonize, StructuredQuery.modelDump, skeletonizeDump_eq, skeletonizeDump_eq,
    walk_dump_eq_redact]

theorem accepts_observedShape (query : StructuredQuery) :
    accepts (observedShape runtime numbers query) =
      !hasUntyped (query.modelDump numbers) := by
  rw [observedShape, accepts_bind_quiet fun _ => rfl, skeletonize, skeletonizeDump_eq,
    ← accepts_walk (query.modelDump numbers) none {}]
  cases walk none (query.modelDump numbers) {} with
  | error | ok => rfl

/-- Where a query has a shape, its redacted dump is walked to the end. -/
theorem walk_of_observedShape {query : StructuredQuery} {skeleton : Dumped}
    {parameters : List TemplateParameter} {digest : String}
    (shaped : observedShape runtime numbers query = .ok (skeleton, parameters, digest)) :
    ∃ after, walk none (excludeNone (redact numbers query.dump)) {} = .ok (skeleton, after) := by
  obtain ⟨⟨found, slots⟩, skeletonized, same⟩ := bind_eq_ok_iff.mp shaped
  cases same
  rw [skeletonize_eq_redact, skeletonizeDump_eq] at skeletonized
  cases walked : walk none (excludeNone (redact numbers query.dump)) {} with
  | error failure =>
      rw [walked] at skeletonized
      cases skeletonized
  | ok out =>
      rw [walked] at skeletonized
      cases skeletonized
      exact ⟨out.2, rfl⟩

/-- Queries whose redacted dumps are the same are skeletonized alike. -/
theorem sameShape_of_redact {first second : StructuredQuery}
    (alike : redact numbers first.dump = redact numbers second.dump) :
    SameShape runtime numbers first second := by
  have same : observedShape runtime numbers first = observedShape runtime numbers second := by
    rw [observedShape, observedShape, skeletonize_eq_redact, skeletonize_eq_redact, alike]
  cases shaped : observedShape runtime numbers second with
  | error failure =>
      left
      rw [same, shaped]
      exact ⟨rfl, rfl⟩
  | ok shape => exact .inr ⟨shape, same.trans shaped, shaped⟩

/-- Redaction by which every number is kept forgets the values, and nothing else. -/
theorem redact_keepAll_of_blankValues {first second : StructuredQuery}
    (same : first.blankValues = second.blankValues) :
    redact .keepAll first.dump = redact .keepAll second.dump := by
  rw [← first.dump_blankValues, ← second.dump_blankValues, same]

/-- With every number in the dump, no value reaches the shape. -/
theorem sameShape_keepAll {first second : StructuredQuery}
    (same : first.blankValues = second.blankValues) :
    SameShape runtime .keepAll first second :=
  sameShape_of_redact runtime .keepAll (redact_keepAll_of_blankValues same)

/-- **Shapes carry the places of values, and no more of them.** Queries that are equal but
for values of one type each are skeletonized alike exactly where their dumps keep the same
of the numbers among them, or both hold a value that no parameter can take. -/
theorem sameShape_iff {first second : StructuredQuery}
    (same : first.blankValues = second.blankValues) :
    SameShape runtime numbers first second ↔
      redact numbers first.dump = redact numbers second.dump ∨
        (hasUntyped (first.modelDump numbers) = true ∧
          hasUntyped (second.modelDump numbers) = true) := by
  constructor
  · rintro (⟨fails, failsToo⟩ | ⟨⟨skeleton, parameters, digest⟩, shaped, shapedToo⟩)
    · right
      rw [accepts_observedShape, Bool.not_eq_false'] at fails failsToo
      exact ⟨fails, failsToo⟩
    · left
      obtain ⟨after, walked⟩ := walk_of_observedShape runtime numbers shaped
      obtain ⟨afterToo, walkedToo⟩ := walk_of_observedShape runtime numbers shapedToo
      exact redact_eq_of_walk (redact_keepAll_of_blankValues same) first.keysApart_dump walked
        walkedToo
  · rintro (alike | ⟨untyped, untypedToo⟩)
    · exact sameShape_of_redact runtime numbers alike
    · left
      rw [accepts_observedShape, accepts_observedShape, untyped, untypedToo]
      exact ⟨rfl, rfl⟩

end Shapes

/-- The numbers of a dump in JSON mode: a field of any type dumps an infinite one, and one
that is no number, as a null. -/
def jsonNumbers : NumberDump where
  any := PyFloat.isFinite
  typed := fun _ => true

/-- `SELECT customers.name FROM customers WHERE customers.balance = value`. -/
def customersOwing (balance : PyFloat) : StructuredQuery where
  fromTable := "customers"
  select := [.bare "customers.name"]
  where_ := some (.predicate
    { col := some "customers.balance", op := .eq, value := .float balance })

theorem blankValues_customersOwing (balance : PyFloat) :
    (customersOwing balance).blankValues = customersOwing ⟨0⟩ := rfl

/-- One and a half, and two. -/
theorem sameShape_iff_customersOwing :
    SameShape plainFingerprints jsonNumbers (customersOwing ⟨0x3ff8000000000000⟩)
      (customersOwing ⟨0x4000000000000000⟩) := by
  have same : (customersOwing ⟨0x3ff8000000000000⟩).blankValues =
      (customersOwing ⟨0x4000000000000000⟩).blankValues := by
    rw [blankValues_customersOwing, blankValues_customersOwing]
  apply (sameShape_iff plainFingerprints jsonNumbers same).mpr
  left
  rfl

/-- A balance that is no number leaves the comparison without its slot. -/
theorem slots_customersOwing :
    (skeletonize jsonNumbers (customersOwing ⟨0x3ff8000000000000⟩)).toOption.map
        (·.2.length) = some 2 ∧
      (skeletonize jsonNumbers (customersOwing ⟨0x7ff8000000000000⟩)).toOption.map
        (·.2.length) = some 1 :=
  ⟨rfl, rfl⟩

/-- One and a half, and no number. -/
theorem not_sameShape_customersOwing :
    (customersOwing ⟨0x3ff8000000000000⟩).validate = .ok () ∧
      (customersOwing ⟨0x7ff8000000000000⟩).validate = .ok () ∧
      (customersOwing ⟨0x3ff8000000000000⟩).blankValues =
        (customersOwing ⟨0x7ff8000000000000⟩).blankValues ∧
      ¬ SameShape plainFingerprints jsonNumbers (customersOwing ⟨0x3ff8000000000000⟩)
        (customersOwing ⟨0x7ff8000000000000⟩) := by
  refine ⟨rfl, rfl, ?_, ?_⟩
  · rw [blankValues_customersOwing, blankValues_customersOwing]
  rintro (⟨fails, -⟩ | ⟨shape, shaped, shapedToo⟩)
  · rw [accepts_observedShape] at fails
    cases fails
  · obtain ⟨⟨_, parameters⟩, first, made⟩ := bind_eq_ok_iff.mp shaped
    obtain ⟨⟨_, _⟩, second, same⟩ := bind_eq_ok_iff.mp shapedToo
    cases made
    cases same
    obtain ⟨two, one⟩ := slots_customersOwing
    rw [first] at two
    rw [second] at one
    cases two.symm.trans one

end QueryGate
