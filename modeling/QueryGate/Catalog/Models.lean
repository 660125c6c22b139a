import QueryGate.Foundation.FoldedDict
import QueryGate.Foundation.Text

/-! # The governed catalog

The data of `catalog/models.py` that governance reads and writes: published entries with
their provenance, quarantined proposals, generation records, and the version history. A
validated file is a `CatalogStore`, so a store that breaks a rule of the models cannot be
built.
-/

namespace QueryGate.Catalog

open Foundation

/-! ## Failures -/

/-- A governance refusal, an unknown id, or an error of the models. -/
inductive CatalogErrorKind where
  | governance | notFound | validation
  deriving DecidableEq, Repr

structure CatalogError where
  kind : CatalogErrorKind
  message : String
  deriving DecidableEq, Repr

abbrev CatalogResult :=
  Except CatalogError

/-- `CatalogGovernanceError(message)`. -/
def governanceError (message : String) : CatalogError :=
  ⟨.governance, message⟩

/-- `NotFoundError(message)`. -/
def notFoundError (message : String) : CatalogError :=
  ⟨.notFound, message⟩

/-- `pydantic.ValidationError`. -/
def validationError (message : String) : CatalogError :=
  ⟨.validation, message⟩

/-- The error of an operation that fails. -/
def refusal? {α : Type} : CatalogResult α → Option CatalogError
  | .ok _ => none
  | .error refusal => some refusal

theorem refusal?_eq_some_iff {α : Type} {outcome : CatalogResult α} {refusal : CatalogError} :
    refusal? outcome = some refusal ↔ outcome = .error refusal := by
  cases outcome with
  | ok value => simp [refusal?]
  | error other => simp [refusal?]

/-! ## Provenance -/

/-- Microseconds since the epoch. -/
abbrev Timestamp := Int

inductive KnowledgeSourceClass where
  | observed | inferred | verified | learned | manual
  deriving DecidableEq, Repr

inductive CatalogEntryStatus where
  | draft | verified | rejected | stale | archived
  deriving DecidableEq, Repr

def CatalogEntryStatus.value : CatalogEntryStatus → String
  | .draft => "draft"
  | .verified => "verified"
  | .rejected => "rejected"
  | .stale => "stale"
  | .archived => "archived"

/-- `_PRECEDENCE`. -/
def KnowledgeSourceClass.precedence : KnowledgeSourceClass → Nat
  | .learned => 100
  | .inferred => 200
  | .observed => 300
  | .verified => 400
  | .manual => 400

structure CatalogEntryProvenance where
  entryId : String := "urn:querygate:catalog:unbound"
  catalogVersion : Nat := 2
  sourceClass : KnowledgeSourceClass := .verified
  status : CatalogEntryStatus := .verified
  schemaFingerprint : String := "untracked"
  createdBy : Option String := none
  approvedBy : Option String := none
  createdAt : Option Timestamp := none
  approvedAt : Option Timestamp := none
  deriving DecidableEq, Repr

/-- `CatalogEntryProvenance._validate_state`. -/
def CatalogEntryProvenance.StateAllowed (provenance : CatalogEntryProvenance) : Prop :=
  provenance.status = .verified →
    provenance.sourceClass = .verified ∨ provenance.sourceClass = .observed

instance (provenance : CatalogEntryProvenance) : Decidable provenance.StateAllowed :=
  inferInstanceAs (Decidable (_ → _ ∨ _))

structure ReplacementDecision where
  allowed : Bool
  reason : String
  deriving DecidableEq, Repr

/-- `replacement_decision`. -/
def replacementDecision (existing candidate : CatalogEntryProvenance) (fieldName : String)
    (valueChanges : Bool) : ReplacementDecision :=
  if !valueChanges then
    ⟨true, "value is unchanged"⟩
  else if fieldName = "sensitivity" then
    ⟨false, "sensitivity labels are never changed by semantic-memory merging"⟩
  else if existing.status = .verified ∧
      (candidate.sourceClass ≠ .verified ∨ candidate.status ≠ .verified) then
    ⟨false, "a draft or non-verified source cannot overwrite human-verified knowledge"⟩
  else if candidate.status ≠ .verified then
    ⟨false, "candidate status " ++ quoted candidate.status.value ++ " is not publishable"⟩
  else if candidate.sourceClass.precedence < existing.sourceClass.precedence then
    ⟨false, "candidate source has lower precedence than existing knowledge"⟩
  else
    ⟨true, "candidate meets the documented status and precedence rules"⟩

/-! ## Content -/

/-- The fields governance may write. -/
inductive ContentField where
  | description | aliases | defaultAggregation
  deriving DecidableEq, Repr

/-- The name of the field in the file. -/
def ContentField.name : ContentField → String
  | .description => "description"
  | .aliases => "aliases"
  | .defaultAggregation => "default_aggregation"

/-- `_CONTENT_FIELDS`. -/
def ContentField.all : List ContentField :=
  [.description, .aliases, .defaultAggregation]

theorem ContentField.mem_all (field : ContentField) : field ∈ ContentField.all := by
  cases field <;> decide

structure CatalogContent where
  description : Option String := none
  aliases : List String := []
  defaultAggregation : Option String := none
  deriving DecidableEq, Repr

/-- A text that counts: absent and empty texts do not. -/
def presentText : Option String → List String
  | none => []
  | some text => if text = "" then [] else [text]

/-- What a field holds: at most one text, or the aliases. -/
def CatalogContent.value (content : CatalogContent) : ContentField → List String
  | .description => presentText content.description
  | .aliases => content.aliases
  | .defaultAggregation => presentText content.defaultAggregation

/-- `content[field] = other[field]`. -/
def CatalogContent.copyField (other : CatalogContent) (content : CatalogContent) :
    ContentField → CatalogContent
  | .description => { content with description := other.description }
  | .aliases => { content with aliases := other.aliases }
  | .defaultAggregation => { content with defaultAggregation := other.defaultAggregation }

/-- The content with these fields of `other` alone. -/
def CatalogContent.only (other : CatalogContent) (fields : List ContentField) : CatalogContent :=
  fields.foldl other.copyField {}

/-- The code points of the Unicode property `White_Space`. -/
def isWhiteSpace (char : Char) : Bool :=
  isSpace char && !(28 ≤ char.toNat && char.toNat ≤ 31)

/-- What `strip_whitespace` leaves of a text. -/
def trim (text : String) : String :=
  String.ofList ((text.toList.dropWhile isWhiteSpace).reverse.dropWhile isWhiteSpace).reverse

/-- A text as `_DraftText` and a longest length leave it. -/
def CleanText (longest : Nat) (text : String) : Prop :=
  trim text = text ∧ text ≠ "" ∧ text.length ≤ longest

instance (longest : Nat) (text : String) : Decidable (CleanText longest text) :=
  inferInstanceAs (Decidable (_ ∧ _ ∧ _))

/-- The field constraints and `_not_empty` of `CatalogDraftContent`. -/
def CatalogContent.Clean (content : CatalogContent) : Prop :=
  (∀ text ∈ content.description, CleanText 2000 text) ∧
    content.aliases.length ≤ 20 ∧
    (∀ alias' ∈ content.aliases, CleanText 100 alias') ∧
    (∀ text ∈ content.defaultAggregation, CleanText 500 text) ∧
    content ≠ {} ∧
    (content.aliases.map casefold).Nodup

instance (content : CatalogContent) : Decidable content.Clean :=
  inferInstanceAs (Decidable (_ ∧ _ ∧ _ ∧ _ ∧ _ ∧ _))

/-- `CatalogDraftContent`. -/
def CatalogDraftContent : Type :=
  { content : CatalogContent // content.Clean }
  deriving DecidableEq, Repr

/-- The content with its texts stripped. -/
def CatalogContent.trimmed (content : CatalogContent) : CatalogContent where
  description := content.description.map trim
  aliases := content.aliases.map trim
  defaultAggregation := content.defaultAggregation.map trim

/-- `CatalogDraftContent(...)`. -/
def draftContent (content : CatalogContent) : CatalogResult CatalogDraftContent :=
  if clean : content.trimmed.Clean then .ok ⟨content.trimmed, clean⟩
  else .error (validationError "CatalogDraftContent")

theorem value_copyField (other content : CatalogContent) (written field : ContentField) :
    (other.copyField content written).value field =
      if field = written then other.value field else content.value field := by
  cases written <;> cases field <;> rfl

theorem value_foldl_copyField (other : CatalogContent) (fields : List ContentField)
    (content : CatalogContent) (field : ContentField) :
    (fields.foldl other.copyField content).value field =
      if field ∈ fields then other.value field else content.value field := by
  induction fields generalizing content with
  | nil => simp
  | cons first rest ih =>
      rw [List.foldl_cons, ih, value_copyField]
      by_cases later : field ∈ rest
      · simp [later]
      · by_cases same : field = first <;> simp [later, same]

theorem value_empty (field : ContentField) : ({} : CatalogContent).value field = [] := by
  cases field <;> rfl

theorem value_only (other : CatalogContent) (fields : List ContentField) (field : ContentField) :
    (other.only fields).value field = if field ∈ fields then other.value field else [] := by
  unfold CatalogContent.only
  rw [value_foldl_copyField, value_empty]

theorem presentText_eq_nil {text : Option String} (written : ∀ found ∈ text, found ≠ "") :
    presentText text = [] ↔ text = none := by
  cases text with
  | none => simp [presentText]
  | some found => simp [presentText, written found rfl]

/-- The content in a validated draft reads back unchanged. -/
theorem trimmed_of_clean {content : CatalogContent} (clean : content.Clean) :
    content.trimmed = content := by
  obtain ⟨description, _, aliases, aggregation, _, _⟩ := clean
  have text : ∀ {bound : Nat} {text : Option String}, (∀ found ∈ text, CleanText bound found) →
      text.map trim = text := by
    intro bound text each
    cases text with
    | none => rfl
    | some found => exact congrArg some (each found rfl).1
  unfold CatalogContent.trimmed
  rw [text description, text aggregation, List.map_congr_left fun found member =>
    (aliases found member).1, List.map_id']

theorem draftContent_eq_ok_iff {content : CatalogContent} {draft : CatalogDraftContent} :
    draftContent content = .ok draft ↔ draft.1 = content.trimmed := by
  unfold draftContent
  split
  case isTrue clean =>
    constructor
    · rintro ⟨⟩
      rfl
    · exact fun same => congrArg Except.ok (Subtype.ext same.symm)
  case isFalse fault =>
    constructor
    · rintro ⟨⟩
    · exact fun same => absurd (same ▸ draft.2) fault

theorem draftContent_val (content : CatalogDraftContent) : draftContent content.1 = .ok content :=
  draftContent_eq_ok_iff.mpr (trimmed_of_clean content.2).symm

/-! ## Targets -/

/-- What a relationship joins: a column of its own table and a column of another. -/
structure RelationshipIdentity where
  column : String
  toTable : String
  toColumn : String
  deriving DecidableEq, Repr

def RelationshipIdentity.casefold (identity : RelationshipIdentity) : RelationshipIdentity where
  column := Foundation.casefold identity.column
  toTable := Foundation.casefold identity.toTable
  toColumn := Foundation.casefold identity.toColumn

/-- The part of a table a target names. Each object type has the names it requires. -/
inductive DraftObject where
  | table
  | column (name : String)
  | relationship (identity : RelationshipIdentity)
  deriving DecidableEq, Repr

/-- `object_type == TABLE`. -/
def DraftObject.isTable : DraftObject → Bool
  | .table => true
  | _ => false

/-- `object_type == RELATIONSHIP`. -/
def DraftObject.isRelationship : DraftObject → Bool
  | .relationship _ => true
  | _ => false

def DraftObject.casefold : DraftObject → DraftObject
  | .table => .table
  | .column name => .column (Foundation.casefold name)
  | .relationship identity => .relationship identity.casefold

/-- `CatalogDraftTarget`. -/
structure CatalogDraftTarget where
  connectionId : String
  table : String
  object : DraftObject
  deriving DecidableEq, Repr

/-- The entry a target stands for, whatever the letter case it is written in. -/
def CatalogDraftTarget.ref (target : CatalogDraftTarget) : CatalogDraftTarget where
  connectionId := target.connectionId
  table := casefold target.table
  object := target.object.casefold

/-! ## Published entries -/

/-- What tables, columns and relationship hints carry. -/
structure CatalogEntry where
  content : CatalogContent := {}
  provenance : CatalogEntryProvenance := {}
  deriving DecidableEq, Repr

structure TableCatalogEntry extends CatalogEntry where
  relationships : List (RelationshipIdentity × CatalogEntry) := []
  columns : List (String × CatalogEntry) := []
  deriving DecidableEq, Repr

/-- The entries of a table, its own first. -/
def TableCatalogEntry.entries (table : TableCatalogEntry) : List CatalogEntry :=
  table.toCatalogEntry :: table.columns.map Prod.snd ++ table.relationships.map Prod.snd

/-- The tables of one connection under their names. -/
abbrev ConnectionCatalog :=
  List (String × TableCatalogEntry)

/-! ## Proposals and their review -/

inductive ProposalReviewStatus where
  | pending | approved | rejected | published
  deriving DecidableEq, Repr

def ProposalReviewStatus.value : ProposalReviewStatus → String
  | .pending => "pending"
  | .approved => "approved"
  | .rejected => "rejected"
  | .published => "published"

inductive ProposalReviewAction where
  | edited | approved | rejected | published | rolledBack
  deriving DecidableEq, Repr

structure ProposalReviewEvent where
  action : ProposalReviewAction
  actor : String
  occurredAt : Timestamp
  reason : Option String := none
  deriving DecidableEq, Repr

structure CatalogDraftProposal where
  proposalId : String
  generationId : String
  target : CatalogDraftTarget
  content : CatalogDraftContent
  provenance : CatalogEntryProvenance
  reviewStatus : ProposalReviewStatus := .pending
  reviewHistory : List ProposalReviewEvent := []
  publishedEntryId : Option String := none
  publishedVersionId : Option String := none
  deriving DecidableEq, Repr

/-- The idempotency record of a generation run. -/
structure CatalogGenerationRecord where
  generationId : String
  connectionId : String
  schemaFingerprint : String
  proposalIds : List String := []
  createdBy : Option String := none
  createdAt : Option Timestamp := none
  deriving DecidableEq, Repr

/-! ## Versions -/

inductive CatalogVersionAction where
  | publish | rollback
  deriving DecidableEq, Repr

inductive CatalogVersionStatus where
  | active | reverted
  deriving DecidableEq, Repr

inductive ChangeKind where
  | created | updated | removed
  deriving DecidableEq, Repr

/-- One entry's content before and after. -/
structure CatalogVersionChange where
  target : CatalogDraftTarget
  change : ChangeKind
  before : Option CatalogDraftContent := none
  after : Option CatalogDraftContent := none
  deriving DecidableEq, Repr

structure CatalogVersionRecord where
  versionId : String
  action : CatalogVersionAction
  status : CatalogVersionStatus := .active
  actor : String
  occurredAt : Timestamp
  proposalId : Option String := none
  rolledBackVersionId : Option String := none
  change : CatalogVersionChange
  deriving DecidableEq, Repr

/-! ## The file -/

structure ObservedForeignKey where
  column : String
  toTable : String
  toColumn : String
  deriving DecidableEq, Repr

structure ObservedIndex where
  columns : List String
  unique : Bool := false
  deriving DecidableEq, Repr

structure ObservedColumn where
  name : String
  dataType : String
  nullable : Bool
  primaryKey : Bool := false
  commentFingerprint : Option String := none
  deriving DecidableEq, Repr

structure ObservedTable where
  name : String
  columns : List ObservedColumn
  foreignKeys : List ObservedForeignKey := []
  indexes : List ObservedIndex := []
  commentFingerprint : Option String := none
  deriving DecidableEq, Repr

structure ObservedSchemaSnapshot where
  connectionId : String
  tables : List ObservedTable := []
  fingerprint : String
  deriving DecidableEq, Repr

structure SchemaCatalog where
  version : Nat := 2
  connections : List (String × ConnectionCatalog) := []
  schemaSnapshots : List (String × ObservedSchemaSnapshot) := []
  draftProposals : List CatalogDraftProposal := []
  generationRecords : List CatalogGenerationRecord := []
  versionHistory : List CatalogVersionRecord := []
  deriving DecidableEq, Repr

namespace SchemaCatalog

variable (catalog : SchemaCatalog)

/-- Every table of every connection. -/
def allTables : List TableCatalogEntry :=
  catalog.connections.flatMap fun connection => connection.2.map Prod.snd

/-- Every published entry. -/
def entries : List CatalogEntry :=
  catalog.allTables.flatMap TableCatalogEntry.entries

/-- The ids of the published entries and of the proposals. -/
def entryIds : List String :=
  catalog.entries.map (fun entry => entry.provenance.entryId) ++
    catalog.draftProposals.map fun proposal => proposal.provenance.entryId

def proposalIds : List String :=
  catalog.draftProposals.map CatalogDraftProposal.proposalId

def generationIds : List String :=
  catalog.generationRecords.map CatalogGenerationRecord.generationId

def versionIds : List String :=
  catalog.versionHistory.map CatalogVersionRecord.versionId

/-- The generation record with this id. -/
def generationRecord? (generationId : String) : Option CatalogGenerationRecord :=
  catalog.generationRecords.find? fun record => record.generationId = generationId

end SchemaCatalog

end QueryGate.Catalog
