import QueryGate.Connections.Models
import QueryGate.Core.Exceptions
import QueryGate.Foundation.Calendar
import QueryGate.QueryAst.Models

/-! # Date buckets

The `date_bucket` idioms of `compiler/dialect_adapters.py`. Each adapter composes functions of
its database, which are modelled by their documented semantics: an instant counts
microseconds, a date is the number of its day, and a text is a list of characters.
-/

namespace QueryGate

open Foundation

/-! ## Functions of the databases -/

/-- `YYYY`. -/
def fourDigits (number : Int) : List Char :=
  let digits := number.toNat
  [Nat.digitChar (digits / 1000 % 10), Nat.digitChar (digits / 100 % 10),
    Nat.digitChar (digits / 10 % 10), Nat.digitChar (digits % 10)]

/-- The decimal digits of a number. -/
def decimalText (number : Int) : List Char :=
  Nat.toDigits 10 number.toNat

/-- The text with zeros in front, up to two characters. -/
def padTwo (text : List Char) : List Char :=
  List.replicate (2 - text.length) '0' ++ text

def digitOf (char : Char) : Option Int :=
  if char.isDigit then some (char.toNat - 48) else none

/-- The day a text of the form `YYYY-MM-DD` names. -/
def readDate : List Char → Option Int
  | [thousands, hundreds, tens, ones, '-', month, monthOnes, '-', day, dayOnes] => do
      let year := 1000 * (← digitOf thousands) + 100 * (← digitOf hundreds) +
        10 * (← digitOf tens) + (← digitOf ones)
      let month := 10 * (← digitOf month) + (← digitOf monthOnes)
      let day := 10 * (← digitOf day) + (← digitOf dayOnes)
      if 1 ≤ month ∧ month ≤ 12 ∧ 1 ≤ day ∧ day ≤ 31 then some (dayNumber year month day)
      else none
  | _ => none

/-- The instant some days later. -/
def addDays (days instant : Int) : Int :=
  instant + midnight days

/-- The instant some months later, on the last day of a month that has no such day. -/
def addMonths (months instant : Int) : Int :=
  let day := dayOfInstant instant
  let index := monthIndex day + months
  let last := monthStart (index + 1) - monthStart index
  midnight (monthStart index + (min (dayOf day) last - 1)) + (instant - midnight day)

namespace Tsql

/-- The units `DATEDIFF` counts: its weeks begin on Sunday. -/
def boundary : CalendarUnit → Int → Int
  | .week, number => (number + 1) / 7
  | part, number => part.unitOf number

/-- `DATEDIFF(part, start, finish)`: the boundaries between the two. -/
def datediff (part : CalendarUnit) (start finish : Int) : Int :=
  boundary part (dayOfInstant finish) - boundary part (dayOfInstant start)

/-- `DATEADD(part, number, instant)`. -/
def dateadd (part : CalendarUnit) (number instant : Int) : Int :=
  match part with
  | .day => addDays number instant
  | .week => addDays (7 * number) instant
  | part => addMonths (part.months * number) instant

/-- The number 0 as a date is the first of January 1900. -/
def zero : Int :=
  midnight 693595

end Tsql

namespace Sqlite

/-- `date(instant, 'weekday 0', '-6 days')`: on to a Sunday, and six days back. -/
def dateWeek (instant : Int) : Int :=
  let day := dayOfInstant instant
  midnight (day + (6 - day % 7) - 6)

/-- `date(text)`. -/
def date (text : List Char) : Option Int :=
  (readDate text).map midnight

/-- `printf('%02d', number)`: a real number is cut to an integer. -/
def printf02d (number : ℚ) : List Char :=
  padTwo (decimalText ⌊number⌋)

end Sqlite

namespace Mysql

/-- `WEEKDAY`: 0 for Monday. -/
def weekday (instant : Int) : Int :=
  dayOfInstant instant % 7

/-- `DATE`. -/
def date (instant : Int) : Int :=
  midnight (dayOfInstant instant)

/-- `SUBDATE(instant, days)`. -/
def subdate (instant days : Int) : Int :=
  addDays (-days) instant

/-- `QUARTER`. -/
def quarter (instant : Int) : Int :=
  (monthOf (dayOfInstant instant) + 2) / 3

/-- `STR_TO_DATE(text, '%Y-%m-%d')`. -/
def strToDate (text : List Char) : Option Int :=
  (readDate text).map midnight

end Mysql

namespace Snowflake

/-- `DAYOFWEEKISO`: 1 for Monday. -/
def dayofweekiso (instant : Int) : Int :=
  dayOfInstant instant % 7 + 1

end Snowflake

/-! ## The adapters -/

/-- The dialects an adapter exists for. Every other name falls back to SQLite. -/
inductive BucketDialect where
  | registered (dialect : DatabaseDialect)
  | sqlite
  deriving DecidableEq, Repr

/-- `_bq_temporal_kind`. -/
inductive TemporalKind where
  | timestamp | datetime | date
  deriving DecidableEq, Repr

/-- `_bq_unknown_temporal_kind`. -/
def unknownTemporalKind (operation : String) : GateError :=
  queryValidationError (operation ++ " could not determine whether this BigQuery expression " ++
    "is DATE, DATETIME, or TIMESTAMP. BigQuery has three distinct functions for this " ++
    "primitive (unlike every other supported dialect's single polymorphic " ++
    "function) and rendering requires knowing the operand's concrete type. " ++
    "Reference a schema column directly, or CAST the expression to a concrete " ++
    "date/datetime/timestamp type first.")

/-- The unit of the calendar a granularity names. -/
def DateGranularity.calendar : DateGranularity → CalendarUnit
  | .day => .day
  | .week => .week
  | .month => .month
  | .quarter => .quarter
  | .year => .year

/-- `PostgresDialectAdapter.date_bucket`: `date_trunc`. -/
def postgresDateBucket (granularity : DateGranularity) (instant : Int) : Option Int :=
  some (truncate granularity.calendar instant)

/-- `MSSQLDialectAdapter.date_bucket`. -/
def mssqlDateBucket (granularity : DateGranularity) (instant : Int) : Option Int :=
  let part := granularity.calendar
  some (Tsql.dateadd part (Tsql.datediff part Tsql.zero instant) Tsql.zero)

/-- `SQLiteDialectAdapter.date_bucket`. The division of `(month - 1) / 3` is true division. -/
def sqliteDateBucket (granularity : DateGranularity) (instant : Int) : Option Int :=
  let year := yearOf (dayOfInstant instant)
  let month := monthOf (dayOfInstant instant)
  match granularity with
  | .day => some (midnight (dayOfInstant instant))
  | .month => Sqlite.date (fourDigits year ++ ['-'] ++ padTwo (decimalText month) ++ "-01".toList)
  | .year => Sqlite.date (fourDigits year ++ "-01-01".toList)
  | .week => some (Sqlite.dateWeek instant)
  | .quarter =>
      let quarterStartMonth : ℚ := ((month : ℚ) - 1) / 3 * 3 + 1
      Sqlite.date (fourDigits year ++ ['-'] ++ Sqlite.printf02d quarterStartMonth ++ "-01".toList)

/-- `MySQLDialectAdapter.date_bucket`. -/
def mysqlDateBucket (granularity : DateGranularity) (instant : Int) : Option Int :=
  let year := yearOf (dayOfInstant instant)
  let month := monthOf (dayOfInstant instant)
  match granularity with
  | .day => some (Mysql.date instant)
  | .week => some (Mysql.date (Mysql.subdate instant (Mysql.weekday instant)))
  | .month =>
      Mysql.strToDate (fourDigits year ++ ['-'] ++ padTwo (decimalText month) ++ "-01".toList)
  | .quarter =>
      Mysql.strToDate (decimalText year ++ ['-'] ++
        padTwo (decimalText ((Mysql.quarter instant - 1) * 3 + 1)) ++ "-01".toList)
  | .year => Mysql.strToDate (fourDigits year ++ "-01-01".toList)

/-- `SnowflakeDialectAdapter.date_bucket`. -/
def snowflakeDateBucket (granularity : DateGranularity) (instant : Int) : Option Int :=
  match granularity with
  | .week =>
      let monday := addDays (-(Snowflake.dayofweekiso instant - 1)) instant
      some (truncate .day monday)
  | granularity => some (truncate granularity.calendar instant)

/-- `BigQueryDialectAdapter.date_bucket`: one truncation for each kind, with `ISOWEEK`. -/
def bigqueryDateBucket (kind : Option TemporalKind) (granularity : DateGranularity)
    (instant : Int) : Gate (Option Int) :=
  match kind with
  | none => .error (unknownTemporalKind "date_bucket")
  | some _ => .ok (some (truncate granularity.calendar instant))

/-- `get_dialect_adapter(dialect).date_bucket` on a column of a kind, at one instant. A bucket
is `none` where the database answers with no date. -/
def dateBucket (dialect : BucketDialect) (kind : Option TemporalKind)
    (granularity : DateGranularity) (instant : Int) : Gate (Option Int) :=
  match dialect with
  | .registered .postgresql => .ok (postgresDateBucket granularity instant)
  | .registered .mssql => .ok (mssqlDateBucket granularity instant)
  | .registered .mysql => .ok (mysqlDateBucket granularity instant)
  | .registered .snowflake => .ok (snowflakeDateBucket granularity instant)
  | .registered .bigquery => bigqueryDateBucket kind granularity instant
  | .sqlite => .ok (sqliteDateBucket granularity instant)

/-- The years of the dates a database holds. -/
def BucketDialect.years : BucketDialect → Int × Int
  | .registered .postgresql => (-4712, 294276)
  | .registered .mssql => (1753, 9999)
  | .registered .mysql => (1000, 9999)
  | .registered .snowflake => (1, 9999)
  | .registered .bigquery => (1, 9999)
  | .sqlite => (0, 9999)

/-- The database has this instant. -/
def BucketDialect.HasInstant (dialect : BucketDialect) (instant : Int) : Prop :=
  dialect.years.1 ≤ yearOf (dayOfInstant instant) ∧
    yearOf (dayOfInstant instant) ≤ dialect.years.2

instance (dialect : BucketDialect) (instant : Int) : Decidable (dialect.HasInstant instant) :=
  inferInstanceAs (Decidable (_ ∧ _))

/-! ## Texts of dates -/

theorem digitOf_digitChar : ∀ digit < 10, digitOf (Nat.digitChar digit) = some (digit : Int) := by
  decide

/-- The first of a month, written and read. -/
theorem readDate_first {year month : Int} {tens ones : Nat} (after : 0 ≤ year)
    (before : year ≤ 9999) (first : 1 ≤ month) (last : month ≤ 12) (tensDigit : tens < 10)
    (onesDigit : ones < 10) (written : month = 10 * tens + ones) :
    readDate (fourDigits year ++ ['-'] ++ [tens.digitChar, ones.digitChar] ++ "-01".toList) =
      some (dayNumber year month 1) := by
  have thousands := digitOf_digitChar (year.toNat / 1000 % 10) (by omega)
  have hundreds := digitOf_digitChar (year.toNat / 100 % 10) (by omega)
  have decades := digitOf_digitChar (year.toNat / 10 % 10) (by omega)
  have years := digitOf_digitChar (year.toNat % 10) (by omega)
  have zero : digitOf '0' = some 0 := by decide
  have one : digitOf '1' = some 1 := by decide
  have sum : 1000 * ((year.toNat / 1000 % 10 : Nat) : Int) +
      100 * ((year.toNat / 100 % 10 : Nat) : Int) + 10 * ((year.toNat / 10 % 10 : Nat) : Int) +
        ((year.toNat % 10 : Nat) : Int) = year := by
    omega
  change readDate [_, _, _, _, '-', _, _, '-', '0', '1'] = _
  simp only [readDate, thousands, hundreds, decades, years, digitOf_digitChar _ tensDigit,
    digitOf_digitChar _ onesDigit, zero, one, Option.bind_eq_bind, Option.bind_some, sum,
    ← written]
  rw [if_pos (by omega)]
  norm_num

theorem readDate_month {year month : Int} (after : 0 ≤ year) (before : year ≤ 9999)
    (first : 1 ≤ month) (last : month ≤ 12) :
    readDate (fourDigits year ++ ['-'] ++ padTwo (decimalText month) ++ "-01".toList) =
      some (dayNumber year month 1) := by
  have written : ∃ tens ones : Nat, tens < 10 ∧ ones < 10 ∧ month = 10 * tens + ones ∧
      padTwo (decimalText month) = [tens.digitChar, ones.digitChar] := by
    rcases month_cases first last with
      rfl | rfl | rfl | rfl | rfl | rfl | rfl | rfl | rfl | rfl | rfl | rfl
    · exact ⟨0, 1, by decide⟩
    · exact ⟨0, 2, by decide⟩
    · exact ⟨0, 3, by decide⟩
    · exact ⟨0, 4, by decide⟩
    · exact ⟨0, 5, by decide⟩
    · exact ⟨0, 6, by decide⟩
    · exact ⟨0, 7, by decide⟩
    · exact ⟨0, 8, by decide⟩
    · exact ⟨0, 9, by decide⟩
    · exact ⟨1, 0, by decide⟩
    · exact ⟨1, 1, by decide⟩
    · exact ⟨1, 2, by decide⟩
  obtain ⟨tens, ones, tensDigit, onesDigit, sum, padded⟩ := written
  rw [padded]
  exact readDate_first after before first last tensDigit onesDigit sum

theorem decimalText_of_four {year : Int} (after : 1000 ≤ year) (before : year ≤ 9999) :
    decimalText year = fourDigits year := by
  unfold decimalText fourDigits
  have low : 10 ≤ year.toNat ∧ 10 ≤ year.toNat / 10 ∧ 10 ≤ year.toNat / 10 / 10 ∧
      year.toNat / 10 / 10 / 10 < 10 := by omega
  rw [Nat.toDigits_of_base_le (by decide) low.1, Nat.toDigits_of_base_le (by decide) low.2.1,
    Nat.toDigits_of_base_le (by decide) low.2.2.1, Nat.toDigits_of_lt_base low.2.2.2]
  simp only [List.cons_append, List.nil_append]
  have thousands : year.toNat / 10 / 10 / 10 = year.toNat / 1000 % 10 := by omega
  have hundreds : year.toNat / 10 / 10 % 10 = year.toNat / 100 % 10 := by omega
  rw [thousands, hundreds]

/-! ## Where the bucket is the first instant -/

/-- The first of January 1900 and some months is the first of a month. -/
theorem addMonths_zero (months : Int) :
    addMonths months Tsql.zero = midnight (monthStart (22800 + months)) := by
  have day : dayOfInstant Tsql.zero = 693595 := by decide
  have index : monthIndex 693595 = 22800 := by decide
  have first : dayOf 693595 = 1 := by decide
  have later := monthStart_lt_succ (22800 + months)
  simp only [addMonths, day, index, first]
  rw [min_eq_left (by omega)]
  simp [Tsql.zero]

/-- A truncation to months, quarters or years on T-SQL. -/
theorem mssqlDateBucket_months {granularity : DateGranularity}
    (months : granularity = .month ∨ granularity = .quarter ∨ granularity = .year)
    (instant : Int) :
    mssqlDateBucket granularity instant = some (truncate granularity.calendar instant) := by
  have index : monthIndex (dayOfInstant Tsql.zero) = 22800 := by decide
  rcases months with rfl | rfl | rfl
  all_goals
    refine congrArg some ((addMonths_zero _).trans ?_)
    change midnight (monthStart _) = midnight (monthStart _)
    congr 2
    simp only [DateGranularity.calendar, Tsql.datediff, Tsql.boundary, CalendarUnit.unitOf,
      CalendarUnit.months, index]
    omega

theorem addDays_zero (days : Int) : addDays days Tsql.zero = midnight (693595 + days) := by
  unfold addDays Tsql.zero midnight
  ring

theorem mssqlDateBucket_day (instant : Int) :
    mssqlDateBucket .day instant = some (truncate .day instant) := by
  have zero : dayOfInstant Tsql.zero = 693595 := by decide
  refine congrArg some ((addDays_zero _).trans ?_)
  change midnight (693595 + (dayOfInstant instant - dayOfInstant Tsql.zero)) =
    midnight (dayOfInstant instant)
  congr 1
  omega

/-- A week on T-SQL begins on Monday, counted by the Sundays before. -/
theorem mssqlDateBucket_week (instant : Int) :
    mssqlDateBucket .week instant = some (midnight (7 * ((dayOfInstant instant + 1) / 7))) := by
  have zero : dayOfInstant Tsql.zero = 693595 := by decide
  refine congrArg some ((addDays_zero _).trans ?_)
  congr 1
  simp only [DateGranularity.calendar, Tsql.datediff, Tsql.boundary, zero]
  omega

theorem sqliteDateBucket_quarter {instant : Int} (held : BucketDialect.sqlite.HasInstant instant) :
    sqliteDateBucket .quarter instant = some (truncate .month instant) := by
  have bounds := monthOf_bounds (dayOfInstant instant)
  have undone : ((monthOf (dayOfInstant instant) : ℚ) - 1) / 3 * 3 + 1 =
      (monthOf (dayOfInstant instant) : ℚ) := by ring
  simp only [sqliteDateBucket, undone, Sqlite.printf02d, Int.floor_intCast, Sqlite.date,
    readDate_month held.1 held.2 bounds.1 bounds.2, Option.map_some, truncate_month]

/-- The buckets that begin elsewhere: weeks of a Sunday on T-SQL, and quarters of a month that
does not begin one on SQLite. -/
def Misplaced (dialect : BucketDialect) (granularity : DateGranularity) (instant : Int) : Prop :=
  (dialect = .registered .mssql ∧ granularity = .week ∧ dayOfInstant instant % 7 = 6) ∨
    (dialect = .sqlite ∧ granularity = .quarter ∧ (monthOf (dayOfInstant instant) - 1) % 3 ≠ 0)

theorem midnight_inj {day other : Int} : midnight day = midnight other ↔ day = other := by
  unfold midnight dayLength
  omega

/-- The bucket is the truncation wherever it is not misplaced, and nowhere else. -/
theorem dateBucket_eq_truncate_iff {dialect : BucketDialect} {kind : Option TemporalKind}
    {granularity : DateGranularity} {instant : Int} {bucket : Option Int}
    (held : dialect.HasInstant instant)
    (accepted : dateBucket dialect kind granularity instant = .ok bucket) :
    bucket = some (truncate granularity.calendar instant) ↔
      ¬ Misplaced dialect granularity instant := by
  have months := monthOf_bounds (dayOfInstant instant)
  have placed : ∀ {found : Option Int}, found = some (truncate granularity.calendar instant) →
      ¬ Misplaced dialect granularity instant → Except.ok found = (.ok bucket : Gate _) →
      (bucket = some (truncate granularity.calendar instant) ↔
        ¬ Misplaced dialect granularity instant) := by
    rintro _ rfl well ⟨⟩
    exact iff_of_true rfl well
  cases dialect with
  | registered database =>
      cases database with
      | postgresql => exact placed rfl (by simp [Misplaced]) accepted
      | mssql =>
          cases granularity with
          | day => exact placed (mssqlDateBucket_day _) (by simp [Misplaced]) accepted
          | month =>
              exact placed (mssqlDateBucket_months (.inl rfl) _) (by simp [Misplaced]) accepted
          | quarter =>
              exact placed (mssqlDateBucket_months (.inr (.inl rfl)) _) (by simp [Misplaced])
                accepted
          | year =>
              exact placed (mssqlDateBucket_months (.inr (.inr rfl)) _) (by simp [Misplaced])
                accepted
          | week =>
              have found : bucket = some (midnight (7 * ((dayOfInstant instant + 1) / 7))) :=
                (Except.ok.inj accepted).symm.trans (mssqlDateBucket_week instant)
              rw [found, Option.some_inj]
              change midnight _ = midnight (7 * (dayOfInstant instant / 7)) ↔ _
              rw [midnight_inj]
              simp only [Misplaced, true_and, reduceCtorEq, false_and, or_false]
              omega
      | mysql =>
          refine placed ?_ (by simp [Misplaced]) accepted
          obtain ⟨after, before⟩ := held
          have positive : 0 ≤ yearOf (dayOfInstant instant) := le_trans (by decide) after
          cases granularity with
          | day => rfl
          | week =>
              refine congrArg some ?_
              change midnight (dayOfInstant (instant + midnight (-(dayOfInstant instant % 7)))) =
                midnight (7 * (dayOfInstant instant / 7))
              rw [midnight_inj]
              unfold dayOfInstant midnight dayLength
              omega
          | month =>
              simp only [mysqlDateBucket, Mysql.strToDate,
                readDate_month positive before months.1 months.2, Option.map_some,
                DateGranularity.calendar, truncate_month]
          | quarter =>
              have start : (Mysql.quarter instant - 1) * 3 + 1 =
                  3 * ((monthOf (dayOfInstant instant) - 1) / 3) + 1 := by
                unfold Mysql.quarter
                omega
              simp only [mysqlDateBucket, Mysql.strToDate, decimalText_of_four after before, start,
                DateGranularity.calendar, truncate_quarter]
              rw [readDate_month positive before (by omega) (by omega)]
              rfl
          | year =>
              have read := readDate_month positive before (le_refl 1) (by decide : (1 : Int) ≤ 12)
              simp only [mysqlDateBucket, Mysql.strToDate, DateGranularity.calendar, truncate_year]
              exact congrArg (Option.map midnight) read
      | snowflake =>
          refine placed ?_ (by simp [Misplaced]) accepted
          cases granularity with
          | week =>
              refine congrArg some ?_
              change midnight (dayOfInstant
                  (instant + midnight (-(dayOfInstant instant % 7 + 1 - 1)))) =
                midnight (7 * (dayOfInstant instant / 7))
              rw [midnight_inj]
              unfold dayOfInstant midnight dayLength
              omega
          | day | month | quarter | year => rfl
      | bigquery =>
          cases kind with
          | none => cases accepted
          | some kind => exact placed rfl (by simp [Misplaced]) accepted
  | sqlite =>
      cases granularity with
      | day => exact placed rfl (by simp [Misplaced]) accepted
      | week =>
          refine placed (congrArg some ?_) (by simp [Misplaced]) accepted
          change midnight (dayOfInstant instant + (6 - dayOfInstant instant % 7) - 6) =
            midnight (7 * (dayOfInstant instant / 7))
          rw [midnight_inj]
          omega
      | month =>
          refine placed ?_ (by simp [Misplaced]) accepted
          simp only [sqliteDateBucket, Sqlite.date, readDate_month held.1 held.2 months.1 months.2,
            Option.map_some, DateGranularity.calendar, truncate_month]
      | year =>
          refine placed ?_ (by simp [Misplaced]) accepted
          have read := readDate_month held.1 held.2 (le_refl 1) (by decide : (1 : Int) ≤ 12)
          simp only [sqliteDateBucket, Sqlite.date, DateGranularity.calendar, truncate_year]
          exact congrArg (Option.map midnight) read
      | quarter =>
          have found : bucket = some (truncate .month instant) :=
            (Except.ok.inj accepted).symm.trans (sqliteDateBucket_quarter held)
          rw [found, Option.some_inj]
          change midnight (monthStart (1 * (monthIndex (dayOfInstant instant) / 1))) =
            midnight (monthStart (3 * (monthIndex (dayOfInstant instant) / 3))) ↔ _
          rw [midnight_inj, monthStart_strictMono.injective.eq_iff]
          simp only [Misplaced, monthIndex, true_and, reduceCtorEq, false_and, false_or]
          omega

/-- A dialect that has the instant puts it into this bucket, and not into a misplaced one. -/
structure BucketedBy (dialect : BucketDialect) (kind : Option TemporalKind)
    (granularity : DateGranularity) (instant : Int) (bucket : Option Int) : Prop where
  held : dialect.HasInstant instant
  accepted : dateBucket dialect kind granularity instant = .ok bucket
  placed : ¬ Misplaced dialect granularity instant

theorem BucketedBy.eq_truncate {dialect : BucketDialect} {kind : Option TemporalKind}
    {granularity : DateGranularity} {instant : Int} {bucket : Option Int}
    (bucketed : BucketedBy dialect kind granularity instant bucket) :
    bucket = some (truncate granularity.calendar instant) :=
  (dateBucket_eq_truncate_iff bucketed.held bucketed.accepted).mpr bucketed.placed

/-- Exactly where it is not misplaced, the bucket of an adapter is the first instant of the unit
that contains the timestamp; there all adapters agree, two timestamps share a bucket on one
dialect if they do on another, and no bucket lies after its timestamp. -/
theorem dateBucket_firstInstant (granularity : DateGranularity) (instant : Int) :
    (∀ dialect kind bucket, BucketDialect.HasInstant dialect instant →
        dateBucket dialect kind granularity instant = .ok bucket →
      ((∃ first, bucket = some first ∧
          FirstInstant (DateGranularity.calendar granularity) instant first) ↔
        ¬ Misplaced dialect granularity instant)) ∧
    (∀ left leftKind right rightKind other leftBucket rightBucket leftOther rightOther,
        BucketedBy left leftKind granularity instant leftBucket →
        BucketedBy right rightKind granularity instant rightBucket →
        BucketedBy left leftKind granularity other leftOther →
        BucketedBy right rightKind granularity other rightOther →
      leftBucket = rightBucket ∧ (leftBucket = leftOther ↔ rightBucket = rightOther) ∧
        ∃ first, leftBucket = some first ∧ first ≤ instant) := by
  refine ⟨fun dialect kind bucket held accepted => ?_, ?_⟩
  · rw [← dateBucket_eq_truncate_iff held accepted]
    constructor
    · rintro ⟨first, rfl, contains⟩
      rw [firstInstant_iff.mp contains]
    · exact fun same => ⟨_, same, firstInstant_iff.mpr rfl⟩
  · intro left leftKind right rightKind other leftBucket rightBucket leftOther rightOther first
      second third fourth
    rw [first.eq_truncate, second.eq_truncate, third.eq_truncate, fourth.eq_truncate]
    exact ⟨rfl, Iff.rfl, _, rfl, truncate_le _ _⟩

/-- Wednesday, the eighteenth of November 2026. -/
def aWednesday : Int :=
  midnight 739937 + 55000000000

/-- Sunday, the fifteenth of November 2026. -/
def aSunday : Int :=
  midnight 739934 + 55000000000

/-- The tenth of February 2026. -/
def inFebruary : Int :=
  midnight 739656

/-- T-SQL and Postgres put a Wednesday into the same week. -/
theorem dateBucket_firstInstant_aWednesday :
    ((∃ first, some (midnight 739935) = some first ∧
        FirstInstant (DateGranularity.calendar .week) aWednesday first) ↔
      ¬ Misplaced (.registered .mssql) .week aWednesday) ∧
    ∃ first, some (midnight 739935) = some first ∧ first ≤ aWednesday := by
  have mssql : BucketedBy (.registered .mssql) none .week aWednesday (some (midnight 739935)) :=
    ⟨by decide, by decide, by simp [Misplaced]; decide⟩
  have postgres : BucketedBy (.registered .postgresql) none .week aWednesday
      (some (midnight 739935)) :=
    ⟨by decide, by decide, by simp [Misplaced]⟩
  exact ⟨(dateBucket_firstInstant _ _).1 _ none _ mssql.held mssql.accepted,
    ((dateBucket_firstInstant _ _).2 _ _ _ _ _ _ _ _ _ mssql postgres mssql postgres).2.2⟩

/-- T-SQL puts a Sunday into the week after it, and SQLite a day of February into a quarter that
begins with February. -/
theorem not_dateBucket_firstInstant :
    dateBucket (.registered .mssql) none .week aSunday = .ok (some (midnight 739935)) ∧
      aSunday < midnight 739935 ∧
      dateBucket (.registered .postgresql) none .week aSunday = .ok (some (midnight 739928)) ∧
      (∃ first, dateBucket .sqlite none .quarter inFebruary = .ok (some first) ∧
        ¬ FirstInstant .quarter inFebruary first) := by
  refine ⟨by decide, by decide, by decide, truncate .month inFebruary, ?_, ?_⟩
  · exact congrArg Except.ok (sqliteDateBucket_quarter (by decide))
  · rw [firstInstant_iff]
    decide

end QueryGate
