import QueryGate.Policy.Models

/-! # Connections

What a connection profile contributes to validation: its join group, its host,
and whether its dialect can be connected to. Profiles and policies come from
registries outside the modelled code, so they are reached through a resolver.
-/

namespace QueryGate

open Foundation

/-- `DatabaseDialect`. -/
inductive DatabaseDialect where
  | postgresql | mssql | mysql | snowflake | bigquery
  deriving DecidableEq, Repr

/-- `SessionDialectAdapter.is_connectable`: false where no async driver exists. -/
def DatabaseDialect.isConnectable : DatabaseDialect → Bool
  | .snowflake | .bigquery => false
  | _ => true

/-- The printed form of a dialect inside a message. -/
def DatabaseDialect.printed : DatabaseDialect → String
  | .postgresql => "<DatabaseDialect.POSTGRESQL: 'postgresql'>"
  | .mssql => "<DatabaseDialect.MSSQL: 'mssql'>"
  | .mysql => "<DatabaseDialect.MYSQL: 'mysql'>"
  | .snowflake => "<DatabaseDialect.SNOWFLAKE: 'snowflake'>"
  | .bigquery => "<DatabaseDialect.BIGQUERY: 'bigquery'>"

/-- `not_connectable_explanation`. -/
def notConnectableExplanation (dialect : DatabaseDialect) : String :=
  s!"QueryGate cannot yet open a live connection for dialect {dialect.printed}: its " ++
    "SessionDialectAdapter is registered but not connectable (see " ++
    "SessionDialectAdapter.is_connectable's docstring for why — Snowflake's " ++
    "and BigQuery's drivers both have no async SQLAlchemy engine support, and " ++
    "this codebase's execution pipeline requires one). Its compiler/session " ++
    "adapters exist for rendering-level development and testing only " ++
    "(TODO.md item 19) — see its live-verification follow-up item."

/-- `ConnectionProfile`, with the parsed host and port of its connection string. -/
structure ConnectionProfile where
  id : String
  dialect : DatabaseDialect
  joinGroup : Option String := none
  hostPort : Option (String × Option Nat) := none

/-- `ConnectionProfile.effective_join_group`. -/
def ConnectionProfile.effectiveJoinGroup (profile : ConnectionProfile) : String :=
  orElseText profile.joinGroup profile.id

/-- `ConnectionResolver`: the visible profile and policy of a connection. -/
abbrev ConnectionResolver := String → Option Principal → Gate (ConnectionProfile × Policy)

/-- Host and port are compared separately: an omitted port agrees with any. -/
def hostsDisagree (primary other : Option (String × Option Nat)) : Bool :=
  match primary, other with
  | some (host, port), some (otherHost, otherPort) =>
      host != otherHost || (port.isSome && otherPort.isSome && port != otherPort)
  | _, _ => false

end QueryGate
