import QueryGate.Connections.Models
import QueryGate.Validation.Scopes

/-! # Connection resolution

Which connection each from and join occurrence of a scope belongs to, and which
policies must be consulted for a table of that connection.
-/

namespace QueryGate

open Foundation

/-- A scope's map from effective table name to connection. -/
abbrev TableConnections := List (String × String)

/-- The per-scope table-to-connection maps of a request. The source keys them by
scope object; the map is a function of the scope, so it is kept as one. -/
abbrev ScopeConnections := StructuredQuery → TableConnections

/-- The checks on one join to another connection. -/
def checkCrossConnection (connectionId : String) (primary : ConnectionProfile)
    (primaryGroup : String) (principal : Option Principal) (resolver : ConnectionResolver)
    (join : JoinSpec) (joinConnectionId : String) : Gate Unit := do
  let (other, otherPolicy) ← resolver joinConnectionId principal
  let otherGroup := orElseText otherPolicy.joinGroup other.effectiveJoinGroup
  refuse (primaryGroup != otherGroup)
    (queryValidationError
      (s!"cross-connection join: {quoted join.table} is in connection " ++
        s!"{quoted joinConnectionId}, which is not in the same join_group as the " ++
        s!"primary connection {quoted connectionId} — run a separate query per " ++
        "connection and combine results instead."))
  refuse (!other.dialect.isConnectable)
    (configValidationError
      (s!"cross-connection join: {quoted join.table} is in connection " ++
        s!"{quoted joinConnectionId}: {notConnectableExplanation other.dialect}"))
  refuse (hostsDisagree primary.hostPort other.hostPort)
    (configValidationError
      (s!"cross-connection join: {quoted join.table} is in connection " ++
        s!"{quoted joinConnectionId}, which shares join_group {quoted otherGroup} with " ++
        s!"primary connection {quoted connectionId} but is not the same physical " ++
        "server instance — the join is reflected through the primary " ++
        "connection's own engine and would silently read the wrong database. " ++
        "Split them into separate join_groups if they are genuinely different " ++
        "hosts."))

/-- The connection a join names, the primary one by default. -/
def JoinSpec.connectionId (join : JoinSpec) (connectionId : String) : String :=
  orElseText join.connection connectionId

/-- The checks of `resolve_query_table_connections` on one join. -/
def checkJoinConnection (connectionId : String) (primary : ConnectionProfile)
    (primaryGroup : String) (principal : Option Principal) (resolver : ConnectionResolver)
    (cteNames : List String) (join : JoinSpec) : Gate Unit := do
  refuse (join.connection.isSome && cteNames.contains (casefold join.table))
    (queryValidationError
      (s!"join to cte {quoted join.table} may not set `connection` — a cte is computed " ++
        "by this query, not read from another connection."))
  if join.connectionId connectionId = connectionId then
    .ok ()
  else
    checkCrossConnection connectionId primary primaryGroup principal resolver join
      (join.connectionId connectionId)

/-- `resolve_query_table_connections`, with the names as declared. -/
def resolveQueryTableConnections (query : StructuredQuery) (connectionId : String)
    (principal : Option Principal) (resolver : ConnectionResolver) (cteNames : List String) :
    Gate TableConnections := do
  let (primary, policy) ← resolver connectionId principal
  let primaryGroup := orElseText policy.joinGroup primary.effectiveJoinGroup
  checkAll (checkJoinConnection connectionId primary primaryGroup principal resolver cteNames)
    query.joins
  pure (dictOf ((query.fromName, connectionId) ::
    query.joins.map fun join => (join.name, join.connectionId connectionId)))

/-- The same map with its names case-folded. -/
def foldNames (connections : TableConnections) : TableConnections :=
  dictOf (connections.map fun entry => (casefold entry.1, entry.2))

/-- The case-folded table connections of a scope that resolution accepts. -/
def scopeTableConnections (connectionId : String) : ScopeConnections := fun scope =>
  foldNames (dictOf ((scope.fromName, connectionId) ::
    scope.joins.map fun join => (join.name, join.connectionId connectionId)))

/-- `resolve_scope_connections`. -/
def resolveScopeConnections (query : StructuredQuery) (connectionId : String)
    (principal : Option Principal) (resolver : ConnectionResolver) : Gate ScopeConnections := do
  checkAll (fun scope => do
      let _ ← resolveQueryTableConnections scope connectionId principal resolver
        (declaredCteNames query)
      pure ())
    (scopesOf query)
  pure (scopeTableConnections connectionId)

/-- `resolve_table_policies`: the primary policy, and the table's own connection's
policy when that is another one. -/
def resolveTablePolicies (tableConnectionId connectionId : String) (policy : Policy)
    (principal : Option Principal) (resolver : ConnectionResolver) : Gate (List Policy) :=
  if tableConnectionId = connectionId then .ok [policy]
  else do
    let (_, otherPolicy) ← resolver tableConnectionId principal
    pure [policy, otherPolicy]

/-- `_table_connection_id`. -/
def tableConnectionId (tableConnection : TableConnections) (effectiveName connectionId : String) :
    String :=
  (dictGet tableConnection (casefold effectiveName)).getD connectionId

end QueryGate
