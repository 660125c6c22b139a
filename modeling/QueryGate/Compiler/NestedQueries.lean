import QueryGate.Compiler.References
import QueryGate.Validation.PolicyAcceptance

/-! # Every nested query is a validated scope

The queries reachable anywhere in an accepted request are exactly the scopes the
walk yields, the compiler compiles none besides, and so each tree-wide cap bounds
the sum over all of them.
-/

namespace QueryGate

open Foundation

/-- Every SELECT of a compiled query was compiled from a scope the walk yields. -/
theorem scope_mem_scopesOf_of_contains {context : CompileContext} {query : StructuredQuery}
    {compiled : CompiledQuery} {select : Select} (accepted : query.validate = .ok ())
    (done : compileIn context query = .ok compiled) (contained : compiled.Contains select) :
    select.scope ∈ scopesOf query := by
  obtain ⟨statement, within, member⟩ := contained
  obtain ⟨_, scope, _, _, _, body, run, rfl⟩ :=
    (compileIn_within accepted done within).2 select member
  rw [(bodyStages_of_compiled run.compiled).scope_eq]
  exact run.scopeAt.mem_scopesOf

/-- The queries reachable in a query that policy validation accepts are the scopes
of the walk, each once; whatever tables it is compiled against, only these are
compiled; and the tree-wide caps bound the sums over them. -/
theorem reachableQueries_are_scopes {context : RequestContext} {query : StructuredQuery}
    {policy effective : Policy} {scopeConnections : Option ScopeConnections}
    {snapshot : Option ConnectionResolver} (valid : query.validate = .ok ())
    (accepted : validatePolicy context query policy scopeConnections snapshot = .ok effective) :
    (reachableQueries query).Perm ((iterQueryScopes query 0).map Prod.snd) ∧
      (∀ (adapter : DialectAdapter) (request : RequestContext) (reflected : ReflectedQuery)
        (connections : Option ScopeConnections) (resolver : Option ConnectionResolver)
        (compiled : CompiledQuery),
        compileStructuredQuery adapter request query effective reflected connections resolver =
          .ok compiled →
        ∀ select, compiled.Contains select → select.scope ∈ (iterQueryScopes query 0).map Prod.snd) ∧
      TreeWideCaps effective (reachableQueries query) := by
  obtain ⟨_, _, facts⟩ := validatePolicy_accepted accepted
  have perm : (reachableQueries query).Perm (scopesOf query) :=
    reachableQueries_perm_scopesOf valid fun scope member => facts.hidesNoSubquery member
  refine ⟨perm, ?_, facts.caps.perm perm.symm⟩
  intro adapter request reflected connections resolver compiled done select contained
  rw [compileStructuredQuery, bind_eq_ok_iff] at done
  obtain ⟨_, _, compiledIn⟩ := done
  exact scope_mem_scopesOf_of_contains valid compiledIn contained

/-- `SELECT o.id FROM Orders o WHERE o.customer_id IN (SELECT Customers.id FROM
Customers)`. -/
def ordersOfCustomers : StructuredQuery where
  fromTable := "Orders"
  fromAlias := some "o"
  select := [.bare "o.id"]
  where_ := some (.predicate {
    col := some "o.customer_id", op := .in_,
    valueSubquery := some { fromTable := "Customers", select := [.bare "Customers.id"] } })

/-- A query with one subquery has two scopes, which the caps count together. -/
theorem reachableQueries_are_scopes_of_ordersOfCustomers :
    (reachableQueries ordersOfCustomers).length = 2 ∧
      TreeWideCaps {} (reachableQueries ordersOfCustomers) := by
  have passes : validatePolicy soleConnection ordersOfCustomers {} none none = .ok {} := rfl
  exact ⟨rfl, (reachableQueries_are_scopes (by decide +kernel) passes).2.2⟩

end QueryGate
