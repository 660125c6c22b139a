import Mathlib

/-! # Longest chains

A relation along which a level strictly falls has no cycles. Where each level is
also attained, one more than the level of something the element relates to or
exactly one, the level of an element is the length of its longest chain.
-/

namespace Foundation

variable {α : Type} {relates : α → α → Prop} {level : α → Nat}

/-- A chain of related elements that starts at `first`. -/
def ChainFrom (relates : α → α → Prop) (first : α) (chain : List α) : Prop :=
  chain.head? = some first ∧ chain.IsChain relates

/-- A level that falls along the relation and never by more than it has to. -/
structure LevelsOf (relates : α → α → Prop) (level : α → Nat) : Prop where
  falls : ∀ {first second}, relates first second → level second < level first
  attained : ∀ first, level first = 1 ∨ ∃ second, relates first second ∧ level first = level second + 1

theorem LevelsOf.pos (levels : LevelsOf relates level) (first : α) : 1 ≤ level first := by
  rcases levels.attained first with one | ⟨second, _, succ⟩
  · omega
  · omega

/-- No chain is longer than the level of its first element. -/
theorem LevelsOf.length_le (levels : LevelsOf relates level) {chain : List α} :
    ∀ {first}, ChainFrom relates first chain → chain.length ≤ level first := by
  induction chain with
  | nil => exact fun ⟨absurd, _⟩ => by cases absurd
  | cons head rest ih =>
      rintro first ⟨starts, linked⟩
      injection starts with starts
      subst starts
      cases rest with
      | nil => exact levels.pos head
      | cons next later =>
          obtain ⟨related, linkedRest⟩ := List.isChain_cons_cons.mp linked
          have shorter := ih ⟨rfl, linkedRest⟩
          have fall := levels.falls related
          rw [List.length_cons]
          omega

/-- Some chain is as long as the level of its first element. -/
theorem LevelsOf.exists_chain (levels : LevelsOf relates level) (first : α) :
    ∃ chain, ChainFrom relates first chain ∧ chain.length = level first := by
  induction height : level first using Nat.strong_induction_on generalizing first with
  | _ height ih =>
      subst height
      rcases levels.attained first with one | ⟨second, related, succ⟩
      · exact ⟨[first], ⟨rfl, List.isChain_singleton _⟩, one.symm⟩
      · obtain ⟨chain, ⟨starts, linked⟩, length⟩ := ih (level second) (levels.falls related) second rfl
        cases chain with
        | nil => cases starts
        | cons head rest =>
            injection starts with starts
            subst starts
            refine ⟨first :: head :: rest, ⟨rfl, List.isChain_cons_cons.mpr ⟨related, linked⟩⟩, ?_⟩
            rw [List.length_cons, length, succ]

/-- The level of an element is the length of its longest chain. -/
theorem LevelsOf.isGreatest (levels : LevelsOf relates level) (first : α) :
    IsGreatest {length | ∃ chain, ChainFrom relates first chain ∧ chain.length = length}
      (level first) :=
  ⟨levels.exists_chain first, fun _ ⟨_, starts, same⟩ => same ▸ levels.length_le starts⟩

end Foundation
