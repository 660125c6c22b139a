import Mathlib

/-! # Boolean trees in three-valued logic

Trees of conjunctions, disjunctions and negations over leaves. A tree denotes a
function of its leaf occurrences: a valuation is one truth value for each leaf,
in order. Leaves occur once each, so every tree without empty nodes can be made
to hold and to fail.
-/

namespace Foundation

/-- The truth values of SQL's logic. -/
inductive Truth where
  | holds | fails | unknown
  deriving DecidableEq, Repr

namespace Truth

/-- Three-valued conjunction. -/
def and : Truth → Truth → Truth
  | .fails, _ => .fails
  | .holds, other => other
  | .unknown, .fails => .fails
  | .unknown, _ => .unknown

/-- Three-valued disjunction. -/
def or : Truth → Truth → Truth
  | .holds, _ => .holds
  | .fails, other => other
  | .unknown, .holds => .holds
  | .unknown, _ => .unknown

/-- Three-valued negation. -/
def not : Truth → Truth
  | .holds => .fails
  | .fails => .holds
  | .unknown => .unknown

/-- The conjunction of a list. -/
def conj : List Truth → Truth
  | [] => .holds
  | value :: rest => value.and (conj rest)

/-- The disjunction of a list. -/
def disj : List Truth → Truth
  | [] => .fails
  | value :: rest => value.or (disj rest)

@[simp] theorem and_holds (value : Truth) : value.and .holds = value := by
  cases value <;> rfl

@[simp] theorem or_fails (value : Truth) : value.or .fails = value := by
  cases value <;> rfl

@[simp] theorem holds_and (value : Truth) : Truth.holds.and value = value := rfl

@[simp] theorem fails_or (value : Truth) : Truth.fails.or value = value := rfl

/-- A conjunction holds exactly when each of its members does. -/
theorem conj_eq_holds_iff {values : List Truth} :
    conj values = .holds ↔ ∀ value ∈ values, value = .holds := by
  induction values with
  | nil => simp [conj]
  | cons value rest ih =>
      rw [conj, List.forall_mem_cons, ← ih]
      cases value <;> cases conj rest <;> simp [and]

/-- A conjunction with a failing member fails. -/
theorem conj_eq_fails {values : List Truth} (member : Truth.fails ∈ values) :
    conj values = .fails := by
  induction values with
  | nil => cases member
  | cons value rest ih =>
      rw [conj]
      rcases List.mem_cons.mp member with same | later
      · rw [← same]
        rfl
      · rw [ih later]
        cases value <;> rfl

/-- A disjunction fails exactly when each of its members does. -/
theorem disj_eq_fails_iff {values : List Truth} :
    disj values = .fails ↔ ∀ value ∈ values, value = .fails := by
  induction values with
  | nil => simp [disj]
  | cons value rest ih =>
      rw [disj, List.forall_mem_cons, ← ih]
      cases value <;> cases disj rest <;> simp [or]

/-- A disjunction with a holding member holds. -/
theorem disj_eq_holds {values : List Truth} (member : Truth.holds ∈ values) :
    disj values = .holds := by
  induction values with
  | nil => cases member
  | cons value rest ih =>
      rw [disj]
      rcases List.mem_cons.mp member with same | later
      · rw [← same]
        rfl
      · rw [ih later]
        cases value <;> rfl

@[simp] theorem conj_singleton (value : Truth) : conj [value] = value :=
  and_holds value

@[simp] theorem disj_singleton (value : Truth) : disj [value] = value :=
  or_fails value

theorem conj_replicate (value : Truth) (count : Nat) :
    conj (List.replicate (count + 1) value) = value := by
  induction count with
  | zero => exact conj_singleton value
  | succ count ih =>
      rw [List.replicate_succ, conj, ih]
      cases value <;> rfl

theorem disj_replicate (value : Truth) (count : Nat) :
    disj (List.replicate (count + 1) value) = value := by
  induction count with
  | zero => exact disj_singleton value
  | succ count ih =>
      rw [List.replicate_succ, disj, ih]
      cases value <;> rfl

/-- Among holding members a conjunction has the value of the remaining one. -/
theorem conj_among_holds (before after : Nat) (value : Truth) :
    conj (List.replicate before .holds ++ value :: List.replicate after .holds) = value := by
  induction before with
  | zero =>
      have rest : conj (List.replicate after .holds) = .holds :=
        conj_eq_holds_iff.mpr fun _ member => List.eq_of_mem_replicate member
      rw [List.replicate_zero, List.nil_append, conj, rest, and_holds]
  | succ before ih =>
      rw [List.replicate_succ, List.cons_append, conj, ih, holds_and]

/-- Among failing members a disjunction has the value of the remaining one. -/
theorem disj_among_fails (before after : Nat) (value : Truth) :
    disj (List.replicate before .fails ++ value :: List.replicate after .fails) = value := by
  induction before with
  | zero =>
      have rest : disj (List.replicate after .fails) = .fails :=
        disj_eq_fails_iff.mpr fun _ member => List.eq_of_mem_replicate member
      rw [List.replicate_zero, List.nil_append, disj, rest, or_fails]
  | succ before ih =>
      rw [List.replicate_succ, List.cons_append, disj, ih, fails_or]

theorem not_injective {first second : Truth} (same : first.not = second.not) : first = second := by
  cases first <;> cases second <;> first | rfl | cases same

end Truth

/-- A tree of boolean combinators over leaves. -/
inductive BoolTree (α : Type) where
  | leaf (label : α)
  | and (terms : List (BoolTree α))
  | or (terms : List (BoolTree α))
  | not (term : BoolTree α)

namespace BoolTree

variable {α β : Type}

mutual

/-- The leaves in order. -/
def leaves : BoolTree α → List α
  | .leaf label => [label]
  | .and terms => listLeaves terms
  | .or terms => listLeaves terms
  | .not term => term.leaves
termination_by structural tree => tree

/-- The leaves of a list of trees. -/
def listLeaves : List (BoolTree α) → List α
  | [] => []
  | tree :: rest => tree.leaves ++ listLeaves rest
termination_by structural trees => trees

end

/-- The number of leaves. -/
def size (tree : BoolTree α) : Nat :=
  tree.leaves.length

mutual

/-- Relabel the leaves. -/
def map (relabel : α → β) : BoolTree α → BoolTree β
  | .leaf label => .leaf (relabel label)
  | .and terms => .and (listMap relabel terms)
  | .or terms => .or (listMap relabel terms)
  | .not term => .not (term.map relabel)
termination_by structural tree => tree

/-- Relabel the leaves of a list of trees. -/
def listMap (relabel : α → β) : List (BoolTree α) → List (BoolTree β)
  | [] => []
  | tree :: rest => tree.map relabel :: listMap relabel rest
termination_by structural trees => trees

end

mutual

/-- The value of a tree when its leaves have the given values, in order. -/
def eval : BoolTree α → List Truth → Truth
  | .leaf _, values => values.headD .unknown
  | .and terms, values => .conj (evalAll terms values)
  | .or terms, values => .disj (evalAll terms values)
  | .not term, values => (term.eval values).not
termination_by structural tree => tree

/-- The values of a list of trees, each on its own share of the leaf values. -/
def evalAll : List (BoolTree α) → List Truth → List Truth
  | [], _ => []
  | tree :: rest, values => tree.eval (values.take tree.size) :: evalAll rest (values.drop tree.size)
termination_by structural trees => trees

end

mutual

/-- The depth of a tree whose root is at `depth`. -/
def depthFrom (depth : Nat) : BoolTree α → Nat
  | .leaf _ => depth
  | .and terms => listDepth depth terms
  | .or terms => listDepth depth terms
  | .not term => term.depthFrom (depth + 1)
termination_by structural tree => tree

/-- The greatest depth of the trees below a node at `depth`. -/
def listDepth (depth : Nat) : List (BoolTree α) → Nat
  | [] => depth
  | tree :: rest => max (tree.depthFrom (depth + 1)) (listDepth depth rest)
termination_by structural trees => trees

end

mutual

theorem leaves_map (relabel : α → β) :
    ∀ tree : BoolTree α, (tree.map relabel).leaves = tree.leaves.map relabel
  | .leaf label => by rw [map, leaves, leaves, List.map_singleton]
  | .and terms => by rw [map, leaves, leaves, listLeaves_listMap relabel terms]
  | .or terms => by rw [map, leaves, leaves, listLeaves_listMap relabel terms]
  | .not term => by rw [map, leaves, leaves, leaves_map relabel term]
termination_by structural tree => tree

theorem listLeaves_listMap (relabel : α → β) :
    ∀ trees : List (BoolTree α), listLeaves (listMap relabel trees) = (listLeaves trees).map relabel
  | [] => rfl
  | tree :: rest => by
      rw [listMap, listLeaves, listLeaves, List.map_append, leaves_map relabel tree,
        listLeaves_listMap relabel rest]
termination_by structural trees => trees

end

mutual

/-- Relabelling twice is relabelling with the composition. -/
theorem map_map {γ : Type} (relabel : α → β) (again : β → γ) :
    ∀ tree : BoolTree α, (tree.map relabel).map again = tree.map (again ∘ relabel)
  | .leaf label => by rw [map, map, map, Function.comp_apply]
  | .and terms => by rw [map, map, map, listMap_listMap relabel again terms]
  | .or terms => by rw [map, map, map, listMap_listMap relabel again terms]
  | .not term => by rw [map, map, map, map_map relabel again term]
termination_by structural tree => tree

theorem listMap_listMap {γ : Type} (relabel : α → β) (again : β → γ) :
    ∀ trees : List (BoolTree α),
      listMap again (listMap relabel trees) = listMap (again ∘ relabel) trees
  | [] => rfl
  | tree :: rest => by
      rw [listMap, listMap, listMap, map_map relabel again tree,
        listMap_listMap relabel again rest]
termination_by structural trees => trees

end

@[simp] theorem size_map (relabel : α → β) (tree : BoolTree α) :
    (tree.map relabel).size = tree.size := by
  rw [size, size, leaves_map, List.length_map]

mutual

/-- The value of a tree depends on the positions of its leaves only. -/
theorem eval_map (relabel : α → β) :
    ∀ (tree : BoolTree α) (values : List Truth), (tree.map relabel).eval values = tree.eval values
  | .leaf label, values => by rw [map, eval, eval]
  | .and terms, values => by rw [map, eval, eval, evalAll_listMap relabel terms]
  | .or terms, values => by rw [map, eval, eval, evalAll_listMap relabel terms]
  | .not term, values => by rw [map, eval, eval, eval_map relabel term]
termination_by structural tree => tree

theorem evalAll_listMap (relabel : α → β) :
    ∀ (trees : List (BoolTree α)) (values : List Truth),
      evalAll (listMap relabel trees) values = evalAll trees values
  | [], values => rfl
  | tree :: rest, values => by
      rw [listMap, evalAll, evalAll, size_map, eval_map relabel tree,
        evalAll_listMap relabel rest]
termination_by structural trees => trees

end

/-- Values for a list of trees are values for its head followed by values for the
rest. -/
theorem evalAll_append {tree : BoolTree α} {rest : List (BoolTree α)} {first second : List Truth}
    (length : first.length = tree.size) :
    evalAll (tree :: rest) (first ++ second) = tree.eval first :: evalAll rest second := by
  rw [evalAll, ← length, List.take_left, List.drop_left]

end BoolTree

end Foundation
