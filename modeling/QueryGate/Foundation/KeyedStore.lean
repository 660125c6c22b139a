import Mathlib

/-! # Programs on a keyed store

A program reads and writes the slots of a store by their keys. It may stop with an
error, and what it wrote before stays written. A program touches only the keys that it
is given when every other slot is left as it was.
-/

namespace Foundation

variable {κ σ ε α β : Type}

/-- Programs over the slots of a store. -/
abbrev StoreProgram (κ σ ε α : Type) := ExceptT ε (StateM (κ → Option σ)) α

namespace StoreProgram

/-- The outcome of a program, and the store after it. -/
def outcome (program : StoreProgram κ σ ε α) (store : κ → Option σ) :
    Except ε α × (κ → Option σ) :=
  (program.run).run store

/-- The store after a program. -/
def storeAfter (program : StoreProgram κ σ ε α) (store : κ → Option σ) : κ → Option σ :=
  (program.outcome store).2

theorem outcome_bind (program : StoreProgram κ σ ε α) (next : α → StoreProgram κ σ ε β)
    (store : κ → Option σ) :
    (program >>= next).outcome store =
      match program.outcome store with
      | (.ok value, after) => (next value).outcome after
      | (.error failure, after) => (.error failure, after) := by
  change (ExceptT.bindCont next (program.outcome store).1).run (program.outcome store).2 = _
  rcases program.outcome store with ⟨result, after⟩
  cases result with
  | ok value => rfl
  | error failure => rfl

/-- The program leaves every slot alone but those of the given keys. -/
def Touches (keys : List κ) (program : StoreProgram κ σ ε α) : Prop :=
  ∀ store key, key ∉ keys → program.storeAfter store key = store key

namespace Touches

variable {keys more : List κ} {program : StoreProgram κ σ ε α}

theorem mono (touches : Touches keys program) (inside : keys ⊆ more) : Touches more program :=
  fun store key outside => touches store key fun member => outside (inside member)

protected theorem pure (keys : List κ) (value : α) :
    Touches keys (pure value : StoreProgram κ σ ε α) :=
  fun _ _ _ => rfl

protected theorem throw (keys : List κ) (failure : ε) :
    Touches keys (throw failure : StoreProgram κ σ ε α) :=
  fun _ _ _ => rfl

protected theorem get (keys : List κ) :
    Touches keys (get : StoreProgram κ σ ε (κ → Option σ)) :=
  fun _ _ _ => rfl

protected theorem bind {next : α → StoreProgram κ σ ε β} (first : Touches keys program)
    (then_ : ∀ value, Touches keys (next value)) : Touches keys (program >>= next) := by
  intro store key outside
  have before := first store key outside
  unfold storeAfter at before ⊢
  rw [outcome_bind]
  rcases ran : program.outcome store with ⟨result, after⟩
  rw [ran] at before
  cases result with
  | error failure => exact before
  | ok value => exact (then_ value after key outside).trans before

/-- A loop touches what its body touches. -/
protected theorem forM {items : List β} {body : β → StoreProgram κ σ ε PUnit}
    (each : ∀ item ∈ items, Touches keys (body item)) : Touches keys (items.forM body) := by
  induction items with
  | nil => exact Touches.pure keys PUnit.unit
  | cons item rest ih =>
      refine Touches.bind (each item (List.mem_cons_self ..)) fun _ => ?_
      exact ih fun other later => each other (List.mem_cons_of_mem _ later)

/-- Writing a slot touches its key. -/
theorem write [DecidableEq κ] {key : κ} (slot : Option σ) (member : key ∈ keys) :
    Touches keys (modify fun store => Function.update store key slot :
      StoreProgram κ σ ε PUnit) := by
  intro store other outside
  have apart : other ≠ key := fun same => outside (same ▸ member)
  exact Function.update_of_ne apart slot store

end Touches

/-- The store after a sequence of programs, each stopped by its own errors alone. -/
def storeAfterAll (programs : List (StoreProgram κ σ ε α)) (store : κ → Option σ) :
    κ → Option σ :=
  programs.foldl (fun store program => program.storeAfter store) store

theorem storeAfterAll_of_touches {programs : List (StoreProgram κ σ ε α)} {keys : List κ}
    (touches : ∀ program ∈ programs, Touches keys program) (store : κ → Option σ) {key : κ}
    (outside : key ∉ keys) : storeAfterAll programs store key = store key := by
  induction programs generalizing store with
  | nil => rfl
  | cons program rest ih =>
      have first := touches program (List.mem_cons_self ..) store key outside
      exact (ih (fun other later => touches other (List.mem_cons_of_mem _ later)) _).trans first

end StoreProgram

end Foundation
