import QueryGate.Foundation.Dict

/-! # Dictionaries whose entries expire

An entry may have a deadline, and is read before it only. Entries are written and dropped by
their keys; what cannot be read stays so until it is written again (`read_of_later`).
-/

namespace Foundation

variable {κ α T : Type} [DecidableEq κ] [LinearOrder T]

/-- A dictionary of values with deadlines. -/
abbrev ExpiringDict (κ α T : Type) := List (κ × (α × Option T))

/-- A deadline has not been reached. -/
def AliveAt (now : T) (deadline : Option T) : Prop :=
  ∀ limit ∈ deadline, now < limit

instance (now : T) : ∀ deadline : Option T, Decidable (AliveAt now deadline)
  | none => .isTrue fun _ member => by cases member
  | some limit => decidable_of_iff (now < limit) (by simp [AliveAt])

theorem AliveAt.earlier {now later : T} (order : now ≤ later) {deadline : Option T}
    (alive : AliveAt later deadline) : AliveAt now deadline :=
  fun limit member => order.trans_lt (alive limit member)

namespace ExpiringDict

/-- The value of a key that has not expired. -/
def read (entries : ExpiringDict κ α T) (now : T) (key : κ) : Option α :=
  (dictGet entries key).bind fun entry => if AliveAt now entry.2 then some entry.1 else none

/-- A key is given a value and a deadline. -/
def write (entries : ExpiringDict κ α T) (key : κ) (value : α) (deadline : Option T) :
    ExpiringDict κ α T :=
  dictSet entries key (value, deadline)

/-- A key is deleted. -/
def drop (entries : ExpiringDict κ α T) (key : κ) : ExpiringDict κ α T :=
  entries.filter fun entry => entry.1 ≠ key

variable {entries : ExpiringDict κ α T} {now later : T} {key other : κ} {value : α}

theorem read_eq_some_iff : entries.read now key = some value ↔
    ∃ deadline, dictGet entries key = some (value, deadline) ∧ AliveAt now deadline := by
  unfold read
  rw [Option.bind_eq_some_iff]
  constructor
  · rintro ⟨⟨held, deadline⟩, found, shown⟩
    split at shown
    · rename_i alive
      cases shown
      exact ⟨deadline, found, alive⟩
    · cases shown
  · rintro ⟨deadline, found, alive⟩
    exact ⟨(value, deadline), found, if_pos alive⟩

omit [LinearOrder T] in
theorem dictGet_write (entries : ExpiringDict κ α T) (key other : κ) (value : α)
    (deadline : Option T) : dictGet (entries.write key value deadline) other =
      if key = other then some (value, deadline) else dictGet entries other :=
  dictGet_dictSet ..

omit [LinearOrder T] in
theorem dictGet_drop (entries : ExpiringDict κ α T) (key other : κ) :
    dictGet (entries.drop key) other = if key = other then none else dictGet entries other := by
  have dropped := dictGet_filter_key entries (fun name => decide (name ≠ key)) other
  refine Eq.trans dropped ?_
  by_cases same : key = other
  · simp [same]
  · simp [same, Ne.symm same]

theorem read_write_of_ne (apart : key ≠ other) (value : α) (deadline : Option T) :
    (entries.write key value deadline).read now other = entries.read now other := by
  unfold read
  rw [dictGet_write, if_neg apart]

theorem read_drop (entries : ExpiringDict κ α T) (now : T) (key other : κ) :
    (entries.drop key).read now other = if key = other then none else entries.read now other := by
  unfold read
  rw [dictGet_drop]
  split
  · rfl
  · rfl

/-- What is read at an instant was there before. -/
theorem read_of_later (order : now ≤ later) (found : entries.read later key = some value) :
    entries.read now key = some value := by
  obtain ⟨deadline, there, alive⟩ := read_eq_some_iff.mp found
  exact read_eq_some_iff.mpr ⟨deadline, there, alive.earlier order⟩

/-- What has expired stays unread. -/
theorem read_eq_none_later (order : now ≤ later) (gone : entries.read now key = none) :
    entries.read later key = none := by
  cases found : entries.read later key with
  | none => rfl
  | some value => exact absurd (read_of_later order found) (by simp [gone])

end ExpiringDict

end Foundation
