import Mathlib

/-! # Sequential checks

A check is a computation in `Except ε Unit`: it passes or stops with the first
failure. The rules here peel a passing pipeline into its stages, so that a proof
about an accepting run never unfolds the monad.
-/

namespace Foundation

variable {ε α β : Type}

/-- Fail with `failure` when `bad` holds. -/
def refuse (bad : Bool) (failure : ε) : Except ε Unit :=
  if bad then .error failure else .ok ()

/-- Run a check on every element in order, stopping at the first failure. -/
def checkAll (check : α → Except ε Unit) : List α → Except ε Unit
  | [] => .ok ()
  | item :: rest =>
      match check item with
      | .error failure => .error failure
      | .ok _ => checkAll check rest

/-- Run a check on a value that may be absent. -/
def checkOption (check : α → Except ε Unit) : Option α → Except ε Unit
  | none => .ok ()
  | some item => check item

/-- Map a fallible function over a list, in order. -/
def mapAll (action : α → Except ε β) : List α → Except ε (List β)
  | [] => .ok []
  | item :: rest =>
      match action item with
      | .error failure => .error failure
      | .ok image =>
          match mapAll action rest with
          | .error failure => .error failure
          | .ok images => .ok (image :: images)

/-- Run a computation that may be absent. -/
def sequenceOption : Option (Except ε α) → Except ε (Option α)
  | none => .ok none
  | some (.ok value) => .ok (some value)
  | some (.error failure) => .error failure

/-- Whether a computation succeeds. -/
def accepts (outcome : Except ε α) : Bool :=
  match outcome with
  | .ok _ => true
  | .error _ => false

@[simp] theorem accepts_iff {outcome : Except ε α} :
    accepts outcome = true ↔ ∃ result, outcome = .ok result := by
  cases outcome with
  | error failure => simp [accepts]
  | ok result => simp [accepts]

@[simp] theorem refuse_eq_ok_iff {bad : Bool} {failure : ε} {result : Unit} :
    refuse bad failure = .ok result ↔ bad = false := by
  cases bad with
  | false => simp [refuse]
  | true => simp [refuse]

theorem bind_eq_ok_iff {first : Except ε α} {next : α → Except ε β} {result : β} :
    (first >>= next) = .ok result ↔ ∃ value, first = .ok value ∧ next value = .ok result := by
  cases first with
  | error failure =>
      refine ⟨fun absurd => ?_, fun ⟨value, absurd, _⟩ => ?_⟩
      · cases absurd
      · cases absurd
  | ok value =>
      refine ⟨fun finished => ⟨value, rfl, finished⟩, fun ⟨other, same, finished⟩ => ?_⟩
      cases same
      exact finished

theorem seq_eq_ok_iff {first : Except ε Unit} {next : Except ε β} {result : β} :
    (first >>= fun _ => next) = .ok result ↔ first = .ok () ∧ next = .ok result := by
  rw [bind_eq_ok_iff]
  constructor
  · rintro ⟨⟨⟩, passed, finished⟩
    exact ⟨passed, finished⟩
  · rintro ⟨passed, finished⟩
    exact ⟨(), passed, finished⟩

theorem sequenceOption_eq_ok_iff {outcome : Option (Except ε α)} {result : Option α} :
    sequenceOption outcome = .ok result ↔ outcome = result.map .ok := by
  cases outcome with
  | none => cases result <;> simp [sequenceOption]
  | some inner =>
      cases inner with
      | error failure => cases result <;> simp [sequenceOption]
      | ok value => cases result <;> simp [sequenceOption]

theorem checkAll_eq_ok_iff {check : α → Except ε Unit} {items : List α} {result : Unit} :
    checkAll check items = .ok result ↔ ∀ item ∈ items, check item = .ok () := by
  induction items with
  | nil => simp [checkAll]
  | cons item rest ih =>
      unfold checkAll
      cases checked : check item with
      | error failure => simp [checked]
      | ok value => simp [checked, ih]

theorem mapAll_eq_ok_iff {action : α → Except ε β} {items : List α} {images : List β} :
    mapAll action items = .ok images ↔
      List.Forall₂ (fun item image => action item = .ok image) items images := by
  induction items generalizing images with
  | nil => simp [mapAll, eq_comm]
  | cons item rest ih =>
      unfold mapAll
      cases acted : action item with
      | error failure => simp [List.forall₂_cons_left_iff, acted]
      | ok image =>
          cases mapped : mapAll action rest with
          | error failure =>
              simp only [List.forall₂_cons_left_iff, acted, ← ih, mapped, reduceCtorEq, false_and,
                and_false, exists_false]
          | ok tail =>
              simp only [List.forall₂_cons_left_iff, acted, ← ih, mapped, Except.ok.injEq]
              constructor
              · intro same
                exact ⟨image, tail, rfl, rfl, same.symm⟩
              · rintro ⟨_, _, rfl, rfl, rfl⟩
                rfl

/-- A successful map sends every element to some image in the result. -/
theorem mapAll_image {action : α → Except ε β} {items : List α} {images : List β}
    (mapped : mapAll action items = .ok images) {item : α} (member : item ∈ items) :
    ∃ image ∈ images, action item = .ok image := by
  induction items generalizing images with
  | nil => cases member
  | cons head rest ih =>
      have both := mapAll_eq_ok_iff.mp mapped
      rw [List.forall₂_cons_left_iff] at both
      obtain ⟨image, tail, acted, others, rfl⟩ := both
      rcases List.mem_cons.mp member with rfl | later
      · exact ⟨image, List.mem_cons_self .., acted⟩
      · obtain ⟨found, inTail, actedFound⟩ := ih (mapAll_eq_ok_iff.mpr others) later
        exact ⟨found, List.mem_cons_of_mem _ inTail, actedFound⟩

/-- Every result of a successful map is the image of some element. -/
theorem mapAll_preimage {action : α → Except ε β} {items : List α} {images : List β}
    (mapped : mapAll action items = .ok images) {image : β} (member : image ∈ images) :
    ∃ item ∈ items, action item = .ok image := by
  induction items generalizing images with
  | nil =>
      cases mapped
      cases member
  | cons head rest ih =>
      have both := mapAll_eq_ok_iff.mp mapped
      rw [List.forall₂_cons_left_iff] at both
      obtain ⟨headImage, tail, acted, others, rfl⟩ := both
      rcases List.mem_cons.mp member with rfl | later
      · exact ⟨head, List.mem_cons_self .., acted⟩
      · obtain ⟨found, inRest, actedFound⟩ := ih (mapAll_eq_ok_iff.mpr others) later
        exact ⟨found, List.mem_cons_of_mem _ inRest, actedFound⟩

/-- A scan whose steps make it loud on the loud items alone stays quiet exactly if it was
quiet and no item is loud. -/
theorem foldlM_quiet {σ : Type} {step : σ → α → Except ε σ} {kept quiet : σ → Prop}
    {loud : α → Prop}
    (each : ∀ state item next, kept state → step state item = .ok next →
      kept next ∧ (quiet next ↔ quiet state ∧ ¬ loud item))
    {items : List α} {state final : σ} (held : kept state)
    (done : items.foldlM step state = .ok final) :
    kept final ∧ (quiet final ↔ quiet state ∧ ∀ item ∈ items, ¬ loud item) := by
  induction items generalizing state with
  | nil =>
      cases done
      exact ⟨held, by simp⟩
  | cons item rest ih =>
      rw [List.foldlM_cons, bind_eq_ok_iff] at done
      obtain ⟨next, stepped, done⟩ := done
      obtain ⟨nextHeld, nextQuiet⟩ := each state item next held stepped
      obtain ⟨finalHeld, finalQuiet⟩ := ih nextHeld done
      refine ⟨finalHeld, ?_⟩
      rw [finalQuiet, nextQuiet, List.forall_mem_cons, and_assoc]

end Foundation
