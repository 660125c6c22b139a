import Mathlib

/-! # Hash chains

A list whose items carry a position, a hash and a link: each item has the position
after the one before and links to its hash. Where the hash of an item determines its
position, its link and its content, the last hash and the first position determine the
contents of the whole list.
-/

namespace Foundation

variable {α β η : Type}

/-- The place of an item in a chain. -/
structure ChainPlace (α η : Type) where
  position : α → Nat
  link : α → η
  hash : α → η

namespace ChainPlace

variable (place : ChainPlace α η)

/-- An item may follow another. -/
def Follows (before after : α) : Prop :=
  place.position after = place.position before + 1 ∧ place.link after = place.hash before

/-- Each item follows the one before. -/
def Linked (items : List α) : Prop :=
  items.IsChain place.Follows

variable {place}

theorem Linked.pairwise {items : List α} (linked : place.Linked items) :
    items.Pairwise fun before after => place.position before < place.position after := by
  rw [← List.isChain_iff_pairwise]
  exact linked.imp fun before after follows => by
    rw [follows.1]
    exact Nat.lt_succ_self _

theorem Linked.init {items : List α} {last : α} (linked : place.Linked (items ++ [last])) :
    place.Linked items :=
  List.IsChain.left_of_append linked

/-- The last item links to the hash of what comes before it. -/
theorem Linked.link_last {items : List α} {before last : α}
    (linked : place.Linked (items ++ [before] ++ [last])) : place.Follows before last := by
  rw [List.append_assoc] at linked
  exact (List.isChain_cons_cons.mp (List.IsChain.right_of_append linked)).1

/-- A chain of more than one item starts before its last position. -/
theorem Linked.head_lt {first last : α} {items : List α}
    (linked : place.Linked (first :: items ++ [last])) :
    place.position first < place.position last :=
  (List.pairwise_cons.mp linked.pairwise).1 last (List.mem_append_right _ (List.mem_singleton_self _))

/-- The last hash and the first position determine the contents. -/
theorem contents_eq_of_last {content : α → β} {first second : List α}
    (commits : ∀ one ∈ first, ∀ other ∈ second, place.hash one = place.hash other →
      place.position one = place.position other ∧ place.link one = place.link other ∧
        content one = content other)
    (firstLinked : place.Linked first) (secondLinked : place.Linked second)
    (start : first.head?.map place.position = second.head?.map place.position)
    (finish : first.getLast?.map place.hash = second.getLast?.map place.hash) :
    first.map content = second.map content := by
  induction first using List.reverseRecOn generalizing second with
  | nil =>
      cases second with
      | nil => rfl
      | cons item rest => cases start
  | append_singleton firstInit one ih =>
      rcases List.eq_nil_or_concat' second with rfl | ⟨secondInit, other, rfl⟩
      · simp at finish
      rw [List.getLast?_concat, List.getLast?_concat, Option.map_some, Option.map_some,
        Option.some.injEq] at finish
      obtain ⟨position, link, contents⟩ := commits one (by simp) other (by simp) finish
      rw [List.map_append, List.map_append, List.map_singleton, List.map_singleton, contents]
      congr 1
      rcases List.eq_nil_or_concat' firstInit with rfl | ⟨firstFront, oneBefore, rfl⟩
      · -- the longer chain would start before the position where the shorter one does
        cases secondInit with
        | nil => rfl
        | cons head rest =>
            have later := secondLinked.head_lt
            have same : place.position one = place.position head := by simpa using start
            omega
      rcases List.eq_nil_or_concat' secondInit with rfl | ⟨secondFront, otherBefore, rfl⟩
      · cases firstFront with
        | nil =>
            have later : place.position oneBefore < place.position one :=
              @Linked.head_lt α η place oneBefore one [] firstLinked
            have same : place.position oneBefore = place.position other := by simpa using start
            omega
        | cons head rest =>
            have later := firstLinked.head_lt
            have same : place.position head = place.position other := by simpa using start
            omega
      have oneLinks := firstLinked.link_last
      have otherLinks := secondLinked.link_last
      have hashes : place.hash oneBefore = place.hash otherBefore :=
        oneLinks.2.symm.trans (link.trans otherLinks.2)
      have front : ∀ (items : List α) (before last : α),
          (items ++ [before] ++ [last]).head? = (items ++ [before]).head? := by
        intro items before last
        cases items with
        | nil => rfl
        | cons head rest => rfl
      rw [front, front] at start
      apply ih _ firstLinked.init secondLinked.init start
      · rw [List.getLast?_concat, List.getLast?_concat, Option.map_some, Option.map_some, hashes]
      · exact fun item inside match_ within =>
          commits item (List.mem_append_left _ inside) match_ (List.mem_append_left _ within)

end ChainPlace

end Foundation
