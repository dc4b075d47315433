import Mathlib.Data.String.Basic

namespace VoucherProxy

/-! Maps kept as lists of members in key order. -/

variable {κ α : Type} [LinearOrder κ]

/-- Insert into a list kept in key order; a present key gets the new value. -/
def insertMember (key : κ) (value : α) : List (κ × α) → List (κ × α)
  | [] => [(key, value)]
  | (present, old) :: rest =>
      if key = present then (key, value) :: rest
      else if key < present then (key, value) :: (present, old) :: rest
      else (present, old) :: insertMember key value rest

theorem lookup_cons_ite [BEq κ] [LawfulBEq κ] (present other : κ) (value : α)
    (rest : List (κ × α)) :
    ((present, value) :: rest).lookup other =
      if other = present then some value else rest.lookup other := by
  by_cases same : other = present
  · simp [same]
  · have distinct : (other == present) = false := by simpa using same
    simp [List.lookup_cons, same, distinct]

theorem lookup_insertMember [BEq κ] [LawfulBEq κ] (key other : κ) (value : α)
    (members : List (κ × α)) :
    (insertMember key value members).lookup other =
      if other = key then some value else members.lookup other := by
  induction members with
  | nil => simp [insertMember, lookup_cons_ite]
  | cons head rest induction =>
      rcases head with ⟨present, old⟩
      by_cases replaced : key = present
      · subst replaced
        by_cases same : other = key <;> simp [insertMember, lookup_cons_ite, same]
      · by_cases before : key < present
        · simp [insertMember, lookup_cons_ite, replaced, before]
        · simp only [insertMember, replaced, before, if_false, lookup_cons_ite, induction]
          by_cases found : other = present
          · have notKey : ¬ other = key := fun same => replaced (same.symm.trans found)
            simp [found, Ne.symm replaced]
          · simp [found]

/-- What is found does not depend on how keys are compared. -/
theorem lookup_eq_lookup {first second : BEq κ} [@LawfulBEq κ first] [@LawfulBEq κ second]
    (key : κ) (members : List (κ × α)) :
    @List.lookup κ α first key members = @List.lookup κ α second key members := by
  induction members with
  | nil => rfl
  | cons head rest induction =>
      rcases head with ⟨present, value⟩
      rw [@lookup_cons_ite κ α _ first _, @lookup_cons_ite κ α _ second _, induction]

theorem mem_keys_insertMember {key other : κ} {value : α} {members : List (κ × α)}
    (member : other ∈ (insertMember key value members).map Prod.fst) :
    other = key ∨ other ∈ members.map Prod.fst := by
  induction members with
  | nil => simpa [insertMember] using member
  | cons head rest induction =>
      rcases head with ⟨present, old⟩
      unfold insertMember at member
      split at member
      · rcases List.mem_cons.mp member with same | later
        · exact .inl same
        · exact .inr (List.mem_cons_of_mem _ later)
      · split at member
        · rcases List.mem_cons.mp member with same | later
          · exact .inl same
          · exact .inr later
        · rcases List.mem_cons.mp member with same | later
          · exact .inr (by simp [same])
          · exact (induction later).imp_right (List.mem_cons_of_mem _)

/-- Inserting keeps the keys in order. -/
theorem pairwise_keys_insertMember {key : κ} {value : α} {members : List (κ × α)}
    (sorted : (members.map Prod.fst).Pairwise (· < ·)) :
    ((insertMember key value members).map Prod.fst).Pairwise (· < ·) := by
  induction members with
  | nil => exact List.pairwise_singleton _ _
  | cons head rest induction =>
      rcases head with ⟨present, old⟩
      rw [List.map_cons, List.pairwise_cons] at sorted
      unfold insertMember
      split
      · next same =>
          rw [List.map_cons, List.pairwise_cons, same]
          exact sorted
      · next different =>
          split
          · next before =>
              rw [List.map_cons, List.map_cons, List.pairwise_cons, List.pairwise_cons]
              refine ⟨?_, sorted⟩
              intro later member
              rcases List.mem_cons.mp member with rfl | member
              · exact before
              · exact before.trans (sorted.1 later member)
          · next notBefore =>
              rw [List.map_cons, List.pairwise_cons]
              refine ⟨?_, induction sorted.2⟩
              intro later member
              rcases mem_keys_insertMember member with rfl | member
              · exact lt_of_le_of_ne (not_lt.mp notBefore) (Ne.symm different)
              · exact sorted.1 later member

theorem lookup_eq_none [BEq κ] [LawfulBEq κ] {key : κ} {members : List (κ × α)}
    (after : ∀ other ∈ members.map Prod.fst, key < other) : members.lookup key = none := by
  induction members with
  | nil => rfl
  | cons head rest induction =>
      rcases head with ⟨present, value⟩
      have before : key < present := after present (by simp)
      rw [lookup_cons_ite, if_neg before.ne]
      exact induction fun other member => after other (by simp [member])

/-- In a map in key order an entry is what its key finds. -/
theorem mem_iff_lookup [BEq κ] [LawfulBEq κ] {members : List (κ × α)}
    (sorted : (members.map Prod.fst).Pairwise (· < ·)) {key : κ} {value : α} :
    (key, value) ∈ members ↔ members.lookup key = some value := by
  induction members with
  | nil => exact iff_of_false List.not_mem_nil (by simp)
  | cons head rest induction =>
      rcases head with ⟨present, held⟩
      rw [List.map_cons, List.pairwise_cons] at sorted
      rw [lookup_cons_ite, List.mem_cons, Prod.mk.injEq, induction sorted.2]
      by_cases own : key = present
      · subst own
        rw [if_pos rfl, lookup_eq_none sorted.1, Option.some.injEq]
        simp [eq_comm]
      · rw [if_neg own]
        simp [own]

/-- Maps in key order are the same when every key finds the same. -/
theorem eq_of_lookup [BEq κ] [LawfulBEq κ] {left right : List (κ × α)}
    (leftSorted : (left.map Prod.fst).Pairwise (· < ·))
    (rightSorted : (right.map Prod.fst).Pairwise (· < ·))
    (same : ∀ key, left.lookup key = right.lookup key) : left = right := by
  induction left generalizing right with
  | nil =>
      cases right with
      | nil => rfl
      | cons head rest =>
          have found := same head.1
          rw [lookup_cons_ite, if_pos rfl] at found
          cases found
  | cons head rest induction =>
      cases right with
      | nil =>
          have found := same head.1
          rw [lookup_cons_ite, if_pos rfl] at found
          cases found
      | cons other others =>
          rcases head with ⟨key, value⟩
          rcases other with ⟨otherKey, otherValue⟩
          rw [List.map_cons, List.pairwise_cons] at leftSorted rightSorted
          have keys : key = otherKey := by
            rcases lt_trichotomy key otherKey with before | equal | after
            · have found := same key
              rw [lookup_cons_ite, if_pos rfl, lookup_cons_ite, if_neg before.ne,
                lookup_eq_none fun later member => before.trans (rightSorted.1 later member)]
                at found
              cases found
            · exact equal
            · have found := same otherKey
              rw [lookup_cons_ite, if_neg after.ne, lookup_cons_ite, if_pos rfl,
                lookup_eq_none fun later member => after.trans (leftSorted.1 later member)]
                at found
              cases found
          subst keys
          have values := same key
          rw [lookup_cons_ite, if_pos rfl, lookup_cons_ite, if_pos rfl, Option.some.injEq] at values
          rw [values, induction leftSorted.2 rightSorted.2]
          intro later
          by_cases own : later = key
          · rw [own, lookup_eq_none leftSorted.1, lookup_eq_none rightSorted.1]
          · have found := same later
            rw [lookup_cons_ite, if_neg own, lookup_cons_ite, if_neg own] at found
            exact found

end VoucherProxy
