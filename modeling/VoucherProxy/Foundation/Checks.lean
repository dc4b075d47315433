import Mathlib.Data.List.Basic

namespace VoucherProxy

/-! Chains of checks, each of which may end the whole with an error. -/

variable {ε α : Type}

/-- A check is passed when it does not apply, and then the rest decides. -/
theorem check_eq_ok {applies : Prop} [Decidable applies] {why : ε} {rest : PUnit → Except ε α}
    {value : α} :
    (if applies then (do let checked ← throw why; rest checked) else rest ⟨⟩) = .ok value ↔
      ¬applies ∧ rest ⟨⟩ = .ok value := by
  by_cases holds : applies
  · simp [holds, throw, throwThe, MonadExceptOf.throw, Bind.bind, Except.bind]
  · simp [holds]

theorem lastCheck_eq_ok {applies : Prop} [Decidable applies] {why : ε} :
    (if applies then throw why else pure () : Except ε Unit) = .ok () ↔ ¬applies := by
  by_cases holds : applies
  · simp [holds, throw, throwThe, MonadExceptOf.throw]
  · simp [holds, Pure.pure, Except.pure]

theorem bind_eq_ok {β : Type} {first : Except ε α} {rest : α → Except ε β} {value : β} :
    (first >>= rest) = .ok value ↔ ∃ middle, first = .ok middle ∧ rest middle = .ok value := by
  cases first <;> simp [Bind.bind, Except.bind]

/-- Every member of a list passes a check. -/
theorem forM_eq_ok {check : α → Except ε Unit} {members : List α} :
    members.forM check = .ok () ↔ ∀ member ∈ members, check member = .ok () := by
  induction members with
  | nil => simp [Pure.pure, Except.pure]
  | cons first rest induction =>
      change (check first >>= fun _ => rest.forM check) = _ ↔ _
      rw [bind_eq_ok, List.forall_mem_cons, ← induction]
      constructor
      · rintro ⟨⟨⟩, passed, others⟩
        exact ⟨passed, others⟩
      · rintro ⟨passed, others⟩
        exact ⟨⟨⟩, passed, others⟩

/-- A list is transformed when each member is. -/
theorem exists_mapM {β : Type} {f : α → Except ε β} {members : List α}
    (each : ∀ member ∈ members, ∃ value, f member = .ok value) :
    ∃ values, members.mapM f = .ok values ∧
      ∀ value, value ∈ values ↔ ∃ member ∈ members, f member = .ok value := by
  induction members with
  | nil => exact ⟨[], rfl, fun value => by simp⟩
  | cons first rest induction =>
      rcases each first (by simp) with ⟨value, transformed⟩
      rcases induction fun member present => each member (by simp [present]) with
        ⟨values, others, found⟩
      refine ⟨value :: values, ?_, fun other => ?_⟩
      · rw [List.mapM_cons, transformed, others]
        rfl
      · rw [List.mem_cons, List.exists_mem_cons_iff, found, transformed, Except.ok.injEq]
        exact or_congr eq_comm Iff.rfl

/-! ## How a chain fails -/

/-- Whatever the result fails with is of this kind. -/
def FailsWith (kind : ε → Prop) (result : Except ε α) : Prop :=
  ∀ why, result = .error why → kind why

namespace FailsWith

variable {kind : ε → Prop}

theorem ok (value : α) : FailsWith kind (.ok value : Except ε α) :=
  fun _ impossible => by cases impossible

theorem error {why : ε} (isKind : kind why) : FailsWith kind (.error why : Except ε α) := by
  intro other same
  rw [← Except.error.inj same]
  exact isKind

theorem bind {β : Type} {first : Except ε α} {rest : α → Except ε β}
    (fails : FailsWith kind first) (later : ∀ value, FailsWith kind (rest value)) :
    FailsWith kind (first >>= rest) := by
  cases first with
  | error why => exact error (fails why rfl)
  | ok value => exact later value

theorem check {applies : Prop} [Decidable applies] {why : ε} {rest : PUnit → Except ε α}
    (isKind : kind why) (later : FailsWith kind (rest ⟨⟩)) :
    FailsWith kind (if applies then (do let checked ← throw why; rest checked) else rest ⟨⟩) := by
  by_cases holds : applies
  · rw [if_pos holds]
    exact error isKind
  · rw [if_neg holds]
    exact later

theorem lastCheck {applies : Prop} [Decidable applies] {why : ε} (isKind : kind why) :
    FailsWith kind (if applies then throw why else pure () : Except ε Unit) := by
  by_cases holds : applies
  · rw [if_pos holds]
    exact error isKind
  · rw [if_neg holds]
    exact ok ()

end FailsWith

end VoucherProxy
