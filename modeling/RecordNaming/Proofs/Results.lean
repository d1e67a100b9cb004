/-
  RecordNaming.Proofs.Results — results that come of several, and values that may be absent.

  A computation in steps succeeds if each step does (`bind_eq_ok_iff`, `map_eq_ok_iff`). Two values
  that may be absent are related (`Option.Rel`) if both are absent or both are there and related: such
  a relation is total where each given value has a partner (`exists_rel_iff`) and has one partner where
  each value has one (`rel_unique`).
-/

namespace RecordNaming

/-! ## Results -/

section

variable {ε α β : Type}

theorem bind_eq_ok_iff {x : Except ε α} {f : α → Except ε β} {b : β} :
    x >>= f = .ok b ↔ ∃ a, x = .ok a ∧ f a = .ok b := by
  cases x <;> simp [bind, Except.bind]

theorem map_eq_ok_iff {x : Except ε α} {f : α → β} {b : β} :
    x.map f = .ok b ↔ ∃ a, x = .ok a ∧ f a = b := by
  cases x <;> simp [Except.map]

theorem map_eq_error_iff {x : Except ε α} {f : α → β} {e : ε} : x.map f = .error e ↔ x = .error e := by
  cases x <;> simp [Except.map]

/-- Two results come to the same if both fail alike or both succeed with values that come to the same. -/
theorem map_eq_map_iff {γ : Type} {x : Except ε α} {y : Except ε β} {f : α → γ} {g : β → γ} :
    x.map f = y.map g ↔
      (∃ e, x = .error e ∧ y = .error e) ∨ ∃ a b, x = .ok a ∧ y = .ok b ∧ f a = g b := by
  cases x <;> cases y <;> simp [Except.map, eq_comm]

theorem exists_map_eq_ok_iff {x : Except ε α} {f : α → β} :
    (∃ b, x.map f = .ok b) ↔ ∃ a, x = .ok a := by
  cases x <;> simp [Except.map]

theorem toOption_eq_some_iff {x : Except ε α} {a : α} : x.toOption = some a ↔ x = .ok a := by
  cases x <;> simp [Except.toOption]

end

/-! ## Values that may be absent -/

section

variable {α β : Type} {R S : α → β → Prop} {given : Option α}

/-- What is absent is always there, what is given has to have a meaning. -/
theorem exists_rel_iff : (∃ v, Option.Rel R given v) ↔ ∀ a, given = some a → ∃ b, R a b := by
  constructor
  · rintro ⟨v, hv⟩ a rfl
    cases hv with
    | some h => exact ⟨_, h⟩
  · intro h
    cases given with
    | none => exact ⟨none, .none⟩
    | some a =>
      obtain ⟨b, hb⟩ := h a rfl
      exact ⟨some b, .some hb⟩

theorem rel_some_iff {b : β} : Option.Rel R given (some b) ↔ ∃ a, given = some a ∧ R a b := by
  cases given <;> simp

theorem rel_unique (unique : ∀ {a b b'}, R a b → R a b' → b = b') {v v' : Option β}
    (h : Option.Rel R given v) (h' : Option.Rel R given v') : v = v' := by
  cases h with
  | none =>
    cases h'
    rfl
  | some h =>
    cases h' with
    | some h' => rw [unique h h']

theorem exists_given_iff {v : Option β} (h : Option.Rel R given v) : (∃ a, given = some a) ↔ v.isSome := by
  cases h <;> simp

theorem rel_congr {v : Option β} (h : ∀ a, given = some a → ∀ b, R a b ↔ S a b) :
    Option.Rel R given v ↔ Option.Rel S given v := by
  cases given <;> cases v <;> simp [h]

end

end RecordNaming
