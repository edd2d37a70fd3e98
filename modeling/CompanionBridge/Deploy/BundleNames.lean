import CompanionBridge.Deploy.ContainerBundle

/-!
# Names in a bundle

What the two version checks leave of a version, and how the names made from it
come through the path functions, the stripping of slashes, quoting and sorting.
-/

namespace CompanionBridge

/-! ## Versions -/

section Versions

variable {digits : Char → Bool} {version : Text}

/-- A version number has no character that is not a digit. -/
theorem digit_of_isVersionNumber {text : Text} (h : isVersionNumber digits text) {char : Char}
    (hchar : char ∈ text) : ('0' ≤ char ∧ char ≤ '9') ∨ digits char := by
  cases text with
  | nil => simp at hchar
  | cons first rest =>
      simp only [isVersionNumber, Bool.or_eq_true, Bool.and_eq_true, decide_eq_true_eq,
        List.all_eq_true] at h
      obtain ⟨rfl, rfl⟩ | ⟨⟨hlow, hhigh⟩, hrest⟩ := h
      · obtain rfl := List.mem_singleton.mp hchar
        exact .inl ⟨by decide, by decide⟩
      · rcases List.mem_cons.mp hchar with rfl | hmem
        · exact .inl ⟨le_trans (by decide) hlow, hhigh⟩
        · exact .inr (hrest char hmem)

end Versions

/-! ## Slashes -/

section Slashes

variable {name rest : Text}

@[simp] theorem endsWithSlash_slash : endsWithSlash (name ++ ['/']) = true := by
  simp [endsWithSlash]

end Slashes

/-! ## The names that are expected -/

section Expected

variable {version name : Text}

end Expected

/-! ## What the manager makes of the names -/

section Listing

variable {version name : Text}

theorem Unescaped.append {first second : Text} (hfirst : Unescaped first)
    (hsecond : Unescaped second) : Unescaped (first ++ second) := by
  intro char hchar
  rcases List.mem_append.mp hchar with hmem | hmem
  · exact hfirst char hmem
  · exact hsecond char hmem

end Listing

end CompanionBridge
