import Mathlib.Data.List.Basic

/-!
# Prefix codes

Words of which none starts another are told apart in any concatenation. That a
word is not the start of another one is said of one word at a time, so that it
can be proved along the structure of a word made of words.
-/

namespace PrefixCodes

variable {Symbol : Type}

/-- No other word of the code starts with this one or is a start of it. -/
def SetApart (code : List Symbol → Prop) (word : List Symbol) : Prop :=
  ∀ other rest others, code other → word ++ rest = other ++ others → word = other

/-- A code of which no word starts another. -/
def PrefixCode (code : List Symbol → Prop) : Prop :=
  ∀ word, code word → SetApart code word

section Concatenation

variable {code : List Symbol → Prop} {words others : List (List Symbol)}
  {rest tail : List Symbol}

/-- The first words of a concatenation are its first words in any reading. -/
theorem flatten_aligned (hapart : ∀ word ∈ words, SetApart code word)
    (hothers : ∀ word ∈ others, code word) (hlength : words.length ≤ others.length)
    (heq : words.flatten ++ rest = others.flatten ++ tail) :
    ∃ more, others = words ++ more ∧ rest = more.flatten ++ tail := by
  induction words generalizing others with
  | nil => exact ⟨others, rfl, heq⟩
  | cons word words ih =>
      cases others with
      | nil => simp at hlength
      | cons other others =>
          rw [List.flatten_cons, List.flatten_cons, List.append_assoc, List.append_assoc] at heq
          have hword : word = other :=
            hapart word List.mem_cons_self other _ _ (hothers other List.mem_cons_self) heq
          subst hword
          obtain ⟨more, hmore, hrest⟩ := ih
            (fun word hmem => hapart word (List.mem_cons_of_mem _ hmem))
            (fun word hmem => hothers word (List.mem_cons_of_mem _ hmem))
            (Nat.le_of_succ_le_succ hlength) (List.append_cancel_left heq)
          exact ⟨more, by rw [hmore, List.cons_append], hrest⟩

/-- A word of the code that starts with a symbol of its own, which is not `stop`. -/
def StartsApart (code : List Symbol → Prop) (stop : Symbol) : Prop :=
  ∀ word, code word → ∃ first body, word = first :: body ∧ first ≠ stop

/-- A code word is not taken for the stop symbol. -/
theorem StartsApart.not_stop {stop : Symbol} (hstarts : StartsApart code stop)
    {word : List Symbol} (hword : code word) : word ++ rest ≠ stop :: tail := by
  obtain ⟨first, body, rfl, hfirst⟩ := hstarts word hword
  intro heq
  exact hfirst (List.cons.inj heq).1

/-- A terminated concatenation has one reading. -/
theorem flatten_stopped {stop : Symbol} (hstarts : StartsApart code stop)
    (hapart : ∀ word ∈ words, SetApart code word) (hwords : ∀ word ∈ words, code word)
    (hothers : ∀ word ∈ others, code word)
    (heq : words.flatten ++ stop :: rest = others.flatten ++ stop :: tail) :
    words = others := by
  induction words generalizing others with
  | nil =>
      cases others with
      | nil => rfl
      | cons other others =>
          rw [List.flatten_cons, List.append_assoc] at heq
          exact absurd heq.symm (hstarts.not_stop (hothers other List.mem_cons_self))
  | cons word words ih =>
      cases others with
      | nil =>
          rw [List.flatten_cons, List.append_assoc] at heq
          exact absurd heq (hstarts.not_stop (hwords word List.mem_cons_self))
      | cons other others =>
          rw [List.flatten_cons, List.flatten_cons, List.append_assoc, List.append_assoc] at heq
          have hword : word = other :=
            hapart word List.mem_cons_self other _ _ (hothers other List.mem_cons_self) heq
          subst hword
          rw [ih (fun word hmem => hapart word (List.mem_cons_of_mem _ hmem))
            (fun word hmem => hwords word (List.mem_cons_of_mem _ hmem))
            (fun word hmem => hothers word (List.mem_cons_of_mem _ hmem))
            (List.append_cancel_left heq)]

end Concatenation

end PrefixCodes
