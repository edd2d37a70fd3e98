import Mathlib.Data.List.Basic
import Mathlib.Data.List.Nodup

/-!
# Coalescing a sequence

An item may be dropped when the item right after it replaces it. What is kept is
a subsequence with the same last item, and for every property that a replacement
inherits, the same last item with that property.
-/

universe u

/-- The second sequence is the first one less items that the next one replaces. -/
inductive Coalesced {Item : Type u} (replaces : Item → Item → Prop) :
    List Item → List Item → Prop where
  | nil : Coalesced replaces [] []
  | keep (item : Item) {rest kept : List Item} (h : Coalesced replaces rest kept) :
      Coalesced replaces (item :: rest) (item :: kept)
  | drop {old new : Item} {rest kept : List Item} (hreplaces : replaces old new)
      (h : Coalesced replaces (new :: rest) kept) : Coalesced replaces (old :: new :: rest) kept

namespace Coalesced

variable {Item : Type u} {replaces : Item → Item → Prop} {accepted kept : List Item}

/-- What is kept was accepted, in the order of acceptance. -/
theorem sublist (h : Coalesced replaces accepted kept) : kept.Sublist accepted := by
  induction h with
  | nil => exact List.Sublist.refl _
  | keep item h ih => exact ih.cons_cons item
  | drop hreplaces h ih => exact ih.cons _

/-- Something is kept of a sequence that is not empty. -/
theorem kept_ne_nil (h : Coalesced replaces accepted kept) (hsome : accepted ≠ []) :
    kept ≠ [] := by
  induction h with
  | nil => exact hsome
  | keep item h ih => exact List.cons_ne_nil _ _
  | drop hreplaces h ih => exact ih (List.cons_ne_nil _ _)

/-- One more item is kept. -/
theorem snoc (h : Coalesced replaces accepted kept) (item : Item) :
    Coalesced replaces (accepted ++ [item]) (kept ++ [item]) := by
  induction h with
  | nil => exact .keep item .nil
  | keep other h ih => exact .keep other ih
  | drop hreplaces h ih => exact .drop hreplaces ih

/-- The last item is never dropped. -/
theorem last (h : Coalesced replaces accepted kept) : kept.getLast? = accepted.getLast? := by
  induction h with
  | nil => rfl
  | @keep item rest kept h ih =>
      cases hrest : rest with
      | nil =>
          rw [hrest] at h
          have hkept : kept = [] := List.eq_nil_of_sublist_nil h.sublist
          rw [hkept]
      | cons next rest =>
          rw [List.getLast?_cons, List.getLast?_cons, ih, hrest]
  | drop hreplaces h ih => rw [ih, List.getLast?_cons_cons]

/-- The last item is replaced by one more. -/
theorem replace_last {front back : List Item} {old new : Item}
    (h : Coalesced replaces (front ++ [old]) (back ++ [old])) (hreplaces : replaces old new) :
    Coalesced replaces (front ++ [old] ++ [new]) (back ++ [new]) := by
  generalize haccepted : front ++ [old] = accepted at h ⊢
  generalize hkept : back ++ [old] = kept at h
  induction h generalizing front back with
  | nil => exact absurd haccepted (List.append_ne_nil_of_right_ne_nil _ (List.cons_ne_nil _ _))
  | @keep item rest kept h ih =>
      cases front with
      | nil =>
          obtain ⟨rfl, rfl⟩ := List.cons.inj haccepted
          have hnone : kept = [] := List.eq_nil_of_sublist_nil h.sublist
          have hback : back = [] := by
            have hlength := congrArg List.length hkept
            rw [hnone, List.length_append, List.length_singleton] at hlength
            exact List.eq_nil_of_length_eq_zero (Nat.succ.inj hlength)
          rw [hback]
          exact .drop hreplaces (.keep new .nil)
      | cons first front =>
          obtain ⟨rfl, hrest⟩ := List.cons.inj haccepted
          cases back with
          | nil =>
              obtain ⟨-, hnone⟩ := List.cons.inj hkept
              have hsome := h.kept_ne_nil (by simp [← hrest])
              exact absurd hnone.symm hsome
          | cons other back =>
              obtain ⟨rfl, hback⟩ := List.cons.inj hkept
              exact .keep other (ih hrest hback)
  | @drop gone next rest kept hgone h ih =>
      cases front with
      | nil =>
          obtain ⟨-, hnone⟩ := List.cons.inj haccepted
          exact absurd hnone.symm (List.cons_ne_nil _ _)
      | cons first front =>
          obtain ⟨rfl, hrest⟩ := List.cons.inj haccepted
          exact .drop hgone (ih hrest hkept)

/-- What a replacement inherits, the last item that is kept has as before. -/
theorem last_of {property : Item → Bool} (h : Coalesced replaces accepted kept)
    (hinherits : ∀ old new, replaces old new → property old = true → property new = true) :
    (kept.filter property).getLast? = (accepted.filter property).getLast? := by
  induction h with
  | nil => rfl
  | @keep item rest kept h ih =>
      by_cases hitem : property item = true
      · rw [List.filter_cons_of_pos hitem, List.filter_cons_of_pos hitem, List.getLast?_cons,
          List.getLast?_cons, ih]
      · rw [List.filter_cons_of_neg hitem, List.filter_cons_of_neg hitem, ih]
  | @drop old new rest kept hreplaces h ih =>
      by_cases hold : property old = true
      · have hnew := hinherits old new hreplaces hold
        rw [ih, List.filter_cons_of_pos hnew, List.filter_cons_of_pos hold,
          List.filter_cons_of_pos hnew, List.getLast?_cons_cons]
      · rw [ih, List.filter_cons_of_neg hold]

/-- Items that nothing replaces are all kept. -/
theorem filter_eq {property : Item → Bool} (h : Coalesced replaces accepted kept)
    (hstays : ∀ old new, replaces old new → property old = false) :
    kept.filter property = accepted.filter property := by
  induction h with
  | nil => rfl
  | keep item h ih => rw [List.filter_cons, List.filter_cons, ih]
  | @drop old new rest kept hreplaces h ih =>
      rw [ih, List.filter_cons_of_neg (a := old) (by simp [hstays old new hreplaces])]

/-- Before an item that is kept and does not have an inherited property, the last
item with that property is as before. -/
theorem last_before {property : Item → Bool} {early late before after : List Item} {item : Item}
    (h : Coalesced replaces (early ++ item :: late) (before ++ item :: after))
    (hnodup : (early ++ item :: late).Nodup)
    (hinherits : ∀ old new, replaces old new → property old = true → property new = true)
    (hitem : property item = false) :
    (before.filter property).getLast? = (early.filter property).getLast? := by
  generalize haccepted : early ++ item :: late = accepted at h hnodup
  generalize hkept : before ++ item :: after = kept at h
  induction h generalizing early before with
  | nil => exact absurd haccepted (List.append_ne_nil_of_right_ne_nil _ (List.cons_ne_nil _ _))
  | @keep first rest kept h ih =>
      rw [List.nodup_cons] at hnodup
      cases early with
      | nil =>
          obtain ⟨rfl, rfl⟩ := List.cons.inj haccepted
          cases before with
          | nil => rfl
          | cons other before =>
              obtain ⟨rfl, rfl⟩ := List.cons.inj hkept
              exact absurd (h.sublist.subset (by simp)) hnodup.1
      | cons other early =>
          obtain ⟨rfl, rfl⟩ := List.cons.inj haccepted
          cases before with
          | nil =>
              obtain ⟨rfl, -⟩ := List.cons.inj hkept
              exact absurd (by simp) hnodup.1
          | cons second before =>
              obtain ⟨rfl, rfl⟩ := List.cons.inj hkept
              have hlast := ih rfl hnodup.2 rfl
              by_cases hsecond : property second = true
              · rw [List.filter_cons_of_pos hsecond, List.filter_cons_of_pos hsecond,
                  List.getLast?_cons, List.getLast?_cons, hlast]
              · rw [List.filter_cons_of_neg hsecond, List.filter_cons_of_neg hsecond, hlast]
  | @drop old new rest kept hreplaces h ih =>
      rw [List.nodup_cons] at hnodup
      cases early with
      | nil =>
          obtain ⟨rfl, -⟩ := List.cons.inj haccepted
          subst hkept
          exact absurd (h.sublist.subset (by simp)) hnodup.1
      | cons other early =>
          obtain ⟨rfl, hrest⟩ := List.cons.inj haccepted
          rw [ih hrest hnodup.2 hkept]
          by_cases hother : property other = true
          · have hnew := hinherits other new hreplaces hother
            cases early with
            | nil =>
                obtain ⟨rfl, -⟩ := List.cons.inj hrest
                exact absurd (hitem.symm.trans hnew) (by simp)
            | cons next early =>
                obtain ⟨rfl, -⟩ := List.cons.inj hrest
                rw [List.filter_cons_of_pos hother, List.filter_cons_of_pos hnew,
                  List.getLast?_cons_cons]
          · rw [List.filter_cons_of_neg hother]

end Coalesced
