import Mathlib.Data.List.Basic

/-!
# One bracket at a time

A log opens and closes brackets that never overlap. `Bracketed` reads such a
log from the key that is open before it to the key that is open after it.
-/

namespace Brackets

universe uKey uEvent

/-- What an event does to the one bracket there is. -/
inductive Move (Key : Type uKey) where
  | opens (key : Key)
  | closes (key : Key)
  | passes

variable {Key : Type uKey} {Event : Type uEvent} {move : Event → Move Key}

/-- Brackets open only when none is open, and close with the key they opened with. -/
inductive Bracketed (move : Event → Move Key) : Option Key → List Event → Option Key → Prop where
  | nil (held : Option Key) : Bracketed move held [] held
  | passes {event : Event} {rest : List Event} {held last : Option Key}
      (hmove : move event = .passes) (hrest : Bracketed move held rest last) :
      Bracketed move held (event :: rest) last
  | opens {event : Event} {rest : List Event} {key : Key} {last : Option Key}
      (hmove : move event = .opens key) (hrest : Bracketed move (some key) rest last) :
      Bracketed move none (event :: rest) last
  | closes {event : Event} {rest : List Event} {key : Key} {last : Option Key}
      (hmove : move event = .closes key) (hrest : Bracketed move none rest last) :
      Bracketed move (some key) (event :: rest) last

namespace Bracketed

variable {held middle last : Option Key} {early late : List Event}

/-- Two logs that meet at the same key make one. -/
theorem append (hearly : Bracketed move held early middle)
    (hlate : Bracketed move middle late last) : Bracketed move held (early ++ late) last := by
  induction hearly with
  | nil => exact hlate
  | passes hmove _ ih => exact .passes hmove (ih hlate)
  | opens hmove _ ih => exact .opens hmove (ih hlate)
  | closes hmove _ ih => exact .closes hmove (ih hlate)

/-- Events that neither open nor close leave the bracket as it is. -/
theorem of_passes {events : List Event} (hpasses : ∀ event ∈ events, move event = .passes)
    (held : Option Key) : Bracketed move held events held := by
  induction events with
  | nil => exact .nil held
  | cons event rest ih =>
      have hrest := ih fun later hlater => hpasses later (List.mem_cons_of_mem event hlater)
      exact .passes (hpasses event List.mem_cons_self) hrest

/-- A key opens as often as it closes, up to the bracket open at either end. -/
theorem balance [DecidableEq Key] {events : List Event} (h : Bracketed move held events last)
    (key : Key) (opening closing : Event → Bool)
    (hopening : ∀ event, opening event = true ↔ move event = .opens key)
    (hclosing : ∀ event, closing event = true ↔ move event = .closes key) :
    events.countP opening + (if held = some key then 1 else 0) =
      events.countP closing + (if last = some key then 1 else 0) := by
  induction h with
  | nil => rfl
  | @passes event rest held last hmove hrest ih =>
      have hopen : opening event = false := by
        rw [← Bool.not_eq_true, hopening, hmove]
        exact nofun
      have hclose : closing event = false := by
        rw [← Bool.not_eq_true, hclosing, hmove]
        exact nofun
      simp only [List.countP_cons, hopen, hclose]
      exact ih
  | @opens event rest other last hmove hrest ih =>
      have hclose : closing event = false := by
        rw [← Bool.not_eq_true, hclosing, hmove]
        exact nofun
      have hopen : opening event = true ↔ some other = some key := by
        rw [hopening, hmove, Move.opens.injEq, Option.some.injEq]
      simp only [List.countP_cons, hclose, hopen]
      simp only [reduceCtorEq, if_false, Bool.false_eq_true]
      omega
  | @closes event rest other last hmove hrest ih =>
      have hopen : opening event = false := by
        rw [← Bool.not_eq_true, hopening, hmove]
        exact nofun
      have hclose : closing event = true ↔ some other = some key := by
        rw [hclosing, hmove, Move.closes.injEq, Option.some.injEq]
      simp only [List.countP_cons, hclose, hopen]
      simp only [reduceCtorEq, if_false, Bool.false_eq_true] at ih ⊢
      omega

end Bracketed

end Brackets
