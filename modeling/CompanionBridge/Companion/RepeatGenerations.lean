import CompanionBridge.Companion.RepeaterTables
import CompanionBridge.Library.Machine

/-!
# The generations of the repeater

One slot at most is taken, by one unfinished and uncancelled task, and both
dictionaries name it under its key. Every other generation is over, and over
means that `on_stop` was called for it once.
-/

namespace CompanionBridge

open Brackets

/-- What an event does to the generation that is active. -/
def repeatMove : RepeatEvent → Move Nat
  | .started generation => .opens generation
  | .stopped generation => .closes generation
  | .firstStep _ _ | .sent _ _ => .passes

/-- What has to come before an event: a send comes before its generation is
stopped and within `maxHold` of the first step of its task, which is unique. -/
def RepeatInOrder (maxHold : ℚ) (before : List RepeatEvent) : RepeatEvent → Prop
  | .started _ | .stopped _ => True
  | .firstStep generation _ => ∀ earlier, .firstStep generation earlier ∉ before
  | .sent generation now => .stopped generation ∉ before ∧
      ∃ first, .firstStep generation first ∈ before ∧ now < first + maxHold

/-- A task that will not send any more. -/
def RepeatRun.Over (run : RepeatRun) : Prop :=
  run.point = .finished ∨ run.cancelRequested = true

namespace RepeaterTables

/-- The slot is taken by the task of one generation. -/
structure Holds (repeater : RepeaterTables) (task : Nat) (run : RepeatRun) : Prop where
  slotTask : repeater.tasks = [(run.key, task)]
  slotGeneration : repeater.generations = [(run.key, run.generation)]
  member : repeater.runs[task]? = some run
  lasting : ¬run.Over

/-- The slot is free or taken by one task. -/
def Slot (repeater : RepeaterTables) : Prop :=
  repeater.tasks = [] ∧ repeater.generations = [] ∨ ∃ task run, repeater.Holds task run

def activeGeneration (repeater : RepeaterTables) : Option Nat :=
  (repeater.generations.head?).map Prod.snd

/-- What holds of the repeater between two labels. -/
structure GenerationInvariant (repeater : RepeaterTables) : Prop where
  slot : repeater.Slot
  owned : ∀ (task : Nat) (run : RepeatRun), repeater.runs[task]? = some run → ¬run.Over →
    repeater.Holds task run
  bracketed : Bracketed repeatMove none repeater.log repeater.activeGeneration
  started : ∀ generation, repeater.log.count (.started generation) =
    if 0 < generation ∧ generation ≤ repeater.nextGeneration then 1 else 0
  numbered : ∀ (task : Nat) (run : RepeatRun), repeater.runs[task]? = some run →
    run.generation = task + 1
  created : repeater.runs.length = repeater.nextGeneration
  unstepped : ∀ (task : Nat) (run : RepeatRun), repeater.runs[task]? = some run →
    run.point = .created → ∀ now, .firstStep run.generation now ∉ repeater.log
  stepped : ∀ generation now, .firstStep generation now ∈ repeater.log →
    generation ≤ repeater.nextGeneration
  deadline : ∀ (task : Nat) (run : RepeatRun), repeater.runs[task]? = some run →
    run.point ≠ .created → ¬run.Over → ∃ first, .firstStep run.generation first ∈ repeater.log ∧
      run.deadline = first + repeater.config.maxHold
  inOrder : History.Always (RepeatInOrder repeater.config.maxHold) repeater.log

theorem generationInvariant_initial (config : HoldRepeatConfig) :
    GenerationInvariant { config := config } where
  slot := Or.inl ⟨rfl, rfl⟩
  owned task run hrun := by simp at hrun
  bracketed := .nil none
  started generation := by
    rw [if_neg (by simp; omega)]
    rfl
  numbered task run hrun := by simp at hrun
  created := rfl
  unstepped task run hrun := by simp at hrun
  stepped generation now hmem := absurd hmem List.not_mem_nil
  deadline task run hrun := by simp at hrun
  inOrder := History.always_nil

variable {repeater : RepeaterTables} {task : Nat} {run : RepeatRun}

/-- A generation is stopped once if it was started and is not active, else never. -/
theorem GenerationInvariant.stopped_count (h : repeater.GenerationInvariant) (generation : Nat) :
    repeater.log.count (.stopped generation) +
        (if repeater.activeGeneration = some generation then 1 else 0) =
      if 0 < generation ∧ generation ≤ repeater.nextGeneration then 1 else 0 := by
  have hbalance := h.bracketed.balance generation (· == .started generation)
    (· == .stopped generation) ?_ ?_
  · have hstarted := h.started generation
    rw [List.count] at hstarted ⊢
    rw [← hstarted]
    simpa using hbalance.symm
  all_goals
    intro event
    cases event <;> simp [repeatMove]

/-- A slot that is held names its generation. -/
theorem Holds.activeGeneration (h : repeater.Holds task run) :
    repeater.activeGeneration = some run.generation := by
  simp [RepeaterTables.activeGeneration, h.slotGeneration]

/-- What is active was not stopped yet. -/
theorem GenerationInvariant.not_stopped (h : repeater.GenerationInvariant)
    (hholds : repeater.Holds task run) : .stopped run.generation ∉ repeater.log := by
  have hcount := h.stopped_count run.generation
  rw [hholds.activeGeneration, if_pos rfl] at hcount
  intro hmem
  have hpositive := List.count_pos_iff.mpr hmem
  split at hcount <;> omega

/-! ## What one step may do -/

/-- A task of the changed list is the changed one or an old one. -/
theorem getElem?_set_cases {runs : List RepeatRun} {next found : RepeatRun} {other : Nat}
    (hfound : (runs.set task next)[other]? = some found) :
    other = task ∧ found = next ∨ other ≠ task ∧ runs[other]? = some found := by
  rw [List.getElem?_set] at hfound
  by_cases hsame : task = other
  · rw [if_pos hsame] at hfound
    split at hfound
    · exact Or.inl ⟨hsame.symm, (Option.some.inj hfound).symm⟩
    · cases hfound
  · rw [if_neg hsame] at hfound
    exact Or.inr ⟨fun hequal => hsame hequal.symm, hfound⟩

/-- Events of passing tasks do not count as starts or stops. -/
theorem count_passes {events : List RepeatEvent} {event : RepeatEvent}
    (hpasses : ∀ passed ∈ events, repeatMove passed = .passes)
    (hmoves : repeatMove event ≠ .passes) : events.count event = 0 :=
  List.count_eq_zero.mpr fun hmem => hmoves (hpasses event hmem)

/-- A task moves on, over or not as before, and the log gains events of its generation. -/
theorem GenerationInvariant.move (h : repeater.GenerationInvariant)
    (hrun : repeater.runs[task]? = some run) (next : RepeatRun) (hkey : next.key = run.key)
    (hgeneration : next.generation = run.generation) (hover : next.Over ↔ run.Over)
    (hpoint : next.point ≠ .created) (events : List RepeatEvent)
    (hpasses : ∀ event ∈ events, repeatMove event = .passes)
    (hsteps : ∀ generation now, .firstStep generation now ∈ events →
      generation = run.generation)
    (hdeadline : ¬next.Over → ∃ first,
      .firstStep run.generation first ∈ repeater.log ++ events ∧
        next.deadline = first + repeater.config.maxHold)
    (horder : History.Always (RepeatInOrder repeater.config.maxHold) (repeater.log ++ events)) :
    GenerationInvariant { repeater with
      runs := repeater.runs.set task next
      log := repeater.log ++ events } := by
  have hlength : task < repeater.runs.length := (List.getElem?_eq_some_iff.mp hrun).1
  -- a task that moves keeps its slot, and every other keeps its own
  have hholds : ∀ (other : Nat) (found : RepeatRun), repeater.Holds other found →
      ∃ kept, Holds { repeater with
          runs := repeater.runs.set task next
          log := repeater.log ++ events } other kept ∧
        (other = task ∧ kept = next ∨ other ≠ task ∧ kept = found) := by
    intro other found hheld
    by_cases hsame : other = task
    · subst hsame
      obtain rfl := Option.some.inj (hheld.member.symm.trans hrun)
      refine ⟨next, ⟨?_, ?_, ?_, fun hended => hheld.lasting (hover.mp hended)⟩,
        Or.inl ⟨rfl, rfl⟩⟩
      · rw [hkey]
        exact hheld.slotTask
      · rw [hkey, hgeneration]
        exact hheld.slotGeneration
      · exact List.getElem?_set_self hlength
    · refine ⟨found, ⟨hheld.slotTask, hheld.slotGeneration, ?_, hheld.lasting⟩,
        Or.inr ⟨hsame, rfl⟩⟩
      rw [← hheld.member]
      exact List.getElem?_set_ne fun hequal => hsame hequal.symm
  have hgenerations : ∀ (other : Nat) (found : RepeatRun),
      (repeater.runs.set task next)[other]? = some found →
      ∃ before : RepeatRun, repeater.runs[other]? = some before ∧
        found.generation = before.generation := by
    intro other found hfound
    rcases getElem?_set_cases hfound with ⟨rfl, rfl⟩ | ⟨-, hother⟩
    · exact ⟨run, hrun, hgeneration⟩
    · exact ⟨found, hother, rfl⟩
  refine ⟨?_, ?_, ?_, ?_, ?_, ?_, ?_, ?_, ?_, horder⟩
  · rcases h.slot with hidle | ⟨other, found, hheld⟩
    · exact Or.inl hidle
    · obtain ⟨kept, hkept, -⟩ := hholds other found hheld
      exact Or.inr ⟨other, kept, hkept⟩
  · intro other found hfound hlasting
    rcases getElem?_set_cases hfound with ⟨rfl, rfl⟩ | ⟨hdiffers, hother⟩
    · obtain ⟨kept, hkept, hcase⟩ :=
        hholds other run (h.owned other run hrun fun hended => hlasting (hover.mpr hended))
      obtain ⟨-, rfl⟩ | ⟨hne, -⟩ := hcase
      · exact hkept
      · exact absurd rfl hne
    · obtain ⟨kept, hkept, hcase⟩ := hholds other found (h.owned other found hother hlasting)
      obtain ⟨hsame, -⟩ | ⟨-, rfl⟩ := hcase
      · exact absurd hsame hdiffers
      · exact hkept
  · exact h.bracketed.append (.of_passes hpasses _)
  · intro generation
    have hnone := @count_passes events (.started generation) hpasses nofun
    rw [List.count_append, hnone, Nat.add_zero]
    exact h.started generation
  · intro other found hfound
    obtain ⟨before, hbefore, hsame⟩ := hgenerations other found hfound
    rw [hsame]
    exact h.numbered other before hbefore
  · rw [← h.created]
    exact List.length_set
  · intro other found hfound hcreated now hmem
    rcases getElem?_set_cases hfound with ⟨rfl, rfl⟩ | ⟨hdiffers, hother⟩
    · exact hpoint hcreated
    · rcases List.mem_append.mp hmem with hold | hnew
      · exact h.unstepped other found hother hcreated now hold
      · have hsame := hsteps _ _ hnew
        rw [h.numbered other found hother, h.numbered task run hrun] at hsame
        omega
  · intro generation now hmem
    rcases List.mem_append.mp hmem with hold | hnew
    · exact h.stepped generation now hold
    · rw [hsteps generation now hnew, h.numbered task run hrun]
      show task + 1 ≤ repeater.nextGeneration
      rw [← h.created]
      exact hlength
  · intro other found hfound hcreated hlasting
    rcases getElem?_set_cases hfound with ⟨rfl, rfl⟩ | ⟨hdiffers, hother⟩
    · rw [hgeneration]
      exact hdeadline hlasting
    · obtain ⟨first, hfirst, hequal⟩ := h.deadline other found hother hcreated hlasting
      exact ⟨first, List.mem_append_left _ hfirst, hequal⟩

/-- The slot is given up, and `on_stop` called for the generation that held it. -/
theorem GenerationInvariant.giveUp (h : repeater.GenerationInvariant)
    (hholds : repeater.Holds task run) (next : RepeatRun)
    (hgeneration : next.generation = run.generation) (hover : next.Over)
    (hpoint : next.point = .created → run.point = .created) :
    GenerationInvariant { repeater with
      tasks := []
      generations := []
      runs := repeater.runs.set task next
      log := repeater.log ++ [.stopped run.generation] } := by
  have hstopped : ∀ event, event ≠ .stopped run.generation →
      event ∈ repeater.log ++ [.stopped run.generation] → event ∈ repeater.log := by
    intro event hother hmem
    rcases List.mem_append.mp hmem with hold | hnew
    · exact hold
    · exact absurd (List.mem_singleton.mp hnew) hother
  -- the slot had one task, and it is over now
  have hover_all : ∀ (other : Nat) (found : RepeatRun),
      (repeater.runs.set task next)[other]? = some found → found.Over := by
    intro other found hfound
    rcases getElem?_set_cases hfound with ⟨-, rfl⟩ | ⟨hdiffers, hother⟩
    · exact hover
    · by_contra hlasting
      have hheld := (h.owned other found hother hlasting).slotTask
      rw [hholds.slotTask] at hheld
      simp only [List.cons.injEq, Prod.mk.injEq] at hheld
      exact hdiffers hheld.1.2.symm
  refine ⟨Or.inl ⟨rfl, rfl⟩, ?_, ?_, ?_, ?_, ?_, ?_, ?_, ?_, ?_⟩
  · intro other found hfound hlasting
    exact absurd (hover_all other found hfound) hlasting
  · have hopen := h.bracketed
    rw [hholds.activeGeneration] at hopen
    exact hopen.append (.closes rfl (.nil none))
  · intro generation
    have hnone : List.count (RepeatEvent.started generation) [.stopped run.generation] = 0 := by
      simp
    rw [List.count_append, hnone, Nat.add_zero]
    exact h.started generation
  · intro other found hfound
    rcases getElem?_set_cases hfound with ⟨rfl, rfl⟩ | ⟨-, hother⟩
    · rw [hgeneration]
      exact h.numbered other run hholds.member
    · exact h.numbered other found hother
  · rw [← h.created]
    exact List.length_set
  · intro other found hfound hcreated now hmem
    rcases getElem?_set_cases hfound with ⟨rfl, rfl⟩ | ⟨-, hother⟩
    · rw [hgeneration] at hmem
      exact h.unstepped other run hholds.member (hpoint hcreated) now
        (hstopped (.firstStep _ now) nofun hmem)
    · exact h.unstepped other found hother hcreated now (hstopped (.firstStep _ now) nofun hmem)
  · intro generation now hmem
    exact h.stepped generation now (hstopped (.firstStep _ now) nofun hmem)
  · intro other found hfound _ hlasting
    exact absurd (hover_all other found hfound) hlasting
  · exact h.inOrder.snoc trivial

/-- A new generation takes the free slot. -/
theorem GenerationInvariant.create (h : repeater.GenerationInvariant)
    (htasks : repeater.tasks = []) (hgenerations : repeater.generations = []) (key : String) :
    (repeater.create key).1.GenerationInvariant := by
  -- an empty table means that every earlier task is over
  have hidle : ∀ (other : Nat) (found : RepeatRun), repeater.runs[other]? = some found →
      found.Over := by
    intro other found hother
    by_contra hlasting
    have hheld := (h.owned other found hother hlasting).slotTask
    rw [htasks] at hheld
    cases hheld
  have hcases : ∀ (other : Nat) (found : RepeatRun),
      (repeater.create key).1.runs[other]? = some found →
      repeater.runs[other]? = some found ∨ other = repeater.runs.length ∧
        found = { key := key, generation := repeater.nextGeneration + 1 } := by
    intro other found hfound
    rw [RepeaterTables.create, List.getElem?_append] at hfound
    split at hfound
    · exact Or.inl hfound
    · rename_i hbound
      right
      have hindex : other - repeater.runs.length = 0 := by
        by_contra hpositive
        rw [List.getElem?_cons, if_neg hpositive] at hfound
        simp at hfound
      rw [hindex] at hfound
      exact ⟨by omega, (Option.some.inj hfound).symm⟩
  have hfresh : (repeater.create key).1.Holds repeater.runs.length
      { key := key, generation := repeater.nextGeneration + 1 } := by
    refine ⟨?_, ?_, ?_, ?_⟩
    · simp [RepeaterTables.create, htasks]
    · simp [RepeaterTables.create, hgenerations]
    · simp [RepeaterTables.create]
    · rintro (hfinished | hcancelled)
      · cases hfinished
      · cases hcancelled
  have hlog : ∀ event, event ≠ .started (repeater.nextGeneration + 1) →
      event ∈ (repeater.create key).1.log → event ∈ repeater.log := by
    intro event hother hmem
    rcases List.mem_append.mp hmem with hold | hnew
    · exact hold
    · exact absurd (List.mem_singleton.mp hnew) hother
  refine ⟨Or.inr ⟨_, _, hfresh⟩, ?_, ?_, ?_, ?_, ?_, ?_, ?_, ?_, ?_⟩
  · intro other found hfound hlasting
    rcases hcases other found hfound with hold | ⟨rfl, rfl⟩
    · exact absurd (hidle other found hold) hlasting
    · exact hfresh
  · have hopen := h.bracketed
    rw [hfresh.activeGeneration]
    simp only [RepeaterTables.activeGeneration, hgenerations, List.head?_nil,
      Option.map_none] at hopen
    exact hopen.append (.opens rfl (.nil _))
  · intro generation
    have hcreated : (repeater.create key).1.log.count (.started generation) =
        repeater.log.count (.started generation) +
          if repeater.nextGeneration + 1 = generation then 1 else 0 := by
      simp only [RepeaterTables.create, List.count_append, List.count_singleton, beq_iff_eq,
        RepeatEvent.started.injEq]
    have hnext : (repeater.create key).1.nextGeneration = repeater.nextGeneration + 1 := rfl
    rw [hcreated, h.started generation, hnext]
    by_cases hnew : repeater.nextGeneration + 1 = generation
    · rw [if_neg (by omega), if_pos hnew, if_pos (by omega)]
    · rw [if_neg hnew, Nat.add_zero]
      exact if_congr (by omega) rfl rfl
  · intro other found hfound
    rcases hcases other found hfound with hold | ⟨rfl, rfl⟩
    · exact h.numbered other found hold
    · rw [h.created]
  · simp [RepeaterTables.create, h.created]
  · intro other found hfound hcreated now hmem
    have hearlier := hlog (.firstStep found.generation now) nofun hmem
    rcases hcases other found hfound with hold | ⟨rfl, rfl⟩
    · exact h.unstepped other found hold hcreated now hearlier
    · have hbound := h.stepped _ now hearlier
      exact absurd hbound (Nat.not_succ_le_self _)
  · intro generation now hmem
    have hbound := h.stepped generation now (hlog (.firstStep generation now) nofun hmem)
    simp only [RepeaterTables.create]
    omega
  · intro other found hfound hcreated hlasting
    rcases hcases other found hfound with hold | ⟨rfl, rfl⟩
    · exact absurd (hidle other found hold) hlasting
    · exact absurd rfl hcreated
  · exact h.inOrder.snoc trivial

/-! ## The synchronous calls -/

@[simp] theorem cancel_over (run : RepeatRun) : run.cancel.Over := by
  by_cases hfinished : run.point = .finished
  · left
    simp [RepeatRun.cancel, RepeatTask.cancel, hfinished]
  · right
    simp [RepeatRun.cancel, RepeatTask.cancel, hfinished]

@[simp] theorem cancel_point (run : RepeatRun) : run.cancel.point = run.point := by
  simp only [RepeatRun.cancel, RepeatTask.cancel]
  split <;> rfl

/-- Cancelling a key that is not held changes nothing. -/
theorem cancel_absent {key : String} (htask : repeater.tasks.lookup key = none)
    (hgeneration : repeater.generations.lookup key = none)
    (htasks : pop key repeater.tasks = repeater.tasks)
    (hgenerations : pop key repeater.generations = repeater.generations) :
    repeater.cancel key = (repeater, none) := by
  simp only [cancel, htask, hgeneration, htasks, hgenerations, cancelTask, notifyStop]

/-- `_cancel` of a key that is not held does nothing; of the one that is held,
it gives the slot up. -/
theorem GenerationInvariant.cancel_cases (h : repeater.GenerationInvariant) (key : String) :
    (∀ task run, repeater.Holds task run → run.key ≠ key) ∧
        repeater.cancel key = (repeater, none) ∨
      ∃ task run, repeater.Holds task run ∧ run.key = key ∧
        repeater.cancel key = ({ repeater with
          tasks := []
          generations := []
          runs := repeater.runs.set task run.cancel
          log := repeater.log ++ [.stopped run.generation] }, some run.generation) := by
  rcases h.slot with ⟨htasks, hgenerations⟩ | ⟨task, run, hholds⟩
  · refine Or.inl ⟨fun task run hholds => ?_, ?_⟩
    · rw [hholds.slotTask] at htasks
      cases htasks
    · apply cancel_absent <;> simp [htasks, hgenerations, pop]
  · by_cases hkey : run.key = key
    · refine Or.inr ⟨task, run, hholds, hkey, ?_⟩
      have hmodified : repeater.runs.modify task RepeatRun.cancel =
          repeater.runs.set task run.cancel := by
        rw [List.modify_eq_set_getElem?, hholds.member]
        rfl
      simp [cancel, hholds.slotTask, hholds.slotGeneration, hkey, pop, cancelTask, notifyStop,
        hmodified]
    · refine Or.inl ⟨fun other found hheld => ?_, ?_⟩
      · have hsame := hheld.slotTask
        rw [hholds.slotTask] at hsame
        simp only [List.cons.injEq, Prod.mk.injEq] at hsame
        rw [← hsame.1.1]
        exact hkey
      · have hbeq : (key == run.key) = false := by
          rw [beq_eq_false_iff_ne]
          exact fun hequal => hkey hequal.symm
        apply cancel_absent <;>
          simp [hholds.slotTask, hholds.slotGeneration, pop, List.lookup_cons, hbeq, hkey]

/-- `_cancel` ends the generation of its key, and tells so once. -/
theorem GenerationInvariant.cancel (h : repeater.GenerationInvariant) (key : String) :
    (repeater.cancel key).1.GenerationInvariant := by
  rcases h.cancel_cases key with ⟨-, hnothing⟩ | ⟨task, run, hholds, -, hcancelled⟩
  · rw [hnothing]
    exact h
  · rw [hcancelled]
    exact h.giveUp hholds run.cancel rfl (cancel_over run) (fun hcreated => cancel_point run ▸ hcreated)

theorem GenerationInvariant.cancelAll (h : repeater.GenerationInvariant) (keys : List String) :
    (repeater.cancelAll keys).GenerationInvariant := by
  induction keys generalizing repeater with
  | nil => exact h
  | cons key rest ih => exact ih (h.cancel key)

/-- Cancelling every held key frees the slot. -/
theorem GenerationInvariant.cancelAll_idle (h : repeater.GenerationInvariant) :
    (repeater.cancelAll (repeater.tasks.map Prod.fst)).tasks = [] ∧
      (repeater.cancelAll (repeater.tasks.map Prod.fst)).generations = [] := by
  rcases h.slot with ⟨htasks, hgenerations⟩ | ⟨task, run, hholds⟩
  · rw [htasks]
    exact ⟨htasks, hgenerations⟩
  · rw [hholds.slotTask, List.map_cons, List.map_nil, RepeaterTables.cancelAll,
      RepeaterTables.cancelAll]
    rcases h.cancel_cases run.key with ⟨hnone, -⟩ | ⟨_, _, _, _, hcancelled⟩
    · exact absurd rfl (hnone task run hholds)
    · rw [hcancelled]
      exact ⟨rfl, rfl⟩

/-- A start ends whatever held the slot and begins a new generation, or does nothing. -/
theorem GenerationInvariant.start (h : repeater.GenerationInvariant) (key : String) :
    (repeater.start key).1.GenerationInvariant := by
  unfold RepeaterTables.start
  split
  · exact h
  · obtain ⟨htasks, hgenerations⟩ := h.cancelAll_idle
    exact (h.cancelAll _).create htasks hgenerations key

/-! ## The steps of a task -/

/-- The `finally` gives the slot up for the task that owns it and for no other. -/
theorem GenerationInvariant.finish (h : repeater.GenerationInvariant)
    (hrun : repeater.runs[task]? = some run) : (repeater.finish task run).GenerationInvariant := by
  have hover : RepeatRun.Over { run with point := .finished } := Or.inl rfl
  by_cases hlasting : run.Over
  · have hfree : ¬repeater.tasks.lookup run.key = some task := by
      rcases h.slot with ⟨htasks, -⟩ | ⟨other, found, hholds⟩
      · simp [htasks]
      · intro howns
        rw [hholds.slotTask, List.lookup_cons] at howns
        split at howns
        · obtain rfl := Option.some.inj howns
          obtain rfl := Option.some.inj (hrun.symm.trans hholds.member)
          exact hholds.lasting hlasting
        · cases howns
    rw [RepeaterTables.finish, if_neg hfree]
    have hmoved := h.move hrun { run with point := .finished } rfl rfl
      ⟨fun _ => hlasting, fun _ => hover⟩ nofun [] (by simp) (by simp)
      (fun hrunning => absurd hover hrunning) (by rw [List.append_nil]; exact h.inOrder)
    rw [List.append_nil] at hmoved
    exact hmoved
  · have hholds := h.owned task run hrun hlasting
    have howns : repeater.tasks.lookup run.key = some task := by
      simp [hholds.slotTask]
    rw [RepeaterTables.finish, if_pos howns]
    have hgiven := h.giveUp hholds { run with point := .finished } rfl hover nofun
    simpa [hholds.slotTask, hholds.slotGeneration, pop, notifyStop, setRun] using hgiven

/-- A task that moves on silently. -/
theorem GenerationInvariant.advance (h : repeater.GenerationInvariant)
    (hrun : repeater.runs[task]? = some run) (next : RepeatRun) (hkey : next.key = run.key)
    (hgeneration : next.generation = run.generation) (hover : next.Over ↔ run.Over)
    (hpoint : next.point ≠ .created)
    (hdeadline : ¬next.Over → ∃ first, .firstStep run.generation first ∈ repeater.log ∧
      next.deadline = first + repeater.config.maxHold) :
    (repeater.setRun task next).GenerationInvariant := by
  have hmoved := h.move hrun next hkey hgeneration hover hpoint [] (by simp) (by simp)
    (by rwa [List.append_nil]) (by rw [List.append_nil]; exact h.inOrder)
  rw [List.append_nil] at hmoved
  exact hmoved

/-- Until a task has finished, it is over exactly when it was asked to cancel. -/
theorem over_iff_cancelRequested {run : RepeatRun} (hpoint : run.point ≠ .finished) :
    run.Over ↔ run.cancelRequested = true := by
  simp [RepeatRun.Over, hpoint]

/-- The first step of a task that was not cancelled before. -/
theorem GenerationInvariant.firstStep (h : repeater.GenerationInvariant)
    (hrun : repeater.runs[task]? = some run) (hpoint : run.point = .created) (now : ℚ) :
    GenerationInvariant { repeater.setRun task
        { run with point := .delaying, deadline := now + repeater.config.maxHold } with
      log := repeater.log ++ [.firstStep run.generation now] } := by
  refine h.move hrun { run with point := .delaying, deadline := now + repeater.config.maxHold }
    rfl rfl ?_ nofun [.firstStep run.generation now] ?_ ?_ ?_ ?_
  · rw [over_iff_cancelRequested (by simp), over_iff_cancelRequested (by simp [hpoint])]
  · simp [repeatMove]
  · simp
  · exact fun _ => ⟨now, by simp, rfl⟩
  · exact h.inOrder.snoc (h.unstepped task run hrun hpoint)

/-- The head of the loop sends before the deadline, for a generation not stopped yet. -/
theorem GenerationInvariant.repeatOnce (h : repeater.GenerationInvariant)
    (hrun : repeater.runs[task]? = some run) (hpoint : run.point ≠ .created)
    (hlasting : ¬run.Over) (now : ℚ) (alive : Bool) (completion : Nat) :
    (repeater.repeatOnce task run now alive completion).GenerationInvariant := by
  unfold RepeaterTables.repeatOnce
  split
  · rename_i hsends
    have hrunning : run.point ≠ .finished := fun hfinished => hlasting (Or.inl hfinished)
    obtain ⟨first, hfirst, hdeadline⟩ := h.deadline task run hrun hpoint hlasting
    refine h.move hrun { run with point := .sending completion } rfl rfl ?_ nofun
      [.sent run.generation now] ?_ ?_ ?_ ?_
    · rw [over_iff_cancelRequested (by simp), over_iff_cancelRequested hrunning]
    · simp [repeatMove]
    · simp
    · exact fun _ => ⟨first, by simp [hfirst], hdeadline⟩
    · refine h.inOrder.snoc ⟨h.not_stopped (h.owned task run hrun hlasting), first, hfirst, ?_⟩
      rw [← hdeadline]
      exact hsends.1
  · exact h.finish hrun

/-- What the event loop can do to a task in one step. -/
inductive TaskStep (repeater : RepeaterTables) (task : Nat) (run : RepeatRun) :
    RepeaterTables → Prop where
  | neverEntered (hcancelled : run.cancelRequested = true) :
      TaskStep repeater task run (repeater.setRun task { run with point := .finished })
  | entered (hpoint : run.point = .created) (now : ℚ) :
      TaskStep repeater task run { repeater.setRun task
          { run with point := .delaying, deadline := now + repeater.config.maxHold } with
        log := repeater.log ++ [.firstStep run.generation now] }
  | looped (hpoint : run.point ≠ .created) (hlasting : ¬run.Over) (now : ℚ) (alive : Bool)
      (completion : Nat) :
      TaskStep repeater task run (repeater.repeatOnce task run now alive completion)
  | returned (completion : Nat) (hpoint : run.point = .sending completion) :
      TaskStep repeater task run (repeater.setRun task { run with point := .pausing })
  | left : TaskStep repeater task run (repeater.finish task run)

/-- What a resumed task can do. -/
theorem resume_cases {now : ℚ} {alive : Bool} {completion : Nat} {next : RepeaterTables}
    (hstep : repeater.resume task now alive completion = some next) :
    ∃ run, repeater.runs[task]? = some run ∧ repeater.TaskStep task run next := by
  unfold RepeaterTables.resume at hstep
  split at hstep
  · cases hstep
  · rename_i run hrun
    refine ⟨run, hrun, ?_⟩
    have hlasting : run.point ≠ .finished → run.cancelRequested = false → ¬run.Over := by
      intro hpoint hrunning
      rw [over_iff_cancelRequested hpoint, hrunning]
      exact Bool.false_ne_true
    split at hstep
    case h_7 | h_8 => cases hstep
    all_goals obtain rfl := Option.some.inj hstep
    case h_1 _ _ _ hcancelled => exact .neverEntered hcancelled
    case h_2 _ _ hpoint _ => exact .entered hpoint now
    case h_3 | h_4 =>
        rename_i hpoint hrunning
        exact .looped (by simp [hpoint]) (hlasting (by simp [hpoint]) hrunning) now alive completion
    case h_5 | h_6 => exact .left

/-- A send that returns lets its task pause. -/
theorem sendReturned_cases {next : RepeaterTables}
    (hstep : repeater.sendReturned task = some next) :
    ∃ run, repeater.runs[task]? = some run ∧ repeater.TaskStep task run next := by
  unfold RepeaterTables.sendReturned at hstep
  split at hstep
  · cases hstep
  · rename_i run hrun
    split at hstep
    · rename_i completion hpoint
      obtain rfl := Option.some.inj hstep
      exact ⟨run, hrun, .returned completion hpoint⟩
    · cases hstep

theorem awaitRaised_cases {next : RepeaterTables}
    (hstep : repeater.awaitRaised task = some next) :
    ∃ run, repeater.runs[task]? = some run ∧ repeater.TaskStep task run next := by
  unfold RepeaterTables.awaitRaised at hstep
  split at hstep
  · cases hstep
  · rename_i run hrun
    split at hstep
    case h_4 | h_5 => cases hstep
    all_goals
      obtain rfl := Option.some.inj hstep
      exact ⟨run, hrun, .left⟩

/-- One step of a task, by cases on what it does. -/
theorem GenerationInvariant.taskStep (h : repeater.GenerationInvariant)
    (hrun : repeater.runs[task]? = some run) {next : RepeaterTables}
    (hstep : repeater.TaskStep task run next) : next.GenerationInvariant := by
  cases hstep with
  | neverEntered hcancelled =>
      have hover : RepeatRun.Over { run with point := .finished } := Or.inl rfl
      exact h.advance hrun { run with point := .finished } rfl rfl
        ⟨fun _ => Or.inr hcancelled, fun _ => hover⟩ nofun (fun hlasting => absurd hover hlasting)
  | entered hpoint now => exact h.firstStep hrun hpoint now
  | looped hpoint hlasting now alive completion =>
      exact h.repeatOnce hrun hpoint hlasting now alive completion
  | returned completion hpoint =>
      have hover : RepeatRun.Over { run with point := .pausing } ↔ run.Over := by
        rw [over_iff_cancelRequested (by simp), over_iff_cancelRequested (by simp [hpoint])]
      refine h.advance hrun { run with point := .pausing } rfl rfl hover nofun ?_
      intro hlasting
      exact h.deadline task run hrun (by simp [hpoint]) fun hended => hlasting (hover.mpr hended)
  | left => exact h.finish hrun

/-- One case for each label. -/
theorem GenerationInvariant.step (h : repeater.GenerationInvariant) {label : RepeatLabel}
    {next : RepeaterTables} (hstep : repeater.step label = some next) :
    next.GenerationInvariant := by
  cases label with
  | start key =>
      obtain rfl := Option.some.inj hstep
      exact h.start key
  | stop key =>
      obtain rfl := Option.some.inj hstep
      exact h.cancel key
  | stopAllNow =>
      obtain rfl := Option.some.inj hstep
      exact h.cancelAll _
  | resume task now alive completion =>
      obtain ⟨run, hrun, htask⟩ := resume_cases hstep
      exact h.taskStep hrun htask
  | sendReturned task =>
      obtain ⟨run, hrun, htask⟩ := sendReturned_cases hstep
      exact h.taskStep hrun htask
  | awaitRaised task =>
      obtain ⟨run, hrun, htask⟩ := awaitRaised_cases hstep
      exact h.taskStep hrun htask

/-- The invariant of every schedule of calls and resumptions. -/
theorem generationInvariant_run {config : HoldRepeatConfig} {labels : List RepeatLabel}
    (hrun : Machine.run step { config := config } labels = some repeater) :
    repeater.GenerationInvariant :=
  Machine.run_invariant GenerationInvariant (fun _ _ _ h hstep => h.step hstep)
    (generationInvariant_initial config) hrun

/-! ## The configuration stays -/

@[simp] theorem notifyStop_config (repeater : RepeaterTables) (generation : Option Nat) :
    (repeater.notifyStop generation).config = repeater.config := by
  cases generation <;> rfl

@[simp] theorem cancelTask_config (repeater : RepeaterTables) (task : Option Nat) :
    (repeater.cancelTask task).config = repeater.config := by
  cases task <;> rfl

@[simp] theorem cancelAll_config (repeater : RepeaterTables) (keys : List String) :
    (repeater.cancelAll keys).config = repeater.config := by
  induction keys generalizing repeater with
  | nil => rfl
  | cons key rest ih =>
      rw [RepeaterTables.cancelAll, ih]
      simp [RepeaterTables.cancel]

@[simp] theorem finish_config (repeater : RepeaterTables) (task : Nat) (run : RepeatRun) :
    (repeater.finish task run).config = repeater.config := by
  unfold RepeaterTables.finish
  split <;> simp [setRun]

theorem TaskStep.config {next : RepeaterTables} (hstep : repeater.TaskStep task run next) :
    next.config = repeater.config := by
  cases hstep with
  | neverEntered hcancelled => rfl
  | entered hpoint now => rfl
  | looped hpoint hlasting now alive completion =>
      unfold RepeaterTables.repeatOnce
      split
      · rfl
      · exact finish_config repeater task run
  | returned completion hpoint => rfl
  | left => exact finish_config repeater task run

/-- No label changes the configuration. -/
theorem step_config {label : RepeatLabel} {next : RepeaterTables}
    (hstep : repeater.step label = some next) : next.config = repeater.config := by
  cases label with
  | start key =>
      obtain rfl := Option.some.inj hstep
      unfold RepeaterTables.start
      split <;> simp [RepeaterTables.create]
  | stop key =>
      obtain rfl := Option.some.inj hstep
      simp [RepeaterTables.stop, RepeaterTables.cancel]
  | stopAllNow =>
      obtain rfl := Option.some.inj hstep
      simp [RepeaterTables.stopAllNow]
  | resume task now alive completion =>
      obtain ⟨run, -, htask⟩ := resume_cases hstep
      exact htask.config
  | sendReturned task =>
      obtain ⟨run, -, htask⟩ := sendReturned_cases hstep
      exact htask.config
  | awaitRaised task =>
      obtain ⟨run, -, htask⟩ := awaitRaised_cases hstep
      exact htask.config

theorem run_config {config : HoldRepeatConfig} {labels : List RepeatLabel}
    (hrun : Machine.run step { config := config } labels = some repeater) :
    repeater.config = config :=
  Machine.run_invariant (fun reached => reached.config = config)
    (fun _ _ _ h hstep => (step_config hstep).trans h) rfl hrun

/-! ## Exactly once -/

/-- A generation whose task has finished or was cancelled, by whichever path. -/
def Ended (repeater : RepeaterTables) (generation : Nat) : Prop :=
  ∃ run ∈ repeater.runs, run.generation = generation ∧ run.Over

/-- A generation that was started has its task. -/
theorem GenerationInvariant.task_of_started (h : repeater.GenerationInvariant) {generation : Nat}
    (hstarted : .started generation ∈ repeater.log) :
    ∃ (task : Nat) (run : RepeatRun),
      repeater.runs[task]? = some run ∧ run.generation = generation := by
  have hbound : 0 < generation ∧ generation ≤ repeater.nextGeneration := by
    by_contra hoff
    have hcount := h.started generation
    rw [if_neg hoff, List.count_eq_zero] at hcount
    exact hcount hstarted
  have hlength : generation - 1 < repeater.runs.length := by
    rw [h.created]
    omega
  refine ⟨generation - 1, repeater.runs[generation - 1], List.getElem?_eq_getElem hlength, ?_⟩
  rw [h.numbered _ _ (List.getElem?_eq_getElem hlength)]
  omega

/-- The active generations are the started ones that have not ended. -/
theorem GenerationInvariant.active_iff (h : repeater.GenerationInvariant) {generation : Nat}
    (hstarted : .started generation ∈ repeater.log) :
    repeater.activeGeneration = some generation ↔ ¬repeater.Ended generation := by
  constructor
  · rintro hactive ⟨run, hmem, hgeneration, hover⟩
    obtain ⟨task, hrun⟩ := List.mem_iff_getElem?.mp hmem
    rcases h.slot with ⟨-, hgenerations⟩ | ⟨other, found, hholds⟩
    · simp [activeGeneration, hgenerations] at hactive
    · rw [hholds.activeGeneration, Option.some.injEq, ← hgeneration,
        h.numbered other found hholds.member, h.numbered task run hrun] at hactive
      obtain rfl : other = task := by omega
      obtain rfl := Option.some.inj (hholds.member.symm.trans hrun)
      exact hholds.lasting hover
  · intro hrunning
    obtain ⟨task, run, hrun, rfl⟩ := h.task_of_started hstarted
    refine (h.owned task run hrun ?_).activeGeneration
    exact fun hover => hrunning ⟨run, List.mem_iff_getElem?.mpr ⟨task, hrun⟩, rfl, hover⟩

/-- A generation that was started is active or has been stopped exactly once. -/
theorem GenerationInvariant.stopped_of_started (h : repeater.GenerationInvariant)
    {generation : Nat} (hstarted : .started generation ∈ repeater.log) :
    repeater.log.count (.stopped generation) +
      (if repeater.activeGeneration = some generation then 1 else 0) = 1 := by
  rw [h.stopped_count, ← h.started generation]
  have hcount := h.started generation
  have hpositive := List.count_pos_iff.mpr hstarted
  split at hcount <;> omega

/-- The generation that holds the slot is over after the key is stopped, after every key
is, and after another one is started. -/
theorem GenerationInvariant.ends_of_superseded (h : repeater.GenerationInvariant) {key : String}
    {generation : Nat} (hslot : (key, generation) ∈ repeater.generations) :
    (repeater.stop key).1.Ended generation ∧ repeater.stopAllNow.Ended generation ∧
      ∀ other, other ≠ key → (repeater.start other).1.Ended generation := by
  obtain ⟨task, run, hholds⟩ : ∃ task run, repeater.Holds task run := by
    apply h.slot.resolve_left
    rintro ⟨-, hgenerations⟩
    rw [hgenerations] at hslot
    exact absurd hslot List.not_mem_nil
  have hgenerations := hholds.slotGeneration
  rw [hgenerations, List.mem_singleton, Prod.mk.injEq] at hslot
  obtain ⟨rfl, rfl⟩ := hslot
  have hstop : (repeater.cancel run.key).1.Ended run.generation := by
    rcases h.cancel_cases run.key with ⟨hother, -⟩ | ⟨task, found, hheld, -, hcancelled⟩
    · exact absurd rfl (hother task run hholds)
    · have hsame := hheld.slotGeneration
      rw [hgenerations, List.cons.injEq, Prod.mk.injEq] at hsame
      have hlength := (List.getElem?_eq_some_iff.mp hheld.member).1
      rw [hcancelled]
      refine ⟨found.cancel, ?_, hsame.1.2.symm, cancel_over found⟩
      exact List.mem_iff_getElem?.mpr ⟨task, List.getElem?_set_self hlength⟩
  refine ⟨hstop, ?_, ?_⟩
  · have hkeys : repeater.tasks.map Prod.fst ∪ repeater.generations.map Prod.fst = [run.key] := by
      simp [hholds.slotTask, hgenerations]
    rw [stopAllNow, hkeys]
    exact hstop
  · intro other hdiffers
    have habsent : repeater.tasks.lookup other = none := by
      rw [hholds.slotTask, List.lookup_cons, beq_eq_false_iff_ne.mpr hdiffers]
      rfl
    have hstart : (repeater.start other).1 = ((repeater.cancel run.key).1.create other).1 := by
      rw [RepeaterTables.start, habsent, hholds.slotTask]
      rfl
    obtain ⟨ended, hended, hover⟩ := hstop
    rw [hstart]
    exact ⟨ended, List.mem_append_left _ hended, hover⟩

/-- Over every interleaving one generation is active at most and both
dictionaries agree on it, every generation that ended was stopped exactly once
and no other was, and a send begins before that and before the deadline. The active
generation ends when its key is stopped, all keys are, or another one is started. -/
theorem hold_generations {config : HoldRepeatConfig} {labels : List RepeatLabel}
    (hrun : Machine.run step { config := config } labels = some repeater) :
    (repeater.tasks = [] ∧ repeater.generations = [] ∨
      ∃ (task : Nat) (run : RepeatRun), repeater.tasks = [(run.key, task)] ∧
        repeater.generations = [(run.key, run.generation)] ∧
        repeater.runs[task]? = some run) ∧
    (∀ generation, .started generation ∈ repeater.log →
      (repeater.Ended generation → repeater.log.count (.stopped generation) = 1) ∧
      (¬repeater.Ended generation → .stopped generation ∉ repeater.log)) ∧
    (∀ before after generation now, repeater.log = before ++ .sent generation now :: after →
      .stopped generation ∉ before ∧
      ∃ first, .firstStep generation first ∈ before ∧ now < first + config.maxHold) ∧
    (∀ before after generation now, repeater.log = before ++ .firstStep generation now :: after →
      ∀ earlier, .firstStep generation earlier ∉ before) ∧
    ∀ key generation, (key, generation) ∈ repeater.generations →
      (repeater.stop key).1.Ended generation ∧ repeater.stopAllNow.Ended generation ∧
        ∀ other, other ≠ key → (repeater.start other).1.Ended generation := by
  have h := generationInvariant_run hrun
  refine ⟨?_, ?_, ?_, ?_, fun key generation => h.ends_of_superseded⟩
  · rcases h.slot with hidle | ⟨task, run, hholds⟩
    · exact Or.inl hidle
    · exact Or.inr ⟨task, run, hholds.slotTask, hholds.slotGeneration, hholds.member⟩
  · intro generation hstarted
    have hcount := h.stopped_of_started hstarted
    have hactive := h.active_iff hstarted
    refine ⟨fun hended => ?_, fun hrunning => ?_⟩
    · rw [if_neg fun hequal => hactive.mp hequal hended] at hcount
      exact hcount
    · rw [if_pos (hactive.mpr hrunning)] at hcount
      exact List.count_eq_zero.mp (by omega)
  · intro before after generation now hsplit
    have hsent := h.inOrder before (.sent generation now) after hsplit
    rw [run_config hrun] at hsent
    exact hsent
  · intro before after generation now hsplit
    exact h.inOrder before (.firstStep generation now) after hsplit

/-- A hold that sends once and is superseded by the hold of another key. -/
theorem hold_generations_superseded :
    ∃ repeater, Machine.run step { config := {} }
        [.start "KEY_UP", .resume 0 0 true 0, .resume 0 (1 / 2) true 0, .start "KEY_DOWN"] =
          some repeater ∧
      repeater.log = [.started 1, .firstStep 1 0, .sent 1 (1 / 2), .stopped 1, .started 2] ∧
      repeater.log.count (.stopped 1) = 1 ∧ .stopped 2 ∉ repeater.log := by
  have hreached : ∃ repeater, Machine.run step { config := {} }
      [.start "KEY_UP", .resume 0 0 true 0, .resume 0 (1 / 2) true 0, .start "KEY_DOWN"] =
        some repeater ∧
      repeater.log = [.started 1, .firstStep 1 0, .sent 1 (1 / 2), .stopped 1, .started 2] ∧
      (repeater.runs.map fun run => (run.generation, run.point, run.cancelRequested)) =
        [(1, .sending 0, true), (2, .created, false)] := by
    refine ⟨_, rfl, ?_, ?_⟩
    all_goals decide +kernel
  obtain ⟨repeater, hrun, hlog, hruns⟩ := hreached
  obtain ⟨-, honce, -⟩ := hold_generations hrun
  refine ⟨repeater, hrun, hlog, ?_, ?_⟩
  · refine (honce 1 (by simp [hlog])).1 ?_
    obtain ⟨run, hmem, hequal⟩ := List.mem_map.mp
      (hruns ▸ List.mem_cons_self : (1, RepeatPoint.sending 0, true) ∈ repeater.runs.map _)
    simp only [Prod.mk.injEq] at hequal
    exact ⟨run, hmem, hequal.1, Or.inr hequal.2.2⟩
  · refine (honce 2 (by simp [hlog])).2 ?_
    rintro ⟨run, hmem, hgeneration, hover⟩
    have hentry : (run.generation, run.point, run.cancelRequested) ∈
        repeater.runs.map fun run => (run.generation, run.point, run.cancelRequested) :=
      List.mem_map_of_mem hmem
    rw [hruns] at hentry
    simp [hgeneration] at hentry
    rcases hover with hfinished | hcancelled
    · simp [hentry.1] at hfinished
    · simp [hentry.2] at hcancelled

end RepeaterTables

end CompanionBridge
