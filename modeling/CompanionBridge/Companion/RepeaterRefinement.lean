import CompanionBridge.Companion.RepeatGenerations

/-!
# The two dictionaries as one

In every reachable state `_tasks` and `_generations` change together. The
repeater of the server, which keeps one list of held keys, is what the two
dictionaries amount to: it goes through every schedule of calls and resumptions
the way they do.
-/

namespace CompanionBridge

namespace HoldRepeater

/-! ## The schedules of the repeater of the server -/

def cancelAll (repeater : HoldRepeater) : List String → HoldRepeater
  | [] => repeater
  | key :: rest => (repeater.cancel key).1.cancelAll rest

/-- `start`, with the other keys cancelled first. -/
def start (repeater : HoldRepeater) (key : String) : HoldRepeater :=
  match repeater.held.lookup key with
  | some _ => repeater
  | none => ((repeater.cancelAll (repeater.held.map Prod.fst)).create key).1

/-- The `finally` of the task of a generation. -/
def finish (repeater : HoldRepeater) (generation : Nat) (task : RepeatTask) : HoldRepeater :=
  (repeater.release task.key generation).1.setTask generation { task with point := .finished }

def repeatOnce (repeater : HoldRepeater) (generation : Nat) (task : RepeatTask) (now : ℚ)
    (alive : Bool) (completion : Nat) : HoldRepeater :=
  if now < task.deadline ∧ alive = true then
    repeater.setTask generation { task with point := .sending completion }
  else repeater.finish generation task

def resume (repeater : HoldRepeater) (generation : Nat) (now : ℚ) (alive : Bool)
    (completion : Nat) : Option HoldRepeater :=
  match repeater.tasks generation with
  | none => none
  | some task =>
      match task.point, task.cancelRequested with
      | .created, true => some (repeater.setTask generation { task with point := .finished })
      | .created, false =>
          some (repeater.setTask generation
            { task with point := .delaying, deadline := now + repeater.config.maxHold })
      | .delaying, false | .pausing, false =>
          some (repeater.repeatOnce generation task now alive completion)
      | .delaying, true | .pausing, true => some (repeater.finish generation task)
      | .sending _, _ | .finished, _ => none

def sendReturned (repeater : HoldRepeater) (generation : Nat) : Option HoldRepeater :=
  match repeater.tasks generation with
  | none => none
  | some task =>
      match task.point with
      | .sending _ => some (repeater.setTask generation { task with point := .pausing })
      | _ => none

def awaitRaised (repeater : HoldRepeater) (generation : Nat) : Option HoldRepeater :=
  match repeater.tasks generation with
  | none => none
  | some task =>
      match task.point with
      | .delaying | .sending _ | .pausing => some (repeater.finish generation task)
      | .created | .finished => none

/-- The labels of the two dictionaries, a task being named by its generation. -/
def step (repeater : HoldRepeater) : RepeatLabel → Option HoldRepeater
  | .start key => some (repeater.start key)
  | .stop key => some (repeater.cancel key).1
  | .stopAllNow => some (repeater.cancelAll (repeater.held.map Prod.fst))
  | .resume task now alive completion => repeater.resume (task + 1) now alive completion
  | .sendReturned task => repeater.sendReturned (task + 1)
  | .awaitRaised task => repeater.awaitRaised (task + 1)

end HoldRepeater

namespace RepeaterTables

/-! ## Both repeaters, call by call -/

/-- One list of held keys, and each task under the number of its generation. -/
def merged (repeater : RepeaterTables) : HoldRepeater where
  config := repeater.config
  held := repeater.generations
  tasks
    | 0 => none
    | task + 1 => repeater.runs[task]?.map RepeatRun.toRepeatTask
  nextGeneration := repeater.nextGeneration

variable {repeater : RepeaterTables} {task : Nat} {run : RepeatRun}

theorem heldRepeater_ext {first second : HoldRepeater}
    (hconfig : first.config = second.config) (hheld : first.held = second.held)
    (htasks : ∀ generation, first.tasks generation = second.tasks generation)
    (hnext : first.nextGeneration = second.nextGeneration) : first = second := by
  obtain ⟨config, held, tasks, next⟩ := first
  obtain ⟨_, _, others, _⟩ := second
  obtain rfl := hconfig
  obtain rfl := hheld
  obtain rfl := hnext
  obtain rfl : tasks = others := funext htasks
  rfl

/-- `_cancel` on the dictionaries is `cancel` on the list. -/
theorem merged_cancel (h : repeater.GenerationInvariant) (key : String) :
    (repeater.cancel key).1.merged = (repeater.merged.cancel key).1 ∧
      (repeater.cancel key).2 = (repeater.merged.cancel key).2 := by
  rcases h.cancel_cases key with ⟨hother, hnothing⟩ | ⟨task, run, hholds, rfl, hcancelled⟩
  · have habsent : repeater.merged.held.lookup key = none := by
      rcases h.slot with ⟨-, hgenerations⟩ | ⟨task, run, hholds⟩
      · simp [merged, hgenerations]
      · have hbeq : (key == run.key) = false := by
          rw [beq_eq_false_iff_ne]
          exact fun hequal => hother task run hholds hequal.symm
        simp [merged, hholds.slotGeneration, List.lookup_cons, hbeq]
    rw [hnothing, HoldRepeater.cancel, habsent]
    exact ⟨rfl, rfl⟩
  · have hfound : repeater.merged.held.lookup run.key = some run.generation := by
      simp [merged, hholds.slotGeneration]
    rw [hcancelled, HoldRepeater.cancel, hfound]
    refine ⟨heldRepeater_ext rfl ?_ ?_ rfl, rfl⟩
    · simp [merged, hholds.slotGeneration]
    · intro generation
      have hnumber := h.numbered task run hholds.member
      have hlength := (List.getElem?_eq_some_iff.mp hholds.member).1
      cases generation with
      | zero => simp [merged]
      | succ other =>
          simp only [merged, hnumber, Nat.add_right_cancel_iff, List.getElem?_set]
          by_cases hsame : task = other
          · subst hsame
            simp only [hlength, hholds.member, if_true, Option.map_some]
            rfl
          · rw [if_neg hsame, if_neg fun hequal => hsame hequal.symm]

/-- A new task takes the slot of its key in both, under the same number. -/
theorem merged_create (h : repeater.GenerationInvariant) (key : String) :
    (repeater.create key).1.merged = (repeater.merged.create key).1 ∧
      (repeater.create key).2 = (repeater.merged.create key).2 := by
  refine ⟨heldRepeater_ext rfl rfl ?_ rfl, rfl⟩
  intro generation
  cases generation with
  | zero => rfl
  | succ other =>
      simp only [merged, create, HoldRepeater.create, HoldRepeater.setTask,
        Nat.add_right_cancel_iff, ← h.created]
      by_cases hsame : other = repeater.runs.length
      · simp [hsame]
      · rw [if_neg hsame, List.getElem?_append]
        split
        · rfl
        · rename_i hbound
          rw [List.getElem?_eq_none (by simp; omega), List.getElem?_eq_none (by omega)]

@[simp] theorem merged_notifyStop (repeater : RepeaterTables) (generation : Option Nat) :
    (repeater.notifyStop generation).merged = repeater.merged := by
  cases generation <;> rfl

/-- Moving a task is moving it in the list of all tasks. -/
theorem merged_setRun (hlength : task < repeater.runs.length) (next : RepeatRun) :
    (repeater.setRun task next).merged =
      repeater.merged.setTask (task + 1) next.toRepeatTask := by
  refine heldRepeater_ext rfl rfl ?_ rfl
  intro generation
  cases generation with
  | zero => rfl
  | succ other =>
      simp only [merged, setRun, HoldRepeater.setTask, Nat.add_right_cancel_iff,
        List.getElem?_set]
      by_cases hsame : task = other
      · rw [if_pos hsame, if_pos hlength, if_pos hsame.symm, Option.map_some]
      · rw [if_neg hsame, if_neg fun hequal => hsame hequal.symm]

/-- The two dictionaries name the same owner of a key. -/
theorem owns_iff (h : repeater.GenerationInvariant) (hrun : repeater.runs[task]? = some run) :
    repeater.tasks.lookup run.key = some task ↔
      repeater.merged.held.lookup run.key = some run.generation := by
  simp only [merged]
  rcases h.slot with ⟨htasks, hgenerations⟩ | ⟨other, found, hholds⟩
  · simp [htasks, hgenerations]
  · rw [hholds.slotTask, hholds.slotGeneration, List.lookup_cons, List.lookup_cons,
      h.numbered other found hholds.member, h.numbered task run hrun]
    cases run.key == found.key <;> simp

/-- The `finally` on the dictionaries is `finish` on the list. -/
theorem merged_finish (h : repeater.GenerationInvariant)
    (hrun : repeater.runs[task]? = some run) :
    (repeater.finish task run).merged =
      repeater.merged.finish (task + 1) run.toRepeatTask := by
  have hlength := (List.getElem?_eq_some_iff.mp hrun).1
  have hfinished := merged_setRun hlength { run with point := .finished }
  have howner := owns_iff h hrun
  rw [h.numbered task run hrun] at howner
  simp only [finish, HoldRepeater.finish, HoldRepeater.release]
  by_cases howns : repeater.tasks.lookup run.key = some task
  · rw [if_pos howns, if_pos (howner.mp howns), merged_notifyStop]
    refine heldRepeater_ext rfl rfl (fun generation => ?_) rfl
    exact congrFun (congrArg HoldRepeater.tasks hfinished) generation
  · rw [if_neg howns, if_neg fun hlisted => howns (howner.mpr hlisted)]
    exact hfinished

theorem merged_cancelAll (h : repeater.GenerationInvariant) (keys : List String) :
    (repeater.cancelAll keys).merged = repeater.merged.cancelAll keys := by
  induction keys generalizing repeater with
  | nil => rfl
  | cons key rest ih =>
      rw [cancelAll, ih (h.cancel key), (merged_cancel h key).1]
      rfl

/-- Both dictionaries have the same keys. -/
theorem GenerationInvariant.keys (h : repeater.GenerationInvariant) :
    repeater.tasks.map Prod.fst = repeater.merged.held.map Prod.fst := by
  rcases h.slot with ⟨htasks, hgenerations⟩ | ⟨task, run, hholds⟩
  · simp [merged, htasks, hgenerations]
  · simp [merged, hholds.slotTask, hholds.slotGeneration]

/-- A start is ignored by both, or ends the slot and creates a task in both. -/
theorem merged_start (h : repeater.GenerationInvariant) (key : String) :
    (repeater.start key).1.merged = repeater.merged.start key := by
  have hlookup : repeater.tasks.lookup key = none ↔ repeater.merged.held.lookup key = none := by
    rcases h.slot with ⟨htasks, hgenerations⟩ | ⟨task, run, hholds⟩
    · simp [merged, htasks, hgenerations]
    · simp only [merged, hholds.slotTask, hholds.slotGeneration, List.lookup_cons]
      cases key == run.key <;> simp
  unfold start HoldRepeater.start
  cases hheld : repeater.tasks.lookup key with
  | none =>
      rw [hlookup.mp hheld, ← h.keys, ← merged_cancelAll h]
      exact (merged_create (h.cancelAll _) key).1
  | some task =>
      obtain ⟨generation, hgeneration⟩ :=
        Option.ne_none_iff_exists'.mp (mt hlookup.mpr (by simp [hheld]))
      rw [hgeneration]

/-- What `stop_all_now` runs over is the one list of held keys. -/
theorem merged_stopAllNow (h : repeater.GenerationInvariant) :
    repeater.stopAllNow.merged =
      repeater.merged.cancelAll (repeater.merged.held.map Prod.fst) := by
  have hunion : repeater.tasks.map Prod.fst ∪ repeater.generations.map Prod.fst =
      repeater.merged.held.map Prod.fst := by
    rcases h.slot with ⟨htasks, hgenerations⟩ | ⟨task, run, hholds⟩
    · simp [merged, htasks, hgenerations]
    · simp [merged, hholds.slotTask, hholds.slotGeneration]
  rw [stopAllNow, hunion]
  exact merged_cancelAll h _

theorem merged_repeatOnce (h : repeater.GenerationInvariant)
    (hrun : repeater.runs[task]? = some run) (now : ℚ) (alive : Bool) (completion : Nat) :
    (repeater.repeatOnce task run now alive completion).merged =
      repeater.merged.repeatOnce (task + 1) run.toRepeatTask now alive completion := by
  have hlength := (List.getElem?_eq_some_iff.mp hrun).1
  unfold repeatOnce HoldRepeater.repeatOnce
  split
  · exact merged_setRun hlength { run with point := .sending completion }
  · exact merged_finish h hrun

/-- The task of a number is the one its generation names. -/
theorem merged_task (hrun : repeater.runs[task]? = some run) :
    repeater.merged.tasks (task + 1) = some run.toRepeatTask := by
  simp only [merged, hrun, Option.map_some]

/-- Resuming a task moves it alike. -/
theorem merged_resume (h : repeater.GenerationInvariant) {now : ℚ} {alive : Bool}
    {completion : Nat} {next : RepeaterTables}
    (hstep : repeater.resume task now alive completion = some next) :
    repeater.merged.resume (task + 1) now alive completion = some next.merged := by
  unfold resume at hstep
  cases hrun : repeater.runs[task]? with
  | none => simp [hrun] at hstep
  | some run =>
      have hlength := (List.getElem?_eq_some_iff.mp hrun).1
      simp only [hrun] at hstep
      simp only [HoldRepeater.resume, merged_task hrun]
      -- Both sides look at the same point and at the same request.
      cases hpoint : run.point <;> cases hcancelled : run.cancelRequested <;>
        simp only [hpoint, hcancelled, reduceCtorEq, Option.some.injEq] at hstep ⊢ <;> subst hstep
      case created.true =>
          have hleft := merged_setRun hlength { run with point := .finished }
          rw [hcancelled] at hleft
          exact hleft.symm
      case created.false =>
          have hentered := merged_setRun hlength
            { run with point := .delaying, deadline := now + repeater.config.maxHold }
          rw [hcancelled] at hentered
          exact hentered.symm
      case delaying.false | pausing.false => exact (merged_repeatOnce h hrun now alive completion).symm
      case delaying.true | pausing.true => exact (merged_finish h hrun).symm

theorem merged_sendReturned {next : RepeaterTables}
    (hstep : repeater.sendReturned task = some next) :
    repeater.merged.sendReturned (task + 1) = some next.merged := by
  unfold sendReturned at hstep
  cases hrun : repeater.runs[task]? with
  | none => simp [hrun] at hstep
  | some run =>
      have hlength := (List.getElem?_eq_some_iff.mp hrun).1
      simp only [hrun] at hstep
      simp only [HoldRepeater.sendReturned, merged_task hrun]
      cases hpoint : run.point <;>
        simp only [hpoint, reduceCtorEq, Option.some.injEq] at hstep ⊢
      subst hstep
      exact (merged_setRun hlength { run with point := .pausing }).symm

theorem merged_awaitRaised (h : repeater.GenerationInvariant) {next : RepeaterTables}
    (hstep : repeater.awaitRaised task = some next) :
    repeater.merged.awaitRaised (task + 1) = some next.merged := by
  unfold awaitRaised at hstep
  cases hrun : repeater.runs[task]? with
  | none => simp [hrun] at hstep
  | some run =>
      simp only [hrun] at hstep
      simp only [HoldRepeater.awaitRaised, merged_task hrun]
      cases hpoint : run.point <;>
        simp only [hpoint, reduceCtorEq, Option.some.injEq] at hstep ⊢ <;> subst hstep
      all_goals exact (merged_finish h hrun).symm

/-! ## Both repeaters, run by run -/

/-- What a label does to the dictionaries it does to the list. -/
theorem merged_step (h : repeater.GenerationInvariant) {label : RepeatLabel}
    {next : RepeaterTables} (hstep : repeater.step label = some next) :
    repeater.merged.step label = some next.merged := by
  cases label with
  | start key =>
      obtain rfl := Option.some.inj hstep
      rw [HoldRepeater.step, merged_start h]
  | stop key =>
      obtain rfl := Option.some.inj hstep
      rw [HoldRepeater.step, stop, (merged_cancel h key).1]
  | stopAllNow =>
      obtain rfl := Option.some.inj hstep
      rw [HoldRepeater.step, merged_stopAllNow h]
  | resume task now alive completion => exact merged_resume h hstep
  | sendReturned task => exact merged_sendReturned hstep
  | awaitRaised task => exact merged_awaitRaised h hstep

/-- Every schedule takes the list where it takes the dictionaries. -/
theorem merged_run {config : HoldRepeatConfig} {labels : List RepeatLabel}
    (hrun : Machine.run step { config := config } labels = some repeater) :
    Machine.run HoldRepeater.step { config := config } labels = some repeater.merged := by
  refine Machine.run_snoc_induction
    (fun labels repeater =>
      Machine.run HoldRepeater.step { config := config } labels = some repeater.merged)
    ?_ ?_ hrun
  · apply congrArg some
    refine heldRepeater_ext rfl rfl (fun generation => ?_) rfl
    cases generation <;> rfl
  · intro labels state label next hlabels hmerged hstep
    apply (Machine.run_append _ _ _ _).mpr
    refine ⟨state.merged, hmerged, (Machine.run_cons _ _ _ _).mpr ⟨next.merged, ?_, rfl⟩⟩
    exact merged_step (generationInvariant_run hlabels) hstep

end RepeaterTables

end CompanionBridge
