import Mathlib.Data.List.Nodup
import Mathlib.Data.List.Perm.Subperm
import Mathlib.Order.Lattice

/-!
# Sliding windows by key

A queue of times from which the oldest expire, and one such queue for each key,
in order of the keys' last use. `Holds` says which records the queues still hold.
-/

namespace SlidingWindow

universe uKey uTime

variable {Key : Type uKey} {Time : Type uTime} [LinearOrder Time]

/-- Drop what is not later than the cutoff off the front of a queue. -/
def expire (cutoff : Time) (times : List Time) : List Time :=
  times.dropWhile (· ≤ cutoff)

section Expire

variable {cutoff later : Time} {times : List Time}

theorem expire_length_le : (expire cutoff times).length ≤ times.length :=
  (List.dropWhile_sublist _).length_le

/-- A queue gets shorter exactly when its oldest time expires. -/
theorem expire_length_lt_iff :
    (expire cutoff times).length < times.length ↔ ∃ oldest ∈ times.head?, oldest ≤ cutoff := by
  cases times with
  | nil => simp [expire]
  | cons oldest rest =>
      by_cases hold : oldest ≤ cutoff
      · have hrest := @expire_length_le _ _ cutoff rest
        simp only [expire, List.dropWhile_cons, hold, decide_true, if_true] at hrest ⊢
        simpa [hold] using Nat.lt_succ_of_le hrest
      · simp [expire, hold]

/-- What expires is a prefix: the oldest go first. -/
theorem expire_suffix : expire cutoff times <:+ times :=
  List.dropWhile_suffix _

/-- The oldest time of a queue that has been expired is later than the cutoff. -/
theorem lt_of_mem_head?_expire {oldest : Time} (holdest : oldest ∈ (expire cutoff times).head?) :
    cutoff < oldest := by
  induction times with
  | nil => cases holdest
  | cons first rest ih =>
      by_cases hfirst : first ≤ cutoff
      · have hrest : expire cutoff (first :: rest) = expire cutoff rest := by
          simp [expire, hfirst]
        exact ih (hrest ▸ holdest)
      · have hkept : expire cutoff (first :: rest) = first :: rest := by
          simp [expire, hfirst]
        rw [hkept, List.head?_cons, Option.mem_some_iff] at holdest
        exact holdest ▸ lt_of_not_ge hfirst

theorem expire_expire (hlater : cutoff ≤ later) :
    expire later (expire cutoff times) = expire later times := by
  induction times with
  | nil => rfl
  | cons oldest rest ih =>
      by_cases hold : oldest ≤ cutoff
      · have hboth : oldest ≤ later := hold.trans hlater
        simpa [expire, hold, hboth] using ih
      · simp [expire, hold]

/-- Of a sorted queue exactly the later times are left. -/
theorem expire_eq_filter (hsorted : times.Pairwise (· ≤ ·)) :
    expire cutoff times = times.filter (cutoff < ·) := by
  induction hsorted with
  | nil => rfl
  | @cons oldest rest hoff hrest ih =>
      by_cases hold : oldest ≤ cutoff
      · have hexpired : ¬ cutoff < oldest := hold.not_gt
        simpa [expire, hold, hexpired] using ih
      · have hkept : cutoff < oldest := lt_of_not_ge hold
        have hall : rest.filter (cutoff < ·) = rest := by
          rw [List.filter_eq_self]
          intro time htime
          simpa using hkept.trans_le (hoff time htime)
        simp [expire, hold, hkept, hall]

end Expire

/-! ## Windows of a sorted record -/

section Window

variable {records : List (Key × Time)} {cutoff : Time → Time} {limit : Nat}

/-- The records of the window that ends at a time, its start left out. -/
def inWindow (cutoff : Time → Time) (records : List (Key × Time)) (ends : Time) :
    List (Key × Time) :=
  records.filter fun record => cutoff ends < record.2 ∧ record.2 ≤ ends

/-- When each record is made in a window with room, no window is over the limit. -/
theorem inWindow_snoc (hcutoff : Monotone cutoff) {record : Key × Time}
    (hroom : (records.filter fun earlier => cutoff record.2 < earlier.2).length < limit)
    (hlimit : ∀ ends, (inWindow cutoff records ends).length ≤ limit) (ends : Time) :
    (inWindow cutoff (records ++ [record]) ends).length ≤ limit := by
  rw [inWindow, List.filter_append]
  by_cases hinside : cutoff ends < record.2 ∧ record.2 ≤ ends
  · have hsubset : (records.filter fun earlier =>
        cutoff ends < earlier.2 ∧ earlier.2 ≤ ends).length ≤
          (records.filter fun earlier => cutoff record.2 < earlier.2).length := by
      apply List.Sublist.length_le
      apply List.monotone_filter_right
      intro earlier hearlier
      rw [decide_eq_true_eq] at hearlier ⊢
      exact lt_of_le_of_lt (hcutoff hinside.2) hearlier.1
    rw [List.length_append]
    simp only [hinside, List.filter_cons, List.filter_nil, and_self, decide_true, if_true,
      List.length_singleton]
    exact Nat.lt_of_le_of_lt hsubset hroom
  · have hnone : ([record].filter fun earlier =>
        cutoff ends < earlier.2 ∧ earlier.2 ≤ ends) = [] := by
      simp only [List.filter_cons, List.filter_nil, hinside, decide_false, Bool.false_eq_true,
        if_false]
    rw [hnone, List.append_nil]
    exact hlimit ends

end Window

end SlidingWindow

/-- A queue of all times, and one for each key. -/
structure KeyedWindows (Key : Type*) (Time : Type*) where
  all : List Time := []
  byKey : List (Key × List Time) := []

namespace KeyedWindows

open SlidingWindow

universe uKey uTime

variable {Key : Type uKey} {Time : Type uTime} [DecidableEq Key]

/-- The queue of a key; a key without one has no times. -/
def timesOf (windows : KeyedWindows Key Time) (key : Key) : List Time :=
  (windows.byKey.lookup key).getD []

/-- Record a time. A known key becomes the last used; for a new one at capacity
the key used longest ago is forgotten. -/
def record (windows : KeyedWindows Key Time) (capacity : Nat) (key : Key) (now : Time) :
    KeyedWindows Key Time where
  all := windows.all ++ [now]
  byKey :=
    match windows.byKey.lookup key with
    | none =>
        (if capacity ≤ windows.byKey.length then windows.byKey.tail else windows.byKey) ++
          [(key, [now])]
    | some times => windows.byKey.filter (fun entry => entry.1 ≠ key) ++ [(key, times ++ [now])]

/-! ## The queue of one key -/

section Lookup

variable {key other : Key} {times : List Time} {entries : List (Key × List Time)}

theorem lookup_cons_eq (first : Key) (held : List Time) (rest : List (Key × List Time)) :
    ((first, held) :: rest).lookup key = if key = first then some held else rest.lookup key := by
  rw [List.lookup_cons]
  by_cases hkey : key = first
  · rw [if_pos hkey, beq_iff_eq.mpr hkey]
  · rw [if_neg hkey, beq_false_of_ne hkey]

theorem lookup_append_fresh (hfresh : entries.lookup key = none) :
    (entries ++ [(key, times)]).lookup other =
      if other = key then some times else entries.lookup other := by
  induction entries with
  | nil => exact lookup_cons_eq key times []
  | cons entry rest ih =>
      obtain ⟨first, held⟩ := entry
      rw [lookup_cons_eq] at hfresh
      by_cases hkey : key = first
      · rw [if_pos hkey] at hfresh
        cases hfresh
      · rw [if_neg hkey] at hfresh
        rw [List.cons_append, lookup_cons_eq, lookup_cons_eq, ih hfresh]
        by_cases hfirst : other = first
        · have hother : other ≠ key := fun hother => hkey (hother.symm.trans hfirst)
          rw [if_pos hfirst, if_neg hother, if_pos hfirst]
        · rw [if_neg hfirst, if_neg hfirst]

theorem lookup_remove :
    (entries.filter fun entry => entry.1 ≠ key).lookup other =
      if other = key then none else entries.lookup other := by
  induction entries with
  | nil => simp
  | cons entry rest ih =>
      obtain ⟨first, held⟩ := entry
      by_cases hfirst : first = key
      · subst hfirst
        rw [List.filter_cons_of_neg (by simp), ih, lookup_cons_eq]
        by_cases hother : other = first
        · rw [if_pos hother, if_pos hother]
        · rw [if_neg hother, if_neg hother, if_neg hother]
      · rw [List.filter_cons_of_pos (by simpa using hfirst), lookup_cons_eq, ih, lookup_cons_eq]
        by_cases hother : other = first
        · rw [if_pos hother, if_pos hother, if_neg (hother.trans_ne hfirst)]
        · rw [if_neg hother, if_neg hother]

theorem lookup_eq_none_of_notMem (hkey : key ∉ entries.map Prod.fst) :
    entries.lookup key = none := by
  rw [List.lookup_eq_none_iff]
  intro entry hentry
  rw [bne_iff_ne]
  rintro rfl
  exact hkey (List.mem_map_of_mem hentry)

/-- With distinct keys, an entry is what its key finds. -/
theorem lookup_of_mem (hkeys : (entries.map Prod.fst).Nodup) {entry : Key × List Time}
    (hentry : entry ∈ entries) : entries.lookup entry.1 = some entry.2 := by
  induction entries with
  | nil => cases hentry
  | cons first rest ih =>
      rw [List.map_cons, List.nodup_cons] at hkeys
      rw [← Prod.eta first, lookup_cons_eq]
      rcases List.mem_cons.mp hentry with rfl | hrest
      · exact if_pos rfl
      · rw [if_neg, ih hkeys.2 hrest]
        intro hsame
        exact hkeys.1 (hsame ▸ List.mem_map_of_mem hrest)

variable [LinearOrder Time]

/-- Drop the expired times of each key, and the keys that have none left. -/
def expireEach (cutoff : Time) (entries : List (Key × List Time)) : List (Key × List Time) :=
  entries.filterMap fun (key, times) =>
    if expire cutoff times = [] then none else some (key, expire cutoff times)

omit [DecidableEq Key] in
/-- Keys whose times are all gone are dropped, and the order stays. -/
theorem expireEach_keys_sublist (cutoff : Time) (entries : List (Key × List Time)) :
    ((expireEach cutoff entries).map Prod.fst).Sublist (entries.map Prod.fst) := by
  induction entries with
  | nil => exact List.Sublist.slnil
  | cons entry rest ih =>
      obtain ⟨key, times⟩ := entry
      unfold expireEach at ih ⊢
      by_cases hexpired : expire cutoff times = []
      · rw [List.filterMap_cons_none (by simp [hexpired])]
        exact ih.cons key
      · rw [List.filterMap_cons_some (b := (key, expire cutoff times)) (by simp [hexpired])]
        exact ih.cons_cons key

/-- Expiring every entry is expiring the one that is looked up. -/
theorem lookup_expireEach {cutoff : Time} (hkeys : (entries.map Prod.fst).Nodup) :
    ((expireEach cutoff entries).lookup key).getD [] =
      expire cutoff ((entries.lookup key).getD []) := by
  unfold expireEach
  induction entries with
  | nil => rfl
  | cons entry rest ih =>
      obtain ⟨first, held⟩ := entry
      rw [List.map_cons, List.nodup_cons] at hkeys
      have hrest := ih hkeys.2
      by_cases hexpired : expire cutoff held = []
      · rw [List.filterMap_cons_none (by simp [hexpired]), hrest, lookup_cons_eq]
        by_cases hkey : key = first
        · rw [if_pos hkey, hkey, lookup_eq_none_of_notMem hkeys.1]
          exact hexpired.symm
        · rw [if_neg hkey]
      · rw [List.filterMap_cons_some (b := (first, expire cutoff held)) (by simp [hexpired]),
          lookup_cons_eq, lookup_cons_eq]
        by_cases hkey : key = first
        · rw [if_pos hkey, if_pos hkey]
          rfl
        · rw [if_neg hkey, if_neg hkey]
          exact hrest

end Lookup

/-! ## Recording a time -/

section Record

variable {windows : KeyedWindows Key Time} {capacity : Nat} {key : Key} {now : Time}

theorem timesOf_record (hroom : windows.byKey.length < capacity) (other : Key) :
    (windows.record capacity key now).timesOf other =
      windows.timesOf other ++ if other = key then [now] else [] := by
  unfold record timesOf
  cases hlookup : windows.byKey.lookup key with
  | none =>
      dsimp only
      rw [if_neg (Nat.not_le_of_lt hroom), lookup_append_fresh hlookup]
      by_cases hother : other = key
      · rw [if_pos hother, if_pos hother, hother, hlookup]
        rfl
      · rw [if_neg hother, if_neg hother, List.append_nil]
  | some times =>
      dsimp only
      rw [lookup_append_fresh (by rw [lookup_remove, if_pos rfl]), lookup_remove]
      by_cases hother : other = key
      · rw [if_pos hother, if_pos hother, hother, hlookup]
        rfl
      · rw [if_neg hother, if_neg hother, if_neg hother, List.append_nil]

/-- No key is recorded twice. -/
theorem record_keys_nodup (hroom : windows.byKey.length < capacity)
    (hkeys : (windows.byKey.map Prod.fst).Nodup) :
    ((windows.record capacity key now).byKey.map Prod.fst).Nodup := by
  unfold record
  cases hlookup : windows.byKey.lookup key with
  | none =>
      dsimp only
      rw [if_neg (Nat.not_le_of_lt hroom), List.map_append]
      refine hkeys.append (List.nodup_singleton key) ?_
      rw [List.map_singleton, List.disjoint_singleton]
      intro hmem
      obtain ⟨entry, hentry, hsame⟩ := List.mem_map.mp hmem
      exact bne_iff_ne.mp (List.lookup_eq_none_iff.mp hlookup entry hentry) hsame.symm
  | some times =>
      dsimp only
      rw [List.map_append]
      refine (hkeys.sublist (List.filter_sublist.map Prod.fst)).append
        (List.nodup_singleton key) ?_
      rw [List.map_singleton, List.disjoint_singleton]
      intro hmem
      obtain ⟨entry, hentry, hsame⟩ := List.mem_map.mp hmem
      exact of_decide_eq_true (List.mem_filter.mp hentry).2 hsame

theorem record_nonempty (hroom : windows.byKey.length < capacity)
    (hnonempty : ∀ entry ∈ windows.byKey, entry.2 ≠ []) :
    ∀ entry ∈ (windows.record capacity key now).byKey, entry.2 ≠ [] := by
  intro entry hentry
  unfold record at hentry
  cases hlookup : windows.byKey.lookup key with
  | none =>
      rw [hlookup] at hentry
      dsimp only at hentry
      rw [if_neg (Nat.not_le_of_lt hroom), List.mem_append, List.mem_singleton] at hentry
      rcases hentry with hentry | rfl
      · exact hnonempty entry hentry
      · exact List.cons_ne_nil now []
  | some times =>
      rw [hlookup] at hentry
      dsimp only at hentry
      rw [List.mem_append, List.mem_singleton] at hentry
      rcases hentry with hentry | rfl
      · exact hnonempty entry (List.mem_filter.mp hentry).1
      · exact List.append_ne_nil_of_right_ne_nil times (List.cons_ne_nil now [])

end Record

variable [LinearOrder Time]

/-- Drop expired times; a key whose queue is empty is forgotten. -/
def prune (windows : KeyedWindows Key Time) (cutoff : Time) : KeyedWindows Key Time where
  all := expire cutoff windows.all
  byKey := expireEach cutoff windows.byKey

/-- The queues hold exactly the records after a cutoff. -/
structure Holds (windows : KeyedWindows Key Time) (records : List (Key × Time))
    (cutoff : Time) : Prop where
  all : windows.all = (records.map Prod.snd).filter (cutoff < ·)
  timesOf : ∀ key, windows.timesOf key =
    ((records.filter fun record => record.1 = key).map Prod.snd).filter (cutoff < ·)
  keys : (windows.byKey.map Prod.fst).Nodup
  nonempty : ∀ entry ∈ windows.byKey, entry.2 ≠ []

namespace Holds

variable {windows : KeyedWindows Key Time} {records : List (Key × Time)} {cutoff later : Time}

theorem empty (cutoff : Time) : ({} : KeyedWindows Key Time).Holds [] cutoff :=
  ⟨rfl, fun _ => rfl, List.nodup_nil, fun _ hentry => absurd hentry List.not_mem_nil⟩

/-- Pruning keeps the windows in step with the records. -/
theorem prune (h : windows.Holds records cutoff)
    (hsorted : (records.map Prod.snd).Pairwise (· ≤ ·)) (hlater : cutoff ≤ later) :
    (windows.prune later).Holds records later := by
  have hqueue : ∀ {times : List Time}, times.Pairwise (· ≤ ·) →
      expire later (times.filter (cutoff < ·)) = times.filter (later < ·) := by
    intro times htimes
    rw [← expire_eq_filter htimes, expire_expire hlater, expire_eq_filter htimes]
  constructor
  · show expire later windows.all = _
    rw [h.all, hqueue hsorted]
  · intro key
    have hkey : ((records.filter fun record => record.1 = key).map Prod.snd).Pairwise (· ≤ ·) :=
      hsorted.sublist (List.filter_sublist.map Prod.snd)
    show ((expireEach later windows.byKey).lookup key).getD [] = _
    rw [lookup_expireEach h.keys, ← hqueue hkey, ← h.timesOf key]
    rfl
  · exact h.keys.sublist (expireEach_keys_sublist later windows.byKey)
  · intro entry hentry
    obtain ⟨⟨key, times⟩, -, hkept⟩ := List.mem_filterMap.mp hentry
    by_cases hexpired : expire later times = []
    · simp [hexpired] at hkept
    · simp only [hexpired, if_false, Option.some.injEq] at hkept
      rw [← hkept]
      exact hexpired

/-- Every key with a queue has a record that has not expired. -/
theorem byKey_length_le (h : windows.Holds records cutoff) :
    windows.byKey.length ≤ windows.all.length := by
  have hsubset : windows.byKey.map Prod.fst ⊆
      (records.filter fun record => cutoff < record.2).map Prod.fst := by
    intro key hkey
    obtain ⟨⟨first, times⟩, hentry, rfl⟩ := List.mem_map.mp hkey
    have hheld := h.timesOf first
    rw [KeyedWindows.timesOf, lookup_of_mem h.keys hentry, Option.getD_some] at hheld
    dsimp only at hheld
    obtain ⟨time, htime⟩ := List.exists_mem_of_ne_nil times (h.nonempty _ hentry)
    rw [hheld, List.mem_filter, List.mem_map] at htime
    obtain ⟨⟨record, hrecord, rfl⟩, hrecent⟩ := htime
    rw [List.mem_filter, decide_eq_true_eq] at hrecord
    exact List.mem_map.mpr
      ⟨record, List.mem_filter.mpr ⟨hrecord.1, hrecent⟩, hrecord.2⟩
  have hlength := (h.keys.subperm hsubset).length_le
  rw [List.length_map, List.length_map] at hlength
  rw [h.all, List.filter_map, List.length_map]
  exact hlength

/-- And so does recording, while there is room. -/
theorem record (h : windows.Holds records cutoff) {capacity : Nat} {key : Key} {now : Time}
    (hroom : windows.byKey.length < capacity) (hnow : cutoff < now) :
    (windows.record capacity key now).Holds (records ++ [(key, now)]) cutoff where
  all := by
    show windows.all ++ [now] = _
    rw [List.map_append, List.filter_append, ← h.all]
    simp [hnow]
  timesOf := by
    intro other
    rw [timesOf_record hroom, h.timesOf other, List.filter_append, List.map_append,
      List.filter_append]
    by_cases hother : other = key
    · simp [hother, hnow]
    · simp [hother, Ne.symm hother]
  keys := record_keys_nodup hroom h.keys
  nonempty := record_nonempty hroom h.nonempty

end Holds

/-- Queues of sorted records of which none is over its limit. -/
structure Capped (windows : KeyedWindows Key Time) (records : List (Key × Time)) (cutoff : Time)
    (total perKey : Nat) : Prop where
  holds : windows.Holds records cutoff
  sorted : (records.map Prod.snd).Pairwise (· ≤ ·)
  all : windows.all.length ≤ total
  timesOf : ∀ key, (windows.timesOf key).length ≤ perKey

namespace Capped

variable {windows : KeyedWindows Key Time} {records : List (Key × Time)} {cutoff later : Time}
  {total perKey : Nat}

theorem empty (cutoff : Time) (total perKey : Nat) :
    ({} : KeyedWindows Key Time).Capped [] cutoff total perKey where
  holds := .empty cutoff
  sorted := List.Pairwise.nil
  all := Nat.zero_le _
  timesOf := fun _ => Nat.zero_le _

theorem prune (h : windows.Capped records cutoff total perKey) (hlater : cutoff ≤ later) :
    (windows.prune later).Capped records later total perKey where
  holds := h.holds.prune h.sorted hlater
  sorted := h.sorted
  all := expire_length_le.trans h.all
  timesOf := by
    intro key
    have hqueue : (windows.prune later).timesOf key = expire later (windows.timesOf key) :=
      lookup_expireEach h.holds.keys
    rw [hqueue]
    exact expire_length_le.trans (h.timesOf key)

/-- No key is forgotten while fewer times are held than keys may be. -/
theorem byKey_length_lt (h : windows.Capped records cutoff total perKey) {capacity : Nat}
    (hcapacity : total < capacity) : windows.byKey.length < capacity :=
  Nat.lt_of_le_of_lt (h.holds.byKey_length_le.trans h.all) hcapacity

theorem record (h : windows.Capped records cutoff total perKey) {capacity : Nat} {key : Key}
    {now : Time} (hcapacity : total < capacity) (hnow : cutoff < now)
    (hlast : ∀ record ∈ records, record.2 ≤ now) (hall : windows.all.length < total)
    (hkey : (windows.timesOf key).length < perKey) :
    (windows.record capacity key now).Capped (records ++ [(key, now)]) cutoff total perKey where
  holds := h.holds.record (h.byKey_length_lt hcapacity) hnow
  sorted := by
    rw [List.map_append, List.pairwise_append]
    refine ⟨h.sorted, List.pairwise_singleton _ _, ?_⟩
    intro early hearly late hlate
    obtain ⟨record, hrecord, rfl⟩ := List.mem_map.mp hearly
    obtain rfl := List.mem_singleton.mp hlate
    exact hlast record hrecord
  all := by
    show (windows.all ++ [now]).length ≤ total
    rw [List.length_append]
    exact hall
  timesOf := by
    intro other
    rw [timesOf_record (h.byKey_length_lt hcapacity), List.length_append]
    by_cases hother : other = key
    · rw [if_pos hother, hother]
      exact hkey
    · rw [if_neg hother]
      exact h.timesOf other

end Capped

end KeyedWindows
