import CompanionBridge.Protocol.OpackPresence

/-!
# Progress of the decoder

Each call of the decoder takes a tag off the data it is given. Its calls are
counted along the loops that make them, also of data it refuses, and no call is
without a byte of its own.
-/

namespace CompanionBridge

/-! ## Counting calls and nodes -/

/-- The calls of a step, and of what follows it if the step succeeds. -/
def callsThen {Result : Type} (step : OpackStep Result)
    (calls next : Bytes → List OpackScalar → Nat) (data : Bytes) (objects : List OpackScalar) :
    Nat :=
  calls data objects +
    match step data objects with
    | none => 0
    | some (_, data, objects) => next data objects

/-- A key and its value, up to `output[key] = value`: a container as a key raises. -/
def keyedStep (item : Bytes → List OpackScalar → Option OpackDecoded) :
    OpackStep (OpackDecoded × OpackValue) :=
  fun data objects => (entryStep item data objects).filter fun entry =>
    match entry.1.1.value with
    | .scalar _ => true
    | _ => false

section Loops

variable {Result : Type} (step : OpackStep Result) (calls : Bytes → List OpackScalar → Nat)

def repeatCalls : Nat → Bytes → List OpackScalar → Nat
  | 0, _, _ => 0
  | count + 1, data, objects => callsThen step calls (repeatCalls count) data objects

def repeatUntilCalls : Nat → Bytes → List OpackScalar → Nat
  | 0, _, _ => 0
  | _ + 1, [], _ => 0
  | fuel + 1, tag :: body, objects =>
      if tag = 3 then 0
      else callsThen step calls (repeatUntilCalls fuel) (tag :: body) objects

def containerCalls (count : Nat) (data : Bytes) (objects : List OpackScalar) : Nat :=
  if count = 0xF then repeatUntilCalls step calls (data.length + 1) data objects
  else repeatCalls step calls count data objects

end Loops

/-- How many calls of `_unpack` find a tag while this one runs, itself included. -/
def unpackCalls : Nat → Bytes → List OpackScalar → Nat
  | 0, _, _ => 0
  | _ + 1, [], _ => 0
  | depth + 1, tag :: body, objects =>
      if tag.toNat / 16 = 0xD then
        1 + containerCalls (valueStep (unpackWith depth)) (unpackCalls depth) (tag.toNat % 16)
          body objects
      else if tag.toNat / 32 = 7 then
        1 + containerCalls (keyedStep (unpackWith depth))
          (callsThen (valueStep (unpackWith depth)) (unpackCalls depth) (unpackCalls depth))
          (tag.toNat % 16) body objects
      else 1

mutual

/-- The values in a value, itself included. -/
def OpackValue.nodes : OpackValue → Nat
  | .scalar _ => 1
  | .list items => 1 + itemNodes items
  | .dict entries => 1 + entryNodes entries

def itemNodes : List OpackValue → Nat
  | [] => 0
  | first :: rest => first.nodes + itemNodes rest

def entryNodes : List (OpackValue × OpackValue) → Nat
  | [] => 0
  | (key, value) :: rest => key.nodes + value.nodes + entryNodes rest

end

/-! ## What is left -/

/-- Every decoded value takes bytes off the front, one at least for each node of it. -/
def TakesOff (item : Bytes → List OpackScalar → Option OpackDecoded) : Prop :=
  ∀ {data objects decoded}, item data objects = some decoded →
    decoded.remaining <:+ data ∧ decoded.value.nodes + decoded.remaining.length ≤ data.length

section Items

variable {item : Bytes → List OpackScalar → Option OpackDecoded}

/-- Items take their nodes off the data, by induction. -/
theorem DecodesAll.takesOff (hitem : TakesOff item) {decoded : List OpackDecoded} {data : Bytes}
    {objects : List OpackScalar} {remaining : Bytes} {after : List OpackScalar}
    (hdecodes : DecodesAll item decoded data objects remaining after) :
    remaining <:+ data ∧
      itemNodes (decoded.map OpackDecoded.value) + remaining.length ≤ data.length := by
  induction decoded generalizing data objects with
  | nil =>
      obtain ⟨rfl, -⟩ := hdecodes
      exact ⟨List.suffix_refl remaining, by simp [itemNodes]⟩
  | cons first rest ih =>
      obtain ⟨hsuffix, hnodes⟩ := hitem hdecodes.1
      obtain ⟨hrest, hothers⟩ := ih hdecodes.2
      refine ⟨hrest.trans hsuffix, ?_⟩
      rw [List.map_cons, itemNodes]
      omega

end Items

/-- Setting a key adds a key and a value at most. -/
theorem entryNodes_setEntry (entries : OpackEntries) (key : OpackScalar) (object : Option Nat)
    (value : OpackValue) :
    entryNodes (entryPairs (setEntry entries key object value)) ≤
      entryNodes (entryPairs entries) + 1 + value.nodes := by
  induction entries with
  | nil => simp [setEntry, entryPairs, entryNodes, OpackValue.nodes]
  | cons entry rest ih =>
      obtain ⟨held, heldObject, old⟩ := entry
      rw [setEntry]
      split
      · simp only [entryPairs, List.map_cons, entryNodes]
        omega
      · simp only [entryPairs, List.map_cons, entryNodes] at ih ⊢
        omega

/-- A dictionary has no more nodes than the items it was built from. -/
theorem entryNodes_buildEntries {items : List OpackDecoded} {entries built : OpackEntries}
    (hbuilt : buildEntries entries (pairUp items) = some built) :
    entryNodes (entryPairs built) ≤
      entryNodes (entryPairs entries) + itemNodes (items.map OpackDecoded.value) := by
  induction items using pairUp.induct generalizing entries with
  | case1 key value rest ih =>
      rw [pairUp, buildEntries] at hbuilt
      split at hbuilt
      · rename_i scalar hscalar
        have hset := entryNodes_setEntry entries scalar key.object value.value
        have hrest := ih hbuilt
        have hkey : key.value.nodes = 1 := by rw [hscalar, OpackValue.nodes]
        rw [List.map_cons, List.map_cons, itemNodes, itemNodes, hkey]
        omega
      · cases hbuilt
  | case2 items hshort =>
      rw [pairUp] at hbuilt
      · obtain rfl := Option.some.inj hbuilt
        omega
      · exact hshort

theorem containerValue_nodes {tag : Nat} {items : List OpackDecoded} {value : OpackValue}
    (hvalue : containerValue tag items = some value) :
    value.nodes ≤ 1 + itemNodes (items.map OpackDecoded.value) := by
  unfold containerValue at hvalue
  split at hvalue
  · obtain rfl := Option.some.inj hvalue
    rw [OpackValue.nodes]
  · obtain ⟨entries, hentries, rfl⟩ := Option.map_eq_some_iff.mp hvalue
    have hbuilt := entryNodes_buildEntries hentries
    rw [OpackValue.nodes]
    simp only [entryPairs, List.map_nil, entryNodes] at hbuilt ⊢
    omega

/-- A result that is a scalar, if it is one. -/
def IsScalar (result : Option OpackDecoded) : Prop :=
  ∀ decoded, result = some decoded → ∃ scalar, decoded.value = .scalar scalar

section Scalars

variable {body : Bytes} {objects : List OpackScalar}

theorem isScalar_none : IsScalar none :=
  fun _ hdecoded => nomatch hdecoded

theorem isScalar_loose (value : OpackScalar) :
    IsScalar (some (.loose (.scalar value) body objects)) := by
  intro decoded hdecoded
  obtain rfl := Option.some.inj hdecoded
  exact ⟨value, rfl⟩

theorem isScalar_kept (value : OpackScalar) : IsScalar (some (.kept value body objects)) := by
  intro decoded hdecoded
  obtain rfl := Option.some.inj hdecoded
  refine ⟨value, ?_⟩
  rw [OpackDecoded.kept]
  split <;> rfl

theorem isScalar_text (text : Option String) (rest : Bytes) :
    IsScalar (text.map fun text => .kept (.str text) rest objects) := by
  cases text with
  | none => exact isScalar_none
  | some text => exact isScalar_kept (.str text)

theorem isScalar_referenced (index : Nat) :
    IsScalar (OpackDecoded.referenced index body objects) := by
  intro decoded hdecoded
  obtain ⟨value, -, rfl⟩ := Option.map_eq_some_iff.mp hdecoded
  exact ⟨value, rfl⟩

theorem isScalar_ite {condition : Prop} [Decidable condition] {first second : Option OpackDecoded}
    (hfirst : IsScalar first) (hsecond : IsScalar second) :
    IsScalar (if condition then first else second) := by
  by_cases hcondition : condition
  · rwa [if_pos hcondition]
  · rwa [if_neg hcondition]

theorem unpackScalar_isScalar (tag : Nat) : IsScalar (unpackScalar tag body objects) := by
  unfold unpackScalar
  dsimp only
  repeat' apply isScalar_ite
  all_goals
    first
    | exact isScalar_none
    | exact isScalar_loose _
    | exact isScalar_kept _
    | exact isScalar_text _ _
    | exact isScalar_referenced _
    | split
      · exact isScalar_kept _
      · exact isScalar_none

end Scalars

/-- Every value takes at least its number of nodes off the data, by induction on the depth.
-/
theorem unpackWith_takesOff (depth : Nat) : TakesOff (unpackWith depth) := by
  induction depth with
  | zero =>
      intro data objects decoded hdecoded
      cases hdecoded
  | succ depth ih =>
      intro data objects decoded hdecoded
      match data with
      | [] => cases hdecoded
      | tag :: body =>
          by_cases hopening : tag.toNat / 16 = 0xD ∨ tag.toNat / 32 = 7
          · obtain ⟨items, value, remaining, after, -, hdecodes, hvalue, rfl⟩ :=
              (unpackWith_container hopening).mp hdecoded
            obtain ⟨hsuffix, hnodes⟩ := hdecodes.takesOff ih
            have hvalue := containerValue_nodes hvalue
            rw [List.length_append] at hnodes
            refine ⟨?_, ?_⟩
            · exact ((List.suffix_append _ remaining).trans hsuffix).trans
                (List.suffix_cons tag body)
            · dsimp only [OpackDecoded.loose]
              rw [List.length_cons]
              omega
          · obtain ⟨hlist, hdict⟩ := not_or.mp hopening
            rw [unpackWith, if_neg hlist, if_neg hdict] at hdecoded
            obtain ⟨size, -, hremaining⟩ := unpackScalar_remaining hdecoded
            obtain ⟨scalar, hscalar⟩ := unpackScalar_isScalar _ _ hdecoded
            rw [hremaining, hscalar, OpackValue.nodes, List.length_cons, List.length_drop]
            refine ⟨(List.drop_suffix size body).trans (List.suffix_cons tag body), ?_⟩
            omega

/-! ## The calls -/

/-- Calls are no more than the bytes, and no more than those taken off. -/
structure CallsWithin {Result : Type} (step : OpackStep Result)
    (calls : Bytes → List OpackScalar → Nat) : Prop where
  all : ∀ data objects, calls data objects ≤ data.length
  taken : ∀ {data objects result remaining after},
    step data objects = some (result, remaining, after) →
      calls data objects + remaining.length ≤ data.length

section Loops

variable {Result : Type} {step kept : OpackStep Result} {calls : Bytes → List OpackScalar → Nat}

/-- A step and all that follow it, in the calls the data allows. -/
theorem CallsWithin.then_all (hstep : CallsWithin step calls)
    (hkept : ∀ {data objects result}, kept data objects = some result →
      step data objects = some result) {next : Bytes → List OpackScalar → Nat}
    (hnext : ∀ data objects, next data objects ≤ data.length) (data : Bytes)
    (objects : List OpackScalar) : callsThen kept calls next data objects ≤ data.length := by
  unfold callsThen
  cases hfirst : kept data objects with
  | none => exact hstep.all data objects
  | some first =>
      obtain ⟨result, remaining, after⟩ := first
      have htaken := hstep.taken (hkept hfirst)
      have hrest := hnext remaining after
      dsimp only
      omega

theorem CallsWithin.then_taken (hstep : CallsWithin step calls)
    (hkept : ∀ {data objects result}, kept data objects = some result →
      step data objects = some result) {next : Bytes → List OpackScalar → Nat} {data : Bytes}
    {objects : List OpackScalar} {result : Result} {middle : Bytes} {table : List OpackScalar}
    (hfirst : step data objects = some (result, middle, table)) {left : Nat}
    (hnext : next middle table + left ≤ middle.length) :
    callsThen kept calls next data objects + left ≤ data.length := by
  have htaken := hstep.taken hfirst
  unfold callsThen
  cases hkeep : kept data objects with
  | none =>
      dsimp only
      omega
  | some found =>
      obtain rfl := Option.some.inj (hfirst.symm.trans (hkept hkeep))
      dsimp only
      omega

/-- A loop over a step, with the calls of the step as far as it is kept up. -/
theorem CallsWithin.repeatStep (hstep : CallsWithin step calls)
    (hkept : ∀ {data objects result}, kept data objects = some result →
      step data objects = some result) (count : Nat) :
    CallsWithin (repeatStep step count) (repeatCalls kept calls count) := by
  induction count with
  | zero =>
      refine ⟨fun _ _ => Nat.zero_le _, ?_⟩
      intro data objects result remaining after hresult
      cases hresult
      rw [repeatCalls, Nat.zero_add]
  | succ count ih =>
      constructor
      · exact hstep.then_all hkept ih.all
      · intro data objects result remaining after hresult
        simp only [CompanionBridge.repeatStep, Option.bind_eq_bind, Option.bind_eq_some_iff]
          at hresult
        obtain ⟨⟨first, middle, table⟩, hfirst, ⟨rest, left, others⟩, hrest, hresult⟩ := hresult
        cases hresult
        exact hstep.then_taken hkept hfirst (ih.taken hrest)

/-- Steps up to the marker. -/
theorem CallsWithin.repeatUntil (hstep : CallsWithin step calls)
    (hkept : ∀ {data objects result}, kept data objects = some result →
      step data objects = some result) (fuel : Nat) :
    CallsWithin (repeatUntil step fuel) (repeatUntilCalls kept calls fuel) := by
  induction fuel with
  | zero => exact ⟨fun _ _ => Nat.zero_le _, fun hresult => nomatch hresult⟩
  | succ fuel ih =>
      constructor
      · intro data objects
        match data with
        | [] => exact Nat.zero_le _
        | tag :: body =>
            rw [repeatUntilCalls]
            split
            · exact Nat.zero_le _
            · exact hstep.then_all hkept ih.all _ objects
      · intro data objects result remaining after hresult
        match data with
        | [] => cases hresult
        | tag :: body =>
            rw [repeatUntilCalls]
            by_cases htag : tag = 3
            · subst htag
              cases hresult
              rw [if_pos rfl, List.length_cons]
              omega
            · simp only [CompanionBridge.repeatUntil, if_neg htag, Option.bind_eq_bind,
                Option.bind_eq_some_iff] at hresult
              obtain ⟨⟨first, middle, table⟩, hfirst, ⟨rest, left, others⟩, hrest, hresult⟩ :=
                hresult
              cases hresult
              rw [if_neg htag]
              exact hstep.then_taken hkept hfirst (ih.taken hrest)

theorem CallsWithin.containerSteps (hstep : CallsWithin step calls)
    (hkept : ∀ {data objects result}, kept data objects = some result →
      step data objects = some result) (count : Nat) :
    CallsWithin (containerSteps step count) (containerCalls kept calls count) := by
  constructor
  · intro data objects
    unfold containerCalls
    split
    · exact (hstep.repeatUntil hkept _).all data objects
    · exact (hstep.repeatStep hkept count).all data objects
  · intro data objects result remaining after hresult
    unfold CompanionBridge.containerSteps at hresult
    unfold containerCalls
    split at hresult
    · rw [if_pos ‹_›]
      exact (hstep.repeatUntil hkept _).taken hresult
    · rw [if_neg ‹_›]
      exact (hstep.repeatStep hkept count).taken hresult

end Loops

theorem keyedStep_eq_some {item : Bytes → List OpackScalar → Option OpackDecoded} {data : Bytes}
    {objects : List OpackScalar} {result : (OpackDecoded × OpackValue) × Bytes × List OpackScalar}
    (hresult : keyedStep item data objects = some result) :
    entryStep item data objects = some result :=
  (Option.filter_eq_some_iff.mp hresult).1

/-- A key and its value take off what both of them take off. -/
theorem CallsWithin.entryStep {item : Bytes → List OpackScalar → Option OpackDecoded}
    {calls : Bytes → List OpackScalar → Nat} (hitem : CallsWithin (valueStep item) calls) :
    CallsWithin (entryStep item) (callsThen (valueStep item) calls calls) := by
  constructor
  · exact hitem.then_all id hitem.all
  · intro data objects result remaining after hresult
    obtain ⟨key, value, hkey, hvalue, hsame⟩ := entryStep_eq_some.mp hresult
    cases hsame
    have hfirst := valueStep_eq_some.mpr ⟨key, hkey, rfl⟩
    have hsecond := valueStep_eq_some.mpr ⟨value, hvalue, rfl⟩
    exact hitem.then_taken id hfirst (hitem.taken hsecond)

/-- The calls of a decoding are within what its data allows, by induction on the depth. -/
theorem unpackWith_calls (depth : Nat) :
    CallsWithin (valueStep (unpackWith depth)) (unpackCalls depth) := by
  -- the calls are counted against the bytes taken, container by container
  induction depth with
  | zero => exact ⟨fun _ _ => Nat.zero_le _, fun hresult => nomatch hresult⟩
  | succ depth ih =>
      have hlists : ∀ count, CallsWithin (containerSteps (valueStep (unpackWith depth)) count)
          (containerCalls (valueStep (unpackWith depth)) (unpackCalls depth) count) :=
        fun count => ih.containerSteps id count
      have hdicts : ∀ count, CallsWithin (containerSteps (entryStep (unpackWith depth)) count)
          (containerCalls (keyedStep (unpackWith depth))
            (callsThen (valueStep (unpackWith depth)) (unpackCalls depth) (unpackCalls depth))
            count) :=
        fun count => ih.entryStep.containerSteps keyedStep_eq_some count
      constructor
      · intro data objects
        match data with
        | [] => exact Nat.zero_le _
        | tag :: body =>
            have hlist := (hlists (tag.toNat % 16)).all body objects
            have hdict := (hdicts (tag.toNat % 16)).all body objects
            rw [unpackCalls, List.length_cons]
            split_ifs <;> omega
      · intro data objects result remaining after hresult
        obtain ⟨decoded, hdecoded, hsame⟩ := valueStep_eq_some.mp hresult
        cases hsame
        match data with
        | [] => cases hdecoded
        | tag :: body =>
            rw [unpackWith] at hdecoded
            rw [unpackCalls, List.length_cons]
            by_cases hlist : tag.toNat / 16 = 0xD
            · rw [if_pos hlist] at hdecoded ⊢
              simp only [Option.bind_eq_bind, Option.bind_eq_some_iff] at hdecoded
              obtain ⟨⟨values, left, table⟩, hsteps, hloose⟩ := hdecoded
              cases hloose
              have htaken := (hlists _).taken hsteps
              dsimp only [OpackDecoded.loose]
              omega
            rw [if_neg hlist] at hdecoded ⊢
            by_cases hdict : tag.toNat / 32 = 7
            · rw [if_pos hdict] at hdecoded ⊢
              simp only [Option.bind_eq_bind, Option.bind_eq_some_iff] at hdecoded
              obtain ⟨⟨pairs, left, table⟩, hsteps, entries, -, hloose⟩ := hdecoded
              cases hloose
              have htaken := (hdicts _).taken hsteps
              dsimp only [OpackDecoded.loose]
              omega
            · rw [if_neg hdict] at hdecoded ⊢
              obtain ⟨size, -, hremaining⟩ := unpackScalar_remaining hdecoded
              rw [hremaining, List.length_drop]
              omega

/-! ## Enough turns -/

/-- Two steps that do the same on all data up to a length, and take bytes off it. -/
structure AgreeUpTo {Result : Type} (bound : Nat) (first second : OpackStep Result) : Prop where
  same : ∀ {data objects}, data.length ≤ bound → first data objects = second data objects
  shorter : ∀ {data objects result remaining after},
    first data objects = some (result, remaining, after) → remaining.length < data.length

section Turns

variable {Result : Type} {bound : Nat} {first second : OpackStep Result} {data : Bytes}
  {objects : List OpackScalar}

/-- Readers that agree on short data agree on items of short data. -/
theorem AgreeUpTo.repeatStep (hagree : AgreeUpTo bound first second) {count : Nat}
    (hdata : data.length ≤ bound) :
    repeatStep first count data objects = repeatStep second count data objects := by
  induction count generalizing data objects with
  | zero => rfl
  | succ count ih =>
      simp only [CompanionBridge.repeatStep, Option.bind_eq_bind, ← hagree.same hdata]
      cases hfirst : first data objects with
      | none => rfl
      | some found =>
          obtain ⟨result, remaining, after⟩ := found
          have hshorter := hagree.shorter hfirst
          simp only [Option.bind_some]
          rw [ih (by omega)]

/-- As many turns as bytes are enough for a loop to end by itself. -/
theorem AgreeUpTo.repeatUntil (hagree : AgreeUpTo bound first second)
    (hdata : data.length ≤ bound) {fuel other : Nat} (hfuel : data.length < fuel)
    (hother : data.length < other) :
    repeatUntil first fuel data objects = repeatUntil second other data objects := by
  induction fuel generalizing data objects other with
  | zero => omega
  | succ fuel ih =>
      cases other with
      | zero => omega
      | succ other =>
          match data with
          | [] => rfl
          | tag :: body =>
              rw [CompanionBridge.repeatUntil, CompanionBridge.repeatUntil]
              split
              · rfl
              · simp only [Option.bind_eq_bind, ← hagree.same hdata]
                cases hfirst : first (tag :: body) objects with
                | none => rfl
                | some found =>
                    obtain ⟨result, remaining, after⟩ := found
                    have hshorter := hagree.shorter hfirst
                    have hrest : CompanionBridge.repeatUntil first fuel remaining after =
                        CompanionBridge.repeatUntil second other remaining after :=
                      ih (by omega) (by omega) (by omega)
                    simp only [Option.bind_some]
                    rw [hrest]

theorem AgreeUpTo.containerSteps (hagree : AgreeUpTo bound first second) {count : Nat}
    (hdata : data.length ≤ bound) :
    containerSteps first count data objects = containerSteps second count data objects := by
  unfold CompanionBridge.containerSteps
  split
  · exact hagree.repeatUntil hdata (Nat.lt_succ_self _) (Nat.lt_succ_self _)
  · exact hagree.repeatStep hdata

end Turns

theorem valueStep_shorter {depth : Nat} {data remaining : Bytes} {objects after : List OpackScalar}
    {value : OpackValue}
    (hstep : valueStep (unpackWith depth) data objects = some (value, remaining, after)) :
    remaining.length < data.length := by
  obtain ⟨decoded, hdecoded, hsame⟩ := valueStep_eq_some.mp hstep
  cases hsame
  exact ((unpackWith_decodes depth).not_end hdecoded).2.2

theorem entryStep_shorter {depth : Nat} {data remaining : Bytes} {objects after : List OpackScalar}
    {entry : OpackDecoded × OpackValue}
    (hstep : entryStep (unpackWith depth) data objects = some (entry, remaining, after)) :
    remaining.length < data.length := by
  obtain ⟨key, value, hkey, hvalue, hsame⟩ := entryStep_eq_some.mp hstep
  cases hsame
  have hfirst := ((unpackWith_decodes depth).not_end hkey).2.2
  have hsecond := ((unpackWith_decodes depth).not_end hvalue).2.2
  omega

/-- A value is nested no deeper than its data is long. -/
theorem unpackWith_agree {bound depth other : Nat} (hdepth : bound < depth) (hother : bound < other)
    {data : Bytes} (objects : List OpackScalar) (hdata : data.length ≤ bound) :
    unpackWith depth data objects = unpackWith other data objects := by
  induction bound generalizing depth other data objects with
  | zero =>
      obtain ⟨depth, rfl⟩ := Nat.exists_eq_add_of_lt hdepth
      obtain ⟨other, rfl⟩ := Nat.exists_eq_add_of_lt hother
      obtain rfl := List.length_eq_zero_iff.mp (Nat.le_zero.mp hdata)
      rfl
  | succ bound ih =>
      match depth, other, data with
      | depth + 1, other + 1, [] => rfl
      | depth + 1, other + 1, tag :: body =>
          have hbody : body.length ≤ bound := Nat.le_of_succ_le_succ hdata
          have hsame : ∀ {data objects}, data.length ≤ bound →
              unpackWith depth data objects = unpackWith other data objects :=
            fun {_} objects hdata =>
              ih (Nat.lt_of_succ_lt_succ hdepth) (Nat.lt_of_succ_lt_succ hother) objects hdata
          have hvalues : AgreeUpTo bound (valueStep (unpackWith depth))
              (valueStep (unpackWith other)) := by
            refine ⟨fun hdata => ?_, valueStep_shorter⟩
            rw [valueStep, valueStep, hsame hdata]
          have hentries : AgreeUpTo bound (entryStep (unpackWith depth))
              (entryStep (unpackWith other)) := by
            refine ⟨fun {data objects} hdata => ?_, entryStep_shorter⟩
            simp only [entryStep, Option.bind_eq_bind, ← hsame hdata]
            cases hkey : unpackWith depth data objects with
            | none => rfl
            | some key =>
                have hshorter := ((unpackWith_decodes depth).not_end hkey).2.2
                simp only [Option.bind_some]
                rw [hsame (by omega)]
          rw [unpackWith, unpackWith, hvalues.containerSteps hbody, hentries.containerSteps hbody]

/-- Decoding ends, whatever the bytes: neither the nesting nor the turns of a
terminated loop are more than the bytes. Every call takes a byte at least and
leaves a rest of its data, all calls together take no more than there is, and no
more values come out. -/
theorem opack_progress (data : Bytes) (objects : List OpackScalar) :
    (∀ spare, unpackWith (data.length + 1 + spare) data objects =
      unpackWith (data.length + 1) data objects) ∧
    (∀ depth spare,
      repeatUntil (valueStep (unpackWith depth)) (data.length + 1 + spare) data objects =
        containerSteps (valueStep (unpackWith depth)) 0xF data objects ∧
      repeatUntil (entryStep (unpackWith depth)) (data.length + 1 + spare) data objects =
        containerSteps (entryStep (unpackWith depth)) 0xF data objects) ∧
    ∀ depth, unpackCalls depth data objects ≤ data.length ∧
      ∀ decoded, unpackWith depth data objects = some decoded →
        (∃ taken, taken ≠ [] ∧ data = taken ++ decoded.remaining) ∧
        unpackCalls depth data objects + decoded.remaining.length ≤ data.length ∧
        decoded.value.nodes + decoded.remaining.length ≤ data.length := by
  refine ⟨fun spare => ?_, fun depth spare => ⟨?_, ?_⟩, fun depth => ⟨?_, ?_⟩⟩
  · exact unpackWith_agree (by omega) (Nat.lt_succ_self _) objects (Nat.le_refl _)
  · have hagree : AgreeUpTo data.length (valueStep (unpackWith depth))
        (valueStep (unpackWith depth)) := ⟨fun _ => rfl, valueStep_shorter⟩
    exact hagree.repeatUntil (Nat.le_refl _) (by omega) (Nat.lt_succ_self _)
  · have hagree : AgreeUpTo data.length (entryStep (unpackWith depth))
        (entryStep (unpackWith depth)) := ⟨fun _ => rfl, entryStep_shorter⟩
    exact hagree.repeatUntil (Nat.le_refl _) (by omega) (Nat.lt_succ_self _)
  · exact (unpackWith_calls depth).all data objects
  · intro decoded hdecoded
    obtain ⟨⟨taken, htaken⟩, hnodes⟩ := unpackWith_takesOff depth hdecoded
    have hcalls := (unpackWith_calls depth).taken (valueStep_eq_some.mpr ⟨decoded, hdecoded, rfl⟩)
    refine ⟨⟨taken, ?_, htaken.symm⟩, hcalls, hnodes⟩
    rintro rfl
    have hshorter := ((unpackWith_decodes depth).not_end hdecoded).2.2
    rw [← htaken] at hshorter
    exact Nat.lt_irrefl _ hshorter

end CompanionBridge
