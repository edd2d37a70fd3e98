import CompanionBridge.State.PairingProtocol

/-!
# What the reads under the lock find

Each read leaves the records alone. What it reports may be wrong only where reads can
fail, and then on the safe side: a marker that cannot be looked at counts as one.
-/

namespace CompanionBridge

open Interruptible DurableStore

/-- A command that keeps to the protocol, and what holds when a part of it returns. -/
abbrev Ensures (digits : DigitTable) (nesting : Nesting) (readsFail : Bool)
    (command : PairingCommand) {Result : Type} (pre : PairingState → Prop)
    (program : PairingM Result) (done : Result → PairingState → Prop) : Prop :=
  Follows (PairingStep digits nesting readsFail command) readsFail pre program done fun _ _ => True

section Reads

variable {digits : DigitTable} {nesting : Nesting} {readsFail : Bool} {command : PairingCommand}
variable {pre : PairingState → Prop} {record : PairingRecord} {Result : Type}

/-- How a read may fail. -/
def Missed (readsFail : Bool) (pre : PairingState → Prop) (record : PairingRecord)
    (error : PairingError) (store : PairingState) : Prop :=
  pre store ∧ (error = .notFound ∧ (store record).visible = none ∨
    error = .osError ∧ readsFail = true)

/-- A read returns the visible content of its record or raises as the record misses it. -/
theorem fetch_follows :
    Follows (PairingStep digits nesting readsFail command) readsFail pre
      (fetch record : PairingM Bytes)
      (fun content store => pre store ∧ (store record).visible = some content)
      (Missed readsFail pre record) :=
  .fetch (fun _ hpre hnone => ⟨hpre, .inl ⟨rfl, hnone⟩⟩)
    fun _ hreads hpre => ⟨hpre, .inr ⟨rfl, hreads⟩⟩

/-- A failure is dealt with when its two kinds are. -/
theorem rescue_ensures {rescue : PairingError → PairingM Result}
    {done : Result → PairingState → Prop}
    (hmissing : Ensures digits nesting readsFail command
      (fun store => pre store ∧ (store record).visible = none) (rescue .notFound) done)
    (hfailed : Ensures digits nesting readsFail command
      (fun store => pre store ∧ readsFail = true) (rescue .osError) done) (error : PairingError) :
    Ensures digits nesting readsFail command (Missed readsFail pre record error) (rescue error)
      done := by
  have hnever (h : error ≠ .notFound) (h' : error ≠ .osError) :
      ∀ store, Missed readsFail pre record error store → False := by
    rintro store ⟨-, ⟨hnotFound, -⟩ | ⟨hosError, -⟩⟩
    · exact h hnotFound
    · exact h' hosError
  cases error with
  | notFound =>
      refine hmissing.weaken ?_ (fun _ _ => id) fun _ _ => id
      rintro store ⟨hpre, ⟨-, hnone⟩ | ⟨hosError, -⟩⟩
      · exact ⟨hpre, hnone⟩
      · cases hosError
  | osError =>
      refine hfailed.weaken ?_ (fun _ _ => id) fun _ _ => id
      rintro store ⟨hpre, ⟨hnotFound, -⟩ | ⟨-, hreads⟩⟩
      · cases hnotFound
      · exact ⟨hpre, hreads⟩
  | _ => exact .absurd (hnever nofun nofun)

/-- A `try` around a read of a content. -/
theorem tryFetch_ensures {answer : Bytes → Result} {rescue : PairingError → PairingM Result}
    {done : Result → PairingState → Prop}
    (hfound : ∀ store content, pre store → (store record).visible = some content →
      done (answer content) store)
    (hmissing : Ensures digits nesting readsFail command
      (fun store => pre store ∧ (store record).visible = none) (rescue .notFound) done)
    (hfailed : Ensures digits nesting readsFail command
      (fun store => pre store ∧ readsFail = true) (rescue .osError) done) :
    Ensures digits nesting readsFail command pre
      (catching (do let content ← fetch record; return answer content) rescue) done :=
  .catching (.bind fetch_follows fun content => .pure fun store h => hfound store content h.1 h.2)
    (rescue_ensures hmissing hfailed)

/-- A `try` around a look at a record. -/
theorem tryStat_ensures {answer : Result} {rescue : PairingError → PairingM Result}
    {done : Result → PairingState → Prop}
    (hfound : ∀ store, pre store → (store record).visible.isSome → done answer store)
    (hmissing : Ensures digits nesting readsFail command
      (fun store => pre store ∧ (store record).visible = none) (rescue .notFound) done)
    (hfailed : Ensures digits nesting readsFail command
      (fun store => pre store ∧ readsFail = true) (rescue .osError) done) :
    Ensures digits nesting readsFail command pre
      (catching (do stat record; return answer) rescue) done := by
  have hstat : Follows (PairingStep digits nesting readsFail command) readsFail pre
      (stat record : PairingM Unit) (fun _ store => pre store ∧ (store record).visible.isSome)
      (Missed readsFail pre record) :=
    .stat (fun _ hpre hnone => ⟨hpre, .inl ⟨rfl, hnone⟩⟩)
      fun _ hreads hpre => ⟨hpre, .inr ⟨rfl, hreads⟩⟩
  exact .catching (.bind hstat fun _ => .pure fun store h => hfound store h.1 h.2)
    (rescue_ensures hmissing hfailed)

/-! ## Markers -/

/-- A marker that is not reported is not there. -/
theorem markerInProgress_ensures :
    Ensures digits nesting readsFail command pre (markerInProgress record) fun found store =>
      pre store ∧ (found = false → (store record).visible = none) ∧
        (found = true → readsFail = true ∨ (store record).visible.isSome) :=
  tryStat_ensures (fun _ hpre hsome => ⟨hpre, nofun, fun _ => .inr hsome⟩)
    (.pure fun _ h => ⟨h.1, fun _ => h.2, nofun⟩)
    (.pure fun _ h => ⟨h.1, nofun, fun _ => .inl h.2⟩)

/-- The listener's check says no reset is in progress only of an open state. -/
theorem pairingResetInProgress_ensures :
    Ensures digits nesting readsFail command pre pairingResetInProgress fun found store =>
      pre store ∧ (found = false → PairingState.Open store) := by
  refine .bind markerInProgress_ensures fun found => ?_
  cases found with
  | true => exact .pure fun _ h => ⟨h.1, nofun⟩
  | false =>
      refine markerInProgress_ensures.weaken (fun _ => id) ?_ fun _ _ => id
      rintro found store ⟨⟨hpre, hmarker, -⟩, hlegacy, -⟩
      exact ⟨hpre, fun hfalse => ⟨hmarker rfl, hlegacy hfalse⟩⟩

/-- What is known of the marker when an operation was read from it. -/
def Asked (nesting : Nesting) (readsFail : Bool) (store : PairingState) :
    Option ResetOperation → Prop
  | none => (store .marker).visible = none
  | some .clearAll => (store .marker).visible ∉ resetMarkers nesting ∧
      (store .marker).visible.isSome
  | some .identityReset => readsFail = true ∨ (store .marker).visible ∈ resetMarkers nesting

/-- The operation read is the one the visible marker names. -/
theorem identityResetOperation_ensures :
    Ensures digits nesting readsFail command pre (identityResetOperation nesting)
      fun operation store => pre store ∧ Asked nesting readsFail store operation := by
  have hread : Ensures digits nesting readsFail command pre readMarker fun found store =>
      pre store ∧ match found with
        | .ok content => (store .marker).visible = some content
        | .error operation => Asked nesting readsFail store operation :=
    tryFetch_ensures (fun _ _ hpre hcontent => ⟨hpre, hcontent⟩) (.pure fun _ h => h)
      (.pure fun _ h => ⟨h.1, .inl h.2⟩)
  refine .bind hread fun found => ?_
  cases found with
  | error operation => exact .pure fun _ h => h
  | ok content =>
      dsimp only
      cases hrecorded : recordedOperation nesting content with
      | none => exact .raise fun _ _ => trivial
      | some operation =>
          refine .pure ?_
          rintro store ⟨hpre, hvisible⟩
          refine ⟨hpre, ?_⟩
          cases operation with
          | identityReset => exact .inr ⟨content, hvisible, by rw [hrecorded]; nofun⟩
          | clearAll =>
              refine ⟨?_, by rw [hvisible]; rfl⟩
              rintro ⟨other, hother, hreset⟩
              obtain rfl := Option.some.inj (hvisible.symm.trans hother)
              exact hreset hrecorded

theorem not_open_of_marker {store : PairingState} (h : (store .marker).visible.isSome) :
    ¬store.Open := by
  intro hopen
  rw [hopen.marker] at h
  cases h

theorem not_open_of_legacyMarker {store : PairingState}
    (h : (store .legacyMarker).visible.isSome) : ¬store.Open := by
  intro hopen
  rw [hopen.legacyMarker] at h
  cases h

/-- An interrupted unpair is found only in a state that is not open, reads failing apart. -/
theorem clearAllInProgress_ensures :
    Ensures digits nesting readsFail command pre (clearAllInProgress nesting) fun found store =>
      pre store ∧ (found = true → readsFail = true ∨ ¬store.Open) := by
  refine .bind identityResetOperation_ensures fun operation => ?_
  split_ifs with hoperation
  · subst hoperation
    exact .pure fun _ h => ⟨h.1, fun _ => .inr (not_open_of_marker h.2.2)⟩
  · refine markerInProgress_ensures.weaken (fun _ h => h.1) (fun found store h => ?_) fun _ _ => id
    exact ⟨h.1, fun hfound => (h.2.2 hfound).imp_right not_open_of_legacyMarker⟩

/-- The marker is found exactly when it is there, where reads do not fail. -/
theorem strictTombstoneExists_ensures :
    Ensures digits nesting readsFail command pre strictTombstoneExists fun found store =>
      pre store ∧ (found = true → (store .marker).visible.isSome) ∧
        (found = false → readsFail = true ∨ (store .marker).visible = none) :=
  tryStat_ensures (fun _ hpre hsome => ⟨hpre, fun _ => hsome, nofun⟩)
    (.pure fun _ h => ⟨h.1, nofun, fun _ => .inr h.2⟩)
    (.pure fun _ h => ⟨h.1, nofun, fun _ => .inl h.2⟩)

/-! ## The identity and the window -/

theorem identityExists_ensures :
    Ensures digits nesting readsFail command pre identityExists fun found store =>
      pre store ∧ (found = false → (store .identity).visible = none) :=
  tryStat_ensures (fun _ hpre _ => ⟨hpre, nofun⟩) (.pure fun _ h => ⟨h.1, fun _ => h.2⟩)
    (.raise fun _ _ => trivial)

/-- The identity loaded is read from the visible record. -/
theorem loadIdentityRecord_ensures {allowLegacy : Bool} :
    Ensures digits nesting readsFail command pre (loadIdentityRecord nesting allowLegacy)
      fun stored store => pre store ∧ ∃ content, (store .identity).visible = some content ∧
        loadIdentity nesting allowLegacy content = .ok stored := by
  refine .bind (.catching fetch_follows
    (rescue_ensures (.raise fun _ _ => trivial) (.raise fun _ _ => trivial))) fun content => ?_
  cases hload : loadIdentity nesting allowLegacy content with
  | ok identity => exact .pure fun _ h => ⟨h.1, content, h.2, hload⟩
  | error error =>
      cases error with
      | serverIdentity => exact .raise fun _ _ => trivial
      | recursion => exact .raise fun _ _ => trivial

/-- An active window has been parsed and has not expired. -/
theorem parsed_of_active {store : WindowStore} {now : ℚ} {window : StoredWindow}
    (hreset : store.resetInProgress = false) (hactive : store.active now = .ok (some window)) :
    store.parsed = .ok window ∧ now < window.expiresAt := by
  cases hparsed : store.parsed with
  | error error =>
      rw [WindowStore.active_of_error hreset hparsed] at hactive
      split at hactive <;> cases hactive
  | ok found =>
      rw [WindowStore.active_of_window hreset hparsed, Except.ok.injEq] at hactive
      split_ifs at hactive with hfuture
      obtain rfl := Option.some.inj hactive
      exact ⟨rfl, hfuture⟩

/-- A window that is found is open and in force. -/
theorem activeWindow_ensures {now : ℚ} :
    Ensures digits nesting readsFail command pre (activeWindow digits nesting now)
      fun found store => pre store ∧ ∀ window, found = some window →
        PairingState.Open store ∧ now < window.expiresAt ∧
          ∃ content, (store .window).visible = some content ∧
            readWindow digits nesting content = .ok window := by
  refine .bind pairingResetInProgress_ensures fun found => ?_
  cases found with
  | true => exact .pure fun _ h => ⟨h.1, nofun⟩
  | false =>
      have hread : Ensures digits nesting readsFail command
          (fun store => pre store ∧ PairingState.Open store) readWindowRecord
          fun record store => (pre store ∧ PairingState.Open store) ∧
            ∀ content, record = .ok content → (store .window).visible = some content := by
        refine tryFetch_ensures ?_ (.pure fun _ h => ⟨h.1, nofun⟩) (.pure fun _ h => ⟨h.1, nofun⟩)
        intro store content hpre hvisible
        refine ⟨hpre, fun other hother => ?_⟩
        obtain rfl := Except.ok.inj hother
        exact hvisible
      refine .bind (hread.weaken (fun _ h => ⟨h.1, h.2 rfl⟩) (fun _ _ => id) fun _ _ => id)
        fun record => ?_
      split
      · rename_i found hfound
        refine .pure ?_
        rintro store ⟨⟨hpre, hopen⟩, hrecord⟩
        refine ⟨hpre, ?_⟩
        rintro window rfl
        obtain ⟨hparsed, hfuture⟩ := parsed_of_active rfl hfound
        obtain ⟨value, hvalue, hwindow⟩ := Outcome.bind_eq_ok.mp hparsed
        obtain ⟨content, hcontent, hload⟩ := Outcome.bind_eq_ok.mp hvalue
        exact ⟨hopen, hfuture, content, hrecord content hcontent,
          Outcome.bind_eq_ok.mpr ⟨value, hload, hwindow⟩⟩
      · exact .raise fun _ _ => trivial
      · exact .raise fun _ _ => trivial

/-! ## The paired clients -/

/-- The clients read are those of the visible record, none where there is no record. -/
theorem readClientsRecord_ensures :
    Ensures digits nesting readsFail command pre (readClientsRecord nesting) fun clients store =>
      pre store ∧ clientsOf nesting (store .clients).visible = some clients := by
  refine .bind (show Ensures digits nesting readsFail command pre _
    fun (content : Option Bytes) store => pre store ∧ (store .clients).visible = content from
      tryFetch_ensures (fun _ _ hpre hcontent => ⟨hpre, hcontent⟩) (.pure fun _ h => h)
        (.raise fun _ _ => trivial)) fun content => ?_
  cases content with
  | none => exact .pure fun _ h => ⟨h.1, by rw [h.2]; rfl⟩
  | some content =>
      dsimp only
      cases hclients : readClients nesting content with
      | ok clients =>
          refine .pure fun _ h => ⟨h.1, ?_⟩
          rw [h.2, clientsOf, hclients]
          rfl
      | error error =>
          cases error with
          | pairedClients => exact .raise fun _ _ => trivial
          | recursion => exact .raise fun _ _ => trivial

theorem validatedMarker_ensures :
    Ensures digits nesting readsFail command pre (validatedMarker record) fun found store =>
      pre store ∧ (found = false → (store record).visible = none) :=
  tryStat_ensures (fun _ hpre _ => ⟨hpre, nofun⟩) (.pure fun _ h => ⟨h.1, fun _ => h.2⟩)
    (.raise fun _ _ => trivial)

/-- What a `PairedClients` finds is what is there. -/
theorem reload_ensures :
    Ensures digits nesting readsFail command pre (reload nesting) fun loaded store =>
      pre store ∧ clientsOf nesting (store .clients).visible = some loaded.clients ∧
        ((loaded.legacyClearAll || loaded.identityReset) = false → PairingState.Open store) := by
  refine .bind readClientsRecord_ensures fun clients =>
    .bind validatedMarker_ensures fun legacyClearAll =>
      .bind validatedMarker_ensures fun identityReset => .pure ?_
  rintro store ⟨⟨⟨hpre, hclients⟩, hlegacy⟩, hreset⟩
  refine ⟨hpre, hclients, fun hnone => ?_⟩
  obtain ⟨hlegacyNone, hresetNone⟩ := Bool.or_eq_false_iff.mp hnone
  exact ⟨hreset hresetNone, hlegacy hlegacyNone⟩

end Reads

end CompanionBridge
