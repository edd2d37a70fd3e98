import CompanionBridge.State.PairingReads

/-!
# The commands keep to the protocol

For each part of a command: the records it may be started over, and what it leaves when
it returns. That every change is one that the protocol allows is part of each
statement, wherever the part ends.
-/

namespace CompanionBridge

open Interruptible DurableStore

/-! ## Markers and their contents -/

section Records

variable {nesting : Nesting}

/-- No marker at all is not the marker of an identity reset. -/
theorem none_notMem_resetMarkers : none ∉ resetMarkers nesting := by
  rintro ⟨content, hcontent, -⟩
  cases hcontent

/-- The marker a reset writes reads as the marker of a reset. -/
theorem tombstone_identityReset {token : PyString} (hvalid : isGeneration token = true) :
    some (tombstoneRecord .identityReset token) ∈ resetMarkers nesting :=
  ⟨_, rfl, by rw [recordedOperation_tombstone nesting .identityReset hvalid]; nofun⟩

/-- The marker an ordinary unpair writes does not read as that of a reset. -/
theorem tombstone_clearAll {token : PyString} (hvalid : isGeneration token = true) :
    some (tombstoneRecord .clearAll token) ∉ resetMarkers nesting := by
  rintro ⟨content, hcontent, hreset⟩
  obtain rfl := Option.some.inj hcontent
  exact hreset (recordedOperation_tombstone nesting .clearAll hvalid)

/-- Only the generation depends on whether a legacy record is allowed. -/
theorem loadIdentity_generation {content : Bytes} {stored : StoredIdentity} {first second : Bool}
    (hgeneration : ∀ value, storedGeneration first value = some stored.generation →
      storedGeneration second value = some stored.generation)
    (hload : loadIdentity nesting first content = .ok stored) :
    loadIdentity nesting second content = .ok stored := by
  have hfields : ∀ value, identityFields first value = some stored →
      identityFields second value = some stored := by
    intro value hvalue
    unfold identityFields at hvalue ⊢
    split at hvalue
    · split at hvalue
      · rename_i huuid hkey
        simp only [Option.bind_eq_bind, Option.bind_eq_some_iff] at hvalue ⊢
        obtain ⟨privateKey, hprivate, passed, hguard, generation, hfound, hsame⟩ := hvalue
        cases hsame
        exact ⟨privateKey, hprivate, passed, hguard, generation, hgeneration _ hfound, rfl⟩
      · cases hvalue
    · cases hvalue
  unfold loadIdentity at hload ⊢
  split at hload
  · cases hload
  · cases hload
  · rename_i value hvalue
    cases hfound : identityFields first value with
    | none =>
        rw [hfound] at hload
        cases hload
    | some found =>
        rw [hfound] at hload
        cases hload
        rw [hfields value hfound]

/-- An identity bound to a generation loads under the strict reading too. -/
theorem loadIdentity_strict {content : Bytes} {stored : StoredIdentity}
    (hload : loadIdentity nesting true content = .ok stored) (hbound : stored.generation ≠ none) :
    loadIdentity nesting false content = .ok stored := by
  refine loadIdentity_generation (fun value hvalue => ?_) hload
  unfold storedGeneration at hvalue ⊢
  split at hvalue
  · exact absurd (Option.some.inj hvalue).symm hbound
  · exact absurd (Option.some.inj hvalue).symm hbound
  · exact hvalue
  · cases hvalue

/-- Whatever the strict reading accepts, the reading that allows a legacy record accepts. -/
theorem loadIdentity_legacy {content : Bytes} {stored : StoredIdentity}
    (hload : loadIdentity nesting false content = .ok stored) :
    loadIdentity nesting true content = .ok stored := by
  refine loadIdentity_generation (fun value hvalue => ?_) hload
  unfold storedGeneration at hvalue ⊢
  split at hvalue
  · cases hvalue
  · cases hvalue
  · exact hvalue
  · cases hvalue

/-- Binding an identity that already has a generation changes nothing. -/
theorem stored_withGeneration {stored : StoredIdentity} {generation : PyString}
    (hbound : stored.generation ≠ none) : (stored.withGeneration generation).stored = stored := by
  obtain ⟨identifier, privateKey, found⟩ := stored
  cases found with
  | none => exact absurd rfl hbound
  | some generation => rfl

end Records

/-! ## Changes -/

section Changes

variable {digits : DigitTable} {nesting : Nesting} {readsFail : Bool} {command : PairingCommand}
variable {pre : PairingState → Prop}

/-- A directory sync is no step of its own: every record is settled by it. -/
theorem commit_ensures {done : Unit → PairingState → Prop}
    (hdone : ∀ store, pre store → done () store.sync) :
    Ensures digits nesting readsFail command pre (commit : PairingM Unit) done :=
  .commit (fun store _ => .settles store) hdone fun _ _ => trivial

/-- Writing a record is allowed where every outcome of a write is a step of the command. -/
theorem replace_ensures {record : PairingRecord} {content : Bytes}
    {done : Unit → PairingState → Prop}
    (hallowed : ∀ store after, pre store → Changed store record (some content) after →
      PairingStep digits nesting readsFail command store after)
    (hdone : ∀ store, pre store → done () (store.put record (some content))) :
    Ensures digits nesting readsFail command pre (replace record content : PairingM Unit) done :=
  .replace hallowed hdone fun _ _ _ => trivial

/-- Removing a record is allowed where every outcome of an unlink is a step of the command.
-/
theorem remove_ensures {record : PairingRecord} {done : Unit → PairingState → Prop}
    (hallowed : ∀ store after, pre store → Changed store record none after →
      PairingStep digits nesting readsFail command store after)
    (hdone : ∀ store, pre store → done () (store.put record none)) :
    Ensures digits nesting readsFail command pre (remove record) done :=
  .bind (.erase hallowed (fun store hpre => hdone store hpre) fun _ _ _ => trivial)
    fun _ => .pure fun _ h => h

/-- A guarded part ensures what it ensures when it runs and what holds when it is skipped.
-/
theorem onlyIf_ensures {condition : Prop} [Decidable condition] {body : PairingM Unit}
    {done : Unit → PairingState → Prop}
    (hbody : condition → Ensures digits nesting readsFail command pre body done)
    (hskip : ¬condition → ∀ store, pre store → done () store) :
    Ensures digits nesting readsFail command pre (onlyIf condition body) done :=
  .ite hbody fun h => .pure (hskip h)

/-! ## Publishing a marker -/

/-- What is known once a reset was published: no failure takes its marker away. -/
def ResetPublished (nesting : Nesting) (readsFail : Bool) (store : PairingState) : Prop :=
  store.Confined .marker present ∧
    (readsFail = true ∨ store.Confined .marker (resetMarkers nesting))

/-- A reset that goes on keeps its marker, rewritten with its own token. -/
theorem keepIdentityReset_ensures (hclears : command.clears = true) {token : PyString}
    (hvalid : isGeneration token = true)
    (hcommand : ∀ store, pre store → readsFail = true ∨ (store .marker).visible ∈ resetMarkers nesting) :
    Ensures digits nesting readsFail command pre (keepIdentityReset token) fun _ store =>
      ResetPublished nesting readsFail store := by
  refine .bind strictTombstoneExists_ensures fun found => ?_
  cases found with
  | true =>
      refine commit_ensures ?_
      rintro store ⟨hpre, hsome, -⟩
      exact ⟨confined_sync (hsome rfl), (hcommand store hpre).imp_right confined_sync⟩
  | false =>
      refine replace_ensures ?_ ?_
      · rintro store after ⟨hpre, -, hnone⟩ hchanged
        refine .asksReset hclears (.inl ?_) hvalid hchanged
        rcases hnone rfl with hreads | hnone
        · exact hreads
        · refine (hcommand store hpre).resolve_right fun hreset => ?_
          exact none_notMem_resetMarkers (hnone ▸ hreset)
      · exact fun store _ =>
          ⟨confined_put rfl, .inr (confined_put (tombstone_identityReset hvalid))⟩

/-- A reset publishes its marker before it touches any other record. -/
theorem beginIdentityReset_ensures (hclears : command.clears = true) {token : PyString}
    (hvalid : isGeneration token = true)
    (hcommand : command.resetsIdentity = true) :
    Ensures digits nesting readsFail command pre (beginIdentityReset nesting token) fun _ store =>
      ResetPublished nesting readsFail store := by
  refine .bind identityResetOperation_ensures fun operation => ?_
  split_ifs with hoperation
  · subst hoperation
    exact keepIdentityReset_ensures hclears hvalid fun _ h => h.2
  · refine replace_ensures (fun store after _ hchanged => ?_) fun store _ => ?_
    · exact .asksReset hclears (.inr hcommand) hvalid hchanged
    · exact ⟨confined_put rfl, .inr (confined_put (tombstone_identityReset hvalid))⟩

/-- The marker is there to stay, and says whether the identity is to be reset. -/
theorem beginClearAll_ensures (hclears : command.clears = true) {token : PyString}
    (hvalid : isGeneration token = true)
    (hpending : ∀ store, pre store → command.ClearsOver readsFail store) :
    Ensures digits nesting readsFail command pre (beginClearAll nesting token) fun owned store =>
      store.Confined .marker present ∧ (owned = true → (store .marker).visible ∉ resetMarkers nesting) ∧
        (owned = false → readsFail = true ∨ store.Confined .marker (resetMarkers nesting)) := by
  refine .bind identityResetOperation_ensures fun operation => ?_
  cases operation with
  | none =>
      refine .bind (replace_ensures (fun store after h hchanged => ?_) fun store _ => ?_)
        fun _ => .pure fun store h => h
      · exact .asksClearAll (hpending store h.1) h.2 hvalid hchanged
      · refine ⟨confined_put rfl, fun _ => ?_, nofun⟩
        rw [visible_put]
        exact tombstone_clearAll hvalid
  | some operation =>
      cases operation with
      | identityReset =>
          exact .bind (keepIdentityReset_ensures hclears hvalid fun _ h => h.2) fun _ =>
            .pure fun _ h => ⟨h.1, nofun, fun _ => h.2⟩
      | clearAll =>
          refine .bind (commit_ensures fun store h => ?_) fun _ => .pure fun store h => h
          exact ⟨confined_sync h.2.2, fun _ => h.2.1, nofun⟩

/-! ## Clearing -/

/-- The records of the pairing stay cleared while other records are written. -/
theorem cleared_put {store : PairingState} (hcleared : store.Cleared) {record : PairingRecord}
    {value : Option Bytes} (hwindow : record ≠ .window) (hclients : record ≠ .clients) :
    PairingState.Cleared (store.put record value) :=
  ⟨hcleared.window.changed_other .put hwindow.symm, hcleared.clients.changed_other .put hclients.symm⟩

/-- Removing the window and the clients leaves what other records hold. -/
theorem removeAll_ensures {Result : Type} {next : PairingM Result}
    {done : Result → PairingState → Prop} (kept : PairingState → Prop)
    (hclears : ∀ store, pre store ∨ kept store → command.ClearsOver readsFail store)
    (hkept : ∀ store record, record = .window ∨ record = .clients → pre store ∨ kept store →
      kept (store.put record none))
    (hnext : Ensures digits nesting readsFail command
      (fun store => store.Cleared ∧ kept store) next done) :
    Ensures digits nesting readsFail command pre
      (do remove .window; remove .clients; next) done := by
  have hwindow : Ensures digits nesting readsFail command pre (remove .window)
      fun _ store => store.Confined .window {none} ∧ kept store :=
    remove_ensures (fun _ _ h hchanged => .dropsWindow (hclears _ (.inl h)) hchanged) fun store h =>
      ⟨confined_put rfl, hkept store .window (.inl rfl) (.inl h)⟩
  have hclients : Ensures digits nesting readsFail command
      (fun store => store.Confined .window {none} ∧ kept store) (remove .clients)
      fun _ store => store.Cleared ∧ kept store :=
    remove_ensures (fun _ _ h hchanged => .dropsClients (hclears _ (.inr h.2)) hchanged) fun store h =>
      ⟨⟨h.1.changed_other .put nofun, confined_put rfl⟩, hkept store .clients (.inr rfl) (.inr h.2)⟩
  exact .bind hwindow fun _ => .bind hclients fun _ => hnext

/-- An ordinary unpair ends when all is cleared. -/
theorem clearClearAll_ensures (hclears : command.clears = true) {kept : PairingState → Prop}
    (hkept : ∀ store record, record = .marker ∨ record = .legacyMarker → kept store →
      kept (store.put record none)) :
    Ensures digits nesting readsFail command
      (fun store => store.Cleared ∧ kept store) (clearClearAll nesting)
      fun _ store => store.Cleared ∧ store.Settled ∧ kept store := by
  refine .bind identityResetOperation_ensures fun operation => ?_
  have hlift : Ensures digits nesting readsFail command
      (fun store => (store.Cleared ∧ kept store) ∧ Asked nesting readsFail store operation)
      (onlyIf (operation = some .clearAll) (remove .marker))
      fun _ store => store.Cleared ∧ kept store := by
    refine onlyIf_ensures (fun hoperation => ?_) fun _ _ h => h.1
    subst hoperation
    refine remove_ensures (fun _ _ h hchanged => .liftsMarker hclears h.1.1 (.inl h.2.1) hchanged) ?_
    exact fun store h => ⟨cleared_put h.1.1 nofun nofun, hkept store .marker (.inl rfl) h.1.2⟩
  refine .bind hlift fun _ => ?_
  refine remove_ensures (fun _ _ h hchanged => .liftsLegacyMarker hclears h.1 hchanged) fun store h => ?_
  exact ⟨cleared_put h.1 nofun nofun, settled_put store _ _, hkept store .legacyMarker (.inr rfl) h.2⟩

/-! ## The identity -/

/-- A listener may start over this: nothing is pending, and a crash changes nothing. -/
structure Listening (nesting : Nesting) (identity : ServerIdentity) (store : PairingState) :
    Prop where
  settled : store.Settled
  marker : (store .marker).visible ∉ resetMarkers nesting
  identity : (store .identity).visible ∈ holdsIdentity nesting identity

variable {draw : StartupDraw}

/-- The record an identity is written as is one that holds the identity. -/
theorem record_holdsIdentity {identity : ServerIdentity} (hvalid : identity.Valid) :
    some (identityRecord identity) ∈ holdsIdentity nesting identity :=
  ⟨_, rfl, loadIdentity_record nesting false hvalid⟩

/-- Writing another record does not make a reset pending. -/
theorem marker_put {store : PairingState} {record : PairingRecord} {value : Option Bytes}
    (hmarker : (store .marker).visible ∉ resetMarkers nesting) (hne : record ≠ .marker) :
    ((DurableStore.put store record value) .marker).visible ∉ resetMarkers nesting := by
  rw [visible_put_other hne.symm]
  exact hmarker

/-- Whatever was found or made, it is committed. -/
theorem loadOrCreateIdentity_ensures (hcommand : command = .startListener draw) :
    Ensures digits nesting readsFail command
      (fun store => (store .marker).visible ∉ resetMarkers nesting)
      (loadOrCreateIdentity nesting draw.identity) fun identity store =>
        Listening nesting identity store := by
  refine .bind identityExists_ensures fun found => ?_
  cases found with
  | false =>
      refine .bind (replace_ensures (fun _ _ h hchanged => ?_) fun store h => ?_)
        fun _ => .pure fun _ h => h
      · exact .createsIdentity ⟨draw, hcommand, rfl⟩ (h.2 rfl) hchanged
      · refine ⟨settled_put store _ _, marker_put h.1 nofun, ?_⟩
        rw [visible_put]
        exact record_holdsIdentity draw.valid
  | true =>
      have hcommit : Ensures digits nesting readsFail command
          (fun store => (store .marker).visible ∉ resetMarkers nesting ∧
            (true = false → (store .identity).visible = none)) (commit : PairingM Unit)
          fun _ store => store.Settled ∧ (store .marker).visible ∉ resetMarkers nesting :=
        commit_ensures fun store h => ⟨settled_sync store, h.1⟩
      refine .bind hcommit fun _ => .bind loadIdentityRecord_ensures fun stored => ?_
      refine .bind (onlyIf_ensures (fun hlegacy => ?_) fun hbound => ?_) fun _ => .pure fun _ h => h
      · refine replace_ensures ?_ ?_
        · rintro store after ⟨-, content, hvisible, hload⟩ hchanged
          exact .upgradesIdentity ⟨draw, hcommand, rfl⟩ hvisible hload hlegacy hchanged
        · rintro store ⟨⟨-, hmarker⟩, content, -, hload⟩
          refine ⟨settled_put store _ _, marker_put hmarker nofun, ?_⟩
          rw [visible_put]
          exact record_holdsIdentity (valid_withGeneration hload draw.valid.generation)
      · rintro store ⟨⟨hsettled, hmarker⟩, content, hvisible, hload⟩
        refine ⟨hsettled, hmarker, content, hvisible, ?_⟩
        rw [stored_withGeneration hbound]
        exact loadIdentity_strict hload hbound

/-- The marker of a reset is a marker that is there. -/
theorem isSome_of_resetMarkers {marker : Option Bytes} (h : marker ∈ resetMarkers nesting) :
    marker.isSome := by
  obtain ⟨content, rfl, -⟩ := h
  rfl

/-- A reset ends with the identity that was drawn. -/
theorem recoverIdentityReset_ensures (hcommand : command = .startListener draw)
    (hmarker : ∀ store, pre store →
      readsFail = true ∨ (store .marker).visible ∈ resetMarkers nesting) :
    Ensures digits nesting readsFail command pre (recoverIdentityReset nesting draw.identity)
      fun identity store => Listening nesting identity store := by
  have hclears : command.clears = true := by
    rw [hcommand]
    rfl
  have hdraws : command.drawsIdentity draw.identity := ⟨draw, hcommand, rfl⟩
  -- the marker is committed by the first removal, before the identity is touched
  refine removeAll_ensures (fun store =>
    readsFail = true ∨ store.Confined .marker (resetMarkers nesting)) ?_ ?_ ?_
  · intro store h
    apply PairingCommand.clearsOver_of_pending hclears
    refine (h.elim (hmarker store) (Or.imp_right Confined.visible)).imp_right fun hreset => ?_
    exact not_open_of_marker (isSome_of_resetMarkers hreset)
  · rintro store record hrecord (hpre | hkept)
    · refine (hmarker store hpre).imp_right fun hvisible => ?_
      apply (settled_put store record none).confined
      rw [visible_put_other (by rintro rfl; simp at hrecord)]
      exact hvisible
    · exact hkept.imp_right fun h => h.changed_other .put (by rintro rfl; simp at hrecord)
  have hdrop : Ensures digits nesting readsFail command
      (fun store => store.Cleared ∧
        (readsFail = true ∨ store.Confined .marker (resetMarkers nesting)))
      (remove .identity) fun _ store => store.Cleared ∧ store.Confined .identity {none} :=
    remove_ensures (fun _ _ h hchanged => .dropsIdentity hclears h.2 hchanged) fun _ h =>
      ⟨cleared_put h.1 nofun nofun, confined_put rfl⟩
  have hwrite : Ensures digits nesting readsFail command
      (fun store => store.Cleared ∧ store.Confined .identity {none}) (writeIdentity draw.identity)
      fun _ store => store.Cleared ∧
        store.Confined .identity {some (identityRecord draw.identity)} :=
    replace_ensures (fun _ _ h hchanged => .createsIdentity hdraws h.2.eq hchanged) fun _ h =>
      ⟨cleared_put h.1 nofun nofun, confined_put rfl⟩
  have hlift : Ensures digits nesting readsFail command
      (fun store => store.Cleared ∧ store.Settled ∧
        store.Confined .identity {some (identityRecord draw.identity)})
      (clearIdentityReset nesting) fun _ store => Listening nesting draw.identity store := by
    refine .bind identityResetOperation_ensures fun operation => onlyIf_ensures (fun _ => ?_) ?_
    · refine remove_ensures
        (fun _ _ h hchanged => .liftsMarker hclears h.1.1 (.inr ⟨_, hdraws, h.1.2.2⟩) hchanged)
        fun store h => ⟨settled_put store _ _, ?_, ?_⟩
      · rw [visible_put]
        exact none_notMem_resetMarkers
      · rw [visible_put_other (by decide : PairingRecord.identity ≠ .marker), h.1.2.2.eq]
        exact record_holdsIdentity draw.valid
    · rintro hoperation store ⟨⟨-, hsettled, hidentity⟩, hasked⟩
      obtain rfl := not_not.mp hoperation
      refine ⟨hsettled, hasked.1, ?_⟩
      rw [hidentity.eq]
      exact record_holdsIdentity draw.valid
  refine .bind hdrop fun _ => .bind hwrite fun _ => .bind (clearClearAll_ensures hclears ?_) fun _ =>
    .bind hlift fun _ => .pure fun _ h => h
  exact fun store record hrecord h => h.changed_other .put (by rintro rfl; simp at hrecord)

/-- An interrupted unpair is finished at start; no reset is pending after it. -/
theorem recoverClearAll_ensures (hcommand : command = .startListener draw)
    (hmarker : ∀ store, pre store → (store .marker).visible ∉ resetMarkers nesting ∧
      (readsFail = true ∨ (store .marker).visible.isSome)) :
    Ensures digits nesting readsFail command pre (recoverClearAll nesting) fun _ store =>
      (store .marker).visible ∉ resetMarkers nesting := by
  have hclears : command.clears = true := by
    rw [hcommand]
    rfl
  refine removeAll_ensures (fun store => (store .marker).visible ∉ resetMarkers nesting ∧
    (readsFail = true ∨ (store .marker).visible.isSome)) ?_ ?_ ?_
  · intro store h
    apply PairingCommand.clearsOver_of_pending hclears
    exact (h.elim (hmarker store) id).2.imp_right not_open_of_marker
  · intro store record hrecord h
    have hne : PairingRecord.marker ≠ record := by
      rintro rfl
      simp at hrecord
    rw [visible_put_other hne]
    exact h.elim (hmarker store) id
  · refine (clearClearAll_ensures hclears ?_).weaken (fun _ h => ⟨h.1, h.2.1⟩)
      (fun _ _ h => h.2.2) fun _ _ => id
    rintro store record (rfl | rfl) h
    · rw [visible_put]
      exact none_notMem_resetMarkers
    · exact marker_put h nofun

/-- A listener starts over an identity that is committed, with no reset pending. -/
theorem startListener_ensures (hcommand : command = .startListener draw) :
    Ensures digits nesting readsFail command pre (startListener nesting draw) fun identity store =>
      Listening nesting identity store := by
  have hclears : command.clears = true := by
    rw [hcommand]
    rfl
  have hload : Ensures digits nesting readsFail command pre
      (loadOrCreateServerIdentity nesting draw.identity draw.token) fun identity store =>
        Listening nesting identity store := by
    refine .bind markerInProgress_ensures fun found => ?_
    -- the source asks for a marker first, then for an interrupted unpair
    cases found with
    | true =>
        refine .bind identityResetOperation_ensures fun operation => ?_
        split_ifs with hoperation
        · subst hoperation
          exact .bind (recoverClearAll_ensures hcommand fun _ h => ⟨h.2.1, .inr h.2.2⟩) fun _ =>
            loadOrCreateIdentity_ensures hcommand
        · refine recoverIdentityReset_ensures hcommand ?_
          rintro store ⟨⟨-, -, hfound⟩, hasked⟩
          cases operation with
          | none =>
              -- a marker that was there is gone only where reads fail
              refine .inl ((hfound rfl).resolve_right fun hsome => ?_)
              rw [show (store .marker).visible = none from hasked] at hsome
              cases hsome
          | some operation =>
              cases operation with
              | identityReset => exact hasked
              | clearAll => exact absurd rfl hoperation
    | false =>
        refine .bind clearAllInProgress_ensures fun pending => ?_
        cases pending with
        | true =>
            refine .bind (beginClearAll_ensures hclears draw.token_valid fun _ h =>
              PairingCommand.clearsOver_of_pending hclears (h.2 rfl)) fun owned => ?_
            cases owned with
            | true =>
                exact .bind (recoverClearAll_ensures hcommand fun _ h =>
                  ⟨h.2.1 rfl, .inr h.1.visible⟩) fun _ =>
                  loadOrCreateIdentity_ensures hcommand
            | false =>
                exact recoverIdentityReset_ensures hcommand fun _ h =>
                  (h.2.2 rfl).imp_right Confined.visible
        | false =>
            refine (loadOrCreateIdentity_ensures hcommand).weaken ?_ (fun _ _ => id) fun _ _ => id
            rintro store ⟨⟨-, hnone, -⟩, -⟩
            rw [hnone rfl]
            exact none_notMem_resetMarkers
  exact .bind hload fun identity => .bind reload_ensures fun _ => .pure fun _ h => h.1

/-- When it returns, window and clients are gone for good, and so is the identity if it
was to be reset. -/
theorem unpair_ensures {resetIdentity : Bool} {token : PyString}
    {hvalid : isGeneration token = true} (hcommand : command = .unpair resetIdentity token hvalid) :
    Ensures digits nesting readsFail command pre (unpair nesting resetIdentity token)
      fun _ store => store.Cleared ∧ store.Settled ∧
        (resetIdentity = true → store.Confined .identity {none}) := by
  have hclears : command.clears = true := by
    rw [hcommand]
    rfl
  have hover (store : PairingState) : command.ClearsOver readsFail store := by
    rw [hcommand]
    trivial
  let published (owned : Bool) (store : PairingState) : Prop := resetIdentity = true →
    owned = false ∧ (readsFail = true ∨ store.Confined .marker (resetMarkers nesting))
  have hbegin : Ensures digits nesting readsFail command pre
      (beginUnpair nesting resetIdentity token) published := by
    unfold beginUnpair
    split_ifs with hreset
    · subst hreset
      refine .bind (beginIdentityReset_ensures hclears hvalid ?_) fun _ =>
        .pure fun _ h _ => ⟨rfl, h.2⟩
      rw [hcommand]
      rfl
    · exact (beginClearAll_ensures hclears hvalid fun store _ => hover store).weaken (fun _ => id)
        (fun _ _ _ h => absurd h hreset) fun _ _ => id
  have hkept {owned : Bool} {store : PairingState} {record : PairingRecord}
      (hpublished : published owned store) (hne : record ≠ .marker) :
      published owned (store.put record none) := fun hreset =>
    (hpublished hreset).imp_right fun h =>
      h.imp_right fun hmarker => hmarker.changed_other .put hne.symm
  refine .bind hbegin fun owned => removeAll_ensures
    (fun store => store.Settled ∧ published owned store)
    (fun store _ => hover store) ?_ ?_
  · intro store record hrecord h
    have hne : record ≠ .marker := by
      rintro rfl
      simp at hrecord
    exact ⟨settled_put store _ _, h.elim (fun hpre => hkept hpre hne) fun h => hkept h.2 hne⟩
  -- only --reset-identity removes the identity, and only behind the marker of a reset
  have hidentity : Ensures digits nesting readsFail command
      (fun store => store.Cleared ∧ store.Settled ∧ published owned store)
      (onlyIf (resetIdentity = true) (remove .identity))
      fun _ store => store.Cleared ∧ store.Settled ∧ (resetIdentity = true →
        owned = false ∧ store.Confined .identity {none}) := by
    refine onlyIf_ensures (fun hreset => ?_) fun hreset _ h =>
      ⟨h.1, h.2.1, fun hasked => absurd hasked hreset⟩
    refine remove_ensures (fun _ _ h hchanged => .dropsIdentity hclears (h.2.2 hreset).2 hchanged)
      fun store h => ⟨cleared_put h.1 nofun nofun, settled_put store _ _, fun _ => ?_⟩
    exact ⟨(h.2.2 hreset).1, confined_put rfl⟩
  refine .bind hidentity fun _ => onlyIf_ensures (fun howned => ?_) fun _ _ h =>
    ⟨h.1, h.2.1, fun hreset => (h.2.2 hreset).2⟩
  -- a command that owns the marker of an ordinary unpair does not reset
  subst howned
  have hclear : Ensures digits nesting readsFail command
      (fun store => store.Cleared ∧ resetIdentity ≠ true) (clearClearAll nesting)
      fun _ store => store.Cleared ∧ store.Settled ∧ resetIdentity ≠ true :=
    clearClearAll_ensures hclears fun _ _ _ h => h
  refine hclear.weaken ?_ (fun _ _ h => ⟨h.1, h.2.1, fun hreset => absurd hreset h.2.2⟩)
    fun _ _ => id
  rintro store ⟨hcleared, -, hreset⟩
  exact ⟨hcleared, fun hasked => nomatch (hreset hasked).1⟩

end Changes

end CompanionBridge
