import CompanionBridge.State.PairingSteps

/-!
# Clients and windows over the life of the pairing state

What an unpair revoked stays revoked, a handshake commits only in the window it began
with, and the paired clients are at any moment the sum of the commands that took
effect.
-/

namespace CompanionBridge

open Interruptible DurableStore

variable {digits : DigitTable} {nesting : Nesting}
variable {allowed : PairingCommand → World PairingRecord Bytes → Prop}
variable {commands : List PairingCommand} {first : PairingState}
variable {world : World PairingRecord Bytes}

/-! ## What is looked up -/

/-- The records grant something to a client only when no marker is there. -/
theorem granted_of_authorizes {identifier : PyString} {ltpk : Bytes}
    (hauthorizes : ((authorizes nesting identifier ltpk).perform world).1 = .ok true) :
    PairingState.Open world.store ∧
      ∃ clients, clientsOf nesting (world.store .clients).visible = some clients ∧
        clients.lookup identifier = some (PyString.ofString ltpk.hex) := by
  have hreload : Ensures WindowStore.asciiDigits nesting world.readsFail (.revoke identifier)
      (· = world.store)
      (do
        let loaded ← reload nesting
        return !(loaded.legacyClearAll || loaded.identityReset) &&
          loaded.clients.lookup identifier = some (PyString.ofString ltpk.hex))
      fun granted _ => granted = true → PairingState.Open world.store ∧
        ∃ clients, clientsOf nesting (world.store .clients).visible = some clients ∧
          clients.lookup identifier = some (PyString.ofString ltpk.hex) := by
    refine .bind reload_ensures fun loaded => .pure ?_
    rintro store ⟨rfl, hclients, hopen⟩ hgranted
    obtain ⟨hfences, hlookup⟩ := Bool.and_eq_true_iff.mp hgranted
    exact ⟨hopen (by simpa using hfences), loaded.clients, hclients, of_decide_eq_true hlookup⟩
  have hensures : Ensures WindowStore.asciiDigits nesting world.readsFail (.revoke identifier)
      (· = world.store) (authorizes nesting identifier ltpk) _ :=
    .catching hreload fun error => by
      cases error with
      | pairedClients => exact .pure fun _ _ => nofun
      | _ => exact .raise fun _ _ => trivial
  exact (hensures.run rfl).2 true hauthorizes rfl

theorem current_of_lookUp {binding : ServerBinding} {now : ℚ} {window : StoredWindow}
    (hfound : ((lookUpWindow digits nesting binding now).perform world).1 = .ok (some window)) :
    PairingState.Open world.store ∧ ∃ content, (world.store .window).visible = some content ∧
      readWindow digits nesting content = .ok window := by
  have hensures : Ensures digits nesting world.readsFail (.revoke []) (· = world.store)
      (lookUpWindow digits nesting binding now) _ := lookUpWindow_ensures
  obtain ⟨hstore, hwindow⟩ := (hensures.run rfl).2 _ hfound
  obtain ⟨hopen, -, -, -, hread⟩ := hwindow window rfl
  rw [← hstore]
  exact ⟨hopen, hread⟩

/-! ## What was revoked -/

/-- Records of clients that were all enrolled by the commands. -/
def enrolledRecords (nesting : Nesting) (commands : List PairingCommand) : Set (Option Bytes) :=
  {record | ∀ clients, clientsOf nesting record = some clients → ∀ entry ∈ clients,
    ∃ request, .enroll request ∈ commands ∧
      entry = (PyString.ofString request.identifier, PyString.ofString request.ltpk.hex)}

/-- Records of windows that were opened by the commands. -/
def openedRecords (digits : DigitTable) (nesting : Nesting) (commands : List PairingCommand) :
    Set (Option Bytes) :=
  {record | ∀ content window, record = some content →
    readWindow digits nesting content = .ok window →
    ∃ draw, .pair draw ∈ commands ∧ window.generation ∈ draw.tokens}

/-- All that is granted was granted by the commands. -/
structure GrantedBy (digits : DigitTable) (nesting : Nesting) (commands : List PairingCommand)
    (store : PairingState) : Prop where
  clients : store.Confined .clients (enrolledRecords nesting commands)
  window : store.Confined .window (openedRecords digits nesting commands)

theorem none_mem_enrolledRecords : none ∈ enrolledRecords nesting commands := by
  intro clients hclients entry hentry
  obtain rfl := Option.some.inj hclients
  cases hentry

theorem none_mem_openedRecords : none ∈ openedRecords digits nesting commands :=
  fun _ _ hnone => nomatch hnone

theorem PairingState.Cleared.grantedBy {store : PairingState} (hcleared : store.Cleared) :
    GrantedBy digits nesting commands store :=
  ⟨hcleared.clients.mono (Set.singleton_subset_iff.mpr none_mem_enrolledRecords),
    hcleared.window.mono (Set.singleton_subset_iff.mpr none_mem_openedRecords)⟩

/-- Whoever is granted access was enrolled by a command of the life. -/
theorem grantedBy_step {command : PairingCommand} {readsFail : Bool} {before after : PairingState}
    (hcommand : command ∈ commands) (hbefore : GrantedBy digits nesting commands before)
    (hstep : PairingStep digits nesting readsFail command before after) :
    GrantedBy digits nesting commands after := by
  refine ⟨hstep.clients hbefore.clients (fun _ => none_mem_enrolledRecords) ?_ ?_,
    hstep.window hbefore.window (fun _ => none_mem_openedRecords) ?_⟩
  · rintro request content window clients rfl - - hclients hvalid read hread entry hentry
    rw [clientsOf_record hvalid] at hread
    obtain rfl := Option.some.inj hread
    rcases PairedMap.mem_assign hentry with rfl | ⟨hold, -⟩
    · exact ⟨request, hcommand, rfl⟩
    · exact hbefore.clients.visible clients hclients entry hold
  · rintro identifier clients rfl hclients read hread entry hentry
    rw [clientsOf_record ((valid_of_clientsOf hclients).drop identifier)] at hread
    obtain rfl := Option.some.inj hread
    exact hbefore.clients.visible clients hclients entry (List.mem_of_mem_filter hentry)
  · rintro draw window rfl hvalid htoken content read hcontent hread
    obtain rfl := Option.some.inj hcontent
    rw [readWindow_record nesting hvalid] at hread
    obtain rfl := Except.ok.inj hread
    exact ⟨draw, hcommand, htoken⟩

/-- A marker is there, or all that was granted before it is gone. -/
def Revoked (digits : DigitTable) (nesting : Nesting) (commands : List PairingCommand)
    (store : PairingState) : Prop :=
  store.Confined .marker present ∨ store.Confined .legacyMarker present ∨
    GrantedBy digits nesting commands store

/-- And whoever was revoked before it stays so until then. -/
theorem revoked_step {command : PairingCommand} {readsFail : Bool} {before after : PairingState}
    (hcommand : command ∈ commands) (hbefore : Revoked digits nesting commands before)
    (hstep : PairingStep digits nesting readsFail command before after) :
    Revoked digits nesting commands after := by
  -- a marker is only lifted over records that are cleared
  have hlifted {record : PairingRecord} (hcleared : before.Cleared)
      (hchanged : Changed before record none after) (hwindow : record ≠ .window)
      (hclients : record ≠ .clients) : GrantedBy digits nesting commands after :=
    PairingState.Cleared.grantedBy ⟨hcleared.window.changed_other hchanged hwindow.symm,
      hcleared.clients.changed_other hchanged hclients.symm⟩
  rcases hbefore with hmarker | hlegacy | hgranted
  · rcases hstep.marker hmarker (fun _ _ _ => rfl) (fun _ _ _ => rfl) with
      hkept | ⟨hchanged, hcleared, -⟩
    · exact .inl hkept
    · exact .inr (.inr (hlifted hcleared hchanged (by decide) (by decide)))
  · rcases hstep.legacyMarker hlegacy with hkept | ⟨hchanged, hcleared⟩
    · exact .inr (.inl hkept)
    · exact .inr (.inr (hlifted hcleared hchanged (by decide) (by decide)))
  · exact .inr (.inr (grantedBy_step hcommand hgranted hstep))

/-- A marker is there, or an unpair has returned. -/
def RevocationPublished (digits : DigitTable) (nesting : Nesting) (store : PairingState) : Prop :=
  store.Confined .marker present ∨ store.Confined .legacyMarker present ∨
    ∃ world resetIdentity token valid,
      (PairingCommand.unpair resetIdentity token valid).Returns digits nesting world .unpaired ∧
      store = (PairingCommand.unpair resetIdentity token valid).after digits nesting world

/-- A published revocation has emptied the record. -/
theorem RevocationPublished.revoked (hpublished : RevocationPublished digits nesting first) :
    Revoked digits nesting commands first := by
  rcases hpublished with hmarker | hlegacy | ⟨world, resetIdentity, token, valid, hreturns, rfl⟩
  · exact .inl hmarker
  · exact .inr (.inl hlegacy)
  · exact .inr (.inr hreturns.replied.1.grantedBy)

/-- From the moment that a marker is published or an unpair returns, a client is authorized
only if it was enrolled since, and a window found only if it was opened since. -/
theorem revocation_lasts (hpublished : RevocationPublished digits nesting first)
    (hlife : PairingLife digits nesting allowed commands first world.store) :
    (∀ identifier ltpk, ((authorizes nesting identifier ltpk).perform world).1 = .ok true →
      ∃ request, .enroll request ∈ commands ∧
        PyString.ofString request.identifier = identifier ∧ request.ltpk = ltpk) ∧
    ∀ binding now window,
      ((lookUpWindow digits nesting binding now).perform world).1 = .ok (some window) →
      ∃ draw, .pair draw ∈ commands ∧ window.generation ∈ draw.tokens := by
  have hrevoked : Revoked digits nesting commands world.store :=
    life_keeps _ hlife (fun _ _ _ _ hcommand _ hbefore hstep => revoked_step hcommand hbefore hstep)
      (fun _ _ hbefore hrestarts => hbefore.imp (·.restarts hrestarts) (Or.imp (·.restarts hrestarts)
        fun h => ⟨h.clients.restarts hrestarts, h.window.restarts hrestarts⟩))
      hpublished.revoked
  have hgranted (hopen : PairingState.Open world.store) :
      GrantedBy digits nesting commands world.store := by
    rcases hrevoked with hmarker | hlegacy | hgranted
    · exact absurd (hopen.marker ▸ hmarker.visible) (by simp [present])
    · exact absurd (hopen.legacyMarker ▸ hlegacy.visible) (by simp [present])
    · exact hgranted
  constructor
  · intro identifier ltpk hauthorizes
    obtain ⟨hopen, clients, hclients, hlookup⟩ := granted_of_authorizes hauthorizes
    obtain ⟨before, after, rfl, -⟩ := List.lookup_eq_some_iff.mp hlookup
    obtain ⟨request, hrequest, hentry⟩ :=
      (hgranted hopen).clients.visible _ hclients (identifier, PyString.ofString ltpk.hex) (by simp)
    obtain ⟨hidentifier, hkey⟩ := Prod.mk.inj hentry
    exact ⟨request, hrequest, hidentifier.symm,
      (Bytes.hex_injective (PyString.ofString_injective hkey)).symm⟩
  · intro binding now window hfound
    obtain ⟨hopen, content, hvisible, hread⟩ := current_of_lookUp hfound
    exact (hgranted hopen).window.visible content window hvisible hread

namespace PairingSample

/-- An unpair that is pending. -/
def clearing : PairingState :=
  holding .marker (tombstoneRecord .clearAll token)

/-- A start of the daemon that completes it. -/
def recovered : PairingState :=
  (PairingCommand.startListener startup).after table limit (calm clearing)

end PairingSample

open PairingSample in
theorem revocation_lasts_sample :
    (∀ identifier ltpk, ((authorizes limit identifier ltpk).perform (calm recovered)).1 =
        .ok true →
      ∃ request, PairingCommand.enroll request ∈ [.startListener startup] ∧
        PyString.ofString request.identifier = identifier ∧ request.ltpk = ltpk) ∧
    ∀ binding now window, ((lookUpWindow table limit binding now).perform (calm recovered)).1 =
        .ok (some window) →
      ∃ draw, PairingCommand.pair draw ∈ [.startListener startup] ∧
        window.generation ∈ draw.tokens := by
  have hmarker : clearing.Confined .marker present :=
    (settled_sync clearing).confined rfl
  have hlife : PairingLife table limit (fun _ _ => True) [.startListener startup] clearing
      (calm recovered).store := by
    rw [store_calm]
    exact life_single (calm clearing) trivial
  exact @revocation_lasts _ _ _ _ _ (calm recovered) (.inl hmarker) hlife

/-! ## What a handshake commits -/

/-- Records of windows with another generation. -/
def otherWindows (digits : DigitTable) (nesting : Nesting) (generation : PyString) :
    Set (Option Bytes) :=
  {record | ∀ content window, record = some content →
    readWindow digits nesting content = .ok window → window.generation ≠ generation}

theorem none_mem_otherWindows {generation : PyString} :
    none ∈ otherWindows digits nesting generation :=
  fun _ _ hnone => nomatch hnone

theorem record_mem_otherWindows {generation : PyString} {window : OpenedWindow}
    (hvalid : window.Valid digits) (hne : window.generation ≠ generation) :
    some window.record ∈ otherWindows digits nesting generation := by
  intro content read hcontent hread
  obtain rfl := Option.some.inj hcontent
  rw [readWindow_record nesting hvalid] at hread
  obtain rfl := Except.ok.inj hread
  exact hne

/-- A commit changes no record but that of the clients, and that only in its window. -/
structure Commits (digits : DigitTable) (nesting : Nesting) (request : EnrollRequest)
    (values : Set (Option Bytes)) (first store : PairingState) : Prop where
  others : ∀ record, record ≠ .clients → (store record).visible = (first record).visible
  clients : store.Confined .clients values ∨ PairingState.Open first ∧
    ∃ content window, PairingState.Current digits nesting first request content window

/-- A commit of the enrolment needs its window to be stored. -/
theorem commits_step {request : EnrollRequest} {values : Set (Option Bytes)} {readsFail : Bool}
    {before after : PairingState} (hbefore : Commits digits nesting request values first before)
    (hstep : PairingStep digits nesting readsFail (.enroll request) before after) :
    Commits digits nesting request values first after := by
  have hdraws {identity : ServerIdentity} :
      ¬(PairingCommand.enroll request).drawsIdentity identity := by
    rintro ⟨draw, hcommand, -⟩
    cases hcommand
  have hclears : ¬(PairingCommand.enroll request).clears = true := nofun
  cases hstep with
  | settles => exact ⟨hbefore.others, hbefore.clients.imp_left Confined.sync⟩
  | enrolls hcommand hopen hcurrent _ _ hchanged =>
      cases hcommand
      refine ⟨fun record hne => (hchanged.visible_other hne).trans (hbefore.others record hne),
        .inr ⟨⟨?_, ?_⟩, _, _, { hcurrent with visible := ?_ }⟩⟩
      · exact (hbefore.others .marker (by decide)).symm.trans hopen.marker
      · exact (hbefore.others .legacyMarker (by decide)).symm.trans hopen.legacyMarker
      · exact (hbefore.others .window (by decide)).symm.trans hcurrent.visible
  | createsIdentity hcommand _ _ => exact absurd hcommand hdraws
  | upgradesIdentity hcommand _ _ _ _ => exact absurd hcommand hdraws
  | opensWindow hcommand _ _ _ _ _ _ _ => cases hcommand
  | revokes hcommand _ _ => cases hcommand
  | asksClearAll hover _ _ _ => exact absurd hover.clears hclears
  | dropsWindow hover _ => exact absurd hover.clears hclears
  | dropsClients hover _ => exact absurd hover.clears hclears
  | _ => exact absurd (by assumption) hclears

theorem commits_in_window {request : EnrollRequest} {values : Set (Option Bytes)}
    (hclients : world.store.Confined .clients values) :
    ((PairingCommand.enroll request).after digits nesting world).Confined .clients values ∨
      PairingState.Open world.store ∧ ∃ content window,
        PairingState.Current digits nesting world.store request content window :=
  (PairingCommand.keeps (fun _ _ hbefore hstep => commits_step hbefore hstep)
    ⟨fun _ _ => rfl, .inl hclients⟩ :
      Commits digits nesting request values world.store
        ((PairingCommand.enroll request).after digits nesting world)).clients

/-- The record of the window was cleared, or replaced by another one, and this lasts. -/
def WindowSuperseded (digits : DigitTable) (nesting : Nesting) (generation : PyString)
    (store : PairingState) : Prop :=
  (∃ world resetIdentity token valid,
    (PairingCommand.unpair resetIdentity token valid).Returns digits nesting world .unpaired ∧
    store = (PairingCommand.unpair resetIdentity token valid).after digits nesting world) ∨
  ∃ world draw opened, (PairingCommand.pair draw).Returns digits nesting world (.opened opened) ∧
    opened.generation ≠ generation ∧ store = (PairingCommand.pair draw).after digits nesting world

theorem WindowSuperseded.window {generation : PyString}
    (hsuperseded : WindowSuperseded digits nesting generation first) :
    first.Confined .window (otherWindows digits nesting generation) := by
  rcases hsuperseded with ⟨world, resetIdentity, token, valid, hreturns, rfl⟩ |
    ⟨world, draw, opened, hreturns, hne, rfl⟩
  · exact hreturns.replied.1.window.mono (Set.singleton_subset_iff.mpr none_mem_otherWindows)
  · have hannounced : Announced digits nesting draw opened _ := hreturns.replied
    apply hannounced.settled.confined
    rw [hannounced.shown]
    exact record_mem_otherWindows hannounced.valid hne

/-- A client is only committed in the window its handshake began with, for the identity
that serves it, before it expires and with no marker there. A handshake of a window that
an unpair or another window has superseded commits nothing, whatever came between. -/
theorem enrollment_needs_window (request : EnrollRequest) :
    (∀ world values, world.store.Confined .clients values →
      ((PairingCommand.enroll request).after digits nesting world).Confined .clients values ∨
        PairingState.Open world.store ∧ ∃ content window,
          PairingState.Current digits nesting world.store request content window) ∧
    (∀ world, (PairingCommand.enroll request).Returns digits nesting world (.enrolled .added) →
      Committed digits nesting request
        ((PairingCommand.enroll request).after digits nesting world)) ∧
    ∀ first commands world, WindowSuperseded digits nesting request.generation first →
      PairingLife digits nesting allowed commands first world.store →
      (∀ draw, .pair draw ∈ commands → request.generation ∉ draw.tokens) →
      ¬(PairingCommand.enroll request).Returns digits nesting world (.enrolled .added) ∧
        ∀ values, world.store.Confined .clients values →
          ((PairingCommand.enroll request).after digits nesting world).Confined .clients values := by
  refine ⟨fun _ _ => commits_in_window, fun world hadded => hadded.replied rfl, ?_⟩
  intro first commands world hsuperseded hlife hfresh
  have hkept : world.store.Confined .window (otherWindows digits nesting request.generation) := by
    refine life_keeps
      (fun store => store.Confined .window (otherWindows digits nesting request.generation)) hlife
      ?_ (fun _ _ hbefore hrestarts => hbefore.restarts hrestarts) hsuperseded.window
    intro command world before after hcommand _ hbefore hstep
    refine hstep.window hbefore (fun _ => none_mem_otherWindows) ?_
    rintro draw window rfl hvalid htoken
    refine record_mem_otherWindows hvalid fun hsame => ?_
    exact hfresh draw hcommand (hsame ▸ htoken)
  have hstale (content : Bytes) (window : StoredWindow) :
      ¬PairingState.Current digits nesting world.store request content window :=
    fun hcurrent => hkept.visible content window hcurrent.visible hcurrent.reads hcurrent.generation
  have hclients (values : Set (Option Bytes)) (hvalues : world.store.Confined .clients values) :
      ((PairingCommand.enroll request).after digits nesting world).Confined .clients values := by
    rcases @commits_in_window digits nesting world request values hvalues with
      hconfined | ⟨-, content, window, hcurrent⟩
    · exact hconfined
    · exact absurd hcurrent (hstale content window)
  refine ⟨fun hadded => ?_, hclients⟩
  -- the window that the commit was made in is the one that was there before
  have hcommitted : Committed digits nesting request _ := hadded.replied rfl
  obtain ⟨content, window, hcurrent⟩ := hcommitted.current
  have hothers : Commits digits nesting request Set.univ world.store
      ((PairingCommand.enroll request).after digits nesting world) :=
    PairingCommand.keeps (fun _ _ hbefore hstep => commits_step hbefore hstep)
      ⟨fun _ _ => rfl, .inl fun _ _ => trivial⟩
  refine hstale content window { hcurrent with visible := ?_ }
  exact (hothers.others .window (by decide)).symm.trans hcurrent.visible

namespace PairingSample

/-- An identity, and a window that is open for it. -/
def opened : PairingState
  | .identity => .synced (some (identityRecord identity))
  | .window => .synced (some window.record)
  | _ => .synced none

end PairingSample

open PairingSample in
/-- A handshake that commits. -/
theorem enrollment_needs_window_sample :
    Committed table limit request
      ((PairingCommand.enroll request).after table limit (calm opened)) := by
  have hadded : (PairingCommand.enroll request).Returns table limit (calm opened)
      (.enrolled .added) := by
    decide +kernel
  exact (@enrollment_needs_window _ _ (fun _ _ => True) request).2.1 (calm opened) hadded

end CompanionBridge
