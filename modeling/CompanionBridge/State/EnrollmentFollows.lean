import CompanionBridge.State.PairingFollows

/-!
# Enrollment keeps to the protocol

What holds when a window was announced, when a client was committed and when one was
revoked. Each of these looks again at all it rests on, under the lock that it commits
under.
-/

namespace CompanionBridge

open Interruptible DurableStore

section Enrollment

variable {digits : DigitTable} {nesting : Nesting} {readsFail : Bool} {command : PairingCommand}
variable {pre : PairingState → Prop}

/-! ## Opening a window -/

/-- The identity that a window is opened for. -/
theorem loadPersistedIdentity_ensures :
    Ensures digits nesting readsFail command pre (loadPersistedIdentity nesting)
      fun stored store => store.Settled ∧ ∃ content, (store .identity).visible = some content ∧
        loadIdentity nesting false content = .ok stored := by
  refine .bind pairingResetInProgress_ensures fun found => ?_
  cases found with
  | true => exact .raise fun _ _ => trivial
  | false =>
      refine .bind identityExists_ensures fun found => ?_
      cases found with
      | false => exact .raise fun _ _ => trivial
      | true =>
          have hcommit : Ensures digits nesting readsFail command
              (fun store => (pre store ∧ (false = false → PairingState.Open store)) ∧
                (true = false → (store .identity).visible = none))
              (commit : PairingM Unit) fun _ store => store.Settled :=
            commit_ensures fun store _ => settled_sync store
          exact .bind hcommit fun _ => loadIdentityRecord_ensures

/-- What is drawn for a window makes it valid. -/
theorem window_of_draw {draw : WindowDraw} {previous : Option StoredWindow}
    {serverIdentifier serverGeneration : PyString} {window : OpenedWindow}
    (hwindow : draw.window digits previous serverIdentifier serverGeneration = some window)
    (hbinding : isValidBinding serverIdentifier serverGeneration = true)
    (hjoined : Json.Joined serverIdentifier) :
    window.Valid digits ∧ window.generation ∈ draw.tokens ∧
      window.serverIdentifier = serverIdentifier ∧ window.serverGeneration = serverGeneration := by
  simp only [WindowDraw.window, Option.bind_eq_bind, Option.bind_eq_some_iff, Option.pure_def,
    Option.some.injEq] at hwindow
  obtain ⟨pin, hpin, generation, hgeneration, rfl⟩ := hwindow
  have hstrong := List.find?_some hpin
  simp only [Bool.and_eq_true, decide_eq_true_eq] at hstrong
  have htoken := List.mem_of_find?_eq_some hgeneration
  refine ⟨⟨⟨hstrong.1, draw.tokens_valid generation htoken, hbinding⟩, ?_, hjoined⟩, htoken, rfl, rfl⟩
  exact draw.pins_joined pin (List.mem_of_find?_eq_some hpin)

/-- What holds once a window was announced. -/
structure Announced (digits : DigitTable) (nesting : Nesting) (draw : WindowDraw)
    (window : OpenedWindow) (store : PairingState) : Prop where
  unfenced : store.Open
  settled : store.Settled
  shown : (store .window).visible = some window.record
  valid : window.Valid digits
  token : window.generation ∈ draw.tokens
  identity : ∃ identity, (store .identity).visible ∈ holdsIdentity nesting identity ∧
    window.serverIdentifier = identity.identifier ∧ window.serverGeneration = identity.generation

/-- `pair` announces the window that it has written. -/
theorem pair_ensures {draw : WindowDraw} (hcommand : command = .pair draw) :
    Ensures digits nesting readsFail command pre (pair digits nesting draw) fun window store =>
      Announced digits nesting draw window store := by
  refine .bind loadPersistedIdentity_ensures fun stored => ?_
  cases hgeneration : stored.generation with
  | none => exact .raise fun _ _ => trivial
  | some generation =>
      refine .bind pairingResetInProgress_ensures fun found =>
        .ite (fun _ => .raise fun _ _ => trivial) fun hfound =>
          .ite (fun _ => .raise fun _ _ => trivial) fun _ =>
            .ite (fun _ => .raise fun _ _ => trivial) fun hbinding =>
              .bind activeWindow_ensures fun previous => ?_
      have hfound : found = false := by simpa using hfound
      have hbinding : isValidBinding stored.identifier generation = true := by simpa using hbinding
      cases hwindow : draw.window digits previous stored.identifier generation with
      | none => exact .crash
      | some window =>
          let identity : ServerIdentity := ⟨stored.identifier, stored.privateKey, generation⟩
          have hstored : identity.stored = stored := by
            rw [ServerIdentity.stored, ← hgeneration]
          have hvalid {content : Bytes} (hload : loadIdentity nesting false content = .ok stored) :=
            window_of_draw hwindow hbinding (accepted_of_loadIdentity hload).joined
          refine .bind (replace_ensures ?_ ?_) fun _ => .pure fun _ h => h
          · rintro store after ⟨⟨⟨hsettled, content, hvisible, hload⟩, hopen⟩, -⟩ hchanged
            obtain ⟨hwritten, htoken, hidentifier, hbound⟩ := hvalid hload
            exact .opensWindow hcommand (hopen hfound)
              (hsettled.confined ⟨content, hvisible, hstored.symm ▸ hload⟩) hidentifier hbound
              hwritten htoken hchanged
          · rintro store ⟨⟨⟨-, content, hvisible, hload⟩, hopen⟩, -⟩
            obtain ⟨hwritten, htoken, hidentifier, hbound⟩ := hvalid hload
            refine ⟨⟨?_, ?_⟩, settled_put store _ _, visible_put, hwritten, htoken,
              identity, ⟨content, ?_, hstored.symm ▸ hload⟩, hidentifier, hbound⟩
            · exact (visible_put_other (by decide)).trans (hopen hfound).marker
            · exact (visible_put_other (by decide)).trans (hopen hfound).legacyMarker
            · exact (visible_put_other (by decide)).trans hvisible

/-! ## Committing a client -/

/-- Where no reset is in progress, the store is open. -/
theorem resetInProgress_ensures :
    Ensures digits nesting readsFail command pre (resetInProgress nesting) fun found store =>
      found = false → pre store ∧ store.Open := by
  have hreload : Ensures digits nesting readsFail command pre
      (do
        let loaded ← reload nesting
        return loaded.legacyClearAll || loaded.identityReset)
      fun found store => found = false → pre store ∧ store.Open :=
    .bind reload_ensures fun loaded => .pure fun store h hfound => ⟨h.1, h.2.2 hfound⟩
  refine .catching hreload fun error => ?_
  cases error with
  | pairedClients => exact .pure fun _ _ => nofun
  | _ => exact .raise fun _ _ => trivial

/-- A window that is found is the current one. -/
theorem lookUpWindow_ensures {binding : ServerBinding} {now : ℚ} :
    Ensures digits nesting readsFail command pre (lookUpWindow digits nesting binding now)
      fun found store => pre store ∧ ∀ window, found = some window →
        store.Open ∧ now < window.expiresAt ∧ window.serverIdentifier = binding.identifier ∧
          window.serverGeneration = binding.generation ∧
          ∃ content, (store .window).visible = some content ∧
            readWindow digits nesting content = .ok window := by
  refine .ite (fun _ => .pure fun _ h => ⟨h, nofun⟩) fun _ =>
    .bind activeWindow_ensures fun current => .pure ?_
  rintro store ⟨hpre, hactive⟩
  refine ⟨hpre, fun window hwindow => ?_⟩
  obtain ⟨hcurrent, hbound⟩ := Option.filter_eq_some_iff.mp hwindow
  obtain ⟨hopen, hfuture, hread⟩ := hactive window hcurrent
  simp only [Bool.and_eq_true, decide_eq_true_eq] at hbound
  exact ⟨hopen, hfuture, hbound.1, hbound.2, hread⟩

theorem valid_of_clientsOf {record : Option Bytes} {clients : PairedMap}
    (hclients : clientsOf nesting record = some clients) : clients.Valid := by
  cases record with
  | none =>
      obtain rfl := Option.some.inj hclients
      exact PairedMap.valid_nil
  | some content =>
      cases hread : readClients nesting content with
      | error error => simp [clientsOf, hread, Except.toOption] at hclients
      | ok found =>
          rw [clientsOf, hread] at hclients
          obtain rfl := Option.some.inj hclients
          exact valid_of_readClients hread

theorem clientsOf_record {clients : PairedMap} (hvalid : clients.Valid) :
    clientsOf nesting (some (clientsRecord clients)) = some clients := by
  rw [clientsOf, readClients_record nesting hvalid]
  rfl

/-- What a client that is committed needs of the capacity. -/
theorem valid_assign {request : EnrollRequest} {clients : PairedMap} (hvalid : clients.Valid)
    (hentry : ¬(PyString.ofString request.identifier = [] ∨ request.ltpk.length ≠ ltpkBytes))
    (hroom : ¬(clients.lookup (PyString.ofString request.identifier) = none ∧
      maxPairedClients ≤ clients.length)) :
    (clients.assign (PyString.ofString request.identifier)
      (PyString.ofString request.ltpk.hex)).Valid := by
  obtain ⟨hidentifier, hlength⟩ := not_or.mp hentry
  refine hvalid.assign hidentifier (joined_ofString _) (not_not.mp hlength) fun hnone => ?_
  exact Nat.lt_of_not_le fun hfull => hroom ⟨hnone, hfull⟩

/-- What holds once a client was committed. -/
structure Committed (digits : DigitTable) (nesting : Nesting) (request : EnrollRequest)
    (store : PairingState) : Prop where
  settled : store.Settled
  unfenced : store.Open
  current : ∃ content window, store.Current digits nesting request content window
  client : ∃ clients, clientsOf nesting (store .clients).visible = some clients ∧
    clients.lookup (PyString.ofString request.identifier) = some (PyString.ofString request.ltpk.hex)

/-- The commit of an enrolment, inside its window. -/
theorem addLocked_ensures {request : EnrollRequest} (hcommand : command = .enroll request) :
    Ensures digits nesting readsFail command
      (fun store => store.Open ∧ ∃ content window,
        store.Current digits nesting request content window)
      (addLocked nesting (PyString.ofString request.identifier) request.ltpk) fun _ store =>
        Committed digits nesting request store := by
  refine .ite (fun _ => .raise fun _ _ => trivial) fun hentry =>
    .bind resetInProgress_ensures fun found =>
      .ite (fun _ => .raise fun _ _ => trivial) fun hfound =>
        .bind reload_ensures fun loaded => ?_
  have hfound : found = false := by simpa using hfound
  refine .ite (fun hsame => ?_) fun _ => .ite (fun _ => .raise fun _ _ => trivial) fun hroom => ?_
  · refine commit_ensures ?_
    rintro store ⟨hpre, hclients, -⟩
    obtain ⟨⟨hopen, content, window, hcurrent⟩, -⟩ := hpre hfound
    exact ⟨settled_sync store, ⟨hopen.marker, hopen.legacyMarker⟩,
      ⟨content, window, { hcurrent with visible := hcurrent.visible }⟩,
      loaded.clients, hclients, hsame⟩
  · have hvalid {record : Option Bytes} (hclients : clientsOf nesting record = some loaded.clients) :=
      valid_assign (valid_of_clientsOf hclients) hentry hroom
    refine .bind (replace_ensures ?_ ?_) fun _ => .bind reload_ensures fun _ => .pure fun _ h => h.1
    · rintro store after ⟨hpre, hclients, -⟩ hchanged
      obtain ⟨⟨hopen, content, window, hcurrent⟩, -⟩ := hpre hfound
      exact .enrolls hcommand hopen hcurrent hclients (hvalid hclients) hchanged
    · rintro store ⟨hpre, hclients, -⟩
      obtain ⟨⟨hopen, content, window, hcurrent⟩, -⟩ := hpre hfound
      refine ⟨settled_put store _ _, ⟨?_, ?_⟩, ⟨content, window, { hcurrent with visible := ?_ }⟩,
        _, ?_, PairedMap.lookup_assign loaded.clients _ _⟩
      · exact (visible_put_other (by decide)).trans hopen.marker
      · exact (visible_put_other (by decide)).trans hopen.legacyMarker
      · exact (visible_put_other (by decide)).trans hcurrent.visible
      · rw [visible_put]
        exact clientsOf_record (hvalid hclients)

/-- A client is only added in the window that its handshake began with. -/
theorem enroll_ensures {request : EnrollRequest} (hcommand : command = .enroll request) :
    Ensures digits nesting readsFail command pre (enroll digits nesting request)
      fun outcome store => outcome = .added → Committed digits nesting request store := by
  have hmutate : Ensures digits nesting readsFail command pre
      (mutateIfCurrent digits nesting request)
      fun outcome store => outcome = .added → Committed digits nesting request store := by
    refine .bind lookUpWindow_ensures fun current => ?_
    cases current with
    | none => exact .pure fun _ _ => nofun
    | some window =>
        refine .ite (fun _ => .pure fun _ _ => nofun) fun hgeneration => ?_
        refine .bind ((addLocked_ensures hcommand).weaken ?_ (fun _ _ => id) fun _ _ => id)
          fun _ => .pure fun _ h _ => h
        rintro store ⟨-, hfound⟩
        obtain ⟨hopen, hfuture, hidentifier, hbound, content, hvisible, hread⟩ := hfound window rfl
        exact ⟨hopen, content, window, hvisible, hread, hfuture, hidentifier, hbound,
          not_not.mp hgeneration⟩
  refine .catching hmutate fun error => ?_
  cases error with
  | pairedClientsFull => exact .pure fun _ _ => nofun
  | _ => exact .pure fun _ _ => nofun

/-! ## Revoking a client -/

/-- `revoke` drops the identifier it was given. -/
theorem removeClient_ensures {identifier : PyString} (hcommand : command = .revoke identifier) :
    Ensures digits nesting readsFail command pre (removeClient nesting identifier)
      fun _ store => store.Settled ∧
        ∃ clients, clientsOf nesting (store .clients).visible = some clients ∧
          clients.lookup identifier = none := by
  refine .bind reload_ensures fun _ => .bind reload_ensures fun loaded => ?_
  refine .ite (fun hnone => ?_) fun _ => ?_
  · refine .bind (commit_ensures ?_) fun _ => .pure fun _ h => h
    exact fun store h => ⟨settled_sync store, loaded.clients, h.2.1, hnone⟩
  · refine .bind (replace_ensures ?_ ?_) fun _ => .bind reload_ensures fun _ => .pure fun _ h => h.1
    · exact fun store after h hchanged => .revokes hcommand h.2.1 hchanged
    · refine fun store h => ⟨settled_put store _ _, loaded.clients.drop identifier, ?_,
        PairedMap.lookup_drop _ _⟩
      rw [visible_put]
      exact clientsOf_record ((valid_of_clientsOf h.2.1).drop identifier)

end Enrollment

end CompanionBridge
