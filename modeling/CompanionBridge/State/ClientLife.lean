import CompanionBridge.State.PairingSteps

/-!
# The paired clients as the sum of the commands

Each command has one effect on the paired clients, and takes it completely or not at
all. One that reported success took it for good; one that failed, crashed or lost power
may have. Nothing else ever changes the clients.
-/

namespace CompanionBridge

open DurableStore

variable {digits : DigitTable} {nesting : Nesting}

/-- Whether a marker suspends what the records grant, or a failing read may look so. -/
def suspended (world : World PairingRecord Bytes) : Bool :=
  world.readsFail || (world.store .marker).visible.isSome ||
    (world.store .legacyMarker).visible.isSome

/-- A command, whether it began suspended, and what it answered if it returned. -/
structure PairingEvent where
  command : PairingCommand
  suspended : Bool
  reply : Option PairingReply

/-- What a command makes of the clients when it takes effect. -/
def PairingEvent.effect (event : PairingEvent) (clients : PairedMap) : PairedMap :=
  match event.command with
  | .startListener _ => if event.suspended then [] else clients
  | .unpair _ _ _ => []
  | .pair _ => clients
  | .enroll request =>
      clients.assign (PyString.ofString request.identifier) (PyString.ofString request.ltpk.hex)
  | .revoke identifier => clients.drop identifier

/-- Answers that mean that the command took effect. -/
def PairingReply.confirms : PairingReply → Bool
  | .unpaired | .enrolled .added | .revoked _ => true
  | _ => false

/-- How clients come about: each command took effect or, if it did not confirm that,
passed over them. -/
inductive Explains (start : PairedMap) : List PairingEvent → PairedMap → Prop
  | start : Explains start [] start
  | takes {events clients} (event : PairingEvent) (hbefore : Explains start events clients) :
      Explains start (events ++ [event]) (event.effect clients)
  | passes {events clients} {event : PairingEvent} (hbefore : Explains start events clients)
      (hfree : ¬event.reply.any PairingReply.confirms) :
      Explains start (events ++ [event]) clients

/-- Records of clients that come about in some way. -/
def clientsIn (nesting : Nesting) (accounts : PairedMap → Prop) : Set (Option Bytes) :=
  {record | ∃ clients, clientsOf nesting record = some clients ∧ accounts clients}

/-- Clients before a command, or with its effect. -/
def AtMost (event : PairingEvent) (accounts : PairedMap → Prop) (clients : PairedMap) : Prop :=
  accounts clients ∨ ∃ before, accounts before ∧ clients = event.effect before

/-! ## Effects -/

section Effects

variable {event : PairingEvent} {accounts : PairedMap → Prop} {clients : PairedMap}
variable {readsFail : Bool} {before after : PairingState}

/-- A command that took effect already does nothing more. -/
theorem effect_effect (hvalid : (event.effect clients).Valid) :
    event.effect (event.effect clients) = event.effect clients := by
  obtain ⟨command, suspended, reply⟩ := event
  cases command with
  | startListener draw => cases suspended <;> rfl
  | unpair resetIdentity token valid => rfl
  | pair draw => rfl
  | enroll request => exact PairedMap.assign_fixed hvalid.nodup (PairedMap.lookup_assign _ _ _)
  | revoke identifier => exact PairedMap.drop_fixed (PairedMap.lookup_drop _ _)

theorem AtMost.effect (hvalid : clients.Valid) (h : AtMost event accounts clients) :
    AtMost event accounts (event.effect clients) := by
  rcases h with hbefore | ⟨before, hbefore, rfl⟩
  · exact .inr ⟨clients, hbefore, rfl⟩
  · exact .inr ⟨before, hbefore, effect_effect hvalid⟩

/-- A step changes the clients as the whole command does, where the command clears them
if it may. -/
theorem atMost_step
    (hclears : event.command.ClearsOver readsFail before → ∀ clients, event.effect clients = [])
    (hbefore : before.Confined .clients (clientsIn nesting (AtMost event accounts)))
    (hstep : PairingStep digits nesting readsFail event.command before after) :
    after.Confined .clients (clientsIn nesting (AtMost event accounts)) := by
  obtain ⟨shown, hshown, haccounts⟩ := hbefore.visible
  have heffect := haccounts.effect (valid_of_clientsOf hshown)
  refine hstep.clients hbefore (fun hover => ?_) ?_ ?_
  · exact ⟨[], rfl, hclears hover shown ▸ heffect⟩
  · intro request content window clients hcommand _ _ hclients hvalid
    obtain rfl := Option.some.inj (hclients.symm.trans hshown)
    have hassigned : event.effect clients = clients.assign
        (PyString.ofString request.identifier) (PyString.ofString request.ltpk.hex) := by
      rw [PairingEvent.effect, hcommand]
    exact ⟨_, clientsOf_record hvalid, hassigned ▸ heffect⟩
  · intro identifier clients hcommand hclients
    obtain rfl := Option.some.inj (hclients.symm.trans hshown)
    have hdropped : event.effect clients = clients.drop identifier := by
      rw [PairingEvent.effect, hcommand]
    exact ⟨_, clientsOf_record ((valid_of_clientsOf hclients).drop identifier),
      hdropped ▸ heffect⟩

/-- A start that nothing suspends makes no marker. -/
theorem open_step {draw : StartupDraw} (hopen : before.Open)
    (hstep : PairingStep digits nesting false (.startListener draw) before after) :
    after.Open := by
  have hover : ¬(PairingCommand.startListener draw).ClearsOver false before := by
    rintro (hreads | hpending)
    · cases hreads
    · exact hpending hopen
  have hkeeps {record : PairingRecord} {value : Option Bytes}
      (hchanged : DurableStore.Changed before record value after)
      (hmarker : .marker ≠ record) (hlegacy : .legacyMarker ≠ record) : after.Open :=
    ⟨(hchanged.visible_other hmarker).trans hopen.marker,
      (hchanged.visible_other hlegacy).trans hopen.legacyMarker⟩
  cases hstep with
  | settles => exact ⟨hopen.marker, hopen.legacyMarker⟩
  | asksReset _ hcommand => simp [PairingCommand.resetsIdentity] at hcommand
  | asksClearAll hclears => exact absurd hclears hover
  | dropsWindow hclears => exact absurd hclears hover
  | dropsClients hclears => exact absurd hclears hover
  | liftsMarker _ _ _ hchanged =>
      refine ⟨?_, (hchanged.visible_other (by decide)).trans hopen.legacyMarker⟩
      exact hchanged.visible_same hopen.marker
  | liftsLegacyMarker _ _ hchanged =>
      refine ⟨(hchanged.visible_other (by decide)).trans hopen.marker, ?_⟩
      exact hchanged.visible_same hopen.legacyMarker
  | dropsIdentity _ _ hchanged => exact hkeeps hchanged nofun nofun
  | createsIdentity _ _ hchanged => exact hkeeps hchanged nofun nofun
  | upgradesIdentity _ _ _ _ hchanged => exact hkeeps hchanged nofun nofun
  | opensWindow _ _ _ _ _ _ _ hchanged => exact hkeeps hchanged nofun nofun
  | enrolls _ _ _ _ _ hchanged => exact hkeeps hchanged nofun nofun
  | revokes _ _ hchanged => exact hkeeps hchanged nofun nofun

/-- What a command confirmed is not undone: its effect is in what is there. -/
theorem effect_of_confirms {reply : PairingReply} {store : PairingState}
    (hreplied : Replied digits nesting event.command reply store)
    (hconfirms : reply.confirms = true)
    (hclients : clientsOf nesting (store .clients).visible = some clients) :
    store.Confined .clients {(store .clients).visible} ∧ event.effect clients = clients := by
  have hvalid := valid_of_clientsOf hclients
  obtain ⟨command, suspended, recorded⟩ := event
  cases command with
  | startListener draw =>
      cases reply with
      | listens identity => cases hconfirms
      | _ => exact absurd hreplied id
  | unpair resetIdentity token valid =>
      cases reply with
      | unpaired =>
          obtain ⟨hcleared, hsettled, -⟩ := hreplied
          rw [hcleared.clients.eq] at hclients
          obtain rfl := Option.some.inj hclients
          exact ⟨hsettled .clients, rfl⟩
      | _ => exact absurd hreplied id
  | pair draw =>
      cases reply with
      | opened window => cases hconfirms
      | _ => exact absurd hreplied id
  | enroll request =>
      cases reply with
      | enrolled outcome =>
          cases outcome with
          -- a client that is there already is not changed by adding it again
          | added =>
              have hcommitted : Committed digits nesting request store := hreplied rfl
              obtain ⟨found, hfound, hlookup⟩ := hcommitted.client
              obtain rfl := Option.some.inj (hclients.symm.trans hfound)
              exact ⟨hcommitted.settled .clients, PairedMap.assign_fixed hvalid.nodup hlookup⟩
          | _ => cases hconfirms
      | _ => exact absurd hreplied id
  | revoke identifier =>
      cases reply with
      | revoked removed =>
          obtain ⟨hsettled, found, hfound, hlookup⟩ := hreplied
          obtain rfl := Option.some.inj (hclients.symm.trans hfound)
          exact ⟨hsettled .clients, PairedMap.drop_fixed hlookup⟩
      | _ => exact absurd hreplied id

end Effects

/-! ## Whole lives -/

/-- Lives whose events tell how each command began and what it answered. -/
abbrev RecordedLife (digits : DigitTable) (nesting : Nesting) :
    List PairingEvent → PairingState → PairingState → Prop :=
  Lives (fun event => event.command.program digits nesting) fun event world =>
    event.suspended = suspended world ∧
      event.reply = ((event.command.program digits nesting).perform world).1.toOption

theorem recordedLife_single {event : PairingEvent} (world : World PairingRecord Bytes)
    (hsuspended : event.suspended = suspended world)
    (hreply : event.reply =
      ((event.command.program digits nesting).perform world).1.toOption) :
    RecordedLife digits nesting [event] world.store (event.command.after digits nesting world) :=
  .runs (.start world.store) ⟨hsuspended, hreply⟩

variable {start : PairedMap} {events : List PairingEvent} {event : PairingEvent}
variable {world : World PairingRecord Bytes}

/-- A world in which reads succeed and no marker stands. -/
theorem not_suspended (h : suspended world = false) :
    world.readsFail = false ∧ PairingState.Open world.store := by
  simp only [suspended, Bool.or_eq_false_iff, Option.isSome_eq_false_iff,
    Option.isNone_iff_eq_none] at h
  obtain ⟨⟨hreads, hmarker⟩, hlegacy⟩ := h
  exact ⟨hreads, hmarker, hlegacy⟩

/-- Wherever a run ends, its command took effect once or not at all. -/
theorem atMost_run {accounts : PairedMap → Prop} (hsuspended : event.suspended = suspended world)
    (hbefore : world.store.Confined .clients (clientsIn nesting accounts)) :
    (event.command.after digits nesting world).Confined .clients
      (clientsIn nesting (AtMost event accounts)) := by
  have hfirst : world.store.Confined .clients (clientsIn nesting (AtMost event accounts)) :=
    hbefore.mono fun _ ⟨clients, hclients, haccounts⟩ => ⟨clients, hclients, .inl haccounts⟩
  -- the commands that never clear
  have hnever {before after : PairingState}
      (hclears : ¬event.command.ClearsOver world.readsFail before) :=
    @atMost_step digits nesting event accounts world.readsFail before after
      fun hover => absurd hover hclears
  obtain ⟨command, asked, reply⟩ := event
  cases command with
  | startListener draw =>
      cases asked with
      | true =>
          exact PairingCommand.keeps
            (fun _ _ => @atMost_step _ _ ⟨_, true, reply⟩ _ _ _ _ fun _ _ => rfl) hfirst
      | false =>
          obtain ⟨hreads, hopen⟩ := not_suspended hsuspended.symm
          refine And.right (@PairingCommand.keeps _ _ _ world (fun store => store.Open ∧
            store.Confined .clients (clientsIn nesting (AtMost ⟨_, _, _⟩ accounts))) ?_
            ⟨hopen, hfirst⟩)
          intro before after hkept hstep
          rw [hreads] at hstep
          refine ⟨open_step hkept.1 hstep, atMost_step ?_ hkept.2 hstep⟩
          rintro (hfail | hpending)
          · cases hfail
          · exact absurd hkept.1 hpending
  | unpair resetIdentity token valid =>
      exact PairingCommand.keeps
        (fun _ _ => @atMost_step _ _ ⟨.unpair resetIdentity token valid, asked, reply⟩ _ _ _ _
          fun _ _ => rfl) hfirst
  | pair draw => exact PairingCommand.keeps (fun _ _ => hnever id) hfirst
  | enroll request => exact PairingCommand.keeps (fun _ _ => hnever id) hfirst
  | revoke identifier => exact PairingCommand.keeps (fun _ _ => hnever id) hfirst

/-- A run explains the clients it leaves, by induction on its events. -/
theorem explained_run (hsuspended : event.suspended = suspended world)
    (hreply : event.reply =
      ((event.command.program digits nesting).perform world).1.toOption)
    (hbefore : world.store.Confined .clients (clientsIn nesting (Explains start events))) :
    (event.command.after digits nesting world).Confined .clients
      (clientsIn nesting (Explains start (events ++ [event]))) := by
  have hatMost := @atMost_run digits _ _ _ _ hsuspended hbefore
  by_cases hconfirms : event.reply.any PairingReply.confirms
  · obtain ⟨answer, hanswered, hanswer⟩ := (Option.any_eq_true _ _).mp hconfirms
    rw [hanswered] at hreply
    have hreturns : event.command.Returns digits nesting world answer := by
      unfold PairingCommand.Returns
      cases hended : (Handler.perform (event.command.program digits nesting) world).1 with
      | ok found =>
          rw [hended] at hreply
          rw [Option.some.inj hreply]
      | error interruption =>
          rw [hended] at hreply
          cases hreply
    obtain ⟨clients, hclients, haccounts⟩ := hatMost.visible
    obtain ⟨hlasting, heffect⟩ := effect_of_confirms hreturns.replied hanswer hclients
    refine hlasting.mono (Set.singleton_subset_iff.mpr ⟨clients, hclients, ?_⟩)
    rcases haccounts with hexplains | ⟨before, hexplains, rfl⟩
    · rw [← heffect]
      exact hexplains.takes event
    · exact hexplains.takes event
  · refine hatMost.mono fun _ ⟨clients, hclients, haccounts⟩ => ⟨clients, hclients, ?_⟩
    rcases haccounts with hexplains | ⟨before, hexplains, rfl⟩
    · exact hexplains.passes hconfirms
    · exact hexplains.takes event

/-- At any moment, and after any loss of power, the clients on disk are at most eight and
are what the commands made of the first ones, each completely or not at all. A start of
the daemon makes nothing of them unless it began suspended. -/
theorem clients_explained {first last : PairingState}
    (hfirst : first.Confined .clients {record | clientsOf nesting record = some start})
    (hlife : RecordedLife digits nesting events first last) :
    last.Confined .clients (clientsIn nesting fun clients =>
      clients.length ≤ maxPairedClients ∧ Explains start events clients) := by
  have hexplained : last.Confined .clients (clientsIn nesting (Explains start events)) := by
    induction hlife with
    | start => exact hfirst.mono fun record hrecord => ⟨start, hrecord, .start⟩
    | restarts _ hrestarts ih => exact (ih hfirst).restarts hrestarts
    | runs _ hallowed ih => exact explained_run hallowed.1 hallowed.2 (ih hfirst)
  exact hexplained.mono fun record ⟨clients, hclients, hexplains⟩ =>
    ⟨clients, hclients, (valid_of_clientsOf hclients).capacity, hexplains⟩

namespace PairingSample

/-- One client, and what a revocation of it leaves. -/
def paired : PairingState :=
  holding .clients (clientsRecord [phone])

def revoked : PairingState :=
  (PairingCommand.revoke phone.1).after table limit (calm paired)

end PairingSample

open PairingSample in
theorem clients_explained_sample :
    revoked.Confined .clients (clientsIn limit fun clients => clients.length ≤ maxPairedClients ∧
      Explains [phone] [⟨.revoke phone.1, false, some (.revoked true)⟩] clients) := by
  have hpaired : paired.Confined .clients {record | clientsOf limit record = some [phone]} := by
    apply (settled_sync paired).confined
    decide +kernel
  have hreply : some (.revoked true) =
      (((PairingCommand.revoke phone.1).program table limit).perform (calm paired)).1.toOption := by
    decide +kernel
  have hlife : RecordedLife table limit [⟨.revoke phone.1, false, some (.revoked true)⟩] paired
      revoked :=
    @recordedLife_single _ _ ⟨.revoke phone.1, false, some (.revoked true)⟩ (calm paired) rfl hreply
  exact clients_explained hpaired hlife

end CompanionBridge
