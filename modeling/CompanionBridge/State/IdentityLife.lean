import CompanionBridge.State.PairingSteps

/-!
# The identity over the life of the pairing state

A published reset is completed before anything is served, a published identity stands
while no reset is asked for, and what listens is what is on disk. Commands may fail,
crash or lose power at every step.
-/

namespace CompanionBridge

open DurableStore

variable {digits : DigitTable} {nesting : Nesting} {allowed : PairingCommand →
  World PairingRecord Bytes → Prop} {commands : List PairingCommand} {first last : PairingState}

/-- The records that hold an identity, too. -/
theorem eq_of_holdsIdentity {identity other : ServerIdentity} (hvalid : other.Valid)
    (hholds : some (identityRecord other) ∈ holdsIdentity nesting identity) : other = identity := by
  obtain ⟨content, hcontent, hload⟩ := hholds
  obtain rfl := Option.some.inj hcontent
  rw [loadIdentity_record nesting false hvalid] at hload
  have hstored := Except.ok.inj hload
  obtain ⟨identifier, privateKey, generation⟩ := identity
  obtain ⟨identifier', privateKey', generation'⟩ := other
  simp only [ServerIdentity.stored, StoredIdentity.mk.injEq, Option.some.injEq] at hstored
  obtain ⟨rfl, rfl, rfl⟩ := hstored
  rfl

/-! ## A reset that was published -/

/-- The records of identities that the commands draw, and the absence of any. -/
def drawnRecords (commands : List PairingCommand) : Set (Option Bytes) :=
  {record | ∀ content, record = some content → ∃ draw, .startListener draw ∈ commands ∧
    content = identityRecord draw.identity}

/-- A reset is pending, or the identity was replaced. -/
def ResetOrReplaced (nesting : Nesting) (commands : List PairingCommand) (store : PairingState) :
    Prop :=
  store.Confined .marker (resetMarkers nesting) ∨ store.Confined .identity (drawnRecords commands)

/-- A reset that was requested is done or still requested. -/
theorem resetOrReplaced_step {command : PairingCommand} {readsFail : Bool}
    {before after : PairingState} (hcommand : command ∈ commands)
    (hbefore : ResetOrReplaced nesting commands before)
    (hstep : PairingStep digits nesting readsFail command before after) :
    ResetOrReplaced nesting commands after := by
  have hdrawn {identity : ServerIdentity} (hdraws : command.drawsIdentity identity) :
      some (identityRecord identity) ∈ drawnRecords commands := by
    obtain ⟨draw, rfl, rfl⟩ := hdraws
    intro content hcontent
    exact ⟨draw, hcommand, (Option.some.inj hcontent).symm⟩
  rcases hbefore with hpending | hreplaced
  · have hvisible := hpending.visible
    rcases hstep.marker hpending (fun _ _ hvalid => tombstone_identityReset hvalid)
      (fun _ hnone _ => absurd (hnone ▸ hvisible) none_notMem_resetMarkers) with
      hpending | ⟨hchanged, -, hnot | ⟨identity, hdraws, hidentity⟩⟩
    · exact .inl hpending
    · exact absurd hvisible hnot
    · refine .inr ((hidentity.mono ?_).changed_other hchanged (by decide))
      exact Set.singleton_subset_iff.mpr (hdrawn hdraws)
  · refine .inr (hstep.identity hreplaced (fun _ => nofun) (fun _ hdraws _ => hdrawn hdraws) ?_)
    rintro content stored identity - hcontent hload hlegacy
    -- a record that was drawn has a generation
    obtain ⟨draw, -, rfl⟩ := hcontent content rfl
    rw [loadIdentity_record nesting true draw.valid] at hload
    obtain rfl := Except.ok.inj hload
    cases hlegacy

/-- A reset of the identity is pending, or an unpair that asked for one has returned. -/
def ResetRequested (digits : DigitTable) (nesting : Nesting) (store : PairingState) : Prop :=
  store.Confined .marker (resetMarkers nesting) ∨ ∃ world token valid,
    (PairingCommand.unpair true token valid).Returns digits nesting world .unpaired ∧
    store = (PairingCommand.unpair true token valid).after digits nesting world

/-- An unpair that has returned may have left another marker, but never the identity. -/
theorem ResetRequested.resetOrReplaced (hrequested : ResetRequested digits nesting first) :
    ResetOrReplaced nesting commands first := by
  rcases hrequested with hmarker | ⟨world, token, valid, hreturns, rfl⟩
  · exact .inl hmarker
  · obtain ⟨-, -, hidentity⟩ := hreturns.replied
    refine .inr ((hidentity rfl).mono ?_)
    rintro record rfl content hcontent
    cases hcontent

/-- Once a reset is requested, no start of the daemon serves an identity but one that was
drawn after it, wherever the commands in between ended. -/
theorem reset_completes {draw : StartupDraw} {world : World PairingRecord Bytes}
    {identity : ServerIdentity} (hrequested : ResetRequested digits nesting first)
    (hlife : PairingLife digits nesting allowed commands first world.store)
    (hlistens : (PairingCommand.startListener draw).Returns digits nesting world
      (.listens identity)) :
    ∃ later, .startListener later ∈ commands ++ [.startListener draw] ∧
      later.identity = identity := by
  have hlast : ResetOrReplaced nesting (commands ++ [.startListener draw]) world.store :=
    life_keeps _ hlife (fun _ _ _ _ hcommand _ hbefore hstep =>
        resetOrReplaced_step (List.mem_append_left _ hcommand) hbefore hstep)
      (fun _ _ hbefore hrestarts => hbefore.imp (·.restarts hrestarts) (·.restarts hrestarts))
      hrequested.resetOrReplaced
  have hafter : ResetOrReplaced nesting (commands ++ [.startListener draw])
      ((PairingCommand.startListener draw).after digits nesting world) :=
    PairingCommand.keeps (fun _ _ hbefore hstep =>
      resetOrReplaced_step (List.mem_append_right _ (List.mem_singleton_self _)) hbefore hstep) hlast
  have hlistening : Listening nesting identity _ := hlistens.replied
  rcases hafter with hpending | hreplaced
  · exact absurd hpending.visible hlistening.marker
  · obtain ⟨content, hcontent, hload⟩ := hlistening.identity
    obtain ⟨later, hlater, rfl⟩ := hreplaced.visible content hcontent
    exact ⟨later, hlater, eq_of_holdsIdentity later.valid ⟨_, rfl, hload⟩⟩

namespace PairingSample

/-- A reset that is pending. -/
def resetting : PairingState :=
  holding .marker (tombstoneRecord .identityReset token)

/-- A start over it that crashes once the clients are gone, and the loss of power. -/
def restarted : PairingState :=
  ((PairingCommand.startListener startup).after table limit (crashing 4 resetting)).sync

end PairingSample

open PairingSample in
theorem reset_completes_sample :
    ∃ later, PairingCommand.startListener later ∈
        [.startListener startup] ++ [.startListener startup] ∧
      later.identity = PairingSample.identity := by
  have hrequested : ResetRequested table limit resetting := by
    refine .inl ((settled_sync resetting).confined ?_)
    exact ⟨tombstoneRecord .identityReset token, rfl, by decide +kernel⟩
  have hlife : PairingLife table limit (fun _ _ => True) [.startListener startup] resetting
      restarted := by
    apply Lives.restarts (life_single (crashing 4 resetting) trivial)
    exact restarts_sync _
  have hlistens : (PairingCommand.startListener startup).Returns table limit (calm restarted)
      (.listens PairingSample.identity) := by
    decide +kernel
  exact @reset_completes _ _ _ _ _ _ (calm restarted) _ hrequested hlife hlistens

/-! ## An identity that stands -/

/-- The record itself, and what it becomes when its generation is added. -/
def standing (nesting : Nesting) (content : Bytes) : Set (Option Bytes) :=
  {record | record = some content ∨ ∃ stored generation,
    loadIdentity nesting true content = .ok stored ∧ stored.generation = none ∧
      isGeneration generation = true ∧
      record = some (identityRecord (stored.withGeneration generation))}

/-- No reset is asked for, and the identity is what it was. -/
def Stands (nesting : Nesting) (content : Bytes) (store : PairingState) : Prop :=
  store.Confined .marker {marker | marker ∉ resetMarkers nesting} ∧
    store.Confined .identity (standing nesting content)

/-- An identity stands while nobody resets it. -/
theorem stands_step {command : PairingCommand} {before after : PairingState} {content : Bytes}
    (hcommand : command.resetsIdentity = false) (hbefore : Stands nesting content before)
    (hstep : PairingStep digits nesting false command before after) :
    Stands nesting content after := by
  obtain ⟨hmarker, hidentity⟩ := hbefore
  refine ⟨?_, hstep.identity hidentity ?_ ?_ ?_⟩
  · have hresets (token : PyString) (hasked : false = true ∨ command.resetsIdentity = true) :
        isGeneration token = true → some (tombstoneRecord .identityReset token) ∈
          {marker | marker ∉ resetMarkers nesting} := by
      rw [hcommand] at hasked
      simp at hasked
    rcases hstep.marker hmarker hresets (fun _ _ hvalid => tombstone_clearAll hvalid)
      with hkept | ⟨hchanged, -, -⟩
    · exact hkept
    · exact hmarker.changed hchanged none_notMem_resetMarkers
  · rintro (hreads | hreset)
    · cases hreads
    · exact absurd hreset.visible hmarker.visible
  · intro identity _ hnone
    rcases hnone ▸ hidentity.visible with hheld | ⟨_, _, -, -, -, hheld⟩
    · cases hheld
    · cases hheld
  · rintro found stored identity ⟨draw, -, rfl⟩ hfound hload hlegacy
    rcases hfound with hsame | ⟨other, generation, hother, -, hvalid, hsame⟩
    · obtain rfl := Option.some.inj hsame
      exact .inr ⟨stored, _, hload, hlegacy, draw.valid.generation, rfl⟩
    · -- a generation that was added is not added again
      obtain rfl := Option.some.inj hsame
      rw [loadIdentity_record nesting true (valid_withGeneration hother hvalid)] at hload
      obtain rfl := Except.ok.inj hload
      cases hlegacy

/-- What a record that stands serves as. -/
theorem eq_of_standing {content : Bytes} {record : Option Bytes} {identity : ServerIdentity}
    (hstanding : record ∈ standing nesting content)
    (hholds : record ∈ holdsIdentity nesting identity) :
    ∃ stored, loadIdentity nesting true content = .ok stored ∧
      identity.identifier = stored.identifier ∧ identity.privateKey = stored.privateKey ∧
      ∀ generation, stored.generation = some generation → identity.generation = generation := by
  rcases hstanding with rfl | ⟨stored, generation, hload, hlegacy, hvalid, rfl⟩
  · obtain ⟨found, hfound, hload⟩ := hholds
    obtain rfl := Option.some.inj hfound
    refine ⟨identity.stored, loadIdentity_legacy hload, rfl, rfl, fun generation hgeneration => ?_⟩
    exact Option.some.inj hgeneration
  · obtain rfl := eq_of_holdsIdentity (valid_withGeneration hload hvalid) hholds
    refine ⟨stored, hload, rfl, rfl, fun other hother => ?_⟩
    rw [hlegacy] at hother
    cases hother

/-- While no reset is asked for, the record of the identity is never replaced but to add
its generation, and every listener serves what it says. -/
theorem identity_stands {content : Bytes}
    (hmarker : first.Confined .marker {marker | marker ∉ resetMarkers nesting})
    (hidentity : first.Confined .identity {some content})
    (hlife : PairingLife digits nesting (fun command world =>
      command.resetsIdentity = false ∧ world.readsFail = false) commands first last) :
    last.Confined .identity (standing nesting content) ∧
    ∀ draw world identity, world.store = last → world.readsFail = false →
      (PairingCommand.startListener draw).Returns digits nesting world (.listens identity) →
      ∃ stored, loadIdentity nesting true content = .ok stored ∧
        identity.identifier = stored.identifier ∧ identity.privateKey = stored.privateKey ∧
        ∀ generation, stored.generation = some generation → identity.generation = generation := by
  have hstands : Stands nesting content last := by
    refine life_keeps _ hlife ?_ ?_ ⟨hmarker, hidentity.mono (Set.singleton_subset_iff.mpr (.inl rfl))⟩
    · rintro command world before after - ⟨hcommand, hreads⟩ hbefore hstep
      rw [hreads] at hstep
      exact stands_step hcommand hbefore hstep
    · exact fun _ _ hbefore hrestarts =>
        ⟨hbefore.1.restarts hrestarts, hbefore.2.restarts hrestarts⟩
  refine ⟨hstands.2, ?_⟩
  rintro draw world identity rfl hreads hlistens
  have hafter : Stands nesting content
      ((PairingCommand.startListener draw).after digits nesting world) :=
    PairingCommand.keeps (fun _ _ hbefore hstep => stands_step rfl hbefore (hreads ▸ hstep)) hstands
  have hlistening : Listening nesting identity _ := hlistens.replied
  exact eq_of_standing hafter.2.visible hlistening.identity

open PairingSample in
theorem identity_stands_sample :
    let content := identityRecord PairingSample.identity
    let last := (PairingCommand.startListener startup).after table limit
      (calm (holding .identity content))
    last.Confined .identity (standing limit content) ∧
    ∀ draw world identity, world.store = last → world.readsFail = false →
      (PairingCommand.startListener draw).Returns table limit world (.listens identity) →
      ∃ stored, loadIdentity limit true content = .ok stored ∧
        identity.identifier = stored.identifier ∧ identity.privateKey = stored.privateKey ∧
        ∀ generation, stored.generation = some generation → identity.generation = generation := by
  intro content last
  have hmarker : (holding .identity content).Confined .marker
      {marker | marker ∉ resetMarkers limit} :=
    (settled_sync (holding .identity content)).confined none_notMem_resetMarkers
  have hidentity : (holding .identity content).Confined .identity {some content} :=
    (settled_sync (holding .identity content)).confined rfl
  exact identity_stands hmarker hidentity (life_single (calm _) ⟨rfl, rfl⟩)

/-! ## What listens -/

/-- A reset is pending, or the identity is the one that listens. -/
def ResetOrServed (nesting : Nesting) (identity : ServerIdentity) (store : PairingState) : Prop :=
  store.Confined .marker (resetMarkers nesting) ∨
    store.Confined .identity (holdsIdentity nesting identity)

namespace PairingCommand

/-- Whether the command starts a daemon. -/
def starts : PairingCommand → Bool
  | startListener _ => true
  | _ => false

end PairingCommand

/-- The served identity is the stored one, or a reset was requested. -/
theorem resetOrServed_step {command : PairingCommand} {identity : ServerIdentity}
    {before after : PairingState} (hcommand : command.starts = false)
    (hbefore : ResetOrServed nesting identity before)
    (hstep : PairingStep digits nesting false command before after) :
    ResetOrServed nesting identity after := by
  have hdraws {other : ServerIdentity} : ¬command.drawsIdentity other := by
    rintro ⟨draw, rfl, -⟩
    cases hcommand
  by_cases hpending : before.Confined .marker (resetMarkers nesting)
  · have hvisible := hpending.visible
    rcases hstep.marker hpending (fun _ _ hvalid => tombstone_identityReset hvalid)
      (fun _ hnone _ => absurd (hnone ▸ hvisible) none_notMem_resetMarkers) with
      hkept | ⟨-, -, hnot | ⟨_, hdrawn, -⟩⟩
    · exact .inl hkept
    · exact absurd hvisible hnot
    · exact absurd hdrawn hdraws
  · refine .inr (hstep.identity (hbefore.resolve_left hpending) ?_ ?_ ?_)
    · rintro (hreads | hreset)
      · cases hreads
      · exact absurd hreset hpending
    · exact fun _ hdrawn => absurd hdrawn hdraws
    · exact fun _ _ _ hdrawn => absurd hdrawn hdraws

/-- As long as no other daemon starts, an identity that listens is the one on disk
wherever no marker is, and every window that is opened names it. -/
theorem listener_agrees {draw : StartupDraw} {world : World PairingRecord Bytes}
    {identity : ServerIdentity}
    (hlistens : (PairingCommand.startListener draw).Returns digits nesting world
      (.listens identity))
    (hlife : PairingLife digits nesting (fun command world =>
      command.starts = false ∧ world.readsFail = false) commands
      ((PairingCommand.startListener draw).after digits nesting world) last) :
    ((last .marker).visible = none → last.Confined .identity (holdsIdentity nesting identity)) ∧
    ∀ window world opened, world.store = last → world.readsFail = false →
      (PairingCommand.pair window).Returns digits nesting world (.opened opened) →
      opened.serverIdentifier = identity.identifier ∧
        opened.serverGeneration = identity.generation := by
  have hlistening : Listening nesting identity _ := hlistens.replied
  have hserved : ResetOrServed nesting identity last := by
    refine life_keeps _ hlife ?_ ?_ (.inr (hlistening.settled.confined hlistening.identity))
    · rintro command world before after - ⟨hcommand, hreads⟩ hbefore hstep
      rw [hreads] at hstep
      exact resetOrServed_step hcommand hbefore hstep
    · exact fun _ _ hbefore hrestarts => hbefore.imp (·.restarts hrestarts) (·.restarts hrestarts)
  refine ⟨fun hnone => hserved.resolve_left fun hpending => ?_, ?_⟩
  · exact none_notMem_resetMarkers (hnone ▸ hpending.visible)
  · rintro window world opened rfl hreads hreturns
    have hannounced : Announced digits nesting window opened _ := hreturns.replied
    have hafter : ResetOrServed nesting identity
        ((PairingCommand.pair window).after digits nesting world) :=
      PairingCommand.keeps (fun _ _ hbefore hstep =>
        resetOrServed_step rfl hbefore (hreads ▸ hstep)) hserved
    obtain ⟨other, ⟨content, hcontent, hother⟩, hidentifier, hgeneration⟩ := hannounced.identity
    rcases hafter with hpending | hidentity
    · exact absurd (hannounced.unfenced.marker ▸ hpending.visible) none_notMem_resetMarkers
    · obtain ⟨found, hfound, hload⟩ := hidentity.visible
      obtain rfl := Option.some.inj (hcontent.symm.trans hfound)
      have hstored := Except.ok.inj (hother.symm.trans hload)
      simp only [ServerIdentity.stored, StoredIdentity.mk.injEq, Option.some.injEq] at hstored
      exact ⟨hidentifier.trans hstored.1, hgeneration.trans hstored.2.2⟩

open PairingSample in
theorem listener_agrees_sample :
    let listening := (PairingCommand.startListener startup).after table limit
      (calm (holding .window []))
    let last := (PairingCommand.pair windowDraw).after table limit (calm listening)
    ((last .marker).visible = none →
      last.Confined .identity (holdsIdentity limit PairingSample.identity)) ∧
    ∀ window world opened, world.store = last → world.readsFail = false →
      (PairingCommand.pair window).Returns table limit world (.opened opened) →
      opened.serverIdentifier = PairingSample.identity.identifier ∧
        opened.serverGeneration = PairingSample.identity.generation := by
  intro listening last
  have hlistens : (PairingCommand.startListener startup).Returns table limit
      (calm (holding .window [])) (.listens PairingSample.identity) := by
    decide +kernel
  exact listener_agrees hlistens (life_single (calm listening) ⟨rfl, rfl⟩)

end CompanionBridge
