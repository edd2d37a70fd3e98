import CompanionBridge.State.EnrollmentFollows

/-!
# What a step does to each record

One lemma for each record: which values it stays confined to, whatever the step. A
life of the pairing state is a list of commands, each run in any world that is allowed,
with losses of power between them; what every step keeps is kept by every life.
-/

namespace CompanionBridge

open Interruptible DurableStore Relation

variable {digits : DigitTable} {nesting : Nesting} {readsFail : Bool} {command : PairingCommand}

/-! ## Steps -/

namespace PairingStep

variable {store after : PairingState} {values : Set (Option Bytes)}

/-- What the window can be after a step: as before, cleared, or a window a pairing just
opened. -/
theorem window (hstep : PairingStep digits nesting readsFail command store after)
    (hconfined : store.Confined .window values)
    (hclears : command.ClearsOver readsFail store → none ∈ values)
    (hopens : ∀ draw (window : OpenedWindow), command = .pair draw → window.Valid digits →
      window.generation ∈ draw.tokens → some window.record ∈ values) :
    after.Confined .window values := by
  cases hstep with
  | settles => exact hconfined.sync
  | dropsWindow hcommand hchanged => exact hconfined.changed hchanged (hclears hcommand)
  | opensWindow hcommand _ _ _ _ hvalid htoken hchanged =>
      exact hconfined.changed hchanged (hopens _ _ hcommand hvalid htoken)
  | _ => exact hconfined.changed_other (by assumption) (by decide)

/-- What the clients can be after a step: as before, cleared, one enrolled or one revoked.
-/
theorem clients (hstep : PairingStep digits nesting readsFail command store after)
    (hconfined : store.Confined .clients values)
    (hclears : command.ClearsOver readsFail store → none ∈ values)
    (henrolls : ∀ request content window (clients : PairedMap), command = .enroll request →
      store.Open → store.Current digits nesting request content window →
      clientsOf nesting (store .clients).visible = some clients →
      (clients.assign (PyString.ofString request.identifier)
        (PyString.ofString request.ltpk.hex)).Valid →
      some (clientsRecord (clients.assign (PyString.ofString request.identifier)
        (PyString.ofString request.ltpk.hex))) ∈ values)
    (hrevokes : ∀ identifier clients, command = .revoke identifier →
      clientsOf nesting (store .clients).visible = some clients →
      some (clientsRecord (clients.drop identifier)) ∈ values) :
    after.Confined .clients values := by
  cases hstep with
  | settles => exact hconfined.sync
  | dropsClients hcommand hchanged => exact hconfined.changed hchanged (hclears hcommand)
  | enrolls hcommand hopen hcurrent hclients hvalid hchanged =>
      exact hconfined.changed hchanged (henrolls _ _ _ _ hcommand hopen hcurrent hclients hvalid)
  | revokes hcommand hclients hchanged =>
      exact hconfined.changed hchanged (hrevokes _ _ hcommand hclients)
  | _ => exact hconfined.changed_other (by assumption) (by decide)

/-- What the identity can be after a step: as before, dropped by a reset, created or bound.
-/
theorem identity (hstep : PairingStep digits nesting readsFail command store after)
    (hconfined : store.Confined .identity values)
    (hdrops : readsFail = true ∨ store.Confined .marker (resetMarkers nesting) → none ∈ values)
    (hcreates : ∀ identity, command.drawsIdentity identity → (store .identity).visible = none →
      some (identityRecord identity) ∈ values)
    (hupgrades : ∀ content stored (identity : ServerIdentity), command.drawsIdentity identity →
      some content ∈ values → loadIdentity nesting true content = .ok stored →
      stored.generation = none →
      some (identityRecord (stored.withGeneration identity.generation)) ∈ values) :
    after.Confined .identity values := by
  cases hstep with
  | settles => exact hconfined.sync
  | dropsIdentity _ hmarker hchanged => exact hconfined.changed hchanged (hdrops hmarker)
  | createsIdentity hcommand hnone hchanged =>
      exact hconfined.changed hchanged (hcreates _ hcommand hnone)
  | upgradesIdentity hcommand hvisible hload hlegacy hchanged =>
      refine hconfined.changed hchanged (hupgrades _ _ _ hcommand ?_ hload hlegacy)
      exact hvisible ▸ hconfined.visible
  | _ => exact hconfined.changed_other (by assumption) (by decide)

/-- What the marker can be after a step: as before, published, or lifted once the rest is
cleared. -/
theorem marker (hstep : PairingStep digits nesting readsFail command store after)
    (hconfined : store.Confined .marker values)
    (hresets : ∀ token, readsFail = true ∨ command.resetsIdentity = true →
      isGeneration token = true → some (tombstoneRecord .identityReset token) ∈ values)
    (hclears : ∀ token, (store .marker).visible = none → isGeneration token = true →
      some (tombstoneRecord .clearAll token) ∈ values) :
    after.Confined .marker values ∨ Changed store .marker none after ∧ store.Cleared ∧
      ((store .marker).visible ∉ resetMarkers nesting ∨
        ∃ identity, command.drawsIdentity identity ∧
          store.Confined .identity {some (identityRecord identity)}) := by
  cases hstep with
  | settles => exact .inl hconfined.sync
  | asksReset _ hcommand hvalid hchanged =>
      exact .inl (hconfined.changed hchanged (hresets _ hcommand hvalid))
  | asksClearAll _ hnone hvalid hchanged =>
      exact .inl (hconfined.changed hchanged (hclears _ hnone hvalid))
  | liftsMarker _ hcleared hmarker hchanged => exact .inr ⟨hchanged, hcleared, hmarker⟩
  | _ => exact .inl (hconfined.changed_other (by assumption) (by decide))

/-- The legacy marker stays as it was or is lifted once the rest is cleared. -/
theorem legacyMarker (hstep : PairingStep digits nesting readsFail command store after)
    (hconfined : store.Confined .legacyMarker values) :
    after.Confined .legacyMarker values ∨
      Changed store .legacyMarker none after ∧ store.Cleared := by
  cases hstep with
  | settles => exact .inl hconfined.sync
  | liftsLegacyMarker _ hcleared hchanged => exact .inr ⟨hchanged, hcleared⟩
  | _ => exact .inl (hconfined.changed_other (by assumption) (by decide))

end PairingStep

/-! ## Runs of a command -/

/-- What a command answers, and what then holds of the records. -/
def Replied (digits : DigitTable) (nesting : Nesting) :
    PairingCommand → PairingReply → PairingState → Prop
  | .startListener _, .listens identity, store => Listening nesting identity store
  | .unpair resetIdentity _ _, .unpaired, store => store.Cleared ∧ store.Settled ∧
      (resetIdentity = true → store.Confined .identity {none})
  | .pair draw, .opened window, store => Announced digits nesting draw window store
  | .enroll request, .enrolled outcome, store =>
      outcome = .added → Committed digits nesting request store
  | .revoke identifier, .revoked _, store => store.Settled ∧
      ∃ clients, clientsOf nesting (store .clients).visible = some clients ∧
        clients.lookup identifier = none
  | _, _, _ => False

/-- Every run of a command is a path of steps that the protocol allows. -/
theorem program_ensures (command : PairingCommand) :
    Ensures digits nesting readsFail command (fun _ => True) (command.program digits nesting)
      (Replied digits nesting command) := by
  cases command with
  | startListener draw => exact .bind (startListener_ensures rfl) fun _ => .pure fun _ h => h
  | unpair resetIdentity token valid =>
      exact .bind (unpair_ensures rfl) fun _ => .pure fun _ h => h
  | pair draw => exact .bind (pair_ensures rfl) fun _ => .pure fun _ h => h
  | enroll request => exact .bind (enroll_ensures rfl) fun _ => .pure fun _ h => h
  | revoke identifier => exact .bind (removeClient_ensures rfl) fun _ => .pure fun _ h => h

namespace PairingCommand

/-- A run of a command that returns. -/
def Returns (digits : DigitTable) (nesting : Nesting) (command : PairingCommand)
    (world : World PairingRecord Bytes) (reply : PairingReply) : Prop :=
  ((command.program digits nesting).perform world).1 = .ok reply

instance (command : PairingCommand) (world : World PairingRecord Bytes) (reply : PairingReply) :
    Decidable (command.Returns digits nesting world reply) :=
  inferInstanceAs (Decidable (_ = _))

/-- The records that a run of a command leaves, however it ends. -/
def after (digits : DigitTable) (nesting : Nesting) (command : PairingCommand)
    (world : World PairingRecord Bytes) : PairingState :=
  ((command.program digits nesting).perform world).2.store

variable {world : World PairingRecord Bytes}

/-- A command as a whole is a path of the steps it is allowed. -/
theorem path (digits : DigitTable) (nesting : Nesting) (command : PairingCommand)
    (world : World PairingRecord Bytes) :
    ReflTransGen (PairingStep digits nesting world.readsFail command) world.store
      (command.after digits nesting world) :=
  ((program_ensures command).run trivial).1

/-- What a returning command says is true of the state it leaves. -/
theorem Returns.replied {reply : PairingReply}
    (hreturns : command.Returns digits nesting world reply) :
    Replied digits nesting command reply (command.after digits nesting world) :=
  ((program_ensures command).run trivial).2 reply hreturns

/-- A run keeps what each step of its command keeps. -/
theorem keeps {invariant : PairingState → Prop}
    (hsteps : ∀ before after, invariant before →
      PairingStep digits nesting world.readsFail command before after → invariant after)
    (hbefore : invariant world.store) : invariant (command.after digits nesting world) :=
  path_keeps hsteps hbefore (path digits nesting command world)

end PairingCommand

/-- The lives of a pairing state, in worlds that are allowed. -/
abbrev PairingLife (digits : DigitTable) (nesting : Nesting)
    (allowed : PairingCommand → World PairingRecord Bytes → Prop) :
    List PairingCommand → PairingState → PairingState → Prop :=
  Lives (PairingCommand.program digits nesting) allowed

theorem life_single {allowed : PairingCommand → World PairingRecord Bytes → Prop}
    (world : World PairingRecord Bytes) (hallowed : allowed command world) :
    PairingLife digits nesting allowed [command] world.store (command.after digits nesting world) :=
  .runs (.start world.store) hallowed

/-- What every step and every loss of power keeps is kept for ever. -/
theorem life_keeps {allowed : PairingCommand → World PairingRecord Bytes → Prop}
    (invariant : PairingState → Prop) {commands : List PairingCommand}
    {first last : PairingState} (hlife : PairingLife digits nesting allowed commands first last)
    (hsteps : ∀ command world before after, command ∈ commands → allowed command world →
      invariant before → PairingStep digits nesting world.readsFail command before after →
      invariant after)
    (hrestarts : ∀ before after, invariant before → Restarts before after → invariant after)
    (hfirst : invariant first) : invariant last :=
  hlife.keeps (fun command world hcommand hallowed hbefore => PairingCommand.keeps
    (fun before after => hsteps command world before after hcommand hallowed) hbefore)
    hrestarts hfirst

/-! ## Sample inputs -/

namespace PairingSample

def startup : StartupDraw where
  identity := identity
  valid := ⟨by decide, joined_ofString _, by decide, by decide⟩
  token := token
  token_valid := by decide

def windowDraw : WindowDraw where
  now := 0
  durationSeconds := 60
  pins := [window.pin]
  tokens := [token]
  expiry := window.expiry
  pins_joined := fun _ hpin => List.mem_singleton.mp hpin ▸ joined_ofString _
  tokens_valid := fun _ htoken => List.mem_singleton.mp htoken ▸ by decide

/-- Records on disk, in a world where every step succeeds. -/
def calm (store : PairingState) : World PairingRecord Bytes where
  store := store
  fates := fun _ => .succeeds
  readsFail := false

/-- A world without faults holds the same store. -/
theorem store_calm (store : PairingState) : (calm store).store = store := rfl

/-- A world that crashes while it makes the change of a step. -/
def crashing (step : Nat) (store : PairingState) : World PairingRecord Bytes where
  store := store
  fates := fun count => if count = step then .crashes true else .succeeds
  readsFail := false

/-- A state directory with one record. -/
def holding (record : PairingRecord) (content : Bytes) : PairingState :=
  fun name => .synced (if name = record then some content else none)

end PairingSample

end CompanionBridge
