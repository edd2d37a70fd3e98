import CompanionBridge.Library.StoreProtocol
import CompanionBridge.State.PairingCommands

/-!
# The protocol of the pairing state

Which changes of the records each command may make, and what has to hold of the other
records when it makes them. A marker is only lifted over records that are cleared, the
identity only dropped under a reset, and clients and windows are only written where no
marker is.
-/

namespace CompanionBridge

open DurableStore

variable {digits : DigitTable} {nesting : Nesting}

/-! ## What records stand for -/

/-- The markers that keep a reset of the identity pending: all but well-formed ones of an
ordinary unpair. -/
def resetMarkers (nesting : Nesting) : Set (Option Bytes) :=
  {marker | ∃ content, marker = some content ∧
    recordedOperation nesting content ≠ some .clearAll}

/-- A record that is there. -/
def present : Set (Option Bytes) :=
  {record | record.isSome}

/-- The clients of a record, if it can be read. -/
def clientsOf (nesting : Nesting) : Option Bytes → Option PairedMap
  | none => some []
  | some content => (readClients nesting content).toOption

/-- A record of the identity that a listener may use. -/
def holdsIdentity (nesting : Nesting) (identity : ServerIdentity) : Set (Option Bytes) :=
  {record | ∃ content, record = some content ∧
    loadIdentity nesting false content = .ok identity.stored}

/-- A legacy identity bound to a proper generation is a valid identity. -/
theorem valid_withGeneration {content : Bytes} {stored : StoredIdentity} {generation : PyString}
    (hload : loadIdentity nesting true content = .ok stored)
    (hgeneration : isGeneration generation = true) : (stored.withGeneration generation).Valid := by
  have haccepted := accepted_of_loadIdentity hload
  refine ⟨haccepted.identifier, haccepted.joined, haccepted.privateKey, ?_⟩
  cases hstored : stored.generation with
  | none => simpa [StoredIdentity.withGeneration, hstored] using hgeneration
  | some other =>
      simpa [StoredIdentity.withGeneration, hstored] using haccepted.generation other hstored

/-- What a window that is read satisfies; its texts are ones that a file can hold. -/
structure StoredWindow.Accepted (digits : DigitTable) (window : StoredWindow) : Prop where
  valid : window.Valid digits
  pin : Json.Joined window.pin
  identifier : Json.Joined window.serverIdentifier

theorem joined_of_textField {members : List (PyString × Json)} {name : String} {text : PyString}
    (hmembers : Json.StringsJoined (.object members))
    (htext : textField members name = .ok text) : Json.Joined text := by
  unfold textField at htext
  split at htext
  · rename_i found hget
    obtain rfl := Except.ok.inj htext
    cases hmembers.get hget with
    | string hjoined => exact hjoined
  · cases htext

/-- What the window reader returns has passed the reader's checks. -/
theorem accepted_of_readWindow {content : Bytes} {window : StoredWindow}
    (hread : readWindow digits nesting content = .ok window) : window.Accepted digits := by
  obtain ⟨value, hload, hparse⟩ := Outcome.bind_eq_ok.mp hread
  have hjoined := loadRecord_joined hload
  have hvalid := parseWindow_ok hparse
  unfold parseWindow at hparse
  split at hparse
  · simp only [Outcome.bind_eq_ok, require_ok] at hparse
    obtain ⟨pin, hpin, -, -, generation, -, -, -, expiresAt, -, identifier, hidentifier,
      serverGeneration, -, -, -, hwindow⟩ := hparse
    obtain rfl := Except.ok.inj hwindow
    exact ⟨hvalid, joined_of_textField hjoined hpin, joined_of_textField hjoined hidentifier⟩
  · cases hparse

/-- A window that was read may be written again. -/
theorem StoredWindow.Accepted.written {window : OpenedWindow}
    (haccepted : window.stored.Accepted digits) : window.Valid digits :=
  ⟨haccepted.valid, haccepted.pin, haccepted.identifier⟩

/-- Whatever is written of valid values is read back as it was, and whatever is read, of
any bytes, is valid to be written again. -/
theorem records_read_back (digits : DigitTable) (nesting : Nesting) :
    (∀ identity : ServerIdentity, identity.Valid → ∀ allowLegacy,
      loadIdentity nesting allowLegacy (identityRecord identity) = .ok identity.stored) ∧
    (∀ operation generation, isGeneration generation = true →
      recordedOperation nesting (tombstoneRecord operation generation) = some operation) ∧
    (∀ clients : PairedMap, clients.Valid →
      readClients nesting (clientsRecord clients) = .ok clients) ∧
    (∀ window : OpenedWindow, window.Valid digits →
      readWindow digits nesting window.record = .ok window.stored) ∧
    (∀ content stored generation, loadIdentity nesting true content = .ok stored →
      isGeneration generation = true → (stored.withGeneration generation).Valid) ∧
    (∀ content clients, readClients nesting content = .ok clients → clients.Valid) ∧
    ∀ content window, readWindow digits nesting content = .ok window →
      window.Accepted digits ∧
        ∀ opened : OpenedWindow, opened.stored = window → opened.Valid digits := by
  refine ⟨?_, ?_, ?_, ?_, ?_, ?_, ?_⟩
  · exact fun identity hvalid _ => loadIdentity_record nesting _ hvalid
  · exact fun operation _ hvalid => recordedOperation_tombstone nesting operation hvalid
  · exact fun _ hvalid => readClients_record nesting hvalid
  · exact fun _ hvalid => readWindow_record nesting hvalid
  · exact fun _ _ _ hload hgeneration => valid_withGeneration hload hgeneration
  · exact fun _ _ hread => valid_of_readClients hread
  · intro content window hread
    have haccepted := accepted_of_readWindow hread
    refine ⟨haccepted, ?_⟩
    intro opened hstored
    rw [← hstored] at haccepted
    exact haccepted.written

namespace PairingSample

def table : DigitTable := WindowStore.asciiDigits

def limit : Nesting := ⟨4, by decide⟩

def token : PyString := List.replicate 32 0x61

def identity : ServerIdentity where
  identifier := PyString.ofString "4E"
  privateKey := List.replicate 32 7
  generation := token

def window : OpenedWindow where
  pin := PyString.ofString "2718"
  expiry := .fixed '6' ['0'] ['0'] 60 (by decide) (by decide) (by decide) (by decide) (by decide)
    (by decide +kernel)
  generation := token
  serverIdentifier := identity.identifier
  serverGeneration := token

def request : EnrollRequest where
  binding := ⟨identity.identifier, identity.generation⟩
  generation := token
  now := 30
  identifier := "phone"
  ltpk := List.replicate 32 9

def phone : PyString × PyString :=
  (PyString.ofString request.identifier, PyString.ofString request.ltpk.hex)

end PairingSample

open PairingSample in
/-- The records of one pairing, and a window that was read back. -/
theorem records_read_back_sample :
    loadIdentity limit false (identityRecord identity) = .ok identity.stored ∧
    recordedOperation limit (tombstoneRecord .clearAll token) = some .clearAll ∧
    readClients limit (clientsRecord [phone]) = .ok [phone] ∧
    readWindow table limit window.record = .ok window.stored ∧
    window.stored.Accepted table := by
  obtain ⟨hidentity, hmarker, hclients, hwindow, -, -, hread⟩ := records_read_back table limit
  have hphone : PairedMap.Valid [phone] := by
    refine ⟨by decide, by decide, ?_, ?_⟩
    · exact fun entry hentry => List.mem_singleton.mp hentry ▸ ⟨by decide, joined_ofString _⟩
    · exact fun entry hentry => List.mem_singleton.mp hentry ▸
        ⟨joined_ofString _, List.replicate 32 9, by decide, by decide⟩
  have hstored := hwindow window
    ⟨⟨by decide, by decide, by decide⟩, joined_ofString _, joined_ofString _⟩
  refine ⟨hidentity identity ⟨by decide, joined_ofString _, by decide, by decide⟩ false, ?_, ?_,
    hstored, ?_⟩
  · exact hmarker .clearAll token (by decide)
  · exact hclients [phone] hphone
  · exact (hread window.record window.stored hstored).1

namespace PairingState

/-- No marker suspends what the records grant. -/
structure Open (store : PairingState) : Prop where
  marker : (store .marker).visible = none
  legacyMarker : (store .legacyMarker).visible = none

/-- Neither a window nor a client is there, or comes back. -/
structure Cleared (store : PairingState) : Prop where
  window : store.Confined .window {none}
  clients : store.Confined .clients {none}

/-- The window that a commit is made in. -/
structure Current (digits : DigitTable) (nesting : Nesting) (store : PairingState)
    (request : EnrollRequest) (content : Bytes) (window : StoredWindow) : Prop where
  visible : (store .window).visible = some content
  reads : readWindow digits nesting content = .ok window
  unexpired : request.now < window.expiresAt
  identifier : window.serverIdentifier = request.binding.identifier
  serverGeneration : window.serverGeneration = request.binding.generation
  generation : window.generation = request.generation

end PairingState

/-! ## Steps -/

namespace PairingCommand

def resetsIdentity : PairingCommand → Bool
  | unpair resetIdentity _ _ => resetIdentity
  | _ => false

/-- Whether a command clears, or goes on with a clearing. -/
def clears : PairingCommand → Bool
  | startListener _ | unpair _ _ _ => true
  | _ => false

/-- An unpair clears whatever is there, and a start what a marker suspends. Where reads
fail, a start may take any records for suspended ones. -/
def ClearsOver (readsFail : Bool) (store : PairingState) : PairingCommand → Prop
  | startListener _ => readsFail = true ∨ ¬store.Open
  | unpair _ _ _ => True
  | _ => False

/-- The identity that a command may put in place. -/
def drawsIdentity (command : PairingCommand) (identity : ServerIdentity) : Prop :=
  ∃ draw, command = .startListener draw ∧ draw.identity = identity

variable {command : PairingCommand} {readsFail : Bool} {store : PairingState}

/-- A command that may clear over a state is one of those that clear. -/
theorem ClearsOver.clears (h : command.ClearsOver readsFail store) : command.clears = true := by
  cases command with
  | startListener draw => rfl
  | unpair resetIdentity token valid => rfl
  | _ => exact absurd h id

/-- Where a marker is pending, every command that clears may clear. -/
theorem clearsOver_of_pending (hclears : command.clears = true)
    (hpending : readsFail = true ∨ ¬store.Open) : command.ClearsOver readsFail store := by
  cases command with
  | startListener draw => exact hpending
  | unpair resetIdentity token valid => trivial
  | _ => cases hclears

end PairingCommand

/-- One change of the pairing state by a command. -/
inductive PairingStep (digits : DigitTable) (nesting : Nesting) (readsFail : Bool)
    (command : PairingCommand) : Protocol PairingRecord Bytes
  | settles (store) : PairingStep digits nesting readsFail command store store.sync
  | asksReset {store after token} (hclears : command.clears = true)
      (hcommand : readsFail = true ∨ command.resetsIdentity = true)
      (hvalid : isGeneration token = true)
      (hchanged : Changed store .marker (some (tombstoneRecord .identityReset token)) after) :
      PairingStep digits nesting readsFail command store after
  | asksClearAll {store after token} (hclears : command.ClearsOver readsFail store)
      (hnone : (store .marker).visible = none)
      (hvalid : isGeneration token = true)
      (hchanged : Changed store .marker (some (tombstoneRecord .clearAll token)) after) :
      PairingStep digits nesting readsFail command store after
  | dropsWindow {store after} (hclears : command.ClearsOver readsFail store)
      (hchanged : Changed store .window none after) :
      PairingStep digits nesting readsFail command store after
  | dropsClients {store after} (hclears : command.ClearsOver readsFail store)
      (hchanged : Changed store .clients none after) :
      PairingStep digits nesting readsFail command store after
  | dropsIdentity {store after} (hclears : command.clears = true)
      (hmarker : readsFail = true ∨ store.Confined .marker (resetMarkers nesting))
      (hchanged : Changed store .identity none after) :
      PairingStep digits nesting readsFail command store after
  | liftsMarker {store after} (hclears : command.clears = true)
      (hcleared : PairingState.Cleared store)
      (hmarker : (store .marker).visible ∉ resetMarkers nesting ∨
        ∃ identity, command.drawsIdentity identity ∧
          store.Confined .identity {some (identityRecord identity)})
      (hchanged : Changed store .marker none after) :
      PairingStep digits nesting readsFail command store after
  | liftsLegacyMarker {store after} (hclears : command.clears = true)
      (hcleared : PairingState.Cleared store)
      (hchanged : Changed store .legacyMarker none after) :
      PairingStep digits nesting readsFail command store after
  | createsIdentity {store after identity} (hcommand : command.drawsIdentity identity)
      (hnone : (store .identity).visible = none)
      (hchanged : Changed store .identity (some (identityRecord identity)) after) :
      PairingStep digits nesting readsFail command store after
  | upgradesIdentity {store after content stored} {identity : ServerIdentity}
      (hcommand : command.drawsIdentity identity)
      (hvisible : (store .identity).visible = some content)
      (hload : loadIdentity nesting true content = .ok stored) (hlegacy : stored.generation = none)
      (hchanged : Changed store .identity
        (some (identityRecord (stored.withGeneration identity.generation))) after) :
      PairingStep digits nesting readsFail command store after
  | opensWindow {store after draw} {identity : ServerIdentity} {window : OpenedWindow}
      (hcommand : command = .pair draw)
      (hopen : PairingState.Open store)
      (hidentity : store.Confined .identity (holdsIdentity nesting identity))
      (hidentifier : window.serverIdentifier = identity.identifier)
      (hgeneration : window.serverGeneration = identity.generation)
      (hvalid : window.Valid digits) (htoken : window.generation ∈ draw.tokens)
      (hchanged : Changed store .window (some window.record) after) :
      PairingStep digits nesting readsFail command store after
  | enrolls {store after request content window} {clients : PairedMap}
      (hcommand : command = .enroll request)
      (hopen : PairingState.Open store)
      (hcurrent : PairingState.Current digits nesting store request content window)
      (hclients : clientsOf nesting (store .clients).visible = some clients)
      (hvalid : (clients.assign (PyString.ofString request.identifier)
        (PyString.ofString request.ltpk.hex)).Valid)
      (hchanged : Changed store .clients (some (clientsRecord
        (clients.assign (PyString.ofString request.identifier)
          (PyString.ofString request.ltpk.hex)))) after) :
      PairingStep digits nesting readsFail command store after
  | revokes {store after identifier clients} (hcommand : command = .revoke identifier)
      (hclients : clientsOf nesting (store .clients).visible = some clients)
      (hchanged : Changed store .clients (some (clientsRecord (clients.drop identifier))) after) :
      PairingStep digits nesting readsFail command store after

end CompanionBridge
