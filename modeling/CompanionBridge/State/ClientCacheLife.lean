import Mathlib.Data.List.MinMax
import CompanionBridge.State.ClientCacheRefresh

/-!
# An instance that lives on

Calls of one instance, between which others change the files. It answers every call as one
opened now would, or it has been given up and denies.
-/

namespace CompanionBridge

open Interruptible

/-- Whether an instance is of no use any more: closed, or its directory was replaced. -/
def ClientCache.givenUp {Fd : Type} (cache : ClientCache Fd) : Bool :=
  cache.closed || cache.unsafeDirectory

/-- Whether a marker has been found. -/
def RecordStamps.marked (stamps : RecordStamps) : Bool :=
  stamps.legacyClearAll.isSome || stamps.identityReset.isSome

/-- The answer of an instance that has read this. -/
def answered {Result : Type} (denial : Result) (answer : PairedMap → Result) :
    Except (Interruption ClientsFault) (PairedMap × RecordStamps) →
      Except (Interruption ClientsFault) Result
  | .ok (clients, stamps) => .ok (if stamps.marked then denial else answer clients)
  | .error (.raised .pairedClients) => .ok denial
  | .error interruption => .error interruption

section Consulting

variable {Fd World Result : Type} [DecidableEq Fd] (calls : StateCalls Fd World)
variable (nesting : Nesting) (path : StorePath)

/-- The methods that answer from what is kept, and deny where a marker is found. -/
def consulting (denial : Result) (answer : PairedMap → Result) : CacheM Fd World Result :=
  PairedClients.otherwise denial do
    if ← authorityResetInProgress calls nesting path then return denial
    else
      let cache ← cacheOf
      return answer cache.clients

/-- `authorizes` is one way to consult the cache. -/
theorem authorizes_eq_consulting (identifier : PyString) (ltpk : Bytes) :
    PairedClients.authorizes calls nesting path identifier ltpk =
      consulting calls nesting path false fun clients =>
        decide (clients.lookup identifier = some (PyString.ofString ltpk.hex)) := rfl

theorem ltpk_eq_consulting (identifier : PyString) :
    PairedClients.ltpk calls nesting path identifier =
      consulting calls nesting path none fun clients =>
        ((clients.lookup identifier).filter (· ≠ [])).bind Bytes.fromHex := rfl

theorem resetInProgress_eq_consulting :
    PairedClients.resetInProgress calls nesting path =
      consulting calls nesting path true fun _ => false := by
  unfold PairedClients.resetInProgress consulting
  apply congrArg
  funext whole
  change Handler.perform _ whole = Handler.perform _ whole
  cases hmarked : (authorityResetInProgress calls nesting path).perform whole with
  | mk outcome after =>
      apply Eq.symm
      cases outcome with
      | error interruption => exact (perform_bind_of_error hmarked).trans hmarked.symm
      | ok marked =>
          apply (Handler.perform_bind_of_ok hmarked).trans
          cases marked with
          | true => exact hmarked.symm
          | false => exact hmarked.symm

end Consulting

namespace RecordFileSystem

variable {Tree Object : Type} {files : RecordFileSystem Tree Object}
variable {nesting : Nesting} {path : StorePath} {history : Set Tree}
variable {tree : Tree} {cache : ClientCache Object}

/-! ## One call -/

theorem perform_ensureMutable_givenUp (tree : Tree) (hgiven : cache.givenUp = true) :
    (ensureMutable : CacheM Object Tree Unit).perform (tree, cache) =
      (.error (.raised .pairedClients), tree, cache) := by
  have hstart : (ensureMutable : CacheM Object Tree Unit).perform (tree, cache) =
      (if cache.closed || cache.unsafeDirectory then raise .pairedClients else pure () :
        CacheM Object Tree Unit).perform (tree, cache) := rfl
  rw [hstart, if_pos (by simpa only [ClientCache.givenUp] using hgiven)]
  rfl

variable [DecidableEq Object]

theorem perform_refreshIfChanged_givenUp (tree : Tree) (hgiven : cache.givenUp = true) :
    (refreshIfChanged files.stateCalls nesting path).perform (tree, cache) =
      (.error (.raised .pairedClients), tree, cache) :=
  perform_bind_of_error (perform_ensureMutable_givenUp tree hgiven)

theorem perform_consulting_givenUp {Result : Type} (tree : Tree) (hgiven : cache.givenUp = true)
    (denial : Result) (answer : PairedMap → Result) :
    (consulting files.stateCalls nesting path denial answer).perform (tree, cache) =
      (.ok denial, tree, cache) := by
  have hmarked : (authorityResetInProgress files.stateCalls nesting path).perform (tree, cache) =
      (.error (.raised .pairedClients), tree, cache) :=
    perform_bind_of_error (perform_refreshIfChanged_givenUp tree hgiven)
  unfold consulting PairedClients.otherwise
  rw [perform_catching, perform_bind_of_error hmarked]
  rfl

/-- An answer is that of an instance opened now, or a denial of one that is given up. -/
theorem perform_consulting {Result : Type} (hrestamped : files.Restamped history)
    (htree : tree ∈ history) (hrecalls : files.Recalls nesting path history cache)
    (denial : Result) (answer : PairedMap → Result) :
    ∃ outcome after,
      (consulting files.stateCalls nesting path denial answer).perform (tree, cache) =
        (outcome, tree, after) ∧
      files.Recalls nesting path history after ∧ (cache.givenUp = true → after = cache) ∧
      (outcome = answered denial answer (files.openedAs nesting path tree) ∨
        outcome = .ok denial ∧ after.givenUp = true) := by
  have hbody {outcome : Except (Interruption ClientsFault) Unit} {after : ClientCache Object}
      (hrefresh : (refreshIfChanged files.stateCalls nesting path).perform (tree, cache) =
        (outcome, tree, after)) :
      (do
        if ← authorityResetInProgress files.stateCalls nesting path then return denial
        else
          let cache ← cacheOf
          return answer cache.clients : CacheM Object Tree Result).perform (tree, cache) =
        (outcome.map fun _ => if after.stamps.marked then denial else answer after.clients,
          tree, after) := by
    cases outcome with
    | error interruption =>
        exact perform_bind_of_error (perform_bind_of_error hrefresh)
    | ok _ =>
        have hmarked : (authorityResetInProgress files.stateCalls nesting path).perform
            (tree, cache) = (.ok after.stamps.marked, tree, after) :=
          Handler.perform_bind_of_ok hrefresh
        apply (Handler.perform_bind_of_ok hmarked).trans
        dsimp only [Except.map]
        split_ifs
        · rfl
        · rfl
  -- a cache that has given up answers without looking at the directory
  by_cases hgiven : cache.givenUp = true
  · exact ⟨.ok denial, cache, perform_consulting_givenUp tree hgiven denial answer, hrecalls,
      fun _ => rfl, .inr ⟨rfl, hgiven⟩⟩
  · obtain ⟨hclosed, hsafe⟩ : cache.closed = false ∧ cache.unsafeDirectory = false := by
      simpa [ClientCache.givenUp] using hgiven
    obtain ⟨outcome, after, hrefresh, hrefreshed⟩ :=
      perform_refreshIfChanged hrestamped htree hrecalls hclosed hsafe
    unfold consulting PairedClients.otherwise
    rw [perform_catching, hbody hrefresh]
    rcases hrefreshed.ends with ⟨-, houtcome, hread⟩ | ⟨hgivenUp, rfl⟩
    · cases hopened : files.openedAs nesting path tree with
      | error interruption =>
          rw [hopened] at houtcome
          subst houtcome
          cases interruption with
          | crashed => exact ⟨_, after, rfl, hrefreshed.recalls, by simp [hgiven], .inl rfl⟩
          | raised fault =>
              cases fault with
              | pairedClients =>
                  exact ⟨_, after, rfl, hrefreshed.recalls, by simp [hgiven], .inl rfl⟩
              | recursion =>
                  exact ⟨_, after, rfl, hrefreshed.recalls, by simp [hgiven], .inl rfl⟩
      | ok found =>
          obtain ⟨clients, stamps⟩ := found
          rw [hopened] at houtcome
          subst houtcome
          obtain ⟨rfl, rfl⟩ := hread clients stamps hopened
          exact ⟨_, after, rfl, hrefreshed.recalls, by simp [hgiven], .inl rfl⟩
    · refine ⟨.ok denial, after, rfl, hrefreshed.recalls, by simp [hgiven], .inr ⟨rfl, ?_⟩⟩
      simp [ClientCache.givenUp, hgivenUp]

/-- The list of identifiers is that of the records, too. -/
theorem perform_identifiers (hrestamped : files.Restamped history) (htree : tree ∈ history)
    (hrecalls : files.Recalls nesting path history cache) :
    ∃ outcome after,
      (PairedClients.identifiers files.stateCalls nesting path).perform (tree, cache) =
        (outcome, tree, after) ∧
      files.Recalls nesting path history after ∧ (cache.givenUp = true → after = cache) := by
  unfold PairedClients.identifiers
  by_cases hgiven : cache.givenUp = true
  · exact ⟨_, cache, perform_bind_of_error (perform_bind_of_error
      (perform_ensureMutable_givenUp tree hgiven)), hrecalls, fun _ => rfl⟩
  · obtain ⟨hclosed, hsafe⟩ : cache.closed = false ∧ cache.unsafeDirectory = false := by
      simpa [ClientCache.givenUp] using hgiven
    obtain ⟨outcome, after, hreload, hrefreshed⟩ :=
      perform_reloadCache hrestamped htree hrecalls hclosed hsafe
    cases outcome with
    | error interruption =>
        exact ⟨_, after, perform_bind_of_error hreload, hrefreshed.recalls, by simp [hgiven]⟩
    | ok _ =>
        exact ⟨_, after, Handler.perform_bind_of_ok hreload, hrefreshed.recalls, by simp [hgiven]⟩

/-! ## Runs -/

variable (files nesting path history)

/-- A call of an instance. -/
inductive ClientsCall where
  | authorizes (identifier : PyString) (key : Bytes)
  | ltpk (identifier : PyString)
  | resetInProgress
  | identifiers
  | close

/-- The state that a call leaves. -/
def ClientsCall.after (call : ClientsCall) (state : Tree × ClientCache Object) :
    Tree × ClientCache Object :=
  match call with
  | .authorizes identifier key =>
      ((PairedClients.authorizes files.stateCalls nesting path identifier key).perform state).2
  | .ltpk identifier =>
      ((PairedClients.ltpk files.stateCalls nesting path identifier).perform state).2
  | .resetInProgress => ((PairedClients.resetInProgress files.stateCalls nesting path).perform state).2
  | .identifiers => ((PairedClients.identifiers files.stateCalls nesting path).perform state).2
  | .close => ((PairedClients.close files.stateCalls).perform state).2

/-- A call, or a change of the files by anyone. -/
inductive ClientsStep : Tree × ClientCache Object → Tree × ClientCache Object → Prop
  | call (call : ClientsCall) (state) :
      ClientsStep state (call.after files nesting path state)
  | change (state) {after : Tree} (hafter : after ∈ history) : ClientsStep state (after, state.2)

variable {files nesting path history}

/-- What holds of an instance all its life. -/
structure Living (files : RecordFileSystem Tree Object) (nesting : Nesting) (path : StorePath)
    (history : Set Tree) (state : Tree × ClientCache Object) : Prop where
  tree : state.1 ∈ history
  recalls : files.Recalls nesting path history state.2

variable {state later : Tree × ClientCache Object}

/-- Consulting the cache keeps it in step with its history. -/
theorem Living.of_consulting {Result : Type} (hliving : Living files nesting path history state)
    (hrestamped : files.Restamped history) (denial : Result) (answer : PairedMap → Result) :
    let after :=
      ((consulting files.stateCalls nesting path denial answer).perform state).2
    Living files nesting path history after ∧ (state.2.givenUp = true → after.2.givenUp = true) := by
  obtain ⟨outcome, after, hperform, hrecalls, hgiven, -⟩ :=
    perform_consulting hrestamped hliving.tree hliving.recalls denial answer
  dsimp only
  rw [show state = (state.1, state.2) from rfl, hperform]
  refine ⟨⟨hliving.tree, hrecalls⟩, fun hstate => ?_⟩
  rw [hgiven hstate]
  exact hstate

/-- One step of the world, or one question. -/
theorem Living.step (hliving : Living files nesting path history state)
    (hrestamped : files.Restamped history)
    (hstep : ClientsStep files nesting path history state later) :
    Living files nesting path history later ∧
      (state.2.givenUp = true → later.2.givenUp = true) := by
  cases hstep with
  | change _ htree => exact ⟨⟨htree, hliving.recalls⟩, id⟩
  | call call _ =>
      cases call with
      | authorizes identifier key =>
          rw [ClientsCall.after, authorizes_eq_consulting]
          exact hliving.of_consulting hrestamped _ _
      | ltpk identifier =>
          rw [ClientsCall.after, ltpk_eq_consulting]
          exact hliving.of_consulting hrestamped _ _
      | resetInProgress =>
          rw [ClientsCall.after, resetInProgress_eq_consulting]
          exact hliving.of_consulting hrestamped _ _
      | identifiers =>
          obtain ⟨outcome, after, hperform, hrecalls, hgiven⟩ :=
            perform_identifiers hrestamped hliving.tree hliving.recalls
          rw [ClientsCall.after, show state = (state.1, state.2) from rfl, hperform]
          refine ⟨⟨hliving.tree, hrecalls⟩, fun hstate => ?_⟩
          rw [hgiven hstate]
          exact hstate
      | close =>
          obtain ⟨tree, cache⟩ := state
          rw [ClientsCall.after, perform_close]
          dsimp only
          split_ifs with hclosed
          · exact ⟨hliving, id⟩
          · refine ⟨⟨hliving.tree, hliving.recalls.unchained.walks, hliving.recalls.reads⟩, fun _ => ?_⟩
            rfl

/-- A run keeps the invariant, and an instance that is given up stays so. -/
theorem Living.run (hliving : Living files nesting path history state)
    (hrestamped : files.Restamped history)
    (hrun : Relation.ReflTransGen (ClientsStep files nesting path history) state later) :
    Living files nesting path history later ∧
      (state.2.givenUp = true → later.2.givenUp = true) := by
  induction hrun with
  | refl => exact ⟨hliving, id⟩
  | tail _ hstep ih =>
      obtain ⟨hnext, hgiven⟩ := ih.1.step hrestamped hstep
      exact ⟨hnext, fun hstate => hgiven (ih.2 hstate)⟩

/-- A cache that was opened has read what the directory held. -/
theorem living_opened {start : Tree × ClientCache Object} (hrestamped : files.Restamped history)
    (htree : tree ∈ history)
    (hopened : (PairedClients.opened files.stateCalls nesting path).perform (tree, {}) =
      (.ok (), start)) : Living files nesting path history start := by
  obtain ⟨retained, hopens⟩ := @opens _ _ files _ nesting path tree
  have hreload := hopens.reload {} false rfl rfl rfl
  unfold PairedClients.opened onError at hopened
  rw [perform_catching, hreload] at hopened
  have hrefreshed := hopens.refreshed hrestamped htree Recalls.empty rfl rfl
  cases hloaded : files.openedAs nesting path tree with
  | ok found =>
      rw [hloaded] at hopened hrefreshed
      obtain rfl := (Prod.mk.inj hopened).2
      exact ⟨htree, hrefreshed.recalls⟩
  | error interruption =>
      rw [hloaded] at hopened
      cases interruption with
      | crashed => cases hopened
      | raised fault =>
          have hraised := (Handler.perform_bind_of_ok (perform_close tree _)).symm.trans hopened
          cases hraised

/-- How a call of an instance is answered. -/
def AnswersAsOpened {Result : Type} (files : RecordFileSystem Tree Object) (nesting : Nesting)
    (path : StorePath) (denial : Result) (answer : PairedMap → Result)
    (method : CacheM Object Tree Result) (state : Tree × ClientCache Object) : Prop :=
  ∃ outcome after, method.perform state = (outcome, state.1, after) ∧
    (outcome = answered denial answer (files.openedAs nesting path state.1) ∨
      outcome = .ok denial ∧ after.givenUp = true)

/-- Every request is denied: no client is authorized, no key is known, and a reset is said to
be in progress. -/
structure DeniesAll (files : RecordFileSystem Tree Object) (nesting : Nesting) (path : StorePath)
    (state : Tree × ClientCache Object) : Prop where
  authorizes : ∀ identifier ltpk,
    ((PairedClients.authorizes files.stateCalls nesting path identifier ltpk).perform state).1 =
      .ok false
  ltpk : ∀ identifier,
    ((PairedClients.ltpk files.stateCalls nesting path identifier).perform state).1 = .ok none
  resetInProgress :
    ((PairedClients.resetInProgress files.stateCalls nesting path).perform state).1 = .ok true

theorem deniesAll_of_givenUp (hgiven : state.2.givenUp = true) :
    DeniesAll files nesting path state := by
  have hdenied {Result : Type} (denial : Result) (answer : PairedMap → Result) :
      ((consulting files.stateCalls nesting path denial answer).perform state).1 = .ok denial := by
    rw [show state = (state.1, state.2) from rfl, perform_consulting_givenUp state.1 hgiven]
  refine ⟨fun identifier ltpk => ?_, fun identifier => ?_, ?_⟩
  · rw [authorizes_eq_consulting]
    exact hdenied _ _
  · rw [ltpk_eq_consulting]
    exact hdenied _ _
  · rw [resetInProgress_eq_consulting]
    exact hdenied _ _

/-- An instance answers as one opened now would, or it has been given up; then it denies
for good. -/
theorem cached_authorization {start reached : Tree × ClientCache Object}
    (hrestamped : files.Restamped history) (htree : tree ∈ history)
    (hopened : (PairedClients.opened files.stateCalls nesting path).perform (tree, {}) =
      (.ok (), start))
    (hrun : Relation.ReflTransGen (ClientsStep files nesting path history) start reached) :
    (∀ identifier ltpk,
      AnswersAsOpened files nesting path false
        (fun clients => decide (clients.lookup identifier = some (PyString.ofString ltpk.hex)))
        (PairedClients.authorizes files.stateCalls nesting path identifier ltpk) reached) ∧
    (∀ identifier,
      AnswersAsOpened files nesting path none
        (fun clients => ((clients.lookup identifier).filter (· ≠ [])).bind Bytes.fromHex)
        (PairedClients.ltpk files.stateCalls nesting path identifier) reached) ∧
    AnswersAsOpened files nesting path true (fun _ => false)
      (PairedClients.resetInProgress files.stateCalls nesting path) reached ∧
    (reached.2.givenUp = true → ∀ later,
      Relation.ReflTransGen (ClientsStep files nesting path history) reached later →
        DeniesAll files nesting path later) := by
  have hliving := ((living_opened hrestamped htree hopened).run hrestamped hrun).1
  have hanswers {Result : Type} (denial : Result) (answer : PairedMap → Result) :
      AnswersAsOpened files nesting path denial answer
        (consulting files.stateCalls nesting path denial answer) reached := by
    obtain ⟨outcome, after, hperform, -, -, hanswer⟩ :=
      perform_consulting hrestamped hliving.tree hliving.recalls denial answer
    exact ⟨outcome, after, hperform, hanswer⟩
  refine ⟨fun identifier ltpk => ?_, fun identifier => ?_, ?_, ?_⟩
  · rw [authorizes_eq_consulting]
    exact hanswers _ _
  · rw [ltpk_eq_consulting]
    exact hanswers _ _
  · rw [resetInProgress_eq_consulting]
    exact hanswers _ _
  · intro hgiven later hlater
    exact deniesAll_of_givenUp ((hliving.run hrestamped hlater).2 hgiven)

end RecordFileSystem

namespace CachedSample

/-- A state directory without a store, in which a marker appears. -/
def files : RecordFileSystem Bool Nat where
  platform := .other
  effectiveUid := 1000
  root _ := .ok 0
  lookup _ _ _ := .error enoent
  make tree _ _ := (.ok (), tree)
  stat tree object := .ok
    { dev := 1, ino := object, mode := if object = 0 then 0o40700 else 0o100600, uid := 1000,
      nlink := 1, mtimeNs := 0, ctimeNs := if tree ∧ object = 0 then 1 else 0 }
  statAt _ _ _ := .error enoent
  sync _ _ := .ok ()
  getxattr _ _ _ := .error enoent
  removexattr tree _ _ := (.ok (), tree)
  getFd _ _ := .error enoent
  toText _ _ := .error enoent
  initAcl _ := .ok ()
  setFd tree _ := (.ok (), tree)
  statAt_lookup := nofun
  make_persists _ _ _ := ⟨nofun, fun _ info hstat => ⟨info, hstat⟩⟩
  removexattr_persists _ _ _ := ⟨nofun, fun _ info hstat => ⟨info, hstat⟩⟩
  setFd_persists _ _ := ⟨nofun, fun _ info hstat => ⟨info, hstat⟩⟩
  number held := held.foldr max ⊥ + 1
  number_fresh _ hmem :=
    Nat.not_succ_le_self _ (List.le_max_of_le hmem le_rfl)
  entry tree _ name :=
    if tree ∧ name = identityResetTombstoneFilename then .ok 1 else .error enoent
  openable _ _ := .ok ()
  size _ _ := 2
  content _ _ := .ok []
  stat_of_entry _ _ _ _ _ := nofun

/-- The state directory is the root. -/
def path : StorePath := ⟨[], "paired-clients.json"⟩

def limit : Nesting := ⟨8, by decide⟩

/-- The instance, opened while there is no marker. -/
def start : Bool × ClientCache Nat :=
  ((PairedClients.opened files.stateCalls limit path).perform (false, {})).2

theorem opened_start :
    (PairedClients.opened files.stateCalls limit path).perform (false, {}) = (.ok (), start) := by
  have hok : ((PairedClients.opened files.stateCalls limit path).perform
      (false, {})).1.toBool = true := by decide +kernel
  unfold start
  cases hopened : (PairedClients.opened files.stateCalls limit path).perform (false, {}) with
  | mk outcome after =>
      rw [hopened] at hok
      cases outcome with
      | ok _ => rfl
      | error _ => cases hok

theorem restamped : files.Restamped Set.univ where
  root _ _ _ _ := rfl
  directory before _ after _ directory info hbefore hafter := by
    refine ⟨⟨hbefore.trans hafter.symm, fun _ => rfl, rfl, rfl⟩, fun _ => rfl⟩
  record before _ after _ object other info hbefore hafter := by
    have hstat : files.recordStat before object = files.recordStat after other :=
      hbefore.trans hafter.symm
    have hsame : files.stat before object = files.stat after other := by
      simpa [RecordFileSystem.recordStat, files, Except.map] using hstat
    exact ⟨⟨hsame, fun _ => rfl, rfl, rfl⟩, rfl, rfl, rfl⟩

end CachedSample

theorem cached_authorization_sample :
    RecordFileSystem.AnswersAsOpened CachedSample.files CachedSample.limit CachedSample.path true
      (fun _ => false)
      (PairedClients.resetInProgress CachedSample.files.stateCalls CachedSample.limit
        CachedSample.path) (true, CachedSample.start.2) :=
  (RecordFileSystem.cached_authorization CachedSample.restamped (Set.mem_univ false)
    CachedSample.opened_start
    (Relation.ReflTransGen.single (.change _ (Set.mem_univ true)))).2.2.1

end CompanionBridge
