import CompanionBridge.State.ClientCacheReload

/-!
# Refreshing a cache

An instance keeps what it has read while others change the files. Where metadata that is
the same again says that nothing else has changed, a refresh ends with what an instance
opened now reads, or the instance is given up.
-/

namespace CompanionBridge

open Interruptible

namespace RecordFileSystem

variable {Tree Object : Type} (files : RecordFileSystem Tree Object)

/-! ## What metadata tells -/

/-- Among these trees, metadata that is the same again belongs to what is the same again. -/
structure Restamped (history : Set Tree) : Prop where
  root : ∀ before ∈ history, ∀ after ∈ history, files.root before = files.root after
  directory : ∀ before ∈ history, ∀ after ∈ history, ∀ directory info,
    files.stat before directory = .ok info → files.stat after directory = .ok info →
      files.SameDirectory before after directory
  record : ∀ before ∈ history, ∀ after ∈ history, ∀ object other info,
    files.recordStat before object = .ok info → files.recordStat after other = .ok info →
      files.SameRecord before after object other

/-- Where these stamps are seen, the clients are those of the store. -/
def Recallable (nesting : Nesting) (path : StorePath) (history : Set Tree)
    (clients : PairedMap) (stamps : RecordStamps) : Prop :=
  ∀ tree ∈ history, ∀ directory, files.stampsAt path tree directory = .ok stamps →
    files.Reads nesting path tree directory clients stamps

/-- What an instance keeps is there, where it is found to be current. -/
structure Recalls (nesting : Nesting) (path : StorePath) (history : Set Tree)
    (cache : ClientCache Object) : Prop where
  walks : ∀ chain, cache.chain = some chain → ∀ tree ∈ history,
    (∀ entry ∈ chain.entries, files.stat tree entry.fd = .ok entry.stamp) →
      files.Walks tree path.parent chain
  reads : files.Recallable nesting path history cache.clients cache.stamps

variable {files} {nesting : Nesting} {path : StorePath} {history : Set Tree}
variable {seen tree : Tree} {directory other : Object} {name : String}
variable {stamp : Option RecordStat} {clients : PairedMap} {stamps : RecordStamps}
variable {cache : ClientCache Object} {chain : DurableDirectoryChain Object}

/-- The same stamp later means that the same marker is there. -/
theorem Marked.again (hrestamped : files.Restamped history) (hseen : seen ∈ history)
    (htree : tree ∈ history) (hmarked : files.Marked seen directory name stamp)
    (hstamp : files.stampAt tree other name = .ok stamp) : files.Marked tree other name stamp := by
  cases hmarked with
  | absent _ => exact .absent (stampAt_eq_none.mp hstamp)
  | found _ hpasses =>
      obtain ⟨object, hentry, hstat⟩ := stampAt_eq_some.mp hstamp
      have hsame := hrestamped.record seen hseen tree htree _ _ _ hpasses.stat hstat
      exact .found hentry (hpasses.again hsame)

theorem Stored.again (hrestamped : files.Restamped history) (hseen : seen ∈ history)
    (htree : tree ∈ history) (hstored : files.Stored nesting seen directory name clients stamp)
    (hstamp : files.stampAt tree other name = .ok stamp) :
    files.Stored nesting tree other name clients stamp := by
  cases hstored with
  | absent _ => exact .absent (stampAt_eq_none.mp hstamp)
  | found _ hpasses hcontent hclients =>
      obtain ⟨object, hentry, hstat⟩ := stampAt_eq_some.mp hstamp
      have hsame := hrestamped.record seen hseen tree htree _ _ _ hpasses.stat hstat
      exact .found hentry (hpasses.again hsame) (hsame.content.symm.trans hcontent) hclients

/-- What was read once is there wherever it has the same stamps. -/
theorem Reads.recallable (hrestamped : files.Restamped history) (hseen : seen ∈ history)
    (hreads : files.Reads nesting path seen directory clients stamps) :
    files.Recallable nesting path history clients stamps := by
  intro tree htree other hstamps
  obtain ⟨hclients, hlegacy, hidentity⟩ := stampsAt_eq_ok.mp hstamps
  exact ⟨hreads.store.again hrestamped hseen htree hclients,
    hreads.legacyClearAll.again hrestamped hseen htree hlegacy,
    hreads.identityReset.again hrestamped hseen htree hidentity⟩

/-- Without a stamp there is nothing to be read. -/
theorem recallable_empty : files.Recallable nesting path history [] {} := by
  intro tree _ directory hstamps
  obtain ⟨hclients, hlegacy, hidentity⟩ := stampsAt_eq_ok.mp hstamps
  exact ⟨.absent (stampAt_eq_none.mp hclients), .absent (stampAt_eq_none.mp hlegacy),
    .absent (stampAt_eq_none.mp hidentity)⟩

/-- Unchanged stamps of a chain mean an unchanged walk. -/
theorem Restamped.walks (hrestamped : files.Restamped history) (hseen : seen ∈ history)
    (hwalks : files.Walks seen path.parent chain) :
    ∀ tree ∈ history, (∀ entry ∈ chain.entries, files.stat tree entry.fd = .ok entry.stamp) →
      files.Walks tree path.parent chain := by
  intro tree htree hcurrent
  refine hwalks.again (hrestamped.root seen hseen tree htree) fun entry hentry => ?_
  exact hrestamped.directory seen hseen tree htree _ _ (hwalks.stamped entry hentry)
    (hcurrent entry hentry)

namespace Recalls

theorem empty : files.Recalls nesting path history {} :=
  ⟨nofun, recallable_empty⟩

/-- A cache may forget its chain. -/
theorem unchained (hrecalls : files.Recalls nesting path history cache) :
    files.Recalls nesting path history { cache with chain := none } :=
  ⟨nofun, hrecalls.reads⟩

theorem adopted (hrecalls : files.Recalls nesting path history cache)
    (hrestamped : files.Restamped history) (hseen : seen ∈ history)
    (hwalks : files.Walks seen path.parent chain) :
    files.Recalls nesting path history { cache with chain := some chain } := by
  refine ⟨fun found hfound => ?_, hrecalls.reads⟩
  obtain rfl := Option.some.inj hfound
  exact hrestamped.walks hseen hwalks

theorem loaded (hrecalls : files.Recalls nesting path history cache)
    (hreads : files.Recallable nesting path history clients stamps) :
    files.Recalls nesting path history { cache with clients, stamps } :=
  ⟨hrecalls.walks, hreads⟩

end Recalls

/-! ## Chains -/

theorem perform_closeChain (tree : Tree) (cache : ClientCache Object)
    (chain : DurableDirectoryChain Object) :
    (closeChain files.stateCalls chain).perform (tree, cache) = (.ok (), tree, cache) := by
  have hclose : (closeDurableDirectoryChain files.calls chain).perform tree = (.ok (), tree) :=
    FileSystem.perform_closeEntries tree chain.entries
  apply (Handler.perform_bind_of_ok (perform_attempted_of_ok hclose)).trans
  rfl

theorem perform_cacheOf (tree : Tree) (cache : ClientCache Object) :
    (cacheOf : CacheM Object Tree _).perform (tree, cache) = (.ok cache, tree, cache) := rfl

theorem perform_setCache (tree : Tree) (cache : ClientCache Object)
    (change : ClientCache Object → ClientCache Object) :
    (setCache change : CacheM Object Tree Unit).perform (tree, cache) =
      (.ok (), tree, change cache) := rfl

theorem perform_closeDirectory (tree : Tree) (cache : ClientCache Object) :
    (closeDirectory files.stateCalls).perform (tree, cache) =
      (.ok (), tree, { cache with chain := none }) := by
  unfold closeDirectory
  rw [Handler.perform_bind_of_ok (perform_cacheOf tree cache),
    Handler.perform_bind_of_ok (perform_setCache tree cache _)]
  cases cache.chain with
  | none => rfl
  | some chain => exact perform_closeChain tree _ chain

theorem perform_adoptDirectoryChain (tree : Tree) (cache : ClientCache Object)
    (chain : DurableDirectoryChain Object) :
    (adoptDirectoryChain files.stateCalls chain).perform (tree, cache) =
      (.ok (), tree, { cache with chain := some chain }) := by
  unfold adoptDirectoryChain
  rw [Handler.perform_bind_of_ok (perform_cacheOf tree cache),
    Handler.perform_bind_of_ok (perform_setCache tree cache _)]
  cases cache.chain with
  | none => rfl
  | some previous => exact perform_closeChain tree _ previous

/-- What is left of an instance whose directory was found to be another one. -/
theorem perform_markUnsafeDirectory (tree : Tree) (cache : ClientCache Object) :
    (markUnsafeDirectory files.stateCalls).perform (tree, cache) =
      (.ok (), tree,
        { cache with unsafeDirectory := true, clients := [], stamps := {}, chain := none }) :=
  perform_closeDirectory tree { cache with unsafeDirectory := true, clients := [], stamps := {} }

theorem perform_ensureMutable (tree : Tree) (hclosed : cache.closed = false)
    (hsafe : cache.unsafeDirectory = false) :
    (ensureMutable : CacheM Object Tree Unit).perform (tree, cache) = (.ok (), tree, cache) := by
  have hstart : (ensureMutable : CacheM Object Tree Unit).perform (tree, cache) =
      (if cache.closed || cache.unsafeDirectory then raise .pairedClients else pure () :
        CacheM Object Tree Unit).perform (tree, cache) := rfl
  rw [hstart, if_neg (by simp [hclosed, hsafe])]
  rfl

theorem perform_finalDirectory (tree : Tree) (cache : ClientCache Object)
    {entry : ChainEntry Object} (hfinal : chain.entries.getLast? = some entry) :
    (finalDirectory chain).perform (tree, cache) = (.ok entry.fd, tree, cache) := by
  unfold finalDirectory
  rw [hfinal]
  rfl

theorem perform_close (tree : Tree) (cache : ClientCache Object) :
    (PairedClients.close files.stateCalls).perform (tree, cache) =
      (.ok (), tree, if cache.closed then cache else { cache with closed := true, chain := none }) := by
  unfold PairedClients.close
  rw [Handler.perform_bind_of_ok (perform_cacheOf tree cache)]
  split_ifs with hclosed
  · rfl
  · exact perform_closeDirectory tree { cache with closed := true }

/-! ## An instance opened now -/

section Opening

variable [DecidableEq Object]

variable (files)

/-- What there is for an instance that has retained no chain: the chain that it then retains,
and what it reads. -/
structure Opens (nesting : Nesting) (path : StorePath) (tree : Tree)
    (retained : Option (DurableDirectoryChain Object))
    (loaded : Except (Interruption ClientsFault) (PairedMap × RecordStamps)) : Prop where
  reload : ∀ (cache : ClientCache Object) revalidatePath, cache.chain = none →
    cache.closed = false → cache.unsafeDirectory = false →
    (reloadCache files.stateCalls nesting path revalidatePath).perform (tree, cache) =
      (loaded.map fun _ => (), tree, loadedInto loaded { cache with chain := retained })
  walks : ∀ chain, retained = some chain ↔ files.Walks tree path.parent chain
  directory : ∀ chain entry, retained = some chain → chain.entries.getLast? = some entry →
    ∀ cache, (reloadFromDirectory files.stateCalls nesting path entry.fd).perform (tree, cache) =
      (loaded.map fun _ => (), tree, loadedInto loaded cache)
  reads : ∀ chain entry, retained = some chain → chain.entries.getLast? = some entry →
    ∀ clients stamps, loaded = .ok (clients, stamps) ↔
      files.Reads nesting path tree entry.fd clients stamps
  missing : retained = none → ∀ clients stamps, loaded = .ok (clients, stamps) →
    clients = [] ∧ stamps = {}
  crashed : (openChain files.stateCalls path).perform tree = (.error .crashed, tree) →
    loaded = .error .crashed

variable {files}

theorem perform_openChain (path : StorePath) (tree : Tree) :
    (∃ chain, files.Walks tree path.parent chain ∧
      (openChain files.stateCalls path).perform tree = (.ok chain, tree)) ∨
    (∀ chain, ¬ files.Walks tree path.parent chain) ∧
      ∃ interruption, (openChain files.stateCalls path).perform tree =
        (.error interruption, tree) :=
  FileSystem.perform_openChain tree path.parent

/-- A reload always ends, with clients or without. -/
theorem exists_opens (nesting : Nesting) (path : StorePath) (tree : Tree) :
    ∃ retained loaded, files.Opens nesting path tree retained loaded := by
  rcases @perform_openChain _ _ files _ path tree with
    ⟨chain, hwalks, hopen⟩ | ⟨hnone, interruption, hopen⟩
  · obtain ⟨entry, hfinal⟩ := hwalks.ends
    obtain ⟨loaded, hload, hreads⟩ :=
      @perform_reloadFromDirectory _ _ files nesting path tree entry.fd
    refine ⟨some chain, loaded, ?_, ?_, ?_, ?_, nofun, fun hcrashed => ?_⟩
    · intro cache revalidatePath hchain hclosed hsafe
      unfold reloadCache
      rw [Handler.perform_bind_of_ok (perform_ensureMutable tree hclosed hsafe),
        Handler.perform_bind_of_ok (perform_cacheOf tree cache), hchain]
      apply (Handler.perform_bind_of_ok (perform_attempted_of_ok hopen)).trans
      apply (Handler.perform_bind_of_ok (perform_adoptDirectoryChain tree cache chain)).trans
      apply (Handler.perform_bind_of_ok (perform_finalDirectory tree _ hfinal)).trans
      exact hload _
    · intro other
      refine ⟨fun hother => ?_, fun hother => by rw [hwalks.unique hother]⟩
      rw [← Option.some.inj hother]
      exact hwalks
    · intro other last hother hlast
      obtain rfl := Option.some.inj hother
      obtain rfl := Option.some.inj (hfinal.symm.trans hlast)
      exact hload
    · intro other last hother hlast
      obtain rfl := Option.some.inj hother
      obtain rfl := Option.some.inj (hfinal.symm.trans hlast)
      exact hreads
    · cases hopen.symm.trans hcrashed
  · have hnever {retained : Option (DurableDirectoryChain Object)} (hretained : retained = none) :
        ∀ chain, retained = some chain ↔ files.Walks tree path.parent chain := by
      intro chain
      rw [hretained]
      exact ⟨nofun, fun hwalks => (hnone chain hwalks).elim⟩
    cases interruption with
    | crashed =>
        refine ⟨none, .error .crashed, ?_, hnever rfl, nofun, nofun, nofun, fun _ => rfl⟩
        intro cache revalidatePath hchain hclosed hsafe
        unfold reloadCache
        rw [Handler.perform_bind_of_ok (perform_ensureMutable tree hclosed hsafe),
          Handler.perform_bind_of_ok (perform_cacheOf tree cache), hchain]
        apply (perform_bind_of_error (perform_attempted_of_crashed hopen)).trans
        rw [← hchain]
        rfl
    | raised error =>
        -- a missing directory reads as no client at all
        by_cases hmissing : error = .system enoent
        · subst hmissing
          refine ⟨none, .ok ([], {}), ?_, hnever rfl, nofun, nofun, ?_, fun hcrashed => ?_⟩
          · intro cache revalidatePath hchain hclosed hsafe
            unfold reloadCache
            rw [Handler.perform_bind_of_ok (perform_ensureMutable tree hclosed hsafe),
              Handler.perform_bind_of_ok (perform_cacheOf tree cache), hchain]
            apply (Handler.perform_bind_of_ok (perform_attempted_of_raised hopen)).trans
            rw [← hchain]
            rfl
          · intro _ clients stamps hfound
            cases hfound
            exact ⟨rfl, rfl⟩
          · cases hopen.symm.trans hcrashed
        · refine ⟨none, .error (.raised .pairedClients), ?_, hnever rfl, nofun, nofun, nofun,
            fun hcrashed => by cases hopen.symm.trans hcrashed⟩
          intro cache revalidatePath hchain hclosed hsafe
          unfold reloadCache
          rw [Handler.perform_bind_of_ok (perform_ensureMutable tree hclosed hsafe),
            Handler.perform_bind_of_ok (perform_cacheOf tree cache), hchain]
          apply (Handler.perform_bind_of_ok (perform_attempted_of_raised hopen)).trans
          rw [← hchain]
          cases error with
          | system errno =>
              dsimp only
              rw [if_neg fun herrno => hmissing (by rw [herrno])]
              rfl
          | _ => rfl

variable (files)

/-- What an instance opened now has read. -/
def openedAs (nesting : Nesting) (path : StorePath) (tree : Tree) :
    Except (Interruption ClientsFault) (PairedMap × RecordStamps) :=
  let ended := (PairedClients.opened files.stateCalls nesting path).perform (tree, {})
  ended.1.map fun _ => (ended.2.2.clients, ended.2.2.stamps)

variable {files}

/-- What an opening finds is what the directory holds. -/
theorem openedAs_of_loaded {retained : Option (DurableDirectoryChain Object)} {loaded}
    (hperform : (reloadCache files.stateCalls nesting path false).perform (tree, {}) =
      (loaded.map fun _ => (), tree, loadedInto loaded { chain := retained })) :
    files.openedAs nesting path tree = loaded := by
  unfold openedAs PairedClients.opened onError
  dsimp only
  rw [perform_catching, hperform]
  cases loaded with
  | ok found => rfl
  | error interruption =>
      cases interruption with
      | crashed => rfl
      | raised fault =>
          dsimp only [Except.map]
          rw [Handler.perform_bind_of_ok (perform_close tree _)]
          rfl

/-- An instance that has retained no chain reads what one opened now has read. -/
theorem opens (nesting : Nesting) (path : StorePath) (tree : Tree) :
    ∃ retained, files.Opens nesting path tree retained (files.openedAs nesting path tree) := by
  obtain ⟨retained, loaded, hopens⟩ := @exists_opens _ _ files _ nesting path tree
  obtain rfl := openedAs_of_loaded (hopens.reload {} false rfl rfl rfl)
  exact ⟨retained, hopens⟩

theorem Opens.recallable {retained : Option (DurableDirectoryChain Object)} {loaded}
    (hopens : files.Opens nesting path tree retained loaded)
    (hrestamped : files.Restamped history) (htree : tree ∈ history)
    (hloaded : loaded = .ok (clients, stamps)) :
    files.Recallable nesting path history clients stamps := by
  cases retained with
  | none =>
      obtain ⟨rfl, rfl⟩ := hopens.missing rfl clients stamps hloaded
      exact recallable_empty
  | some chain =>
      obtain ⟨entry, hfinal⟩ := ((hopens.walks chain).mp rfl).ends
      exact ((hopens.reads chain entry rfl hfinal clients stamps).mp hloaded).recallable
        hrestamped htree

/-! ## Refreshing -/

/-- How a refresh ends: with what an instance opened now has read, or for good. -/
structure Refreshed (files : RecordFileSystem Tree Object) (nesting : Nesting) (path : StorePath)
    (history : Set Tree) (tree : Tree) (outcome : Except (Interruption ClientsFault) Unit)
    (after : ClientCache Object) : Prop where
  recalls : files.Recalls nesting path history after
  closed : after.closed = false
  ends : (after.unsafeDirectory = false ∧
      outcome = (files.openedAs nesting path tree).map (fun _ => ()) ∧
      ∀ clients stamps, files.openedAs nesting path tree = .ok (clients, stamps) →
        after.clients = clients ∧ after.stamps = stamps) ∨
    after.unsafeDirectory = true ∧ outcome = .error (.raised .pairedClients)

/-- A cache is refreshed by what an instance opened now reads. -/
theorem Opens.refreshed {retained : Option (DurableDirectoryChain Object)}
    (hopens : files.Opens nesting path tree retained (files.openedAs nesting path tree))
    (hrestamped : files.Restamped history) (htree : tree ∈ history)
    (hrecalls : files.Recalls nesting path history cache) (hclosed : cache.closed = false)
    (hsafe : cache.unsafeDirectory = false) :
    Refreshed files nesting path history tree
      ((files.openedAs nesting path tree).map fun _ => ())
      (loadedInto (files.openedAs nesting path tree) { cache with chain := retained }) := by
  have hchained : files.Recalls nesting path history { cache with chain := retained } := by
    cases retained with
    | none => exact hrecalls.unchained
    | some chain => exact hrecalls.adopted hrestamped htree ((hopens.walks chain).mp rfl)
  cases hloaded : files.openedAs nesting path tree with
  | error interruption =>
      exact ⟨hchained, hclosed, .inl ⟨hsafe, by rw [hloaded], fun _ _ hfound => by
        rw [hloaded] at hfound
        cases hfound⟩⟩
  | ok found =>
      obtain ⟨clients, stamps⟩ := found
      refine ⟨hchained.loaded (hopens.recallable hrestamped htree hloaded), hclosed,
        .inl ⟨hsafe, by rw [hloaded], fun found other hfound => ?_⟩⟩
      rw [hloaded] at hfound
      cases hfound
      exact ⟨rfl, rfl⟩

/-- The cache of an instance that has been given up. -/
def unsafeCache (cache : ClientCache Object) : ClientCache Object :=
  { cache with unsafeDirectory := true, clients := [], stamps := {}, chain := none }

/-- A directory that was substituted is given up for good. -/
theorem refreshed_unsafe (hclosed : cache.closed = false) :
    Refreshed files nesting path history tree (.error (.raised .pairedClients))
      (unsafeCache cache) :=
  ⟨⟨nofun, recallable_empty⟩, hclosed, .inr ⟨rfl, rfl⟩⟩

/-- The retained chain is walked again and compared. -/
theorem perform_revalidateRetainedDirectoryChain (path : StorePath) (tree : Tree)
    (cache : ClientCache Object) (chain : DurableDirectoryChain Object) :
    (∃ replacement, files.Walks tree path.parent replacement ∧
      (revalidateRetainedDirectoryChain files.stateCalls path chain).perform (tree, cache) =
        (.ok replacement, tree, { cache with chain := some replacement })) ∨
    (revalidateRetainedDirectoryChain files.stateCalls path chain).perform (tree, cache) =
      (.error (.raised .pairedClients), tree, unsafeCache cache) ∨
    (openChain files.stateCalls path).perform tree = (.error .crashed, tree) ∧
      (revalidateRetainedDirectoryChain files.stateCalls path chain).perform (tree, cache) =
        (.error .crashed, tree, cache) := by
  unfold revalidateRetainedDirectoryChain
  rcases @perform_openChain _ _ files _ path tree with
    ⟨replacement, hwalks, hopen⟩ | ⟨-, interruption, hopen⟩
  · rw [Handler.perform_bind_of_ok (perform_attempted_of_ok hopen)]
    dsimp only
    split_ifs
    · refine .inl ⟨replacement, hwalks, ?_⟩
      apply (Handler.perform_bind_of_ok (perform_adoptDirectoryChain tree cache replacement)).trans
      rfl
    · refine .inr (.inl ?_)
      apply (Handler.perform_bind_of_ok (perform_markUnsafeDirectory tree cache)).trans
      apply (Handler.perform_bind_of_ok (perform_closeChain tree _ replacement)).trans
      rfl
  · cases interruption with
    | crashed => exact .inr (.inr ⟨hopen, perform_bind_of_error (perform_attempted_of_crashed hopen)⟩)
    | raised error =>
        refine .inr (.inl ?_)
        apply (Handler.perform_bind_of_ok (perform_attempted_of_raised hopen)).trans
        apply (Handler.perform_bind_of_ok (perform_markUnsafeDirectory tree cache)).trans
        rfl

/-- A reload reads the clients behind the chain, if both stamps agree. -/
theorem perform_reloadCache (hrestamped : files.Restamped history) (htree : tree ∈ history)
    (hrecalls : files.Recalls nesting path history cache) (hclosed : cache.closed = false)
    (hsafe : cache.unsafeDirectory = false) :
    ∃ outcome after,
      (reloadCache files.stateCalls nesting path true).perform (tree, cache) =
        (outcome, tree, after) ∧
      Refreshed files nesting path history tree outcome after := by
  obtain ⟨retained, hopens⟩ := @opens _ _ files _ nesting path tree
  cases hchain : cache.chain with
  | none =>
      exact ⟨_, _, hopens.reload cache true hchain hclosed hsafe,
        hopens.refreshed hrestamped htree hrecalls hclosed hsafe⟩
  | some chain =>
      unfold reloadCache
      rw [Handler.perform_bind_of_ok (perform_ensureMutable tree hclosed hsafe),
        Handler.perform_bind_of_ok (perform_cacheOf tree cache), hchain]
      dsimp only
      rw [if_pos rfl]
      rcases @perform_revalidateRetainedDirectoryChain _ _ files _ path tree cache chain with
        ⟨replacement, hwalks, hrevalidate⟩ | hrevalidate | ⟨hcrashed, hrevalidate⟩
      · obtain ⟨entry, hfinal⟩ := hwalks.ends
        have hretained := (hopens.walks replacement).mpr hwalks
        refine ⟨_, _, ?_, hopens.refreshed hrestamped htree hrecalls hclosed hsafe⟩
        rw [hretained]
        apply (Handler.perform_bind_of_ok hrevalidate).trans
        apply (Handler.perform_bind_of_ok (perform_finalDirectory tree _ hfinal)).trans
        exact hopens.directory replacement entry hretained hfinal _
      · exact ⟨_, _, perform_bind_of_error hrevalidate, refreshed_unsafe hclosed⟩
      · refine ⟨_, _, perform_bind_of_error hrevalidate, hrecalls, hclosed, .inl ⟨hsafe, ?_, ?_⟩⟩
        · rw [hopens.crashed hcrashed]
          rfl
        · intro clients stamps hfound
          rw [hopens.crashed hcrashed] at hfound
          cases hfound

/-- A refresh reads again only where a stamp has changed. -/
theorem perform_refreshIfChanged (hrestamped : files.Restamped history) (htree : tree ∈ history)
    (hrecalls : files.Recalls nesting path history cache) (hclosed : cache.closed = false)
    (hsafe : cache.unsafeDirectory = false) :
    ∃ outcome after,
      (refreshIfChanged files.stateCalls nesting path).perform (tree, cache) =
        (outcome, tree, after) ∧
      Refreshed files nesting path history tree outcome after := by
  obtain ⟨retained, hopens⟩ := @opens _ _ files _ nesting path tree
  unfold refreshIfChanged
  rw [Handler.perform_bind_of_ok (perform_ensureMutable tree hclosed hsafe),
    Handler.perform_bind_of_ok (perform_cacheOf tree cache)]
  cases hchain : cache.chain with
  | none =>
      exact ⟨_, _, hopens.reload cache false hchain hclosed hsafe,
        hopens.refreshed hrestamped htree hrecalls hclosed hsafe⟩
  | some chain =>
      obtain ⟨current, hcheck, hcurrent⟩ :=
        @FileSystem.perform_retainedDirectoryChainIsCurrent _ _ files.toFileSystem tree chain
      have hattempt : (attempted (retainedDirectoryChainIsCurrent files.calls chain)).perform
          (tree, cache) = (.ok (.ok current), tree, cache) := perform_attempted_of_ok hcheck
      dsimp only
      rw [show files.stateCalls.toDirectoryCalls = files.calls from rfl,
        Handler.perform_bind_of_ok hattempt]
      cases current with
      | false => exact perform_reloadCache hrestamped htree hrecalls hclosed hsafe
      | true =>
          have hwalks := hrecalls.walks chain hchain tree htree (hcurrent rfl)
          obtain ⟨entry, hfinal⟩ := hwalks.ends
          have hretained := (hopens.walks chain).mpr hwalks
          have hlook := @perform_cheapStamps _ _ files path tree entry.fd
          dsimp only
          rw [Handler.perform_bind_of_ok (perform_finalDirectory tree cache hfinal)]
          cases hstamps : files.stampsAt path tree entry.fd with
          | error errno =>
              rw [hstamps] at hlook
              have hreload := hopens.directory chain entry hretained hfinal {}
              rw [perform_reloadFromDirectory_unstamped hstamps] at hreload
              have houtcome := (Prod.mk.inj hreload).1
              refine ⟨_, cache, perform_bind_of_error (perform_guarded_of_raised hlook), hrecalls,
                hclosed, .inl ⟨hsafe, houtcome, fun clients stamps hfound => ?_⟩⟩
              rw [hfound] at houtcome
              cases houtcome
          | ok current =>
              rw [hstamps] at hlook
              rw [Handler.perform_bind_of_ok (perform_guarded_of_ok hlook)]
              -- equal stamps mean equal records, so the cached answer stands
              by_cases hsame : current = cache.stamps
              · subst hsame
                have hreads := hrecalls.reads tree htree entry.fd hstamps
                have hloaded := (hopens.reads chain entry hretained hfinal _ _).mpr hreads
                rw [if_pos rfl]
                refine ⟨_, cache, rfl, hrecalls, hclosed, .inl ⟨hsafe, by rw [hloaded]; rfl, ?_⟩⟩
                intro clients stamps hfound
                rw [hloaded] at hfound
                cases hfound
                exact ⟨rfl, rfl⟩
              · rw [if_neg hsame]
                exact perform_reloadCache hrestamped htree hrecalls hclosed hsafe

end Opening

end RecordFileSystem

end CompanionBridge
