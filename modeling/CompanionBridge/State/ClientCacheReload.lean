import CompanionBridge.State.ClientCacheRecords

/-!
# One strict reload

What a reload finds is decided by the tree and the directory alone: it is the same for
every instance.
-/

namespace CompanionBridge

open Interruptible

section Attempts

variable {Fd World Error Result : Type} {handler : Interruptible Error World Result}
variable {world after : World} {cache : ClientCache Fd}

theorem perform_attempted (handler : Interruptible Error World Result)
    (whole : World × ClientCache Fd) :
    (attempted handler).perform whole =
      match handler.perform whole.1 with
      | (.ok result, after) => (.ok (.ok result), after, whole.2)
      | (.error (.raised error), after) => (.ok (.error error), after, whole.2)
      | (.error .crashed, after) => (.error .crashed, after, whole.2) := rfl

theorem perform_attempted_of_ok {result : Result}
    (hperform : handler.perform world = (.ok result, after)) :
    (attempted handler).perform (world, cache) = (.ok (.ok result), after, cache) := by
  rw [perform_attempted, hperform]

theorem perform_attempted_of_raised {error : Error}
    (hperform : handler.perform world = (.error (.raised error), after)) :
    (attempted handler).perform (world, cache) = (.ok (.error error), after, cache) := by
  rw [perform_attempted, hperform]

theorem perform_attempted_of_crashed
    (hperform : handler.perform world = (.error .crashed, after)) :
    (attempted handler).perform (world, cache) = (.error .crashed, after, cache) := by
  rw [perform_attempted, hperform]

theorem perform_guarded_of_ok {result : Result}
    (hperform : handler.perform world = (.ok result, after)) :
    (guarded handler).perform (world, cache) = (.ok result, after, cache) := by
  apply (Handler.perform_bind_of_ok (perform_attempted_of_ok hperform)).trans
  rfl

/-- A guard turns any error into that of the store. -/
theorem perform_guarded_of_raised {error : Error}
    (hperform : handler.perform world = (.error (.raised error), after)) :
    (guarded handler).perform (world, cache) =
      (.error (.raised .pairedClients), after, cache) := by
  apply (Handler.perform_bind_of_ok (perform_attempted_of_raised hperform)).trans
  rfl

end Attempts

namespace RecordFileSystem

variable {Tree Object : Type} (files : RecordFileSystem Tree Object)

/-! ## What is read -/

/-- The stamp of a marker that passes its checks, or that there is none. -/
inductive Marked (tree : Tree) (directory : Object) (name : String) : Option RecordStat → Prop
  | absent (hentry : files.entry tree directory name = .error enoent) :
      Marked tree directory name none
  | found {object info} (hentry : files.entry tree directory name = .ok object)
      (hpasses : files.RecordPasses tree object info) : Marked tree directory name (some info)

/-- The clients of a store that passes its checks, and its stamp. -/
inductive Stored (nesting : Nesting) (tree : Tree) (directory : Object) (name : String) :
    PairedMap → Option RecordStat → Prop
  | absent (hentry : files.entry tree directory name = .error enoent) :
      Stored nesting tree directory name [] none
  | found {object info content clients} (hentry : files.entry tree directory name = .ok object)
      (hpasses : files.RecordPasses tree object info)
      (hcontent : files.content tree object = .ok content)
      (hclients : readClients nesting content = .ok clients) :
      Stored nesting tree directory name clients (some info)

/-- What a strict reload from a directory finds. -/
structure Reads (nesting : Nesting) (path : StorePath) (tree : Tree) (directory : Object)
    (clients : PairedMap) (stamps : RecordStamps) : Prop where
  store : files.Stored nesting tree directory path.name clients stamps.clients
  legacyClearAll :
    files.Marked tree directory legacyClearAllTombstoneFilename stamps.legacyClearAll
  identityReset :
    files.Marked tree directory identityResetTombstoneFilename stamps.identityReset

variable {files} {nesting : Nesting} {path : StorePath} {tree : Tree} {directory : Object}
variable {name : String} {stamp : Option RecordStat} {clients : PairedMap} {stamps : RecordStamps}

/-- A marker that was read has the stamp it was read with. -/
theorem Marked.stampAt (hmarked : files.Marked tree directory name stamp) :
    files.stampAt tree directory name = .ok stamp := by
  cases hmarked with
  | absent hentry => exact stampAt_eq_none.mpr hentry
  | found hentry hpasses => exact stampAt_eq_some.mpr ⟨_, hentry, hpasses.stat⟩

theorem Stored.stampAt (hstored : files.Stored nesting tree directory name clients stamp) :
    files.stampAt tree directory name = .ok stamp := by
  cases hstored with
  | absent hentry => exact stampAt_eq_none.mpr hentry
  | found hentry hpasses _ _ => exact stampAt_eq_some.mpr ⟨_, hentry, hpasses.stat⟩

/-- What is read has the stamps that a look takes. -/
theorem Reads.stampsAt (hreads : files.Reads nesting path tree directory clients stamps) :
    files.stampsAt path tree directory = .ok stamps :=
  stampsAt_eq_ok.mpr
    ⟨hreads.store.stampAt, hreads.legacyClearAll.stampAt, hreads.identityReset.stampAt⟩

/-! ## The parts of a round -/

/-- A marker is there, is not, or is unsafe. -/
theorem perform_validatedTombstoneStamp (tree : Tree) (directory : Object) (name : String) :
    ∃ outcome : Except (Interruption ClientsFault) (Option RecordStat),
      (∀ cache, (validatedTombstoneStamp files.stateCalls directory name).perform (tree, cache) =
        (outcome, tree, cache)) ∧
      (∀ stamp, files.Marked tree directory name stamp → outcome = .ok stamp) ∧
      (∀ stamp, outcome = .ok stamp → files.stampAt tree directory name = .ok stamp →
        files.Marked tree directory name stamp) := by
  rcases @perform_privateStateFileStatAt _ _ files tree directory name with
    ⟨object, info, hentry, hpasses, hperform⟩ | ⟨hrefused, interruption, hperform, hnone⟩
  · refine ⟨.ok (some info), fun cache => ?_, ?_, ?_⟩
    · apply (Handler.perform_bind_of_ok (perform_attempted_of_ok hperform)).trans
      rfl
    · intro stamp hmarked
      cases hmarked with
      | absent habsent =>
          rw [hentry] at habsent
          cases habsent
      | found hother hfound =>
          obtain rfl := Except.ok.inj (hentry.symm.trans hother)
          obtain rfl := Except.ok.inj (hpasses.stat.symm.trans hfound.stat)
          rfl
    · intro stamp hstamp _
      obtain rfl := Except.ok.inj hstamp
      exact .found hentry hpasses
  · have hunmarked : ∀ stamp, files.Marked tree directory name stamp →
        stamp = none ∧ files.entry tree directory name = .error enoent := by
      intro stamp hmarked
      cases hmarked with
      | absent hentry => exact ⟨rfl, hentry⟩
      | found hentry hpasses => exact absurd hpasses (hrefused _ _ hentry)
    cases interruption with
    | crashed =>
        refine ⟨.error .crashed, fun cache => ?_, ?_, nofun⟩
        · exact perform_bind_of_error (perform_attempted_of_crashed hperform)
        · intro stamp hmarked
          cases hnone (hunmarked stamp hmarked).2
    | raised error =>
        have hraised (cache : ClientCache Object) :
            (validatedTombstoneStamp files.stateCalls directory name).perform (tree, cache) = _ :=
          Handler.perform_bind_of_ok (perform_attempted_of_raised hperform)
        -- a marker that is not there is no marker; any other error raises
        by_cases hmissing : error.isNotFound
        · refine ⟨.ok none, fun cache => (hraised cache).trans ?_, ?_, ?_⟩
          · dsimp only
            rw [if_pos hmissing]
            rfl
          · intro stamp hmarked
            rw [(hunmarked stamp hmarked).1]
          · intro stamp hstamp hlook
            obtain rfl := Except.ok.inj hstamp
            exact .absent (stampAt_eq_none.mp hlook)
        · refine ⟨.error (.raised .pairedClients), fun cache => (hraised cache).trans ?_, ?_, nofun⟩
          · dsimp only
            rw [if_neg hmissing]
            rfl
          · intro stamp hmarked
            obtain rfl := Interruption.raised.inj (hnone (hunmarked stamp hmarked).2)
            exact absurd rfl hmissing

/-- A store is there, is missing, or cannot be read. -/
theorem perform_readStore (nesting : Nesting) (path : StorePath) (tree : Tree)
    (directory : Object) :
    ∃ outcome : Except (Interruption ClientsFault) (PairedMap × Option RecordStat),
      (∀ cache, (readStore files.stateCalls nesting path directory).perform (tree, cache) =
        (outcome, tree, cache)) ∧
      (∀ clients stamp, files.Stored nesting tree directory path.name clients stamp →
        outcome = .ok (clients, stamp)) ∧
      (∀ clients stamp, outcome = .ok (clients, stamp) →
        files.stampAt tree directory path.name = .ok stamp →
        files.Stored nesting tree directory path.name clients stamp) := by
  rcases @perform_readPrivateStateTextAt _ _ files tree directory path.name with
    ⟨object, info, content, hentry, hpasses, hcontent, hperform⟩ |
    ⟨hrefused, interruption, hperform, hnone⟩
  · have hstored : ∀ clients stamp, files.Stored nesting tree directory path.name clients stamp →
        readClients nesting content = .ok clients ∧ stamp = some info := by
      intro clients stamp hstored
      cases hstored with
      | absent habsent =>
          rw [hentry] at habsent
          cases habsent
      | found hother hfound hcontent' hclients =>
          obtain rfl := Except.ok.inj (hentry.symm.trans hother)
          obtain rfl := Except.ok.inj (hpasses.stat.symm.trans hfound.stat)
          obtain rfl := Except.ok.inj (hcontent.symm.trans hcontent')
          exact ⟨hclients, rfl⟩
    cases hclients : readClients nesting content with
    | ok clients =>
        refine ⟨.ok (clients, some info), fun cache => ?_, ?_, ?_⟩
        · unfold readStore
          rw [Handler.perform_bind_of_ok (perform_attempted_of_ok hperform)]
          dsimp only
          rw [hclients]
          rfl
        · intro found stamp hfound
          obtain ⟨hsame, rfl⟩ := hstored found stamp hfound
          rw [hclients] at hsame
          rw [Except.ok.inj hsame]
        · intro found stamp hfound _
          obtain ⟨rfl, rfl⟩ := Prod.mk.inj (Except.ok.inj hfound)
          exact .found hentry hpasses hcontent hclients
    | error fault =>
        have hunread : ∀ found stamp,
            files.Stored nesting tree directory path.name found stamp → False := by
          intro found stamp hfound
          have hsame := (hstored found stamp hfound).1
          rw [hclients] at hsame
          cases hsame
        -- both faults of the record leave the reader as they are
        cases fault with
        | pairedClients =>
            refine ⟨.error (.raised .pairedClients), fun cache => ?_,
              fun found stamp hfound => (hunread found stamp hfound).elim, nofun⟩
            unfold readStore
            rw [Handler.perform_bind_of_ok (perform_attempted_of_ok hperform)]
            dsimp only
            rw [hclients]
            rfl
        | recursion =>
            refine ⟨.error (.raised .recursion), fun cache => ?_,
              fun found stamp hfound => (hunread found stamp hfound).elim, nofun⟩
            unfold readStore
            rw [Handler.perform_bind_of_ok (perform_attempted_of_ok hperform)]
            dsimp only
            rw [hclients]
            rfl
  · have hunstored : ∀ clients stamp,
        files.Stored nesting tree directory path.name clients stamp →
        clients = [] ∧ stamp = none ∧ files.entry tree directory path.name = .error enoent := by
      intro clients stamp hstored
      cases hstored with
      | absent hentry => exact ⟨rfl, rfl, hentry⟩
      | found hentry hpasses hcontent _ => exact absurd hcontent (hrefused _ _ _ hentry hpasses)
    cases interruption with
    | crashed =>
        refine ⟨.error .crashed, fun cache => ?_, ?_, nofun⟩
        · exact perform_bind_of_error (perform_attempted_of_crashed hperform)
        · intro clients stamp hstored
          cases hnone (hunstored clients stamp hstored).2.2
    | raised error =>
        have hraised (cache : ClientCache Object) :
            (readStore files.stateCalls nesting path directory).perform (tree, cache) = _ :=
          Handler.perform_bind_of_ok (perform_attempted_of_raised hperform)
        by_cases hmissing : error.isNotFound
        · refine ⟨.ok ([], none), fun cache => (hraised cache).trans ?_, ?_, ?_⟩
          · dsimp only
            rw [if_pos hmissing]
            rfl
          · intro clients stamp hstored
            obtain ⟨rfl, rfl, -⟩ := hunstored clients stamp hstored
            rfl
          · intro clients stamp hstamp hlook
            obtain ⟨rfl, rfl⟩ := Prod.mk.inj (Except.ok.inj hstamp)
            exact .absent (stampAt_eq_none.mp hlook)
        · refine ⟨.error (.raised .pairedClients), fun cache => (hraised cache).trans ?_, ?_, nofun⟩
          · dsimp only
            rw [if_neg hmissing]
            rfl
          · intro clients stamp hstored
            obtain rfl := Interruption.raised.inj (hnone (hunstored clients stamp hstored).2.2)
            exact absurd rfl hmissing

/-! ## Reloads -/

/-- What a reload makes of a cache. -/
def loadedInto (loaded : Except (Interruption ClientsFault) (PairedMap × RecordStamps))
    (cache : ClientCache Object) : ClientCache Object :=
  match loaded with
  | .ok (clients, stamps) => { cache with clients, stamps }
  | .error _ => cache

/-- A round that raises nowhere ends with what it has read, or it found that changed. -/
theorem perform_reloadRound_of_parts {before : RecordStamps} {readStamp legacy identity}
    (hlook : (cheapStamps files.stateCalls path directory).perform tree = (.ok before, tree))
    (hstore : ∀ cache, (readStore files.stateCalls nesting path directory).perform (tree, cache) =
      (.ok (clients, readStamp), tree, cache))
    (hlegacy : ∀ cache, (validatedTombstoneStamp files.stateCalls directory
      legacyClearAllTombstoneFilename).perform (tree, cache) = (.ok legacy, tree, cache))
    (hidentity : ∀ cache, (validatedTombstoneStamp files.stateCalls directory
      identityResetTombstoneFilename).perform (tree, cache) = (.ok identity, tree, cache))
    (cache : ClientCache Object) :
    (reloadRound files.stateCalls nesting path directory).perform (tree, cache) =
      if before = ⟨readStamp, legacy, identity⟩ then
        (.ok true, tree, { cache with clients, stamps := before })
      else (.ok false, tree, cache) := by
  apply (Handler.perform_bind_of_ok (perform_guarded_of_ok hlook)).trans
  apply (Handler.perform_bind_of_ok (hstore cache)).trans
  apply (Handler.perform_bind_of_ok (hlegacy cache)).trans
  apply (Handler.perform_bind_of_ok (hidentity cache)).trans
  apply (Handler.perform_bind_of_ok (perform_guarded_of_ok hlook)).trans
  split_ifs with hboth hsame hsame
  · rfl
  · exact absurd hboth.2 hsame
  · exact absurd ⟨rfl, hsame⟩ hboth
  · rfl

/-- One round of a reload: the stamps before, the store, the stamps after. -/
theorem perform_reloadRound (nesting : Nesting) (path : StorePath) (tree : Tree)
    (directory : Object) :
    ∃ loaded : Except (Interruption ClientsFault) (Option (PairedMap × RecordStamps)),
      (∀ cache, (reloadRound files.stateCalls nesting path directory).perform (tree, cache) =
        match loaded with
        | .ok (some found) => (.ok true, tree, loadedInto (.ok found) cache)
        | .ok none => (.ok false, tree, cache)
        | .error interruption => (.error interruption, tree, cache)) ∧
      ∀ clients stamps, loaded = .ok (some (clients, stamps)) ↔
        files.Reads nesting path tree directory clients stamps := by
  have hlook := @perform_cheapStamps _ _ files path tree directory
  cases hstamps : files.stampsAt path tree directory with
  | error errno =>
      rw [hstamps] at hlook
      refine ⟨.error (.raised .pairedClients), fun cache => ?_, fun clients stamps => ?_⟩
      · exact perform_bind_of_error (perform_guarded_of_raised hlook)
      · refine ⟨nofun, fun hreads => ?_⟩
        have hfound := hreads.stampsAt
        rw [hstamps] at hfound
        cases hfound
  | ok before =>
      rw [hstamps] at hlook
      obtain ⟨store, hstore, hstored, hunstored⟩ :=
        @perform_readStore _ _ files nesting path tree directory
      obtain ⟨legacy, hlegacy, hlegacyMarked, hlegacyUnmarked⟩ :=
        @perform_validatedTombstoneStamp _ _ files tree directory legacyClearAllTombstoneFilename
      obtain ⟨identity, hidentity, hidentityMarked, hidentityUnmarked⟩ :=
        @perform_validatedTombstoneStamp _ _ files tree directory identityResetTombstoneFilename
      -- Every part that raises does so where nothing is to be read.
      have hraises (interruption : Interruption ClientsFault)
          (hround : ∀ cache, (reloadRound files.stateCalls nesting path directory).perform
            (tree, cache) = (.error interruption, tree, cache))
          (hnone : ∀ clients stamps,
            ¬ files.Reads nesting path tree directory clients stamps) :
          ∃ loaded : Except (Interruption ClientsFault) (Option (PairedMap × RecordStamps)),
            (∀ cache, (reloadRound files.stateCalls nesting path directory).perform (tree, cache) =
              match loaded with
              | .ok (some found) => (.ok true, tree, loadedInto (.ok found) cache)
              | .ok none => (.ok false, tree, cache)
              | .error interruption => (.error interruption, tree, cache)) ∧
            ∀ clients stamps, loaded = .ok (some (clients, stamps)) ↔
              files.Reads nesting path tree directory clients stamps :=
        ⟨.error interruption, hround, fun clients stamps =>
          ⟨nofun, fun hreads => (hnone clients stamps hreads).elim⟩⟩
      cases store with
      | error interruption =>
          refine hraises interruption (fun cache => ?_) fun clients stamps hreads => ?_
          · apply (Handler.perform_bind_of_ok (perform_guarded_of_ok hlook)).trans
            exact perform_bind_of_error (hstore cache)
          · cases hstored clients _ hreads.store
      | ok found =>
          obtain ⟨clients, readStamp⟩ := found
          cases legacy with
          | error interruption =>
              refine hraises interruption (fun cache => ?_) fun clients stamps hreads => ?_
              · apply (Handler.perform_bind_of_ok (perform_guarded_of_ok hlook)).trans
                apply (Handler.perform_bind_of_ok (hstore cache)).trans
                exact perform_bind_of_error (hlegacy cache)
              · cases hlegacyMarked _ hreads.legacyClearAll
          | ok legacyStamp =>
              cases identity with
              | error interruption =>
                  refine hraises interruption (fun cache => ?_) fun clients stamps hreads => ?_
                  · apply (Handler.perform_bind_of_ok (perform_guarded_of_ok hlook)).trans
                    apply (Handler.perform_bind_of_ok (hstore cache)).trans
                    apply (Handler.perform_bind_of_ok (hlegacy cache)).trans
                    exact perform_bind_of_error (hidentity cache)
                  · cases hidentityMarked _ hreads.identityReset
              | ok identityStamp =>
                  have hround := perform_reloadRound_of_parts hlook hstore hlegacy hidentity
                  have hreads {found : PairedMap} {stamps : RecordStamps}
                      (hreads : files.Reads nesting path tree directory found stamps) :
                      found = clients ∧ stamps = ⟨readStamp, legacyStamp, identityStamp⟩ := by
                    have hstore := Except.ok.inj (hstored _ _ hreads.store)
                    have hlegacy := Except.ok.inj (hlegacyMarked _ hreads.legacyClearAll)
                    have hidentity := Except.ok.inj (hidentityMarked _ hreads.identityReset)
                    cases stamps
                    cases hstore
                    cases hlegacy
                    cases hidentity
                    exact ⟨rfl, rfl⟩
                  by_cases hsame : before = ⟨readStamp, legacyStamp, identityStamp⟩
                  · refine ⟨.ok (some (clients, before)), fun cache => ?_, fun found stamps => ?_⟩
                    · rw [hround, if_pos hsame]
                      rfl
                    · refine ⟨fun hfound => ?_, fun hfound => ?_⟩
                      · cases hfound
                        subst hsame
                        obtain ⟨hstore, hlegacy, hidentity⟩ := stampsAt_eq_ok.mp hstamps
                        exact ⟨hunstored _ _ rfl hstore, hlegacyUnmarked _ rfl hlegacy,
                          hidentityUnmarked _ rfl hidentity⟩
                      · obtain ⟨rfl, rfl⟩ := hreads hfound
                        rw [hsame]
                  · refine ⟨.ok none, fun cache => ?_, fun found stamps => ?_⟩
                    · rw [hround, if_neg hsame]
                    · refine ⟨nofun, fun hfound => ?_⟩
                      apply absurd _ hsame
                      rw [← (hreads hfound).2]
                      exact Except.ok.inj (hstamps.symm.trans hfound.stampsAt)

/-- A reload ends alike for every cache, and with what there is to read. -/
theorem perform_reloadFromDirectory (nesting : Nesting) (path : StorePath) (tree : Tree)
    (directory : Object) :
    ∃ loaded : Except (Interruption ClientsFault) (PairedMap × RecordStamps),
      (∀ cache, (reloadFromDirectory files.stateCalls nesting path directory).perform
        (tree, cache) = (loaded.map fun _ => (), tree, loadedInto loaded cache)) ∧
      ∀ clients stamps, loaded = .ok (clients, stamps) ↔
        files.Reads nesting path tree directory clients stamps := by
  obtain ⟨loaded, hround, hreads⟩ := @perform_reloadRound _ _ files nesting path tree directory
  cases loaded with
  | error interruption =>
      refine ⟨.error interruption, fun cache => perform_bind_of_error (hround cache), ?_⟩
      intro clients stamps
      refine ⟨nofun, fun hfound => ?_⟩
      cases (hreads clients stamps).mpr hfound
  | ok found =>
      cases found with
      | none =>
          refine ⟨.error (.raised .pairedClients), fun cache => ?_, fun clients stamps => ?_⟩
          · apply (Handler.perform_bind_of_ok (hround cache)).trans
            apply (Handler.perform_bind_of_ok (hround cache)).trans
            rfl
          · refine ⟨nofun, fun hfound => ?_⟩
            cases (hreads clients stamps).mpr hfound
      | some found =>
          refine ⟨.ok found, fun cache => ?_, fun clients stamps => ?_⟩
          · apply (Handler.perform_bind_of_ok (hround cache)).trans
            rfl
          · rw [← hreads]
            simp

/-- Where a look at the stamps raises, a reload does. -/
theorem perform_reloadFromDirectory_unstamped {errno : Nat}
    (hstamps : files.stampsAt path tree directory = .error errno) (cache : ClientCache Object) :
    (reloadFromDirectory files.stateCalls nesting path directory).perform (tree, cache) =
      (.error (.raised .pairedClients), tree, cache) := by
  have hlook := @perform_cheapStamps _ _ files path tree directory
  rw [hstamps] at hlook
  apply perform_bind_of_error
  exact perform_bind_of_error (perform_guarded_of_raised hlook)

end RecordFileSystem

end CompanionBridge
