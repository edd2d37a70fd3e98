import CompanionBridge.Deploy.ManagerShell

/-!
# What the commands of the manager leave

A judgement about a part of the script: what is left when it succeeds, when it has a
status, and when it ends the script or is killed. A part that changes nothing keeps
whatever is known of the installation.
-/

namespace CompanionBridge

open Interruptible

namespace Manager

/-! ## What a part of the script leaves -/

section Does

variable {Result Other : Type} {pre failed stopped : Installation → Prop}
  {done : Result → Installation → Prop}

/-- Where `pre` holds, the part leaves `done` when it succeeds, `failed` when it has a
status, and `stopped` when it ends the script or is killed. -/
def Does (pre : Installation → Prop) (part : ManagerM Result)
    (done : Result → Installation → Prop) (failed stopped : Installation → Prop) : Prop :=
  Meets (fun host => pre host.installation) part {
    returned := fun result host => done result host.installation
    raised := fun error host =>
      match error with
      | .status => failed host.installation
      | .exit => stopped host.installation
    crashed := fun host => stopped host.installation }

/-- The part leaves the installation as it is, whatever becomes of it. -/
def Quiet (part : ManagerM Result) : Prop :=
  Handler.Keeps (fun before after : Host => after.installation = before.installation) part

theorem Does.weaken {part : ManagerM Result} {stronger less more : Installation → Prop}
    {promised : Result → Installation → Prop} (hdoes : Does pre part promised less more)
    (hpre : ∀ installation, stronger installation → pre installation)
    (hdone : ∀ result installation, promised result installation → done result installation)
    (hfailed : ∀ installation, less installation → failed installation)
    (hstopped : ∀ installation, more installation → stopped installation) :
    Does stronger part done failed stopped := by
  refine Meets.weaken hdoes (fun _ => hpre _) (fun result _ => hdone result _) ?_
    fun _ => hstopped _
  intro error host herror
  cases error with
  | status => exact hfailed _ herror
  | exit => exact hstopped _ herror

theorem Does.pure {result : Result} (h : ∀ installation, pre installation → done result installation) :
    Does pre (Pure.pure result) done failed stopped :=
  Meets.pure fun _ => h _

theorem Does.fail (h : ∀ installation, pre installation → stopped installation) :
    Does pre (fail : ManagerM Result) done failed stopped :=
  Meets.raise fun _ => h _

theorem Does.returnStatus (h : ∀ installation, pre installation → failed installation) :
    Does pre (returnStatus : ManagerM Result) done failed stopped :=
  Meets.raise fun _ => h _

/-- The rule of sequence; a part that fails or is killed ends the whole. -/
theorem Does.bind {part : ManagerM Result} {next : Result → ManagerM Other}
    {middle : Result → Installation → Prop} {final : Other → Installation → Prop}
    (hpart : Does pre part middle failed stopped)
    (hnext : ∀ result, Does (middle result) (next result) final failed stopped) :
    Does pre (part >>= next) final failed stopped :=
  Meets.bind hpart hnext

/-- What the first part leaves when it fails is what the second one starts from. -/
theorem Does.orElse {body other : ManagerM Result} {missed : Installation → Prop}
    (hbody : Does pre body done missed stopped) (hother : Does missed other done failed stopped) :
    Does pre (orElse body other) done failed stopped := by
  refine Meets.catching hbody fun error => ?_
  cases error with
  | status => exact hother
  | exit => exact Meets.raise fun _ hhost => hhost

/-- A failure that the script answers with `fail` stops it. -/
theorem Does.orFail {body : ManagerM Result} (hbody : Does pre body done stopped stopped) :
    Does pre (orFail body) done failed stopped :=
  .orElse hbody (.fail fun _ hstopped => hstopped)

theorem Does.succeeds {body : ManagerM Unit} {yes no : Installation → Prop}
    (hbody : Does pre body (fun _ => yes) no stopped) :
    Does pre (succeeds body)
      (fun answer installation => if answer then yes installation else no installation)
      failed stopped :=
  .orElse (.bind hbody fun _ => .pure fun _ hyes => hyes) (.pure fun _ hno => by simpa using hno)

/-- A command has its effect, breaks off with some of it, or is where the script is killed.
-/
theorem perform_runCommand (effect broken : Host → Installation) (host : Host) :
    (runCommand effect broken).perform host =
      match host.outcomes host.step with
      | .succeeds => (.ok (), host.after (effect host))
      | .fails => (.error (.raised .status), host.after (broken host))
      | .killed => (.error .crashed, host.after (broken host)) := rfl

theorem Does.runCommand {effect broken : Host → Installation}
    {done : Unit → Installation → Prop}
    (heffect : ∀ host, pre host.installation → done () (effect host))
    (hfailed : ∀ host, pre host.installation → failed (broken host))
    (hstopped : ∀ host, pre host.installation → stopped (broken host)) :
    Does pre (runCommand effect broken) done failed stopped := by
  intro host hhost
  rw [perform_runCommand]
  cases host.outcomes host.step with
  | succeeds => exact heffect host hhost
  | fails => exact hfailed host hhost
  | killed => exact hstopped host hhost

theorem Does.read {view : Host → Result}
    (h : ∀ host, pre host.installation → done (view host) host.installation) :
    Does pre (Handler.read view) done failed stopped :=
  Meets.read h

/-- A part that leaves the installation alone keeps whatever is known of it. -/
theorem Quiet.does {part : ManagerM Result} (hquiet : Quiet part)
    (hdone : ∀ result installation, pre installation → done result installation)
    (hfailed : ∀ installation, pre installation → failed installation)
    (hstopped : ∀ installation, pre installation → stopped installation) :
    Does pre part done failed stopped := by
  intro host hhost
  have hkept := hquiet host
  cases hended : part.perform host with
  | mk outcome after =>
      rw [hended] at hkept
      have hafter : pre after.installation := by rwa [hkept]
      cases outcome with
      | ok result => exact hdone result _ hafter
      | error interruption =>
          cases interruption with
          | raised error =>
              cases error with
              | status => exact hfailed _ hafter
              | exit => exact hstopped _ hafter
          | crashed => exact hstopped _ hafter

end Does

/-! ### Parts that change nothing -/

namespace Quiet

variable {Result Other : Type}

instance : IsTrans Host fun before after => after.installation = before.installation :=
  ⟨fun _ _ _ hfirst hsecond => hsecond.trans hfirst⟩

instance : Std.Refl fun before after : Host => after.installation = before.installation :=
  ⟨fun _ => rfl⟩

theorem pure (result : Result) : Quiet (Pure.pure result) :=
  fun _ => rfl

theorem fail : Quiet (fail : ManagerM Result) :=
  keeps_raise _

theorem returnStatus : Quiet (returnStatus : ManagerM Result) :=
  keeps_raise _

theorem read (view : Host → Result) : Quiet (Handler.read view) :=
  Handler.Keeps.read view

/-- Quiet parts one after the other are quiet. -/
theorem bind {part : ManagerM Result} {next : Result → ManagerM Other} (hpart : Quiet part)
    (hnext : ∀ result, Quiet (next result)) : Quiet (part >>= next) :=
  Handler.Keeps.bind hpart hnext

theorem catching {body : ManagerM Result} {rescue : ShellError → ManagerM Result}
    (hbody : Quiet body) (hrescue : ∀ error, Quiet (rescue error)) :
    Quiet (Interruptible.catching body rescue) :=
  keeps_catching hbody hrescue

theorem orElse {body other : ManagerM Result} (hbody : Quiet body) (hother : Quiet other) :
    Quiet (orElse body other) := by
  refine catching hbody fun error => ?_
  cases error with
  | status => exact hother
  | exit => exact keeps_raise _

theorem orFail {body : ManagerM Result} (hbody : Quiet body) : Quiet (orFail body) :=
  .orElse hbody .fail

theorem succeeds {body : ManagerM Unit} (hbody : Quiet body) : Quiet (succeeds body) :=
  .orElse (.bind hbody fun _ => .pure true) (.pure false)

theorem command : Quiet command := by
  intro host
  rw [Manager.command, perform_runCommand]
  cases host.outcomes host.step with
  | succeeds => rfl
  | fails => rfl
  | killed => rfl

theorem requireExistingFile (file : ManagedFile) : Quiet (requireExistingFile file) := by
  refine .bind (.read _) fun found => ?_
  cases found with
  | false => exact .fail
  | true => exact .orFail .command

theorem requireMetadataFile (file : ManagedFile) : Quiet (requireMetadataFile file) :=
  .bind (.requireExistingFile file) fun _ => .bind (.orFail .command) fun _ => .orFail .command

theorem loadMetadata (file : ManagedFile) : Quiet (loadMetadata file) := by
  refine .bind (.read _) fun content => ?_
  cases content.bind loadImageMetadata with
  | none => exact .fail
  | some metadata => exact .pure metadata

theorem requireRuntimePrerequisites : Quiet requireRuntimePrerequisites :=
  .bind (.orFail .command) fun _ => .bind (.orFail .command) fun _ => .orFail .command

theorem ensurePinnedImageAvailable (file : ManagedFile) : Quiet (ensurePinnedImageAvailable file) :=
  .bind (.loadMetadata file) fun _ => .orElse .command <| .bind .command fun _ =>
    .bind .command fun _ => .bind (.orFail .command) fun _ => .bind .command fun _ =>
      .bind .command fun _ => .command

/-- Whatever `docker compose` runs is quiet if it is quiet for every image. -/
theorem composeCommand {run : Text → ManagerM Unit} (hrun : ∀ image, Quiet (run image)) :
    Quiet (composeCommand run) := by
  refine .bind (.loadMetadata _) fun metadata => .bind (.orFail .command) fun _ =>
    .bind (.read _) fun image => ?_
  split_ifs
  · exact hrun _
  · exact .fail

/-- Polling looks at the container, attempt by attempt. -/
theorem pollHealth (attempts : Nat) : Quiet (pollHealth attempts) := by
  induction attempts with
  | zero => exact .returnStatus
  | succ attempts ih =>
      refine .bind (.read _) fun health => .bind (.succeeds .command) fun listed => ?_
      cases listed with
      | false => exact .bind (.orElse .command (.pure _)) fun _ => ih
      | true =>
          cases health with
          | healthy => exact .pure _
          | unhealthy => exact .returnStatus
          | exited => exact .returnStatus
          | starting => exact .bind (.orElse .command (.pure _)) fun _ => ih

theorem waitForServiceHealth : Quiet waitForServiceHealth := by
  refine .bind (.succeeds (.catching (.composeCommand fun _ => .command) fun _ => .returnStatus))
    fun listed => .bind (.read _) fun running => ?_
  split_ifs
  · exact .pollHealth _
  · exact .returnStatus

end Quiet

/-! ### Parts that change something -/

section Changes

variable {pre post failed stopped : Installation → Prop}

theorem Quiet.kept {Result : Type} {part : ManagerM Result} (hquiet : Quiet part)
    (hfailed : ∀ installation, pre installation → failed installation)
    (hstopped : ∀ installation, pre installation → stopped installation) :
    Does pre part (fun _ => pre) failed stopped :=
  hquiet.does (fun _ _ hpre => hpre) hfailed hstopped

theorem Does.readFile {file : ManagedFile} :
    Does pre (readFile file)
      (fun content installation => pre installation ∧ installation.files file = content)
      failed stopped :=
  .read fun _ hpre => ⟨hpre, rfl⟩

theorem Does.fileExists {file : ManagedFile} :
    Does pre (fileExists file)
      (fun found installation => pre installation ∧ (installation.files file).isSome = found)
      failed stopped :=
  .read fun _ hpre => ⟨hpre, rfl⟩

/-- Metadata that was loaded is what the file holds. -/
theorem Does.loadMetadata {file : ManagedFile}
    (hstopped : ∀ installation, pre installation → stopped installation) :
    Does pre (loadMetadata file)
      (fun metadata installation => pre installation ∧
        (installation.files file).bind loadImageMetadata = some metadata) failed stopped := by
  refine .bind .readFile fun content => ?_
  cases hload : content.bind loadImageMetadata with
  | none => exact .fail fun installation hpre => hstopped _ hpre.1
  | some metadata =>
      refine .pure fun installation hpre => ⟨hpre.1, ?_⟩
      rw [hpre.2, hload]

/-- A file is replaced, or it is not. -/
theorem Does.moveInto {content : Text} {destination : ManagedFile}
    (hmove : ∀ installation, pre installation → post (installation.write destination content))
    (hfailed : ∀ installation, pre installation → failed installation)
    (hstopped : ∀ installation, pre installation → stopped installation) :
    Does pre (moveInto content destination) (fun _ => post) failed stopped :=
  .runCommand (fun _ => hmove _) (fun _ => hfailed _) fun _ => hstopped _

theorem Does.removeFile {file : ManagedFile}
    (hremove : ∀ installation, pre installation → post (installation.remove file))
    (hfailed : ∀ installation, pre installation → failed installation)
    (hstopped : ∀ installation, pre installation → stopped installation) :
    Does pre (removeFile file) (fun _ => post) failed stopped :=
  .runCommand (fun _ => hremove _) (fun _ => hfailed _) fun _ => hstopped _

/-- The rule of a redirection, which may leave any prefix of the text. -/
theorem Does.writeFile {file : ManagedFile} {content : Text}
    (hwrite : ∀ installation, pre installation → post (installation.write file content))
    (hcut : ∀ installation length, pre installation →
      failed (installation.write file (content.take length)) ∧
        stopped (installation.write file (content.take length)))
    (hfailed : ∀ installation, pre installation → failed installation)
    (hstopped : ∀ installation, pre installation → stopped installation) :
    Does pre (writeFile file content) (fun _ => post) failed stopped := by
  refine .runCommand (fun _ => hwrite _) (fun host hpre => ?_) fun host hpre => ?_
  · cases host.written host.step with
    | none => exact hfailed _ hpre
    | some length => exact (hcut _ length hpre).1
  · cases host.written host.step with
    | none => exact hstopped _ hpre
    | some length => exact (hcut _ length hpre).2

/-- The rule of a copy through a temporary file: the destination is the old or the new one.
-/
theorem Does.atomicCopyFile {source destination : ManagedFile}
    (hcopy : ∀ installation content, pre installation →
      installation.files source = some content → post (installation.write destination content)) :
    Does pre (atomicCopyFile source destination) (fun _ => post)
      (fun installation => pre installation ∨ post installation)
      fun installation => pre installation ∨ post installation := by
  have hleft : ∀ installation, pre installation → pre installation ∨ post installation :=
    fun _ => .inl
  have hright : ∀ installation, post installation → pre installation ∨ post installation :=
    fun _ => .inr
  refine .bind (Quiet.command.kept hleft hleft) fun _ =>
    .bind (Quiet.command.kept hleft hleft) fun _ => .bind .readFile fun content => ?_
  cases content with
  | none =>
      have hkept : ∀ installation, pre installation ∧ installation.files source = none →
          pre installation ∨ post installation := fun _ hpre => .inl hpre.1
      exact .bind ((Quiet.orElse .command (.pure ())).kept hkept hkept) fun _ =>
        .returnStatus hkept
  | some content =>
      have hkept : ∀ installation, pre installation ∧ installation.files source = some content →
          pre installation ∨ post installation := fun _ hpre => .inl hpre.1
      refine .bind (.orElse (Quiet.command.kept hkept hkept) <|
        .bind ((Quiet.orElse .command (.pure ())).kept (fun _ => id) fun _ => id)
          fun _ => .returnStatus fun _ => id)
        fun _ => .bind (Quiet.command.kept hkept hkept) fun _ => .bind (.moveInto ?_ hkept hkept)
        fun _ => .bind (Quiet.command.kept hright hright) fun _ => Quiet.command.kept hright hright
      exact fun installation hpre => hcopy installation content hpre.1 hpre.2

/-- Publishing writes the rendered metadata, whole or not at all. -/
theorem Does.publishImageEnv {metadata : ImageMetadata}
    (hpublish : ∀ installation, pre installation →
      post (installation.write .imageEnv (renderImageEnv metadata))) :
    Does pre (publishImageEnv metadata) (fun _ => post)
      (fun installation => pre installation ∨ post installation)
      fun installation => pre installation ∨ post installation := by
  have hleft : ∀ installation, pre installation → pre installation ∨ post installation :=
    fun _ => .inl
  have hright : ∀ installation, post installation → pre installation ∨ post installation :=
    fun _ => .inr
  exact .bind (Quiet.command.kept hleft hleft) fun _ => .bind (Quiet.command.kept hleft hleft)
    fun _ => .bind (.orElse (Quiet.command.kept hleft hleft) <|
      .bind ((Quiet.orElse .command (.pure ())).kept (fun _ => id) fun _ => id)
        fun _ => .returnStatus fun _ => id)
    fun _ => .bind (Quiet.command.kept hleft hleft) fun _ => .bind (.moveInto hpublish hleft hleft)
    fun _ => .bind (Quiet.command.kept hright hright) fun _ => Quiet.command.kept hright hright

/-- The container runs the image that the metadata names, or the command did not
succeed and the container may be any or none. -/
theorem Does.composeUp
    (hup : ∀ installation metadata, pre installation →
      (installation.files .imageEnv).bind loadImageMetadata = some metadata →
        post { installation with container := some metadata.image })
    (hfailed : ∀ installation container, pre installation →
      failed { installation with container := container })
    (hstopped : ∀ installation container, pre installation →
      stopped { installation with container := container }) :
    Does pre composeUp (fun _ => post) failed stopped := by
  have hends : ∀ installation, pre installation → stopped installation :=
    fun installation => hstopped installation installation.container
  refine .bind (.loadMetadata hends) fun metadata => ?_
  have hloaded : ∀ installation, pre installation ∧
      (installation.files .imageEnv).bind loadImageMetadata = some metadata →
        stopped installation := fun installation hpre => hends installation hpre.1
  refine .bind ((Quiet.orFail .command).kept
    (fun installation hpre => hfailed installation installation.container hpre.1) hloaded)
    fun _ => .bind ((Quiet.read _).kept
      (fun installation hpre => hfailed installation installation.container hpre.1) hloaded)
    fun image => ?_
  split_ifs
  · exact .runCommand (fun host hpre => hup _ metadata hpre.1 hpre.2)
      (fun host hpre => hfailed _ _ hpre.1) fun host hpre => hstopped _ _ hpre.1
  · exact .fail hloaded

end Changes

end Manager

end CompanionBridge
