import ConfigAudit.Sha256

/-!
# Fingerprints

A finding keeps its fingerprint from run to run: the digest of the rule's identifier and the
address of the resource, joined by a bar.
-/

namespace ConfigAudit

namespace Fingerprint

/-- The text that is digested. -/
def identity (ruleId address : String) : String :=
  ruleId ++ "|" ++ address

/-- The fingerprint of a finding, 64 hexadecimal digits. -/
def ofFinding (ruleId address : String) : String :=
  Sha256.hexDigest (identity ruleId address)

end Fingerprint

end ConfigAudit
