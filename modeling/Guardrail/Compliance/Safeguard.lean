import Guardrail.Compliance.Context
import Guardrail.Condition.Evaluation

/-!
# Safeguards

A safeguard is a property that controls ask of a resource. Discovery tools record one property in
different places, so each safeguard has a list of signals, one of which is enough: an attribute, a
relationship, a neighbour or a tag.
-/

namespace Guardrail.Compliance

/-- Whether a recorded value says yes. -/
def isTruthy : Json → Bool
  | .bool b => b
  | .number n => n.toFloat != 0
  | .text s => Text.lower (Text.strip s) ∈ ["true", "yes", "enabled", "on"]
  | _ => false

/-- Whether a recorded value is something other than nothing, no or empty. -/
def isPresent : Json → Bool
  | .null => false
  | .bool b => b
  | .number _ => true
  | .text s => !(Text.trim s.toList).isEmpty
  | .array xs => !xs.isEmpty
  | .object ms => !ms.isEmpty

/-- The number that a recorded value gives. -/
def measured? : Json → Option Float
  | .number n => some n.toFloat
  | .text s => Decimal.float? (Text.trim s.toList)
  | _ => none

/-- What the value of a tag has to be. -/
inductive TagTest where
  /-- One of several words, up to blanks around it and the case of letters. -/
  | oneOf (words : List String)
  /-- None of several words, up to the case of letters. -/
  | noneOf (words : List String)
  deriving DecidableEq, Repr

/-- Whether the value of a tag passes a test. -/
def TagTest.passes (value : String) : TagTest → Bool
  | .oneOf words => words.any (Text.sameLetters · (Text.strip value))
  | .noneOf words => Text.lower value ∉ words

/-- The smallest value that an attribute has to have, or the bound that it has to exceed. -/
structure Threshold where
  keys : List String
  order : Order
  bound : Float

/-- The signals of a safeguard. -/
structure Signals where
  /-- Attributes that rule the safeguard out when they say yes. -/
  exclusions : List String := []
  /-- Attributes that say yes. -/
  flags : List String := []
  /-- Attributes that are there. -/
  traces : List String := []
  /-- Attributes the first number among which is large enough. -/
  threshold? : Option Threshold := none
  /-- Kinds of relationships. -/
  edges : List String := []
  /-- Fragments of the types of neighbours. -/
  neighbours : List String := []
  /-- A tag and the test of its value. -/
  tag? : Option (String × TagTest) := none

namespace Context

/-- Whether one of several attributes says yes. -/
def flag (ctx : Context) (keys : List String) : Bool :=
  (ctx.attributes keys).any isTruthy

/-- Whether one of several attributes is there. -/
def present (ctx : Context) (keys : List String) : Bool :=
  (ctx.attributes keys).any isPresent

/-- The number of the first of several attributes that gives one. -/
def number? (ctx : Context) (keys : List String) : Option Float :=
  (ctx.attributes keys).findSome? measured?

/-- Whether the first number among a threshold's attributes reaches it. -/
def reaches (ctx : Context) (t : Threshold) : Bool :=
  (ctx.number? t.keys).any fun x => t.order.holds x t.bound

/-- Whether the resource has a tag whose value passes a test. -/
def tagPasses (ctx : Context) (key : String) (test : TagTest) : Bool :=
  (ctx.tag? key).any test.passes

/-- Whether one of several signals is given and nothing rules them out. -/
def gives (ctx : Context) (s : Signals) : Bool :=
  !ctx.flag s.exclusions &&
    (ctx.flag s.flags || ctx.present s.traces || s.threshold?.any ctx.reaches ||
      s.edges.any ctx.hasEdge || s.neighbours.any ctx.hasNeighbour ||
      s.tag?.any fun (key, test) => ctx.tagPasses key test)

end Context

/-- A property that controls ask of a resource. -/
inductive Safeguard where
  /-- Encryption of stored data. -/
  | encryption
  /-- A place on a private network. -/
  | isolation
  /-- Access or audit logs. -/
  | logging
  /-- Backups, or recovery to a point in time. -/
  | backup
  /-- Metrics or alarms. -/
  | monitoring
  /-- A policy, role or security group that restricts access. -/
  | access
  /-- Several zones or replicas. -/
  | availability
  /-- Earlier versions of stored objects. -/
  | versioning
  /-- A second factor, single sign-on or long passwords. -/
  | authentication
  deriving DecidableEq, Repr, Inhabited

namespace Safeguard

/-- All safeguards. -/
def all : List Safeguard :=
  [.encryption, .isolation, .logging, .backup, .monitoring, .access, .availability, .versioning,
    .authentication]

/-- The signals of a safeguard. -/
def signals : Safeguard → Signals
  | .encryption =>
    { flags := ["encrypted", "encryption_enabled", "encryptionEnabled", "storage_encrypted",
        "storageEncrypted", "server_side_encryption", "serverSideEncryption"]
      traces := ["kms_key_id", "kmsKeyId", "encryption_key"]
      edges := ["encrypted-by", "uses-kms-key"]
      tag? := some ("encryption", .oneOf ["enabled", "true", "aes256", "kms"]) }
  | .isolation =>
    { exclusions := ["publicly_accessible", "publiclyAccessible", "public"]
      flags := ["private", "in_vpc", "inVpc", "private_endpoint"]
      traces := ["vpc_id", "vpcId", "subnet_id", "subnetId"]
      edges := ["in-vpc", "in-subnet", "protected-by"]
      tag? := some ("network", .oneOf ["private", "isolated"]) }
  | .logging =>
    { flags := ["logging_enabled", "loggingEnabled", "access_logging", "accessLogging",
        "audit_logging", "auditLogging", "flow_logs_enabled"]
      traces := ["log_group", "logGroup", "logging_target"]
      edges := ["logs-to"]
      neighbours := ["log_group", "trail"]
      tag? := some ("logging", .oneOf ["enabled", "true"]) }
  | .backup =>
    { flags := ["backup_enabled", "backupEnabled", "point_in_time_recovery",
        "pointInTimeRecovery"]
      threshold? := some ⟨["backup_retention_days", "backupRetentionPeriod"], .above, 0⟩
      edges := ["backed-up-by"]
      neighbours := ["backup"]
      tag? := some ("backup", .noneOf ["", "none", "false", "disabled"]) }
  | .monitoring =>
    { flags := ["monitoring_enabled", "monitoringEnabled", "detailed_monitoring",
        "detailedMonitoring"]
      traces := ["alarms", "monitoring_role"]
      edges := ["monitored-by"]
      neighbours := ["alarm"]
      tag? := some ("monitoring", .oneOf ["enabled", "true"]) }
  | .access =>
    { flags := ["rbac_enabled", "rbacEnabled", "iam_auth", "iamDatabaseAuthentication"]
      traces := ["iam_policy", "iamPolicy", "access_policy", "accessPolicy", "bucket_policy"]
      edges := ["has-policy", "has-role", "assumes-role", "protected-by"]
      tag? := some ("access", .oneOf ["restricted", "private"]) }
  | .availability =>
    { flags := ["multi_az", "multiAz", "zone_redundant", "zoneRedundant"]
      threshold? := some ⟨["replicas", "replica_count", "min_size"], .atLeast, 2⟩
      edges := ["replicates-to"]
      tag? := some ("ha", .oneOf ["true", "enabled"]) }
  | .versioning =>
    { flags := ["versioning_enabled", "versioningEnabled", "versioning"]
      tag? := some ("versioning", .oneOf ["enabled", "true"]) }
  | .authentication =>
    { flags := ["mfa_enabled", "mfaEnabled", "mfa", "sso_enabled", "ssoEnabled"]
      threshold? := some ⟨["password_min_length", "minimumPasswordLength"], .atLeast, 14⟩
      edges := ["authenticates-via"]
      tag? := some ("mfa", .oneOf ["enabled", "true", "required"]) }

/-- Whether a resource has a safeguard. -/
def holds (s : Safeguard) (ctx : Context) : Bool :=
  ctx.gives s.signals

end Safeguard

/-- The tags that every resource has to carry. -/
def requiredTags : List String := ["owner", "environment"]

namespace Context

/-- Whether a tag is there and not blank. -/
def carries (ctx : Context) (tag : String) : Bool :=
  (ctx.tag? tag).any fun v => !(Text.trim v.toList).isEmpty

/-- Those of several tags that are absent or blank. -/
def missingTags (ctx : Context) (tags : List String) : List String :=
  tags.filter fun t => !ctx.carries t

/-- Whether the resource carries all of several tags. -/
def carriesAll (ctx : Context) (tags : List String) : Bool :=
  tags.all ctx.carries

/-- Whether the resource carries at least one of several tags. -/
def carriesAny (ctx : Context) (tags : List String) : Bool :=
  tags.any ctx.carries

end Context

end Guardrail.Compliance
