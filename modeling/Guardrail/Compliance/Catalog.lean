import Guardrail.Compliance.Finding
import Guardrail.Compliance.Safeguard

/-!
# Catalogs

The controls of each framework. A control asks for a safeguard or for the required tags.
-/

namespace Guardrail.Compliance

namespace Safeguard

/-- What is said of a resource that has the safeguard. -/
def praise : Safeguard → String
  | .encryption => "is encrypted at rest"
  | .isolation => "is placed on a private network"
  | .logging => "has logging enabled"
  | .backup => "is backed up"
  | .monitoring => "is monitored"
  | .access => "is guarded by an access policy"
  | .availability => "is deployed redundantly"
  | .versioning => "has versioning enabled"
  | .authentication => "requires strong authentication"

/-- What is said of a resource that lacks the safeguard. -/
def complaint : Safeguard → String
  | .encryption => "has no encryption at rest (no encryption flag, key, edge, or tag)"
  | .isolation => "is publicly reachable or outside a private network"
  | .logging => "has no access or audit logging"
  | .backup => "has no backup or point-in-time recovery"
  | .monitoring => "has no monitoring or alarms"
  | .access => "has no access policy, role binding, or security group"
  | .availability => "runs without zone redundancy or replicas"
  | .versioning => "has versioning disabled"
  | .authentication => "does not require MFA or a strong password policy"

/-- The verdict of a control that asks for the safeguard. -/
def judge (s : Safeguard) (ctx : Context) : Verdict :=
  let holds := s.holds ctx
  { status := .ofCheck holds
    reason := ctx.resource.id ++ " " ++ if holds then s.praise else s.complaint }

end Safeguard

/-- The verdict of a control that asks for the required tags. A resource that carries some of them
gets a warning. -/
def judgeTags (ctx : Context) : Verdict :=
  let missing := ctx.missingTags requiredTags
  let complaint := ctx.resource.id ++ " is missing tags: " ++ ", ".intercalate missing
  if ctx.carriesAll requiredTags then
    { status := .pass, reason := ctx.resource.id ++ " carries all required tags" }
  else if ctx.carriesAny requiredTags then { status := .warning, reason := complaint }
  else { status := .fail, reason := complaint }

/-- What a control of a catalog asks for. -/
inductive Demand where
  | safeguard (s : Safeguard)
  | tags
  deriving DecidableEq, Repr

/-- The verdict on a resource by a demand. -/
def Demand.judge (ctx : Context) : Demand → Verdict
  | .safeguard s => s.judge ctx
  | .tags => judgeTags ctx

namespace Catalog

/-! ## Groups of resource types -/

def storage : List String :=
  ["s3_bucket", "ebs_volume", "efs_file_system", "storage_account", "blob_container",
    "gcs_bucket"]

def databases : List String :=
  ["rds_instance", "rds_cluster", "dynamodb_table", "database", "sql_database",
    "cosmosdb_account", "cloudsql_instance"]

def dataStores : List String := storage ++ databases

def compute : List String :=
  ["ec2_instance", "virtual_machine", "compute_instance", "lambda_function",
    "kubernetes_cluster"]

def networked : List String :=
  ["ec2_instance", "virtual_machine", "compute_instance", "kubernetes_cluster", "rds_instance",
    "rds_cluster", "database", "sql_database", "cloudsql_instance"]

def identities : List String := ["iam_user", "iam_role", "user", "service_account"]

def guarded : List String :=
  ["s3_bucket", "storage_account", "gcs_bucket", "rds_instance", "dynamodb_table", "database",
    "iam_role", "service_account"]

def logged : List String :=
  ["s3_bucket", "rds_instance", "database", "load_balancer", "vpc", "api_gateway",
    "ec2_instance", "virtual_machine"]

def redundant : List String :=
  ["rds_instance", "rds_cluster", "database", "load_balancer", "kubernetes_cluster"]

def versioned : List String := ["s3_bucket", "blob_container", "gcs_bucket"]

def everything : List String := ["*"]

/-! ## The controls -/

/-- A control whose id is the mark of its framework followed by `code`. -/
def control (framework : Framework) (code clause title description : String)
    (severity : Severity) (kinds : List String) (demand : Demand) : Control :=
  let mark :=
    match framework with
    | .soc2 => "SOC2-"
    | .cis => "CIS-"
    | .hipaa => "HIPAA-"
    | .pciDss => "PCI-"
  { id := mark ++ code, framework, clause, title, description, severity, kinds
    judge := fun ctx => .ok (demand.judge ctx) }

def soc2 : List Control :=
  [control .soc2 "CC6.1-ENC" "CC6.1" "Encryption of data at rest"
      "Data stores encrypt stored data with managed keys" .high dataStores
      (.safeguard .encryption),
    control .soc2 "CC6.1-IAM" "CC6.1" "Logical access controls"
      "Access to data stores and roles is restricted by policy" .high guarded
      (.safeguard .access),
    control .soc2 "CC6.1-MFA" "CC6.1" "Strong authentication"
      "Human identities authenticate with MFA or SSO" .critical identities
      (.safeguard .authentication),
    control .soc2 "CC6.6-NET" "CC6.6" "Network boundary protection"
      "Workloads and databases sit behind a private network boundary" .medium networked
      (.safeguard .isolation),
    control .soc2 "CC7.2-LOG" "CC7.2" "System activity logging"
      "Security-relevant activity is logged" .medium logged (.safeguard .logging),
    control .soc2 "CC7.2-MON" "CC7.2" "System monitoring"
      "Compute and databases are monitored for anomalies" .medium compute
      (.safeguard .monitoring),
    control .soc2 "A1.2-BAK" "A1.2" "Backup and recovery"
      "Databases are backed up and recoverable" .high databases (.safeguard .backup),
    control .soc2 "A1.2-HA" "A1.2" "Availability"
      "Critical services run redundantly" .medium redundant (.safeguard .availability),
    control .soc2 "CC1.3-TAG" "CC1.3" "Asset ownership"
      "Every resource names its owner and environment" .low everything .tags]

def cis : List Control :=
  [control .cis "1.10" "1.10" "MFA for console users"
      "Multi-factor authentication is enabled for all users" .critical identities
      (.safeguard .authentication),
    control .cis "2.1.1" "2.1.1" "Bucket encryption"
      "Object storage enforces server-side encryption" .high storage (.safeguard .encryption),
    control .cis "2.1.3" "2.1.3" "Bucket versioning"
      "Object storage keeps prior versions" .medium versioned (.safeguard .versioning),
    control .cis "2.3.1" "2.3.1" "Database encryption"
      "Database storage is encrypted" .high databases (.safeguard .encryption),
    control .cis "3.1" "3.1" "Logging enabled"
      "Access and flow logging is enabled" .medium logged (.safeguard .logging),
    control .cis "5.2" "5.2" "No unrestricted ingress"
      "Instances and databases are not publicly reachable" .high networked
      (.safeguard .isolation)]

def hipaa : List Control :=
  [control .hipaa "164.312(a)(1)" "164.312(a)(1)" "Access control"
      "Only authorised identities can reach ePHI stores" .high guarded (.safeguard .access),
    control .hipaa "164.312(a)(2)(iv)" "164.312(a)(2)(iv)" "Encryption and decryption"
      "ePHI at rest is encrypted" .critical dataStores (.safeguard .encryption),
    control .hipaa "164.312(b)" "164.312(b)" "Audit controls"
      "Activity on systems holding ePHI is recorded" .high logged (.safeguard .logging),
    control .hipaa "164.312(d)" "164.312(d)" "Person or entity authentication"
      "Identities are verified with strong authentication" .high identities
      (.safeguard .authentication),
    control .hipaa "164.312(e)(1)" "164.312(e)(1)" "Transmission security"
      "Systems holding ePHI are isolated from public networks" .medium networked
      (.safeguard .isolation),
    control .hipaa "164.308(a)(7)" "164.308(a)(7)" "Contingency plan"
      "ePHI stores are backed up" .high databases (.safeguard .backup)]

def pciDss : List Control :=
  [control .pciDss "1.3" "1.3" "Restrict cardholder data environment access"
      "No direct public access to systems in the cardholder data environment" .high networked
      (.safeguard .isolation),
    control .pciDss "3.4" "3.4" "Render stored account data unreadable"
      "Stored cardholder data is encrypted" .critical dataStores (.safeguard .encryption),
    control .pciDss "7.1" "7.1" "Restrict access by need to know"
      "Access to cardholder data stores is limited by policy" .high guarded
      (.safeguard .access),
    control .pciDss "8.3" "8.3" "Multi-factor authentication"
      "Access into the cardholder data environment requires MFA" .critical identities
      (.safeguard .authentication),
    control .pciDss "10.2" "10.2" "Audit logs"
      "Audit logs capture access to system components" .high logged (.safeguard .logging),
    control .pciDss "12.5.1" "12.5.1" "Inventory of system components"
      "System components carry ownership and environment tags" .low everything .tags]

/-- The controls of a framework. -/
def standard : Framework → List Control
  | .soc2 => soc2
  | .cis => cis
  | .hipaa => hipaa
  | .pciDss => pciDss

end Catalog

end Guardrail.Compliance
