import Mathlib.Algebra.Order.Ring.Rat
import CipherPost.Infra.Template

/-!
# 設定

`app/core/config.py` の `Settings`。欄の名前と型と既定の値の表と、その型の値を持つ設定。文字列の型は問わない。秘密を穴に
した雛形の設定も、同じ型で書く。

* `MODEL_FIELDS` — 欄の表
* `Settings` — 設定。値はどれも欄の型に合う
* `Settings.map`・`Settings.fill` — 文字列の置き換えと、穴を埋めた設定
* `defaultSettings` — 既定の設定
-/

namespace CipherPost.Core.Config

/-- 欄の型。 -/
inductive FieldType where
  | bool | int | float | str | optionalStr | path
  deriving DecidableEq

/-- 欄の値。 -/
inductive SettingValue (σ : Type) where
  | none
  | bool (b : Bool)
  | int (n : Int)
  | float (x : ℚ)
  | str (s : σ)
  | path (s : σ)

namespace SettingValue

variable {σ τ : Type}

/-- 値が欄の型に合う。 -/
def hasType : SettingValue σ → FieldType → Bool
  | .bool _, .bool => true
  | .int _, .int => true
  | .float _, .float => true
  | .str _, .str => true
  | .str _, .optionalStr => true
  | .none, .optionalStr => true
  | .path _, .path => true
  | _, _ => false

/-- 文字列を写す。 -/
def map (g : σ → τ) : SettingValue σ → SettingValue τ
  | .none => .none
  | .bool b => .bool b
  | .int n => .int n
  | .float x => .float x
  | .str s => .str (g s)
  | .path s => .path (g s)

@[simp] theorem hasType_map (g : σ → τ) (v : SettingValue σ) (type : FieldType) :
    (v.map g).hasType type = v.hasType type := by
  cases v <;> cases type <;> rfl

/-- 値の中の文字列。 -/
def text? : SettingValue σ → Option σ
  | .str s => some s
  | .path s => some s
  | _ => Option.none

end SettingValue

/-- 欄。 -/
structure ModelField where
  name : String
  type : FieldType
  default : SettingValue String

/-- `Settings.model_fields`。宣言の順に並ぶ。`APP_VERSION` は `app/VERSION` の内容である。 -/
def MODEL_FIELDS : List ModelField :=
  [⟨"APP_NAME", .str, .str "CipherPost"⟩, ⟨"APP_VERSION", .str, .str "0.3.0"⟩,
    ⟨"DEBUG", .bool, .bool false⟩, ⟨"ENV", .str, .str "production"⟩,
    ⟨"DATABASE_URL", .str, .str "postgresql+asyncpg://cipherpost:cipherpost@db:5432/cipherpost"⟩,
    ⟨"DATABASE_URL_SYNC", .str,
      .str "postgresql+psycopg2://cipherpost:cipherpost@db:5432/cipherpost"⟩,
    ⟨"REDIS_URL", .str, .str "redis://redis:6379/0"⟩, ⟨"UPLOAD_DIR", .path, .path "/data/uploads"⟩,
    ⟨"REPORTS_DIR", .path, .path "/data/reports"⟩, ⟨"BLOB_DIR", .path, .path "/data/blobs"⟩,
    ⟨"MODELS_DIR", .path, .path "/data/models"⟩, ⟨"MAX_UPLOAD_SIZE_MB", .int, .int 500⟩,
    ⟨"CELERY_BROKER_URL", .str, .str "redis://redis:6379/0"⟩,
    ⟨"CELERY_RESULT_BACKEND", .str, .str "redis://redis:6379/0"⟩, ⟨"LOG_LEVEL", .str, .str "INFO"⟩,
    ⟨"LOG_FORMAT", .str, .str "json"⟩, ⟨"TRUSTED_CA_BUNDLE_PATH", .optionalStr, .none⟩,
    ⟨"AUTH_REQUIRED", .bool, .bool true⟩, ⟨"JWT_SECRET", .str, .str "change-me-in-production"⟩,
    ⟨"JWT_EXPIRY_SECONDS", .int, .int 86400⟩, ⟨"ADMIN_EMAIL", .str, .str "admin@cipherpost.local"⟩,
    ⟨"ADMIN_PASSWORD", .str, .str "change-me-on-first-login"⟩,
    ⟨"DEFAULT_ORG_NAME", .str, .str "default"⟩, ⟨"CORS_ORIGINS", .str, .str ""⟩,
    ⟨"OIDC_ISSUER", .str, .str ""⟩, ⟨"OIDC_CLIENT_ID", .str, .str ""⟩,
    ⟨"OIDC_CLIENT_SECRET", .str, .str ""⟩, ⟨"OIDC_SCOPES", .str, .str "openid email profile"⟩,
    ⟨"OIDC_JWKS_CACHE_SECONDS", .int, .int 600⟩, ⟨"OIDC_CLAIM_RULES", .str, .str "[]"⟩,
    ⟨"OIDC_DEFAULT_ROLE", .str, .str "auditor"⟩, ⟨"OIDC_DEFAULT_ORG", .str, .str "default"⟩,
    ⟨"OIDC_JIT_PROVISIONING", .bool, .bool true⟩, ⟨"DISABLE_PASSWORD_LOGIN", .bool, .bool false⟩,
    ⟨"BREAK_GLASS_EMAIL", .str, .str ""⟩, ⟨"BREAK_GLASS_PASSWORD", .str, .str ""⟩,
    ⟨"MFA_ENROLL_ALLOW", .bool, .bool true⟩, ⟨"MFA_REQUIRED_ORGS", .str, .str ""⟩,
    ⟨"MFA_ISSUER_NAME", .str, .str "CipherPost"⟩,
    ⟨"JWT_SESSION_LIFETIME_SECONDS", .int, .int 86400⟩, ⟨"LIVE_IFACE", .str, .str "lo"⟩,
    ⟨"LIVE_PROMISC", .bool, .bool true⟩,
    ⟨"LIVE_BPF_PORTS", .str, .str "25,587,465,110,995,143,993"⟩,
    ⟨"LIVE_EXTRA_PORTS", .str, .str ""⟩, ⟨"LIVE_MAX_SESSIONS", .int, .int 4096⟩,
    ⟨"LIVE_MAX_SESSION_BUFFER_BYTES", .int, .int 524288⟩, ⟨"LIVE_IDLE_TIMEOUT", .float, .float 60⟩,
    ⟨"LIVE_DRAIN_INTERVAL", .float, .float 1⟩, ⟨"LIVE_SNIFF_BATCH", .int, .int 200⟩,
    ⟨"RAW_CAPTURE_DIR", .path, .path "/data/capture"⟩, ⟨"RAW_RETENTION_SECONDS", .int, .int 21600⟩,
    ⟨"RAW_SEGMENT_SECONDS", .int, .int 300⟩, ⟨"RAW_DISK_MIN_FREE_BYTES", .int, .int 2147483648⟩,
    ⟨"LIVE_REPLAY_SPEED", .float, .float 0⟩, ⟨"SESSION_STREAM", .str, .str "cipherpost:sessions"⟩,
    ⟨"FINDINGS_STREAM", .str, .str "cipherpost:findings"⟩,
    ⟨"ALERT_STREAM", .str, .str "cipherpost:alerts"⟩,
    ⟨"LIVE_PUBSUB_PREFIX", .str, .str "cipherpost:live"⟩, ⟨"LIVE_JOB_TAG", .str, .str "live"⟩,
    ⟨"CAPTURE_DROP_SAMPLING", .bool, .bool true⟩,
    ⟨"ANALYSIS_CONSUMER_GROUP", .str, .str "analysis-workers"⟩,
    ⟨"ALERT_CONSUMER_GROUP", .str, .str "alert-workers"⟩, ⟨"STREAM_MAX_ATTEMPTS", .int, .int 5⟩,
    ⟨"STREAM_IDLE_RECLAIM_MS", .int, .int 60000⟩, ⟨"STREAM_DLQ_SUFFIX", .str, .str ":dlq"⟩,
    ⟨"STREAM_RECLAIM_BATCH", .int, .int 16⟩, ⟨"CAPTURE_PUBLISH_BUFFER", .int, .int 512⟩,
    ⟨"CAPTURE_PUBLISH_RETRIES", .int, .int 5⟩, ⟨"CAPTURE_PUBLISH_BACKOFF_MS", .int, .int 200⟩,
    ⟨"CAPTURE_PUBLISH_BACKOFF_MAX_MS", .int, .int 5000⟩, ⟨"ALERT_MIN_SEVERITY", .str, .str "high"⟩,
    ⟨"ALERT_DEDUP_WINDOW_SECONDS", .int, .int 300⟩, ⟨"ALERT_RATE_LIMIT_PER_MINUTE", .int, .int 60⟩,
    ⟨"ALERT_WEBHOOK_URL", .optionalStr, .none⟩, ⟨"ALERT_SLACK_URL", .optionalStr, .none⟩,
    ⟨"ALERT_CEF_SYSLOG_HOST", .optionalStr, .none⟩, ⟨"ALERT_CEF_SYSLOG_PORT", .int, .int 514⟩,
    ⟨"ALERT_EMAIL_SMTP_HOST", .optionalStr, .none⟩, ⟨"ALERT_EMAIL_SMTP_PORT", .int, .int 25⟩,
    ⟨"ALERT_EMAIL_FROM", .str, .str "cipherpost@localhost"⟩, ⟨"ALERT_EMAIL_TO", .str, .str ""⟩,
    ⟨"ALERT_CHANNEL_CONFIG_PATH", .path, .path "/data/alert_channels.json"⟩,
    ⟨"SPLUNK_HEC_URL", .optionalStr, .none⟩, ⟨"SPLUNK_HEC_TOKEN", .str, .str ""⟩,
    ⟨"SPLUNK_HEC_INDEX", .str, .str ""⟩, ⟨"SPLUNK_HEC_SOURCETYPE", .str, .str "cipherpost:alert"⟩,
    ⟨"TICKETING_ENABLED", .bool, .bool false⟩, ⟨"TICKET_MIN_SEVERITY", .str, .str "critical"⟩,
    ⟨"JIRA_URL", .optionalStr, .none⟩, ⟨"JIRA_EMAIL", .str, .str ""⟩,
    ⟨"JIRA_API_TOKEN", .str, .str ""⟩, ⟨"JIRA_PROJECT", .str, .str ""⟩,
    ⟨"JIRA_ISSUE_TYPE", .str, .str "Task"⟩, ⟨"AGENT_ID", .str, .str ""⟩,
    ⟨"AGENT_ORG_ID", .str, .str ""⟩, ⟨"AGENT_HEARTBEAT_SECONDS", .float, .float 10⟩,
    ⟨"AGENT_TTL_SECONDS", .float, .float 30⟩, ⟨"CERT_EXPIRY_WARN_DAYS", .int, .int 30⟩,
    ⟨"CERT_EXPIRY_CHECK_INTERVAL_SECONDS", .int, .int 900⟩,
    ⟨"OWN_TLS_CERT_PATH", .optionalStr, .none⟩, ⟨"DNS_RESOLVER", .optionalStr, .none⟩,
    ⟨"DNS_TIMEOUT_SECONDS", .float, .float 5⟩, ⟨"DNS_CACHE_MAX", .int, .int 512⟩,
    ⟨"MTASTS_HTTPS_TIMEOUT_SECONDS", .float, .float 8⟩,
    ⟨"MTASTS_MAX_POLICY_BYTES", .int, .int 65536⟩, ⟨"MTASTS_MAX_REDIRECTS", .int, .int 3⟩,
    ⟨"DNSSEC_TRUST_ANCHOR", .str, .str ""⟩, ⟨"TRANSPORT_RECHECK_INTERVAL_SECONDS", .int, .int 3600⟩,
    ⟨"FLEET_BASELINE_WINDOW_DAYS", .int, .int 7⟩, ⟨"FLEET_BASELINE_MIN_SAMPLES", .int, .int 20⟩,
    ⟨"FLEET_BASELINE_REFIT_EVERY", .int, .int 200⟩,
    ⟨"FLEET_ANOMALY_CONTAMINATION", .float, .float 0.1⟩, ⟨"DRIFT_Z_THRESHOLD", .float, .float 3⟩,
    ⟨"DRIFT_MIN_FEATURES", .int, .int 3⟩, ⟨"MIN_ANALYST_LABELS_PER_CLASS", .int, .int 50⟩,
    ⟨"ML_PROMOTE_MARGIN_F1", .float, .float 0.02⟩, ⟨"TRAINING_OPT_IN_ORGS", .str, .str ""⟩,
    ⟨"SINGLE_TENANT", .bool, .bool true⟩, ⟨"INGEST_MAX_QUEUE", .int, .int 5000⟩,
    ⟨"INGEST_MAX_BATCH", .int, .int 200⟩, ⟨"PQ_POLICY", .str, .str "informational"⟩,
    ⟨"SUPPRESSION_REQUIRE_APPROVAL", .bool, .bool true⟩,
    ⟨"SUPPRESSION_DEFAULT_DAYS", .int, .int 90⟩, ⟨"SUPPRESSION_MAX_DAYS", .int, .int 180⟩,
    ⟨"SUPPRESSION_EXPIRING_SOON_DAYS", .int, .int 14⟩, ⟨"RETENTION_RAW_DAYS", .int, .int 7⟩,
    ⟨"RETENTION_SESSIONS_DAYS", .int, .int 90⟩, ⟨"RETENTION_FINDINGS_DAYS", .int, .int 90⟩,
    ⟨"RETENTION_ALERTS_DAYS", .int, .int 180⟩, ⟨"RETENTION_AUDIT_DAYS", .int, .int 365⟩,
    ⟨"RETENTION_BATCH_SIZE", .int, .int 1000⟩, ⟨"RETENTION_INTERVAL_SECONDS", .int, .int 3600⟩]

/-- 表にある欄。 -/
abbrev Field := { f : ModelField // f ∈ MODEL_FIELDS }

/-- 設定。値はどれも欄の型に合う。 -/
structure Settings (σ : Type) where
  value : Field → SettingValue σ
  typed : ∀ f, (value f).hasType f.1.type = true

/-- 文字列を写した設定。 -/
def Settings.map {σ τ : Type} (g : σ → τ) (s : Settings σ) : Settings τ where
  value f := (s.value f).map g
  typed f := by rw [SettingValue.hasType_map, s.typed f]

/-- どの既定の値も、欄の型に合う。 -/
theorem default_hasType : ∀ f ∈ MODEL_FIELDS, f.default.hasType f.type = true :=
  List.all_eq_true.mp (by decide)

/-- 既定の設定。 -/
def defaultSettings : Settings String where
  value f := f.1.default
  typed f := default_hasType f.1 f.2

/-! ## 秘密を穴にした設定 -/

/-- 秘密を穴にした文字列。 -/
abbrev SecretText (κ : Type) := Template.Body Char κ

variable {κ : Type}

/-- 穴に秘密を入れた設定。 -/
def Settings.fill (keys : κ → List Char) (t : Settings (SecretText κ)) : Settings (List Char) :=
  t.map (Template.fill keys)

/-- 値の文字列に穴が無い。 -/
def SettingValue.Plain (v : SettingValue (SecretText κ)) : Prop :=
  ∀ s ∈ v.text?, Template.Plain s

end CipherPost.Core.Config
