import CipherPost.Api.Diagnostics
import CipherPost.Scripts.IssueBundle

/-!
# bundle と設定の秘密

`_redacted_config` の値は、診断の bundle にも issue に添える bundle にも入る。秘密だけの違う二つの設定から、同じ値と同じ
bundle が作られるかを調べる。秘密は鍵・password・token と、URL の中のそれらである。

* `issueBundle` — 設定から作る `build_bundle`
* `SameBundles` — 二つの設定から、値も bundle も同じものができる
* `sameBundles_iff` — 秘密によらない条件
* `not_sameBundles_of_url` — URL の欄に秘密があるとき
-/

namespace CipherPost.Scripts

open Api
open Core.Config (Field SettingValue SecretText MODEL_FIELDS defaultSettings default_hasType)

/-! ## build_bundle -/

/-- `_redacted_config` の値の JSON。 -/
def entryDoc : ConfigEntry → Doc String
  | .null => .null
  | .bool b => .bool b
  | .int n => .int n
  | .float x => .float x
  | .str s => .str (String.ofList s)

/-- bundle のうち、設定から作る部分。 -/
def bundleEnv (now : String) (s : Core.Config.Settings (List Char)) : BundleEnv where
  generatedAt := now
  toolVersion := appVersion s
  configRedacted := .obj ((redactedConfig s).map fun e => (e.1, entryDoc e.2))

/-- `include_pcap` の無い `build_bundle`。 -/
def issueBundle (cls : CharClass) (now : String) (s : Core.Config.Settings (List Char))
    (db : Store (List Char)) (findingId : Option Nat) (sessionId : Option String) :
    Option Bundle :=
  buildBundle cls (bundleEnv now s) db findingId sessionId

/-! ## 秘密だけの違う設定 -/

/-- 値も、どちらの bundle も同じである。 -/
structure SameBundles (s s' : Core.Config.Settings (List Char)) : Prop where
  config : redactedConfig s = redactedConfig s'
  diagnostics : ∀ F cls env ctx includeAddresses,
    diagnosticsBundle F cls env ctx s includeAddresses =
      diagnosticsBundle F cls env ctx s' includeAddresses
  issue : ∀ cls now db findingId sessionId,
    issueBundle cls now s db findingId sessionId = issueBundle cls now s' db findingId sessionId

/-- bundle は、設定のうち出る値だけで決まる。 -/
theorem sameBundles_of_config {s s' : Core.Config.Settings (List Char)}
    (h : redactedConfig s = redactedConfig s') : SameBundles s s' where
  config := h
  diagnostics := diagnosticsBundle_congr h
  issue cls now db findingId sessionId := by
    have henv : bundleEnv now s = bundleEnv now s' := by
      unfold bundleEnv
      rw [h, appVersion_congr h]
    rw [issueBundle, issueBundle, henv]

section
variable {κ : Type}

/--
**秘密だけが違い、空の秘密の同じどの二つの設定からも同じ bundle が作られるのは、名前に印の無いどの欄の値にも秘密が
無いときである。**
-/
theorem sameBundles_iff (t : Core.Config.Settings (SecretText κ)) :
    (∀ keys keys' : κ → List Char, Template.SameEmpty keys keys' →
        SameBundles (t.fill keys) (t.fill keys')) ↔
      ∀ f : Field, marked f.1.name = false → (t.value f).Plain := by
  rw [← redactedConfig_iff]
  exact ⟨fun h keys keys' hkeys => (h keys keys' hkeys).config,
    fun h keys keys' hkeys => sameBundles_of_config (h keys keys' hkeys)⟩

/-- 秘密を埋め込める URL の欄。 -/
def CREDENTIAL_URLS : List String :=
  ["DATABASE_URL", "DATABASE_URL_SYNC", "REDIS_URL", "CELERY_BROKER_URL", "CELERY_RESULT_BACKEND",
    "ALERT_WEBHOOK_URL", "ALERT_SLACK_URL", "SPLUNK_HEC_URL", "JIRA_URL"]

/-- URL の欄の名前には、秘密の印が無い。 -/
theorem not_marked_of_url : ∀ name ∈ CREDENTIAL_URLS, marked name = false := by
  have hall : CREDENTIAL_URLS.all (fun name => !marked name) = true := by decide +kernel
  exact fun name h => by simpa using List.all_eq_true.mp hall name h

/-- URL の欄に秘密があれば、bundle は秘密で変わる。 -/
theorem not_sameBundles_of_url {t : Core.Config.Settings (SecretText κ)} {f : Field}
    (hf : f.1.name ∈ CREDENTIAL_URLS) (hsecret : ¬(t.value f).Plain) :
    ¬ ∀ keys keys' : κ → List Char, Template.SameEmpty keys keys' →
        SameBundles (t.fill keys) (t.fill keys') := fun h =>
  hsecret ((sameBundles_iff t).mp h f (not_marked_of_url f.1.name hf))

end

/-! ## database の password -/

/-- 既定の形の `DATABASE_URL`。password を穴にする。 -/
def databaseUrl : SecretText Unit :=
  Template.ofList "postgresql+asyncpg://cipherpost:".toList ++
    .slot () :: Template.ofList "@db:5432/cipherpost".toList

/-- `DATABASE_URL` は文字列の欄である。 -/
theorem databaseUrl_type {f : Field} (h : f.1.name = "DATABASE_URL") : f.1.type = .str := by
  have hall : MODEL_FIELDS.all
      (fun f => decide (f.name = "DATABASE_URL" → f.type = .str)) = true := by decide +kernel
  exact of_decide_eq_true (List.all_eq_true.mp hall f.1 f.2) h

/-- `DATABASE_URL` のほかは既定の設定。 -/
def databaseSettings : Core.Config.Settings (SecretText Unit) where
  value f :=
    if f.1.name = "DATABASE_URL" then .str databaseUrl
    else (defaultSettings.value f).map fun s => Template.ofList s.toList
  typed f := by
    split
    · next h => rw [databaseUrl_type h]; rfl
    · rw [Core.Config.SettingValue.hasType_map]
      exact defaultSettings.typed f

def DATABASE_URL : Field :=
  ⟨⟨"DATABASE_URL", .str, .str "postgresql+asyncpg://cipherpost:cipherpost@db:5432/cipherpost"⟩,
    List.mem_iff_getElem?.mpr ⟨4, rfl⟩⟩

/-- database の password だけの違う設定から、違う値が出る。 -/
theorem not_sameBundles_database :
    ¬ ∀ (t : Core.Config.Settings (SecretText Unit)) (keys keys' : Unit → List Char),
        Template.SameEmpty keys keys' → SameBundles (t.fill keys) (t.fill keys') := by
  intro h
  have hsame := h databaseSettings (fun _ => "hunter2".toList) (fun _ => "s3cret".toList)
    fun _ => iff_of_false (by simp) (by simp)
  have hvalue := redactedConfig_eq_iff.mp hsame.config DATABASE_URL
  have hmark : marked DATABASE_URL.1.name = false := not_marked_of_url _ (by decide)
  unfold redactedValue at hvalue
  rw [hmark, if_neg Bool.false_ne_true, if_neg Bool.false_ne_true] at hvalue
  have htext : ∀ keys : Unit → List Char, (databaseSettings.fill keys).value DATABASE_URL =
      .str (Template.fill keys databaseUrl) := fun keys => rfl
  rw [htext, htext] at hvalue
  have hlen := congrArg List.length (ConfigEntry.str.inj hvalue)
  revert hlen
  decide

end CipherPost.Scripts
