import Mathlib.Data.List.Infix
import CipherPost.Api.MaskAddresses
import CipherPost.Core.Auth
import CipherPost.Core.Config
import CipherPost.Infra.JsonCodec

/-!
# 診断の bundle

`app/api/main.py` の `_redacted_config` と `diagnostics_bundle`。設定の欄は、名前に秘密の印のあるものだけを set と
unset に換え、ほかの値はそのまま出す。

* `redactedConfig` — `_redacted_config`
* `diagnosticsBundle` — `diagnostics_bundle`
* `redactedConfig_iff` — 秘密だけの違う設定から同じ値の出る条件
-/

namespace CipherPost.Api

open Core.Config (Field SettingValue SecretText MODEL_FIELDS)

/-! ## _redacted_config -/

/-- `out[k]`。 -/
inductive ConfigEntry where
  | null
  | bool (b : Bool)
  | int (n : Int)
  | float (x : ℚ)
  | str (s : List Char)
  deriving DecidableEq

def SECRET_MARKERS : List String := ["secret", "password", "token", "api_token", "private"]

/-- 名前に秘密の印がある。 -/
def marked (name : String) : Bool :=
  SECRET_MARKERS.any fun t => decide (t.toList <:+: name.toList.map Char.toLower)

/-- `bool(v)`。`Path` はいつも真である。 -/
def settingTruthy : SettingValue (List Char) → Bool
  | .none => false
  | .bool b => b
  | .int n => decide (n ≠ 0)
  | .float x => decide (x ≠ 0)
  | .str s => decide (s ≠ [])
  | .path _ => true

/-- 印の無い欄の値。JSON に無い型の値は `str(v)` になる。 -/
def settingEntry : SettingValue (List Char) → ConfigEntry
  | .none => .null
  | .bool b => .bool b
  | .int n => .int n
  | .float x => .float x
  | .str s => .str s
  | .path s => .str s

/-- 欄一つの値。 -/
def redactedValue (name : String) (v : SettingValue (List Char)) : ConfigEntry :=
  if marked name then .str (if settingTruthy v then "set".toList else "unset".toList)
  else settingEntry v

/-- `sorted(dir(settings))` のうちの、設定の欄。欄の名前は `_` で始まらない。 -/
def sortedFields : List Field :=
  MODEL_FIELDS.attach.mergeSort fun f g => decide (f.1.name ≤ g.1.name)

/-- `_redacted_config`。 -/
def redactedConfig (s : Core.Config.Settings (List Char)) : List (String × ConfigEntry) :=
  sortedFields.map fun f => (f.1.name, redactedValue f.1.name (s.value f))

/-! ## diagnostics_bundle -/

def ConfigEntry.json : ConfigEntry → Json
  | null => .null
  | bool b => .bool b
  | int n => .int n
  | float x => .float x
  | str s => .str (String.ofList s)

/-- `settings.APP_VERSION`。 -/
def APP_VERSION : Field :=
  ⟨⟨"APP_VERSION", .str, .str "0.3.0"⟩, List.mem_iff_getElem?.mpr ⟨1, rfl⟩⟩

def appVersion (s : Core.Config.Settings (List Char)) : String :=
  match settingEntry (s.value APP_VERSION) with
  | .str v => String.ofList v
  | _ => ""

/-- 設定によらない部分。件数と health は、例外のときはその文を持つ。 -/
structure DiagnosticsEnv where
  generatedAt : String
  counts : Json
  health : Json

/-- `diagnostics_bundle` の dict。 -/
def diagnosticsDict (env : DiagnosticsEnv) (ctx : Core.AuthContext)
    (s : Core.Config.Settings (List Char)) : Json :=
  .obj
    [("generated_at", .str env.generatedAt), ("cipherpost_version", .str (appVersion s)),
      ("org_id", .str ctx.orgId), ("generated_by", .str ctx.email),
      ("config", .obj ((redactedConfig s).map fun e => (e.1, e.2.json))), ("counts", env.counts),
      ("health", env.health),
      ("note", .str "Secrets redacted; addresses masked unless requested by an admin.")]

/-- `diagnostics_bundle`。 -/
def diagnosticsBundle (F : FloatRepr) (cls : CharClass) (env : DiagnosticsEnv)
    (ctx : Core.AuthContext) (s : Core.Config.Settings (List Char)) (includeAddresses : Bool) :
    Except Core.HttpError Json :=
  if Core.roleOrder ctx.role < Core.roleOrder "analyst" then .error ⟨403, "Insufficient role"⟩
  else if includeAddresses ∧ ctx.role ≠ "admin" then
    .error ⟨403, "Admins only for unmasked addresses"⟩
  else if includeAddresses then .ok (diagnosticsDict env ctx s)
  else
    let text := ((diagnosticsDict env ctx s).toValue F).write JsonText.Layout.standard 0
    match JsonText.loads (maskAddresses cls text) with
    | some v => .ok (Json.ofValue F v)
    | none => .error ⟨500, "Internal Server Error"⟩

/-! ## 秘密だけの違う設定 -/

/-- どの欄も出る。 -/
theorem mem_sortedFields (f : Field) : f ∈ sortedFields :=
  List.mem_mergeSort.mpr (List.mem_attach _ f)

/-- 値が同じなのは、どの欄でも同じときである。 -/
theorem redactedConfig_eq_iff {s s' : Core.Config.Settings (List Char)} :
    redactedConfig s = redactedConfig s' ↔
      ∀ f, redactedValue f.1.name (s.value f) = redactedValue f.1.name (s'.value f) := by
  unfold redactedConfig
  rw [List.map_inj_left]
  constructor
  · exact fun h f => congrArg Prod.snd (h f (mem_sortedFields f))
  · exact fun h f _ => congrArg (Prod.mk f.1.name) (h f)

section
variable {κ : Type} {keys keys' : κ → List Char}

/-- 空かどうかの同じ秘密では、値の真偽も同じである。 -/
theorem settingTruthy_fill (h : Template.SameEmpty keys keys') (v : SettingValue (SecretText κ)) :
    settingTruthy (v.map (Template.fill keys)) = settingTruthy (v.map (Template.fill keys')) := by
  cases v with
  | str t => exact decide_eq_decide.mpr (not_congr (Template.fill_eq_nil_congr h))
  | _ => rfl

/-- そのまま出る値が秘密によらないのは、値に秘密が無いときである。 -/
theorem settingEntry_iff (v : SettingValue (SecretText κ)) :
    (∀ keys keys' : κ → List Char, Template.SameEmpty keys keys' →
        settingEntry (v.map (Template.fill keys)) = settingEntry (v.map (Template.fill keys'))) ↔
      v.Plain := by
  cases v with
  | str t =>
    simp only [SettingValue.map, settingEntry, ConfigEntry.str.injEq, Template.fill_congr_iff]
    simp [SettingValue.Plain, SettingValue.text?]
  | path t =>
    simp only [SettingValue.map, settingEntry, ConfigEntry.str.injEq, Template.fill_congr_iff]
    simp [SettingValue.Plain, SettingValue.text?]
  | _ => exact iff_of_true (fun _ _ _ => rfl) (fun _ hs => nomatch hs)

/-- 出る値が秘密によらないのは、名前に印があるか、値に秘密が無いときである。 -/
theorem redactedValue_iff (name : String) (v : SettingValue (SecretText κ)) :
    (∀ keys keys' : κ → List Char, Template.SameEmpty keys keys' →
        redactedValue name (v.map (Template.fill keys)) =
          redactedValue name (v.map (Template.fill keys'))) ↔
      (marked name = false → v.Plain) := by
  unfold redactedValue
  cases marked name with
  | true =>
    refine iff_of_true (fun keys keys' h => ?_) (fun h => nomatch h)
    rw [if_pos rfl, if_pos rfl, settingTruthy_fill h]
  | false =>
    simp only [Bool.false_eq_true, if_false, true_imp_iff]
    exact settingEntry_iff v

/--
**秘密だけの違うどの二つの設定からも同じ値が出るのは、名前に印の無いどの欄の値にも秘密が無いときである。**
-/
theorem redactedConfig_iff (t : Core.Config.Settings (SecretText κ)) :
    (∀ keys keys' : κ → List Char, Template.SameEmpty keys keys' →
        redactedConfig (t.fill keys) = redactedConfig (t.fill keys')) ↔
      ∀ f : Field, marked f.1.name = false → (t.value f).Plain := by
  simp only [redactedConfig_eq_iff, ← redactedValue_iff]
  exact ⟨fun h f keys keys' hkeys => h keys keys' hkeys f,
    fun h keys keys' hkeys f => h f keys keys' hkeys⟩

end

/-- 出る値が同じなら、版も同じである。 -/
theorem appVersion_congr {s s' : Core.Config.Settings (List Char)}
    (h : redactedConfig s = redactedConfig s') : appVersion s = appVersion s' := by
  have hentry := redactedConfig_eq_iff.mp h APP_VERSION
  have hmark : marked APP_VERSION.1.name = false := by decide +kernel
  unfold redactedValue at hentry
  rw [hmark, if_neg Bool.false_ne_true, if_neg Bool.false_ne_true] at hentry
  rw [appVersion, appVersion, hentry]

/-- 診断の bundle は、設定のうち出る値だけで決まる。 -/
theorem diagnosticsBundle_congr {s s' : Core.Config.Settings (List Char)}
    (h : redactedConfig s = redactedConfig s') (F : FloatRepr) (cls : CharClass)
    (env : DiagnosticsEnv) (ctx : Core.AuthContext) (includeAddresses : Bool) :
    diagnosticsBundle F cls env ctx s includeAddresses =
      diagnosticsBundle F cls env ctx s' includeAddresses := by
  have hdict : diagnosticsDict env ctx s = diagnosticsDict env ctx s' := by
    unfold diagnosticsDict
    rw [h, appVersion_congr h]
  unfold diagnosticsBundle
  rw [hdict]

end CipherPost.Api
