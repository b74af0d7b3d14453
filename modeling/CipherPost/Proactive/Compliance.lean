import Mathlib.Algebra.BigOperators.Group.List.Basic
import Mathlib.Data.String.Basic
import CipherPost.Infra.Glob
import CipherPost.Infra.Keyed
import CipherPost.Infra.Ranking

/-!
# 規格への対応

`app/proactive/compliance.py` と、その読む `compliance_data/mapping-v1.json`。表の key は rule の id か、終わりが
`*` の pattern であり、一つの id に二つの key が合えば、その札は続けて並ぶ。

* `RULE_COMPLIANCE` — 表。札の題・注・URL は持たない
* `complianceFor`・`summaryForFindings` — `compliance_for`・`summary_for_findings`
* `nodup_complianceFor_iff` — 札が重なるのは、ただ一つの id でだけである
* `groupsOf` — 項目ごとの組の辞書
* `Counted`・`counted_summary` — まとめの数え
-/

namespace CipherPost.Proactive

/-! ## 表 -/

/-- 規格の一項目。 -/
structure Tag where
  framework : String
  control : String
  deriving DecidableEq, Repr

/-- `FRAMEWORKS` の key。 -/
def FRAMEWORKS : List String :=
  ["CERT-In", "ISO-27001-2022", "NIST-CSF-2.0", "OWASP-TLS", "PCI-DSS-4.0"]

/-- `mapping_version`。 -/
def mappingVersion : Nat := 1

namespace Tag

def PCI_4_2 : Tag := ⟨"PCI-DSS-4.0", "4.2"⟩
def PCI_4_2_1 : Tag := ⟨"PCI-DSS-4.0", "4.2.1"⟩
def ISO_A_8_20 : Tag := ⟨"ISO-27001-2022", "A.8.20"⟩
def ISO_A_8_21 : Tag := ⟨"ISO-27001-2022", "A.8.21"⟩
def ISO_A_8_24 : Tag := ⟨"ISO-27001-2022", "A.8.24"⟩
def NIST_PR_DS_02 : Tag := ⟨"NIST-CSF-2.0", "PR.DS-02"⟩
def OWASP_PROTOCOL_VERSIONS : Tag := ⟨"OWASP-TLS", "protocol-versions"⟩
def OWASP_CIPHER_SUITES : Tag := ⟨"OWASP-TLS", "cipher-suites"⟩
def OWASP_CERTIFICATES : Tag := ⟨"OWASP-TLS", "certificates"⟩
def CERT_IN_TLS_CONFIGURATION : Tag := ⟨"CERT-In", "tls-configuration"⟩

/-- 表に現れる項目。 -/
def CONTROLS : List Tag :=
  [PCI_4_2, PCI_4_2_1, ISO_A_8_20, ISO_A_8_21, ISO_A_8_24, NIST_PR_DS_02, OWASP_PROTOCOL_VERSIONS,
    OWASP_CIPHER_SUITES, OWASP_CERTIFICATES, CERT_IN_TLS_CONFIGURATION]

end Tag

section
open Tag

/-- `RULE_COMPLIANCE`。 -/
def RULE_COMPLIANCE : List (String × List Tag) :=
  [("3des-cipher", [PCI_4_2, ISO_A_8_24, NIST_PR_DS_02]),
    ("alpn-not-negotiated", [OWASP_PROTOCOL_VERSIONS]), ("cert-expiry-forecast", [ISO_A_8_24]),
    ("certificate-not-yet-valid", [ISO_A_8_24]),
    ("client-no-pfs-suites", [OWASP_CIPHER_SUITES, ISO_A_8_21]), ("dane-*", [NIST_PR_DS_02]),
    ("denied-fingerprint-match", [ISO_A_8_20]),
    ("deprecated-group-*", [PCI_4_2, ISO_A_8_24, OWASP_CIPHER_SUITES]), ("digest-summary", []),
    ("downgrade-attack-detected", [PCI_4_2, ISO_A_8_20, NIST_PR_DS_02]),
    ("ech-observed", [ISO_A_8_20]), ("expired-certificate", [PCI_4_2, ISO_A_8_24, NIST_PR_DS_02]),
    ("export-grade-cipher", [PCI_4_2, ISO_A_8_24, NIST_PR_DS_02, OWASP_CIPHER_SUITES]),
    ("hrr-group-mismatch", [ISO_A_8_20]), ("legacy-compression-offered", [OWASP_PROTOCOL_VERSIONS]),
    ("mta-*", [NIST_PR_DS_02]), ("no-modern-pfs-group", [OWASP_CIPHER_SUITES, ISO_A_8_21]),
    ("no-tls-on-implicit-port", [PCI_4_2, ISO_A_8_21]),
    ("non-aead-bulk-cipher", [PCI_4_2, OWASP_CIPHER_SUITES]),
    ("non-pfs-key-exchange", [PCI_4_2, ISO_A_8_24, OWASP_CIPHER_SUITES]),
    ("outdated-client-stack", [OWASP_PROTOCOL_VERSIONS, ISO_A_8_21]),
    ("plaintext-mail-protocol", [PCI_4_2, ISO_A_8_20, NIST_PR_DS_02, CERT_IN_TLS_CONFIGURATION]),
    ("rc4-cipher", [PCI_4_2, ISO_A_8_24, OWASP_CIPHER_SUITES]),
    ("self-signed-certificate", [PCI_4_2, ISO_A_8_24, OWASP_CERTIFICATES]),
    ("short-public-key", [PCI_4_2, ISO_A_8_24, NIST_PR_DS_02]),
    ("starttls-strip-attempt", [PCI_4_2, ISO_A_8_20, NIST_PR_DS_02]),
    ("tls-handshake-incomplete", [ISO_A_8_20]),
    ("tls-version-*",
      [PCI_4_2_1, ISO_A_8_24, NIST_PR_DS_02, OWASP_PROTOCOL_VERSIONS, CERT_IN_TLS_CONFIGURATION]),
    ("tls-version-downgrade-suspected", [PCI_4_2_1, NIST_PR_DS_02]),
    ("tls13-not-negotiated", [OWASP_PROTOCOL_VERSIONS]), ("transport-misconfigured", [ISO_A_8_24]),
    ("transport-regression", [PCI_4_2, NIST_PR_DS_02]), ("unknown-cipher-suite", [ISO_A_8_21]),
    ("untrusted-certificate-chain", [PCI_4_2, ISO_A_8_24, CERT_IN_TLS_CONFIGURATION]),
    ("weak-cipher-suite", [PCI_4_2, ISO_A_8_24, OWASP_CIPHER_SUITES, CERT_IN_TLS_CONFIGURATION]),
    ("weak-signature-algorithm", [PCI_4_2, ISO_A_8_24, OWASP_CERTIFICATES])]

end

/-- `compliance_for`。 -/
def complianceFor (ruleId : String) : List Tag :=
  RULE_COMPLIANCE.flatMap fun e => if Glob.accepts e.1.toList ruleId.toList then e.2 else []

/-! ## まとめ -/

/-- `summary_for_findings` の読む finding。 -/
structure MappedFinding where
  ruleId : String
  severity : String
  deriving DecidableEq, Repr

/-- `summary_for_findings` の `framework`。空の文字列は無いのと同じである。 -/
def chosen (framework : Option String) : Option String := framework.filter fun fw => decide (fw ≠ "")

/-- finding の札のうち、選んだ規格のもの。 -/
def tagsFor (framework : Option String) (ruleId : String) : List Tag :=
  match chosen framework with
  | none => complianceFor ruleId
  | some fw => (complianceFor ruleId).filter fun t => decide (t.framework = fw)

/-- 項目ごとの組。 -/
structure ControlGroup extends Tag where
  count : Nat := 0
  severities : Dict String Nat := Dict.empty
  rules : List String := []
  deriving DecidableEq

/-- 組の key。 -/
def controlKey (t : Tag) : String := t.framework ++ ":" ++ t.control

/-- 札一つと、その finding。 -/
abbrev Hit := Tag × MappedFinding

/-- 新しい組。 -/
def ControlGroup.opened (h : Hit) : ControlGroup := { h.1 with }

/-- 組に finding を加える。`rules` は集合である。 -/
def ControlGroup.record (g : ControlGroup) (h : Hit) : ControlGroup :=
  { g with
    count := g.count + 1
    severities := g.severities.bump h.2.severity
    rules := if h.2.ruleId ∈ g.rules then g.rules else g.rules ++ [h.2.ruleId] }

/-- 札一つを組に入れる。 -/
def addHit : Dict String ControlGroup → Hit → Dict String ControlGroup :=
  Keyed.add (fun h => controlKey h.1) ControlGroup.opened ControlGroup.record

/-- finding 一つ。札が無ければ数えるだけである。 -/
def summaryStep (framework : Option String) (acc : Dict String ControlGroup × Nat)
    (f : MappedFinding) : Dict String ControlGroup × Nat :=
  let tags := tagsFor framework f.ruleId
  if tags = [] then (acc.1, acc.2 + 1)
  else (tags.foldl (fun groups t => addHit groups (t, f)) acc.1, acc.2)

/-- `sorted(g["rules"])`。 -/
def ControlGroup.finish (g : ControlGroup) : ControlGroup :=
  { g with rules := g.rules.mergeSort fun a b => decide (a ≤ b) }

/-- `summary_for_findings` の返す dict。`frameworks` は key だけを持つ。 -/
structure ComplianceSummary where
  frameworks : List String
  groups : List ControlGroup
  unmappedFindings : Nat
  deriving DecidableEq

/-- 返す規格。知らない規格では `KeyError` になる。 -/
def frameworksOf (framework : Option String) : Option (List String) :=
  match chosen framework with
  | none => some FRAMEWORKS
  | some fw => if fw ∈ FRAMEWORKS then some [fw] else none

/-- `summary_for_findings`。 -/
def summaryForFindings (findings : List MappedFinding) (framework : Option String) :
    Option ComplianceSummary :=
  let acc := findings.foldl (summaryStep framework) (Dict.empty, 0)
  (frameworksOf framework).map fun frameworks =>
    { frameworks
      groups := (acc.1.values.map ControlGroup.finish).mergeSort fun a b => decide (b.count ≤ a.count)
      unmappedFindings := acc.2 }

/-! ## 札の重なり -/

/-- 二つの key に合う、ただ一つの id。 -/
def DOUBLY_MAPPED : String := "tls-version-downgrade-suspected"

/-- 二度並ぶ札。 -/
def DOUBLED : List Tag := [Tag.PCI_4_2_1, Tag.NIST_PR_DS_02]

/-- 表を一度計算して分かること。前後の二つの key に同時に合う id は、`DOUBLY_MAPPED` だけである。 -/
theorem table_checked :
    (∀ e ∈ RULE_COMPLIANCE,
      Glob.Simple e.1.toList ∧ e.2.Nodup ∧ ∀ t ∈ e.2, t ∈ Tag.CONTROLS) ∧
    (RULE_COMPLIANCE.Pairwise fun e e' =>
      Glob.meets e.1.toList e'.1.toList = true → e'.1 = DOUBLY_MAPPED) ∧
    Glob.Plain DOUBLY_MAPPED.toList ∧
    complianceFor DOUBLY_MAPPED =
      [Tag.PCI_4_2_1, Tag.ISO_A_8_24, Tag.NIST_PR_DS_02, Tag.OWASP_PROTOCOL_VERSIONS,
        Tag.CERT_IN_TLS_CONFIGURATION, Tag.PCI_4_2_1, Tag.NIST_PR_DS_02] := by
  decide +kernel

theorem simple_of_mem {e : String × List Tag} (he : e ∈ RULE_COMPLIANCE) :
    Glob.Simple e.1.toList := (table_checked.1 e he).1

theorem pairwise_meets : RULE_COMPLIANCE.Pairwise fun e e' =>
    Glob.meets e.1.toList e'.1.toList = true → e'.1 = DOUBLY_MAPPED := table_checked.2.1

theorem complianceFor_eq (ruleId : String) : complianceFor ruleId =
    (RULE_COMPLIANCE.filter fun e => Glob.accepts e.1.toList ruleId.toList).flatMap Prod.snd := by
  rw [complianceFor]
  induction RULE_COMPLIANCE with
  | nil => rfl
  | cons e table ih =>
    rw [List.flatMap_cons, ih, List.filter_cons]
    split <;> rfl

/-- 他の id に合う key は、高々一つである。 -/
theorem complianceFor_cases {ruleId : String} (h : ruleId ≠ DOUBLY_MAPPED) :
    complianceFor ruleId = [] ∨ ∃ e ∈ RULE_COMPLIANCE, complianceFor ruleId = e.2 := by
  have hpair := pairwise_meets.filter fun e => Glob.accepts e.1.toList ruleId.toList
  have hmem : ∀ e ∈ RULE_COMPLIANCE.filter fun e => Glob.accepts e.1.toList ruleId.toList,
      e ∈ RULE_COMPLIANCE ∧ Glob.accepts e.1.toList ruleId.toList = true := fun e he =>
    List.mem_filter.mp he
  rw [complianceFor_eq]
  cases hfilter : RULE_COMPLIANCE.filter fun e => Glob.accepts e.1.toList ruleId.toList with
  | nil => exact .inl rfl
  | cons e rest =>
    rw [hfilter] at hpair hmem
    refine .inr ⟨e, (hmem e List.mem_cons_self).1, ?_⟩
    cases rest with
    | nil => rw [List.flatMap_singleton]
    | cons e' rest =>
      exfalso
      obtain ⟨he, haccepts⟩ := hmem e List.mem_cons_self
      obtain ⟨he', haccepts'⟩ := hmem e' (List.mem_cons_of_mem _ List.mem_cons_self)
      have hdouble := (List.pairwise_cons.mp hpair).1 e' List.mem_cons_self
        (Glob.meets_of_accepts (simple_of_mem he) (simple_of_mem he') haccepts haccepts')
      rw [hdouble, Glob.accepts_plain table_checked.2.2.1] at haccepts'
      exact h (String.toList_inj.mp haccepts')

theorem complianceFor_doublyMapped : complianceFor DOUBLY_MAPPED =
    [Tag.PCI_4_2_1, Tag.ISO_A_8_24, Tag.NIST_PR_DS_02, Tag.OWASP_PROTOCOL_VERSIONS,
      Tag.CERT_IN_TLS_CONFIGURATION, Tag.PCI_4_2_1, Tag.NIST_PR_DS_02] := table_checked.2.2.2

/-- **札が重なるのは、`tls-version-downgrade-suspected` だけである。** -/
theorem nodup_complianceFor_iff (ruleId : String) :
    (complianceFor ruleId).Nodup ↔ ruleId ≠ DOUBLY_MAPPED := by
  constructor
  · rintro hnodup rfl
    rw [complianceFor_doublyMapped] at hnodup
    revert hnodup
    decide
  · intro h
    rcases complianceFor_cases h with hnil | ⟨e, he, heq⟩
    · rw [hnil]
      exact List.nodup_nil
    · rw [heq]
      exact (table_checked.1 e he).2.1

/-! ## 選んだ札 -/

section
variable {framework : Option String}

theorem sublist_tagsFor (framework : Option String) (ruleId : String) :
    (tagsFor framework ruleId).Sublist (complianceFor ruleId) := by
  unfold tagsFor
  split
  · exact List.Sublist.refl _
  · exact List.filter_sublist

theorem mem_controls_complianceFor {ruleId : String} {t : Tag} (h : t ∈ complianceFor ruleId) :
    t ∈ Tag.CONTROLS := by
  obtain ⟨e, he, ht⟩ := List.mem_flatMap.mp h
  split at ht
  · exact (table_checked.1 e he).2.2 t ht
  · cases ht

theorem mem_controls {ruleId : String} {t : Tag} (h : t ∈ tagsFor framework ruleId) :
    t ∈ Tag.CONTROLS :=
  mem_controls_complianceFor ((sublist_tagsFor framework ruleId).subset h)

/-- 選んだ規格は、札の規格だけで決まる。 -/
theorem mem_tagsFor_iff {ruleId : String} {t : Tag} : t ∈ tagsFor framework ruleId ↔
    t ∈ complianceFor ruleId ∧ ∀ fw ∈ chosen framework, t.framework = fw := by
  unfold tagsFor
  cases chosen framework with
  | none => simp
  | some fw => simp [List.mem_filter]

theorem count_doublyMapped : ∀ t ∈ Tag.CONTROLS, (complianceFor DOUBLY_MAPPED).count t =
    (if t ∈ complianceFor DOUBLY_MAPPED then 1 else 0) + if t ∈ DOUBLED then 1 else 0 := by
  rw [complianceFor_doublyMapped]
  decide +kernel

/-- 札の数。重なるのは `DOUBLY_MAPPED` の二つの札だけである。 -/
theorem count_complianceFor (ruleId : String) {t : Tag} (ht : t ∈ Tag.CONTROLS) :
    (complianceFor ruleId).count t = (if t ∈ complianceFor ruleId then 1 else 0) +
      if t ∈ DOUBLED ∧ ruleId = DOUBLY_MAPPED then 1 else 0 := by
  by_cases h : ruleId = DOUBLY_MAPPED
  · subst h
    simp only [count_doublyMapped t ht, and_true]
  · rw [List.Nodup.count ((nodup_complianceFor_iff ruleId).mpr h)]
    simp only [h, and_false, if_false, Nat.add_zero]

/-- 選んだ規格の札は、そのまま残る。 -/
theorem count_tagsFor {ruleId : String} {t : Tag} (hfw : ∀ fw ∈ chosen framework, t.framework = fw) :
    (tagsFor framework ruleId).count t = (complianceFor ruleId).count t := by
  unfold tagsFor
  cases hchosen : chosen framework with
  | none => rfl
  | some fw => exact List.count_filter (decide_eq_true (hfw fw hchosen))

end

/-! ## 組 -/

section
variable {framework : Option String} {findings : List MappedFinding}

/-- 札と finding の組の列。 -/
def hits (framework : Option String) (findings : List MappedFinding) : List Hit :=
  findings.flatMap fun f => (tagsFor framework f.ruleId).map fun t => (t, f)

theorem mem_hits {t : Tag} {f : MappedFinding} :
    (t, f) ∈ hits framework findings ↔ f ∈ findings ∧ t ∈ tagsFor framework f.ruleId := by
  simp only [hits, List.mem_flatMap, List.mem_map, Prod.mk.injEq]
  constructor
  · rintro ⟨f', hf, t', ht, rfl, rfl⟩
    exact ⟨hf, ht⟩
  · rintro ⟨hf, ht⟩
    exact ⟨f, hf, t, ht, rfl, rfl⟩

/-- 二重の loop は、組の列を順に加える。 -/
theorem foldl_summaryStep (framework : Option String) : ∀ (findings : List MappedFinding)
    (groups : Dict String ControlGroup) (n : Nat),
    findings.foldl (summaryStep framework) (groups, n) =
      ((hits framework findings).foldl addHit groups,
        n + findings.countP fun f => decide (tagsFor framework f.ruleId = []))
  | [], _, _ => rfl
  | f :: findings, groups, n => by
    rw [List.foldl_cons, List.countP_cons, summaryStep]
    have hcons : hits framework (f :: findings) =
        ((tagsFor framework f.ruleId).map fun t => (t, f)) ++ hits framework findings := rfl
    rw [hcons, List.foldl_append, List.foldl_map]
    by_cases htags : tagsFor framework f.ruleId = []
    · rw [if_pos htags, foldl_summaryStep framework findings, htags]
      simp only [List.foldl_nil, decide_true, if_true, Prod.mk.injEq, true_and]
      omega
    · rw [if_neg htags, foldl_summaryStep framework findings, decide_eq_false htags]
      rfl

/-- key は、表の項目を区別する。 -/
theorem controlKey_inj : ∀ t ∈ Tag.CONTROLS, ∀ t' ∈ Tag.CONTROLS,
    controlKey t = controlKey t' → t = t' := by
  decide +kernel

/-- 組の辞書。 -/
def groupsOf (framework : Option String) (findings : List MappedFinding) : Dict String ControlGroup :=
  Keyed.of (fun h => controlKey h.1) ControlGroup.opened ControlGroup.record (hits framework findings)

/-- 項目の組に入る finding。 -/
theorem mem_members_iff {t : Tag} (ht : t ∈ Tag.CONTROLS) {h : Hit} :
    h ∈ Keyed.members (fun h : Hit => controlKey h.1) (hits framework findings) (controlKey t) ↔
      h.1 = t ∧ h.2 ∈ findings ∧ t ∈ tagsFor framework h.2.ruleId := by
  obtain ⟨t', f⟩ := h
  rw [Keyed.mem_members, mem_hits]
  constructor
  · rintro ⟨⟨hf, ht'⟩, hkey⟩
    obtain rfl := controlKey_inj t' (mem_controls ht') t ht hkey
    exact ⟨rfl, hf, ht'⟩
  · rintro ⟨rfl, hf, ht'⟩
    exact ⟨⟨hf, ht'⟩, rfl⟩

theorem foldl_record_tag : ∀ (hs : List Hit) (g : ControlGroup),
    (hs.foldl ControlGroup.record g).toTag = g.toTag
  | [], _ => rfl
  | _ :: hs, _ => foldl_record_tag hs _

/-- 組は、その項目の key にある。 -/
theorem get?_groupsOf {k : String} {g : ControlGroup} (h : (groupsOf framework findings).get? k = some g) :
    k = controlKey g.toTag ∧ g.toTag ∈ Tag.CONTROLS := by
  obtain ⟨x, rest, hmem, rfl⟩ := Keyed.members_of_get? h
  have hx : x ∈ Keyed.members (fun h : Hit => controlKey h.1) (hits framework findings) k := by
    rw [hmem]
    exact List.mem_cons_self
  obtain ⟨hmemHits, hkey⟩ := Keyed.mem_members.mp hx
  rw [foldl_record_tag]
  exact ⟨hkey.symm, mem_controls (mem_hits.mp hmemHits).2⟩

/-- 項目の組があるのは、その札を持つ finding があるときである。 -/
theorem isSome_groupsOf {t : Tag} (ht : t ∈ Tag.CONTROLS) :
    ((groupsOf framework findings).get? (controlKey t)).isSome = true ↔
      ∃ f ∈ findings, t ∈ tagsFor framework f.ruleId := by
  rw [groupsOf, Keyed.get?_of, Option.isSome_iff_ne_none, ne_eq, Keyed.folded_eq_none_iff,
    List.eq_nil_iff_forall_not_mem, not_forall]
  simp only [not_not, mem_members_iff ht]
  constructor
  · rintro ⟨⟨t', f⟩, rfl, hf, htags⟩
    exact ⟨f, hf, htags⟩
  · rintro ⟨f, hf, htags⟩
    exact ⟨(t, f), rfl, hf, htags⟩

end

/-! ## まとめの数え -/

/-- **まとめは、どの finding も一度だけ数え、組はその項目の札を持つ finding からなる。** -/
structure Counted (framework : Option String) (findings : List MappedFinding)
    (s : ComplianceSummary) : Prop where
  unmapped : s.unmappedFindings = findings.countP fun f => decide (tagsFor framework f.ruleId = [])
  nodup : (s.groups.map ControlGroup.toTag).Nodup
  tags : ∀ t : Tag, (∃ g ∈ s.groups, g.toTag = t) ↔ ∃ f ∈ findings, t ∈ tagsFor framework f.ruleId
  /-- 二つの key に合う id の finding は、`DOUBLED` の項目で二度数えられる。 -/
  count : ∀ g ∈ s.groups, g.count =
    (findings.countP fun f => decide (g.toTag ∈ tagsFor framework f.ruleId)) +
      if g.toTag ∈ DOUBLED then findings.countP fun f => decide (f.ruleId = DOUBLY_MAPPED) else 0
  severities : ∀ g ∈ s.groups, g.severities.values.sum = g.count ∧
    ∀ sev, (g.severities.get? sev).isSome = true ↔
      ∃ f ∈ findings, g.toTag ∈ tagsFor framework f.ruleId ∧ f.severity = sev
  rules : ∀ g ∈ s.groups, g.rules.Pairwise (· < ·) ∧
    ∀ r, r ∈ g.rules ↔ ∃ f ∈ findings, g.toTag ∈ tagsFor framework f.ruleId ∧ f.ruleId = r
  sorted : s.groups.Pairwise fun a b => b.count ≤ a.count

section
variable {framework : Option String} {findings : List MappedFinding}

/-- 組に入る finding の札は、選んだ規格のものである。 -/
theorem framework_groupsOf {k : String} {g : ControlGroup}
    (h : (groupsOf framework findings).get? k = some g) :
    ∀ fw ∈ chosen framework, g.framework = fw := by
  obtain ⟨rfl, htag⟩ := get?_groupsOf h
  obtain ⟨f, -, ht⟩ := (isSome_groupsOf htag).mp (Option.isSome_of_eq_some h)
  exact (mem_tagsFor_iff.mp ht).2

/-- 札の数の和は、札を持つ finding の数に、二度並ぶものを加えたものである。 -/
theorem sum_count {t : Tag} (ht : t ∈ Tag.CONTROLS) (hfw : ∀ fw ∈ chosen framework, t.framework = fw) :
    ∀ findings : List MappedFinding,
      (findings.map fun f => (tagsFor framework f.ruleId).count t).sum =
        (findings.countP fun f => decide (t ∈ tagsFor framework f.ruleId)) +
          if t ∈ DOUBLED then findings.countP fun f => decide (f.ruleId = DOUBLY_MAPPED) else 0
  | [] => by simp
  | f :: findings => by
    rw [List.map_cons, List.sum_cons, sum_count ht hfw findings, count_tagsFor hfw,
      count_complianceFor f.ruleId ht, List.countP_cons, List.countP_cons]
    have hmem : t ∈ tagsFor framework f.ruleId ↔ t ∈ complianceFor f.ruleId :=
      mem_tagsFor_iff.trans (and_iff_left hfw)
    simp only [hmem, decide_eq_true_eq]
    by_cases hdoubled : t ∈ DOUBLED
    · simp only [hdoubled, true_and, if_true]
      omega
    · simp only [hdoubled, false_and, if_false]
      omega

/-- 組の数は、その札の数である。 -/
theorem count_groupsOf {k : String} {g : ControlGroup}
    (h : (groupsOf framework findings).get? k = some g) :
    g.count = (findings.map fun f => (tagsFor framework f.ruleId).count g.toTag).sum := by
  obtain ⟨rfl, htag⟩ := get?_groupsOf h
  have hcount : g.count = (Keyed.members (fun h : Hit => controlKey h.1)
      (hits framework findings) (controlKey g.toTag)).length := by
    have hsum := @Keyed.measure_of _ _ _ _ _ _ _ ControlGroup.count (fun _ => 1) (fun _ => rfl)
      (fun _ _ => rfl) _ _ _ h
    simpa using hsum
  have hmembers : Keyed.members (fun h : Hit => controlKey h.1) (hits framework findings)
      (controlKey g.toTag) = (hits framework findings).filter fun h => decide (h.1 = g.toTag) := by
    refine List.filter_congr fun h hh => decide_eq_decide.mpr ⟨?_, congrArg controlKey⟩
    exact controlKey_inj h.1 (mem_controls (mem_hits.mp hh).2) g.toTag htag
  rw [hcount, hmembers, ← List.countP_eq_length_filter, hits, List.countP_flatMap]
  refine congrArg List.sum (List.map_congr_left fun f _ => ?_)
  rw [Function.comp_apply, List.countP_map, List.count_eq_countP]
  rfl

/-- 組の finding は、その項目の札を持つものである。 -/
theorem exists_members_iff {t : Tag} (ht : t ∈ Tag.CONTROLS) {q : MappedFinding → Prop} :
    (∃ h ∈ Keyed.members (fun h : Hit => controlKey h.1) (hits framework findings) (controlKey t),
      q h.2) ↔ ∃ f ∈ findings, t ∈ tagsFor framework f.ruleId ∧ q f := by
  simp only [mem_members_iff ht]
  constructor
  · rintro ⟨h, ⟨-, hf, htags⟩, hq⟩
    exact ⟨h.2, hf, htags, hq⟩
  · rintro ⟨f, hf, htags, hq⟩
    exact ⟨(t, f), ⟨rfl, hf, htags⟩, hq⟩

/-- 深刻度ごとの数の和は、組の数である。 -/
theorem severities_groupsOf {k : String} {g : ControlGroup}
    (h : (groupsOf framework findings).get? k = some g) : g.severities.values.sum = g.count ∧
      ∀ sev, (g.severities.get? sev).isSome = true ↔
        ∃ f ∈ findings, g.toTag ∈ tagsFor framework f.ruleId ∧ f.severity = sev := by
  obtain ⟨rfl, htag⟩ := get?_groupsOf h
  refine ⟨?_, fun sev => ?_⟩
  · refine @Keyed.invariant_of _ _ _ _ _ _ _ (fun g => g.severities.values.sum = g.count)
      (fun _ => rfl) (fun g x hg => ?_) _ _ _ h
    show (g.severities.bump x.2.severity).values.sum = g.count + 1
    rw [Dict.sum_values_bump, hg]
  · rw [← exists_members_iff htag]
    refine @Keyed.exists_of _ _ _ _ _ _ _ (fun g => (g.severities.get? sev).isSome = true)
      (fun h => h.2.severity = sev) (fun _ => Bool.false_ne_true) (fun g x => ?_) _ _ _ h
    show ((g.severities.bump x.2.severity).get? sev).isSome = true ↔ _
    rw [Dict.bump, Dict.get?_set]
    by_cases hsev : x.2.severity = sev
    · simp [hsev]
    · simp [hsev]

/-- 並べる前の rule は重ならず、その項目の札を持つ finding の rule である。 -/
theorem rules_groupsOf {k : String} {g : ControlGroup}
    (h : (groupsOf framework findings).get? k = some g) : g.rules.Nodup ∧
      ∀ r, r ∈ g.rules ↔ ∃ f ∈ findings, g.toTag ∈ tagsFor framework f.ruleId ∧ f.ruleId = r := by
  obtain ⟨rfl, htag⟩ := get?_groupsOf h
  refine ⟨?_, fun r => ?_⟩
  · refine @Keyed.invariant_of _ _ _ _ _ _ _ (fun g => g.rules.Nodup)
      (fun _ => List.nodup_nil) (fun g x hg => ?_) _ _ _ h
    show (if x.2.ruleId ∈ g.rules then g.rules else g.rules ++ [x.2.ruleId]).Nodup
    split
    · exact hg
    · next hnew =>
      refine List.nodup_append.mpr ⟨hg, List.pairwise_singleton _ _, ?_⟩
      rintro a ha b hb rfl
      exact hnew (List.mem_singleton.mp hb ▸ ha)
  · rw [← exists_members_iff htag]
    refine @Keyed.exists_of _ _ _ _ _ _ _ (fun g => r ∈ g.rules) (fun h => h.2.ruleId = r)
      (fun _ => List.not_mem_nil) (fun g x => ?_) _ _ _ h
    show r ∈ (if x.2.ruleId ∈ g.rules then g.rules else g.rules ++ [x.2.ruleId]) ↔ _
    split
    · next hold =>
      refine ⟨.inl, fun hor => hor.elim id ?_⟩
      rintro rfl
      exact hold
    · rw [List.mem_append, List.mem_singleton]
      exact or_congr_right eq_comm

/-- まとめの組は、組の辞書の値である。 -/
theorem groups_eq {s : ComplianceSummary} (h : summaryForFindings findings framework = some s) :
    s.unmappedFindings = (findings.countP fun f => decide (tagsFor framework f.ruleId = [])) ∧
      s.groups = ((groupsOf framework findings).values.map ControlGroup.finish).mergeSort
        fun a b => decide (b.count ≤ a.count) := by
  obtain ⟨frameworks, -, rfl⟩ := Option.map_eq_some_iff.mp h
  rw [foldl_summaryStep]
  exact ⟨Nat.zero_add _, rfl⟩

/-- まとめの組の、並べる前の姿。 -/
theorem mem_groups {s : ComplianceSummary} (h : summaryForFindings findings framework = some s)
    {g : ControlGroup} : g ∈ s.groups ↔
      ∃ k g₀, (groupsOf framework findings).get? k = some g₀ ∧ g₀.finish = g := by
  rw [(groups_eq h).2, List.mem_mergeSort, List.mem_map]
  simp only [Dict.mem_values_iff]
  constructor
  · rintro ⟨g₀, ⟨k, hk⟩, rfl⟩
    exact ⟨k, g₀, hk, rfl⟩
  · rintro ⟨k, g₀, hk, rfl⟩
    exact ⟨g₀, ⟨k, hk⟩, rfl⟩

/-- 組の項目は重ならない。 -/
theorem nodup_groupsOf : ((groupsOf framework findings).values.map ControlGroup.toTag).Nodup := by
  have hkeys := (groupsOf framework findings).nodup
  rw [Dict.values, List.map_map]
  rw [List.Nodup, List.pairwise_map] at hkeys ⊢
  refine hkeys.imp_of_mem fun {a b} ha hb hne htag => hne ?_
  obtain ⟨k, g⟩ := a
  obtain ⟨k', g'⟩ := b
  have hk := (get?_groupsOf ((Dict.mem_entries_iff _ _ _).mp ha)).1
  have hk' := (get?_groupsOf ((Dict.mem_entries_iff _ _ _).mp hb)).1
  exact hk.trans ((congrArg controlKey htag).trans hk'.symm)

/--
**まとめの数え。** 知っている規格を選ぶか、どれも選ばなければ、札の無い finding だけが `unmapped_findings` に
数えられ、組は項目ごとに一つで、その数は札を持つ finding の数である。ただし `tls-version-downgrade-suspected`
は、PCI DSS 4.2.1 と NIST PR.DS-02 の組で二度数えられる。
-/
theorem counted_summary (findings : List MappedFinding) {framework : Option String}
    (h : ∀ fw ∈ chosen framework, fw ∈ FRAMEWORKS) :
    ∃ s, summaryForFindings findings framework = some s ∧ Counted framework findings s := by
  obtain ⟨frameworks, hframeworks⟩ : ∃ names, frameworksOf framework = some names := by
    unfold frameworksOf
    cases hchosen : chosen framework with
    | none => exact ⟨_, rfl⟩
    | some fw => exact ⟨_, if_pos (h fw hchosen)⟩
  obtain ⟨s, hs⟩ : ∃ s, summaryForFindings findings framework = some s :=
    ⟨_, Option.map_eq_some_iff.mpr ⟨frameworks, hframeworks, rfl⟩⟩
  have htags : (s.groups.map ControlGroup.toTag).Perm
      ((groupsOf framework findings).values.map ControlGroup.toTag) := by
    rw [(groups_eq hs).2]
    refine ((List.mergeSort_perm _ _).map _).trans ?_
    rw [List.map_map]
    exact List.Perm.refl _
  refine ⟨s, hs, (groups_eq hs).1, htags.nodup_iff.mpr nodup_groupsOf, fun t => ?_, ?_, ?_, ?_, ?_⟩
  · simp only [mem_groups hs]
    constructor
    · rintro ⟨_, ⟨k, g, hg, rfl⟩, rfl⟩
      obtain ⟨rfl, htag⟩ := get?_groupsOf hg
      exact (isSome_groupsOf htag).mp (Option.isSome_of_eq_some hg)
    · rintro ⟨f, hf, ht⟩
      obtain ⟨g, hg⟩ := Option.isSome_iff_exists.mp
        ((isSome_groupsOf (mem_controls ht)).mpr ⟨f, hf, ht⟩)
      have hkey := get?_groupsOf hg
      exact ⟨g.finish, ⟨_, g, hg, rfl⟩, (controlKey_inj t (mem_controls ht) _ hkey.2 hkey.1).symm⟩
  · rintro _ hmem
    obtain ⟨k, g, hg, rfl⟩ := (mem_groups hs).mp hmem
    exact (count_groupsOf hg).trans (sum_count (get?_groupsOf hg).2 (framework_groupsOf hg) findings)
  · rintro _ hmem
    obtain ⟨k, g, hg, rfl⟩ := (mem_groups hs).mp hmem
    exact (severities_groupsOf hg :)
  · rintro _ hmem
    obtain ⟨k, g, hg, rfl⟩ := (mem_groups hs).mp hmem
    obtain ⟨hnodup, hmemRules⟩ := rules_groupsOf hg
    refine ⟨Ranking.pairwise_lt_mergeSort hnodup, fun r => ?_⟩
    exact List.mem_mergeSort.trans (hmemRules r)
  · rw [(groups_eq hs).2]
    refine (List.pairwise_mergeSort ?_ ?_ _).imp of_decide_eq_true
    · intro a b c hab hbc
      exact decide_eq_true (Nat.le_trans (of_decide_eq_true hbc) (of_decide_eq_true hab))
    · intro a b
      rw [Bool.or_eq_true, decide_eq_true_iff, decide_eq_true_iff]
      exact Nat.le_total b.count a.count

end

end CipherPost.Proactive
