import CipherPost.Live.Alerts
import CipherPost.Live.Analyze

/-!
# payload の最大の深刻度

worker は `max_severity` を文字列の `max` で選び、dispatcher は順位で比べる。二つの順序は
`critical < high < info < low < medium` と `info < low < medium < high < critical` で食い違う。

* `maxText_map_text` — worker の `max` は、辞書順の位置 `textRank` の最大である
* `maxSeverity_iff` — 選ばれた深刻度が最大の順位を持つ列の形
-/

namespace CipherPost.Live

namespace Severity

/-- 辞書順での位置。 -/
def textRank : Severity → Nat
  | critical => 0
  | high => 1
  | info => 2
  | low => 3
  | medium => 4

theorem text_lt_iff (a b : Severity) : decide (a.text < b.text) = decide (a.textRank < b.textRank) := by
  cases a <;> cases b <;> decide

/-- worker が深刻度の列から選ぶもの。 -/
def top (x : Severity) (l : List Severity) : Severity :=
  pyMax (fun a b => decide (a.textRank < b.textRank)) x l

theorem top_mem (x : Severity) (l : List Severity) : top x l ∈ x :: l := pyMax_mem l x

theorem textRank_le_top {x : Severity} {l : List Severity} :
    ∀ y ∈ x :: l, y.textRank ≤ (top x l).textRank :=
  le_pyMax (fun _ _ => decide_eq_true_iff) l x

end Severity

/-- worker の `max` は、辞書順の位置の最大である。 -/
theorem maxText_map_text (x : Severity) (l : List Severity) :
    maxText ((x :: l).map Severity.text) = (Severity.top x l).text :=
  pyMax_map (fun a b => Severity.text_lt_iff a b) l x

/-- 辞書順の最大が順位の最大でもあるのは、`critical` と `high` が混ざらないときである。 -/
theorem rank_le_top_iff (x : Severity) (l : List Severity) :
    (∀ t ∈ x :: l, t.rank ≤ (Severity.top x l).rank) ↔
      (Severity.critical ∈ x :: l → ∀ s ∈ x :: l, s = .critical) ∧
        (Severity.high ∈ x :: l → ∀ s ∈ x :: l, s = .high) := by
  have hmem := Severity.top_mem x l
  have htop := Severity.textRank_le_top (x := x) (l := l)
  generalize Severity.top x l = m at hmem htop
  constructor
  · intro hrank
    constructor
    · intro hc s hs
      have hm : m = .critical := by
        have := hrank _ hc
        revert this
        cases m <;> decide
      have := htop s hs
      rw [hm] at this
      revert this
      cases s <;> decide
    · intro hh s hs
      have hle := hrank _ hh
      have hle' := htop _ hh
      have hm : m = .high := by
        revert hle hle'
        cases m <;> decide
      have h₁ := hrank s hs
      have h₂ := htop s hs
      rw [hm] at h₁ h₂
      revert h₁ h₂
      cases s <;> decide
  · rintro ⟨hcrit, hhigh⟩ t ht
    have hc : t = .critical → m = .critical := fun he => hcrit (he ▸ ht) m hmem
    have hh : t = .high → m = .high := fun he => hhigh (he ▸ ht) m hmem
    have hle := htop t ht
    revert hc hh hle
    cases t <;> cases m <;> decide

/--
payload の `max_severity` が finding の最大の順位を持ち、どの finding についても、その順位以下の
閾値を持つ org の dispatcher が payload を受け付けるのは、`critical` も `high` も他の深刻度と
混ざらないとき、かつそのときに限る。
-/
theorem maxSeverity_iff (cfg : Config) (sessId : String) (org : Option String) (a : Analysis)
    (fs : List RuleFinding) (risk : Option Int) (isAnomaly : Bool) (now : Nat) (hne : fs ≠ []) :
    ((∃ s ∈ fs.map RuleFinding.severity,
        (findingsPayload sessId org a fs risk isAnomaly now).maxSeverity = .value s.text ∧
        ∀ t ∈ fs.map RuleFinding.severity, t.rank ≤ s.rank) ∧
      (∀ (env : Env), ∀ s ∈ fs.map RuleFinding.severity, ∀ t : Severity,
        (env.policyFor org).minSeverity = t.text → t.rank ≤ s.rank →
        env.shouldAlert cfg (findingsPayload sessId org a fs risk isAnomaly now) = true)) ↔
      (Severity.critical ∈ fs.map RuleFinding.severity →
        ∀ s ∈ fs.map RuleFinding.severity, s = .critical) ∧
      (Severity.high ∈ fs.map RuleFinding.severity →
        ∀ s ∈ fs.map RuleFinding.severity, s = .high) := by
  obtain ⟨f, l, rfl⟩ := List.exists_cons_of_ne_nil hne
  have hmax : (findingsPayload sessId org a (f :: l) risk isAnomaly now).maxSeverity
      = .value (Severity.top f.severity (l.map RuleFinding.severity)).text := by
    rw [← maxText_map_text, List.map_cons, List.map_map]
    rfl
  rw [List.map_cons, ← rank_le_top_iff]
  constructor
  · rintro ⟨⟨s, -, hs, hrank⟩, -⟩
    rw [hmax, Field.value.injEq] at hs
    rwa [Severity.text_injective hs]
  · intro hrank
    refine ⟨⟨_, Severity.top_mem _ _, hmax, hrank⟩, ?_⟩
    intro env s hs t ht hle
    have heff : (findingsPayload sessId org a (f :: l) risk isAnomaly now).effSeverity
        = (Severity.top f.severity (l.map RuleFinding.severity)).text := by
      have htruthy : truthy
          (findingsPayload sessId org a (f :: l) risk isAnomaly now).maxSeverity.get
          = some (Severity.top f.severity (l.map RuleFinding.severity)).text := by
        rw [hmax]
        exact truthy_eq_some.mpr ⟨rfl, Severity.text_ne_empty _⟩
      rw [Finding.effSeverity, Finding.maxOrSeverity, pyOr_of_truthy htruthy, orText,
        truthy_eq_some.mpr ⟨rfl, Severity.text_ne_empty _⟩]
      rfl
    have hpolicy : (env.policyFor
        (findingsPayload sessId org a (f :: l) risk isAnomaly now).orgId.get).minSeverity
        = t.text := by
      show (env.policyFor (Field.ofOption org).get).minSeverity = t.text
      rw [Field.get_ofOption, ht]
    have hs' := hrank s hs
    unfold Env.shouldAlert
    simp only [hpolicy, sevOrder?_text, Option.getD_some, heff, sevOrder_text, Bool.not_eq_true',
      decide_eq_false_iff_not]
    omega

/-- 深刻度だけの finding。 -/
def findingOf (s : Severity) : RuleFinding := { ruleId := "r", severity := s, title := "t" }

def smtpAnalysis (fs : List RuleFinding) : Analysis :=
  { fiveTuple := "10.0.0.1:40000->10.0.0.2:25", protocol := "SMTP", findings := fs }

/-- `medium` と `info` の列では条件が成り立つ。 -/
theorem maxSeverity_iff_medium :
    (∃ s ∈ [Severity.info, .medium],
      (findingsPayload "s" none (smtpAnalysis []) [findingOf .info, findingOf .medium] none false
        0).maxSeverity = .value s.text ∧ ∀ t ∈ [Severity.info, .medium], t.rank ≤ s.rank) :=
  ((maxSeverity_iff {} "s" none (smtpAnalysis []) [findingOf .info, findingOf .medium] none false 0
    (by decide)).mpr (by decide)).1

/-- `critical` と `medium` の session は `medium` として出され、閾値が `high` の org に届かない。 -/
theorem maxSeverity_critical_medium :
    (findingsPayload "s" none (smtpAnalysis []) [findingOf .critical, findingOf .medium] none false
      0).maxSeverity = .value "medium" ∧
    Severity.medium.rank < Severity.critical.rank ∧
    ({ now := 0 } : Env).policyFor none = { minSeverity := Severity.high.text } ∧
    ({ now := 0 } : Env).shouldAlert {} (findingsPayload "s" none (smtpAnalysis [])
      [findingOf .critical, findingOf .medium] none false 0) = false := by
  decide

end CipherPost.Live
