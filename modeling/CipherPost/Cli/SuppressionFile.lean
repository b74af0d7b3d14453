import CipherPost.Cli.ExitStatus

/-!
# suppression のファイル

`load_suppressions` は、`expires_at` を文字列のまま `SimpleNamespace` に置く。`is_active` の `replace` は文字列には
例外になるので、ファイルの suppression はどれも有効にならない。

* `active_loadSuppressions` — ファイルの suppression は有効でない
* `mark_of_loadSuppressions` — どの finding にも印が付かない
* `fileApplies_iff` — ファイルの書いたとおりに印が付く条件
-/

namespace CipherPost.Cli

open Proactive Live

variable {lib : MatchLib} {now : Nat} {file : Option Json} {sups : List Namespace}

/-- ファイルの suppression の rule と scope が `f` に合う。 -/
def Namespace.Covers (lib : MatchLib) (fiveTuple : String) (f : ReportFinding) (s : Namespace) :
    Prop :=
  s.ruleHit f.ruleId = true ∧ s.scopeHit lib (fiveTupleOnly fiveTuple) = some true

/-- **ファイルの suppression は、いつでも有効でない。** -/
theorem active_loadSuppressions (h : loadSuppressions file = some sups) :
    ∀ s ∈ sups, s.active now = false := by
  intro s hs
  have hentry : ∃ i entry, readEntry i entry = some s := by
    unfold loadSuppressions at h
    split at h
    · cases h
      cases hs
    · split at h
      · obtain ⟨items, -, hitems⟩ := Option.bind_eq_some_iff.mp h
        obtain ⟨e, -, he⟩ := (Aligned.mem_mapM_iff hitems).mp hs
        exact ⟨e.2, e.1, he⟩
      · cases h
        cases hs
  obtain ⟨i, entry, hread⟩ := hentry
  cases entry with
  | obj fields =>
    cases hread
    exact isActiveAt_text now _ _
  | null | bool | int | float | str | arr => cases hread

theorem not_applies_loadSuppressions (h : loadSuppressions file = some sups) {fiveTuple : String}
    {f : ReportFinding} : ¬∃ s ∈ sups, s.Applies lib now fiveTuple f := by
  rintro ⟨s, hs, -, hactive, -⟩
  rw [active_loadSuppressions h s hs] at hactive
  cases hactive

section
variable {report : Report ReportFinding} {baseline : Json} {filtered : Report Marked}

/-- ファイルの suppression からは、どの finding にも印が付かない。 -/
theorem mark_of_loadSuppressions (hload : loadSuppressions file = some sups)
    (hfilter : applyFilters lib now report baseline sups = some filtered) {fiveTuple : String}
    {m : Marked} (hm : filtered.Has fiveTuple m) : m.mark = none := by
  obtain ⟨ignored, -, hhas⟩ := has_applyFilters_iff hfilter
  obtain ⟨-, hfound⟩ := (hhas fiveTuple m).mp hm
  obtain ⟨-, -, hit, hmatch, hmark⟩ := filterFinding_eq_some_iff.mp hfound
  cases hit with
  | none => exact hmark
  | some s =>
    have happlies := (matchNamespace_isSome_iff hmatch).mp rfl
    exact absurd happlies (not_applies_loadSuppressions hload)

end

/-! ## 約束 -/

/-- **ファイルの書いたとおりに印が付き、印の付いた finding は exit status に数えられない。** -/
structure FileApplies (lib : MatchLib) (report : Report ReportFinding) (baseline : Json)
    (sups : List Namespace) (filtered : Report Marked) : Prop where
  marked : ∀ fiveTuple m, filtered.Has fiveTuple m →
    (m.mark.isSome = true ↔ ∃ s ∈ sups, s.Covers lib fiveTuple m.finding)
  exit : ∀ format failOn, formatOf lib format ∈ FORMATS →
    (finishScan lib format failOn filtered = EXIT_FINDINGS ↔ ∃ fiveTuple f,
      report.Has fiveTuple f ∧ ¬Ignored baseline fiveTuple f ∧
        (¬∃ s ∈ sups, s.Covers lib fiveTuple f) ∧
          (sevOrder? (thresholdOf lib failOn)).getD 3 ≤ sevOrder f.severity)

section
variable {report : Report ReportFinding} {baseline : Json} {filtered : Report Marked}

/-- **約束が守られるのは、baseline の残す finding に、ファイルのどの suppression も合わないときだけである。** -/
theorem fileApplies_iff (hrank : NoSentinel report) (hload : loadSuppressions file = some sups)
    (hfilter : applyFilters lib now report baseline sups = some filtered) :
    FileApplies lib report baseline sups filtered ↔ ∀ fiveTuple f, report.Has fiveTuple f →
      ¬Ignored baseline fiveTuple f → ∀ s ∈ sups, ¬s.Covers lib fiveTuple f := by
  constructor
  · intro h fiveTuple f hf hkeep s hs hcovers
    have hhas := has_unmarked hfilter hf hkeep (not_applies_loadSuppressions hload)
    exact absurd ((h.marked fiveTuple ⟨f, none⟩ hhas).mpr ⟨s, hs, hcovers⟩) Bool.false_ne_true
  · intro h
    obtain ⟨ignored, hignored, hhas⟩ := has_applyFilters_iff hfilter
    refine ⟨fun fiveTuple m hm => ?_, fun format failOn hformat => ?_⟩
    · obtain ⟨hf, hfound⟩ := (hhas fiveTuple m).mp hm
      obtain ⟨hkeep, -⟩ := filterFinding_eq_some_iff.mp hfound
      have hnot : ¬Ignored baseline fiveTuple m.finding := by
        rw [← ignores_iff hignored, hkeep]
        exact Bool.false_ne_true
      rw [mark_of_loadSuppressions hload hfilter hm]
      refine iff_of_false Bool.false_ne_true ?_
      rintro ⟨s, hs, hcovers⟩
      exact h fiveTuple m.finding hf hnot s hs hcovers
    · rw [finishScan_eq_findings_iff hrank hfilter hformat]
      refine exists_congr fun fiveTuple => exists_congr fun f => and_congr_right fun hf =>
        and_congr_right fun hkeep => and_congr_left fun _ => ?_
      refine iff_of_true (not_applies_loadSuppressions hload) ?_
      rintro ⟨s, hs, hcovers⟩
      exact h fiveTuple f hf hkeep s hs hcovers

end

/-! ## 書いたとおりにならないファイル -/

/-- 一つの rule と host を書いたファイル。 -/
def hostFile (ruleId : String) : Json :=
  .obj [("suppressions", .arr
    [.obj [("rule_id", .str ruleId), ("scope", .obj [("hosts", .arr [.str "10.0.0.2"])])]])]

/-- `hostFile` の suppression。 -/
def hostNamespace (ruleId : String) : Namespace where
  id := "file-0"
  ruleId := .str ruleId
  scope := .obj [("hosts", .arr [.str "10.0.0.2"])]
  status := "approved"
  expiresAt := .text "2099-01-01T00:00:00+00:00"

theorem loadSuppressions_hostFile (ruleId : String) :
    loadSuppressions (some (hostFile ruleId)) = some [hostNamespace ruleId] := by
  have hid : "file-" ++ toString 0 = "file-0" := by decide
  unfold hostNamespace
  rw [← hid]
  rfl

/-- 印の無いまま残った結果。 -/
def oneMarked (ruleId severity : String) : Report Marked where
  cipherpostVersion := "1"
  pcap := "a.pcap"
  sessions :=
    [{ sessionId := "s-1", protocol := "SMTP", fiveTuple := "10.0.0.1:40000->10.0.0.2:25"
       tlsVersion := none, cipher := none
       findings := [⟨⟨ruleId, "", severity, "", "", ""⟩, none⟩] }]

/-- どの finding にも合わないファイルは、書いたとおりになる。合うファイルは、そうならない。 -/
theorem fileApplies_iff_rc4Report :
    (∃ filtered, applyFilters textLib 0 rc4Report (ignoring [("rule_id", .str "weak-dh")])
        [hostNamespace "3des-cipher"] = some filtered ∧
      FileApplies textLib rc4Report (ignoring [("rule_id", .str "weak-dh")])
        [hostNamespace "3des-cipher"] filtered) ∧
    ∃ filtered, applyFilters textLib 0 rc4Report (ignoring [("rule_id", .str "weak-dh")])
        [hostNamespace "rc4-cipher"] = some filtered ∧
      ¬FileApplies textLib rc4Report (ignoring [("rule_id", .str "weak-dh")])
        [hostNamespace "rc4-cipher"] filtered := by
  have hiff : ∀ ruleId filtered, applyFilters textLib 0 rc4Report
      (ignoring [("rule_id", .str "weak-dh")]) [hostNamespace ruleId] = some filtered → _ :=
    fun ruleId filtered => fileApplies_iff noSentinel_rc4Report (loadSuppressions_hostFile ruleId)
  refine ⟨⟨_, rfl, (hiff "3des-cipher" _ rfl).mpr ?_⟩, _, rfl, ?_⟩
  · intro fiveTuple f hf _ s hs hcovers
    rw [List.mem_singleton.mp hs] at hcovers
    rcases has_rc4Report hf with rfl | rfl <;> exact absurd hcovers.1 (by decide)
  · rw [hiff "rc4-cipher" _ rfl]
    intro h
    refine h "10.0.0.1:40000->10.0.0.2:25" ⟨"rc4-cipher", "", "high", "", "", ""⟩
      ⟨_, List.mem_cons_self, rfl, List.mem_cons_self⟩ ?_ _ List.mem_cons_self
      ⟨by decide +kernel, by decide +kernel⟩
    rintro ⟨entries, hentries, entry, hentry, hrule, -⟩
    cases hentries
    rw [List.mem_singleton.mp hentry] at hrule
    simp [Json.get?, DictList.get?] at hrule

/-- 合う finding に印が付かず、exit status は 1 になる。 -/
theorem not_fileApplies_rc4 :
    (hostNamespace "rc4-cipher").Covers textLib "10.0.0.1:40000->10.0.0.2:25"
      ⟨"rc4-cipher", "", "high", "", "", ""⟩ ∧
    applyFilters textLib 0 (oneFinding "rc4-cipher" "high") (.arr []) [hostNamespace "rc4-cipher"] =
      some (oneMarked "rc4-cipher" "high") ∧
    finishScan textLib none none (oneMarked "rc4-cipher" "high") = EXIT_FINDINGS ∧
    ¬FileApplies textLib (oneFinding "rc4-cipher" "high") (.arr []) [hostNamespace "rc4-cipher"]
      (oneMarked "rc4-cipher" "high") := by
  have hcovers : (hostNamespace "rc4-cipher").Covers textLib "10.0.0.1:40000->10.0.0.2:25"
      ⟨"rc4-cipher", "", "high", "", "", ""⟩ := ⟨by decide +kernel, by decide +kernel⟩
  refine ⟨hcovers, by rfl, by decide +kernel, fun h => ?_⟩
  have hhas : (oneMarked "rc4-cipher" "high").Has "10.0.0.1:40000->10.0.0.2:25"
      ⟨⟨"rc4-cipher", "", "high", "", "", ""⟩, none⟩ :=
    ⟨_, List.mem_cons_self, rfl, List.mem_cons_self⟩
  exact absurd ((h.marked _ _ hhas).mpr ⟨_, List.mem_cons_self, hcovers⟩) Bool.false_ne_true

end CipherPost.Cli
