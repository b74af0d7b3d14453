import CipherPost.Cli.Filters
import CipherPost.Live.Finding
import CipherPost.Parsing.RuleSeverities

/-!
# 走査の exit status

`app/cli.py` の `worst_severity` と `cmd_scan`。印の無い finding の最悪の深刻度を、`"none"` から始めて一つの走査で
求め、閾値と比べる。

* `worstSeverity` — `worst_severity`
* `finishScan`・`cmdScan` — `cmd_scan`
* `le_worst_iff` — 最悪の深刻度が閾値に届く条件
* `noSentinel_scanReport` — 番兵が深刻度と紛れないこと
* `cmdScan_eq_findings_iff` — 端から端までの `cmd_scan` が 1 で終わる条件
* `exitStatus_iff` — exit status が 1 になる条件と、順序と形式によらないこと
-/

namespace CipherPost.Cli

open Parsing Proactive Live

/-! ## 最悪の深刻度 -/

/-- 深刻度を一つ見る。 -/
def worseOf (acc : String × Int) (severity : String) : String × Int :=
  if acc.2 < sevOrder severity then (severity, sevOrder severity) else acc

/-- finding を一つ見る。印のあるものは飛ばす。 -/
def worstStep (acc : String × Int) (m : Marked) : String × Int :=
  if m.mark.isSome then acc else worseOf acc m.finding.severity

/-- `worst_severity`。 -/
def worstSeverity (report : Report Marked) : String :=
  (report.sessions.foldl (fun acc sess => sess.findings.foldl worstStep acc) ("none", -1)).1

/-! ## cmd_scan -/

def EXIT_CLEAN : Nat := 0
def EXIT_FINDINGS : Nat := 1
def EXIT_USAGE : Nat := 2
def EXIT_PARSE : Nat := 3

/-- 書ける形式。 -/
def FORMATS : List String := ["json", "sarif", "markdown", "html"]

/-- `(args.format or "json").lower()`。 -/
def formatOf (lib : MatchLib) (format : Option String) : String := lib.lower (orText format "json")

/-- `(args.fail_on or "high").lower()`。 -/
def thresholdOf (lib : MatchLib) (failOn : Option String) : String :=
  lib.lower (orText failOn "high")

/-- `cmd_scan` の、結果を書いた後の部分。 -/
def finishScan (lib : MatchLib) (format failOn : Option String) (report : Report Marked) : Nat :=
  if formatOf lib format ∉ FORMATS then EXIT_USAGE
  else
    let worst := worstSeverity report
    if worst ≠ "none" ∧ (sevOrder? (thresholdOf lib failOn)).getD 3 ≤ sevOrder worst then
      EXIT_FINDINGS
    else EXIT_CLEAN

/-- `scan_pcap` の例外。 -/
inductive ScanFailure where
  | notFound
  | parse

/-- ファイルと解析。 -/
structure ScanEnv where
  version : String
  exists? : String → Bool
  /-- `analyze_pcap`。 -/
  analyze : String → Option String → Except ScanFailure (List SessionAnalysis)
  /-- `open` と `json.load`。例外は `none` である。 -/
  readJson : String → Option Json

/-- `cmd_scan` の引数。 -/
structure ScanArgs where
  pcap : String
  trustStore : Option String := none
  format : Option String := none
  failOn : Option String := none
  baseline : Option String := none
  suppressions : Option String := none

/-- 名のあるファイルを読む。 -/
def ScanEnv.read (env : ScanEnv) (path : Option String) : Option (Option Json) :=
  match truthy path with
  | none => some none
  | some path => (env.readJson path).map some

/-- `cmd_scan`。 -/
def cmdScan (lib : MatchLib) (now : Nat) (env : ScanEnv) (args : ScanArgs) : Nat :=
  if env.exists? args.pcap = false then EXIT_USAGE
  else match env.analyze args.pcap args.trustStore with
    | .error .notFound => EXIT_USAGE
    | .error .parse => EXIT_PARSE
    | .ok analyses =>
      let report := scanReport env.version args.pcap analyses
      let filtered := do
        let baseline ← env.read args.baseline
        let sups ← loadSuppressions (← env.read args.suppressions)
        applyFilters lib now report (loadBaseline baseline) sups
      match filtered with
      | none => EXIT_USAGE
      | some report => finishScan lib args.format args.failOn report

/-! ## 最悪の深刻度の意味 -/

/-- 印の無い finding の深刻度。 -/
def countedSeverities (report : Report Marked) : List String :=
  ((report.sessions.flatMap (·.findings)).filter fun m => m.mark.isNone).map (·.finding.severity)

theorem foldl_worstStep (acc : String × Int) (l : List Marked) :
    l.foldl worstStep acc =
      ((l.filter fun m => m.mark.isNone).map (·.finding.severity)).foldl worseOf acc := by
  induction l generalizing acc with
  | nil => rfl
  | cons m l ih =>
    rw [List.foldl_cons, ih]
    cases hmark : m.mark <;> simp [worstStep, hmark]

theorem worstSeverity_eq (report : Report Marked) :
    worstSeverity report = ((countedSeverities report).foldl worseOf ("none", -1)).1 := by
  rw [worstSeverity, ← List.foldl_flatMap, foldl_worstStep]
  rfl

/-- 見た深刻度の列での、番兵から始めた結果。 -/
theorem foldl_worseOf_cases (l : List String) :
    (l = [] ∧ l.foldl worseOf ("none", -1) = ("none", -1)) ∨
      ∃ s ∈ l, l.foldl worseOf ("none", -1) = (s, (sevOrder s : Int)) ∧
        ∀ t ∈ l, sevOrder t ≤ sevOrder s := by
  induction l using List.reverseRecOn with
  | nil => exact .inl ⟨rfl, rfl⟩
  | append_singleton l t ih =>
    refine .inr ?_
    rw [List.foldl_append, List.foldl_cons, List.foldl_nil]
    rcases ih with ⟨rfl, hnil⟩ | ⟨s, hs, hfold, hmax⟩
    · have hlt : (-1 : Int) < sevOrder t := by omega
      refine ⟨t, by simp, ?_, by simp⟩
      rw [hnil, worseOf, if_pos hlt]
    · rw [hfold, worseOf]
      by_cases hlt : (sevOrder s : Int) < sevOrder t
      · rw [if_pos hlt]
        refine ⟨t, by simp, rfl, fun u hu => ?_⟩
        rcases List.mem_append.mp hu with hu | hu
        · have := hmax u hu
          omega
        · rw [List.mem_singleton.mp hu]
      · rw [if_neg hlt]
        refine ⟨s, List.mem_append_left _ hs, rfl, fun u hu => ?_⟩
        rcases List.mem_append.mp hu with hu | hu
        · exact hmax u hu
        · rw [List.mem_singleton.mp hu]
          omega

/-- **最悪の深刻度が閾値に届くのは、届く深刻度があるときである。** -/
theorem le_worst_iff {report : Report Marked} (hnone : "none" ∉ countedSeverities report)
    {rank : Nat} : (worstSeverity report ≠ "none" ∧ rank ≤ sevOrder (worstSeverity report)) ↔
      ∃ s ∈ countedSeverities report, rank ≤ sevOrder s := by
  rw [worstSeverity_eq]
  rcases foldl_worseOf_cases (countedSeverities report) with ⟨hnil, hfold⟩ | ⟨s, hs, hfold, hmax⟩
  · rw [hfold, hnil]
    simp
  · rw [hfold]
    have hne : s ≠ "none" := fun h => hnone (h ▸ hs)
    constructor
    · exact fun h => ⟨s, hs, h.2⟩
    · rintro ⟨t, ht, hrank⟩
      exact ⟨hne, hrank.trans (hmax t ht)⟩

theorem mem_countedSeverities {report : Report Marked} {s : String} :
    s ∈ countedSeverities report ↔
      ∃ fiveTuple m, report.Has fiveTuple m ∧ m.mark = none ∧ m.finding.severity = s := by
  simp only [countedSeverities, List.mem_map, List.mem_filter, List.mem_flatMap,
    Option.isNone_iff_eq_none]
  constructor
  · rintro ⟨m, ⟨⟨sess, hsess, hm⟩, hmark⟩, rfl⟩
    exact ⟨_, m, ⟨sess, hsess, rfl, hm⟩, hmark, rfl⟩
  · rintro ⟨_, m, ⟨sess, hsess, rfl, hm⟩, hmark, rfl⟩
    exact ⟨m, ⟨⟨sess, hsess, hm⟩, hmark⟩, rfl⟩

/-! ## 数える finding -/

/-- baseline の一つが、五つ組の同じ finding か、五つ組を問わずにその rule を除く。 -/
def Ignores (entry : Json) (fiveTuple : String) (f : ReportFinding) : Prop :=
  entry.get? "rule_id" = some (.str f.ruleId) ∧
    (entry.get? "five_tuple" = some (.str fiveTuple) ∨ entry.get? "five_tuple" = some .null ∨
      entry.get? "five_tuple" = none)

/-- baseline のどれかが除く。 -/
def Ignored (baseline : Json) (fiveTuple : String) (f : ReportFinding) : Prop :=
  ∃ entries, baseline.iter? = some entries ∧ ∃ entry ∈ entries, Ignores entry fiveTuple f

theorem isText_iff {s : String} {j : Json} : isText s j = true ↔ j = .str s := by
  cases j <;> simp [isText]

theorem isNull_iff {j : Json} : isNull j = true ↔ j = .null := by
  cases j <;> simp [isNull]

/-- 読めた一つが除くかどうか。 -/
theorem ignoredPair_iff {entry : Json} {p : Json × Json} (h : ignoredPair entry = some p)
    {fiveTuple : String} {f : ReportFinding} :
    (isText f.ruleId p.1 && (isText fiveTuple p.2 || isNull p.2)) = true ↔
      Ignores entry fiveTuple f := by
  cases entry with
  | obj fields =>
    unfold ignoredPair at h
    dsimp only at h
    split at h
    · cases h
      simp only [Bool.and_eq_true, Bool.or_eq_true, isText_iff, isNull_iff, Ignores, Json.get?]
      cases DictList.get? "rule_id" fields <;> cases DictList.get? "five_tuple" fields <;> simp
    · cases h
  | null | bool | int | float | str | arr => cases h

theorem ignores_iff {baseline : Json} {ignored : List (Json × Json)}
    (h : ignoredPairs baseline = some ignored) {fiveTuple : String} {f : ReportFinding} :
    ignores ignored fiveTuple f = true ↔ Ignored baseline fiveTuple f := by
  obtain ⟨entries, hentries, hpairs⟩ := Option.bind_eq_some_iff.mp h
  rw [ignores, List.any_eq_true]
  constructor
  · rintro ⟨p, hp, hhit⟩
    obtain ⟨entry, hentry, hread⟩ := (Aligned.mem_mapM_iff hpairs).mp hp
    exact ⟨entries, hentries, entry, hentry, (ignoredPair_iff hread).mp hhit⟩
  · rintro ⟨entries', hentries', entry, hentry, hhit⟩
    cases hentries.symm.trans hentries'
    have hsome := (Aligned.isSome_mapM entries).mp (by rw [hpairs]; rfl) entry hentry
    obtain ⟨p, hread⟩ := Option.isSome_iff_exists.mp hsome
    exact ⟨p, (Aligned.mem_mapM_iff hpairs).mpr ⟨entry, hentry, hread⟩,
      (ignoredPair_iff hread).mpr hhit⟩

section
variable {lib : MatchLib} {now : Nat} {report : Report ReportFinding} {baseline : Json}
  {sups : List Namespace} {filtered : Report Marked}

/-- 除かれず、有効な suppression の掛からない finding は、印の無いまま残る。 -/
theorem has_unmarked (h : applyFilters lib now report baseline sups = some filtered)
    {fiveTuple : String} {f : ReportFinding} (hf : report.Has fiveTuple f)
    (hkeep : ¬Ignored baseline fiveTuple f)
    (hnone : ¬∃ sup ∈ sups, sup.Applies lib now fiveTuple f) :
    filtered.Has fiveTuple ⟨f, none⟩ := by
  obtain ⟨ignored, hignored, hhas⟩ := has_applyFilters_iff h
  have hkeep' : ignores ignored fiveTuple f = false :=
    Bool.eq_false_iff.mpr fun hig => hkeep ((ignores_iff hignored).mp hig)
  obtain ⟨ignored', hignored', hsome⟩ := isSome_applyFilters_iff.mp (by rw [h]; rfl)
  cases hignored.symm.trans hignored'
  obtain ⟨o, ho⟩ := Option.isSome_iff_exists.mp (hsome fiveTuple f hf)
  unfold filterFinding at ho
  rw [if_neg (by rw [hkeep']; exact Bool.false_ne_true)] at ho
  obtain ⟨hit, hmatch, -⟩ := Option.map_eq_some_iff.mp ho
  have hnot : hit = none := by
    rw [← Option.not_isSome_iff_eq_none, matchNamespace_isSome_iff hmatch]
    exact hnone
  refine (hhas fiveTuple ⟨f, none⟩).mpr ⟨hf, filterFinding_eq_some_iff.mpr ?_⟩
  exact ⟨hkeep', rfl, hit, hmatch, by rw [hnot]; rfl⟩

/-- 深刻度が数えられる finding は、除かれず、有効な suppression の掛からないものである。 -/
theorem mem_counted_applyFilters
    (h : applyFilters lib now report baseline sups = some filtered) {s : String} :
    s ∈ countedSeverities filtered ↔ ∃ fiveTuple f, report.Has fiveTuple f ∧
      ¬Ignored baseline fiveTuple f ∧ (¬∃ sup ∈ sups, sup.Applies lib now fiveTuple f) ∧
        f.severity = s := by
  obtain ⟨ignored, hignored, hhas⟩ := has_applyFilters_iff h
  rw [mem_countedSeverities]
  constructor
  · rintro ⟨fiveTuple, m, hm, hmark, rfl⟩
    obtain ⟨hf, hfilter⟩ := (hhas fiveTuple m).mp hm
    obtain ⟨hkeep, -, hit, hmatch, hid⟩ := filterFinding_eq_some_iff.mp hfilter
    refine ⟨fiveTuple, m.finding, hf, ?_, ?_, rfl⟩
    · rw [← ignores_iff hignored, hkeep]
      exact Bool.false_ne_true
    · rw [← matchNamespace_isSome_iff hmatch]
      rw [hmark] at hid
      rw [Option.map_eq_none_iff.mp hid.symm]
      exact Bool.false_ne_true
  · rintro ⟨fiveTuple, f, hf, hkeep, hnone, rfl⟩
    exact ⟨fiveTuple, ⟨f, none⟩, has_unmarked h hf hkeep hnone, rfl, rfl⟩

end

/-! ## exit status -/

/-- 番兵の `"none"` を深刻度に持つ finding は無い。 -/
def NoSentinel (report : Report ReportFinding) : Prop :=
  ∀ fiveTuple f, report.Has fiveTuple f → f.severity ≠ "none"

/-- rule の結果には、番兵の深刻度は無い。 -/
theorem noSentinel_scanReport {an : Analyzer} {clock : Int} {sessions : List Session}
    {analyses : List SessionAnalysis}
    (h : analyzePcap (an.withRules clock) sessions = .ok analyses) (version pcap : String) :
    NoSentinel (scanReport version pcap analyses) := by
  have hnone : "none" ∉ SEVERITIES := by decide
  rintro _ f ⟨_, hsess, rfl, hf⟩ hsev
  obtain ⟨sa, hsa, rfl⟩ := List.mem_map.mp hsess
  obtain ⟨g, hg, rfl⟩ := List.mem_map.mp hf
  exact hnone (hsev ▸ graded_analyzePcap h sa hsa g hg)

/-- session と、その中の finding とを並べ替えたものである。 -/
def Rearranged {φ : Type} (report report' : Report φ) : Prop :=
  ∃ sessions, report.sessions.Perm sessions ∧
    List.Forall₂ (fun sess sess' => sess'.fiveTuple = sess.fiveTuple ∧
      sess.findings.Perm sess'.findings) sessions report'.sessions

theorem Rearranged.has_iff {φ : Type} {report report' : Report φ} (h : Rearranged report report')
    (fiveTuple : String) (f : φ) : report'.Has fiveTuple f ↔ report.Has fiveTuple f := by
  obtain ⟨sessions, hperm, hall⟩ := h
  constructor
  · rintro ⟨sess', hsess', rfl, hf⟩
    obtain ⟨sess, hsess, hfive, hfindings⟩ := Aligned.exists_left hall hsess'
    exact ⟨sess, hperm.mem_iff.mpr hsess, hfive.symm, hfindings.mem_iff.mpr hf⟩
  · rintro ⟨sess, hsess, rfl, hf⟩
    obtain ⟨sess', hsess', hfive, hfindings⟩ :=
      Aligned.exists_left hall.flip (hperm.mem_iff.mp hsess)
    exact ⟨sess', hsess', hfive, hfindings.mem_iff.mp hf⟩

section
variable {lib : MatchLib} {now : Nat} {report : Report ReportFinding}

/-- 閾値に届く finding があるときにだけ 1 になる。 -/
theorem finishScan_eq_findings_iff (hrank : NoSentinel report) {baseline : Json}
    {sups : List Namespace} {filtered : Report Marked}
    (h : applyFilters lib now report baseline sups = some filtered) {format failOn : Option String}
    (hformat : formatOf lib format ∈ FORMATS) :
    finishScan lib format failOn filtered = EXIT_FINDINGS ↔ ∃ fiveTuple f,
      report.Has fiveTuple f ∧ ¬Ignored baseline fiveTuple f ∧
        (¬∃ sup ∈ sups, sup.Applies lib now fiveTuple f) ∧
          (sevOrder? (thresholdOf lib failOn)).getD 3 ≤ sevOrder f.severity := by
  have hnone : "none" ∉ countedSeverities filtered := by
    intro hmem
    obtain ⟨fiveTuple, f, hf, -, -, hsev⟩ := (mem_counted_applyFilters h).mp hmem
    exact hrank fiveTuple f hf hsev
  have hworst := @le_worst_iff filtered hnone ((sevOrder? (thresholdOf lib failOn)).getD 3)
  unfold finishScan
  rw [if_neg (not_not.mpr hformat)]
  dsimp only
  rw [if_congr hworst rfl rfl]
  have hexit : ∀ p : Prop, ∀ _ : Decidable p,
      (if p then EXIT_FINDINGS else EXIT_CLEAN) = EXIT_FINDINGS ↔ p := by
    intro p _
    by_cases hp : p
    · simp [hp]
    · simp [hp, EXIT_CLEAN, EXIT_FINDINGS]
  rw [hexit]
  simp only [mem_counted_applyFilters h]
  constructor
  · rintro ⟨_, ⟨fiveTuple, f, hf, hkeep, hnot, rfl⟩, hle⟩
    exact ⟨fiveTuple, f, hf, hkeep, hnot, hle⟩
  · rintro ⟨fiveTuple, f, hf, hkeep, hnot, hle⟩
    exact ⟨_, ⟨fiveTuple, f, hf, hkeep, hnot, rfl⟩, hle⟩

/-- 形式が書ければ、形式によらない。 -/
theorem finishScan_format {format format' : Option String} (h : formatOf lib format ∈ FORMATS)
    (h' : formatOf lib format' ∈ FORMATS) (failOn : Option String) (filtered : Report Marked) :
    finishScan lib format failOn filtered = finishScan lib format' failOn filtered := by
  unfold finishScan
  rw [if_neg (not_not.mpr h), if_neg (not_not.mpr h')]

/-- 1 になる条件が同じ結果は、exit status も同じである。 -/
theorem finishScan_congr {format failOn : Option String} {filtered filtered' : Report Marked}
    (h : formatOf lib format ∈ FORMATS → (finishScan lib format failOn filtered = EXIT_FINDINGS ↔
      finishScan lib format failOn filtered' = EXIT_FINDINGS)) :
    finishScan lib format failOn filtered = finishScan lib format failOn filtered' := by
  by_cases hformat : formatOf lib format ∈ FORMATS
  · have hiff := h hformat
    have hrange : ∀ r : Report Marked, finishScan lib format failOn r = EXIT_FINDINGS ∨
        finishScan lib format failOn r = EXIT_CLEAN := by
      intro r
      unfold finishScan
      rw [if_neg (not_not.mpr hformat)]
      dsimp only
      split
      · exact .inl rfl
      · exact .inr rfl
    rcases hrange filtered with hf | hf
    · rw [hf, hiff.mp hf]
    · rcases hrange filtered' with hf' | hf'
      · rw [hiff.mpr hf', hf']
      · rw [hf, hf']
  · unfold finishScan
    rw [if_pos hformat, if_pos hformat]

/-- 並べ替えても、exit status も例外も変わらない。 -/
theorem exit_rearranged (hrank : NoSentinel report) {report' : Report ReportFinding}
    (h : Rearranged report report') (baseline : Json) (sups : List Namespace)
    (format failOn : Option String) :
    (applyFilters lib now report' baseline sups).map (finishScan lib format failOn) =
      (applyFilters lib now report baseline sups).map (finishScan lib format failOn) := by
  have hrank' : NoSentinel report' := fun fiveTuple f hf =>
    hrank fiveTuple f ((h.has_iff fiveTuple f).mp hf)
  have hsome : (applyFilters lib now report' baseline sups).isSome = true ↔
      (applyFilters lib now report baseline sups).isSome = true := by
    simp only [isSome_applyFilters_iff, h.has_iff]
  cases hf : applyFilters lib now report baseline sups with
  | none =>
    rw [hf, Option.isSome_none] at hsome
    rw [Option.not_isSome_iff_eq_none.mp fun hc => Bool.false_ne_true (hsome.mp hc)]
  | some filtered =>
    rw [hf] at hsome
    obtain ⟨filtered', hf'⟩ := Option.isSome_iff_exists.mp (hsome.mpr rfl)
    rw [hf', Option.map_some, Option.map_some, Option.some.injEq]
    refine finishScan_congr fun hformat => ?_
    rw [finishScan_eq_findings_iff hrank' hf' hformat, finishScan_eq_findings_iff hrank hf hformat]
    simp only [h.has_iff]

end

/-! ## cmd_scan の exit status -/

/-- `analyze` は、rule の engine の結果を返す。 -/
def ScanEnv.Engine (env : ScanEnv) : Prop :=
  ∀ pcap trustStore analyses, env.analyze pcap trustStore = .ok analyses →
    ∃ (an : Analyzer) (clock : Int) (sessions : List Session),
      analyzePcap (an.withRules clock) sessions = .ok analyses

/-- `cmd_scan` が filter を済ませた report と、読んだ baseline と suppression。 -/
structure Filtered (lib : MatchLib) (now : Nat) (env : ScanEnv) (args : ScanArgs)
    (report : Report ReportFinding) (baseline : Json) (sups : List Namespace)
    (filtered : Report Marked) : Prop where
  found : env.exists? args.pcap = true
  analyzed : ∃ analyses, env.analyze args.pcap args.trustStore = .ok analyses ∧
    report = scanReport env.version args.pcap analyses
  readBaseline : ∃ file, env.read args.baseline = some file ∧ baseline = loadBaseline file
  readSuppressions : ∃ file, env.read args.suppressions = some file ∧
    loadSuppressions file = some sups
  applied : applyFilters lib now report baseline sups = some filtered

section
variable {lib : MatchLib} {now : Nat} {env : ScanEnv} {args : ScanArgs}

theorem cmdScan_of_filtered {report : Report ReportFinding} {baseline : Json}
    {sups : List Namespace} {filtered : Report Marked}
    (h : Filtered lib now env args report baseline sups filtered) :
    cmdScan lib now env args = finishScan lib args.format args.failOn filtered := by
  obtain ⟨analyses, hanalyzed, rfl⟩ := h.analyzed
  obtain ⟨file, hbaseline, rfl⟩ := h.readBaseline
  obtain ⟨file', hread, hsups⟩ := h.readSuppressions
  unfold cmdScan
  rw [if_neg (by rw [h.found]; decide), hanalyzed]
  simp only [hbaseline, hread, Option.bind_eq_bind, Option.bind_some, hsups, h.applied]

/-- 1 で終わる `cmd_scan` は、filter を済ませ、結果を書いている。 -/
theorem exists_filtered (h : cmdScan lib now env args = EXIT_FINDINGS) :
    ∃ report baseline sups filtered, Filtered lib now env args report baseline sups filtered ∧
      formatOf lib args.format ∈ FORMATS := by
  unfold cmdScan at h
  split at h
  · cases h
  · next hfound =>
    split at h
    · cases h
    · cases h
    · next analyses hanalyzed =>
      dsimp only at h
      split at h
      · cases h
      · next filtered hfiltered =>
        obtain ⟨file, hbaseline, hrest⟩ := Option.bind_eq_some_iff.mp hfiltered
        obtain ⟨file', hread, hrest⟩ := Option.bind_eq_some_iff.mp hrest
        obtain ⟨sups, hsups, hrest⟩ := Option.bind_eq_some_iff.mp hrest
        refine ⟨_, _, sups, filtered, ⟨by simpa using hfound, ⟨analyses, hanalyzed, rfl⟩,
          ⟨file, hbaseline, rfl⟩, ⟨file', hread, hsups⟩, hrest⟩, ?_⟩
        by_contra hformat
        rw [finishScan, if_pos hformat] at h
        cases h

/--
**`cmd_scan` が 1 で終わるのは、filter を済ませて結果を書き、baseline が除かず、有効な suppression が掛からず、
深刻度が閾値に届く finding があるときである。**
-/
theorem cmdScan_eq_findings_iff (henv : env.Engine) :
    cmdScan lib now env args = EXIT_FINDINGS ↔ ∃ report baseline sups filtered,
      Filtered lib now env args report baseline sups filtered ∧
        formatOf lib args.format ∈ FORMATS ∧ ∃ fiveTuple f,
          report.Has fiveTuple f ∧ ¬Ignored baseline fiveTuple f ∧
            (¬∃ sup ∈ sups, sup.Applies lib now fiveTuple f) ∧
              (sevOrder? (thresholdOf lib args.failOn)).getD 3 ≤ sevOrder f.severity := by
  have hiff : ∀ {report baseline sups filtered},
      Filtered lib now env args report baseline sups filtered → formatOf lib args.format ∈ FORMATS →
        (cmdScan lib now env args = EXIT_FINDINGS ↔ ∃ fiveTuple f,
          report.Has fiveTuple f ∧ ¬Ignored baseline fiveTuple f ∧
            (¬∃ sup ∈ sups, sup.Applies lib now fiveTuple f) ∧
              (sevOrder? (thresholdOf lib args.failOn)).getD 3 ≤ sevOrder f.severity) := by
    intro report baseline sups filtered h hformat
    obtain ⟨analyses, hanalyzed, hreport⟩ := h.analyzed
    obtain ⟨an, clock, sessions, hrun⟩ := henv _ _ _ hanalyzed
    have hrank : NoSentinel report := hreport ▸ noSentinel_scanReport hrun env.version args.pcap
    rw [cmdScan_of_filtered h, finishScan_eq_findings_iff hrank h.applied hformat]
  constructor
  · intro h
    obtain ⟨report, baseline, sups, filtered, hfiltered, hformat⟩ := exists_filtered h
    exact ⟨report, baseline, sups, filtered, hfiltered, hformat, (hiff hfiltered hformat).mp h⟩
  · rintro ⟨report, baseline, sups, filtered, hfiltered, hformat, hfound⟩
    exact (hiff hfiltered hformat).mpr hfound

end

/--
**exit status が 1 になるのは、baseline が除かず、有効な suppression が掛からず、深刻度が閾値に届く finding が
あるときである。順序にも形式にもよらない。**
-/
theorem exitStatus_iff (lib : MatchLib) (now : Nat) {report : Report ReportFinding}
    (hrank : NoSentinel report) (baseline : Json) (sups : List Namespace) :
    (∀ filtered, applyFilters lib now report baseline sups = some filtered →
      ∀ format failOn rank, formatOf lib format ∈ FORMATS →
        sevOrder? (thresholdOf lib failOn) = some rank →
          (finishScan lib format failOn filtered = EXIT_FINDINGS ↔ ∃ fiveTuple f,
            report.Has fiveTuple f ∧ ¬Ignored baseline fiveTuple f ∧
              (¬∃ sup ∈ sups, sup.Applies lib now fiveTuple f) ∧ rank ≤ sevOrder f.severity)) ∧
    (∀ filtered format format' failOn, formatOf lib format ∈ FORMATS →
      formatOf lib format' ∈ FORMATS →
        finishScan lib format failOn filtered = finishScan lib format' failOn filtered) ∧
    ∀ report', Rearranged report report' → ∀ format failOn,
      (applyFilters lib now report' baseline sups).map (finishScan lib format failOn) =
        (applyFilters lib now report baseline sups).map (finishScan lib format failOn) := by
  refine ⟨fun filtered h format failOn rank hformat hthreshold => ?_,
    fun filtered format format' failOn h h' => finishScan_format h h' failOn filtered,
    fun report' h format failOn => exit_rearranged hrank h baseline sups format failOn⟩
  rw [finishScan_eq_findings_iff hrank h hformat, hthreshold, Option.getD_some]

/-- 文字列をそのまま比べる。 -/
def textLib : MatchLib where
  lower s := s
  text _ := ""
  inNetwork _ _ := false
  fnmatch dom pat := decide (dom = pat)

/-- 一つの session の、一つの finding。 -/
def oneFinding (ruleId severity : String) : Report ReportFinding where
  cipherpostVersion := "1"
  pcap := "a.pcap"
  sessions :=
    [{ sessionId := "s-1", protocol := "SMTP", fiveTuple := "10.0.0.1:40000->10.0.0.2:25"
       tlsVersion := none, cipher := none
       findings := [⟨ruleId, "", severity, "", "", ""⟩] }]

/-- rc4 の finding が二つの session にあり、他に medium の finding が一つある。 -/
def rc4Report : Report ReportFinding where
  cipherpostVersion := "1"
  pcap := "a.pcap"
  sessions :=
    [{ sessionId := "s-1", protocol := "SMTP", fiveTuple := "10.0.0.1:40000->10.0.0.2:25"
       tlsVersion := none, cipher := none
       findings := [⟨"rc4-cipher", "", "high", "", "", ""⟩, ⟨"weak-dh", "", "medium", "", "", ""⟩] },
     { sessionId := "s-2", protocol := "SMTP", fiveTuple := "10.0.0.3:40000->10.0.0.2:25"
       tlsVersion := none, cipher := none
       findings := [⟨"rc4-cipher", "", "high", "", "", ""⟩] }]

/-- `rc4Report` の finding。 -/
theorem has_rc4Report {fiveTuple : String} {f : ReportFinding} (h : rc4Report.Has fiveTuple f) :
    f = ⟨"rc4-cipher", "", "high", "", "", ""⟩ ∨ f = ⟨"weak-dh", "", "medium", "", "", ""⟩ := by
  obtain ⟨sess, hsess, -, hf⟩ := h
  simp only [rc4Report, List.mem_cons, List.not_mem_nil, or_false] at hsess
  rcases hsess with rfl | rfl
  · simpa using hf
  · exact .inl (List.mem_singleton.mp hf)

theorem noSentinel_rc4Report : NoSentinel rc4Report := by
  intro fiveTuple f hf
  rcases has_rc4Report hf with rfl | rfl <;> decide

/-- 一つだけを除く baseline。 -/
def ignoring (fields : List (String × Json)) : Json := .arr [.obj fields]

/-- 一つの session の rc4 だけを baseline に入れれば、もう一つが数えられる。rule ごと入れれば、閾値を下げたときの medium
だけが数えられる。 -/
theorem exitStatus_iff_baseline :
    (∃ filtered, applyFilters textLib 0 rc4Report (ignoring [("rule_id", .str "rc4-cipher"),
        ("five_tuple", .str "10.0.0.1:40000->10.0.0.2:25")]) [] = some filtered ∧
      finishScan textLib none none filtered = EXIT_FINDINGS) ∧
    ∃ filtered, applyFilters textLib 0 rc4Report (ignoring [("rule_id", .str "rc4-cipher")]) [] =
        some filtered ∧
      finishScan textLib none none filtered ≠ EXIT_FINDINGS ∧
      finishScan textLib none (some "medium") filtered = EXIT_FINDINGS := by
  have hiff := fun fields => (exitStatus_iff textLib 0 noSentinel_rc4Report (ignoring fields) []).1
  refine ⟨⟨_, rfl, ?_⟩, _, rfl, ?_, ?_⟩
  · refine (hiff [("rule_id", .str "rc4-cipher"),
      ("five_tuple", .str "10.0.0.1:40000->10.0.0.2:25")] _ rfl none none 3 (by decide)
      (by decide)).mpr ⟨"10.0.0.3:40000->10.0.0.2:25", ⟨"rc4-cipher", "", "high", "", "", ""⟩,
        ⟨_, List.mem_cons_of_mem _ List.mem_cons_self, rfl, List.mem_cons_self⟩, ?_, by simp,
        by decide⟩
    rintro ⟨entries, hentries, entry, hentry, -, htuple⟩
    cases hentries
    rw [List.mem_singleton.mp hentry] at htuple
    simp [Json.get?, DictList.get?] at htuple
  · rw [Ne, hiff [("rule_id", .str "rc4-cipher")] _ rfl none none 3 (by decide) (by decide)]
    rintro ⟨fiveTuple, f, hf, hkeep, -, hrank⟩
    rcases has_rc4Report hf with rfl | rfl
    · exact hkeep ⟨_, rfl, _, List.mem_cons_self, rfl, .inr (.inr rfl)⟩
    · exact absurd hrank (by decide)
  · refine (hiff [("rule_id", .str "rc4-cipher")] _ rfl none (some "medium") 2
      (by decide) (by decide)).mpr ⟨"10.0.0.1:40000->10.0.0.2:25", ⟨"weak-dh", "", "medium", "", "", ""⟩,
        ⟨_, List.mem_cons_self, rfl, List.mem_cons_of_mem _ List.mem_cons_self⟩, ?_, by simp,
        by decide⟩
    rintro ⟨entries, hentries, entry, hentry, hrule, -⟩
    cases hentries
    rw [List.mem_singleton.mp hentry] at hrule
    simp [Json.get?, DictList.get?] at hrule

end CipherPost.Cli
