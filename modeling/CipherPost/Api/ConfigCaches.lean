import CipherPost.Api.Governance
import CipherPost.Infra.ReadCache

/-!
# 設定の変更が効くまで

dispatcher（`app/live/alerts.py`）と analyzer（`app/live/flows.py`）は、管理の口が書いた設定を DB から読み、org ごとに
60 秒のあいだ使い回す。cache は四つあり、読めないときの扱いが違う。policy は既定の値を、経路と deny list は空のものを、
使い回す値として覚える。suppression は何も覚えず、その finding は黙らされない。

* `policyCache`・`routesCache`・`suppressionCache`・`denyCache` — 四つの読み方
* `mutedBy`・`denyListHit` — 読んだものによる判定
* `mutedBy_read_eq` — `Live.suppressed` は `suppressionCache` を通した判定である
* `config_settled` — org の設定が変わらなくなって 60 秒を過ぎれば、四つの判定はどれも今の設定によるものである
-/

namespace CipherPost.Api.Console

open CipherPost.Core CipherPost.Live CipherPost.Proactive

/-! ## 読むもの -/

/-- `s or dflt`。 -/
def orDefault (s dflt : String) : String := if s = "" then dflt else s

/-- `_policy_for` の読む dict。 -/
def policyOf (app : App) (org : Option String) (s : Console) : Policy :=
  match (org.filter (· ≠ "")).bind s.policies.get? with
  | some row =>
    { minSeverity := orDefault row.minSeverity app.alertMinSeverity
      digest := orDefault row.digest "off"
      quietStartHour := row.quietStartHour
      quietEndHour := row.quietEndHour
      quietTz := orDefault row.quietTz "UTC" }
  | none => { minSeverity := app.alertMinSeverity }

/-- `_routes_for` の読む経路。 -/
def routesOf (org : Option String) (s : Console) : List AlertRoute :=
  match org with
  | some org => (s.routes.owned (·.orgId) org).values.map (·.toAlertRoute)
  -- `org_id = NULL` の行は無い
  | none => []

/-- `_deny_list_hit` の読む集合。 -/
def deniedOf (org : String) (s : Console) : List (String × String) :=
  ((s.fpLists.owned (·.orgId) org).values.filter fun r => decide (r.kind = "deny")).map
    fun r => (r.fpType, r.value)

/-- `_policy_for`。読めなければ、既定の値を覚える。 -/
def policyCache (app : App) (org : Option String) : ReadCache Console Policy where
  keeps := fun t now => decide (now < t + 60000000)
  load := fun s _ => policyOf app org s
  fallback := some { minSeverity := app.alertMinSeverity }

/-- `_routes_for`。読めなければ、空の列を覚える。 -/
def routesCache (org : Option String) : ReadCache Console (List AlertRoute) where
  keeps := fun t now => decide (now < t + 60000000)
  load := fun s _ => routesOf org s
  fallback := some []

/-- `_suppressed` の使う列。読めなければ、何も覚えない。 -/
def suppressionCache (org : Json) : ReadCache Console (List Suppression) where
  keeps := fun t now => !decide (t + 60000000 < now)
  load := fun s t => activeSuppressions t org s.suppressionTable
  fallback := none

/-- `_deny_list_hit` の使う集合。読めなければ、空の集合を覚える。 -/
def denyCache (org : String) : ReadCache Console (List (String × String)) where
  keeps := fun t now => !decide (t + 60000000 < now)
  load := fun s _ => deniedOf org s
  fallback := some []

/-! ## 判定 -/

/-- `_suppressed` の判定。読めないときと、scope を読む途中の例外は、黙らせない。 -/
def mutedBy (lib : MatchLib) (now : Nat) (finding : List (String × Json))
    (active : Option (List Suppression)) : Bool :=
  match active.bind fun l => matchSuppression lib now (payloadRule finding) finding l with
  | some (some _) => true
  | _ => false

/-- `_deny_list_hit` の照合。fingerprint は種類と値の列で、空の値は無いのと同じである。 -/
def denyListHit (denied : List (String × String)) (fps : List (String × Option String)) :
    Option String :=
  fps.findSome? fun fp =>
    match fp.2.filter (· ≠ "") with
    | some value => if (fp.1, value) ∈ denied then some (fp.1 ++ ":" ++ value) else none
    | none => none

/-- `_suppressed` の使う列は、cache を通して読んだものである。 -/
theorem read_suppressionCache (org : Json) (now : Nat) (s : Console)
    (entry : Option (Nat × List Suppression)) :
    ((suppressionCache org).read now true s entry).2 =
      some (cachedSuppressions now org s.suppressionTable entry) := by
  cases entry with
  | none => rfl
  | some e =>
    obtain ⟨t, active⟩ := e
    rw [ReadCache.read, cachedSuppressions]
    by_cases h : t + 60000000 < now
    · have hkeeps : ¬(suppressionCache org).keeps t now = true := by
        show ¬(!decide (t + 60000000 < now)) = true
        rw [decide_eq_true h]
        exact Bool.false_ne_true
      rw [if_neg hkeeps, if_pos h]
      rfl
    · have hkeeps : (suppressionCache org).keeps t now = true := by
        show (!decide (t + 60000000 < now)) = true
        rw [decide_eq_false h]
        rfl
      rw [if_pos hkeeps, if_neg h]

/-- `_suppressed` は、cache を通した判定である。 -/
theorem mutedBy_read_eq (lib : MatchLib) (now : Nat) (s : Console)
    (entry : Option (Nat × List Suppression)) (finding : List (String × Json)) :
    mutedBy lib now finding ((suppressionCache ((DictList.get? "org_id" finding).getD .null)).read
      now true s entry).2 = suppressed lib now s.suppressionTable entry finding := by
  rw [read_suppressionCache]
  rfl

/-- 効いていない suppression は、列にあっても無くても同じである。 -/
theorem matchSuppression_filterActive (lib : MatchLib) {t now : Nat} (ht : t ≤ now) (rule : String)
    (finding : List (String × Json)) : ∀ rows : List Suppression,
    matchSuppression lib now rule finding (filterActive t rows) =
      matchSuppression lib now rule finding rows
  | [] => rfl
  | r :: rows => by
    have ih := matchSuppression_filterActive lib ht rule finding rows
    unfold filterActive at ih ⊢
    by_cases hr : isActive t r = true
    · rw [List.filter_cons_of_pos hr, matchSuppression, matchSuppression, ih]
    · have hnow : isActive now r = false := by
        refine Bool.eq_false_iff.mpr fun h => hr ?_
        obtain ⟨hstatus, hexp⟩ := Bool.and_eq_true_iff.mp h
        have hlt : now < r.expiresAt := of_decide_eq_true hexp
        exact Bool.and_eq_true_iff.mpr ⟨hstatus, decide_eq_true (by omega)⟩
      rw [List.filter_cons_of_neg hr, ih, matchSuppression, if_pos hnow, ite_self]

/-- 前に読んだ列での判定は、今読んだ列での判定と同じである。 -/
theorem mutedBy_activeSuppressions {lib : MatchLib} {t now : Nat} (ht : t ≤ now) (org : Json)
    (rows : List Suppression) (finding : List (String × Json)) :
    mutedBy lib now finding (some (activeSuppressions t org rows)) =
      mutedBy lib now finding (some (activeSuppressions now org rows)) := by
  unfold mutedBy activeSuppressions
  rw [Option.bind_some, Option.bind_some, matchSuppression_filterActive lib ht,
    matchSuppression_filterActive lib (le_refl now)]

/-! ## 読むものは org の部分だけである -/

variable {app : App} {s : Console} {org : String}

theorem policyOf_view : policyOf app (some org) (s.view org) = policyOf app (some org) s := by
  unfold policyOf
  by_cases h : org = ""
  · rw [Option.filter_some, if_neg (by simpa using h)]
    rfl
  · rw [Option.filter_some, if_pos (by simpa using h), Option.bind_some, Option.bind_some,
      get?_view_policies]

theorem routesOf_view : routesOf (some org) (s.view org) = routesOf (some org) s :=
  congrArg (fun d : Dict Nat RouteRow => d.values.map RouteRow.toAlertRoute)
    (Dict.owned_owned RouteRow.orgId)

theorem deniedOf_view : deniedOf org (s.view org) = deniedOf org s := by
  unfold deniedOf view
  rw [Dict.owned_owned]

theorem approvedOf_view :
    approvedOf (.str org) (s.view org).suppressionTable =
      approvedOf (.str org) s.suppressionTable := by
  unfold approvedOf suppressionTable view
  have hvalues : (s.suppressions.owned (·.orgId) org).values =
      s.suppressions.values.filter fun r => decide (r.orgId = org) :=
    Dict.values_filter s.suppressions fun r => decide (r.orgId = org)
  rw [hvalues, List.filter_map, List.filter_map, List.filter_filter]
  refine congrArg _ (List.filter_congr fun r _ => ?_)
  by_cases h : r.orgId = org
  · simp [h]
  · have hne : ¬(Json.str org).str? = some r.orgId := fun heq => h (Option.some.inj heq).symm
    simp [h, hne]

theorem activeSuppressions_view (t : Nat) :
    activeSuppressions t (.str org) (s.view org).suppressionTable =
      activeSuppressions t (.str org) s.suppressionTable := by
  unfold activeSuppressions
  rw [approvedOf_view]

/-- org に関わらない呼び出しでは、その org の部分は動かない。 -/
theorem view_exec_of_not_concerns {evs : List Event} (hfresh : Run.Along (step app) (Fresh app) s evs)
    (hquiet : ∀ ev ∈ evs, concerns org ev = false) :
    (Run.exec (step app) s evs).view org = s.view org := by
  have hnil : evs.filter (concerns org) = [] :=
    List.filter_eq_nil_iff.mpr fun ev hev => by simp [hquiet ev hev]
  rw [(unwinding app org).exec_filter hfresh, hnil]
  rfl

/-! ## 落ち着き -/

section

variable {early late : List (ReadCache.Event Event)} {now : Nat}

/-- org の設定が変わらない間は、org の部分だけで決まる読み出しは変わらない。 -/
theorem stable_of_quiet {α : Type} (load : Console → α)
    (hview : ∀ s, load (s.view org) = load s)
    (hfresh : Run.Along (step app) (Fresh app) s (ReadCache.writes (early ++ late)))
    (hquiet : ∀ ev, .write ev ∈ late → concerns org ev = false) {pre : List (ReadCache.Event Event)}
    (hpre : pre <+: late) :
    load (Run.exec (step app) s (ReadCache.writes (early ++ pre))) =
      load (Run.exec (step app) s (ReadCache.writes (early ++ late))) := by
  obtain ⟨post, rfl⟩ := hpre
  rw [← List.append_assoc] at hfresh ⊢
  rw [ReadCache.writes_append, Run.along_append] at hfresh
  have hpost : ∀ ev ∈ ReadCache.writes post, concerns org ev = false := by
    intro ev hev
    exact hquiet ev (List.mem_append_right _ (ReadCache.mem_writes.mp hev))
  rw [ReadCache.writes_append (early ++ pre), Run.exec_append, ← hview (Run.exec _ _ _),
    ← hview (Run.exec _ (Run.exec _ _ _) _), view_exec_of_not_concerns hfresh.2 hpost]

/--
**設定の変更が効くまで。** `early` の読み出しから 60 秒を過ぎ、その後の `late` の間はその org の設定が書かれず、DB に
届いているなら、四つの cache による判定はどれも今の設定によるものである。`late` の間も、ほかの org の呼び出しは
あってよい。
-/
theorem config_settled
    (hfresh : Run.Along (step app) (Fresh app) s (ReadCache.writes (early ++ late)))
    (hearly : ∀ t up, .read t up ∈ early → t + 60000000 < now)
    (hlate : ∀ t up, .read t up ∈ late → up = true ∧ t ≤ now)
    (hquiet : ∀ ev, .write ev ∈ late → concerns org ev = false) (finding : List (String × Json)) :
    let current := Run.exec (step app) s (ReadCache.writes (early ++ late))
    ((policyCache app (some org)).read now true current
        (Run.exec (ReadCache.State.step (step app) (policyCache app (some org))) ⟨s, none⟩
          (early ++ late)).entry).2 = some (policyOf app (some org) current) ∧
      ((routesCache (some org)).read now true current
        (Run.exec (ReadCache.State.step (step app) (routesCache (some org))) ⟨s, none⟩
          (early ++ late)).entry).2 = some (routesOf (some org) current) ∧
      ((denyCache org).read now true current
        (Run.exec (ReadCache.State.step (step app) (denyCache org)) ⟨s, none⟩
          (early ++ late)).entry).2 = some (deniedOf org current) ∧
      mutedBy app.lib now finding ((suppressionCache (.str org)).read now true current
        (Run.exec (ReadCache.State.step (step app) (suppressionCache (.str org))) ⟨s, none⟩
          (early ++ late)).entry).2 =
        mutedBy app.lib now finding
          (some (activeSuppressions now (.str org) current.suppressionTable)) := by
  intro current
  have hup : ∀ t up, .read t up ∈ late → up = true := fun t up h => (hlate t up h).1
  -- policy と経路は 60 秒で、ほかの二つは 60 秒を過ぎて、読み直す
  have hshort : ∀ t up, .read t up ∈ early → decide (now < t + 60000000) = false := by
    intro t up h
    have := hearly t up h
    exact decide_eq_false (by omega)
  have hlong : ∀ t up, .read t up ∈ early → (!decide (t + 60000000 < now)) = false := by
    intro t up h
    rw [decide_eq_true (hearly t up h)]
    rfl
  refine ⟨?_, ?_, ?_, ?_⟩
  · obtain ⟨t, -, ht⟩ := ReadCache.settled (p := policyCache app (some org))
      hshort hup fun pre hpre t => stable_of_quiet _ (fun _ => policyOf_view) hfresh hquiet hpre
    exact ht
  · obtain ⟨t, -, ht⟩ := ReadCache.settled (p := routesCache (some org))
      hshort hup fun pre hpre t => stable_of_quiet _ (fun _ => routesOf_view) hfresh hquiet hpre
    exact ht
  · obtain ⟨t, -, ht⟩ := ReadCache.settled (p := denyCache org)
      hlong hup fun pre hpre t => stable_of_quiet _ (fun _ => deniedOf_view) hfresh hquiet hpre
    exact ht
  · obtain ⟨t, htime, ht⟩ := ReadCache.settled (p := suppressionCache (.str org))
      hlong hup fun pre hpre t => stable_of_quiet
        (fun s => activeSuppressions t (.str org) s.suppressionTable)
        (fun _ => activeSuppressions_view t) hfresh hquiet hpre
    have hle : t ≤ now := by
      rcases htime with rfl | hmem
      · exact le_refl _
      · exact (hlate t true hmem).2
    rw [ht]
    exact mutedBy_activeSuppressions hle _ _ _

end

/-! ## 例 -/

/-- admin が承認を取り下げる。 -/
def withdrawn : Event where
  env := { now := 30, suppressionId := 2, auditId := 3 }
  ctx := adminOf "org-a"
  call := .updateSuppression 1 [("status", .str "revoked")]

/-- ある org の admin が、`value` を拒む。 -/
def deniesValue (org value : String) (n : Nat) : Event where
  env := { now := 40, suppressionId := 2, fpId := (· + n), auditId := n + 3 }
  ctx := adminOf org
  call := .createFpList [("kind", .str "deny"), ("fp_type", .str "ja4"), ("value", .str value)]

/-- admin が経路を足す。 -/
def routesHost : Event where
  env := { now := 50, suppressionId := 2, fpId := (· + 2), auditId := 5 }
  ctx := adminOf "org-a"
  call := .createAlertRoute [("match_type", .str "host"), ("match_value", .str "mx1"),
    ("owner", .str "mail")]

/-- admin が通知の条件を変える。 -/
def lowersPolicy : Event where
  env := { now := 55, suppressionId := 2, fpId := (· + 2), routeId := 2, auditId := 6 }
  ctx := adminOf "org-a"
  call := .setAlertPolicy [("min_severity", .str "low"), ("digest", .str "daily")]

/-- 承認された suppression を dispatcher が読み、その後に取り下げられ、ほかの設定も変わる。 -/
def readThenChanged : List (ReadCache.Event Event) :=
  [.write requested, .write approved, .read 20 true, .write withdrawn,
    .write (deniesValue "org-a" "t13d" 1), .write routesHost, .write lowersPolicy]

/-- 次に読むときは、ほかの org の設定も変わっている。 -/
def otherThenRead : List (ReadCache.Event Event) :=
  [.write { deniesValue "org-b" "t12d" 2 with
      env := { now := 60, suppressionId := 2, fpId := (· + 2), routeId := 2, auditId := 7 } },
    .read 60000030 true]

/-- 変更を知らない読み出しから 60 秒を過ぎれば、四つの cache はどれも今の設定を答え、finding は黙らされない。 -/
theorem config_settled_changed :
    let current := Run.exec (step plainApp) {} (ReadCache.writes (readThenChanged ++ otherThenRead))
    ((policyCache plainApp (some "org-a")).read 60000031 true current
        (Run.exec (ReadCache.State.step (step plainApp) (policyCache plainApp (some "org-a")))
          ⟨{}, none⟩ (readThenChanged ++ otherThenRead)).entry).2 =
        some { minSeverity := "low", digest := "daily" } ∧
      ((routesCache (some "org-a")).read 60000031 true current
        (Run.exec (ReadCache.State.step (step plainApp) (routesCache (some "org-a"))) ⟨{}, none⟩
          (readThenChanged ++ otherThenRead)).entry).2 =
        some [{ matchType := "host", matchValue := "mx1", owner := "mail" }] ∧
      ((denyCache "org-a").read 60000031 true current
        (Run.exec (ReadCache.State.step (step plainApp) (denyCache "org-a")) ⟨{}, none⟩
          (readThenChanged ++ otherThenRead)).entry).2 = some [("ja4", "t13d")] ∧
      mutedBy plainApp.lib 60000031 [("rule_id", .str "weak-cipher-suite")]
        ((suppressionCache (.str "org-a")).read 60000031 true current
          (Run.exec (ReadCache.State.step (step plainApp) (suppressionCache (.str "org-a")))
            ⟨{}, none⟩ (readThenChanged ++ otherThenRead)).entry).2 = false := by
  have hfresh : Run.Along (step plainApp) (Fresh plainApp) {}
      (ReadCache.writes (readThenChanged ++ otherThenRead)) :=
    ⟨⟨rfl, fun _ => rfl, Nat.succ_injective, rfl, rfl, fun _ ht => absurd ht List.not_mem_nil, rfl⟩,
     ⟨rfl, fun _ => rfl, Nat.succ_injective, rfl, rfl, fun _ ht => absurd ht List.not_mem_nil, rfl⟩,
     ⟨rfl, fun _ => rfl, Nat.succ_injective, rfl, rfl, fun _ ht => absurd ht List.not_mem_nil, rfl⟩,
     ⟨rfl, fun _ => rfl, add_left_injective 1, rfl, rfl, fun _ ht => absurd ht List.not_mem_nil, rfl⟩,
     ⟨rfl, fun _ => rfl, add_left_injective 2, rfl, rfl, fun _ ht => absurd ht List.not_mem_nil, rfl⟩,
     ⟨rfl, fun _ => rfl, add_left_injective 2, rfl, rfl, fun _ ht => absurd ht List.not_mem_nil, rfl⟩,
     ⟨rfl, fun _ => rfl, add_left_injective 2, rfl, rfl, fun _ ht => absurd ht List.not_mem_nil, rfl⟩,
     trivial⟩
  have hearly : ∀ t up, .read t up ∈ readThenChanged → t + 60000000 < 60000031 := by
    intro t up h
    simp only [readThenChanged, List.mem_cons, reduceCtorEq, false_or, ReadCache.Event.read.injEq,
      List.not_mem_nil, or_false] at h
    omega
  have hlate : ∀ t up, .read t up ∈ otherThenRead → up = true ∧ t ≤ 60000031 := by
    intro t up h
    simp only [otherThenRead, List.mem_cons, reduceCtorEq, false_or, ReadCache.Event.read.injEq,
      List.not_mem_nil, or_false] at h
    exact ⟨h.2, by omega⟩
  have hquiet : ∀ ev, .write ev ∈ otherThenRead → concerns "org-a" ev = false := by
    intro ev h
    simp only [otherThenRead, List.mem_cons, reduceCtorEq, List.not_mem_nil, or_false,
      ReadCache.Event.write.injEq] at h
    rw [h]
    decide
  obtain ⟨hpolicy, hroutes, hdenied, hmuted⟩ := config_settled hfresh hearly hlate hquiet
    [("rule_id", .str "weak-cipher-suite")]
  exact ⟨hpolicy.trans rfl, hroutes.trans rfl, hdenied.trans rfl, hmuted.trans rfl⟩

end CipherPost.Api.Console
