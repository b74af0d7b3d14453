import CipherPost.Api.ConsoleSpec
import CipherPost.Infra.Interference

/-!
# 管理の口と org の分離

ある org の者が管理の口で見るものは、その org の者の呼び出しと、alert の channel の設定だけで決まる。ほかの org の
呼び出しは、間に何がどう挟まっても、応答にも表にも現れない。channel の設定の file だけは org に分かれていない。

二段に分かれる。

* **一歩**。口の決めることは、その org の部分だけで決まる（`plan_view`）。変更はその org の部分と交換し、
  ほかの org の部分を動かさない（`view_settle_own`・`view_settle_other`）。
* **実行**。`Interference.Unwinding` から出る（`isolated`）。

番号の列は表ごとに一つで、org に分かれていない。渡される番号は環境が決めるものとし、使われている番号を渡さない
ことを `Fresh` とする。ほかの org の追加で番号がずれることは、ここでは見ない。二つの実行の同じ呼び出しは、時計のほか、
番号と token も同じものを受け取る。
-/

namespace CipherPost.Api.Console

open CipherPost.Core CipherPost.Live CipherPost.Proactive CipherPost.Interference

/-! ## org から見える部分 -/

/-- org から見える部分。channel の設定は org に分かれていない。 -/
def view (org : String) (s : Console) : Console where
  suppressions := s.suppressions.owned (·.orgId) org
  fpLists := s.fpLists.owned (·.orgId) org
  routes := s.routes.owned (·.orgId) org
  policies := s.policies.filter fun k _ => decide (k = org)
  tokens := s.tokens.owned (·.orgId) org
  audit := s.audit.owned (·.orgId) org
  channels := s.channels

/-- 渡される番号と token は、まだ使われていない。 -/
structure Fresh (app : App) (s : Console) (ev : Event) : Prop where
  suppression : s.suppressions.get? ev.env.suppressionId = none
  fp : ∀ i, s.fpLists.get? (ev.env.fpId i) = none
  fpInj : Function.Injective ev.env.fpId
  route : s.routes.get? ev.env.routeId = none
  token : s.tokens.get? ("at-" ++ ev.env.uuid) = none
  hash : ∀ t ∈ s.tokens.values, t.keyHash ≠ app.sha256 (rawToken ev.env)
  audit : s.audit.get? ev.env.auditId = none

/-- org の者の呼び出し。 -/
def calls (org : String) (ev : Event) : Bool := decide (ev.ctx.orgId = org)

/-- channel の設定を書く呼び出し。 -/
def Call.setsChannels : Call → Bool
  | .setAlertConfig _ => true
  | _ => false

/-- org に関わる呼び出し。 -/
def concerns (org : String) (ev : Event) : Bool := calls org ev || ev.call.setsChannels

variable {app : App} {env : Env} {ctx : AuthContext} {s : Console} {ev : Event} {org : String}

/-! ## 口の読むもの -/

/-- 呼んだ者の org の行だけを渡す口は、その org の部分だけを見る。 -/
theorem withOwn_owned {α κ : Type} [DecidableEq κ] (d : Dict κ α) (k : κ) (owner : α → String)
    (detail : String) (f : α → Except HttpError Effect) :
    withOwn ctx ((d.owned owner ctx.orgId).get? k) owner detail f =
      withOwn ctx (d.get? k) owner detail f := by
  rw [Dict.get?_owned]
  cases d.get? k with
  | none => rfl
  | some row =>
    by_cases h : owner row = ctx.orgId
    · have hp : decide (owner row = ctx.orgId) = true := decide_eq_true h
      rw [Option.filter_some, if_pos hp]
    · have hn : ¬decide (owner row = ctx.orgId) = true := by simpa using h
      rw [Option.filter_some, if_neg hn]
      simp only [withOwn, ne_eq, h, not_false_eq_true, if_true]

theorem get?_view_policies : (s.view org).policies.get? org = s.policies.get? org := by
  show (s.policies.filter _).get? org = _
  rw [Dict.get?_filter]
  cases s.policies.get? org <;> simp

/-- **口の決めることは、呼んだ者の org の部分だけで決まる。** -/
theorem plan_view (call : Call) :
    plan app env ctx (s.view ctx.orgId) call = plan app env ctx s call := by
  have hbody : body app env ctx (s.view ctx.orgId) call = body app env ctx s call := by
    cases call with
    | listAudit limit action =>
      unfold body listAudit view
      rw [Dict.owned_owned]
    | listSuppressions status limit page perPage =>
      unfold body listSuppressions ownSuppressions view
      rw [Dict.owned_owned]
    | suppressionsExpiring days =>
      unfold body suppressionsExpiring ownSuppressions view
      rw [Dict.owned_owned]
    | createSuppression b => rfl
    | updateSuppression supId b => exact withOwn_owned _ _ _ _ _
    | deleteSuppression supId => exact withOwn_owned _ _ _ _ _
    | listFpLists =>
      unfold body listFpLists ownFpLists view
      rw [Dict.owned_owned]
    | createFpList b => rfl
    | deleteFpList entryId => exact withOwn_owned _ _ _ _ _
    | exportFpLists format =>
      unfold body exportFpLists ownFpLists view
      rw [Dict.owned_owned]
    | importFpLists b => rfl
    | listAlertRoutes =>
      unfold body listAlertRoutes view
      rw [Dict.owned_owned]
    | createAlertRoute b => rfl
    | deleteAlertRoute routeId => exact withOwn_owned _ _ _ _ _
    | getAlertPolicy =>
      unfold body getAlertPolicy
      rw [get?_view_policies]
    | setAlertPolicy b => rfl
    | listAgentTokens =>
      unfold body listAgentTokens view
      rw [Dict.owned_owned]
    | createAgentToken b => rfl
    | revokeAgentToken tokenId => exact withOwn_owned _ _ _ _ _
    | getAlertConfig => rfl
    | setAlertConfig cfg => rfl
  unfold plan
  rw [hbody]

/-! ## 変更 -/

theorem fpKeys_free (h : Fresh app s ev) {rows : List (Nat × FpRow)}
    (hids : rows.map Prod.fst = (List.range rows.length).map ev.env.fpId) :
    (rows.map Prod.fst).Nodup ∧ ∀ r ∈ rows, s.fpLists.get? r.1 = none := by
  constructor
  · rw [hids]
    exact List.nodup_range.map h.fpInj
  · intro r hr
    have hmem : r.1 ∈ rows.map Prod.fst := List.mem_map_of_mem hr
    rw [hids] at hmem
    obtain ⟨i, -, hi⟩ := List.mem_map.mp hmem
    rw [← hi]
    exact h.fp i

/-- 新しい番号と token の下では、key は重ならない。 -/
theorem keysFree_of_fresh (h : Fresh app s ev) {c : Change}
    (hmade : Made app ev.env ev.ctx s ev.call c) : s.keysFree c = true := by
  cases c with
  | addSuppression id row =>
    show (s.suppressions.get? id).isNone = true
    rw [hmade.1, h.suppression]
    rfl
  | addFp rows =>
    obtain ⟨hnodup, hfree⟩ := fpKeys_free h hmade.1
    refine Bool.and_eq_true_iff.mpr ⟨decide_eq_true hnodup, List.all_eq_true.mpr fun r hr => ?_⟩
    rw [hfree r hr]
    rfl
  | addRoute id row =>
    obtain ⟨-, hid, -⟩ := hmade
    show (s.routes.get? id).isNone = true
    rw [hid, h.route]
    rfl
  | addToken id row =>
    obtain ⟨-, hid, -, hhash, -⟩ := hmade
    refine Bool.and_eq_true_iff.mpr ⟨?_, List.all_eq_true.mpr fun t ht => ?_⟩
    · rw [hid, h.token]
      rfl
    · rw [hhash]
      exact decide_eq_true (h.hash t ht)
  | _ => rfl

/-- 部分表でも、渡される番号は使われていない。 -/
theorem Fresh.view (h : Fresh app s ev) (org : String) : Fresh app (s.view org) ev where
  suppression := Dict.get?_owned_of_none h.suppression
  fp := fun i => Dict.get?_owned_of_none (h.fp i)
  fpInj := h.fpInj
  route := Dict.get?_owned_of_none h.route
  token := Dict.get?_owned_of_none h.token
  hash := by
    intro t ht
    obtain ⟨k, hk⟩ := (Dict.mem_values_iff _ _).mp ht
    exact h.hash t ((Dict.mem_values_iff _ _).mpr ⟨k, (Dict.get?_owned_eq_some.mp hk).1⟩)
  audit := Dict.get?_owned_of_none h.audit

/-- 呼んだ者の org では、変更はその org の部分の変更である。 -/
theorem view_apply_own (hf : Fresh app s ev) {c : Change} (h : Made app ev.env ev.ctx s ev.call c) :
    (s.apply c).view ev.ctx.orgId = (s.view ev.ctx.orgId).apply c := by
  cases c with
  | none => rfl
  | addSuppression id row =>
    obtain ⟨rfl, hrow⟩ := h
    have hset := Dict.owned_set_own (fun r : SuppressionRow => r.orgId) hrow.org
      fun w hw => nomatch hf.suppression.symm.trans hw
    exact congrArg (fun d => { s.view ev.ctx.orgId with suppressions := d }) hset
  | setSuppression id row =>
    obtain ⟨-, old, reason, hold, horg, hrow, -⟩ := h
    have hrowOrg : row.orgId = ev.ctx.orgId := by rw [hrow]; exact horg
    have hset := Dict.owned_set_own (fun r : SuppressionRow => r.orgId) hrowOrg
      fun w hw => Option.some.inj (hold.symm.trans hw) ▸ horg
    exact congrArg (fun d => { s.view ev.ctx.orgId with suppressions := d }) hset
  | dropSuppression id =>
    exact congrArg (fun d => { s.view ev.ctx.orgId with suppressions := d })
      (Dict.owned_erase (fun r : SuppressionRow => r.orgId) id)
  | addFp rows =>
    obtain ⟨hnodup, hfree⟩ := fpKeys_free hf h.1
    exact congrArg (fun d => { s.view ev.ctx.orgId with fpLists := d })
      (Dict.owned_addAll_own FpRow.orgId (fun r hr => (h.2 r hr).org) hnodup hfree)
  | dropFp id =>
    exact congrArg (fun d => { s.view ev.ctx.orgId with fpLists := d })
      (Dict.owned_erase FpRow.orgId id)
  | addRoute id row =>
    obtain ⟨-, rfl, horg, -⟩ := h
    have hset := Dict.owned_set_own RouteRow.orgId horg
      fun w hw => nomatch hf.route.symm.trans hw
    exact congrArg (fun d => { s.view ev.ctx.orgId with routes := d }) hset
  | dropRoute id =>
    exact congrArg (fun d => { s.view ev.ctx.orgId with routes := d })
      (Dict.owned_erase RouteRow.orgId id)
  | setPolicy org row =>
    obtain ⟨-, rfl, -⟩ := h
    have hset := Dict.filter_set_of_true (d := s.policies) (v := row)
      (p := fun k _ => decide (k = ev.ctx.orgId)) (decide_eq_true rfl) fun _ _ => decide_eq_true rfl
    exact congrArg (fun d => { s.view ev.ctx.orgId with policies := d }) hset
  | addToken id row =>
    obtain ⟨-, rfl, horg, -⟩ := h
    have hset := Dict.owned_set_own TokenRow.orgId horg
      fun w hw => nomatch hf.token.symm.trans hw
    exact congrArg (fun d => { s.view ev.ctx.orgId with tokens := d }) hset
  | setToken id row =>
    obtain ⟨-, old, hold, horg, hrow⟩ := h
    have hrowOrg : row.orgId = ev.ctx.orgId := by rw [hrow]; exact horg
    have hset := Dict.owned_set_own TokenRow.orgId hrowOrg
      fun w hw => Option.some.inj (hold.symm.trans hw) ▸ horg
    exact congrArg (fun d => { s.view ev.ctx.orgId with tokens := d }) hset
  | setChannels cfg => rfl

/-- channel の設定のほかの変更は、ほかの org の部分を動かさない。 -/
theorem view_apply_other (hf : Fresh app s ev) {c : Change} (h : Made app ev.env ev.ctx s ev.call c)
    (hne : ev.ctx.orgId ≠ org) (hc : ∀ cfg, c ≠ .setChannels cfg) :
    (s.apply c).view org = s.view org := by
  cases c with
  | none => rfl
  | addSuppression id row =>
    obtain ⟨rfl, hrow⟩ := h
    have hset := Dict.owned_set_other (fun r : SuppressionRow => r.orgId) (hrow.org ▸ hne)
      fun w hw => nomatch hf.suppression.symm.trans hw
    exact congrArg (fun d => { s.view org with suppressions := d }) hset
  | setSuppression id row =>
    obtain ⟨-, old, reason, hold, horg, hrow, -⟩ := h
    have hrowOrg : row.orgId = ev.ctx.orgId := by rw [hrow]; exact horg
    have hset := Dict.owned_set_other (fun r : SuppressionRow => r.orgId) (hrowOrg ▸ hne)
      fun w hw => Option.some.inj (hold.symm.trans hw) ▸ horg ▸ hne
    exact congrArg (fun d => { s.view org with suppressions := d }) hset
  | dropSuppression id =>
    obtain ⟨-, old, hold, horg⟩ := h
    have herase := Dict.owned_erase_other (fun r : SuppressionRow => r.orgId)
      fun w hw => Option.some.inj (hold.symm.trans hw) ▸ horg ▸ hne
    exact congrArg (fun d => { s.view org with suppressions := d }) herase
  | addFp rows =>
    obtain ⟨hnodup, hfree⟩ := fpKeys_free hf h.1
    exact congrArg (fun d => { s.view org with fpLists := d })
      (Dict.owned_addAll_other FpRow.orgId (fun r hr => (h.2 r hr).org ▸ hne) hnodup hfree)
  | dropFp id =>
    obtain ⟨old, hold, horg⟩ := h
    have herase := Dict.owned_erase_other FpRow.orgId
      fun w hw => Option.some.inj (hold.symm.trans hw) ▸ horg ▸ hne
    exact congrArg (fun d => { s.view org with fpLists := d }) herase
  | addRoute id row =>
    obtain ⟨-, rfl, horg, -⟩ := h
    have hset := Dict.owned_set_other RouteRow.orgId (horg ▸ hne)
      fun w hw => nomatch hf.route.symm.trans hw
    exact congrArg (fun d => { s.view org with routes := d }) hset
  | dropRoute id =>
    obtain ⟨-, old, hold, horg⟩ := h
    have herase := Dict.owned_erase_other RouteRow.orgId
      fun w hw => Option.some.inj (hold.symm.trans hw) ▸ horg ▸ hne
    exact congrArg (fun d => { s.view org with routes := d }) herase
  | setPolicy org' row =>
    obtain ⟨-, rfl, -⟩ := h
    have hset := Dict.filter_set_of_false (d := s.policies) (v := row)
      (p := fun k _ => decide (k = org)) (decide_eq_false hne) fun _ _ => decide_eq_false hne
    exact congrArg (fun d => { s.view org with policies := d }) hset
  | addToken id row =>
    obtain ⟨-, rfl, horg, -⟩ := h
    have hset := Dict.owned_set_other TokenRow.orgId (horg ▸ hne)
      fun w hw => nomatch hf.token.symm.trans hw
    exact congrArg (fun d => { s.view org with tokens := d }) hset
  | setToken id row =>
    obtain ⟨-, old, hold, horg, hrow⟩ := h
    have hrowOrg : row.orgId = ev.ctx.orgId := by rw [hrow]; exact horg
    have hset := Dict.owned_set_other TokenRow.orgId (hrowOrg ▸ hne)
      fun w hw => Option.some.inj (hold.symm.trans hw) ▸ horg ▸ hne
    exact congrArg (fun d => { s.view org with tokens := d }) hset
  | setChannels cfg => exact absurd rfl (hc cfg)

theorem apply_audit (s : Console) (c : Change) : (s.apply c).audit = s.audit := by cases c <;> rfl

/-- audit の行も、呼んだ者の org の部分に入る。 -/
theorem view_logAudit_own {t : Console} (h : t.audit.get? ev.env.auditId = none) (note : Note) :
    (t.logAudit ev.env ev.ctx note).view ev.ctx.orgId =
      (t.view ev.ctx.orgId).logAudit ev.env ev.ctx note := by
  have hview : (t.view ev.ctx.orgId).audit.get? ev.env.auditId = none :=
    Dict.get?_owned_of_none h
  unfold logAudit
  rw [h, hview]
  split
  · have hset := Dict.owned_set_own (d := t.audit) AuditRow.orgId
      (r := ⟨ev.ctx.orgId, ev.ctx.email, note.action, note.resource, note.detail, ev.env.now⟩) rfl
      fun w hw => nomatch h.symm.trans hw
    exact congrArg (fun d => { t.view ev.ctx.orgId with audit := d }) hset
  · rfl

theorem view_logAudit_other {t : Console} (h : t.audit.get? ev.env.auditId = none)
    (hne : ev.ctx.orgId ≠ org) (note : Note) :
    (t.logAudit ev.env ev.ctx note).view org = t.view org := by
  unfold logAudit
  split
  · have hfree : ∀ w, t.audit.get? ev.env.auditId = some w → AuditRow.orgId w ≠ org :=
      fun w hw => absurd (h.symm.trans hw) (by simp)
    have hset := Dict.owned_set_other (d := t.audit) AuditRow.orgId
      (r := ⟨ev.ctx.orgId, ev.ctx.email, note.action, note.resource, note.detail, ev.env.now⟩) hne
      hfree
    exact congrArg (fun d => { t.view org with audit := d }) hset
  · rfl

@[simp] theorem view_view : (s.view org).view org = s.view org := by
  have hpol : (s.policies.filter fun k _ => decide (k = org)).filter (fun k _ => decide (k = org)) =
      s.policies.filter fun k _ => decide (k = org) := by
    refine Dict.ext ?_
    show (s.policies.entries.filter _).filter _ = s.policies.entries.filter _
    rw [List.filter_filter]
    exact List.filter_congr fun e _ => Bool.and_self _
  unfold Console.view
  simp only [Dict.owned_owned, hpol]

/-! ## 一歩 -/

theorem commits_view (hf : Fresh app s ev) {e : Effect} {note : Note} :
    Commits app (s.view ev.ctx.orgId) ev e note ↔ Commits app s ev e note := by
  unfold Commits
  rw [plan_view]
  refine and_congr_right fun hplan => and_congr_right fun _ => and_congr_right fun _ => ?_
  have hmade := made_of_plan hplan
  refine iff_of_true ?_ (keysFree_of_fresh hf hmade)
  exact keysFree_of_fresh (hf.view _) (made_of_plan ((plan_view ev.call).trans hplan))

/-- 呼んだ者の org の部分は、その部分だけからの呼び出しと同じ先へ進む。 -/
theorem view_step_own (hf : Fresh app s ev) :
    (step app s ev).view ev.ctx.orgId = step app (s.view ev.ctx.orgId) ev := by
  rcases handle_cases app s ev with ⟨e, note, hc⟩ | ⟨hn, hs⟩
  · have hc' := (commits_view hf).mpr hc
    have haudit : (s.apply e.change).audit.get? ev.env.auditId = none := by
      rw [apply_audit]
      exact hf.audit
    unfold step
    rw [handle_of_commits hc, handle_of_commits hc', view_logAudit_own haudit,
      view_apply_own hf (made_of_plan hc.1)]
  · rw [hs]
    rcases handle_cases app (s.view ev.ctx.orgId) ev with
      ⟨e, note, hc'⟩ | ⟨-, hs'⟩
    · exact absurd ((commits_view hf).mp hc') (hn e note)
    · exact hs'.symm

theorem reply_view (hf : Fresh app s ev) :
    reply app s ev = reply app (s.view ev.ctx.orgId) ev := by
  unfold reply handle
  rw [plan_view]
  cases hplan : plan app ev.env ev.ctx s ev.call with
  | error err => rfl
  | ok e =>
    have hmade := made_of_plan hplan
    have hmade' := made_of_plan ((plan_view ev.call).trans hplan)
    simp only [settle, keysFree_of_fresh hf hmade, keysFree_of_fresh (hf.view _) hmade']
    split
    · rfl
    · split
      · rfl
      · rfl

/-- channel の設定のほかの呼び出しは、ほかの org の部分を動かさない。 -/
theorem view_step_other (hf : Fresh app s ev) (hne : ev.ctx.orgId ≠ org)
    (hset : ev.call.setsChannels = false) : (step app s ev).view org = s.view org := by
  rcases handle_cases app s ev with ⟨e, note, hc⟩ | ⟨-, hs⟩
  · have haudit : (s.apply e.change).audit.get? ev.env.auditId = none := by
      rw [apply_audit]
      exact hf.audit
    have hchange : ∀ cfg, e.change ≠ .setChannels cfg := by
      intro cfg heq
      have hmade := made_of_plan hc.1
      rw [heq] at hmade
      rw [hmade.2] at hset
      cases hset
    unfold step
    rw [handle_of_commits hc, view_logAudit_other haudit hne,
      view_apply_other hf (made_of_plan hc.1) hne hchange]
  · rw [hs]

/-- channel の設定の呼び出しの変更は、設定の file だけである。 -/
theorem change_of_setsChannels {call : Call} (hset : call.setsChannels = true) {e : Effect}
    (hplan : plan app env ctx s call = .ok e) : ∃ cfg, e.change = .setChannels cfg := by
  cases call with
  | setAlertConfig cfg =>
    unfold plan at hplan
    split at hplan
    · exact ⟨cfg, change_of_ok hplan⟩
    · exact absurd hplan refuse_ne_ok
  | _ => cases hset

/-- channel の設定の呼び出しは、どの表も読まない。 -/
theorem commits_setsChannels (hset : ev.call.setsChannels = true) (t : Console) {e : Effect}
    {note : Note} : Commits app s ev e note ↔ Commits app t ev e note := by
  have hplan : plan app ev.env ev.ctx s ev.call = plan app ev.env ev.ctx t ev.call := by
    cases hcall : ev.call with
    | setAlertConfig cfg => rfl
    | _ => rw [hcall] at hset; cases hset
  unfold Commits
  rw [hplan]
  refine and_congr_right fun h => and_congr_right fun _ => and_congr_right fun _ => ?_
  obtain ⟨cfg, hcfg⟩ := change_of_setsChannels hset h
  rw [hcfg]
  exact Iff.rfl

/-- ほかの org の channel の設定は、設定の file のほかは見えない。 -/
theorem view_step_setsChannels (hf : Fresh app s ev) (hne : ev.ctx.orgId ≠ org)
    (hset : ev.call.setsChannels = true) :
    (step app s ev).view org = (step app (s.view org) ev).view org := by
  have haudit : ∀ {t : Console} (c : Change), t.audit.get? ev.env.auditId = none →
      (t.apply c).audit.get? ev.env.auditId = none := by
    intro t c h
    rw [apply_audit]
    exact h
  rcases handle_cases app s ev with ⟨e, note, hc⟩ | ⟨hn, hs⟩
  · have hc' := (commits_setsChannels hset (s.view org)).mp hc
    obtain ⟨cfg, hcfg⟩ := change_of_setsChannels hset hc.1
    unfold step
    rw [handle_of_commits hc, handle_of_commits hc', view_logAudit_other (haudit _ hf.audit) hne,
      view_logAudit_other (haudit _ (hf.view org).audit) hne, hcfg]
    show { s.view org with channels := some cfg } =
      { (s.view org).view org with channels := some cfg }
    rw [view_view]
  · have hs' : step app (s.view org) ev = s.view org := by
      rcases handle_cases app (s.view org) ev with ⟨e, note, hc⟩ | ⟨-, hs'⟩
      · exact absurd ((commits_setsChannels hset s).mp hc) (hn e note)
      · exact hs'
    rw [hs, hs', view_view]

/-! ## 実行 -/

/-- 管理の口は、org ごとに巻き戻せる。 -/
theorem unwinding (app : App) (org : String) :
    Unwinding (step app) (reply app) (fun v ev => (step app v ev).view org) (reply app) (view org)
      (concerns org) (calls org) (Fresh app) where
  keeps := by
    intro s ev hf hc
    by_cases horg : ev.ctx.orgId = org
    · subst horg
      rw [← view_step_own hf, view_view]
    · -- ほかの org の呼び出しで残るのは、channel の設定だけである
      have hset : ev.call.setsChannels = true := by
        simpa [concerns, calls, horg] using hc
      exact view_step_setsChannels hf horg hset
  drops := by
    intro s ev hf hc
    obtain ⟨hcalls, hset⟩ := Bool.or_eq_false_iff.mp hc
    exact view_step_other hf (of_decide_eq_false hcalls) hset
  replies := by
    intro s ev hf hs
    have horg : ev.ctx.orgId = org := of_decide_eq_true hs
    subst horg
    exact reply_view hf
  sees_affects := by
    intro ev hs
    unfold concerns
    rw [hs]
    rfl

/--
**管理の口の分離。** 番号の列が使われている番号を渡さないなら、ある org の者の呼び出しと channel の設定の呼び出しが、
渡される番号と token も含めて同じで、その org の部分が同じ状態から始まる二つの実行では、その org の者の受け取る応答も、終わりのその org の部分も
同じである。ほかの org の呼び出しは、何がどの順に挟まってもよい。
-/
theorem isolated {s s' : Console} {evs evs' : List Event}
    (hfresh : Run.Along (step app) (Fresh app) s evs)
    (hfresh' : Run.Along (step app) (Fresh app) s' evs') (hview : s.view org = s'.view org)
    (hevents : evs.filter (concerns org) = evs'.filter (concerns org)) :
    observed (step app) (reply app) (calls org) s evs =
        observed (step app) (reply app) (calls org) s' evs' ∧
      (Run.exec (step app) s evs).view org = (Run.exec (step app) s' evs').view org :=
  (unwinding app org).observed_congr hfresh hfresh' hview hevents

/-! ## 例 -/

/-- 文字列でない値を読まない library。 -/
def plainLib : MatchLib where
  lower := lower
  text := fun _ => ""
  inNetwork := fun _ _ => false
  fnmatch := fun name pat => decide (name = pat)

/-- 既定の設定。hash は文字列そのものとする。 -/
def plainApp : App where
  lib := plainLib
  sha256 := id

/-- ある org の admin。 -/
def adminOf (org : String) : AuthContext := ⟨"user-1", "admin@" ++ org, org, "admin", .jwt⟩

/-- ある org の admin が、番号 `n` の suppression を作る呼び出し。 -/
def creates (org : String) (n : Nat) : Event where
  env := { now := 0, suppressionId := n, auditId := n }
  ctx := adminOf org
  call := .createSuppression [("rule_id", .str "weak-cipher-suite"), ("reason", .str "legacy")]

/-- ある org の admin が suppression を並べる呼び出し。 -/
def lists (org : String) : Event where
  env := { now := 0, suppressionId := 3, auditId := 3 }
  ctx := adminOf org
  call := .listSuppressions none none none none

theorem fresh_create_list : Run.Along (step plainApp) (Fresh plainApp) {}
    [creates "org-a" 1, creates "org-b" 2, lists "org-a"] :=
  ⟨⟨rfl, fun _ => rfl, Nat.succ_injective, rfl, rfl, fun _ ht => absurd ht List.not_mem_nil, rfl⟩,
   ⟨rfl, fun _ => rfl, Nat.succ_injective, rfl, rfl, fun _ ht => absurd ht List.not_mem_nil, rfl⟩,
   ⟨rfl, fun _ => rfl, Nat.succ_injective, rfl, rfl, fun _ ht => absurd ht List.not_mem_nil, rfl⟩,
   trivial⟩

/-- 間にほかの org の呼び出しが挟まっても、一覧は同じである。 -/
theorem isolated_interleaved :
    observed (step plainApp) (reply plainApp) (calls "org-a") {}
        [creates "org-a" 1, creates "org-b" 2, lists "org-a"] =
      observed (step plainApp) (reply plainApp) (calls "org-a") {}
        [creates "org-a" 1, lists "org-a"] := by
  have hfresh' : Run.Along (step plainApp) (Fresh plainApp) {} [creates "org-a" 1, lists "org-a"] :=
    ⟨⟨rfl, fun _ => rfl, Nat.succ_injective, rfl, rfl, fun _ ht => absurd ht List.not_mem_nil, rfl⟩,
     ⟨rfl, fun _ => rfl, Nat.succ_injective, rfl, rfl, fun _ ht => absurd ht List.not_mem_nil, rfl⟩,
     trivial⟩
  exact (isolated fresh_create_list hfresh' rfl rfl).1

end CipherPost.Api.Console
