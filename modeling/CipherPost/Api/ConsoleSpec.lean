import CipherPost.Api.Console

/-!
# 管理の口のすること

`Console.plan` の決める変更が、どの口からどの形で出るか。後の不変量と性質は、口の定義ではなくここの補題から導く。

* `of_createSuppression`・`of_importFpLists` など — 口ごとの形
* `made_of_plan` — どの口の決めた変更も `Made` である
* `handle_cases` — 呼び出しは、変更を commit して audit を書くか、状態を変えない
-/

namespace CipherPost.Api.Console

open CipherPost.Core CipherPost.Proactive
open CipherPost.Live hiding strip

/-! ## 口のすること -/

section

variable {app : App} {env : Env} {ctx : AuthContext} {s : Console} {e : Effect}

theorem refuse_ne_ok {status : Nat} {detail : String} : refuse status detail ≠ .ok e :=
  fun h => nomatch h

theorem failed_ne_ok : failed ≠ .ok e := fun h => nomatch h

theorem change_of_ok {c : Change} {note : Option Note} {r : Reply}
    (h : (Except.ok { change := c, note, reply := r } : Except HttpError Effect) = .ok e) :
    e.change = c := by
  rw [← Except.ok.inj h]

theorem change_answer {r : Reply} (h : answer r = .ok e) : e.change = .none := change_of_ok h

theorem length_cut (t : String) (n : Nat) : (cut t n).length ≤ n := by
  rw [cut, String.length_ofList, List.length_take]
  exact Nat.min_le_left _ _

theorem of_createSuppression {b : Fields} (h : createSuppression app env ctx b = .ok e) :
    ∃ row, e.change = .addSuppression env.suppressionId row ∧ NewSuppression app env ctx row := by
  unfold createSuppression at h
  split at h
  · split at h
    · exact absurd h refuse_ne_ok
    · split at h
      · exact absurd h refuse_ne_ok
      · next days _ =>
        dsimp only at h
        split at h
        · split at h
          · exact absurd h failed_ne_ok
          · next expires hexpires =>
            refine ⟨_, change_of_ok h, rfl, rfl, rfl, rfl, _, le_max_left _ _,
              max_le_max_left _ (min_le_right days _), ?_⟩
            unfold afterDays at hexpires
            dsimp only at hexpires
            split at hexpires
            · have hval := Option.some.inj hexpires
              have hday : 1 ≤ max 1 (min days app.suppressionMaxDays) := le_max_left _ _
              show ((expires.toNat : Nat) : Int) = _
              omega
            · cases hexpires
        · exact absurd h refuse_ne_ok
  · exact absurd h failed_ne_ok

/-- 呼んだ者の org の行だけを渡す。 -/
theorem of_withOwn {α : Type} {row : Option α} {org : α → String} {detail : String}
    {k : α → Except HttpError Effect} (h : withOwn ctx row org detail k = .ok e) :
    ∃ old, row = some old ∧ org old = ctx.orgId ∧ k old = .ok e := by
  unfold withOwn at h
  split at h
  · exact absurd h refuse_ne_ok
  · next old =>
    split at h
    · exact absurd h refuse_ne_ok
    · next horg => exact ⟨old, rfl, Classical.not_not.mp horg, h⟩

theorem of_updateSuppression {supId : Nat} {b : Fields}
    (h : updateSuppression app env ctx s supId b = .ok e) :
    ∃ old status reason, s.suppressions.get? supId = some old ∧ old.orgId = ctx.orgId ∧
      e.change = .setSuppression supId { old with status, reason } ∧
      (status = old.status ∨ status ∈ ["approved", "rejected", "revoked"]) := by
  obtain ⟨old, hold, horg, h⟩ := of_withOwn h
  dsimp only at h
  split at h
  · exact absurd h refuse_ne_ok
  · next status hstatus =>
    refine ⟨old, status, _, hold, horg, change_of_ok h, ?_⟩
    split at hstatus
    · exact .inl (Option.some.inj hstatus).symm
    · exact .inr (of_decide_eq_true (Option.filter_eq_some_iff.mp hstatus).2)

theorem of_deleteSuppression {supId : Nat} (h : deleteSuppression ctx s supId = .ok e) :
    ∃ old, s.suppressions.get? supId = some old ∧ old.orgId = ctx.orgId ∧
      e.change = .dropSuppression supId := by
  obtain ⟨old, hold, horg, h⟩ := of_withOwn h
  exact ⟨old, hold, horg, change_of_ok h⟩

theorem of_deleteFpList {entryId : Nat} (h : deleteFpList ctx s entryId = .ok e) :
    ∃ old, s.fpLists.get? entryId = some old ∧ old.orgId = ctx.orgId ∧
      e.change = .dropFp entryId := by
  obtain ⟨old, hold, horg, h⟩ := of_withOwn h
  exact ⟨old, hold, horg, change_of_ok h⟩

theorem of_deleteAlertRoute {routeId : Nat} (h : deleteAlertRoute ctx s routeId = .ok e) :
    ∃ old, s.routes.get? routeId = some old ∧ old.orgId = ctx.orgId ∧
      e.change = .dropRoute routeId := by
  obtain ⟨old, hold, horg, h⟩ := of_withOwn h
  exact ⟨old, hold, horg, change_of_ok h⟩

theorem validFp_fpRow {b : Fields} {kind fpType raw : String} (hkind : kind ∈ FP_KINDS)
    (htype : fpType ∈ FP_TYPES) (hne : strip raw ≠ "") (hlen : (strip raw).length ≤ 128) :
    ValidFp ctx (fpRow app env ctx b kind fpType (strip raw)) :=
  ⟨rfl, hkind, htype, ⟨hne, hlen, raw, rfl⟩, length_cut _ _, length_cut _ _⟩

theorem strippedField_eq {b : Fields} {k dflt v : String} (h : strippedField b k dflt = some v) :
    ∃ raw, v = strip raw := by
  unfold strippedField at h
  split at h
  · exact ⟨dflt, (Option.some.inj h).symm⟩
  · next raw _ => exact ⟨raw, (Option.some.inj h).symm⟩
  · cases h

theorem of_createFpList {b : Fields} (h : createFpList app env ctx b = .ok e) :
    ∃ row, e.change = .addFp [(env.fpId 0, row)] ∧ ValidFp ctx row := by
  unfold createFpList at h
  split at h
  · next kind fpType value _ _ hvalue =>
    split at h
    · exact absurd h refuse_ne_ok
    · next hkinds =>
      split at h
      · exact absurd h refuse_ne_ok
      · next hval =>
        obtain ⟨raw, rfl⟩ := strippedField_eq hvalue
        obtain ⟨hkind, htype⟩ := not_or.mp hkinds
        obtain ⟨hne, hlen⟩ := not_or.mp hval
        exact ⟨_, change_of_ok h, validFp_fpRow (Classical.not_not.mp hkind)
          (Classical.not_not.mp htype) hne (Nat.not_lt.mp hlen)⟩
  · exact absurd h failed_ne_ok

theorem validFp_importEntry {j : Json} {row : FpRow} (h : importEntry app env ctx j = some row) :
    ValidFp ctx row := by
  unfold importEntry at h
  split at h
  · split at h
    · next hkind htype =>
      dsimp only at h
      split at h
      · cases h
      · next hval =>
        obtain ⟨hne, hlen⟩ := not_or.mp hval
        rw [← Option.some.inj h]
        exact validFp_fpRow (of_decide_eq_true (Option.filter_eq_some_iff.mp hkind).2)
          (of_decide_eq_true (Option.filter_eq_some_iff.mp htype).2) hne (Nat.not_lt.mp hlen)
    · cases h
  · cases h

theorem of_importFpLists {b : Fields} (h : importFpLists app env ctx b = .ok e) :
    ∃ entries rows, DictList.get? "entries" b = some (.arr entries) ∧ entries.length ≤ 1000 ∧
      rows = entries.filterMap (importEntry app env ctx) ∧
      e.change = .addFp (((List.range rows.length).map env.fpId).zip rows) ∧
      e.reply = .added rows.length := by
  unfold importFpLists at h
  split at h
  · next entries hentries =>
    split at h
    · exact absurd h refuse_ne_ok
    · next hlen =>
      exact ⟨entries, _, hentries, Nat.not_lt.mp hlen, rfl, change_of_ok h,
        by rw [← Except.ok.inj h]⟩
  · exact absurd h refuse_ne_ok

theorem of_createAlertRoute {b : Fields} (h : createAlertRoute app env ctx b = .ok e) :
    ∃ row, e.change = .addRoute env.routeId row ∧ row.orgId = ctx.orgId ∧
      row.matchType ∈ ["rule", "host", "domain"] ∧ row.matchValue ≠ "" := by
  unfold createAlertRoute at h
  split at h
  · split at h
    · exact absurd h refuse_ne_ok
    · next hvalid =>
      obtain ⟨htype, hvalue⟩ := not_or.mp hvalid
      exact ⟨_, change_of_ok h, rfl, Classical.not_not.mp htype, (not_or.mp hvalue).1⟩
  · exact absurd h failed_ne_ok

theorem le_of_hourField {b : Fields} {k : String} {o : Option Nat}
    (h : hourField b k = some o) : ∀ n ∈ o, n ≤ 23 := by
  unfold hourField at h
  split at h
  · intro n hn
    rw [← Option.some.inj h] at hn
    cases hn
  · intro n hn
    rw [← Option.some.inj h] at hn
    cases hn
  · split at h
    · split at h
      · next hrange =>
        intro n hn
        rw [← Option.some.inj h, Option.mem_some_iff] at hn
        omega
      · cases h
    · cases h

theorem of_setAlertPolicy {b : Fields} (h : setAlertPolicy app env ctx b = .ok e) :
    ∃ row, e.change = .setPolicy ctx.orgId row ∧ ValidPolicy row.toPolicy := by
  unfold setAlertPolicy at h
  split at h
  · exact absurd h failed_ne_ok
  · split at h
    · exact absurd h refuse_ne_ok
    · next hsev =>
      split at h
      · exact absurd h failed_ne_ok
      · split at h
        · exact absurd h refuse_ne_ok
        · next hdigest =>
          split at h
          · exact absurd h refuse_ne_ok
          · next hstart =>
            split at h
            · exact absurd h refuse_ne_ok
            · next hstop =>
              exact ⟨_, change_of_ok h, Classical.not_not.mp hsev, Classical.not_not.mp hdigest,
                le_of_hourField hstart, le_of_hourField hstop⟩

theorem of_createAgentToken {b : Fields} (h : createAgentToken app env ctx b = .ok e) :
    ∃ row, e.change = .addToken ("at-" ++ env.uuid) row ∧ row.orgId = ctx.orgId ∧
      row.keyHash = app.sha256 (rawToken env) ∧ row.revoked = false := by
  unfold createAgentToken at h
  split at h
  · exact absurd h failed_ne_ok
  · dsimp only at h
    split at h
    · exact absurd h refuse_ne_ok
    · exact ⟨_, change_of_ok h, rfl, rfl, rfl⟩

theorem of_revokeAgentToken {tokenId : String} (h : revokeAgentToken ctx s tokenId = .ok e) :
    ∃ old, s.tokens.get? tokenId = some old ∧ old.orgId = ctx.orgId ∧
      e.change = .setToken tokenId { old with revoked := true } := by
  obtain ⟨old, hold, horg, h⟩ := of_withOwn h
  exact ⟨old, hold, horg, change_of_ok h⟩

/-- admin の口を通るのは admin である。 -/
theorem isAdmin_of_permits {call : Call} (h : permits ctx call = true)
    (hrole : call.role = some .admin) : IsAdmin ctx := by
  unfold permits at h
  rw [hrole, Option.all_some, Bool.not_eq_true', decide_eq_false_iff_not] at h
  unfold IsAdmin
  unfold roleOrder Role.ofValue? at h
  by_contra hne
  split_ifs at h
  all_goals simp_all [Role.value]

/-- **口のすること。** 口の決めた変更は、呼んだ者の org の行だけに掛かる。 -/
theorem made_of_plan {call : Call} (h : plan app env ctx s call = .ok e) :
    Made app env ctx s call e.change := by
  unfold plan at h
  split at h
  · next hp =>
    cases call with
    | listAudit limit action =>
      unfold body listAudit at h
      dsimp only at h
      split at h
      · exact absurd h refuse_ne_ok
      · rw [change_answer h]
        trivial
    | listSuppressions status limit page perPage =>
      unfold body listSuppressions at h
      dsimp only at h
      split at h
      · rw [change_answer h]
        trivial
      · rw [change_answer h]
        trivial
    | suppressionsExpiring days =>
      rw [change_answer h]
      trivial
    | createSuppression b =>
      obtain ⟨row, hc, hrow⟩ := of_createSuppression h
      rw [hc]
      exact ⟨rfl, hrow⟩
    | updateSuppression supId b =>
      obtain ⟨old, status, reason, hold, horg, hc, hstatus⟩ := of_updateSuppression h
      rw [hc]
      exact ⟨isAdmin_of_permits hp rfl, old, reason, hold, horg, rfl, hstatus⟩
    | deleteSuppression supId =>
      obtain ⟨old, hold, horg, hc⟩ := of_deleteSuppression h
      rw [hc]
      exact ⟨isAdmin_of_permits hp rfl, old, hold, horg⟩
    | listFpLists =>
      rw [change_answer h]
      trivial
    | createFpList b =>
      obtain ⟨row, hc, hrow⟩ := of_createFpList h
      rw [hc]
      exact ⟨rfl, by simpa using hrow⟩
    | deleteFpList entryId =>
      obtain ⟨old, hold, horg, hc⟩ := of_deleteFpList h
      rw [hc]
      exact ⟨old, hold, horg⟩
    | exportFpLists format =>
      unfold body exportFpLists at h
      dsimp only at h
      split at h
      · rw [change_answer h]
        trivial
      · rw [change_answer h]
        trivial
    | importFpLists b =>
      obtain ⟨entries, rows, -, -, hrows, hc, -⟩ := of_importFpLists h
      rw [hc]
      have hids : ((List.range rows.length).map env.fpId).length = rows.length := by simp
      refine ⟨?_, fun r hr => ?_⟩
      · rw [List.map_fst_zip hids.le, List.length_zip, hids, Nat.min_self]
      · have hmem := List.of_mem_zip hr
        rw [hrows] at hmem
        obtain ⟨j, -, hj⟩ := List.mem_filterMap.mp hmem.2
        exact validFp_importEntry hj
    | listAlertRoutes =>
      rw [change_answer h]
      trivial
    | createAlertRoute b =>
      obtain ⟨row, hc, horg, htype, hvalue⟩ := of_createAlertRoute h
      rw [hc]
      exact ⟨isAdmin_of_permits hp rfl, rfl, horg, htype, hvalue⟩
    | deleteAlertRoute routeId =>
      obtain ⟨old, hold, horg, hc⟩ := of_deleteAlertRoute h
      rw [hc]
      exact ⟨isAdmin_of_permits hp rfl, old, hold, horg⟩
    | getAlertPolicy =>
      rw [change_answer h]
      trivial
    | setAlertPolicy b =>
      obtain ⟨row, hc, hvalid⟩ := of_setAlertPolicy h
      rw [hc]
      exact ⟨isAdmin_of_permits hp rfl, rfl, hvalid⟩
    | listAgentTokens =>
      rw [change_answer h]
      trivial
    | createAgentToken b =>
      obtain ⟨row, hc, horg, hhash, hrevoked⟩ := of_createAgentToken h
      rw [hc]
      exact ⟨isAdmin_of_permits hp rfl, rfl, horg, hhash, hrevoked⟩
    | revokeAgentToken tokenId =>
      obtain ⟨old, hold, horg, hc⟩ := of_revokeAgentToken h
      rw [hc]
      exact ⟨isAdmin_of_permits hp rfl, old, hold, horg, rfl⟩
    | getAlertConfig =>
      rw [change_answer h]
      trivial
    | setAlertConfig cfg =>
      rw [change_of_ok h]
      exact ⟨isAdmin_of_permits hp rfl, rfl⟩
  · exact absurd h refuse_ne_ok

end

section

variable (app : App) (s : Console) (ev : Event)

/-- 呼び出しが変更を commit する。 -/
def Commits (e : Effect) (note : Note) : Prop :=
  plan app ev.env ev.ctx s ev.call = .ok e ∧ e.note = some note ∧ ev.env.commits = true ∧
    s.keysFree e.change = true

variable {app s ev} in
theorem handle_of_commits {e : Effect} {note : Note} (h : Commits app s ev e note) :
    handle app s ev = ((s.apply e.change).logAudit ev.env ev.ctx note, .ok e.reply) := by
  obtain ⟨hplan, hnote, hcommits, hfree⟩ := h
  simp only [handle, hplan, settle, hnote, hcommits, hfree, Bool.and_self, if_true]

/-- **呼び出しのすること。** 変更を commit して audit を書くか、状態を変えない。 -/
theorem handle_cases :
    (∃ e note, Commits app s ev e note) ∨
      ((∀ e note, ¬Commits app s ev e note) ∧ step app s ev = s) := by
  by_cases h : ∃ e note, Commits app s ev e note
  · exact .inl h
  · refine .inr ⟨fun e note hc => h ⟨e, note, hc⟩, ?_⟩
    unfold step handle settle
    split
    · rfl
    · next e hplan =>
      split
      · rfl
      · next note hnote =>
        split
        · next hok =>
          obtain ⟨hcommits, hfree⟩ := Bool.and_eq_true_iff.mp hok
          exact absurd ⟨e, note, hplan, hnote, hcommits, hfree⟩ h
        · rfl

end

end CipherPost.Api.Console
