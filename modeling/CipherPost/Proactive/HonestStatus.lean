import CipherPost.Proactive.DomainPosture

/-!
# status の語ること

`check_domain` の status は、error の文から作られる。DNS と HTTPS に何が起きたかを `Lookup` に分け、status が
`misconfigured` になるのはどの出来事のときかを述べる。

* `Fetched`・`fetchOutcome` — policy の取得に起きたこと
* `Lookup`・`lookup` — domain の query に起きたこと
* `Lookup.Malformed`・`Lookup.Failed` — 取れたものが崩れている、取れなかった
* `Lookup.Misread` — 取れなかったのに、文の語から崩れていると読まれる
* `fetchedStatus_eq_misconfigured_iff`・`fetchedStatus_of_failed` — 起きたことから決まる status
* `statusHonest_iff` — 取れなかったことを崩れていると言わない条件
-/

namespace CipherPost.Proactive

open Parsing

/-! ## 語を含む文 -/

section Infix
variable {α : Type} {word : List α} {sep : α}

/-- 区切りの文字を含まない語は、区切りに届かない。 -/
theorem prefix_append_cons_iff (hsep : sep ∉ word) {l rest : List α} :
    word <+: l ++ sep :: rest ↔ word <+: l := by
  induction l generalizing word with
  | nil =>
    cases word with
    | nil => simp
    | cons c word =>
      rw [List.nil_append, List.cons_prefix_cons]
      exact iff_of_false (fun h => hsep (h.1 ▸ List.mem_cons_self)) (by simp)
  | cons a l ih =>
    cases word with
    | nil => simp
    | cons c word =>
      rw [List.cons_append, List.cons_prefix_cons, List.cons_prefix_cons,
        ih fun h => hsep (List.mem_cons_of_mem c h)]

/-- 区切りの文字を含まない語は、区切りを跨がない。 -/
theorem infix_append_cons_iff (hsep : sep ∉ word) {l rest : List α} :
    word <:+: l ++ sep :: rest ↔ word <:+: l ∨ word <:+: rest := by
  induction l with
  | nil =>
    have hhead : word <+: sep :: rest ↔ word <+: [] := @prefix_append_cons_iff _ _ _ hsep [] rest
    rw [List.nil_append]
    rw [List.infix_cons_iff, hhead, List.prefix_nil, List.infix_nil]
  | cons a l ih =>
    rw [List.cons_append, List.infix_cons_iff, ih, List.infix_cons_iff, ← List.cons_append,
      prefix_append_cons_iff hsep, or_assoc]

end Infix

/-- `"malformed" in err or "policy" in err`。 -/
def Mentions (err : List Char) : Prop :=
  "malformed".toList <:+: err ∨ "policy".toList <:+: err

instance (err : List Char) : Decidable (Mentions err) := inferInstanceAs (Decidable (_ ∨ _))

/-- どちらの語も空白を含まない。 -/
theorem mentions_append_cons_iff {l rest : List Char} :
    Mentions (l ++ ' ' :: rest) ↔ Mentions l ∨ Mentions rest := by
  unfold Mentions
  rw [infix_append_cons_iff (by decide), infix_append_cons_iff (by decide), or_or_or_comm]

/-! ## error の文と status -/

/-- DNS の失敗の文。 -/
theorem stsStatus_of_dns {sts : Sts} (rest : String) (h : sts.error = some ("dns-error " ++ rest)) :
    stsStatus sts = "dns-error" := by
  have hdns : "dns-error".toList <+: ("dns-error " ++ rest).toList :=
    ⟨' ' :: rest.toList, by rw [String.toList_append]; rfl⟩
  rw [stsStatus, h]
  dsimp only
  rw [if_pos hdns]

/-- 他の文は、語を含むかどうかで決まる。 -/
theorem stsStatus_of_error {sts : Sts} {err : String} (h : sts.error = some err)
    (hdns : ¬"dns-error".toList <+: err.toList) :
    stsStatus sts = if Mentions err.toList then "misconfigured" else "dns-error" := by
  rw [stsStatus, h]
  dsimp only
  rw [if_neg hdns]
  rfl

theorem stsStatus_of_none {sts : Sts} (h : sts.error = none) : stsStatus sts ≠ "misconfigured" := by
  rw [stsStatus, h]
  dsimp only
  split
  · decide
  · split
    · decide
    · split <;> decide

/-- `policy` で始まる error の status。 -/
theorem stsStatus_of_policy {sts : Sts} (rest : String) (h : sts.error = some ("policy " ++ rest)) :
    stsStatus sts = "misconfigured" := by
  have htext : ("policy " ++ rest).toList = "policy".toList ++ ' ' :: rest.toList := by
    rw [String.toList_append]
    rfl
  have hword : Mentions ("policy " ++ rest).toList := by
    rw [htext, mentions_append_cons_iff]
    exact .inl (by decide)
  have hdns : ¬"dns-error".toList <+: ("policy " ++ rest).toList := by
    rw [htext]
    rintro ⟨l, hl⟩
    have hhead : 'd' = 'p' := List.head_eq_of_cons_eq hl
    exact absurd hhead (by decide)
  rw [stsStatus_of_error h hdns, if_pos hword]

/-- DANE は、`misconfigured` を作りも消しもしない。 -/
theorem overallStatus_eq_misconfigured_iff {sts : Sts} {dane : Dict String TlsaResult} :
    overallStatus sts dane = "misconfigured" ↔ stsStatus sts = "misconfigured" := by
  unfold overallStatus
  dsimp only
  split
  · rename_i h
    refine iff_of_false (by decide) fun hsts => ?_
    rw [hsts] at h
    exact absurd h.2 (by decide)
  · rfl

/-- DANE は、`dns-error` を消さない。 -/
theorem overallStatus_of_dns {sts : Sts} (h : stsStatus sts = "dns-error")
    (dane : Dict String TlsaResult) : overallStatus sts dane = "dns-error" := by
  rw [overallStatus, h, if_neg fun hweak => absurd hweak.2 (by decide)]

/-! ## 取得に起きたこと -/

/-- policy の取得に起きたこと。 -/
inductive Fetched where
  /-- 公開の address でない。 -/
  | refused (text : String)
  | unsafeRedirect
  /-- 接続や TLS の失敗。 -/
  | failed (text : String)
  | httpError (status : Nat)
  | redirects
  /-- 名が引けない。 -/
  | unresolved (text : String)
  | tooLarge (content : Bytes)
  | body (content : Bytes)
  deriving DecidableEq

namespace Fetched

/-- `_fetch_policy` がそれを伝える値。 -/
def result : Fetched → PolicyResult
  | refused e => .error ("policy fetch refused: " ++ e)
  | unsafeRedirect => .error "policy fetch refused: unsafe redirect"
  | failed e => .error ("policy fetch failed: " ++ e)
  | httpError status => .error ("policy HTTP " ++ toString status)
  | redirects => .error "too many redirects"
  | unresolved e => .raised e
  | tooLarge _ => .error "policy too large"
  | body content => .policy (String.ofList (Addr.decodeReplace content))

/-- policy が取れなかった。 -/
def Failed : Fetched → Prop
  | tooLarge _ | body _ => False
  | _ => True

/-- 取れなかったことの文が `policy` と言う。 -/
def Misread : Fetched → Prop
  | refused _ | unsafeRedirect | failed _ | httpError _ => True
  | _ => False

instance : DecidablePred Failed := fun o => by cases o <;> unfold Failed <;> infer_instance

instance : DecidablePred Misread := fun o => by cases o <;> unfold Misread <;> infer_instance

end Fetched

section Net
variable (net : Net)

/-- redirect を辿る loop で起きたこと。 -/
def followOutcome (host : String) : Nat → String → Fetched
  | 0, _ => .redirects
  | n + 1, current =>
    match net.get host current with
    | .error e => .failed e
    | .ok resp =>
      if resp.status ∈ [301, 302, 303, 307, 308] then
        match safeRedirect net current resp.location with
        | .error e => .failed e
        | .ok none => .unsafeRedirect
        | .ok (some next) => followOutcome host n next
      else if resp.status ≠ 200 then .httpError resp.status
      else if (if net.maxPolicyBytes = 0 then 65536 else net.maxPolicyBytes) <
          (resp.content.length : Int) then .tooLarge resp.content
      else .body resp.content

/-- `domain` の policy の取得に起きたこと。 -/
def fetchOutcome (domain : String) : Fetched :=
  let host := "mta-sts." ++ domain
  match assertPublicHttpsTarget net host with
  | .error (.valueError e) => .refused e
  | .error (.other e) => .unresolved e
  | .ok () =>
    let maxRedirects := if net.maxRedirects = 0 then 3 else net.maxRedirects
    followOutcome net host (maxRedirects + 1).toNat
      ("https://mta-sts." ++ domain ++ "/.well-known/mta-sts.txt")

theorem followPolicy_eq (host : String) (n : Nat) (current : String) :
    followPolicy net host n current = (followOutcome net host n current).result := by
  induction n generalizing current with
  | zero => rfl
  | succ n ih =>
    unfold followPolicy followOutcome
    cases net.get host current with
    | error e => rfl
    | ok resp =>
      dsimp only
      split
      · cases safeRedirect net current resp.location with
        | error e => rfl
        | ok next =>
          cases next with
          | none => rfl
          | some next => exact ih next
      · split
        · rfl
        · generalize (if net.maxPolicyBytes = 0 then 65536 else net.maxPolicyBytes) = limit
          split
          · rfl
          · rfl

/-- `_fetch_policy` は、起きたことを文にして返す。 -/
theorem fetchPolicy_eq (domain : String) :
    fetchPolicy net domain = (fetchOutcome net domain).result := by
  unfold fetchPolicy fetchOutcome
  dsimp only
  cases assertPublicHttpsTarget net ("mta-sts." ++ domain) with
  | error raised => cases raised <;> rfl
  | ok u => exact followPolicy_eq net _ _ _

/-! ## query に起きたこと -/

/-- `domain` の query に起きたこと。 -/
inductive Lookup where
  /-- MX の query に NXDOMAIN か NoAnswer が返った。 -/
  | noMx (text : String)
  | mxFailed (text : String)
  /-- `_mta-sts` の TXT が無い。 -/
  | noRecord
  | txtFailed (text : String)
  /-- record が UTF-8 でない。 -/
  | undecodable (text : String)
  /-- record に `v=STSv1` と `id` が無い。 -/
  | badRecord (txt : String)
  | fetched (outcome : Fetched)
  deriving DecidableEq

def lookup (domain : String) : Lookup :=
  match net.mx domain with
  | .noData e => .noMx e
  | .failed e => .mxFailed e
  | .records _ =>
    match net.txt ("_mta-sts." ++ domain) with
    | .noData _ => .noRecord
    | .failed e => .txtFailed e
    | .records strings =>
      match joinTxt net strings with
      | .error e => .undecodable e
      | .ok txt =>
        if stsId txt.toList = none then .badRecord txt else .fetched (fetchOutcome net domain)

namespace Lookup

/-- record か policy が取れて、それが崩れている。 -/
def Malformed : Lookup → Prop
  | badRecord _ => True
  | fetched (.tooLarge _) => True
  | fetched (.body content) =>
    ¬WellFormedPolicy net (String.ofList (Addr.decodeReplace content))
  | _ => False

/-- query か取得が失敗した。 -/
def Failed : Lookup → Prop
  | noMx _ | mxFailed _ | txtFailed _ => True
  | fetched outcome => outcome.Failed
  | _ => False

/-- 取れなかったのに、文の語から崩れていると読まれる。 -/
def Misread : Lookup → Prop
  | noMx e => Mentions e.toList
  | fetched outcome => outcome.Misread
  | _ => False

end Lookup

/-! ## status -/

/-- query に起きたことから決まる、MTA-STS の status。例外は `dns-error` になる。 -/
def fetchedStatus (domain : String) : String :=
  match fetchMtaSts net domain with
  | .error _ => "dns-error"
  | .ok sts => stsStatus sts

variable {net} {domain : String}

theorem status_eq_misconfigured_iff_fetched
    (hvalid : validDomain (normalizeDomain net domain) = true) :
    (checkDomain net domain).status = "misconfigured" ↔
      fetchedStatus net (normalizeDomain net domain) = "misconfigured" := by
  unfold checkDomain fetchedStatus
  dsimp only
  rw [if_neg (by rw [hvalid]; decide)]
  cases fetchMtaSts net (normalizeDomain net domain) with
  | error e => rfl
  | ok sts => exact overallStatus_eq_misconfigured_iff

theorem status_of_fetched_dns (hvalid : validDomain (normalizeDomain net domain) = true)
    (h : fetchedStatus net (normalizeDomain net domain) = "dns-error") :
    (checkDomain net domain).status = "dns-error" := by
  unfold fetchedStatus at h
  unfold checkDomain
  dsimp only
  rw [if_neg (by rw [hvalid]; decide)]
  cases hfetch : fetchMtaSts net (normalizeDomain net domain) with
  | error e => rfl
  | ok sts =>
    rw [hfetch] at h
    exact overallStatus_of_dns h _

/-- policy を読んだ後の status は、形の崩れた policy で `misconfigured` になる。 -/
theorem stsStatus_readPolicy_iff {out : Sts} (hmode : out.mode = none) (herror : out.error = none)
    {policy : String} :
    stsStatus (readPolicy net out policy) = "misconfigured" ↔ ¬WellFormedPolicy net policy := by
  constructor
  · intro hstatus hwf
    exact stsStatus_of_none ((error_readPolicy_eq_none_iff hmode herror policy).mpr hwf) hstatus
  · exact stsStatus_readPolicy_of_malformed hmode herror

/-- MX が無いことの文の status。 -/
theorem stsStatus_noMx (out : Sts) (e : String) :
    stsStatus { out with error := some ("no MX: " ++ e) } =
      if Mentions e.toList then "misconfigured" else "dns-error" := by
  have htext : ("no MX: " ++ e).toList = "no MX:".toList ++ ' ' :: e.toList := by
    rw [String.toList_append]
    rfl
  have hdns : ¬"dns-error".toList <+: ("no MX: " ++ e).toList := by
    rw [htext]
    rintro ⟨l, hl⟩
    have hhead : 'd' = 'n' := List.head_eq_of_cons_eq hl
    exact absurd hhead (by decide)
  have hword : Mentions ("no MX: " ++ e).toList ↔ Mentions e.toList := by
    rw [htext, mentions_append_cons_iff]
    exact or_iff_right (by decide)
  rw [stsStatus_of_error rfl hdns, if_congr hword rfl rfl]

/-- 取得の結果を読んだ後の status。 -/
def Fetched.status (net : Net) (out : Sts) (policyId : List Char) (outcome : Fetched) : String :=
  match outcome.result with
  | .raised _ => "dns-error"
  | .error e => stsStatus { out with error := some e }
  | .policy policy =>
    stsStatus (readPolicy net { out with policy := some policy
                                         policyId := some (String.ofList policyId) } policy)

section
variable {out : Sts} {policyId : List Char} {outcome : Fetched}

/-- `policy` で始まる文の結果は `misconfigured` になる。 -/
theorem Fetched.status_of_policy (rest : String) (h : outcome.result = .error ("policy " ++ rest)) :
    outcome.status net out policyId = "misconfigured" := by
  rw [Fetched.status, h]
  exact stsStatus_of_policy rest rfl

theorem Fetched.status_redirects : Fetched.redirects.status net out policyId = "dns-error" := by
  rw [Fetched.status, Fetched.result]
  dsimp only
  rw [stsStatus_of_error rfl (by decide), if_neg (by decide)]

theorem Fetched.status_eq_misconfigured_iff (hmode : out.mode = none) (herror : out.error = none) :
    outcome.status net out policyId = "misconfigured" ↔
      (Lookup.fetched outcome).Malformed net ∨ (Lookup.fetched outcome).Misread := by
  cases outcome with
  | refused e => exact iff_of_true (status_of_policy ("fetch refused: " ++ e) rfl) (.inr trivial)
  | unsafeRedirect =>
    exact iff_of_true (status_of_policy "fetch refused: unsafe redirect" rfl) (.inr trivial)
  | failed e => exact iff_of_true (status_of_policy ("fetch failed: " ++ e) rfl) (.inr trivial)
  | httpError status =>
    exact iff_of_true (status_of_policy ("HTTP " ++ toString status) rfl) (.inr trivial)
  | redirects =>
    rw [status_redirects]
    exact iff_of_false (by decide) (by rintro (⟨⟨⟩⟩ | ⟨⟨⟩⟩))
  | unresolved e =>
    have hdns : (unresolved e).status net out policyId = "dns-error" := rfl
    rw [hdns]
    exact iff_of_false (by decide) (by rintro (⟨⟨⟩⟩ | ⟨⟨⟩⟩))
  | tooLarge content => exact iff_of_true (status_of_policy "too large" rfl) (.inl trivial)
  | body content =>
    refine Iff.trans ?_ (or_iff_left id).symm
    exact @stsStatus_readPolicy_iff net
      { out with policy := some (String.ofList (Addr.decodeReplace content))
                 policyId := some (String.ofList policyId) } hmode herror _

theorem Fetched.status_of_failed (hfailed : outcome.Failed) (hread : ¬outcome.Misread) :
    outcome.status net out policyId = "dns-error" := by
  cases outcome with
  | redirects => exact status_redirects
  | unresolved e => rfl
  | refused | unsafeRedirect | failed | httpError => exact absurd trivial hread
  | tooLarge | body => exact hfailed.elim

end

/-- `_fetch_mta_sts` の後の status を、query に起きたことから述べる。 -/
theorem fetchedStatus_cases (net : Net) (domain : String) :
    (∃ e, lookup net domain = .noMx e ∧
      fetchedStatus net domain = if Mentions e.toList then "misconfigured" else "dns-error") ∨
    (lookup net domain = .noRecord ∧ fetchedStatus net domain ≠ "misconfigured") ∨
    (∃ e, (lookup net domain = .mxFailed e ∨ lookup net domain = .txtFailed e ∨
      lookup net domain = .undecodable e) ∧ fetchedStatus net domain = "dns-error") ∨
    (∃ txt, lookup net domain = .badRecord txt ∧ fetchedStatus net domain = "misconfigured") ∨
    ∃ out policyId outcome, out.mode = none ∧ out.error = none ∧
      lookup net domain = .fetched outcome ∧
      fetchedStatus net domain = outcome.status net out policyId := by
  unfold fetchedStatus fetchMtaSts lookup
  cases net.mx domain with
  | noData e => exact .inl ⟨e, rfl, stsStatus_noMx {} e⟩
  | failed e => exact .inr (.inr (.inl ⟨e, .inl rfl, stsStatus_of_dns ("MX: " ++ e) rfl⟩))
  | records rrs =>
    dsimp only
    cases net.txt ("_mta-sts." ++ domain) with
    | noData e => exact .inr (.inl ⟨rfl, stsStatus_of_none rfl⟩)
    | failed e => exact .inr (.inr (.inl ⟨e, .inr (.inl rfl), stsStatus_of_dns ("TXT: " ++ e) rfl⟩))
    | records strings =>
      dsimp only
      cases joinTxt net strings with
      | error e =>
        exact .inr (.inr (.inl ⟨e, .inr (.inr rfl), stsStatus_of_dns ("TXT: " ++ e) rfl⟩))
      | ok txt =>
        dsimp only
        cases stsId txt.toList with
        | none =>
          exact .inr (.inr (.inr (.inl ⟨txt, rfl,
            stsStatus_of_malformed "_mta-sts TXT (missing v=STSv1/id)" rfl⟩)))
        | some policyId =>
          refine .inr (.inr (.inr (.inr ⟨{ mxHosts := sortedHosts rrs, txt := some txt }, policyId,
            fetchOutcome net domain, rfl, rfl, rfl, ?_⟩)))
          dsimp only
          rw [fetchPolicy_eq, Fetched.status]
          cases (fetchOutcome net domain).result <;> rfl

/--
MTA-STS の status が `misconfigured` になるのは、崩れたものが取れたときと、取れなかったことの文が崩れていると
読まれるときである。
-/
theorem fetchedStatus_eq_misconfigured_iff :
    fetchedStatus net domain = "misconfigured" ↔
      (lookup net domain).Malformed net ∨ (lookup net domain).Misread := by
  rcases fetchedStatus_cases net domain with ⟨e, hlook, hstatus⟩ | ⟨hlook, hstatus⟩ |
    ⟨e, hlook, hstatus⟩ | ⟨txt, hlook, hstatus⟩ |
    ⟨out, policyId, outcome, hmode, herror, hlook, hstatus⟩
  · rw [hlook, hstatus]
    by_cases hword : Mentions e.toList
    · rw [if_pos hword]
      exact iff_of_true rfl (.inr hword)
    · rw [if_neg hword]
      exact iff_of_false (by decide) (by rintro (⟨⟨⟩⟩ | h); exact hword h)
  · rw [hlook]
    exact iff_of_false hstatus (by rintro (⟨⟨⟩⟩ | ⟨⟨⟩⟩))
  · rw [hstatus]
    refine iff_of_false (by decide) ?_
    rcases hlook with hlook | hlook | hlook <;> rw [hlook] <;> rintro (⟨⟨⟩⟩ | ⟨⟨⟩⟩)
  · rw [hlook]
    exact iff_of_true hstatus (.inl trivial)
  · rw [hlook, hstatus]
    exact Fetched.status_eq_misconfigured_iff hmode herror

theorem fetchedStatus_of_failed (hfailed : (lookup net domain).Failed)
    (hread : ¬(lookup net domain).Misread) : fetchedStatus net domain = "dns-error" := by
  rcases fetchedStatus_cases net domain with ⟨e, hlook, hstatus⟩ | ⟨hlook, hstatus⟩ |
    ⟨e, hlook, hstatus⟩ | ⟨txt, hlook, hstatus⟩ |
    ⟨out, policyId, outcome, hmode, herror, hlook, hstatus⟩
  · rw [hlook] at hread
    rw [hstatus, if_neg (show ¬Mentions e.toList from hread)]
  · rw [hlook] at hfailed
    exact hfailed.elim
  · exact hstatus
  · rw [hlook] at hfailed
    exact hfailed.elim
  · rw [hlook] at hfailed hread
    rw [hstatus]
    exact Fetched.status_of_failed hfailed hread

/-- 取れなかったことの文と、崩れたものは、両立しない。 -/
theorem Lookup.not_malformed_of_misread {l : Lookup} (h : l.Misread) : ¬l.Malformed net := by
  cases l with
  | noMx e => exact id
  | fetched outcome => cases outcome <;> first | exact h.elim | exact id
  | mxFailed | noRecord | txtFailed | undecodable | badRecord => exact h.elim

/-! ## 約束 -/

/-- **取れなかったことを、崩れていると言わない。** -/
structure StatusHonest (net : Net) (domain : String) : Prop where
  misconfigured : (checkDomain net domain).status = "misconfigured" →
    (lookup net (normalizeDomain net domain)).Malformed net
  failure : validDomain (normalizeDomain net domain) = true →
    (lookup net (normalizeDomain net domain)).Failed →
    (checkDomain net domain).status ∈ ["dns-error", "not-published"]

/--
約束の守られる条件。調べる domain では、MX の無いことの文が語を含まず、公開された record の policy の取得が、
拒まれも、途中で切れも、HTTP の error にもならない。
-/
def Clear (net : Net) (domain : String) : Prop :=
  validDomain (normalizeDomain net domain) = true →
    ¬(lookup net (normalizeDomain net domain)).Misread

theorem statusHonest_iff : StatusHonest net domain ↔ Clear net domain := by
  constructor
  · intro h hvalid hread
    have hstatus := (status_eq_misconfigured_iff_fetched hvalid).mpr
      (fetchedStatus_eq_misconfigured_iff.mpr (.inr hread))
    exact Lookup.not_malformed_of_misread hread (h.misconfigured hstatus)
  · intro h
    refine ⟨fun hstatus => ?_, fun hvalid hfailed => ?_⟩
    · by_cases hvalid : validDomain (normalizeDomain net domain) = true
      · have hfetched := (status_eq_misconfigured_iff_fetched hvalid).mp hstatus
        exact (fetchedStatus_eq_misconfigured_iff.mp hfetched).resolve_right (h hvalid)
      · unfold checkDomain at hstatus
        dsimp only at hstatus
        rw [if_pos (Bool.eq_false_iff.mpr hvalid)] at hstatus
        exact absurd hstatus (show ¬"invalid-domain" = "misconfigured" by decide)
    · rw [status_of_fetched_dns hvalid (fetchedStatus_of_failed hfailed (h hvalid))]
      exact List.mem_cons_self

end Net
end CipherPost.Proactive
