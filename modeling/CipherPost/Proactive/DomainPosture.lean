import Mathlib.Data.List.Induction
import CipherPost.Proactive.MtaSts

/-!
# domain の姿勢

`check_domain` の返すものを、policy の文と DNS の答えから述べる。mode は公開された policy の最後の mode であり、
形の崩れた policy は `misconfigured` と呼ばれる。

* `policyFields`・`policyMode`・`WellFormedPolicy` — policy の文の言うこと
* `error_readPolicy_eq_none_iff` — 読んだ後に error が残らないのは、形が整っているときである
* `Published` — domain に policy が公開されている
* `mode_checkDomain_iff` — `check_domain` の mode
* `status_of_malformed` — 形の崩れた policy の status
* `checkedMx`・`mem_dane_iff` — TLSA を調べた MX
-/

namespace CipherPost.Proactive

open Parsing

variable (net : Net)

/-! ## policy の文 -/

/-- policy の名と値の列。 -/
def policyFields (policy : String) : List (String × String) :=
  (splitlines policy.toList).filterMap (policyField net)

/-- policy の mode。最後に書かれたものである。 -/
def policyMode (policy : String) : Option String :=
  ((policyFields net policy).filter fun f => decide (f.1 = "mode")).getLast?.map fun f =>
    net.lower f.2

/-- 値の読める `max_age`。 -/
def MaxAgesReadable (policy : String) : Prop :=
  ∀ f ∈ policyFields net policy, f.1 = "max_age" → (pyIntText f.2.toList).isSome = true

/-- 形の整った policy。 -/
structure WellFormedPolicy (policy : String) : Prop where
  mode : ∃ m ∈ POLICY_MODES, policyMode net policy = some m
  maxAge : MaxAgesReadable net policy

variable {net}

/-- 一項目は `mode`・`max_age`・`mx` のどれかに書くか、何もしない。読めない `max_age` は error になる。 -/
theorem applyField_cases (net : Net) (out : Sts) (f : String × String) :
    (f.1 = "mode" ∧ applyField net out f = { out with mode := some (net.lower f.2) }) ∨
    (f.1 = "max_age" ∧ ∃ n, pyIntText f.2.toList = some n ∧
      applyField net out f = { out with maxAge := some n }) ∨
    (f.1 = "max_age" ∧ pyIntText f.2.toList = none ∧
      applyField net out f =
        { out with error := some ("malformed max_age: " ++ net.repr f.2) }) ∨
    (f.1 = "mx" ∧ applyField net out f = { out with mxPatterns := out.mxPatterns ++ [f.2] }) ∨
    ((f.1 ≠ "mode" ∧ f.1 ≠ "max_age" ∧ f.1 ≠ "mx") ∧ applyField net out f = out) := by
  unfold applyField
  dsimp only
  by_cases hmode : f.1 = "mode"
  · exact .inl ⟨hmode, if_pos hmode⟩
  refine .inr ?_
  rw [if_neg hmode]
  by_cases hage : f.1 = "max_age"
  · rw [if_pos hage]
    cases pyIntText f.2.toList with
    | some n => exact .inl ⟨hage, n, rfl, rfl⟩
    | none => exact .inr (.inl ⟨hage, rfl, rfl⟩)
  refine .inr (.inr ?_)
  rw [if_neg hage]
  by_cases hmx : f.1 = "mx"
  · exact .inl ⟨hmx, if_pos hmx⟩
  · exact .inr ⟨⟨hmode, hage, hmx⟩, if_neg hmx⟩

theorem mode_applyField (out : Sts) (f : String × String) :
    (applyField net out f).mode = if f.1 = "mode" then some (net.lower f.2) else out.mode := by
  rcases applyField_cases net out f with
    ⟨hkey, h⟩ | ⟨hkey, n, -, h⟩ | ⟨hkey, -, h⟩ | ⟨hkey, h⟩ | ⟨⟨hkey, -, -⟩, h⟩
  · rw [h, if_pos hkey]
  · rw [h, if_neg (by rw [hkey]; decide)]
  · rw [h, if_neg (by rw [hkey]; decide)]
  · rw [h, if_neg (by rw [hkey]; decide)]
  · rw [h, if_neg hkey]

/-- 読めない `max_age` だけが error を書く。 -/
theorem error_applyField_eq_none_iff {out : Sts} {f : String × String} :
    (applyField net out f).error = none ↔
      out.error = none ∧ (f.1 = "max_age" → (pyIntText f.2.toList).isSome = true) := by
  rcases applyField_cases net out f with
    ⟨hkey, h⟩ | ⟨-, n, hn, h⟩ | ⟨hkey, hn, h⟩ | ⟨hkey, h⟩ | ⟨⟨-, hkey, -⟩, h⟩
  · rw [h]
    exact (and_iff_left fun hage => absurd (hkey.symm.trans hage) (by decide)).symm
  · rw [h, hn]
    exact (and_iff_left fun _ => rfl).symm
  · rw [h, hn]
    exact iff_of_false (fun h => by cases h) fun h => by cases h.2 hkey
  · rw [h]
    exact (and_iff_left fun hage => absurd (hkey.symm.trans hage) (by decide)).symm
  · rw [h]
    exact (and_iff_left fun hage => absurd hage hkey).symm

/-- loop の後の mode は、最後に書かれた mode である。 -/
theorem mode_foldl_applyField (out : Sts) (fields : List (String × String)) :
    (fields.foldl (applyField net) out).mode =
      ((fields.filter fun f => decide (f.1 = "mode")).getLast?.map fun f => net.lower f.2).or
        out.mode := by
  induction fields using List.reverseRecOn with
  | nil => rfl
  | append_singleton fields f ih =>
    rw [List.foldl_append, List.foldl_cons, List.foldl_nil, mode_applyField, ih, List.filter_append]
    by_cases hmode : f.1 = "mode"
    · simp [hmode]
    · simp [hmode]

/-- loop の後に error が無いのは、どの `max_age` も読めたときである。 -/
theorem error_foldl_applyField {out : Sts} {fields : List (String × String)} :
    (fields.foldl (applyField net) out).error = none ↔
      out.error = none ∧
        ∀ f ∈ fields, f.1 = "max_age" → (pyIntText f.2.toList).isSome = true := by
  induction fields generalizing out with
  | nil => exact (and_iff_left (List.forall_mem_nil _)).symm
  | cons f fields ih =>
    rw [List.foldl_cons, ih, error_applyField_eq_none_iff, List.forall_mem_cons, and_assoc]

/-- 行の loop は、名と値の loop である。 -/
theorem foldl_policyLine (out : Sts) : ∀ lines : List (List Char),
    lines.foldl (policyLine net) out = (lines.filterMap (policyField net)).foldl (applyField net) out
  | [] => rfl
  | line :: lines => by
    rw [List.foldl_cons, foldl_policyLine, List.filterMap_cons, policyLine]
    cases policyField net line <;> rfl

section
variable {out : Sts}

theorem mode_foldl_policyLine (hmode : out.mode = none) (policy : String) :
    ((splitlines policy.toList).foldl (policyLine net) out).mode = policyMode net policy := by
  rw [foldl_policyLine, mode_foldl_applyField, hmode, Option.or_none]
  rfl

theorem mode_readPolicy (hmode : out.mode = none) (policy : String) :
    (readPolicy net out policy).mode = policyMode net policy := by
  unfold readPolicy
  dsimp only
  split
  · exact mode_foldl_policyLine hmode policy
  · exact mode_foldl_policyLine hmode policy

/-- **policy を読んで error が残らないのは、policy の形が整っているときである。** -/
theorem error_readPolicy_eq_none_iff (hmode : out.mode = none) (herror : out.error = none)
    (policy : String) : (readPolicy net out policy).error = none ↔ WellFormedPolicy net policy := by
  have hmodes : ((policyMode net policy).any fun mode => decide (mode ∈ POLICY_MODES)) = true ↔
      ∃ m ∈ POLICY_MODES, policyMode net policy = some m := by
    rw [Option.any_eq_true]
    simp only [decide_eq_true_eq]
    exact exists_congr fun m => and_comm
  unfold readPolicy
  dsimp only
  rw [mode_foldl_policyLine hmode]
  by_cases hm : ∃ m ∈ POLICY_MODES, policyMode net policy = some m
  · rw [if_pos (hmodes.mpr hm), foldl_policyLine, error_foldl_applyField]
    exact ⟨fun h => ⟨hm, h.2⟩, fun h => ⟨herror, h.maxAge⟩⟩
  · rw [if_neg (mt hmodes.mp hm)]
    exact iff_of_false (fun h => by cases h) fun h => hm h.mode

end

/-! ## 公開された policy -/

/-- 名の整った `domain` に、HTTPS で取れる policy がある。 -/
structure Served (net : Net) (domain policy : String) : Prop where
  mx : ∃ rrs, net.mx domain = .records rrs
  txt : ∃ strings txt, net.txt ("_mta-sts." ++ domain) = .records strings ∧
    joinTxt net strings = .ok txt ∧ (stsId txt.toList).isSome = true
  fetched : fetchPolicy net domain = .policy policy

/-- `domain` に policy が公開されている。 -/
structure Published (net : Net) (domain policy : String) : Prop where
  valid : validDomain (normalizeDomain net domain) = true
  served : Served net (normalizeDomain net domain) policy

/-- 公開された policy は一つである。 -/
theorem Published.unique {domain policy policy' : String} (h : Published net domain policy)
    (h' : Published net domain policy') : policy = policy' :=
  PolicyResult.policy.inj (h.served.fetched.symm.trans h'.served.fetched)

theorem Served.text {domain policy : String} {strings : List (List Bytes)}
    (h : Served net domain policy) (htxt : net.txt ("_mta-sts." ++ domain) = .records strings) :
    ∃ txt, joinTxt net strings = .ok txt ∧ (stsId txt.toList).isSome = true := by
  obtain ⟨strings', txt, hstrings, htext⟩ := h.txt
  cases htxt.symm.trans hstrings
  exact ⟨txt, htext⟩

/-- `_fetch_mta_sts` は、例外を出すか、policy を読まずに返すか、公開された policy を読む。 -/
theorem fetchMtaSts_cases (net : Net) (domain : String) :
    (∃ e, fetchMtaSts net domain = .error e ∧ ∀ policy, ¬Served net domain policy) ∨
    (∃ sts, fetchMtaSts net domain = .ok sts ∧ sts.mode = none ∧
      ∀ policy, ¬Served net domain policy) ∨
    ∃ policy out, Served net domain policy ∧ out.mode = none ∧ out.error = none ∧
      fetchMtaSts net domain = .ok (readPolicy net out policy) := by
  unfold fetchMtaSts
  cases hmx : net.mx domain with
  | noData e =>
    refine .inr (.inl ⟨_, rfl, rfl, fun policy h => ?_⟩)
    obtain ⟨rrs, hrrs⟩ := h.mx
    cases hmx.symm.trans hrrs
  | failed e =>
    refine .inr (.inl ⟨_, rfl, rfl, fun policy h => ?_⟩)
    obtain ⟨rrs, hrrs⟩ := h.mx
    cases hmx.symm.trans hrrs
  | records rrs =>
    dsimp only
    cases htxt : net.txt ("_mta-sts." ++ domain) with
    | noData e =>
      refine .inr (.inl ⟨_, rfl, rfl, fun policy h => ?_⟩)
      obtain ⟨strings, txt, hstrings, -⟩ := h.txt
      cases htxt.symm.trans hstrings
    | failed e =>
      refine .inr (.inl ⟨_, rfl, rfl, fun policy h => ?_⟩)
      obtain ⟨strings, txt, hstrings, -⟩ := h.txt
      cases htxt.symm.trans hstrings
    | records strings =>
      dsimp only
      cases hjoin : joinTxt net strings with
      | error e =>
        refine .inr (.inl ⟨_, rfl, rfl, fun policy h => ?_⟩)
        obtain ⟨txt, htext, -⟩ := h.text htxt
        cases hjoin.symm.trans htext
      | ok txt =>
        dsimp only
        cases hid : stsId txt.toList with
        | none =>
          refine .inr (.inl ⟨_, rfl, rfl, fun policy h => ?_⟩)
          obtain ⟨txt', htext, hsome⟩ := h.text htxt
          cases hjoin.symm.trans htext
          rw [hid] at hsome
          cases hsome
        | some policyId =>
          dsimp only
          cases hfetch : fetchPolicy net domain with
          | raised e => exact .inl ⟨e, rfl, fun policy h => by cases hfetch.symm.trans h.fetched⟩
          | error e =>
            exact .inr (.inl ⟨_, rfl, rfl, fun policy h => by cases hfetch.symm.trans h.fetched⟩)
          | policy policy =>
            refine .inr (.inr ⟨policy, _, ⟨⟨rrs, hmx⟩, ⟨strings, txt, htxt, hjoin, ?_⟩, hfetch⟩,
              rfl, rfl, rfl⟩)
            rw [hid]
            rfl

/-- `check_domain` の mode は、公開された policy の mode である。 -/
theorem mode_checkDomain_iff {domain m : String} :
    (checkDomain net domain).mtaSts.bind (·.mode) = some m ↔
      ∃ policy, Published net domain policy ∧ policyMode net policy = some m := by
  unfold checkDomain
  dsimp only
  by_cases hvalid : validDomain (normalizeDomain net domain) = false
  · rw [if_pos hvalid]
    refine iff_of_false (fun h => by cases h) ?_
    rintro ⟨policy, hpub, -⟩
    exact absurd (hvalid.symm.trans hpub.valid) Bool.false_ne_true
  · rw [if_neg hvalid]
    rcases fetchMtaSts_cases net (normalizeDomain net domain) with
      ⟨e, he, hnone⟩ | ⟨sts, hsts, hmode, hnone⟩ | ⟨policy, out, hserved, hmode, -, hread⟩
    · rw [he]
      refine iff_of_false (fun h => by cases h) ?_
      rintro ⟨policy, hpub, -⟩
      exact hnone policy hpub.served
    · rw [hsts]
      dsimp only
      rw [Option.bind_some, hmode]
      refine iff_of_false (fun h => by cases h) ?_
      rintro ⟨policy, hpub, -⟩
      exact hnone policy hpub.served
    · rw [hread]
      dsimp only
      rw [Option.bind_some, mode_readPolicy hmode]
      have hpub : Published net domain policy := ⟨Bool.not_eq_false _ ▸ hvalid, hserved⟩
      constructor
      · exact fun h => ⟨policy, hpub, h⟩
      · rintro ⟨policy', hpub', h⟩
        rw [hpub.unique hpub']
        exact h

/-! ## 形の崩れた policy -/

/-- 読めない `max_age` の文。 -/
theorem error_applyField_cases (net : Net) (out : Sts) (f : String × String) :
    (applyField net out f).error = out.error ∨
      ∃ v, (applyField net out f).error = some ("malformed max_age: " ++ v) := by
  rcases applyField_cases net out f with
    ⟨-, h⟩ | ⟨-, n, -, h⟩ | ⟨-, -, h⟩ | ⟨-, h⟩ | ⟨-, h⟩
  · exact .inl (by rw [h])
  · exact .inl (by rw [h])
  · exact .inr ⟨_, by rw [h]⟩
  · exact .inl (by rw [h])
  · exact .inl (by rw [h])

/-- loop の残す error は、`malformed` の文である。 -/
theorem error_foldl_applyField_cases (net : Net) {out : Sts}
    (h : out.error = none ∨ ∃ v, out.error = some ("malformed max_age: " ++ v)) :
    ∀ fields : List (String × String), (fields.foldl (applyField net) out).error = none ∨
      ∃ v, (fields.foldl (applyField net) out).error = some ("malformed max_age: " ++ v) := by
  intro fields
  induction fields generalizing out with
  | nil => exact h
  | cons f fields ih =>
    rw [List.foldl_cons]
    refine ih ?_
    rcases error_applyField_cases net out f with hkeep | hbad
    · rw [hkeep]
      exact h
    · exact .inr hbad

/-- `malformed` で始まる error の status。 -/
theorem stsStatus_of_malformed {sts : Sts} (rest : String)
    (h : sts.error = some ("malformed " ++ rest)) : stsStatus sts = "misconfigured" := by
  have hdns : ¬"dns-error".toList <+: ("malformed " ++ rest).toList := by
    rintro ⟨l, hl⟩
    rw [String.toList_append] at hl
    have hhead : 'd' = 'm' := List.head_eq_of_cons_eq hl
    exact absurd hhead (by decide)
  have hword : "malformed".toList <:+: ("malformed " ++ rest).toList :=
    ⟨[], ' ' :: rest.toList, by rw [String.toList_append]; rfl⟩
  rw [stsStatus, h]
  dsimp only
  rw [if_neg hdns, if_pos (.inl hword)]

/-- 形の崩れた policy を読んだ後の status。 -/
theorem stsStatus_readPolicy_of_malformed {out : Sts} {policy : String} (hmode : out.mode = none)
    (herror : out.error = none) (hbad : ¬WellFormedPolicy net policy) :
    stsStatus (readPolicy net out policy) = "misconfigured" := by
  have hsome := mt (error_readPolicy_eq_none_iff hmode herror policy).mp hbad
  unfold readPolicy at hsome ⊢
  dsimp only at hsome ⊢
  split at hsome
  · next hm =>
    rw [if_pos hm]
    rw [foldl_policyLine] at hsome ⊢
    rcases error_foldl_applyField_cases net (.inl herror)
      ((splitlines policy.toList).filterMap (policyField net)) with hnone | ⟨v, hv⟩
    · exact absurd hnone hsome
    · exact stsStatus_of_malformed ("max_age: " ++ v) hv
  · next hm =>
    rw [if_neg hm]
    exact stsStatus_of_malformed ("mode: " ++ _) rfl

/-- **形の崩れた policy は、code 自身が `misconfigured` と言う。** -/
theorem status_of_malformed {domain policy : String} (hpub : Published net domain policy)
    (hbad : ¬WellFormedPolicy net policy) : (checkDomain net domain).status = "misconfigured" := by
  unfold checkDomain
  dsimp only
  rw [if_neg (Bool.not_eq_false _ ▸ hpub.valid)]
  rcases fetchMtaSts_cases net (normalizeDomain net domain) with
    ⟨e, -, hnone⟩ | ⟨sts, -, -, hnone⟩ | ⟨policy', out, hserved, hmode, herror, hread⟩
  · exact absurd hpub.served (hnone policy)
  · exact absurd hpub.served (hnone policy)
  · obtain rfl := Published.unique ⟨hpub.valid, hserved⟩ hpub
    rw [hread]
    dsimp only
    rw [overallStatus, stsStatus_readPolicy_of_malformed hmode herror hbad,
      if_neg fun h => absurd h.2 (by decide)]

/-! ## 調べた MX -/

/-- `check_domain` が TLSA を調べる MX。 -/
def checkedMx (net : Net) (domain : String) : List String :=
  if validDomain (normalizeDomain net domain) = false then []
  else match fetchMtaSts net (normalizeDomain net domain) with
    | .error _ => []
    | .ok sts => sts.mxHosts.take 8

theorem mem_dane_iff {domain mx : String} {res : TlsaResult} :
    (mx, res) ∈ ((checkDomain net domain).dane.getD Dict.empty).entries ↔
      mx ∈ checkedMx net domain ∧ res = fetchTlsa net mx := by
  have hempty : (mx, res) ∈ (Dict.empty : Dict String TlsaResult).entries ↔
      mx ∈ ([] : List String) ∧ res = fetchTlsa net mx :=
    iff_of_false List.not_mem_nil fun h => List.not_mem_nil h.1
  unfold checkDomain checkedMx
  dsimp only
  by_cases hvalid : validDomain (normalizeDomain net domain) = false
  · rw [if_pos hvalid, if_pos hvalid]
    exact hempty
  · rw [if_neg hvalid, if_neg hvalid]
    cases fetchMtaSts net (normalizeDomain net domain) with
    | error e => exact hempty
    | ok sts =>
      dsimp only
      rw [Option.getD_some, Dict.mem_entries_iff, daneResults, Dict.get?_ofKeys]
      by_cases hmem : mx ∈ sts.mxHosts.take 8
      · rw [if_pos hmem, Option.some.injEq]
        exact ⟨fun h => ⟨hmem, h.symm⟩, fun h => h.2.symm⟩
      · rw [if_neg hmem]
        exact iff_of_false (fun h => by cases h) fun h => hmem h.1

end CipherPost.Proactive
