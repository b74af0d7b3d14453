import CipherPost.Infra.Json
import CipherPost.Parsing.FiveTuple

/-!
# 受け入れた危険の例外

`app/proactive/suppressions.py`。suppression は rule と scope を持ち、rule が一致して scope のどの次元も
合う finding に掛かる。scope は API が JSON の object であることしか確かめないので、読む途中の例外も持つ。

* `findingHosts`・`findingPorts`・`findingDomains` — finding の dict から読むもの
* `scopeMatches` — scope の判定。`none` は例外である
* `matchSuppression`・`isActive`・`filterActive` — 掛かる suppression
* `matchSuppression_eq_some_iff` — 例外の無い列での結果
-/

namespace CipherPost.Proactive

open Parsing

/-- `suppressions` の row。作るのは API だけで、空の `rule_id` は拒まれる。時刻は µs である。 -/
structure Suppression where
  id : Nat
  orgId : String
  ruleId : String
  ruleId_ne : ruleId ≠ ""
  scope : List (String × Json)
  status : String
  expiresAt : Nat

/-- 標準 library の文字列と address の関数。 -/
structure MatchLib where
  /-- `s.lower()`。 -/
  lower : String → String
  /-- 文字列でない値の `str(v)`。 -/
  text : Json → String
  /-- `ip_address(h) in ip_network(c, strict=False)`。ValueError は捕まえられて偽になる。 -/
  inNetwork : Json → String → Bool
  /-- `fnmatch.fnmatch`。 -/
  fnmatch : String → String → Bool

/-! ## finding から読むもの -/

section Reading

variable (lib : MatchLib)

/-- `str(v)`。 -/
def pyText : Json → String
  | .str s => s
  | v => lib.text v

/-- `finding.get(k)` が真なら、その `str`。 -/
def textAt (finding : List (String × Json)) (k : String) : Option String :=
  ((DictList.get? k finding).filter Json.truthy).map (pyText lib)

/-- `str(finding.get("five_tuple", "") or "")`。 -/
def fiveTupleText (finding : List (String × Json)) : String :=
  (textAt lib finding "five_tuple").getD ""

/-- `":"` を含む `five_tuple` を分けたもの。 -/
def endpoints (finding : List (String × Json)) : Option FiveTuple :=
  let ft := (fiveTupleText lib finding).toList
  if ':' ∈ ft then some (splitFiveTuple ft) else none

/-- `_finding_hosts`。 -/
def findingHosts (finding : List (String × Json)) : List String :=
  ["server", "host", "dst_ip", "src_ip", "sni"].filterMap (textAt lib finding) ++
    match endpoints lib finding with
    | some ft => ([ft.client, ft.server].filter (· ≠ [])).map String.ofList
    | none => []

/-- `int(v)`。 -/
def intOf : Json → Option Int
  | .int n => some n
  | .bool b => some (if b then 1 else 0)
  -- 小数は 0 の側に丸める
  | .float x => some (if 0 ≤ x then x.floor else x.ceil)
  | .str s => pyInt s.toList
  | _ => none

/-- `_finding_ports`。 -/
def findingPorts (finding : List (String × Json)) : List Int :=
  ["server_port", "src_port", "dst_port", "port"].filterMap
      (fun k => (DictList.get? k finding).bind intOf) ++
    match endpoints lib finding with
    | some ft => [ft.clientPort, ft.serverPort].filter (· ≠ 0)
    | none => []

/-- `"."` を含む値を小文字にしたもの。 -/
def domainAt (d : List (String × Json)) (k : String) : Option String :=
  ((textAt lib d k).filter fun s => decide ('.' ∈ s.toList)).map lib.lower

/-- `_finding_domains`。 -/
def findingDomains (finding : List (String × Json)) : List String :=
  ["sni", "server", "host", "domain"].filterMap (domainAt lib finding) ++
    match DictList.get? "evidence" finding with
    | some (.obj ev) => ["sni", "hostname", "domain", "cn"].filterMap (domainAt lib ev)
    | _ => []

end Reading

/-! ## scope -/

section Scope

variable (lib : MatchLib)

/-- `scope.get(k) or []`。偽なら `none` である。 -/
def dimension (scope : List (String × Json)) (k : String) : Option Json :=
  (DictList.get? k scope).filter Json.truthy

/-- `[x.lower() for x in v]`。回れない値と、文字列でない要素は例外になる。 -/
def lowered (v : Json) : Option (List String) :=
  v.iter?.bind fun items => items.mapM fun
    | .str s => some (lib.lower s)
    | _ => none

/-- `hosts` の次元。 -/
def hostsMatch (scope finding : List (String × Json)) : Option Bool :=
  match dimension scope "hosts" with
  | none => some true
  | some v => (lowered lib v).map fun hosts =>
    let fh := (findingHosts lib finding).map lib.lower
    hosts.any fun h => decide (h ∈ fh)

/-- `cidrs` の次元。 -/
def cidrsMatch (scope finding : List (String × Json)) : Option Bool :=
  match dimension scope "cidrs" with
  | none => some true
  | some v => v.iter?.map fun cidrs =>
    cidrs.any fun c => (findingHosts lib finding).any (lib.inNetwork c)

/-- `domains` の次元。 -/
def domainsMatch (scope finding : List (String × Json)) : Option Bool :=
  match dimension scope "domains" with
  | none => some true
  | some v => (lowered lib v).map fun domains =>
    (findingDomains lib finding).any fun d => domains.any (lib.fnmatch d)

/-- `ports` の次元。読めない port があれば、どの port も合わない。 -/
def portsMatch (scope finding : List (String × Json)) : Bool :=
  match dimension scope "ports" with
  | none => true
  | some v =>
    let wanted := ((v.iter?.bind fun items => items.mapM intOf)).getD []
    wanted.any fun p => decide (p ∈ findingPorts lib finding)

/-- 前の次元が合わなければ、後の次元は読まない。 -/
def andThen (a b : Option Bool) : Option Bool :=
  a.bind fun r => if r then b else some false

/-- `scope_matches`。 -/
def scopeMatches (scope finding : List (String × Json)) : Option Bool :=
  andThen (hostsMatch lib scope finding) <| andThen (cidrsMatch lib scope finding) <|
    andThen (domainsMatch lib scope finding) (some (portsMatch lib scope finding))

/-- scope の判定は、finding の host・port・domain だけで決まる。 -/
theorem scopeMatches_congr {finding finding' : List (String × Json)}
    (hhosts : findingHosts lib finding = findingHosts lib finding')
    (hports : findingPorts lib finding = findingPorts lib finding')
    (hdomains : findingDomains lib finding = findingDomains lib finding')
    (scope : List (String × Json)) :
    scopeMatches lib scope finding = scopeMatches lib scope finding' := by
  unfold scopeMatches hostsMatch cidrsMatch domainsMatch portsMatch
  rw [hhosts, hports, hdomains]

end Scope

/-! ## suppression -/

/-- `is_active`。 -/
def isActive (now : Nat) (s : Suppression) : Bool :=
  decide (s.status = "approved") && decide (now < s.expiresAt)

/-- `filter_active`。 -/
def filterActive (now : Nat) (rows : List Suppression) : List Suppression :=
  rows.filter (isActive now)

/-- `match_suppression`。外側の `none` は scope を読む途中の例外である。 -/
def matchSuppression (lib : MatchLib) (now : Nat) (ruleId : String)
    (finding : List (String × Json)) : List Suppression → Option (Option Suppression)
  | [] => some none
  | s :: rest =>
    if s.ruleId ≠ ruleId ∧ s.ruleId ≠ "*" then matchSuppression lib now ruleId finding rest
    else if isActive now s = false then matchSuppression lib now ruleId finding rest
    else (scopeMatches lib s.scope finding).bind fun hit =>
      if hit then some (some s) else matchSuppression lib now ruleId finding rest

/-- `s` が `finding` に掛かる。 -/
def Covers (lib : MatchLib) (finding : List (String × Json)) (s : Suppression) : Prop :=
  scopeMatches lib s.scope finding = some true

/-- rule の合うものの scope が例外を起こさない列では、掛かる suppression があるかどうかだけが結果を決める。 -/
theorem matchSuppression_eq_some_iff (lib : MatchLib) {now : Nat} (ruleId : String)
    {finding : List (String × Json)} : ∀ {sups : List Suppression},
    (∀ s ∈ sups, isActive now s = true) →
    (∀ s ∈ sups, s.ruleId = ruleId ∨ s.ruleId = "*" → scopeMatches lib s.scope finding ≠ none) →
      ∃ m, matchSuppression lib now ruleId finding sups = some m ∧
        (m.isSome = true ↔ ∃ s ∈ sups, (s.ruleId = ruleId ∨ s.ruleId = "*") ∧
          Covers lib finding s) := by
  intro sups
  induction sups with
  | nil => exact fun _ _ => ⟨none, rfl, by simp⟩
  | cons s sups ih =>
    intro hactive hclean
    obtain ⟨hs, hactive⟩ := List.forall_mem_cons.mp hactive
    obtain ⟨hsc, hclean⟩ := List.forall_mem_cons.mp hclean
    obtain ⟨m, hm, hiff⟩ := ih hactive hclean
    unfold matchSuppression
    by_cases hrule : s.ruleId = ruleId ∨ s.ruleId = "*"
    · rw [if_neg (fun h => hrule.elim h.1 h.2), if_neg (by rw [hs]; decide)]
      obtain ⟨hit, hhit⟩ := Option.ne_none_iff_exists'.mp (hsc hrule)
      rw [hhit, Option.bind_some]
      cases hit with
      | true => exact ⟨some s, rfl, by simp [hrule, Covers, hhit]⟩
      | false =>
        refine ⟨m, by simpa using hm, hiff.trans ?_⟩
        simp [Covers, hhit]
    · rw [if_pos (not_or.mp hrule)]
      refine ⟨m, hm, hiff.trans ?_⟩
      simp [hrule]

end CipherPost.Proactive
