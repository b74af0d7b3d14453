import CipherPost.Infra.Json
import CipherPost.Live.Watched

/-!
# alert の経路

`app/live/alerts.py` の `_route_finding` と、`app/api/main.py` の `explain_alert` が見せる owner と channel。
finding には group に入る前に経路を書き込むが、group も alert もその経路を持たない。

* `routeFinding` — `_route_finding`
* `MostSpecific`・`Assigned` — 最も specific な一致する経路と、それが決める owner と channel
* `Alert.payload`・`alertDetail` — 保存される alert の dict と、そこから読む owner と channel
* `Supplied` — bucket と alert の member の由来
* `routed_detail_iff` — owner と channel が見えるのは、一致する経路の無い finding だけである
-/

namespace CipherPost.Live

open Parsing

/-! ## 経路 -/

/-- `alert_routes` の row。 -/
structure AlertRoute where
  matchType : String
  matchValue : String
  owner : String := ""
  channel : String := ""
  deriving DecidableEq

/-- 標準 library の文字列の関数。 -/
structure RouteLib where
  /-- `s.lower()`。 -/
  lower : String → String
  /-- `fnmatch.fnmatchcase`。 -/
  fnmatchcase : String → String → Bool

/-- `match_type` を調べる順。 -/
def MATCH_TYPES : List String := ["domain", "host", "rule"]

/-- `_route_finding` の `hosts`。 -/
def routeHosts (f : Finding) : List String :=
  let ft := orText f.fiveTuple.get ""
  orText f.server.get "" ::
    if ft ≠ "" then [String.ofList (splitFiveTuple ft.toList).server] else []

section

variable (lib : RouteLib) (routes : List AlertRoute) (f : Finding)

/-- `match_type` を `mtype` として調べるときに、経路 `r` が選ばれる。 -/
def matchesAs (mtype : String) (r : AlertRoute) : Bool :=
  decide (r.matchType = mtype) &&
    ((decide (mtype = "rule") && decide (some r.matchValue = f.ruleId.get)) ||
      (decide (mtype = "host") &&
        (routeHosts f).any fun h => decide (h ≠ "") && decide (r.matchValue = h)) ||
      (decide (mtype = "domain") &&
        [orText f.sni.get ""].any fun d =>
          decide (d ≠ "") && lib.fnmatchcase (lib.lower d) (lib.lower r.matchValue)))

/-- `_route_finding`。どの経路も選ばれなければ、空の dict である。 -/
def routeFinding : Routing :=
  match MATCH_TYPES.findSome? fun mtype => routes.find? (matchesAs lib f mtype) with
  | some r => ⟨some r.owner, some r.channel⟩
  | none => ⟨none, none⟩

/-- 経路 `r` が finding に一致する。 -/
def AlertRoute.Matches (r : AlertRoute) : Prop := matchesAs lib f r.matchType r = true

/-- 経路の specific な順位。小さいほど specific である。 -/
def AlertRoute.specificity (r : AlertRoute) : Nat := MATCH_TYPES.idxOf r.matchType

/-- 一致する経路のうち最も specific で、その中で列の最も前にあるもの。 -/
def MostSpecific (r : AlertRoute) : Prop :=
  ∃ before after, routes = before ++ r :: after ∧ r.Matches lib f ∧
    (∀ r' ∈ before, r'.Matches lib f → r.specificity < r'.specificity) ∧
    ∀ r' ∈ after, r'.Matches lib f → r.specificity ≤ r'.specificity

/-- 経路が finding に決める owner と channel。一致する経路が無ければ、どちらも無い。 -/
def Assigned (r : Routing) : Prop :=
  (∃ route, MostSpecific lib routes f route ∧ r = ⟨some route.owner, some route.channel⟩) ∨
    ((∀ route ∈ routes, ¬route.Matches lib f) ∧ r = ⟨none, none⟩)

variable {lib routes f}

theorem AlertRoute.matches_of_matchesAs {mtype : String} {r : AlertRoute}
    (h : matchesAs lib f mtype r = true) : r.matchType = mtype ∧ r.Matches lib f := by
  have htype : r.matchType = mtype := of_decide_eq_true (Bool.and_eq_true_iff.mp h).1
  exact ⟨htype, by rw [Matches, htype]; exact h⟩

/-- 一致するのは、調べられる `match_type` の経路だけである。 -/
theorem AlertRoute.Matches.type {r : AlertRoute} (h : r.Matches lib f) :
    r.matchType ∈ MATCH_TYPES := by
  have hany := (Bool.and_eq_true_iff.mp h).2
  rcases Bool.or_eq_true_iff.mp hany with h' | h'
  · rcases Bool.or_eq_true_iff.mp h' with h' | h'
    · rw [of_decide_eq_true (Bool.and_eq_true_iff.mp h').1]
      decide
    · rw [of_decide_eq_true (Bool.and_eq_true_iff.mp h').1]
      decide
  · rw [of_decide_eq_true (Bool.and_eq_true_iff.mp h').1]
    decide

/-- 順に調べて選ばれる経路は、最も specific である。 -/
theorem mostSpecific_of_findSome? {r : AlertRoute}
    (h : (MATCH_TYPES.findSome? fun mtype => routes.find? (matchesAs lib f mtype)) = some r) :
    MostSpecific lib routes f r := by
  obtain ⟨tried, mtype, rest, htypes, hfind, htried⟩ := List.findSome?_eq_some_iff.mp h
  obtain ⟨hr, before, after, hroutes, hbefore⟩ := List.find?_eq_some_iff_append.mp hfind
  obtain ⟨htype, hmatches⟩ := AlertRoute.matches_of_matchesAs hr
  -- 先に調べた `match_type` の経路は、一つも一致しない
  have hnot : ∀ r' ∈ routes, r'.Matches lib f → r'.matchType ∉ tried := by
    intro r' hr' hm hmem
    have hnone := List.find?_eq_none.mp (htried r'.matchType hmem) r' hr'
    exact hnone hm
  have hspecificity : ∀ r' ∈ routes, r'.Matches lib f →
      r'.specificity = tried.length + (mtype :: rest).idxOf r'.matchType := by
    intro r' hr' hm
    rw [AlertRoute.specificity, htypes, List.idxOf_append_of_notMem (hnot r' hr' hm)]
  have hmem : r ∈ routes := by
    rw [hroutes]
    exact List.mem_append_right _ List.mem_cons_self
  have hself : r.specificity = tried.length := by
    rw [hspecificity r hmem hmatches, htype, List.idxOf_cons_self, Nat.add_zero]
  refine ⟨before, after, hroutes, hmatches, fun r' hr' hm => ?_, fun r' hr' hm => ?_⟩
  · have hmem' : r' ∈ routes := by
      rw [hroutes]
      exact List.mem_append_left _ hr'
    have hne : mtype ≠ r'.matchType := by
      rintro rfl
      have hfalse := hbefore r' hr'
      rw [hm] at hfalse
      cases hfalse
    rw [hself, hspecificity r' hmem' hm, List.idxOf_cons_ne _ hne]
    omega
  · have hmem' : r' ∈ routes := by
      rw [hroutes]
      exact List.mem_append_right _ (List.mem_cons_of_mem _ hr')
    rw [hself, hspecificity r' hmem' hm]
    omega

/-- **`_route_finding` は、最も specific な一致する経路の owner と channel を返す。** -/
theorem assigned_routeFinding : Assigned lib routes f (routeFinding lib routes f) := by
  unfold routeFinding
  cases h : MATCH_TYPES.findSome? fun mtype => routes.find? (matchesAs lib f mtype) with
  | some r => exact .inl ⟨r, mostSpecific_of_findSome? h, rfl⟩
  | none =>
    refine .inr ⟨fun r hr hm => ?_, rfl⟩
    have hnone := List.findSome?_eq_none_iff.mp h r.matchType hm.type
    exact List.find?_eq_none.mp hnone r hr hm

/-- 何も見せないのが正しいのは、一致する経路が無いときだけである。 -/
theorem assigned_none_iff :
    Assigned lib routes f ⟨none, none⟩ ↔ ∀ r ∈ routes, ¬r.Matches lib f := by
  constructor
  · rintro (⟨r, -, heq⟩ | ⟨h, -⟩)
    · cases heq
    · exact h
  · exact fun h => .inr ⟨h, rfl⟩

end

/-! ## 保存される alert -/

/-- payload の `findings` の要素の dict。 -/
def Item.toJson (i : Item) : Json :=
  .obj [("rule_id", .ofString? i.ruleId), ("severity", .ofString? i.severity),
    ("title", .ofString? i.title)]

/-- `_dispatch` が作り、`_persist_alert` が保存する dict。ticket を作れば `ticket_url` が付く。 -/
def Alert.payload (id : String) (ticketUrl : Option String) (a : Alert) : Json :=
  .obj ([("id", .str id), ("ts", .int a.ts), ("five_tuple", .ofString? a.fiveTuple),
    ("protocol", .ofString? a.protocol), ("severity", .str a.severity),
    ("title", .ofString? a.title), ("description", .str a.description),
    ("rule_id", .ofString? a.ruleId), ("risk_score", (a.riskScore.map Json.int).getD .null),
    ("findings", (a.findings.map fun items => Json.arr (items.map Item.toJson)).getD .null),
    ("org_id", .ofString? a.orgId), ("occurrence_count", .ofNat? a.occurrenceCount),
    ("first_seen", .ofNat? a.firstSeen), ("last_seen", .ofNat? a.lastSeen)] ++
    (ticketUrl.map fun url => ("ticket_url", Json.str url)).toList)

/-- `explain_alert` の `owner` と `channel`。 -/
def alertDetail (p : Json) : Option Json × Option Json :=
  let routing := ((p.get? "routing").filter Json.truthy).getD (.obj [])
  (routing.get? "owner", routing.get? "channel")

/-- owner と channel の JSON の値。 -/
def Routing.shown (r : Routing) : Option Json × Option Json :=
  (r.owner.map Json.str, r.channel.map Json.str)

/-- alert の dict に、経路は無い。 -/
theorem Alert.get?_payload_routing (id : String) (ticketUrl : Option String) (a : Alert) :
    (a.payload id ticketUrl).get? "routing" = none := by
  cases ticketUrl with
  | none => rfl
  | some url => rfl

theorem alertDetail_payload (id : String) (ticketUrl : Option String) (a : Alert) :
    alertDetail (a.payload id ticketUrl) = (none, none) := by
  unfold alertDetail
  rw [a.get?_payload_routing]
  rfl

theorem Routing.shown_eq_none {r : Routing} (h : r.shown = (none, none)) : r = ⟨none, none⟩ := by
  obtain ⟨owner, channel⟩ := r
  obtain ⟨howner, hchannel⟩ := Prod.mk.inj h
  obtain rfl : owner = none := Option.map_eq_none_iff.mp howner
  obtain rfl : channel = none := Option.map_eq_none_iff.mp hchannel
  rfl

/-! ## member の由来 -/

/-- 命令の持ち込む member は、どれも `P` である。 -/
def Instr.Supplies (P : Member → Prop) : Instr → Prop
  | .add m => P m
  | .send _ ms => ∀ m ∈ ms, P m
  | _ => True

namespace AlertDispatcher

/-- bucket の member も、出した alert の member も、どれも `P` である。 -/
structure Supplied (P : Member → Prop) (d : AlertDispatcher) : Prop where
  groups : ∀ key b, d.groups.buckets.get? key = some b → ∀ m ∈ b.members, P m
  sent : ∀ s ∈ d.sent, ∀ m ∈ s.members, P m

variable {P : Member → Prop} {cfg : Config} {env : Env} {d : AlertDispatcher}

theorem Supplied.congr {d' : AlertDispatcher} (h : Supplied P d) (hg : d'.groups = d.groups)
    (hs : d'.sent = d.sent) : Supplied P d' where
  groups := hg ▸ h.groups
  sent := hs ▸ h.sent

/-- group に加わるのは、加えた member だけである。 -/
theorem Supplied.members_add (h : Supplied P d) {m : Member} (hm : P m) {key : String} {b : Bucket}
    (hb : (d.groups.add m env.now cfg.holdSeconds).buckets.get? key = some b) :
    ∀ x ∈ b.members, P x := by
  intro x hx
  rcases GroupBuffer.mem_members_add hb hx with ⟨-, rfl⟩ | ⟨b₀, hb₀, hx⟩
  · exact hm
  · exact h.groups key b₀ hb₀ x hx

theorem Supplied.run (h : Supplied P d) {i : Instr} (hi : i.Supplies P) :
    Supplied P (i.run cfg env d) := by
  cases i with
  | consumer op => exact h.congr rfl rfl
  | outcome e o => exact h.congr rfl rfl
  | stash e key org item =>
    exact h.congr (framed_stash d env e key org item).groups (unsent_run cfg env d rfl).sent
  | takeStash key => exact h.congr (framed_takeStash d env key).groups (unsent_run cfg env d rfl).sent
  | add m => exact ⟨fun key b hb => h.members_add hi hb, h.sent⟩
  | flush =>
    refine ⟨fun key b hb => ?_, h.sent⟩
    exact h.groups key b ((GroupBuffer.get?_flushed d.groups env.now key b).mp hb).1
  | gate f ms => exact h.congr (framed_gate cfg d env f ms).groups (sent_gate cfg env d f ms)
  | rate ms => exact h.congr (framed_rate cfg d env ms).groups (sent_rate cfg env d ms)
  | send f ms =>
    refine ⟨(framed_send d env f ms).groups ▸ h.groups, fun s hs => ?_⟩
    have hs : s ∈ (d.send env f ms).sent := hs
    unfold send at hs
    split at hs
    · rcases List.mem_append.mp hs with hs | hs
      · exact h.sent s hs
      · rw [List.mem_singleton.mp hs]
        exact hi
    · exact h.sent s hs

theorem Supplied.perform (h : Supplied P d) {fault : Fault} {is : List Instr}
    (his : ∀ i ∈ is, i.Supplies P) : Supplied P (d.perform cfg env fault is) := by
  have hexec : Supplied P (Run.exec (Instr.run cfg env) d is) :=
    Run.Along.invariant (fun _ _ h hi => h.run hi) (Run.along_of_mem his) h
  unfold AlertDispatcher.perform
  simp only
  split
  · exact ⟨fun _ _ hb => (by cases hb), hexec.sent⟩
  · exact hexec

/-- `_dispatch` の持ち込む member。 -/
theorem supplies_dispatch {f : Finding} {ms : List Member} (hms : ∀ m ∈ ms, P m) :
    ∀ i ∈ dispatch f ms, i.Supplies P := by
  intro i hi
  simp only [dispatch, List.mem_cons, List.not_mem_nil, or_false] at hi
  rcases hi with rfl | rfl | rfl
  · exact trivial
  · exact trivial
  · exact hms

/-- 期限の来た group の `_dispatch` は、bucket の member を持ち込む。 -/
theorem supplies_dueGroups {groups : GroupBuffer}
    (h : ∀ key b, groups.buckets.get? key = some b → ∀ m ∈ b.members, P m) (now : Nat)
    (f : Finding) : ∀ i ∈ dispatchAll (dueGroups groups now f), i.Supplies P := by
  intro i hi
  obtain ⟨g, hg, hi⟩ := List.mem_flatMap.mp hi
  obtain ⟨b, hb, rfl⟩ := List.mem_map.mp hg
  obtain ⟨key, hget, -⟩ := GroupBuffer.mem_due.mp hb
  exact supplies_dispatch (h key b hget) i hi

theorem supplies_consumer (is : List (GroupOp Finding)) :
    ∀ i ∈ is.map Instr.consumer, i.Supplies P := by
  intro i hi
  obtain ⟨op, -, rfl⟩ := List.mem_map.mp hi
  exact trivial

/-- 成功する道筋の持ち込む member は、経路を書き込んだ finding と、期限の来た bucket のものである。 -/
theorem supplies_plan (h : Supplied P d) {e : EntryId} {f : Finding} (hf : P ⟨e, routed env f⟩) :
    ∀ i ∈ (d.plan cfg e env f).body ++ (d.plan cfg e env f).tail, i.Supplies P := by
  intro i hi
  unfold plan at hi
  cases htri : triage cfg env f with
  | drop o =>
    rw [htri] at hi
    rcases List.mem_cons.mp hi with rfl | hi
    · exact trivial
    · exact supplies_consumer [.ack e, .clearAttempts e] i hi
  | stash key =>
    rw [htri] at hi
    rcases List.mem_cons.mp hi with rfl | hi
    · exact trivial
    · exact supplies_consumer [.ack e, .clearAttempts e] i hi
  | group =>
    rw [htri] at hi
    rcases List.mem_append.mp hi with hi | hi
    · rcases List.mem_cons.mp hi with rfl | hi
      · exact hf
      · rcases List.mem_cons.mp hi with rfl | hi
        · exact trivial
        · exact supplies_dueGroups (fun key b hb => h.members_add hf hb) _ _ i hi
    · exact supplies_consumer [.clearAttempts e, .ack e] i hi

/-- `_handle_entry` の持ち込む member は、経路を書き込んだ finding である。 -/
theorem supplies_handleEntry (h : Supplied P d) {e : EntryId} {p : Payload} {fault : Fault}
    (hp : ∀ f, p.finding = some f → P ⟨e, routed env f⟩) :
    ∀ i ∈ d.handleEntry cfg e p env fault, i.Supplies P := by
  intro i hi
  unfold handleEntry at hi
  cases hf : p.finding with
  | none =>
    rw [hf] at hi
    rcases Fault.mem_or_of_mem_cut hi with hi | hi
    · cases hi
    · exact supplies_consumer _ i hi
  | some f =>
    rw [hf] at hi
    have hplan : ∀ i ∈ (d.plan cfg e env f).body ++ (d.plan cfg e env f).tail, i.Supplies P :=
      supplies_plan h (hp f hf)
    rcases Fault.mem_or_of_mem_cut hi with hi | hi
    · exact hplan i (List.mem_append_left _ hi)
    · rcases List.mem_append.mp hi with hi | hi
      · exact hplan i (List.mem_append_right _ hi)
      · exact supplies_consumer _ i hi

/-- digest の `_dispatch` は、member を持ち込まない。 -/
theorem supplies_flushDigests {org : String} :
    ∀ i ∈ d.flushDigests org env, i.Supplies P := by
  intro i hi
  rcases of_mem_flushDigests hi with ⟨key, rfl⟩ | ⟨f, hi⟩
  · exact trivial
  · exact supplies_dispatch (fun m hm => (List.not_mem_nil hm).elim) i hi

end AlertDispatcher

/-! ## 経路の見え方 -/

/-- entry の呼び出しの `_route_finding` は、org の経路から選ぶ。 -/
def Event.routedBy (lib : RouteLib) (routesFor : Option String → List AlertRoute) : Event → Event
  | .entry e env fault =>
    .entry e { env with route := fun f => some (routeFinding lib (routesFor f.orgId.get) f) } fault
  | ev => ev

section

variable (lib : RouteLib) (routesFor : Option String → List AlertRoute)
variable (content : EntryId → Payload)

/-- entry の finding に、その org の経路を書き込んだ member。 -/
def RoutedMember (m : Member) : Prop :=
  ∃ f, (content m.id).finding = some f ∧
    m.finding = { f with routing := .value (routeFinding lib (routesFor f.orgId.get) f) }

variable {lib routesFor content}

theorem supplied_step {cfg : Config} {d : AlertDispatcher}
    (h : AlertDispatcher.Supplied (RoutedMember lib routesFor content) d) (ev : Event) :
    AlertDispatcher.Supplied (RoutedMember lib routesFor content)
      (d.step cfg content (ev.routedBy lib routesFor)) := by
  cases ev with
  | entry e env fault =>
    exact h.perform (AlertDispatcher.supplies_handleEntry h fun f hf => ⟨f, hf, rfl⟩)
  | idle env fault =>
    refine h.perform fun i hi => ?_
    rcases List.mem_cons.mp (Fault.mem_of_mem_cut hi) with rfl | hi
    · exact trivial
    · exact AlertDispatcher.supplies_dueGroups h.groups _ _ i hi
  | digest org env fault =>
    exact h.perform fun i hi =>
      AlertDispatcher.supplies_flushDigests i (Fault.mem_of_mem_cut hi)
  | direct f env fault =>
    exact h.perform fun i hi => AlertDispatcher.supplies_dispatch
      (fun m hm => (List.not_mem_nil hm).elim) i (Fault.mem_of_mem_cut hi)
  | restart => exact ⟨fun _ _ hb => (by cases hb), h.sent⟩

theorem supplied_exec (cfg : Config) (events : List Event) :
    AlertDispatcher.Supplied (RoutedMember lib routesFor content)
      (Run.exec (AlertDispatcher.step cfg content) {} (events.map (Event.routedBy lib routesFor))) := by
  have hempty : AlertDispatcher.Supplied (RoutedMember lib routesFor content) {} :=
    ⟨fun _ _ hb => (by cases hb), fun _ hs => (List.not_mem_nil hs).elim⟩
  have hrun : AlertDispatcher.Supplied (RoutedMember lib routesFor content)
      (Run.exec (fun d ev => AlertDispatcher.step cfg content d (ev.routedBy lib routesFor)) {}
        events) :=
    Run.invariant (I := AlertDispatcher.Supplied (RoutedMember lib routesFor content))
      (fun _ ev h => supplied_step h ev) events hempty
  unfold Run.exec at hrun ⊢
  rw [List.foldl_map]
  exact hrun

end

/--
**どの run で出した alert の、どの finding についても、保存された alert の detail がその org の経路の定める owner と channel を
見せるのは、ちょうど一致する経路が無いときである。** finding には正しい経路が書き込まれているが、alert はそれを運ばない。
-/
theorem routed_detail_iff (lib : RouteLib) (routesFor : Option String → List AlertRoute)
    (cfg : Config) (content : EntryId → Payload) (events : List Event) (id : String)
    (ticketUrl : Option String) :
    ∀ s ∈ (Run.exec (AlertDispatcher.step cfg content) {}
      (events.map (Event.routedBy lib routesFor))).sent, ∀ m ∈ s.members,
    ∃ f tag, (content m.id).finding = some f ∧ m.finding = { f with routing := .value tag } ∧
      Assigned lib (routesFor f.orgId.get) f tag ∧
      ((∃ r, Assigned lib (routesFor f.orgId.get) f r ∧
          alertDetail (s.alert.payload id ticketUrl) = r.shown) ↔
        ∀ r ∈ routesFor f.orgId.get, ¬r.Matches lib f) := by
  intro s hs m hm
  obtain ⟨f, hf, hfinding⟩ := (supplied_exec cfg events).sent s hs m hm
  refine ⟨f, _, hf, hfinding, assigned_routeFinding, ?_⟩
  rw [alertDetail_payload]
  constructor
  · rintro ⟨r, hassigned, hshown⟩
    rw [Routing.shown_eq_none hshown.symm] at hassigned
    exact assigned_none_iff.mp hassigned
  · exact fun h => ⟨⟨none, none⟩, assigned_none_iff.mpr h, rfl⟩

/-- 文字列をそのまま比べる library。例の値では、実際の関数と一致する。 -/
def plainLib : RouteLib where
  lower s := s
  fnmatchcase name pat := decide (name = pat)

/-- entry の finding。 -/
def routedFinding : EntryId → Payload := fun _ =>
  .object { orgId := .value "org-a", ruleId := .value "weak-cipher", severity := .value "critical"
            server := .value "mx.example.org" }

/-- finding を一つ受け取り、保留窓の後の idle の poll で flush する。 -/
def idleFlushed (routes : List AlertRoute) : AlertDispatcher :=
  Run.exec (AlertDispatcher.step {} routedFinding) {}
    ([.entry 1 { now := 0 } {}, .idle { now := 20 } {}].map (Event.routedBy plainLib fun _ => routes))

/-- ほかの rule の経路だけなら、owner の無い detail が正しい。 -/
theorem routed_detail_unmatched :
    ∃ s ∈ (idleFlushed [⟨"rule", "expired-cert", "pki", "mail"⟩]).sent, ∃ m ∈ s.members,
    ∃ f r, (routedFinding m.id).finding = some f ∧
      Assigned plainLib [⟨"rule", "expired-cert", "pki", "mail"⟩] f r ∧
      alertDetail (s.alert.payload "a1" none) = r.shown := by
  have hs : 0 < (idleFlushed [⟨"rule", "expired-cert", "pki", "mail"⟩]).sent.length := by
    decide +kernel
  have hm : 0 < ((idleFlushed [⟨"rule", "expired-cert", "pki", "mail"⟩]).sent.get
      ⟨0, by decide +kernel⟩).members.length := by
    decide +kernel
  obtain ⟨f, tag, hf, -, -, hiff⟩ := routed_detail_iff plainLib
    (fun _ => [⟨"rule", "expired-cert", "pki", "mail"⟩]) {} routedFinding
    [.entry 1 { now := 0 } {}, .idle { now := 20 } {}] "a1" none _ (List.get_mem _ ⟨0, hs⟩) _
    (List.get_mem _ ⟨0, hm⟩)
  have hnone : ∀ r ∈ [(⟨"rule", "expired-cert", "pki", "mail"⟩ : AlertRoute)],
      ¬r.Matches plainLib f := by
    intro r hr
    rw [List.mem_singleton.mp hr, ← Option.some.inj hf]
    unfold AlertRoute.Matches
    decide
  obtain ⟨r, hassigned, hshown⟩ := hiff.mpr hnone
  exact ⟨_, List.get_mem _ ⟨0, hs⟩, _, List.get_mem _ ⟨0, hm⟩, f, r, hf, hassigned, hshown⟩

/-- rule の経路が一致する finding では、経路は書き込まれているのに、detail の owner は空である。 -/
theorem routed_detail_lost :
    (idleFlushed [⟨"rule", "weak-cipher", "tls-team", "mail"⟩]).sent.map
        (fun s => s.members.map fun m => (m.id, m.finding.routing)) =
      [[(1, .value ⟨some "tls-team", some "mail"⟩)]] ∧
    ∀ s ∈ (idleFlushed [⟨"rule", "weak-cipher", "tls-team", "mail"⟩]).sent,
      ∀ f, (routedFinding 1).finding = some f →
        ¬∃ r, Assigned plainLib [⟨"rule", "weak-cipher", "tls-team", "mail"⟩] f r ∧
          alertDetail (s.alert.payload "a1" none) = r.shown := by
  refine ⟨by decide +kernel, fun s _ f hf => ?_⟩
  rintro ⟨r, hassigned, hshown⟩
  rw [alertDetail_payload] at hshown
  rw [Routing.shown_eq_none hshown.symm] at hassigned
  refine assigned_none_iff.mp hassigned _ List.mem_cons_self ?_
  rw [← Option.some.inj hf]
  unfold AlertRoute.Matches
  decide

end CipherPost.Live
