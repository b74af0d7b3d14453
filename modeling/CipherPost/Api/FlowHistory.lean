import CipherPost.Api.Pagination
import CipherPost.Live.FlowTotals

/-!
# flow の履歴

`main.py` の `flow_history`。flow の row の client と server を、session の五つ組の文字列の中に探して選ぶ。row は
`flow_id(parse_five_tuple)` で数えられているので、二つの選び方を比べる。

* `flowHistory` — `flow_history`
* `Exact` — 履歴が、flow の session そのものであること
* `occursIn_key` — 五つ組から読んだ host は、その文字列の中にある
* `exact_iff` — 二つの選び方が一致する条件
* `keyed_flowsAfter` — row の id は、row の欄の key である
-/

namespace CipherPost.Api

open CipherPost.Live CipherPost.Parsing

/-! ## 履歴 -/

/-- `flow_id` の key のうち、org の他のもの。 -/
structure FlowKey where
  client : String
  server : String
  protocol : String
  port : Int
  deriving DecidableEq

/-- session の `parse_five_tuple` と protocol。 -/
def SessionRecord.key (r : SessionRecord) : FlowKey :=
  let (client, server, port) := parseFiveTuple r.fiveTuple
  ⟨client, server, r.protocol, port⟩

/-- row の欄。 -/
def flowKey (f : MailFlow) : FlowKey := ⟨f.clientHost, f.serverHost, f.protocol, f.port⟩

/-- key の id。 -/
def FlowKey.id (sha256 : String → String) (orgId : Option String) (k : FlowKey) : String :=
  flowId sha256 orgId k.client k.server k.protocol k.port

/-- session を数える row の id。 -/
def SessionRecord.flow (sha256 : String → String) (r : SessionRecord) : String :=
  r.key.id sha256 r.orgId

/-- 履歴の一点。 -/
structure HistoryPoint where
  tlsVersion : Option String
  cipher : Option String
  seenAt : String
  deriving DecidableEq

/-- CSV の一行。 -/
structure HistoryRow where
  flowId : String
  client : String
  server : String
  protocol : String
  port : Int
  point : HistoryPoint
  deriving DecidableEq

/-- CSV の見出し。 -/
def HISTORY_HEADER : List String :=
  ["flow_id", "client", "server", "protocol", "port", "at", "tls_version", "cipher"]

/-- `flow_history` の応答。 -/
inductive HistoryResponse where
  | json (flow : FlowItem) (sessionsSampled : Nat) (history : List HistoryPoint)
  | csv (header : List String) (rows : List HistoryRow)

/-- 応答にある点。 -/
def HistoryResponse.points : HistoryResponse → List HistoryPoint
  | json _ _ history => history
  | csv _ rows => rows.map (·.point)

/-- `sub in s`。 -/
def occursIn (sub s : String) : Bool := decide (sub.toList <:+: s.toList)

/-- 二つの host が、五つ組の文字列の中にある。 -/
def names (f : MailFlow) (r : SessionRecord) : Bool :=
  occursIn f.clientHost r.fiveTuple && occursIn f.serverHost r.fiveTuple

/-- org の session で、時刻が範囲にあるもの。時刻は µs である。 -/
def Tables.window (db : Tables) (org : String) (now : Int) (days : Nat) : List SessionRecord :=
  db.sessions.filter fun r => r.orgId == some org &&
    r.createdAt.any fun created => decide (now - days * 86400000000 ≤ created)

/-- 履歴の一点。時刻の無い session は選ばれない。 -/
def SessionRecord.point (isoformat : Int → String) (r : SessionRecord) : HistoryPoint :=
  ⟨r.tlsVersion, r.negotiatedCipher, (r.createdAt.map isoformat).getD ""⟩

/-- `flow_history`。`none` は 404 である。 -/
def flowHistory (isoformat : Int → String) (db : Tables) (org : String) (now : Int) (id : String)
    (days : Nat) (format : Option String) : Option HistoryResponse :=
  match db.flows.get? id with
  | none => none
  | some f =>
    if f.orgId ≠ org then none
    else
      let points := ((db.window org now days).filter (names f)).map (·.point isoformat)
      let history := points.mergeSort fun p q => decide (p.seenAt ≤ q.seenAt)
      if format = some "csv" then
        some (.csv HISTORY_HEADER (history.map fun p =>
          ⟨id, f.clientHost, f.serverHost, f.protocol, f.port, p⟩))
      else some (.json (flowToDict id f) points.length history)

/--
**履歴は、範囲にある org の session のうち、flow の id を持つものをちょうど並べ、それらは row と同じ client・server・
protocol・port を持つ。**
-/
structure Exact (sha256 : String → String) (isoformat : Int → String) (db : Tables) (org : String)
    (now : Int) (id : String) (f : MailFlow) (days : Nat) (response : HistoryResponse) : Prop where
  points : response.points.Perm (((db.window org now days).filter fun r =>
    decide (r.flow sha256 = id)).map (·.point isoformat))
  key : ∀ r ∈ db.window org now days, r.flow sha256 = id → r.key = flowKey f

/-! ## 五つ組の host -/

theorem eq_of_partition {sep : List Char} : ∀ {s a b : List Char},
    partition sep s = some (a, b) → s = a ++ sep ++ b
  | [], _, _, h => by cases h
  | c :: l, a, b, h => by
    rw [partition] at h
    split at h
    · next hpre =>
      obtain ⟨rest, hrest⟩ := List.isPrefixOf_iff_prefix.mp hpre
      obtain ⟨rfl, rfl⟩ := Prod.mk.inj (Option.some.inj h)
      rw [← hrest, List.drop_left, List.nil_append]
    · obtain ⟨⟨a', b'⟩, hrest, hp⟩ := Option.map_eq_some_iff.mp h
      obtain ⟨rfl, rfl⟩ := Prod.mk.inj hp
      rw [eq_of_partition hrest]
      rfl

theorem eq_of_rpartition_go {c : Char} : ∀ {s a b : List Char},
    rpartition.go c s = some (a, b) → s = a ++ c :: b
  | [], _, _, h => by cases h
  | x :: l, a, b, h => by
    rw [rpartition.go] at h
    split at h
    · next p hrest =>
      obtain ⟨rfl, rfl⟩ := Prod.mk.inj (Option.some.inj h)
      rw [eq_of_rpartition_go hrest]
      rfl
    · split at h
      · next hx =>
        obtain ⟨rfl, rfl⟩ := Prod.mk.inj (Option.some.inj h)
        rw [hx]
        rfl
      · cases h

/-- 最後の区切りの前は、先頭の部分である。 -/
theorem rpartition_fst_isPrefix (c : Char) (s : List Char) : (rpartition c s).1 <+: s := by
  unfold rpartition
  cases hgo : rpartition.go c s with
  | none => exact List.nil_prefix
  | some p =>
    rw [eq_of_rpartition_go hgo]
    exact List.prefix_append _ _

/-- 区切りの前と後は、どちらも元の文字列の中にある。 -/
theorem partition_within {sep s left right : List Char} (h : partition sep s = some (left, right)) :
    left <:+: s ∧ right <:+: s := by
  rw [eq_of_partition h]
  exact ⟨⟨[], sep ++ right, by simp⟩, ⟨left ++ sep, [], by simp⟩⟩

theorem client_within {s left : List Char} (h : left <:+: s) : (rpartition ':' left).1 <:+: s :=
  (rpartition_fst_isPrefix ':' left).isInfix.trans h

theorem server_within {s right : List Char} (h : right <:+: s) :
    (rpartition ':' right).1.dropWhile (· = '>') <:+: s :=
  (List.dropWhile_suffix _).isInfix.trans ((rpartition_fst_isPrefix ':' right).isInfix.trans h)

/-- 五つ組から読んだ host は、どちらもその文字列の中にある。 -/
theorem splitFiveTuple_within (s : List Char) :
    (splitFiveTuple s).client <:+: s ∧ (splitFiveTuple s).server <:+: s := by
  unfold splitFiveTuple
  cases harrow : partition ['-', '>'] s with
  | some p =>
    obtain ⟨hleft, hright⟩ := partition_within harrow
    dsimp only
    split
    · exact ⟨client_within hleft, server_within hright⟩
    · exact ⟨List.nil_infix, List.nil_infix⟩
  | none =>
    cases hhyphen : partition ['-'] s with
    | some p =>
      obtain ⟨hleft, hright⟩ := partition_within hhyphen
      dsimp only [Option.getD_some]
      split
      · exact ⟨client_within hleft, server_within hright⟩
      · exact ⟨List.nil_infix, List.nil_infix⟩
    | none =>
      dsimp only [Option.getD_none]
      split
      · exact ⟨client_within List.infix_rfl, server_within List.nil_infix⟩
      · exact ⟨List.nil_infix, List.nil_infix⟩

/-- **session の client と server は、どちらも五つ組の文字列の中にある。** -/
theorem occursIn_key (r : SessionRecord) :
    occursIn r.key.client r.fiveTuple = true ∧ occursIn r.key.server r.fiveTuple = true := by
  obtain ⟨hclient, hserver⟩ := splitFiveTuple_within r.fiveTuple.toList
  unfold occursIn SessionRecord.key parseFiveTuple
  simp only [decide_eq_true_iff, String.toList_ofList]
  exact ⟨hclient, hserver⟩

/-! ## 選び方の違い -/

section
variable {f : MailFlow} {r : SessionRecord}

/-- 向きも port も protocol も見ないので、二つの host の間の session はどれも選ばれる。 -/
theorem names_of_hosts (h : (r.key.client = f.clientHost ∧ r.key.server = f.serverHost) ∨
    r.key.client = f.serverHost ∧ r.key.server = f.clientHost) : names f r = true := by
  obtain ⟨hclient, hserver⟩ := occursIn_key r
  rw [names, Bool.and_eq_true]
  rcases h with ⟨hc, hs⟩ | ⟨hc, hs⟩
  · exact ⟨hc ▸ hclient, hs ▸ hserver⟩
  · exact ⟨hs ▸ hserver, hc ▸ hclient⟩

theorem names_of_key (h : r.key = flowKey f) : names f r = true :=
  names_of_hosts (.inl ⟨congrArg FlowKey.client h, congrArg FlowKey.server h⟩)

end

section
variable {sha256 : String → String} {isoformat : Int → String} {db : Tables} {org id : String}
  {now : Int} {days : Nat} {f : MailFlow}

/-- 応答の点は、選ばれた session の点を並べ替えたものである。 -/
theorem flowHistory_points (hrow : db.flows.get? id = some f) (horg : f.orgId = org)
    (format : Option String) : ∃ response,
      flowHistory isoformat db org now id days format = some response ∧
      response.points.Perm
        (((db.window org now days).filter (names f)).map (·.point isoformat)) := by
  unfold flowHistory
  rw [hrow]
  dsimp only
  rw [if_neg (not_not.mpr horg)]
  by_cases hcsv : format = some "csv"
  · rw [if_pos hcsv]
    refine ⟨_, rfl, ?_⟩
    rw [HistoryResponse.points, List.map_map]
    exact (List.Perm.of_eq (List.map_id' _)).trans (List.mergeSort_perm _ _)
  · rw [if_neg hcsv]
    exact ⟨_, rfl, List.mergeSort_perm _ _⟩

/-- 一方が他方を含み、個数が等しい二つの選び方は同じものを選ぶ。 -/
theorem imp_of_length_filter_eq {α : Type} {p q : α → Bool} {l : List α}
    (himp : ∀ a ∈ l, p a = true → q a = true)
    (hlen : (l.filter p).length = (l.filter q).length) : ∀ a ∈ l, q a = true → p a = true := by
  intro a ha hq
  have hinner : (l.filter q).filter p = l.filter p := by
    rw [List.filter_filter]
    refine List.filter_congr fun b hb => ?_
    cases hpb : p b with
    | false => rfl
    | true => exact himp b hb hpb
  rw [← hinner] at hlen
  have hself := List.filter_sublist.eq_of_length hlen
  exact List.filter_eq_self.mp hself a (List.mem_filter.mpr ⟨ha, hq⟩)

/--
**履歴が flow の session そのものになるのは、範囲にある org の session で、二つの host を五つ組に含む他の flow のものが
無く、flow の id を持つものがどれも row と同じ key を持つときだけである。**
-/
theorem exact_iff (hrow : db.flows.get? id = some f) (horg : f.orgId = org)
    (format : Option String) : ∃ response,
      flowHistory isoformat db org now id days format = some response ∧
      (Exact sha256 isoformat db org now id f days response ↔
        (∀ r ∈ db.window org now days, names f r = true → r.flow sha256 = id) ∧
        ∀ r ∈ db.window org now days, r.flow sha256 = id → r.key = flowKey f) := by
  obtain ⟨response, hresponse, hpoints⟩ :=
    @flowHistory_points isoformat db org id now days f hrow horg format
  refine ⟨response, hresponse, fun ⟨hperm, hkey⟩ => ⟨fun r hr hnames => ?_, hkey⟩, ?_⟩
  · have hlen := (hperm.symm.trans hpoints).length_eq
    rw [List.length_map, List.length_map] at hlen
    have hall := imp_of_length_filter_eq
      (fun a ha h => names_of_key (hkey a ha (of_decide_eq_true h))) hlen r hr hnames
    exact of_decide_eq_true hall
  · rintro ⟨honly, hkey⟩
    refine ⟨?_, hkey⟩
    have hsame : (db.window org now days).filter (names f) =
        (db.window org now days).filter fun r => decide (r.flow sha256 = id) := by
      refine List.filter_congr fun r hr => ?_
      rw [Bool.eq_iff_iff, decide_eq_true_iff]
      exact ⟨honly r hr, fun h => names_of_key (hkey r hr h)⟩
    rw [← hsame]
    exact hpoints

end

/-! ## 向きの違う session -/

/-- 二つの key の SHA-256 の hex。 -/
def directedDigest (key : String) : String :=
  if key = "acme|10.0.0.1|10.0.0.2|SMTP|25" then
    "1aa046a4a6f1a3b774a29f51996b9752af9aca323c97db0c0137024c75b77eed"
  else "b0e9b1c12bda156b61ab34982e5235a56821be59a559b37ed0df72757b28fc46"

def mailSession (id fiveTuple : String) : SessionRecord where
  id := id
  orgId := some "acme"
  protocol := "SMTP"
  fiveTuple := fiveTuple
  tlsVersion := none
  negotiatedCipher := none
  riskScore := none
  maxSeverity := none
  isAnomaly := false
  modelVersion := none
  details := none
  createdAt := some 0

/-- 10.0.0.1 から 10.0.0.2 への flow。 -/
def outbound : MailFlow where
  orgId := "acme"
  clientHost := "10.0.0.1"
  serverHost := "10.0.0.2"
  protocol := "SMTP"
  port := 25
  bestVersion := none
  firstSeen := 0
  lastSeen := 0

/-- flow と、その session が一つある DB。 -/
def outboundTables : Tables where
  sessions := [mailSession "s-1" "10.0.0.1:40000->10.0.0.2:25"]
  findings := []
  flows := Dict.empty.set "flow-1aa046a4a6f1a3b774a29f51996b9752" outbound
  jobs := []
  sessions_nodup := by decide
  jobs_nodup := by decide

/-- 逆の向きの session もある DB。 -/
def reversedTables : Tables :=
  { outboundTables with
    sessions := outboundTables.sessions ++ [mailSession "s-2" "10.0.0.2:50000->10.0.0.1:25"]
    sessions_nodup := by decide }

/-- 別の client の session と、三十一日前の session もある DB。 -/
def busyTables : Tables :=
  { outboundTables with
    sessions := outboundTables.sessions ++
      [mailSession "s-3" "10.0.0.1:40001->10.0.0.2:25", mailSession "s-4" "10.0.0.3:40000->10.0.0.2:25",
        { mailSession "s-5" "10.0.0.1:40002->10.0.0.2:25" with createdAt := some (-2678400000000) }]
    sessions_nodup := by decide }

/-- 逆の向きの session が無ければ、範囲にある flow の二つの session がちょうど並ぶ。 -/
theorem exact_iff_outbound : ∃ response,
    flowHistory (fun _ => "") busyTables "acme" 0 "flow-1aa046a4a6f1a3b774a29f51996b9752" 30
      none = some response ∧
    Exact directedDigest (fun _ => "") busyTables "acme" 0
      "flow-1aa046a4a6f1a3b774a29f51996b9752" outbound 30 response ∧
    response.points.length = 2 := by
  obtain ⟨response, hresponse, hiff⟩ := @exact_iff directedDigest (fun _ => "") busyTables "acme" _ 0 30
    outbound (Dict.get?_set_self _ _ _) rfl none
  have hexact := hiff.mpr (by decide +kernel)
  refine ⟨response, hresponse, hexact, ?_⟩
  rw [hexact.points.length_eq, List.length_map]
  decide +kernel

/-- 逆の向きの session が、flow の履歴に入る。 -/
theorem not_exact_reversed : ∃ response,
    flowHistory (fun _ => "") reversedTables "acme" 0 "flow-1aa046a4a6f1a3b774a29f51996b9752" 30
      none = some response ∧
    ¬Exact directedDigest (fun _ => "") reversedTables "acme" 0
      "flow-1aa046a4a6f1a3b774a29f51996b9752" outbound 30 response := by
  have hrow : reversedTables.flows.get? "flow-1aa046a4a6f1a3b774a29f51996b9752" = some outbound :=
    Dict.get?_set_self _ _ _
  obtain ⟨response, hresponse, hpoints⟩ :=
    @flowHistory_points (fun _ => "") reversedTables "acme" _ 0 30 outbound hrow rfl none
  refine ⟨response, hresponse, fun hexact => ?_⟩
  have hlen := (hexact.points.symm.trans hpoints).length_eq
  rw [List.length_map, List.length_map] at hlen
  have hown : ((reversedTables.window "acme" 0 30).filter fun r =>
      decide (r.flow directedDigest = "flow-1aa046a4a6f1a3b774a29f51996b9752")).length = 1 := by
    decide +kernel
  have hnamed : ((reversedTables.window "acme" 0 30).filter (names outbound)).length = 2 := by
    decide +kernel
  omega

/-! ## row の id -/

/-- row の id は、row の欄の key の id である。 -/
def Keyed (sha256 : String → String) (flows : FlowTable) : Prop :=
  ∀ id f, flows.get? id = some f → (flowKey f).id sha256 (some f.orgId) = id

/-- `update_flow` の呼び出し一つは、row の id を保つ。 -/
theorem Keyed.step {sha256 : String → String} {flows : FlowTable} (h : Keyed sha256 flows)
    (c : FlowCall) : Keyed sha256 (updateFlowAs sha256 c flows).1 := by
  intro id f hget
  unfold updateFlowAs at hget
  dsimp only at hget
  cases hrow : flows.get? (c.flow sha256) with
  | none =>
    rw [hrow, Dict.get?_set] at hget
    split at hget
    · next hid =>
      obtain rfl := Option.some.inj hget
      rw [← hid]
      rfl
    · exact h id f hget
  | some row =>
    rw [hrow, Dict.get?_set] at hget
    split at hget
    · next hid =>
      obtain rfl := Option.some.inj hget
      rw [← hid]
      exact h _ row hrow
    · exact h id f hget

/-- **どの呼び出しの列でも、row の id は、row の欄の key の id である。** -/
theorem keyed_flowsAfter (sha256 : String → String) (calls : List FlowCall) :
    Keyed sha256 (flowsAfter sha256 calls) :=
  Run.history (I := fun _ flows => Keyed sha256 flows) (fun _ _ h => by cases h)
    (fun _ c h => h.step c) calls

end CipherPost.Api
