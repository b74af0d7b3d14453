import Mathlib.Data.List.Sort
import CipherPost.Api.Main
import CipherPost.Api.Pagination
import CipherPost.Infra.Csv
import CipherPost.Infra.Owned
import CipherPost.Live.Routing
import CipherPost.Live.Suppressed

/-!
# 管理の口

`app/api/main.py` のうち、org の管理者と分析者が設定を読み書きする口。suppression、fingerprint の一覧、alert の
経路と policy、agent token、audit、alert の channel の設定である。要求した者（`AuthContext`）は
`get_current_user` が決めた後のものを受け取る。

口は session に変更を溜め、最後に一度 commit する。途中の例外は何も残さない。そこで、口を「変更」と audit と
応答を決める関数（`plan`）として写し、`handle` がそれを commit する。id と時刻と乱数は `Console.Env` が与える。

* `Console` — 読み書きする表
* `Change` — 一度の commit が表に加える変更
* `createSuppression`・`importFpLists`・`setAlertPolicy` など — それぞれの口
* `plan`・`handle` — 呼び出し一つの処理
* `Made` — 変更の形。呼んだ者の org の行だけに掛かる
-/

namespace CipherPost.Api

open CipherPost.Core CipherPost.Proactive
open CipherPost.Live hiding strip

/-! ## 表 -/

/-- JSON の object。 -/
abbrev Fields := List (String × Json)

/-- `suppressions` の行。 -/
structure SuppressionRow extends Suppression where
  reason : String
  createdBy : String
  createdAt : Nat

/-- `fp_lists` の行。 -/
structure FpRow where
  orgId : String
  kind : String
  fpType : String
  value : String
  source : String := ""
  comment : String := ""
  createdBy : String
  createdAt : Nat
  deriving DecidableEq

/-- `alert_routes` の行。 -/
structure RouteRow extends AlertRoute where
  orgId : String
  createdBy : String
  deriving DecidableEq

/-- `alert_policy` の行。key は org である。 -/
structure PolicyRow extends Policy where
  updatedBy : String
  updatedAt : Nat
  deriving DecidableEq

/-- `agent_tokens` の行。 -/
structure TokenRow where
  orgId : String
  name : String
  keyHash : String
  tokenPrefix : String
  revoked : Bool := false
  createdBy : String
  createdAt : Nat
  expiresAt : Option Int := none
  deriving DecidableEq

/-- `audit_log` の行。 -/
structure AuditRow where
  orgId : String
  actor : String
  action : String
  resource : String
  detail : Fields
  createdAt : Nat

/-- 管理の口が読み書きするもの。`channels` は `ALERT_CHANNEL_CONFIG_PATH` の中身で、読めなければ `none`。 -/
structure Console where
  suppressions : Dict Nat SuppressionRow := .empty
  fpLists : Dict Nat FpRow := .empty
  routes : Dict Nat RouteRow := .empty
  policies : Dict String PolicyRow := .empty
  tokens : Dict String TokenRow := .empty
  audit : Dict Nat AuditRow := .empty
  channels : Option Fields := none

namespace Console

/-! ## 設定と環境 -/

/-- 設定値と標準 library。 -/
structure App where
  suppressionRequireApproval : Bool := true
  suppressionDefaultDays : Int := 90
  suppressionMaxDays : Int := 180
  alertMinSeverity : String := "high"
  alertWebhookUrl : Option String := none
  alertSlackUrl : Option String := none
  alertCefSyslogHost : Option String := none
  lib : MatchLib
  sha256 : String → String

/-- 一回の呼び出しの環境。時刻は µs で、id は表の番号の列が渡すものである。 -/
structure Env where
  now : Nat
  /-- DB か file が変更を受け付ける。 -/
  commits : Bool := true
  /-- best-effort の audit が書ける。 -/
  auditWritten : Bool := true
  suppressionId : Nat := 1
  /-- `i` 番目に足す行の id。 -/
  fpId : Nat → Nat := fun i => i + 1
  routeId : Nat := 1
  auditId : Nat := 1
  /-- `uuid4().hex[:12]`。 -/
  uuid : String := "0"
  /-- `secrets.token_hex(16)`。 -/
  tokenHex : String := "00"

/-! ## 変更 -/

/-- 一度の commit が表に加える変更。 -/
inductive Change where
  | none
  | addSuppression (id : Nat) (row : SuppressionRow)
  | setSuppression (id : Nat) (row : SuppressionRow)
  | dropSuppression (id : Nat)
  | addFp (rows : List (Nat × FpRow))
  | dropFp (id : Nat)
  | addRoute (id : Nat) (row : RouteRow)
  | dropRoute (id : Nat)
  | setPolicy (org : String) (row : PolicyRow)
  | addToken (id : String) (row : TokenRow)
  | setToken (id : String) (row : TokenRow)
  | setChannels (cfg : Fields)

/-- 変更を加えた状態。 -/
def apply (s : Console) : Change → Console
  | .none => s
  | .addSuppression id row | .setSuppression id row =>
    { s with suppressions := s.suppressions.set id row }
  | .dropSuppression id => { s with suppressions := s.suppressions.erase id }
  | .addFp rows => { s with fpLists := s.fpLists.addAll rows }
  | .dropFp id => { s with fpLists := s.fpLists.erase id }
  | .addRoute id row => { s with routes := s.routes.set id row }
  | .dropRoute id => { s with routes := s.routes.erase id }
  | .setPolicy org row => { s with policies := s.policies.set org row }
  | .addToken id row | .setToken id row => { s with tokens := s.tokens.set id row }
  | .setChannels cfg => { s with channels := some cfg }

/-- 足す行の key が、表の行とも互いとも重ならない。`key_hash` も重ならない。 -/
def keysFree (s : Console) : Change → Bool
  | .addSuppression id _ => (s.suppressions.get? id).isNone
  | .addFp rows =>
    decide (rows.map Prod.fst).Nodup && rows.all fun r => (s.fpLists.get? r.1).isNone
  | .addRoute id _ => (s.routes.get? id).isNone
  | .addToken id row =>
    (s.tokens.get? id).isNone && s.tokens.values.all fun t => decide (t.keyHash ≠ row.keyHash)
  | _ => true

/-- audit に残すもの。 -/
structure Note where
  action : String
  resource : String
  detail : Fields := []

/-- `log_audit`。書けなくても要求は失敗しない。 -/
def logAudit (s : Console) (env : Env) (ctx : AuthContext) (note : Note) : Console :=
  if env.auditWritten && (s.audit.get? env.auditId).isNone then
    let row : AuditRow := ⟨ctx.orgId, ctx.email, note.action, note.resource, note.detail, env.now⟩
    { s with audit := s.audit.set env.auditId row }
  else s

/-- `suppressions` の表を、`match_suppression` の読む形で見たもの。 -/
def suppressionTable (s : Console) : List Suppression := s.suppressions.values.map (·.toSuppression)

/-! ## 応答 -/

/-- `_sup_to_dict`。`active` は応答の時点のものである。 -/
structure SuppressionView extends SuppressionRow where
  active : Bool

/-- `_sup_to_dict`。 -/
def supToDict (now : Nat) (row : SuppressionRow) : SuppressionView :=
  { row with active := isActive now row.toSuppression }

/-- 応答。 -/
inductive Reply where
  | audit (rows : List (Nat × AuditRow))
  | suppressions (rows : List SuppressionView)
  | suppression (row : SuppressionView)
  | fpLists (rows : List (Nat × FpRow))
  | fpCreated (id : Nat) (kind fpType value : String)
  | fpExport (entries : List Fields)
  | csv (text : List Char)
  | added (n : Nat)
  | routes (rows : List (Nat × AlertRoute))
  | routeId (id : Nat)
  | policy (p : Policy)
  | tokens (rows : List (String × TokenRow))
  | tokenIssued (rawToken tokenPrefix : String)
  | tokenRevoked (tokenPrefix : String)
  | channels (cfg : Fields) (webhook slack syslog : Bool)
  | channelsSaved (cfg : Fields)
  | status (text : String)

/-- 口の決めたこと。変更と audit と応答である。 -/
structure Effect where
  change : Change := .none
  note : Option Note := none
  reply : Reply

/-- 読むだけの口。 -/
def answer (r : Reply) : Except HttpError Effect := .ok { reply := r }

/-- 拒む応答。 -/
def refuse (status : Nat) (detail : String) : Except HttpError Effect := .error ⟨status, detail⟩

/-- 捕まえられない例外。 -/
def failed : Except HttpError Effect := refuse 500 "Internal Server Error"

/-! ## 要求の値 -/

/-- `(body.get(k) or dflt).strip()`。文字列でない真の値は AttributeError で、`none` である。 -/
def strippedField (body : Fields) (k : String) (dflt : String := "") : Option String :=
  match (DictList.get? k body).filter Json.truthy with
  | none => some (strip dflt)
  | some (.str s) => some (strip s)
  | some _ => none

/-- `s[:n]`。 -/
def cut (s : String) (n : Nat) : String := String.ofList (s.toList.take n)

/-- `now + timedelta(days=days)`。`none` は OverflowError。 -/
def afterDays (now : Nat) (days : Int) : Option Int :=
  let expires := (now : Int) + 86400000000 * days
  -- `timedelta` の日数の限りと、`datetime` の表せる最初と最後の年
  if -999999999 ≤ days ∧ days ≤ 999999999 ∧ -62135596800000000 ≤ expires ∧
      expires < 253402300800000000 then some expires
  else none

/-- `order_by(id.asc())`。 -/
def byId {α : Type} (d : Dict Nat α) : List (Nat × α) :=
  d.entries.insertionSort fun a b => a.1 ≤ b.1

section

variable (app : App) (env : Env) (ctx : AuthContext) (s : Console)

/-- `str(body.get(k, ""))[:n]`。 -/
def textField (body : Fields) (k : String) (n : Nat) : String :=
  cut (((DictList.get? k body).map (pyText app.lib)).getD "") n

/-! ## audit -/

/-- `list_audit`。 -/
def listAudit (limit : Nat) (action : Option String) : Except HttpError Effect :=
  if ctx.role ≠ "admin" ∧ ctx.role ≠ "auditor" then refuse 403 "Admins and auditors only"
  else
    let rows := s.audit.owned (·.orgId) ctx.orgId
    let rows := match action.filter (· ≠ "") with
      | some a => rows.filter fun _ r => decide (r.action = a)
      | none => rows
    answer (.audit ((byId rows).reverse.take limit))

/-! ## suppression -/

/-- 呼んだ者の org の suppression。 -/
def ownSuppressions : Dict Nat SuppressionRow :=
  s.suppressions.owned (·.orgId) ctx.orgId

/-- `db.get` した行が無いか、呼んだ者の org のものでなければ、404 である。 -/
def withOwn {α : Type} (row : Option α) (org : α → String) (detail : String)
    (k : α → Except HttpError Effect) : Except HttpError Effect :=
  match row with
  | none => refuse 404 detail
  | some row => if org row ≠ ctx.orgId then refuse 404 detail else k row

/-- `list_suppressions`。 -/
def listSuppressions (status : Option String) (limit page perPage : Option Int) :
    Except HttpError Effect :=
  let rows := match status.filter (· ≠ "") with
    | some st => (s.ownSuppressions ctx).filter fun _ r => decide (r.status = st)
    | none => s.ownSuppressions ctx
  let rows := (byId rows).reverse.map fun r => supToDict env.now r.2
  if limit.isSome ∨ page.isSome ∨ perPage.isSome then
    let (lim, off) := paginate ((limit.filter (· ≠ 0)).getD 500) 0 page perPage 500
    answer (.suppressions ((rows.drop off.toNat).take lim.toNat))
  else answer (.suppressions rows)

/-- `suppressions_expiring`。期限の同じ行の順は DB が決める。 -/
def suppressionsExpiring (days : Nat) : Except HttpError Effect :=
  let horizon := env.now + 86400000000 * days
  let rows := (s.ownSuppressions ctx).values.filter fun r =>
    decide (r.status = "approved") && decide (env.now < r.expiresAt) &&
      decide (r.expiresAt ≤ horizon)
  let rows := rows.insertionSort fun a b => a.expiresAt ≤ b.expiresAt
  answer (.suppressions (rows.map (supToDict env.now)))

/-- `create_suppression`。期限は設定の最長までで、承認の要らない設定か admin の要求だけがすぐに効く。 -/
def createSuppression (body : Fields) : Except HttpError Effect :=
  match strippedField body "rule_id", strippedField body "reason" with
  | some ruleId, some reason =>
    if h : ruleId = "" ∨ reason = "" then refuse 400 "rule_id and reason are required"
    else
      match intOf ((DictList.get? "expires_days" body).getD (.int app.suppressionDefaultDays)) with
      | none => refuse 400 "expires_days must be an integer"
      | some days =>
        let days := max 1 (min days app.suppressionMaxDays)
        match ((DictList.get? "scope" body).filter Json.truthy).getD (.obj []) with
        | .obj scope =>
          let auto := !app.suppressionRequireApproval || decide (ctx.role = "admin")
          match afterDays env.now days with
          | none => failed
          | some expires =>
            let row : SuppressionRow :=
              { id := env.suppressionId, orgId := ctx.orgId, ruleId
                ruleId_ne := fun hr => h (.inl hr)
                scope, reason, createdBy := ctx.email
                status := if auto then "approved" else "pending"
                createdAt := env.now, expiresAt := expires.toNat }
            .ok { change := .addSuppression env.suppressionId row
                  note := some ⟨"suppression.create", ruleId,
                    [("scope", .obj scope), ("status", .str row.status), ("days", .int days)]⟩
                  reply := .suppression (supToDict env.now row) }
        | _ => refuse 400 "scope must be an object"
  | _, _ => failed

/-- `update_suppression`。 -/
def updateSuppression (supId : Nat) (body : Fields) : Except HttpError Effect :=
  withOwn ctx (s.suppressions.get? supId) (·.orgId) "Suppression not found" fun row =>
    let status : Option String := match DictList.get? "status" body with
      | none => some row.status
      | some v => v.str?.filter fun st => st ∈ ["approved", "rejected", "revoked"]
    match status with
    | none => refuse 400 "status must be approved|rejected|revoked"
    | some status =>
      let reason := match (DictList.get? "reason" body).filter Json.truthy with
        | some v => pyText app.lib v
        | none => row.reason
      let row := { row with status, reason }
      .ok { change := .setSuppression supId row
            note := some ⟨"suppression.update", toString supId, [("status", .str status)]⟩
            reply := .suppression (supToDict env.now row) }

/-- `delete_suppression`。 -/
def deleteSuppression (supId : Nat) : Except HttpError Effect :=
  withOwn ctx (s.suppressions.get? supId) (·.orgId) "Suppression not found" fun _ =>
    .ok { change := .dropSuppression supId
          note := some ⟨"suppression.delete", toString supId, []⟩
          reply := .status "deleted" }

/-! ## fingerprint の一覧 -/

/-- `("allow", "deny")`。 -/
def FP_KINDS : List String := ["allow", "deny"]

/-- `("ja3", "ja4", "ja3s", "ja4s")`。 -/
def FP_TYPES : List String := ["ja3", "ja4", "ja3s", "ja4s"]

/-- 呼んだ者の org の行。 -/
def ownFpLists : Dict Nat FpRow := s.fpLists.owned (·.orgId) ctx.orgId

/-- `list_fp_lists`。 -/
def listFpLists : Except HttpError Effect := answer (.fpLists (byId (s.ownFpLists ctx)).reverse)

/-- 足す行。 -/
def fpRow (body : Fields) (kind fpType value : String) : FpRow :=
  { orgId := ctx.orgId, kind, fpType, value, source := textField app body "source" 256
    comment := textField app body "comment" 2000, createdBy := ctx.email, createdAt := env.now }

/-- `create_fp_list`。 -/
def createFpList (body : Fields) : Except HttpError Effect :=
  match strippedField body "kind", strippedField body "fp_type", strippedField body "value" with
  | some kind, some fpType, some value =>
    if kind ∉ FP_KINDS ∨ fpType ∉ FP_TYPES then
      refuse 400 "kind must be allow|deny, fp_type ja3|ja4|ja3s|ja4s"
    else if value = "" ∨ 128 < value.length then
      refuse 400 "value is required (max 128 chars)"
    else
      .ok { change := .addFp [(env.fpId 0, fpRow app env ctx body kind fpType value)]
            note := some ⟨"fplist.create", value, [("kind", .str kind), ("fp_type", .str fpType)]⟩
            reply := .fpCreated (env.fpId 0) kind fpType value }
  | _, _, _ => failed

/-- `delete_fp_list`。 -/
def deleteFpList (entryId : Nat) : Except HttpError Effect :=
  withOwn ctx (s.fpLists.get? entryId) (·.orgId) "List entry not found" fun row =>
    .ok { change := .dropFp entryId, note := some ⟨"fplist.delete", row.value, []⟩
          reply := .status "deleted" }

/-- export の列。 -/
def FP_COLUMNS : List String := ["kind", "fp_type", "value", "source", "comment"]

/-- export する一件。 -/
def exportEntry (r : FpRow) : Fields :=
  [("kind", .str r.kind), ("fp_type", .str r.fpType), ("value", .str r.value),
   ("source", .str r.source), ("comment", .str r.comment)]

/-- export する一件の、CSV の欄。 -/
def exportCells (r : FpRow) : List (List Char) :=
  [r.kind, r.fpType, r.value, r.source, r.comment].map String.toList

/-- `export_fp_lists`。 -/
def exportFpLists (format : String) : Except HttpError Effect :=
  let rows := (byId (s.ownFpLists ctx)).map Prod.snd
  if format = "csv" then
    answer (.csv (Csv.write (FP_COLUMNS.map String.toList :: rows.map exportCells)))
  else answer (.fpExport (rows.map exportEntry))

/-- `import_fp_lists` の一件。受け付けないものは黙って飛ばす。 -/
def importEntry (e : Json) : Option FpRow :=
  match e with
  | .obj fields =>
    match ((DictList.get? "kind" fields).bind Json.str?).filter (· ∈ FP_KINDS),
        ((DictList.get? "fp_type" fields).bind Json.str?).filter (· ∈ FP_TYPES) with
    | some kind, some fpType =>
      let value := strip (((DictList.get? "value" fields).map (pyText app.lib)).getD "")
      if value = "" ∨ 128 < value.length then none
      else some (fpRow app env ctx fields kind fpType value)
    | _, _ => none
  | _ => none

/-- `import_fp_lists`。 -/
def importFpLists (body : Fields) : Except HttpError Effect :=
  match DictList.get? "entries" body with
  | some (.arr entries) =>
    if 1000 < entries.length then refuse 400 "entries must be a list (max 1000)"
    else
      let rows := entries.filterMap (importEntry app env ctx)
      .ok { change := .addFp ((List.range rows.length).map env.fpId |>.zip rows)
            note := some ⟨"fplist.import", "entries", [("added", .int rows.length)]⟩
            reply := .added rows.length }
  | _ => refuse 400 "entries must be a list (max 1000)"

/-! ## alert の経路と policy -/

/-- `list_alert_routes`。 -/
def listAlertRoutes : Except HttpError Effect :=
  answer (.routes ((byId (s.routes.owned (·.orgId) ctx.orgId)).map
    fun r => (r.1, r.2.toAlertRoute)))

/-- `create_alert_route`。 -/
def createAlertRoute (body : Fields) : Except HttpError Effect :=
  match strippedField body "match_type", strippedField body "match_value" with
  | some matchType, some value =>
    if matchType ∉ ["rule", "host", "domain"] ∨ value = "" ∨ 256 < value.length then
      refuse 400 "match_type must be rule|host|domain with a value"
    else
      .ok { change := .addRoute env.routeId
              { matchType, matchValue := value, owner := textField app body "owner" 256
                channel := textField app body "channel" 64, orgId := ctx.orgId
                createdBy := ctx.email }
            note := some ⟨"alertroute.create", value, [("match_type", .str matchType)]⟩
            reply := .routeId env.routeId }
  | _, _ => failed

/-- `delete_alert_route`。 -/
def deleteAlertRoute (routeId : Nat) : Except HttpError Effect :=
  withOwn ctx (s.routes.get? routeId) (·.orgId) "Route not found" fun row =>
    .ok { change := .dropRoute routeId, note := some ⟨"alertroute.delete", row.matchValue, []⟩
          reply := .status "deleted" }

/-- `get_alert_policy`。行が無ければ既定の値である。 -/
def getAlertPolicy : Except HttpError Effect :=
  answer (.policy (((s.policies.get? ctx.orgId).map PolicyRow.toPolicy).getD
    { minSeverity := app.alertMinSeverity }))

/-- `quiet_start_hour` と `quiet_end_hour` の値。外側の `none` は範囲の外か、整数でない値である。 -/
def hourField (body : Fields) (k : String) : Option (Option Nat) :=
  match DictList.get? k body with
  | none | some .null => some none
  | some v =>
    match intOf v with
    | some n => if 0 ≤ n ∧ n ≤ 23 then some (some n.toNat) else none
    | none => none

/-- `str(body.get(k) or dflt)[:n]`。 -/
def textOr (body : Fields) (k dflt : String) (n : Nat) : String :=
  cut ((((DictList.get? k body).filter Json.truthy).map (pyText app.lib)).getD dflt) n

/-- `set_alert_policy`。 -/
def setAlertPolicy (body : Fields) : Except HttpError Effect :=
  match strippedField body "min_severity" "high" with
  | none => failed
  | some sev =>
    if sev ∉ ["info", "low", "medium", "high", "critical"] then
      refuse 400 "min_severity must be info|low|medium|high|critical"
    else
      match strippedField body "digest" "off" with
      | none => failed
      | some digest =>
        if digest ∉ ["off", "daily", "weekly"] then refuse 400 "digest must be off|daily|weekly"
        else
          match hourField body "quiet_start_hour" with
          | none => refuse 400 "quiet_start_hour must be 0-23 or null"
          | some start =>
            match hourField body "quiet_end_hour" with
            | none => refuse 400 "quiet_end_hour must be 0-23 or null"
            | some stop =>
              .ok { change := .setPolicy ctx.orgId
                      { minSeverity := sev, digest, quietStartHour := start, quietEndHour := stop
                        quietTz := textOr app body "quiet_tz" "UTC" 64
                        updatedBy := ctx.email, updatedAt := env.now }
                    note := some ⟨"alertpolicy.update", "policy",
                      [("min_severity", .str sev), ("digest", .str digest)]⟩
                    reply := .status "saved" }

/-! ## agent token -/

/-- `list_agent_tokens`。 -/
def listAgentTokens : Except HttpError Effect :=
  answer (.tokens ((s.tokens.owned (·.orgId) ctx.orgId).filter fun _ t => !t.revoked).entries)

/-- 出す token。 -/
def rawToken : String := "cpat_" ++ env.tokenHex

/-- `create_agent_token` の `expires_at`。外側の `none` は例外である。 -/
def tokenExpiry (body : Fields) : Option (Option Int) :=
  match (DictList.get? "expires_days" body).filter Json.truthy with
  | none => some none
  | some v => ((intOf v).bind (afterDays env.now)).map some

/-- `create_agent_token`。 -/
def createAgentToken (body : Fields) : Except HttpError Effect :=
  match strippedField body "name" with
  | none => failed
  | some name =>
    let name := if name = "" then "sensor" else name
    match tokenExpiry env body with
    | none => refuse 400 "expires_days must be an integer"
    | some expiresAt =>
      let raw := rawToken env
      .ok { change := .addToken ("at-" ++ env.uuid)
              { orgId := ctx.orgId, name, keyHash := app.sha256 raw, tokenPrefix := cut raw 11
                createdBy := ctx.email, createdAt := env.now, expiresAt }
            note := some ⟨"agenttoken.create", name, [("prefix", .str (cut raw 11))]⟩
            reply := .tokenIssued raw (cut raw 11) }

/-- `revoke_agent_token`。 -/
def revokeAgentToken (tokenId : String) : Except HttpError Effect :=
  withOwn ctx (s.tokens.get? tokenId) (·.orgId) "Agent token not found" fun row =>
    .ok { change := .setToken tokenId { row with revoked := true }
          note := some ⟨"agenttoken.revoke", row.name, [("prefix", .str row.tokenPrefix)]⟩
          reply := .tokenRevoked row.tokenPrefix }

/-! ## alert の channel -/

/-- `bool(settings.X)`。 -/
def present (o : Option String) : Bool := o.any (· ≠ "")

/-- `get_alert_config`。設定の file は org に分かれていない。 -/
def getAlertConfig : Except HttpError Effect :=
  answer (.channels (s.channels.getD []) (present app.alertWebhookUrl) (present app.alertSlackUrl)
    (present app.alertCefSyslogHost))

/-- `w in k`。 -/
def isIn (w k : String) : Bool := decide (w.toList <:+: k.toList)

/-- `set_alert_config`。 -/
def setAlertConfig (cfg : Fields) : Except HttpError Effect :=
  .ok { change := .setChannels cfg
        note := some ⟨"alertconfig.update", "channels",
          cfg.map fun f => if isIn "url" f.1 || isIn "token" f.1 then (f.1, .str "***") else f⟩
        reply := .channelsSaved cfg }

/-! ## 呼び出し -/

/-- 管理の口の呼び出し。 -/
inductive Call where
  | listAudit (limit : Nat) (action : Option String)
  | listSuppressions (status : Option String) (limit page perPage : Option Int)
  | suppressionsExpiring (days : Nat)
  | createSuppression (body : Fields)
  | updateSuppression (supId : Nat) (body : Fields)
  | deleteSuppression (supId : Nat)
  | listFpLists
  | createFpList (body : Fields)
  | deleteFpList (entryId : Nat)
  | exportFpLists (format : String)
  | importFpLists (body : Fields)
  | listAlertRoutes
  | createAlertRoute (body : Fields)
  | deleteAlertRoute (routeId : Nat)
  | getAlertPolicy
  | setAlertPolicy (body : Fields)
  | listAgentTokens
  | createAgentToken (body : Fields)
  | revokeAgentToken (tokenId : String)
  | getAlertConfig
  | setAlertConfig (cfg : Fields)

/-- 口の `Depends`。`none` は `get_current_user` だけの口である。 -/
def Call.role : Call → Option Role
  | .listAudit .. | .listSuppressions .. | .suppressionsExpiring _ => none
  | .createSuppression _ | .listFpLists | .createFpList _ | .deleteFpList _ | .exportFpLists _
  | .importFpLists _ | .listAlertRoutes | .getAlertPolicy | .getAlertConfig => some .analyst
  | .updateSuppression .. | .deleteSuppression _ | .createAlertRoute _ | .deleteAlertRoute _
  | .setAlertPolicy _ | .listAgentTokens | .createAgentToken _ | .revokeAgentToken _
  | .setAlertConfig _ => some .admin

/-- `Depends(require_roles(…))` を通る。 -/
def permits (ctx : AuthContext) (call : Call) : Bool :=
  call.role.all fun needed => !decide (roleOrder ctx.role < roleOrder needed.value)

/-- 口の本体。 -/
def body : Call → Except HttpError Effect
  | .listAudit limit action => listAudit ctx s limit action
  | .listSuppressions status limit page perPage =>
    listSuppressions env ctx s status limit page perPage
  | .suppressionsExpiring days => suppressionsExpiring env ctx s days
  | .createSuppression b => createSuppression app env ctx b
  | .updateSuppression supId b => updateSuppression app env ctx s supId b
  | .deleteSuppression supId => deleteSuppression ctx s supId
  | .listFpLists => listFpLists ctx s
  | .createFpList b => createFpList app env ctx b
  | .deleteFpList entryId => deleteFpList ctx s entryId
  | .exportFpLists format => exportFpLists ctx s format
  | .importFpLists b => importFpLists app env ctx b
  | .listAlertRoutes => listAlertRoutes ctx s
  | .createAlertRoute b => createAlertRoute app env ctx b
  | .deleteAlertRoute routeId => deleteAlertRoute ctx s routeId
  | .getAlertPolicy => getAlertPolicy app ctx s
  | .setAlertPolicy b => setAlertPolicy app env ctx b
  | .listAgentTokens => listAgentTokens ctx s
  | .createAgentToken b => createAgentToken app env ctx b
  | .revokeAgentToken tokenId => revokeAgentToken ctx s tokenId
  | .getAlertConfig => getAlertConfig app s
  | .setAlertConfig cfg => setAlertConfig cfg

/-- 口の決めること。role が足りなければ、本体に入らない。 -/
def plan (call : Call) : Except HttpError Effect :=
  if permits ctx call then body app env ctx s call else refuse 403 "Insufficient role"

end

/-- 呼び出しと、その時の環境と、呼んだ者。 -/
structure Event where
  env : Env
  ctx : AuthContext
  call : Call

/-- 変更を commit し、audit を書く。受け付けられない変更は何も残さない。 -/
def settle (s : Console) (ev : Event) (e : Effect) : Console × Except HttpError Reply :=
  match e.note with
  | none => (s, .ok e.reply)
  | some note =>
    if ev.env.commits && s.keysFree e.change then
      ((s.apply e.change).logAudit ev.env ev.ctx note, .ok e.reply)
    else (s, .error ⟨500, "Internal Server Error"⟩)

/-- 呼び出しを一つ処理する。 -/
def handle (app : App) (s : Console) (ev : Event) : Console × Except HttpError Reply :=
  match plan app ev.env ev.ctx s ev.call with
  | .error err => (s, .error err)
  | .ok e => s.settle ev e

/-- 呼び出しの後の状態。 -/
def step (app : App) (s : Console) (ev : Event) : Console := (handle app s ev).1

/-- 呼び出しの応答。 -/
def reply (app : App) (s : Console) (ev : Event) : Except HttpError Reply := (handle app s ev).2

/-! ## 変更の形 -/

/-- 呼んだ者が admin である。 -/
def IsAdmin (ctx : AuthContext) : Prop := ctx.role = "admin"

instance (ctx : AuthContext) : Decidable (IsAdmin ctx) := inferInstanceAs (Decidable (_ = _))

/-- 新しい suppression。 -/
structure NewSuppression (app : App) (env : Env) (ctx : AuthContext) (row : SuppressionRow) :
    Prop where
  id : row.id = env.suppressionId
  org : row.orgId = ctx.orgId
  status : row.status =
    if !app.suppressionRequireApproval || decide (ctx.role = "admin") then "approved" else "pending"
  createdAt : row.createdAt = env.now
  expires : ∃ days : Int, 1 ≤ days ∧ days ≤ max 1 app.suppressionMaxDays ∧
    (row.expiresAt : Int) = env.now + 86400000000 * days

/-- 受け付ける fingerprint の行。 -/
structure ValidFp (ctx : AuthContext) (row : FpRow) : Prop where
  org : row.orgId = ctx.orgId
  kind : row.kind ∈ FP_KINDS
  fpType : row.fpType ∈ FP_TYPES
  value : row.value ≠ "" ∧ row.value.length ≤ 128 ∧ ∃ raw, row.value = strip raw
  source : row.source.length ≤ 256
  comment : row.comment.length ≤ 2000

/-- 受け付ける policy。 -/
structure ValidPolicy (p : Policy) : Prop where
  minSeverity : p.minSeverity ∈ ["info", "low", "medium", "high", "critical"]
  digest : p.digest ∈ ["off", "daily", "weekly"]
  start : ∀ h ∈ p.quietStartHour, h ≤ 23
  stop : ∀ h ∈ p.quietEndHour, h ≤ 23

/-- 呼んだ者の org の行だけに掛かる変更の形。 -/
def Made (app : App) (env : Env) (ctx : AuthContext) (s : Console) (call : Call) : Change → Prop
  | .none => True
  | .addSuppression id row => id = env.suppressionId ∧ NewSuppression app env ctx row
  | .setSuppression id row => IsAdmin ctx ∧ ∃ old reason, s.suppressions.get? id = some old ∧
      old.orgId = ctx.orgId ∧ row = { old with status := row.status, reason } ∧
      (row.status = old.status ∨ row.status ∈ ["approved", "rejected", "revoked"])
  | .dropSuppression id => IsAdmin ctx ∧ ∃ old, s.suppressions.get? id = some old ∧
      old.orgId = ctx.orgId
  | .addFp rows => rows.map Prod.fst = (List.range rows.length).map env.fpId ∧
      ∀ r ∈ rows, ValidFp ctx r.2
  | .dropFp id => ∃ old, s.fpLists.get? id = some old ∧ old.orgId = ctx.orgId
  | .addRoute id row => IsAdmin ctx ∧ id = env.routeId ∧ row.orgId = ctx.orgId ∧
      row.matchType ∈ ["rule", "host", "domain"] ∧ row.matchValue ≠ ""
  | .dropRoute id => IsAdmin ctx ∧ ∃ old, s.routes.get? id = some old ∧ old.orgId = ctx.orgId
  | .setPolicy org row => IsAdmin ctx ∧ org = ctx.orgId ∧ ValidPolicy row.toPolicy
  | .addToken id row => IsAdmin ctx ∧ id = "at-" ++ env.uuid ∧ row.orgId = ctx.orgId ∧
      row.keyHash = app.sha256 (rawToken env) ∧ row.revoked = false
  | .setToken id row => IsAdmin ctx ∧ ∃ old, s.tokens.get? id = some old ∧
      old.orgId = ctx.orgId ∧ row = { old with revoked := true }
  | .setChannels cfg => IsAdmin ctx ∧ call = .setAlertConfig cfg

end Console

end CipherPost.Api
