import CipherPost.Parsing.FiveTuple

/-!
# finding の payload

findings stream を流れる JSON の dict と、それを読む小さな関数。dict の key は
`Field`（無い・null・値）として持ち、dispatcher が読む key だけを並べる。

* `Severity`・`sevOrder` — 深刻度の文字列と順位（`SEV_ORDER`）
* `effSeverity` — `max_severity or severity or "info"`
* `serverHostOf`・`groupKeyOf` — group と dedup の key
-/

namespace CipherPost.Live

open Parsing

/-! ## dict の値 -/

/-- dict の key の状態。 -/
inductive Field (α : Type) where
  | absent
  | null
  | value (v : α)
  deriving Repr, DecidableEq

namespace Field

variable {α : Type}

/-- `d.get(k)`。 -/
def get : Field α → Option α
  | value v => some v
  | _ => none

/-- `d.get(k, default)`。null は null のまま返る。 -/
def getD (f : Field α) (d : α) : Option α :=
  match f with
  | absent => some d
  | null => none
  | value v => some v

/-- dict へ書き込んだ値。 -/
def ofOption : Option α → Field α
  | none => null
  | some v => value v

@[simp] theorem get_ofOption (o : Option α) : (ofOption o).get = o := by cases o <;> rfl

@[simp] theorem getD_ofOption (o : Option α) (d : α) : (ofOption o).getD d = o := by
  cases o <;> rfl

@[simp] theorem get_absent : (absent : Field α).get = none := rfl

@[simp] theorem getD_absent (d : α) : (absent : Field α).getD d = some d := rfl

@[simp] theorem get_value (v : α) : (value v).get = some v := rfl

end Field

/-- 真と見なされる文字列。空文字列と `None` は偽である。 -/
def truthy (o : Option String) : Option String := o.filter fun s => decide (s ≠ "")

/-- `a or b`。 -/
def pyOr (a b : Option String) : Option String := if (truthy a).isSome then a else b

/-- `a or "text"`。 -/
def orText (a : Option String) (text : String) : String := (truthy a).getD text

theorem truthy_eq_some {o : Option String} {s : String} :
    truthy o = some s ↔ o = some s ∧ s ≠ "" := by
  cases o with
  | none => simp [truthy]
  | some t =>
    by_cases h : t = ""
    · simp [truthy, Option.filter, h]
    · simp [truthy, Option.filter, h]
      intro he
      exact he ▸ h

@[simp] theorem truthy_none : truthy none = none := rfl

theorem pyOr_of_truthy {a : Option String} {s : String} (h : truthy a = some s) (b : Option String) :
    pyOr a b = some s := by
  rw [pyOr, if_pos (by rw [h]; rfl)]
  exact (truthy_eq_some.mp h).1

theorem pyOr_of_falsy {a : Option String} (h : truthy a = none) (b : Option String) :
    pyOr a b = b := by
  rw [pyOr, if_neg (by rw [h]; decide)]

/-! ## 深刻度 -/

/-- `models.entities.Severity`。 -/
inductive Severity where
  | info | low | medium | high | critical
  deriving Repr, DecidableEq

namespace Severity

def text : Severity → String
  | info => "info"
  | low => "low"
  | medium => "medium"
  | high => "high"
  | critical => "critical"

def rank : Severity → Nat
  | info => 0
  | low => 1
  | medium => 2
  | high => 3
  | critical => 4

end Severity

/-- `SEV_ORDER.get(s)`。 -/
def sevOrder? (s : String) : Option Nat :=
  if s = "info" then some 0
  else if s = "low" then some 1
  else if s = "medium" then some 2
  else if s = "high" then some 3
  else if s = "critical" then some 4
  else none

/-- `SEV_ORDER.get(s, 0)`。 -/
def sevOrder (s : String) : Nat := (sevOrder? s).getD 0

theorem sevOrder?_text (s : Severity) : sevOrder? s.text = some s.rank := by
  cases s <;> decide

@[simp] theorem sevOrder_text (s : Severity) : sevOrder s.text = s.rank := by
  rw [sevOrder, sevOrder?_text]
  rfl

theorem Severity.text_injective : Function.Injective Severity.text := by
  intro a b h
  have hr := congrArg sevOrder h
  rw [sevOrder_text, sevOrder_text] at hr
  cases a <;> cases b <;> first | rfl | cases hr

theorem Severity.text_ne_empty (s : Severity) : s.text ≠ "" := by cases s <;> decide

/-! ## finding -/

/-- payload の `findings` の要素。 -/
structure Item where
  ruleId : Option String
  severity : Option String
  title : Option String
  deriving Repr, DecidableEq

/-- `_route_finding` の返り値。 -/
structure Routing where
  owner : Option String
  channel : Option String
  deriving Repr, DecidableEq

/-- findings stream の payload。group の flush で作る dict も同じ型である。 -/
structure Finding where
  sessionId : Field String := .absent
  orgId : Field String := .absent
  ruleId : Field String := .absent
  maxSeverity : Field String := .absent
  severity : Field String := .absent
  title : Field String := .absent
  description : Field String := .absent
  protocol : Field String := .absent
  fiveTuple : Field String := .absent
  server : Field String := .absent
  mxHost : Field String := .absent
  host : Field String := .absent
  dstIp : Field String := .absent
  sni : Field String := .absent
  findings : Field (List Item) := .absent
  riskScore : Field Int := .absent
  isAnomaly : Field Bool := .absent
  ts : Field Nat := .absent
  occurrenceCount : Field Nat := .absent
  firstSeen : Field Nat := .absent
  lastSeen : Field Nat := .absent
  routing : Field Routing := .absent
  deriving Repr, DecidableEq

namespace Finding

/-- `finding.get("max_severity") or finding.get("severity")`。 -/
def maxOrSeverity (f : Finding) : Option String := pyOr f.maxSeverity.get f.severity.get

/-- `finding.get("max_severity") or finding.get("severity") or "info"`。 -/
def effSeverity (f : Finding) : String := orText f.maxOrSeverity "info"

/-- `finding.get("findings")` が真なら、その先頭。 -/
def firstItem (f : Finding) : Option Item := (f.findings.get.getD []).head?

end Finding

/-- `server_host_of`。 -/
def serverHostOf (f : Finding) : String :=
  match [f.server, f.mxHost, f.host, f.dstIp].findSome? fun k => truthy k.get with
  | some v => v
  | none =>
    let ft := orText f.fiveTuple.get ""
    if ft ≠ "" ∧ ':' ∈ ft.toList then
      let server := (splitFiveTuple ft.toList).server
      if server ≠ [] then String.ofList server else orText (some ft) "unknown"
    else orText (some ft) "unknown"

/-- `f"{None}"` は `None` になる。 -/
def textOf : Option String → String
  | some s => s
  | none => "None"

/-- `group_key_of`。 -/
def groupKeyOf (f : Finding) : String :=
  textOf (f.ruleId.getD "unknown") ++ ":" ++ serverHostOf f

/-- `server` があれば、それが server host である。 -/
theorem serverHostOf_of_server {f : Finding} {h : String} (hs : f.server.get = some h)
    (hne : h ≠ "") : serverHostOf f = h := by
  have ht : truthy f.server.get = some h := truthy_eq_some.mpr ⟨hs, hne⟩
  unfold serverHostOf
  rw [List.findSome?_cons, ht]

/-- server host は空にならない。 -/
theorem serverHostOf_ne_empty (f : Finding) : serverHostOf f ≠ "" := by
  unfold serverHostOf
  split
  · next v hv =>
    obtain ⟨k, -, hk⟩ := List.exists_of_findSome?_eq_some hv
    exact (truthy_eq_some.mp hk).2
  · have hunknown : ∀ s : String, orText (some s) "unknown" ≠ "" := by
      intro s
      unfold orText
      cases ht : truthy (some s) with
      | none => decide
      | some t => exact (truthy_eq_some.mp ht).2
    simp only
    split
    · split
      · next hne =>
        intro he
        exact hne (by simpa using congrArg String.toList he)
      · exact hunknown _
    · exact hunknown _

end CipherPost.Live
