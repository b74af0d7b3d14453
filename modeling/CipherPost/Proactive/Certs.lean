import Mathlib.Data.List.Sort
import CipherPost.Infra.Dict

/-!
# 証明書の台帳

`app/proactive/certs.py`。leaf の証明書を fingerprint ごとに一つの row に積み、期限の近いものを探す。
時刻は秒の整数で、SHA-256 は `fingerprintDer` に受け取る。

* `TrackedCert` — `tracked_certs` の row
* `trackSessionCerts` — `track_session_certs`
* `findExpiring`・`markAlerted` — `find_expiring`・`mark_alerted`
-/

namespace CipherPost.Proactive

/-! ## row -/

/-- `TrackedCert`。主 key の fingerprint は table の key である。 -/
structure TrackedCert where
  orgId : Option String
  subjectCn : String
  issuerCn : String
  notAfter : Option Int
  firstSeen : Int
  lastSeen : Int
  seenCount : Nat
  expiryAlertedAt : Option Int
  deriving Repr, DecidableEq

/-- `tracked_certs` の table。 -/
abbrev CertTable := Dict String TrackedCert

/-- 解析した証明書のうち、台帳が読む属性。 -/
structure LeafCert where
  der : List UInt8
  isCa : Bool := false
  subjectCn : String := ""
  issuerCn : String := ""
  notAfter : Option Int := none
  deriving Repr, DecidableEq

/-! ## 積み上げ -/

section Track

variable (fingerprintDer : List UInt8 → String)

/-- 台帳に積む証明書。 -/
def LeafCert.tracked (c : LeafCert) : Bool := !c.der.isEmpty && !c.isCa

/-- 新しい row。 -/
def TrackedCert.opened (c : LeafCert) (orgId : Option String) (now : Int) : TrackedCert where
  orgId := orgId
  subjectCn := c.subjectCn
  issuerCn := c.issuerCn
  notAfter := c.notAfter
  firstSeen := now
  lastSeen := now
  seenCount := 1
  expiryAlertedAt := none

/-- `if org_id and not row.org_id`。 -/
def adoptOrg (rowOrg orgId : Option String) : Option String :=
  match orgId with
  | none => rowOrg
  | some o => if o ≠ "" ∧ (rowOrg = none ∨ rowOrg = some "") then some o else rowOrg

/-- 既にある row。 -/
def TrackedCert.seenAgain (row : TrackedCert) (orgId : Option String) (now : Int) : TrackedCert :=
  { row with lastSeen := now, seenCount := row.seenCount + 1, orgId := adoptOrg row.orgId orgId }

/-- `track_session_certs` の証明書一つ。 -/
def trackCert (orgId : Option String) (now : Int) (certs : CertTable) (c : LeafCert) : CertTable :=
  if c.tracked then
    let fp := fingerprintDer c.der
    match certs.get? fp with
    | none => certs.set fp (TrackedCert.opened c orgId now)
    | some row => certs.set fp (row.seenAgain orgId now)
  else certs

/-- `track_session_certs`。 -/
def trackSessionCerts (certs : List LeafCert) (orgId : Option String) (now : Int)
    (table : CertTable) : CertTable :=
  certs.foldl (trackCert fingerprintDer orgId now) table

/-- fingerprint の数え。 -/
def seenCountOf (table : CertTable) (fp : String) : Nat :=
  ((table.get? fp).map (·.seenCount)).getD 0

theorem seenCountOf_trackCert (orgId : Option String) (now : Int) (table : CertTable)
    (c : LeafCert) (fp : String) :
    seenCountOf (trackCert fingerprintDer orgId now table c) fp = seenCountOf table fp +
      if c.tracked = true ∧ fingerprintDer c.der = fp then 1 else 0 := by
  unfold trackCert seenCountOf
  by_cases ht : c.tracked = true
  · simp only [ht, if_true, true_and]
    by_cases hf : fingerprintDer c.der = fp
    · subst hf
      cases hg : table.get? (fingerprintDer c.der) with
      | none => simp [TrackedCert.opened]
      | some row => simp [TrackedCert.seenAgain]
    · cases hg : table.get? (fingerprintDer c.der) with
      | none => simp only [Dict.get?_set_of_ne _ _ hf, if_neg hf, Nat.add_zero]
      | some row => simp only [Dict.get?_set_of_ne _ _ hf, if_neg hf, Nat.add_zero]
  · simp [ht]

/-- 台帳の数えは、session の中のその証明書の数だけ増える。 -/
theorem seenCountOf_trackSessionCerts (orgId : Option String) (now : Int) (fp : String) :
    ∀ (certs : List LeafCert) (table : CertTable),
      seenCountOf (trackSessionCerts fingerprintDer certs orgId now table) fp =
        seenCountOf table fp +
          certs.countP fun c => c.tracked && decide (fingerprintDer c.der = fp)
  | [], table => by simp [trackSessionCerts]
  | c :: certs, table => by
    have ih := seenCountOf_trackSessionCerts orgId now fp certs
      (trackCert fingerprintDer orgId now table c)
    unfold trackSessionCerts at ih ⊢
    rw [List.foldl_cons, ih, seenCountOf_trackCert, List.countP_cons]
    simp only [Bool.and_eq_true, decide_eq_true_eq]
    omega

end Track

/-! ## 期限 -/

/-- `find_expiring(None, within_days, db)`。fingerprint と row を期限の順に返す。 -/
def findExpiring (certs : CertTable) (withinDays : Nat) (now : Int) :
    List (String × TrackedCert) :=
  let horizon := now + withinDays * 86400
  let due := certs.entries.filter fun r => r.2.notAfter.any fun t => decide (t ≤ horizon)
  due.insertionSort fun a b => a.2.notAfter.getD 0 ≤ b.2.notAfter.getD 0

/-- 24 時間以内に知らせていない。 -/
def TrackedCert.stale (r : TrackedCert) (now : Int) : Bool :=
  match r.expiryAlertedAt with
  | none => true
  | some t => decide (86400 < now - t)

/-- `mark_alerted` の row 一つ。 -/
def markRow (now : Int) (certs : CertTable) (fp : String) : CertTable :=
  match certs.get? fp with
  | some row => certs.set fp { row with expiryAlertedAt := some now }
  | none => certs

/-- `mark_alerted`。 -/
def markAlerted (certs : CertTable) (fingerprints : List String) (now : Int) : CertTable :=
  fingerprints.foldl (markRow now) certs

theorem get?_markRow (now : Int) (certs : CertTable) (fp fp' : String) :
    (markRow now certs fp).get? fp' =
      if fp = fp' then (certs.get? fp').map fun r => { r with expiryAlertedAt := some now }
      else certs.get? fp' := by
  unfold markRow
  by_cases h : fp = fp'
  · subst h
    cases hg : certs.get? fp with
    | none => simp [hg]
    | some row => simp
  · rw [if_neg h]
    cases hg : certs.get? fp with
    | none => rfl
    | some row => exact Dict.get?_set_of_ne _ _ h

/-- 印は、挙げた fingerprint の row にだけ付く。 -/
theorem get?_markAlerted (now : Int) (fp : String) :
    ∀ (fps : List String) (certs : CertTable), (markAlerted certs fps now).get? fp =
      if fp ∈ fps then (certs.get? fp).map fun r => { r with expiryAlertedAt := some now }
      else certs.get? fp
  | [], certs => by simp [markAlerted]
  | x :: fps, certs => by
    have ih := get?_markAlerted now fp fps (markRow now certs x)
    unfold markAlerted at ih ⊢
    rw [List.foldl_cons, ih, get?_markRow]
    by_cases hx : x = fp
    · subst hx
      by_cases hm : x ∈ fps
      · simp [hm, Function.comp_def]
      · simp [hm]
    · have hne : ¬fp = x := fun h => hx h.symm
      simp [hx, hne]

end CipherPost.Proactive
