import Mathlib.Init

/-!
# DNS の名前の照合

RFC 6125 の照合。label ごとに、ASCII の大文字と小文字を区別せずに比べる。証明書の名前の左端の label が `*` なら、
host の左端の一つの label と合う。名前の終わりの root の点は読まない。

* `DnsName.labels` — 比べる label の列
* `DnsName.Matches` — 証明書の名前が host と合うこと
* `matches_self`・`matches_of_lower_eq`・`matches_wildcard` — 合うときの三通り
-/

namespace CipherPost.DnsName

/-- ASCII の小文字にする。 -/
def lower (name : List Char) : List Char := name.map Char.toLower

/-- 終わりの root の点を落とす。 -/
def dropRoot (name : List Char) : List Char :=
  if name.getLast? = some '.' then name.dropLast else name

/-- 比べる label の列。 -/
def labels (name : List Char) : List (List Char) := (dropRoot (lower name)).splitOn '.'

/-- 証明書の名前 `name` が `host` と合う。 -/
def Matches (name host : List Char) : Prop :=
  labels name = labels host ∨
    ((labels name).head? = some ['*'] ∧ (labels host).head? ≠ some [] ∧
      (labels name).tail = (labels host).tail)

instance (name host : List Char) : Decidable (Matches name host) :=
  inferInstanceAs (Decidable (_ ∨ _))

theorem matches_self (name : List Char) : Matches name name := .inl rfl

/-- 大文字と小文字だけの違う名前は合う。 -/
theorem matches_of_lower_eq {name host : List Char} (h : lower name = lower host) :
    Matches name host := by
  left
  rw [labels, labels, h]

theorem toLower_ne_dot {c : Char} (h : c ≠ '.') : c.toLower ≠ '.' := by
  unfold Char.toLower
  split
  · next hupper =>
    intro heq
    have hval : (c.val + 32).toNat = 46 := congrArg (fun c : Char => c.val.toNat) heq
    have hlow : 65 ≤ c.val.toNat := hupper.1
    have hhigh : c.val.toNat ≤ 90 := hupper.2
    have hadd : (c.val + 32).toNat = (c.val.toNat + 32) % 2 ^ 32 := UInt32.toNat_add _ _
    omega
  · exact h

theorem dot_notMem_lower {label : List Char} (h : '.' ∉ label) : '.' ∉ lower label := by
  intro hmem
  obtain ⟨c, hc, heq⟩ := List.mem_map.mp hmem
  exact toLower_ne_dot (fun hdot => h (hdot ▸ hc)) heq

theorem dropRoot_append {front rest : List Char} (h : rest ≠ []) :
    dropRoot (front ++ rest) = front ++ dropRoot rest := by
  unfold dropRoot
  rw [List.getLast?_append, Option.or_of_isSome (List.getLast?_isSome.mpr h),
    List.dropLast_append_of_ne_nil h]
  split <;> rfl

/-- 左端の label を取り出す。 -/
theorem labels_cons {label rest : List Char} (hlabel : '.' ∉ label) (hrest : rest ≠ []) :
    labels (label ++ '.' :: rest) = lower label :: labels rest := by
  have hlower : lower (label ++ '.' :: rest) = (lower label ++ ['.']) ++ lower rest := by
    simp [lower]
  have hne : lower rest ≠ [] := by simpa [lower] using hrest
  rw [labels, hlower, dropRoot_append hne, List.append_assoc]
  exact List.splitOn_append_cons_self_of_not_mem (dot_notMem_lower hlabel) _

/-- wildcard の名前は、左端に一つの label を足した名前と合う。 -/
theorem matches_wildcard {label rest : List Char} (hne : label ≠ []) (hlabel : '.' ∉ label)
    (hrest : rest ≠ []) : Matches ("*.".toList ++ rest) (label ++ '.' :: rest) := by
  have hstar : labels ("*.".toList ++ rest) = ['*'] :: labels rest :=
    labels_cons (by decide : '.' ∉ ['*']) hrest
  right
  rw [hstar, labels_cons hlabel hrest]
  exact ⟨rfl, by simpa [lower] using hne, rfl⟩

end CipherPost.DnsName
