import Mathlib.Data.List.Infix
import CipherPost.Parsing.FiveTuple

/-!
# 5-tuple の文字列を作って分ける

`split_five_tuple` を、端点の文を `->` か `-` でつないだ文字列について読む。host には、`:` も、矢印でない `-` も
現れてよい。

* `endpointText` — `host:port`
* `pyInt_decimal` — 十進の数字の列は元の数に読まれる
* `partition_arrow`・`partition_arrow_eq_none` — 最初の矢印で分かれること、矢印が無いこと
* `splitFiveTupleE` — 例外まで書いた `split_five_tuple`
* `formatFiveTuple` — `format_five_tuple`
* `splitFiveTuple_arrow`・`splitFiveTuple_hyphen` — 二つの書き方から読む端点
-/

namespace CipherPost.Parsing

/-- 矢印。 -/
def ARROW : List Char := ['-', '>']

/-- 端点の文。 -/
def endpointText (host port : List Char) : List Char := host ++ ':' :: port

/-- `str(n)`。 -/
def portText (n : Nat) : List Char := Nat.toDigits 10 n

/-! ## 数字の列 -/

theorem isDigit_portText {n : Nat} {c : Char} (h : c ∈ portText n) : c.isDigit = true :=
  Nat.isDigit_of_mem_toDigits (by decide) (by decide) h

theorem portText_ne_nil (n : Nat) : portText n ≠ [] :=
  List.ne_nil_of_length_pos Nat.length_toDigits_pos

/-- 数字でない文字は現れない。 -/
theorem not_mem_portText {c : Char} (hc : c.isDigit = false) (n : Nat) : c ∉ portText n := by
  intro h
  rw [isDigit_portText h] at hc
  cases hc

theorem digits_of_isDigit : ∀ {l : List Char} {acc : Nat}, (∀ c ∈ l, c.isDigit = true) →
    digits acc l = some (Nat.ofDigitChars 10 l acc)
  | [], acc, _ => by rw [digits, Nat.ofDigitChars_nil]
  | c :: l, acc, h => by
    have hc : c.isDigit = true := h c List.mem_cons_self
    have hsep : c ≠ '_' := by
      rintro rfl
      cases hc
    rw [digits.eq_3 _ _ _ fun _ _ heq => absurd heq hsep, if_pos hc,
      digits_of_isDigit fun x hx => h x (List.mem_cons_of_mem c hx), Nat.ofDigitChars_cons,
      Nat.mul_comm]

theorem isIntSpace_of_isDigit {c : Char} (h : c.isDigit = true) : isIntSpace c = false := by
  have hlow : 48 ≤ c.toNat := by
    rw [Char.isDigit, Bool.and_eq_true, decide_eq_true_eq] at h
    exact UInt32.le_iff_toNat_le.mp h.1
  have hblank : c ≠ ' ' := by
    rintro rfl
    cases h
  simp only [isIntSpace, hblank, decide_false, Bool.false_or, Bool.and_eq_false_iff,
    decide_eq_false_iff_not]
  omega

/-- ASCII の数字は、そのまま読む。 -/
theorem map_asciiDecimal {l : List Char} (h : ∀ c ∈ l, c.isDigit = true) :
    l.map asciiDecimal = l := by
  refine (List.map_congr_left fun c hc => ?_).trans (List.map_id l)
  have hdigit := h c hc
  rw [Char.isDigit, Bool.and_eq_true, decide_eq_true_eq, decide_eq_true_eq] at hdigit
  have hhigh : c.toNat ≤ 57 := UInt32.le_iff_toNat_le.mp hdigit.2
  exact if_pos (Nat.lt_of_le_of_lt hhigh (by decide))

/-- 数字の列から落とす空白は無い。 -/
theorem dropWhile_isIntSpace {l : List Char} (h : ∀ c ∈ l, c.isDigit = true) :
    l.dropWhile isIntSpace = l := by
  cases l with
  | nil => rfl
  | cons c l =>
    rw [List.dropWhile_cons, isIntSpace_of_isDigit (h c List.mem_cons_self)]
    rfl

theorem pyNat_of_isDigit {l : List Char} (hne : l ≠ []) (h : ∀ c ∈ l, c.isDigit = true) :
    pyNat l = some (Nat.ofDigitChars 10 l 0) := by
  cases l with
  | nil => exact absurd rfl hne
  | cons c l =>
    rw [pyNat, if_pos (h c List.mem_cons_self),
      digits_of_isDigit fun x hx => h x (List.mem_cons_of_mem c hx), Nat.ofDigitChars_cons,
      Nat.mul_zero, Nat.zero_add]

theorem pyInt_of_isDigit {l : List Char} (hne : l ≠ []) (h : ∀ c ∈ l, c.isDigit = true) :
    pyInt l = some (Nat.ofDigitChars 10 l 0 : Nat) := by
  have htrim : ((l.dropWhile isIntSpace).reverse.dropWhile isIntSpace).reverse = l := by
    rw [dropWhile_isIntSpace h,
      dropWhile_isIntSpace fun c hc => h c (List.mem_reverse.mp hc), List.reverse_reverse]
  unfold pyInt
  dsimp only
  rw [map_asciiDecimal h, htrim]
  split
  · exact absurd (h '-' List.mem_cons_self) (by decide)
  · exact absurd (h '+' List.mem_cons_self) (by decide)
  · rw [pyNat_of_isDigit hne h]
    rfl

/-- **十進の数字の列は、元の数に読まれる。** -/
theorem pyInt_portText (n : Nat) : pyInt (portText n) = some (n : Int) := by
  rw [pyInt_of_isDigit (portText_ne_nil n) fun _ => isDigit_portText]
  exact congrArg (fun m : Nat => some (m : Int)) Nat.ofDigitChars_ten_toDigits

/-! ## 矢印 -/

/-- `s` のどこにも矢印が無い。 -/
def NoArrow (s : List Char) : Prop := ¬ARROW <:+: s

instance (s : List Char) : Decidable (NoArrow s) := inferInstanceAs (Decidable (¬ARROW <:+: s))

theorem NoArrow.tail {c : Char} {l : List Char} (h : NoArrow (c :: l)) : NoArrow l :=
  fun hl => h (hl.trans (List.suffix_cons c l).isInfix)

/-- `>` の無い文をつないでも、矢印は現れない。 -/
theorem NoArrow.append {l m : List Char} (h : NoArrow l) (hm : '>' ∉ m) : NoArrow (l ++ m) := by
  intro harrow
  rcases List.infix_append_iff.mp harrow with hl | hr | ⟨t, t', hsplit, hl, hr⟩
  · exact h hl
  · exact hm (hr.subset (by decide))
  · cases t' with
    | nil =>
      rw [List.append_nil] at hsplit
      exact h (hsplit ▸ hl.isInfix)
    | cons c t' =>
      have hlast : (c :: t').getLast? = some '>' := by
        have hlast := congrArg List.getLast? hsplit
        rw [List.getLast?_append_of_ne_nil _ (List.cons_ne_nil c t')] at hlast
        exact hlast.symm
      exact hm (hr.subset (List.mem_of_getLast? hlast))

theorem noArrow_endpointText {host : List Char} (h : NoArrow host) (port : Nat) :
    NoArrow (endpointText host (portText port)) := by
  refine h.append ?_
  rw [List.mem_cons, not_or]
  exact ⟨by decide, not_mem_portText (by decide) port⟩

/-- 矢印が無ければ、先頭は矢印でない。 -/
theorem NoArrow.isPrefixOf {s : List Char} (h : NoArrow s) : ARROW.isPrefixOf s = false := by
  cases hp : ARROW.isPrefixOf s with
  | false => rfl
  | true => exact absurd (List.isPrefixOf_iff_prefix.mp hp).isInfix h

theorem partition_of_noArrow : ∀ {s : List Char}, NoArrow s → partition ARROW s = none
  | [], _ => rfl
  | c :: l, h => by
    rw [partition, h.isPrefixOf, partition_of_noArrow h.tail]
    rfl

/-- 最初の矢印で分かれる。 -/
theorem partition_arrow : ∀ {l : List Char}, NoArrow l → ∀ rest : List Char,
    partition ARROW (l ++ (ARROW ++ rest)) = some (l, rest)
  | [], _, _ => rfl
  | c :: l, h, rest => by
    have hhead : ARROW.isPrefixOf (c :: (l ++ (ARROW ++ rest))) = false := by
      cases l with
      | nil => simp [ARROW, List.isPrefixOf]
      | cons b l =>
        have hp := h.isPrefixOf
        simpa [ARROW, List.isPrefixOf] using hp
    rw [List.cons_append, partition, hhead, partition_arrow h.tail rest]
    rfl

/-- 矢印でない最初の `-` では、矢印で分かれない。 -/
theorem noArrow_hyphen {l rest : List Char} (hl : '-' ∉ l) (hrest : NoArrow rest)
    (hhead : rest.head? ≠ some '>') : NoArrow (l ++ '-' :: rest) := by
  induction l with
  | nil =>
    rintro ⟨pre, post, heq⟩
    cases pre with
    | nil =>
      obtain ⟨-, htail⟩ := List.cons.inj heq
      exact hhead (htail ▸ rfl)
    | cons c pre =>
      obtain ⟨-, htail⟩ := List.cons.inj heq
      exact hrest ⟨pre, post, htail⟩
  | cons c l ih =>
    rw [List.mem_cons, not_or] at hl
    rintro ⟨pre, post, heq⟩
    cases pre with
    | nil => exact hl.1 (List.cons.inj heq).1
    | cons c' pre => exact ih hl.2 ⟨pre, post, (List.cons.inj heq).2⟩

/-! ## ほかの区切り -/

/-- 区切りの最初の文字が前に無ければ、そこで分かれる。 -/
theorem partition_append {c : Char} {sep l : List Char} (hl : c ∉ l) (rest : List Char) :
    partition (c :: sep) (l ++ (c :: sep ++ rest)) = some (l, rest) := by
  induction l with
  | nil => simp [partition]
  | cons a l ih =>
    rw [List.mem_cons, not_or] at hl
    have hhead : (c :: sep).isPrefixOf (a :: (l ++ (c :: sep ++ rest))) = false := by
      rw [List.isPrefixOf_cons_cons, beq_false_of_ne hl.1, Bool.false_and]
    rw [List.cons_append, partition, hhead, ih hl.2]
    rfl

theorem rpartition_go_eq_none {c : Char} {l : List Char} (hl : c ∉ l) :
    rpartition.go c l = none := by
  induction l with
  | nil => rfl
  | cons a l ih =>
    rw [List.mem_cons, not_or] at hl
    rw [rpartition.go, ih hl.2]
    exact if_neg (Ne.symm hl.1)

/-- 最後の区切りで分かれる。 -/
theorem rpartition_append {c : Char} {l rest : List Char} (hrest : c ∉ rest) :
    rpartition c (l ++ c :: rest) = (l, rest) := by
  have hgo : rpartition.go c (l ++ c :: rest) = some (l, rest) := by
    induction l with
    | nil => rw [List.nil_append, rpartition.go, rpartition_go_eq_none hrest]; simp
    | cons a l ih => rw [List.cons_append, rpartition.go, ih]
  rw [rpartition, hgo]
  rfl

/-! ## 端点 -/

theorem head?_endpointText {host : List Char} (h : host.head? ≠ some '>') (port : List Char) :
    (endpointText host port).head? ≠ some '>' := by
  cases host with
  | nil => exact fun hc => absurd (Option.some.inj hc) (by decide)
  | cons a host => exact h

/-- 二つの端点の文に分かれれば、その端点を読む。 -/
theorem splitFiveTuple_of_sides {s client cport server sport : List Char} {p q : Int}
    (hsides : partition ARROW s = some (endpointText client cport, endpointText server sport) ∨
      partition ARROW s = none ∧
        partition ['-'] s = some (endpointText client cport, endpointText server sport))
    (hcport : pyInt cport = some p) (hsport : pyInt sport = some q) (hc : ':' ∉ cport)
    (hs : ':' ∉ sport) (hhead : server.head? ≠ some '>') :
    splitFiveTuple s = ⟨client, p, server, q⟩ := by
  have hstrip : server.dropWhile (· = '>') = server := by
    cases server with
    | nil => rfl
    | cons a server => exact List.dropWhile_cons_of_neg (by simpa using hhead)
  have hleft : rpartition ':' (endpointText client cport) = (client, cport) := rpartition_append hc
  have hright : rpartition ':' (endpointText server sport) = (server, sport) := rpartition_append hs
  rcases hsides with harrow | ⟨hnone, hhyphen⟩
  · rw [ARROW] at harrow
    simp only [splitFiveTuple, harrow, hleft, hright, hcport, hsport, hstrip]
  · rw [ARROW] at hnone
    simp only [splitFiveTuple, hnone, hhyphen, Option.getD_some, hleft, hright, hcport, hsport,
      hstrip]

/-- `port` の文に `:` は無い。 -/
theorem colon_not_mem_portText (n : Nat) : ':' ∉ portText n := not_mem_portText (by decide) n

/-- `client:port->server:port` から、元の端点を読む。 -/
theorem splitFiveTuple_arrow {client server : List Char} (hclient : NoArrow client)
    (hhead : server.head? ≠ some '>') (p q : Nat) :
    splitFiveTuple (endpointText client (portText p) ++
      (ARROW ++ endpointText server (portText q))) = ⟨client, p, server, q⟩ :=
  splitFiveTuple_of_sides (.inl (partition_arrow (noArrow_endpointText hclient p) _))
    (pyInt_portText p) (pyInt_portText q) (colon_not_mem_portText p) (colon_not_mem_portText q)
    hhead

/-- client の host に `-` が無ければ、`client:port-server:port` から元の端点を読む。 -/
theorem splitFiveTuple_hyphen {client server : List Char} (hclient : '-' ∉ client)
    (hserver : NoArrow server) (hhead : server.head? ≠ some '>') (p q : Nat) :
    splitFiveTuple (endpointText client (portText p) ++
      (['-'] ++ endpointText server (portText q))) = ⟨client, p, server, q⟩ := by
  have hleft : '-' ∉ endpointText client (portText p) := by
    rw [endpointText, List.mem_append, List.mem_cons, not_or, not_or]
    exact ⟨hclient, by decide, not_mem_portText (by decide) p⟩
  have hnone := partition_of_noArrow
    (noArrow_hyphen hleft (noArrow_endpointText hserver q) (head?_endpointText hhead (portText q)))
  exact splitFiveTuple_of_sides (.inr ⟨hnone, partition_append hleft _⟩) (pyInt_portText p)
    (pyInt_portText q) (colon_not_mem_portText p) (colon_not_mem_portText q) hhead

/-! ## 例外 -/

/-- `int(s)` の返り値か、その例外。 -/
def pyIntE (s : List Char) : Except String Int :=
  match pyInt s with
  | some n => .ok n
  | none => .error "ValueError"

/-- 例外まで書いた `split_five_tuple`。 -/
def splitFiveTupleE (s : List Char) : Except String FiveTuple :=
  tryCatch
    (do
      let (left, right) :=
        match partition ['-', '>'] s with
        | some p => p
        | none => (partition ['-'] s).getD (s, [])
      let (cIp, cPort) := rpartition ':' left
      let (sIp, sPort) := rpartition ':' right
      let clientPort ← pyIntE cPort
      let serverPort ← pyIntE sPort
      return ⟨cIp, clientPort, sIp.dropWhile (· = '>'), serverPort⟩)
    fun _ => return ⟨[], 0, [], 0⟩

/-- **どの文字列でも、例外にならずに組を返す。** -/
theorem splitFiveTupleE_eq (s : List Char) : splitFiveTupleE s = .ok (splitFiveTuple s) := by
  unfold splitFiveTupleE splitFiveTuple pyIntE
  dsimp only
  cases hc : pyInt (rpartition ':' (match partition ['-', '>'] s with
    | some p => p
    | none => (partition ['-'] s).getD (s, [])).1).2 with
  | none => rfl
  | some cp =>
    cases hs : pyInt (rpartition ':' (match partition ['-', '>'] s with
      | some p => p
      | none => (partition ['-'] s).getD (s, [])).2).2 with
    | none => rfl
    | some sp => rfl

/-! ## 端点の順 -/

/-- `format_five_tuple`。小さい端点を先に書く。 -/
def formatFiveTuple (ip1 : List Char) (p1 : Nat) (ip2 : List Char) (p2 : Nat) : List Char :=
  if ip1 < ip2 ∨ ip1 = ip2 ∧ p1 ≤ p2 then
    endpointText ip1 (portText p1) ++ (ARROW ++ endpointText ip2 (portText p2))
  else endpointText ip2 (portText p2) ++ (ARROW ++ endpointText ip1 (portText p1))

/-- `format_five_tuple` の文字列から、小さい端点を client として読む。 -/
theorem splitFiveTuple_formatFiveTuple {ip1 ip2 : List Char} (h1 : NoArrow ip1) (h2 : NoArrow ip2)
    (hhead1 : ip1.head? ≠ some '>') (hhead2 : ip2.head? ≠ some '>') (p1 p2 : Nat) :
    splitFiveTuple (formatFiveTuple ip1 p1 ip2 p2) =
      if ip1 < ip2 ∨ ip1 = ip2 ∧ p1 ≤ p2 then ⟨ip1, p1, ip2, p2⟩ else ⟨ip2, p2, ip1, p1⟩ := by
  unfold formatFiveTuple
  split
  · exact splitFiveTuple_arrow h1 hhead2 p1 p2
  · exact splitFiveTuple_arrow h2 hhead1 p2 p1

end CipherPost.Parsing
