import CipherPost.Parsing.FiveTupleText
import CipherPost.Proactive.Suppressions

/-!
# scope の代数

`scope_matches` は、空でない次元の連言である。次元を足せば狭まり、空でない次元に値を足せば広がる。

* `Selects` — 次元ごとに列挙された値での選び方
* `Dimension`・`listed` — scope の次元と値
* `HostFact`・`PortFact`・`DomainFact` — finding の欄と、五つ組の端点から言える事実
* `Hits` — 値が finding の事実に合うこと
* `WellTyped` — 型の整った scope
* `scopeMatches_iff` — 連言としての `scope_matches`
* `scopeMatches_conjunction` — 連言と、足したときの増減
-/

namespace CipherPost.Proactive

open Parsing

/-! ## 次元ごとの選び方 -/

section Selects
variable {ι α : Type} {values values' : ι → List α} {hit : ι → α → Prop}

/-- 空でない次元のどれでも、列挙された値のどれかが合う。 -/
def Selects (values : ι → List α) (hit : ι → α → Prop) : Prop :=
  ∀ i, values i ≠ [] → ∃ v ∈ values i, hit i v

/-- 空の次元を埋めたものが合うなら、埋める前も合う。 -/
theorem Selects.of_refine (h : ∀ i, values i ≠ [] → values' i = values i)
    (hsel : Selects values' hit) : Selects values hit := by
  intro i hi
  have hsame := h i hi
  rw [← hsame] at hi ⊢
  exact hsel i hi

/-- 空でない次元に値を足しても、合うものは合う。 -/
theorem Selects.widen (hsub : ∀ i, values i ⊆ values' i) (hne : ∀ i, values' i ≠ [] → values i ≠ [])
    (hsel : Selects values hit) : Selects values' hit := by
  intro i hi
  obtain ⟨v, hv, hhit⟩ := hsel i (hne i hi)
  exact ⟨v, hsub i hv, hhit⟩

end Selects

/-! ## scope の次元 -/

/-- scope の次元。 -/
inductive Dimension where
  | hosts | cidrs | domains | ports
  deriving Repr, DecidableEq

namespace Dimension

def key : Dimension → String
  | hosts => "hosts"
  | cidrs => "cidrs"
  | domains => "domains"
  | ports => "ports"

theorem key_injective : Function.Injective key := by
  intro a b h
  cases a <;> cases b <;> first | rfl | exact absurd h (by decide)

/-- 次元に置ける値。port は整数、他は文字列である。 -/
def Valid : Dimension → Json → Prop
  | ports, v => ∃ n, v = .int n
  | _, v => ∃ s, v = .str s

end Dimension

/-- 次元に列挙された値。 -/
def listed (scope : List (String × Json)) (d : Dimension) : List Json :=
  match DictList.get? d.key scope with
  | some (.arr items) => items
  | _ => []

/-- 型の整った scope。次元は無いか、null か、置ける値の列である。 -/
def WellTyped (scope : List (String × Json)) : Prop :=
  ∀ d : Dimension, DictList.get? d.key scope = none ∨ DictList.get? d.key scope = some .null ∨
    ∃ items, DictList.get? d.key scope = some (.arr items) ∧ ∀ v ∈ items, d.Valid v

/-! ## finding の事実 -/

/-- 五つ組の text は、二つの端点を、どちらかの書き方で繋いだものである。 -/
structure Spells (text client : List Char) (p : Int) (server : List Char) (q : Int) : Prop where
  spelled : ∃ cport sport, ∃ sep ∈ [['-', '>'], ['-']],
    text = endpointText client cport ++ sep ++ endpointText server sport ∧
      pyInt cport = some p ∧ pyInt sport = some q ∧ ':' ∉ cport ∧ ':' ∉ sport ∧
      '-' ∉ endpointText client cport ∧ '-' ∉ endpointText server sport
  head : server.head? ≠ some '>'

/-- **五つ組の二つの書き方のどちらからも、同じ端点を読む。** -/
theorem splitFiveTuple_endpoints {text client server : List Char} {p q : Int}
    (h : Spells text client p server q) : splitFiveTuple text = ⟨client, p, server, q⟩ := by
  obtain ⟨⟨cport, sport, sep, hsep, rfl, hcport, hsport, hc, hs, hclient, hserver⟩, hhead⟩ := h
  rw [List.append_assoc]
  refine splitFiveTuple_of_sides ?_ hcport hsport hc hs hhead
  rcases List.mem_pair.mp hsep with rfl | rfl
  · exact .inl (partition_append hclient _)
  · have hright : NoArrow (endpointText server sport) := fun h => hserver (h.subset (by decide))
    have hnone := noArrow_hyphen hclient hright (head?_endpointText hhead sport)
    exact .inr ⟨partition_of_noArrow hnone, partition_append hclient _⟩

theorem Spells.mem_colon {text client server : List Char} {p q : Int}
    (h : Spells text client p server q) : ':' ∈ text := by
  obtain ⟨⟨cport, sport, sep, -, rfl, -⟩, -⟩ := h
  simp [endpointText]

section Facts
variable (lib : MatchLib) (finding : List (String × Json))

/-- 真の値のある欄の文字列。 -/
def FieldFact (fields : List (String × Json)) (k text : String) : Prop :=
  ∃ v, DictList.get? k fields = some v ∧ v.truthy = true ∧ pyText lib v = text

/-- `":"` を含む `five_tuple` の、どちらかの端点。 -/
def Endpoint (host : List Char) (port : Int) : Prop :=
  ∃ text ft, FieldFact lib finding "five_tuple" text ∧ ':' ∈ text.toList ∧
    splitFiveTuple text.toList = ft ∧
    (host = ft.client ∧ port = ft.clientPort ∨ host = ft.server ∧ port = ft.serverPort)

/-- finding の host。欄の値か、空でない端点である。 -/
def HostFact (host : String) : Prop :=
  (∃ k ∈ ["server", "host", "dst_ip", "src_ip", "sni"], FieldFact lib finding k host) ∨
    ∃ port, Endpoint lib finding host.toList port ∧ host ≠ ""

/-- finding の port。整数として読める欄の値か、端点の 0 でない port である。 -/
def PortFact (port : Int) : Prop :=
  (∃ k ∈ ["server_port", "src_port", "dst_port", "port"],
    ∃ v, DictList.get? k finding = some v ∧ intOf v = some port) ∨
    ∃ host, Endpoint lib finding host port ∧ port ≠ 0

/-- finding の domain。`"."` を含む欄の値を小文字にしたもので、`evidence` の欄も読む。 -/
def DomainFact (dom : String) : Prop :=
  (∃ k ∈ ["sni", "server", "host", "domain"],
    ∃ text, FieldFact lib finding k text ∧ '.' ∈ text.toList ∧ lib.lower text = dom) ∨
    ∃ ev, DictList.get? "evidence" finding = some (.obj ev) ∧
      ∃ k ∈ ["sni", "hostname", "domain", "cn"],
        ∃ text, FieldFact lib ev k text ∧ '.' ∈ text.toList ∧ lib.lower text = dom

/-- 次元の値が、finding の事実のどれかに合う。 -/
def Hits : Dimension → Json → Prop
  | .hosts, .str s => ∃ host, HostFact lib finding host ∧ lib.lower host = lib.lower s
  | .cidrs, v => ∃ host, HostFact lib finding host ∧ lib.inNetwork v host = true
  | .domains, .str s => ∃ dom, DomainFact lib finding dom ∧ lib.fnmatch dom (lib.lower s) = true
  | .ports, .int n => PortFact lib finding n
  | _, _ => False

variable {lib finding}

theorem textAt_eq_some_iff {fields : List (String × Json)} {k text : String} :
    textAt lib fields k = some text ↔ FieldFact lib fields k text := by
  unfold textAt FieldFact
  simp only [Option.map_eq_some_iff, Option.filter_eq_some_iff, and_assoc]

theorem domainAt_eq_some_iff {fields : List (String × Json)} {k dom : String} :
    domainAt lib fields k = some dom ↔
      ∃ text, FieldFact lib fields k text ∧ '.' ∈ text.toList ∧ lib.lower text = dom := by
  unfold domainAt
  simp only [Option.map_eq_some_iff, Option.filter_eq_some_iff, textAt_eq_some_iff,
    decide_eq_true_eq, and_assoc]

/-- 端点は、分けた五つ組の二つである。 -/
theorem endpoint_iff {host : List Char} {port : Int} :
    Endpoint lib finding host port ↔ ∃ ft, endpoints lib finding = some ft ∧
      (host = ft.client ∧ port = ft.clientPort ∨ host = ft.server ∧ port = ft.serverPort) := by
  unfold Endpoint endpoints fiveTupleText
  cases htext : textAt lib finding "five_tuple" with
  | none =>
    have hno : ∀ text, ¬FieldFact lib finding "five_tuple" text := by
      intro text hfact
      rw [← textAt_eq_some_iff, htext] at hfact
      cases hfact
    simp [hno]
  | some text =>
    have hfact : ∀ text', FieldFact lib finding "five_tuple" text' ↔ text = text' := by
      intro text'
      rw [← textAt_eq_some_iff, htext, Option.some.injEq]
    simp only [hfact, Option.getD_some]
    by_cases hcolon : ':' ∈ text.toList
    · simp [hcolon]
    · simp [hcolon]

theorem mem_findingHosts {host : String} :
    host ∈ findingHosts lib finding ↔ HostFact lib finding host := by
  unfold findingHosts HostFact
  rw [List.mem_append, List.mem_filterMap]
  refine or_congr (by simp only [textAt_eq_some_iff]) ?_
  simp only [endpoint_iff]
  cases hends : endpoints lib finding with
  | none => simp
  | some ft =>
    have htext : ∀ l : List Char, (l ≠ [] ∧ String.ofList l = host) ↔ host.toList = l ∧ host ≠ "" := by
      intro l
      constructor
      · rintro ⟨hne, rfl⟩
        exact ⟨String.toList_ofList, by simpa using hne⟩
      · rintro ⟨rfl, hne⟩
        exact ⟨by simpa using hne, String.ofList_toList⟩
    simp only [List.mem_map, List.mem_filter, List.mem_cons, List.not_mem_nil, or_false,
      decide_eq_true_eq, Option.some.injEq, and_assoc, or_and_right, exists_or, exists_eq_left, htext,
      exists_eq_left', exists_and_left]

theorem mem_findingPorts {port : Int} :
    port ∈ findingPorts lib finding ↔ PortFact lib finding port := by
  unfold findingPorts PortFact
  rw [List.mem_append, List.mem_filterMap]
  refine or_congr (by simp only [Option.bind_eq_some_iff]) ?_
  simp only [endpoint_iff]
  cases hends : endpoints lib finding with
  | none => simp
  | some ft =>
    simp only [List.mem_filter, List.mem_cons, List.not_mem_nil, or_false, decide_eq_true_eq,
      Option.some.injEq, exists_eq_left', exists_and_right, exists_or, or_and_right, and_assoc,
      exists_eq, true_and]

theorem mem_findingDomains {dom : String} :
    dom ∈ findingDomains lib finding ↔ DomainFact lib finding dom := by
  unfold findingDomains DomainFact
  rw [List.mem_append, List.mem_filterMap]
  refine or_congr (by simp only [domainAt_eq_some_iff]) ?_
  split
  · next ev hev =>
    simp only [hev, List.mem_filterMap, domainAt_eq_some_iff, Option.some.injEq, Json.obj.injEq,
      exists_eq_left']
  · next hno =>
    refine iff_of_false List.not_mem_nil ?_
    rintro ⟨ev, hev, -⟩
    exact hno ev hev

/-- **五つ組がどちらの書き方でも、端点はその二つである。** -/
theorem endpoint_of_text {text : String} (hfact : FieldFact lib finding "five_tuple" text)
    {client server : List Char} {p q : Int} (htext : Spells text.toList client p server q)
    (host : List Char) (port : Int) :
    Endpoint lib finding host port ↔ host = client ∧ port = p ∨ host = server ∧ port = q := by
  have hsplit := splitFiveTuple_endpoints htext
  constructor
  · rintro ⟨text', ft, hfact', -, rfl, hends⟩
    obtain rfl : text = text' := by
      rw [← textAt_eq_some_iff] at hfact hfact'
      exact Option.some.inj (hfact.symm.trans hfact')
    rw [hsplit] at hends
    exact hends
  · exact fun hends => ⟨text, _, hfact, htext.mem_colon, hsplit, hends⟩

end Facts

variable {lib : MatchLib} {scope finding : List (String × Json)}

/-- 型の整った scope の次元の読み。 -/
theorem dimension_of_wellTyped (h : WellTyped scope) (d : Dimension) :
    dimension scope d.key = if listed scope d = [] then none else some (.arr (listed scope d)) := by
  unfold dimension listed
  rcases h d with hget | hget | ⟨items, hget, -⟩
  · rw [hget]
    rfl
  · rw [hget]
    rfl
  · rw [hget]
    cases items <;> rfl

theorem valid_of_mem_listed (h : WellTyped scope) {d : Dimension} {v : Json}
    (hv : v ∈ listed scope d) : d.Valid v := by
  unfold listed at hv
  rcases h d with hget | hget | ⟨items, hget, hall⟩
  · rw [hget] at hv
    cases hv
  · rw [hget] at hv
    cases hv
  · rw [hget] at hv
    exact hall v hv

/-- 文字列の列は、一つずつ小文字にできる。 -/
theorem lowered_of_strings (lib : MatchLib) {items : List Json}
    (h : ∀ v ∈ items, ∃ s, v = .str s) : ∃ texts : List String, items = texts.map Json.str ∧
      lowered lib (.arr items) = some (texts.map lib.lower) := by
  induction items with
  | nil => exact ⟨[], rfl, rfl⟩
  | cons v items ih =>
    obtain ⟨⟨s, rfl⟩, hrest⟩ := List.forall_mem_cons.mp h
    obtain ⟨texts, rfl, hlower⟩ := ih hrest
    refine ⟨s :: texts, rfl, ?_⟩
    simp only [lowered, Json.iter?, Option.bind_some] at hlower ⊢
    rw [List.mapM_cons, hlower]
    rfl

/-- 整数の列は、そのまま読める。 -/
theorem mapM_intOf_of_ints {items : List Json} (h : ∀ v ∈ items, ∃ n, v = .int n) :
    ∃ ports : List Int, items = ports.map Json.int ∧ items.mapM intOf = some ports := by
  induction items with
  | nil => exact ⟨[], rfl, rfl⟩
  | cons v items ih =>
    obtain ⟨⟨n, rfl⟩, hrest⟩ := List.forall_mem_cons.mp h
    obtain ⟨ports, rfl, hports⟩ := ih hrest
    refine ⟨n :: ports, rfl, ?_⟩
    rw [List.mapM_cons, hports]
    rfl

/-- 次元一つの条件。 -/
def Holds (lib : MatchLib) (scope finding : List (String × Json)) (d : Dimension) : Prop :=
  listed scope d ≠ [] → ∃ v ∈ listed scope d, Hits lib finding d v

theorem holds_of_nil {d : Dimension} (h : listed scope d = []) : Holds lib scope finding d :=
  fun hne => absurd h hne

theorem holds_iff_of_ne {d : Dimension} (h : listed scope d ≠ []) :
    Holds lib scope finding d ↔ ∃ v ∈ listed scope d, Hits lib finding d v :=
  forall_prop_of_true h

/-- `hosts` の次元の判定。 -/
theorem hostsMatch_iff (h : WellTyped scope) :
    ∃ b, hostsMatch lib scope finding = some b ∧ (b = true ↔ Holds lib scope finding .hosts) := by
  have hdim := dimension_of_wellTyped h .hosts
  have hvalid : ∀ v ∈ listed scope .hosts, ∃ s, v = .str s := fun v hv => valid_of_mem_listed h hv
  unfold hostsMatch
  rw [show dimension scope "hosts" = _ from hdim]
  by_cases hnil : listed scope .hosts = []
  · rw [if_pos hnil]
    exact ⟨true, rfl, iff_of_true rfl (holds_of_nil hnil)⟩
  · rw [if_neg hnil]
    obtain ⟨texts, htexts, hlower⟩ := lowered_of_strings lib hvalid
    dsimp only
    rw [hlower]
    refine ⟨_, rfl, ?_⟩
    rw [holds_iff_of_ne hnil, htexts]
    simp [Hits, ← mem_findingHosts]

/-- `cidrs` の次元の判定。 -/
theorem cidrsMatch_iff (h : WellTyped scope) :
    ∃ b, cidrsMatch lib scope finding = some b ∧ (b = true ↔ Holds lib scope finding .cidrs) := by
  have hdim := dimension_of_wellTyped h .cidrs
  unfold cidrsMatch
  rw [show dimension scope "cidrs" = _ from hdim]
  by_cases hnil : listed scope .cidrs = []
  · rw [if_pos hnil]
    exact ⟨true, rfl, iff_of_true rfl (holds_of_nil hnil)⟩
  · rw [if_neg hnil]
    refine ⟨_, rfl, ?_⟩
    rw [holds_iff_of_ne hnil]
    simp [Hits, ← mem_findingHosts]

/-- `domains` の次元の判定。 -/
theorem domainsMatch_iff (h : WellTyped scope) :
    ∃ b, domainsMatch lib scope finding = some b ∧
      (b = true ↔ Holds lib scope finding .domains) := by
  have hdim := dimension_of_wellTyped h .domains
  have hvalid : ∀ v ∈ listed scope .domains, ∃ s, v = .str s := fun v hv => valid_of_mem_listed h hv
  unfold domainsMatch
  rw [show dimension scope "domains" = _ from hdim]
  by_cases hnil : listed scope .domains = []
  · rw [if_pos hnil]
    exact ⟨true, rfl, iff_of_true rfl (holds_of_nil hnil)⟩
  · rw [if_neg hnil]
    obtain ⟨texts, htexts, hlower⟩ := lowered_of_strings lib hvalid
    dsimp only
    rw [hlower]
    refine ⟨_, rfl, ?_⟩
    rw [holds_iff_of_ne hnil, htexts]
    -- 値と事実の順は、code では逆である
    simp only [List.any_eq_true, List.mem_map, Hits, ← mem_findingDomains]
    constructor
    · rintro ⟨dom, hdom, _, ⟨s, hs, rfl⟩, hmatch⟩
      exact ⟨.str s, ⟨s, hs, rfl⟩, dom, hdom, hmatch⟩
    · rintro ⟨_, ⟨s, hs, rfl⟩, dom, hdom, hmatch⟩
      exact ⟨dom, hdom, _, ⟨s, hs, rfl⟩, hmatch⟩

/-- `ports` の次元の判定。 -/
theorem portsMatch_iff (h : WellTyped scope) :
    portsMatch lib scope finding = true ↔ Holds lib scope finding .ports := by
  have hdim := dimension_of_wellTyped h .ports
  have hvalid : ∀ v ∈ listed scope .ports, ∃ n, v = .int n := fun v hv => valid_of_mem_listed h hv
  unfold portsMatch
  rw [show dimension scope "ports" = _ from hdim]
  by_cases hnil : listed scope .ports = []
  · rw [if_pos hnil]
    exact iff_of_true rfl (holds_of_nil hnil)
  · rw [if_neg hnil]
    obtain ⟨ports, hports, hread⟩ := mapM_intOf_of_ints hvalid
    dsimp only
    rw [Json.iter?, Option.bind_some, hread, Option.getD_some, holds_iff_of_ne hnil, hports]
    simp [Hits, ← mem_findingPorts]

/-- 連言は、どちらも例外を出さなければ、どちらも合うことである。 -/
theorem andThen_iff {a b : Option Bool} {p q : Prop} (ha : ∃ x, a = some x ∧ (x = true ↔ p))
    (hb : ∃ x, b = some x ∧ (x = true ↔ q)) :
    ∃ x, andThen a b = some x ∧ (x = true ↔ p ∧ q) := by
  obtain ⟨x, rfl, hx⟩ := ha
  obtain ⟨y, rfl, hy⟩ := hb
  cases x with
  | true => exact ⟨y, rfl, by rw [hy, and_iff_right (hx.mp rfl)]⟩
  | false => exact ⟨false, rfl, by simp [← hx]⟩

/-- **型の整った scope では、`scope_matches` は空でない次元の連言である。** -/
theorem scopeMatches_iff (h : WellTyped scope) :
    ∃ b, scopeMatches lib scope finding = some b ∧
      (b = true ↔ Selects (listed scope) (Hits lib finding)) := by
  have hports : ∃ b, some (portsMatch lib scope finding) = some b ∧
      (b = true ↔ Holds lib scope finding .ports) := ⟨_, rfl, portsMatch_iff h⟩
  obtain ⟨b, hb, hiff⟩ := andThen_iff (@hostsMatch_iff lib scope finding h)
    (andThen_iff (@cidrsMatch_iff lib scope finding h)
      (andThen_iff (@domainsMatch_iff lib scope finding h) hports))
  refine ⟨b, hb, hiff.trans ?_⟩
  constructor
  · rintro ⟨hhosts, hcidrs, hdomains, hports⟩ d
    cases d with
    | hosts => exact hhosts
    | cidrs => exact hcidrs
    | domains => exact hdomains
    | ports => exact hports
  · exact fun hall => ⟨hall .hosts, hall .cidrs, hall .domains, hall .ports⟩

theorem scopeMatches_eq_true_iff (h : WellTyped scope) :
    scopeMatches lib scope finding = some true ↔ Selects (listed scope) (Hits lib finding) := by
  obtain ⟨b, hb, hiff⟩ := @scopeMatches_iff lib scope finding h
  rw [hb, Option.some.injEq, hiff]

/-! ## 次元と値を足す -/

/-- 次元に値の列を置いた scope。 -/
def setDimension (scope : List (String × Json)) (d : Dimension) (items : List Json) :
    List (String × Json) := DictList.set d.key (.arr items) scope

theorem listed_setDimension (d d' : Dimension) (items : List Json) :
    listed (setDimension scope d items) d' = if d = d' then items else listed scope d' := by
  unfold listed setDimension
  rw [DictList.get?_set]
  by_cases hd : d = d'
  · rw [if_pos hd, if_pos (congrArg _ hd)]
  · rw [if_neg hd, if_neg fun hkey => hd (Dimension.key_injective hkey)]

theorem wellTyped_setDimension (h : WellTyped scope) {d : Dimension} {items : List Json}
    (hvalid : ∀ v ∈ items, d.Valid v) : WellTyped (setDimension scope d items) := by
  intro d'
  unfold setDimension
  rw [DictList.get?_set]
  by_cases hd : d = d'
  · rw [if_pos (congrArg _ hd)]
    exact .inr (.inr ⟨items, rfl, hd ▸ hvalid⟩)
  · rw [if_neg fun hkey => hd (Dimension.key_injective hkey)]
    exact h d'

/-- 空の次元を埋めても、合わないものは合わない。 -/
theorem scopeMatches_of_add_dimension (h : WellTyped scope) {d : Dimension} {items : List Json}
    (hempty : listed scope d = []) (hvalid : ∀ v ∈ items, d.Valid v)
    (hmatch : scopeMatches lib (setDimension scope d items) finding = some true) :
    scopeMatches lib scope finding = some true := by
  rw [scopeMatches_eq_true_iff (wellTyped_setDimension h hvalid)] at hmatch
  rw [scopeMatches_eq_true_iff h]
  refine hmatch.of_refine fun d' hd' => ?_
  rw [listed_setDimension, if_neg]
  rintro rfl
  exact hd' hempty

/-- 空でない次元に値を足しても、合うものは合う。 -/
theorem scopeMatches_add_value (h : WellTyped scope) {d : Dimension} {v : Json} {l l' : List Json}
    (hlisted : listed scope d = l ++ l') (hne : listed scope d ≠ []) (hv : d.Valid v)
    (hmatch : scopeMatches lib scope finding = some true) :
    scopeMatches lib (setDimension scope d (l ++ v :: l')) finding = some true := by
  have hmem : ∀ x ∈ l ++ v :: l', x = v ∨ x ∈ listed scope d := by
    intro x hx
    rw [hlisted]
    simp only [List.mem_append, List.mem_cons] at hx ⊢
    tauto
  have hvalid : ∀ x ∈ l ++ v :: l', d.Valid x := by
    intro x hx
    rcases hmem x hx with rfl | hx
    · exact hv
    · exact valid_of_mem_listed h hx
  rw [scopeMatches_eq_true_iff h] at hmatch
  rw [scopeMatches_eq_true_iff (wellTyped_setDimension h hvalid)]
  refine hmatch.widen (fun d' x hx => ?_) fun d' hd' => ?_
  · rw [listed_setDimension]
    by_cases hd : d = d'
    · subst hd
      rw [if_pos rfl]
      rw [hlisted] at hx
      simp only [List.mem_append, List.mem_cons] at hx ⊢
      tauto
    · rwa [if_neg hd]
  · rw [listed_setDimension] at hd'
    by_cases hd : d = d'
    · exact hd ▸ hne
    · rwa [if_neg hd] at hd'

/--
**型の整った scope の `scope_matches` は、空でない次元の連言である。次元を足しても合わないものは合わず、空でない
次元に値を足しても合うものは合う。五つ組がどちらの書き方でも、端点の事実はその二つの端点である。**
-/
theorem scopeMatches_conjunction (lib : MatchLib) (finding : List (String × Json))
    {scope : List (String × Json)} (h : WellTyped scope) :
    (∃ b, scopeMatches lib scope finding = some b ∧
      (b = true ↔ ∀ d, listed scope d ≠ [] → ∃ v ∈ listed scope d, Hits lib finding d v)) ∧
    (∀ d items, listed scope d = [] → (∀ v ∈ items, d.Valid v) →
      scopeMatches lib scope finding = some false →
        scopeMatches lib (setDimension scope d items) finding = some false) ∧
    (∀ d v l l', listed scope d = l ++ l' → listed scope d ≠ [] → d.Valid v →
      scopeMatches lib scope finding = some true →
        scopeMatches lib (setDimension scope d (l ++ v :: l')) finding = some true) ∧
    ∀ text client p server q, FieldFact lib finding "five_tuple" text →
      Spells text.toList client p server q → ∀ host port,
        (Endpoint lib finding host port ↔ host = client ∧ port = p ∨ host = server ∧ port = q) := by
  refine ⟨scopeMatches_iff h, fun d items hempty hvalid hmiss => ?_, fun d v l l' => ?_,
    fun text client p server q hfact htext host port => endpoint_of_text hfact htext host port⟩
  · obtain ⟨b, hb, -⟩ := @scopeMatches_iff lib _ finding (wellTyped_setDimension h hvalid)
    cases b with
    | false => exact hb
    | true =>
      have hmatch := scopeMatches_of_add_dimension h hempty hvalid hb
      cases hmiss.symm.trans hmatch
  · exact scopeMatches_add_value h

/-- host と CIDR を並べた scope。 -/
def officeScope : List (String × Json) :=
  [("hosts", .arr [.str "10.0.0.2", .str "mx.a.test"]), ("cidrs", .arr [.str "10.0.0.0/8"]),
    ("ports", .null)]

/-- IPv4 の文字列だけを見る比べ方。 -/
def officeLib : MatchLib where
  lower s := s
  text _ := ""
  inNetwork _ host := "10.".isPrefixOf host
  fnmatch dom pat := decide (dom = pat)

theorem wellTyped_officeScope : WellTyped officeScope := by
  intro d
  cases d with
  | hosts => exact .inr (.inr ⟨_, rfl, by simp [Dimension.Valid]⟩)
  | cidrs => exact .inr (.inr ⟨_, rfl, by simp [Dimension.Valid]⟩)
  | domains => exact .inl rfl
  | ports => exact .inr (.inl rfl)

/-- 二つの次元の合う finding は、port の次元を足すと合わなくなりうる。 -/
theorem scopeMatches_conjunction_office :
    (∃ b, scopeMatches officeLib officeScope [("five_tuple", .str "10.0.0.1:40000->10.0.0.2:25")]
        = some b ∧ (b = true ↔ ∀ d, listed officeScope d ≠ [] → ∃ v ∈ listed officeScope d,
          Hits officeLib [("five_tuple", .str "10.0.0.1:40000->10.0.0.2:25")] d v)) ∧
    scopeMatches officeLib (setDimension officeScope .ports [.int 587])
      [("five_tuple", .str "10.0.0.1:40000->10.0.0.2:25")] = some false :=
  ⟨(scopeMatches_conjunction officeLib _ wellTyped_officeScope).1, by decide +kernel⟩

end CipherPost.Proactive
