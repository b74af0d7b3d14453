import CipherPost.Parsing.RecordLayer
import CipherPost.Parsing.TlsSegments

/-!
# 平文と TLS の分け方

`_assign_tls_segments` は、STARTTLS の命令の行の直後で stream を分ける。命令は大文字の語の最初の出現で
探すので、前の行にその語があるか、命令が小文字で書かれていると、移行を見失う。

* `Partitioned` — 二つの部分を並べると元の stream になること
* `StarttlsAt` — 移行の位置
* `segments_partition_iff` — 部分が重ならないための条件
* `Line`・`IsUpgradeLine` — 改行を含まない行と、大文字小文字を問わない命令の行
* `findStarttlsOffset_lines` — 行の列の中での探し方
* `starttls_found_iff` — 移行が見つかるための条件
-/

namespace CipherPost.Parsing

/-! ## 移行 -/

/-- STARTTLS の命令の行の直後で、record が始まる。 -/
structure StarttlsAt (sess : Session) (client : Bytes) (off : Nat) : Prop where
  explicit : sess.serverPort ∉ IMPLICIT_TLS_PORTS
  command : findStarttlsOffset client sess.protocol = some off
  inside : off < client.length
  record : findTlsOffset (client.drop off) = some 0

theorem starttlsTransition_eq_some {protocol : Protocol} {client : Bytes} {off : Nat} :
    starttlsTransition protocol client = some off ↔
      findStarttlsOffset client protocol = some off ∧ off < client.length ∧
        findTlsOffset (client.drop off) = some 0 := by
  unfold starttlsTransition
  cases findStarttlsOffset client protocol with
  | none => simp
  | some n =>
    simp only [Option.some.injEq]
    split
    · next h =>
      rw [Option.some.injEq]
      refine ⟨fun hn => ⟨hn, ?_⟩, And.left⟩
      rw [← hn]
      exact h
    · next h =>
      refine ⟨nofun, ?_⟩
      rintro ⟨rfl, hrest⟩
      exact absurd hrest h

variable {sess : Session} {client : Bytes} {off : Nat}

/-- STARTTLS と判るのは、命令の行の直後で record が始まるときだけである。 -/
theorem tlsTransition_starttls_iff :
    tlsTransition (decide (sess.serverPort ∈ IMPLICIT_TLS_PORTS)) sess.protocol client =
      (some off, true) ↔ StarttlsAt sess client off := by
  have hat : StarttlsAt sess client off ↔
      sess.serverPort ∉ IMPLICIT_TLS_PORTS ∧ starttlsTransition sess.protocol client = some off := by
    rw [starttlsTransition_eq_some]
    exact ⟨fun h => ⟨h.explicit, h.command, h.inside, h.record⟩,
      fun ⟨hport, hcmd, hin, hrec⟩ => ⟨hport, hcmd, hin, hrec⟩⟩
  rw [hat, tlsTransition]
  by_cases hport : sess.serverPort ∈ IMPLICIT_TLS_PORTS
  · simp [hport]
  · rw [decide_eq_false hport, if_neg Bool.false_ne_true]
    cases starttlsTransition sess.protocol client <;> simp [hport]

/-! ## 分割 -/

/-- 二つの部分を並べると、client と server の stream になる。 -/
structure Partitioned (sess : Session) (client server : Bytes) : Prop where
  client : sess.plaintextSegment ++ sess.tlsSegment = client
  server : sess.plaintextServerSegment ++ sess.tlsServerSegment = server

/-- client の側は、どの分岐でも分割になる。 -/
theorem client_partition (sess : Session) (client server : Bytes) :
    (assignTlsSegments sess client server).plaintextSegment ++
      (assignTlsSegments sess client server).tlsSegment = client := by
  unfold assignTlsSegments
  simp only
  split
  · split
    · split <;> exact List.take_append_drop _ client
    · exact List.take_append_drop _ client
  · exact List.append_nil client

theorem findTlsOffset_lt {data : Bytes} {so : Nat} (h : findTlsOffset data = some so) :
    so < data.length := by
  unfold findTlsOffset at h
  split at h
  · cases h
  · have hmem := List.mem_range.mp (List.mem_of_find?_eq_some h)
    omega

/-- STARTTLS の印は、移行の位置があるときにだけ立つ。 -/
theorem starttls_flag_iff :
    (tlsTransition (decide (sess.serverPort ∈ IMPLICIT_TLS_PORTS)) sess.protocol client).2 = true ↔
      ∃ off, StarttlsAt sess client off := by
  constructor
  · intro hflag
    unfold tlsTransition at hflag
    split at hflag
    · cases hflag
    · next hport =>
      split at hflag
      · next off hoff =>
        obtain ⟨hcmd, hin, hrec⟩ := starttlsTransition_eq_some.mp hoff
        exact ⟨off, of_decide_eq_false (Bool.not_eq_true _ ▸ hport), hcmd, hin, hrec⟩
      · cases hflag
  · rintro ⟨off, hat⟩
    rw [tlsTransition_starttls_iff.mpr hat]

/-- server の側の二つの部分。record が見つからなければ、STARTTLS では stream が両方に入る。 -/
theorem server_segments (sess : Session) (client server : Bytes) :
    (assignTlsSegments sess client server).plaintextServerSegment ++
        (assignTlsSegments sess client server).tlsServerSegment =
      if (tlsTransition (decide (sess.serverPort ∈ IMPLICIT_TLS_PORTS)) sess.protocol client).2 ∧
          findTlsOffset server = none then server ++ server
      else server := by
  unfold assignTlsSegments
  simp only
  cases htrans : tlsTransition (decide (sess.serverPort ∈ IMPLICIT_TLS_PORTS)) sess.protocol client
    with
  | mk offset starttls =>
  cases offset with
  | none =>
    have hflag : starttls = false := by
      refine Bool.eq_false_iff.mpr fun htrue => ?_
      obtain ⟨off, hat⟩ := starttls_flag_iff.mp (congrArg Prod.snd htrans |>.trans htrue)
      rw [tlsTransition_starttls_iff.mpr hat] at htrans
      cases htrans
    rw [hflag]
    exact List.append_nil server
  | some offset =>
    cases hso : findTlsOffset server with
    | some so =>
      simp only
      rw [if_pos (findTlsOffset_lt hso), if_neg fun h => by cases h.2]
      exact List.take_append_drop so server
    | none => cases starttls <;> rfl

/--
**四つの部分が二つの stream の分割になることは、STARTTLS の session では server の stream が空であるか、
その中に record が見つかることと同値である。**
-/
theorem segments_partition_iff (sess : Session) (client server : Bytes) :
    Partitioned (assignTlsSegments sess client server) client server ↔
      ((∃ off, StarttlsAt sess client off) → server = [] ∨ findTlsOffset server ≠ none) := by
  have hserver := server_segments sess client server
  constructor
  · rintro ⟨-, hpart⟩ hat
    by_cases hnone : findTlsOffset server = none
    · rw [hpart, if_pos ⟨starttls_flag_iff.mpr hat, hnone⟩] at hserver
      exact .inl (List.append_right_eq_self.mp hserver.symm)
    · exact .inr hnone
  · intro h
    refine ⟨client_partition sess client server, ?_⟩
    rw [hserver]
    split
    · next hboth =>
      rcases h (starttls_flag_iff.mp hboth.1) with hnil | hsome
      · rw [hnil]
        rfl
      · exact absurd hboth.2 hsome
    · rfl

/-- 命令と、本体の空な record 一つ。 -/
def upgradeClient : Bytes := ascii "STARTTLS" ++ [13, 10, 22, 3, 1, 0, 0]

/-- 応答だけが見えた server の stream は、平文にも TLS にも入る。 -/
theorem reply_in_both :
    ¬Partitioned (assignTlsSegments plainSession upgradeClient (ascii "220 ready")) upgradeClient
      (ascii "220 ready") := by
  intro h
  exact absurd h.server (by decide +kernel)

/-! ## 命令を探す -/

section
variable {sub line rest data : Bytes}

/-- 先頭で始まる語はその位置にある。 -/
theorem find_head (h : sub <+: data) : find sub data = some 0 := by
  cases data with
  | nil => exact if_pos (List.prefix_nil.mp h)
  | cons b data => exact if_pos h

/-- 先頭で始まらなければ、一つ進んで探す。 -/
theorem find_cons_of_not_head {b : UInt8} (h : ¬sub <+: b :: data) :
    find sub (b :: data) = (find sub data).map (· + 1) := if_neg h

/-- 語に無い byte の手前までの列だけが、語の先頭を決める。 -/
theorem prefix_of_prefix_append {b : UInt8} (hb : b ∉ sub) (h : sub <+: line ++ b :: rest) :
    sub <+: line := by
  have hcut : line ++ [b] <+: line ++ b :: rest :=
    (List.prefix_append_right_inj line).mpr (List.prefix_append [b] rest)
  rcases List.prefix_or_prefix_of_prefix h hcut with hsub | hline
  · rcases List.prefix_concat_iff.mp hsub with rfl | hsub
    · exact absurd List.mem_concat_self hb
    · exact hsub
  · exact absurd (hline.subset List.mem_concat_self) hb

/-- 語のある行では、その行の中で見つかる。 -/
theorem find_within (h : sub <:+: line) (rest : Bytes) :
    ∃ i, find sub (line ++ rest) = some i ∧ i ≤ line.length := by
  induction line with
  | nil =>
    rw [List.infix_nil.mp h]
    exact ⟨0, find_head List.nil_prefix, Nat.le_refl _⟩
  | cons b line ih =>
    by_cases hpre : sub <+: b :: (line ++ rest)
    · exact ⟨0, find_head hpre, Nat.zero_le _⟩
    · rcases List.infix_cons_iff.mp h with hhead | htail
      · exact absurd (hhead.trans (List.prefix_append (b :: line) rest)) hpre
      · obtain ⟨i, hi, hle⟩ := ih htail
        refine ⟨i + 1, ?_, Nat.succ_le_succ hle⟩
        rw [List.cons_append, find_cons_of_not_head hpre, hi]
        rfl

/-- 語の無い行は、語に無い byte まで読み飛ばされる。 -/
theorem find_skip {b : UInt8} (hb : b ∉ sub) (h : ¬sub <:+: line) (rest : Bytes) :
    find sub (line ++ b :: rest) = (find sub rest).map (· + (line.length + 1)) := by
  induction line with
  | nil =>
    refine find_cons_of_not_head fun hpre => h ?_
    exact (@prefix_of_prefix_append sub [] rest b hb hpre).isInfix
  | cons c line ih =>
    have hpre : ¬sub <+: c :: (line ++ b :: rest) := fun hpre =>
      h (@prefix_of_prefix_append sub (c :: line) rest b hb hpre).isInfix
    have htail : ¬sub <:+: line := fun hin => h (List.infix_cons hin)
    rw [List.cons_append, find_cons_of_not_head hpre, ih htail, Option.map_map]
    rfl

end

/-! ## 行 -/

/-- 改行を含まない行。 -/
structure Line where
  bytes : Bytes
  noCrlf : ¬[13, 10] <:+: bytes

/-- 改行を付けた行。 -/
def Line.encode (l : Line) : Bytes := l.bytes ++ [13, 10]

/-- 並べた行。 -/
def encodeLines (ls : List Line) : Bytes := ls.flatMap Line.encode

@[simp] theorem Line.length_encode (l : Line) : l.encode.length = l.bytes.length + 2 :=
  List.length_append

/-- 行の終わりは、行に付けた改行である。 -/
theorem find_crlf {line : Bytes} (h : ¬[13, 10] <:+: line) (rest : Bytes) :
    find [13, 10] (line ++ 13 :: 10 :: rest) = some line.length := by
  induction line with
  | nil => exact find_head ⟨rest, rfl⟩
  | cons b line ih =>
    have hpre : ¬[13, 10] <+: b :: (line ++ 13 :: 10 :: rest) := by
      intro hpre
      obtain ⟨rfl, htail⟩ := List.cons_prefix_cons.mp hpre
      cases line with
      | nil => exact absurd (List.cons_prefix_cons.mp htail).1 (by decide)
      | cons c line =>
        obtain ⟨rfl, -⟩ := List.cons_prefix_cons.mp htail
        exact h ⟨[], line, rfl⟩
    have htail : ¬[13, 10] <:+: line := fun hin => h (List.infix_cons hin)
    rw [List.cons_append, find_cons_of_not_head hpre, ih htail]
    rfl

/-- 語の最初の出現を含む行の、直後の位置。 -/
def commandEnd (cmd data : Bytes) : Option Nat :=
  (find cmd data).bind fun idx => (find [13, 10] (data.drop idx)).map fun eol => idx + eol + 2

theorem findStarttlsOffset_eq (data : Bytes) (protocol : Protocol) :
    findStarttlsOffset data protocol = (starttlsCommand protocol).bind (commandEnd · data) := rfl

section
variable {cmd : Bytes}

/-- 語のある行の直後を返す。 -/
theorem commandEnd_within {l : Line} (h : cmd <:+: l.bytes) (rest : Bytes) :
    commandEnd cmd (l.encode ++ rest) = some l.encode.length := by
  obtain ⟨i, hi, hle⟩ := find_within h ([13, 10] ++ rest)
  have hcrlf : ¬[13, 10] <:+: l.bytes.drop i := fun hin =>
    l.noCrlf (hin.trans (List.drop_suffix i l.bytes).isInfix)
  have hdrop : (l.bytes ++ ([13, 10] ++ rest)).drop i = l.bytes.drop i ++ 13 :: 10 :: rest :=
    List.drop_append_of_le_length hle
  rw [commandEnd, Line.encode, List.append_assoc, hi, Option.bind_some, hdrop, find_crlf hcrlf,
    Option.map_some, List.length_drop, List.length_append, List.length_cons, List.length_singleton]
  congr 1
  omega

/-- 語の無い行は読み飛ばされる。 -/
theorem commandEnd_skip (hcr : 13 ∉ cmd) (hlf : 10 ∉ cmd) {l : Line} (h : ¬cmd <:+: l.bytes)
    (rest : Bytes) :
    commandEnd cmd (l.encode ++ rest) = (commandEnd cmd rest).map (· + l.encode.length) := by
  have hnil : ¬cmd <:+: [] := fun hin => h (hin.trans (List.nil_infix))
  have hfind : find cmd (l.encode ++ rest) = (find cmd rest).map (· + l.encode.length) := by
    rw [Line.encode, List.append_assoc]
    show find cmd (l.bytes ++ 13 :: ([] ++ 10 :: rest)) = _
    rw [find_skip hcr h, find_skip hlf hnil, Option.map_map, List.length_append]
    congr 1
    funext i
    show i + (0 + 1) + (l.bytes.length + 1) = i + (l.bytes.length + 2)
    omega
  rw [commandEnd, hfind, commandEnd, Option.bind_map, Option.map_bind]
  congr 1
  funext i
  have hdrop : (l.encode ++ rest).drop (i + l.encode.length) = rest.drop i := by
    rw [Nat.add_comm, List.drop_length_add_append]
  show ((find [13, 10] ((l.encode ++ rest).drop (i + l.encode.length))).map _) = _
  rw [hdrop, Function.comp, Option.map_map]
  congr 1
  funext eol
  show i + l.encode.length + eol + 2 = i + eol + 2 + l.encode.length
  omega

/-- どの行にも語が無ければ、行の列は読み飛ばされる。 -/
theorem commandEnd_lines (hcr : 13 ∉ cmd) (hlf : 10 ∉ cmd) : ∀ {ls : List Line},
    (∀ l ∈ ls, ¬cmd <:+: l.bytes) → ∀ rest : Bytes,
    commandEnd cmd (encodeLines ls ++ rest) =
      (commandEnd cmd rest).map (· + (encodeLines ls).length) := by
  intro ls
  induction ls with
  | nil =>
    intro _ rest
    show commandEnd cmd rest = (commandEnd cmd rest).map _
    cases commandEnd cmd rest <;> rfl
  | cons l ls ih =>
    intro h rest
    obtain ⟨hl, hls⟩ := List.forall_mem_cons.mp h
    rw [encodeLines, List.flatMap_cons, List.append_assoc, commandEnd_skip hcr hlf hl]
    show ((commandEnd cmd (encodeLines ls ++ rest)).map _) = _
    rw [ih hls, Option.map_map, List.length_append]
    congr 1
    funext i
    show i + (encodeLines ls).length + l.encode.length =
      i + (l.encode.length + (encodeLines ls).length)
    omega

/-- 語のある行があれば、行の列の中の位置が返る。 -/
theorem commandEnd_le (hcr : 13 ∉ cmd) (hlf : 10 ∉ cmd) : ∀ {ls : List Line},
    (∃ l ∈ ls, cmd <:+: l.bytes) → ∀ rest : Bytes,
    ∃ off, commandEnd cmd (encodeLines ls ++ rest) = some off ∧ off ≤ (encodeLines ls).length := by
  intro ls
  induction ls with
  | nil => exact fun ⟨_, hl, _⟩ => by cases hl
  | cons l ls ih =>
    intro h rest
    rw [encodeLines, List.flatMap_cons, List.append_assoc, List.length_append]
    by_cases hl : cmd <:+: l.bytes
    · exact ⟨_, commandEnd_within hl _, Nat.le_add_right _ _⟩
    · have hls : ∃ l ∈ ls, cmd <:+: l.bytes := by
        obtain ⟨l', hmem, hl'⟩ := h
        rcases List.mem_cons.mp hmem with rfl | hmem
        · exact absurd hl' hl
        · exact ⟨l', hmem, hl'⟩
      obtain ⟨off, hoff, hle⟩ := ih hls rest
      refine ⟨off + l.encode.length, ?_, ?_⟩
      · rw [commandEnd_skip hcr hlf hl]
        show ((commandEnd cmd (encodeLines ls ++ rest)).map _) = _
        rw [hoff]
        rfl
      · show off + l.encode.length ≤ l.encode.length + (encodeLines ls).length
        omega

end

/-! ## record の始まり -/

/-- 探す版の record。 -/
def TlsRecord.Recognized (r : TlsRecord) : Prop :=
  r.Valid ∧ r.version ∈ [0x0300, 0x0301, 0x0302, 0x0303, 0x0304]

/-- 並べた record は、先頭から始まる。 -/
theorem findTlsOffset_encodeRecords {r : TlsRecord} {rs : List TlsRecord} (h : r.Recognized) :
    findTlsOffset (encodeRecords (r :: rs)) = some 0 := by
  obtain ⟨ct, v₁, v₀, l₁, l₀, henc, hct, hv, hl⟩ := h.1.exists_header
  have hdata : encodeRecords (r :: rs) =
      ct :: v₁ :: v₀ :: l₁ :: l₀ :: (r.payload ++ encodeRecords rs) := by
    rw [encodeRecords_cons, henc]
    rfl
  have hpayload := h.1.payload
  have hvalid : (validRecordAt (encodeRecords (r :: rs)) 0).isSome = true := by
    have hone : fromBytes [ct] = r.contentType := by rw [← hct, fromBytes]; simp
    have htwo : fromBytes [v₁, v₀] = r.version := by rw [← hv]; exact value_two v₁ v₀
    have hlen : fromBytes [l₁, l₀] = r.payload.length := by rw [← hl]; exact value_two l₁ l₀
    rw [validRecordAt, hdata]
    simp only [slice, List.drop_succ_cons, List.drop_zero, List.take_succ_cons, List.take_zero,
      Nat.reduceAdd, Nat.reduceSub, hone, htwo, hlen, List.length_cons, List.length_append]
    rw [if_neg (by omega), if_neg (not_not_intro h.1.contentType), if_neg (not_not_intro h.2),
      if_neg (by omega), if_neg (by omega)]
    rfl
  have hfive : ¬(encodeRecords (r :: rs)).length < 5 := by
    rw [hdata]
    simp only [List.length_cons]
    omega
  rw [findTlsOffset, if_neg hfive, List.range_succ_eq_map, List.find?_cons, hvalid]

/-! ## STARTTLS の命令 -/

/-- 大文字小文字を問わず、STARTTLS の命令の行である。IMAP では前に tag が付く。 -/
def IsUpgradeLine (protocol : Protocol) (line : Bytes) : Prop :=
  match protocol with
  | .imap => ∃ tag word, line = tag ++ 0x20 :: word ∧ some (upper word) = starttlsCommand .imap
  | protocol => some (upper line) = starttlsCommand protocol

/-- 命令の語は改行を含まない。 -/
theorem not_mem_starttlsCommand : ∀ {protocol : Protocol} {cmd : Bytes},
    starttlsCommand protocol = some cmd → 13 ∉ cmd ∧ 10 ∉ cmd
  | .smtp, _, rfl | .imap, _, rfl | .pop3, _, rfl => by decide +kernel

theorem IsUpgradeLine.exists_command : ∀ {protocol : Protocol} {line : Bytes},
    IsUpgradeLine protocol line → ∃ cmd, starttlsCommand protocol = some cmd
  | .smtp, _, _ | .imap, _, _ | .pop3, _, _ => ⟨_, rfl⟩

/-- 行の列の直後が返るのは、語が最後の行にだけ現れるときである。 -/
theorem commandEnd_eq_iff {cmd : Bytes} (hcr : 13 ∉ cmd) (hlf : 10 ∉ cmd) (ls : List Line)
    (last : Line) (rest : Bytes) :
    commandEnd cmd (encodeLines (ls ++ [last]) ++ rest) =
        some (encodeLines (ls ++ [last])).length ↔
      (∀ l ∈ ls, ¬cmd <:+: l.bytes) ∧ cmd <:+: last.bytes := by
  have happ : encodeLines (ls ++ [last]) = encodeLines ls ++ last.encode := by
    rw [encodeLines, List.flatMap_append, List.flatMap_singleton]
    rfl
  have hlen : 0 < last.encode.length := by rw [last.length_encode]; omega
  rw [happ, List.append_assoc, List.length_append]
  by_cases hearly : ∃ l ∈ ls, cmd <:+: l.bytes
  · obtain ⟨off, hoff, hle⟩ := commandEnd_le hcr hlf hearly (last.encode ++ rest)
    obtain ⟨l, hl, hin⟩ := hearly
    rw [hoff, Option.some.injEq]
    exact iff_of_false (by omega) fun h => h.1 l hl hin
  · have hno : ∀ l ∈ ls, ¬cmd <:+: l.bytes := fun l hl hin => hearly ⟨l, hl, hin⟩
    rw [commandEnd_lines hcr hlf hno]
    by_cases hlast : cmd <:+: last.bytes
    · rw [commandEnd_within hlast, Option.map_some, Nat.add_comm]
      exact iff_of_true rfl ⟨hno, hlast⟩
    · rw [commandEnd_skip hcr hlf hlast, Option.map_map]
      refine iff_of_false ?_ fun h => hlast h.2
      intro hsome
      obtain ⟨off, hoff, heq⟩ := Option.map_eq_some_iff.mp hsome
      have htwo : 2 ≤ off := by
        rw [commandEnd, Option.bind_eq_some_iff] at hoff
        obtain ⟨idx, -, hcrlf⟩ := hoff
        obtain ⟨eol, -, hsum⟩ := Option.map_eq_some_iff.mp hcrlf
        omega
      have hsum : off + last.encode.length + (encodeLines ls).length =
        (encodeLines ls).length + last.encode.length := heq
      omega

/-- 印の立っていない session では、STARTTLS の印は移行の位置にだけ立つ。 -/
theorem starttls_set_iff {sess : Session} (hfresh : sess.isStarttls = false) (client server : Bytes)
    (off : Nat) :
    (assignTlsSegments sess client server).isStarttls = true ∧
        (assignTlsSegments sess client server).transitionOffset = some off ↔
      StarttlsAt sess client off := by
  rw [← tlsTransition_starttls_iff]
  unfold assignTlsSegments
  simp only
  cases tlsTransition (decide (sess.serverPort ∈ IMPLICIT_TLS_PORTS)) sess.protocol client with
  | mk offset starttls =>
  cases offset with
  | none => simp [hfresh]
  | some offset =>
    rw [Prod.mk.injEq, And.comm]
    cases hso : findTlsOffset server with
    | none => rfl
    | some so =>
      simp only
      rw [if_pos (findTlsOffset_lt hso)]

/--
**STARTTLS の行で終わる平文の後に record が続く session で、移行がその直後に見つかることは、大文字の
命令の語が最後の行にあり、前のどの行にも無いことと同値である。**
-/
theorem starttls_found_iff {sess : Session} (hfresh : sess.isStarttls = false)
    (hport : sess.serverPort ∉ IMPLICIT_TLS_PORTS) (ls : List Line) {last : Line}
    (hlast : IsUpgradeLine sess.protocol last.bytes) {rs : List TlsRecord} (hne : rs ≠ [])
    (hrs : ∀ r ∈ rs, r.Recognized) (server : Bytes) :
    let plain := encodeLines (ls ++ [last])
    let sess' := assignTlsSegments sess (plain ++ encodeRecords rs) server
    sess'.isStarttls = true ∧ sess'.transitionOffset = some plain.length ↔
      ∀ cmd, starttlsCommand sess.protocol = some cmd →
        (∀ l ∈ ls, ¬cmd <:+: l.bytes) ∧ cmd <:+: last.bytes := by
  intro plain sess'
  obtain ⟨cmd, hcmd⟩ := hlast.exists_command
  obtain ⟨hcr, hlf⟩ := not_mem_starttlsCommand hcmd
  have hword : (∀ c, starttlsCommand sess.protocol = some c →
      (∀ l ∈ ls, ¬c <:+: l.bytes) ∧ c <:+: last.bytes) ↔
      (∀ l ∈ ls, ¬cmd <:+: l.bytes) ∧ cmd <:+: last.bytes := by
    rw [hcmd]
    exact ⟨fun h => h cmd rfl, fun h c hc => Option.some.inj hc ▸ h⟩
  rw [starttls_set_iff hfresh, hword, ← commandEnd_eq_iff hcr hlf ls last (encodeRecords rs)]
  have hoff : findStarttlsOffset (plain ++ encodeRecords rs) sess.protocol =
      commandEnd cmd (plain ++ encodeRecords rs) := by
    rw [findStarttlsOffset_eq, hcmd]
    rfl
  constructor
  · intro h
    exact hoff.symm.trans h.command
  · intro h
    obtain ⟨r, rs, rfl⟩ := List.exists_cons_of_ne_nil hne
    refine ⟨hport, hoff.trans h, ?_, ?_⟩
    · rw [List.length_append, encodeRecords_cons, List.length_append, r.length_encode]
      omega
    · rw [List.drop_left]
      exact findTlsOffset_encodeRecords (hrs r List.mem_cons_self)

/-- 大文字の命令の行。 -/
def upperLine : Line := ⟨ascii "STARTTLS", by decide +kernel⟩

/-- 小文字の命令の行。 -/
def lowerLine : Line := ⟨ascii "starttls", by decide +kernel⟩

/-- 名乗りに命令の語を含む行。 -/
def namedLine : Line := ⟨ascii "EHLO STARTTLS", by decide +kernel⟩

/-- 本体の空な handshake の record。 -/
def emptyRecord : TlsRecord := ⟨22, 0x0301, []⟩

theorem recognized_emptyRecord : emptyRecord.Recognized :=
  ⟨⟨by decide, by decide, by decide⟩, by decide⟩

/-- 大文字の命令は見つかる。 -/
theorem upper_starttls_found :
    let plain := encodeLines ([] ++ [upperLine])
    let sess' := assignTlsSegments plainSession (plain ++ encodeRecords [emptyRecord]) []
    sess'.isStarttls = true ∧ sess'.transitionOffset = some plain.length := by
  have hline : IsUpgradeLine plainSession.protocol upperLine.bytes := by
    show some _ = some _
    decide +kernel
  refine (starttls_found_iff rfl (by decide) [] hline (List.cons_ne_nil emptyRecord [])
    (List.forall_mem_singleton.mpr recognized_emptyRecord) []).mpr ?_
  rintro cmd hcmd
  obtain rfl : ascii "STARTTLS" = cmd := Option.some.inj hcmd
  exact ⟨List.forall_mem_nil _, List.infix_rfl⟩

/-- 小文字の命令と、前の行に語のある命令は見つからない。 -/
theorem starttls_missed :
    plainSession.isStarttls = false ∧ plainSession.serverPort ∉ IMPLICIT_TLS_PORTS ∧
    IsUpgradeLine plainSession.protocol lowerLine.bytes ∧
    IsUpgradeLine plainSession.protocol upperLine.bytes ∧ emptyRecord.Recognized ∧
    ∀ p ∈ [([], lowerLine), ([namedLine], upperLine)],
      let plain := encodeLines (p.1 ++ [p.2])
      let sess' := assignTlsSegments plainSession (plain ++ encodeRecords [emptyRecord]) []
      ¬(sess'.isStarttls = true ∧ sess'.transitionOffset = some plain.length) := by
  refine ⟨rfl, by decide, ?_, ?_, recognized_emptyRecord, ?_⟩
  · show some _ = some _
    decide +kernel
  · show some _ = some _
    decide +kernel
  · refine List.forall_mem_cons.mpr ⟨?_, List.forall_mem_singleton.mpr ?_⟩
    · intro plain sess' h
      exact absurd h.1 (by decide +kernel)
    · intro plain sess' h
      exact absurd h.1 (by decide +kernel)

end CipherPost.Parsing
