import CipherPost.Infra.Run

/-!
# CSV

Python の `csv` の既定の dialect。writer は、区切り・引用符・改行を含む欄だけを引用符で囲み、引用符を重ねる。
reader は一文字ずつ進む状態機械である。

往復は二段に分かれる。一つの欄を読み終えるまで（`scan_field`）と、欄を並べた行（`scan_row`）である。

* `writeRow`・`write` — `csv.writer`
* `Reader.step`・`read` — `csv.reader`
* `read_write` — 書いた表は、そのまま読み戻せる
-/

namespace CipherPost.Csv

/-- 引用符で囲む理由になる文字。 -/
def special (c : Char) : Bool :=
  decide (c = ',') || decide (c = '"') || decide (c = '\r') || decide (c = '\n')

/-- 引用符を重ねる。 -/
def escape (cs : List Char) : List Char := cs.flatMap fun c => if c = '"' then ['"', '"'] else [c]

/-- 引用符で囲んだ欄。 -/
def quote (cs : List Char) : List Char := '"' :: escape cs ++ ['"']

/-- 一つの欄。 -/
def writeField (cs : List Char) : List Char := if cs.any special then quote cs else cs

/-- 欄を区切りで並べる。 -/
def joinFields : List (List Char) → List Char
  | [] => []
  | [f] => f
  | f :: rest => f ++ ',' :: joinFields rest

/-- `writerow`。空の欄一つの行だけは、欄を引用符で囲む。 -/
def writeRow (row : List (List Char)) : List Char :=
  (if row = [[]] then quote [] else joinFields (row.map writeField)) ++ ['\r', '\n']

/-- `writerows`。 -/
def write (rows : List (List (List Char))) : List Char := rows.flatMap writeRow

/-! ## reader -/

/-- reader の状態機械の状態。 -/
inductive Mode where
  | startRecord | startField | inField | inQuoted | quoteInQuoted | afterReturn
  deriving Repr, DecidableEq

/-- reader。読み終えた行と、行の途中の欄、欄の途中の文字を持つ。 -/
structure Reader where
  rows : List (List (List Char)) := []
  fields : List (List Char) := []
  cur : List Char := []
  mode : Mode := .startRecord
  deriving Repr, DecidableEq

namespace Reader

/-- 欄の終わり。 -/
def endField (r : Reader) : Reader := { r with fields := r.fields ++ [r.cur], cur := [] }

/-- 行の終わり。 -/
def endRow (r : Reader) (mode : Mode) : Reader :=
  { r with rows := r.rows ++ [r.fields], fields := [], mode }

/-- 欄の中でない文字の扱い。`c` は改行・区切り・引用符でなければ、欄に加わる。 -/
def fieldChar (r : Reader) (c : Char) : Reader :=
  if c = '\r' then r.endField.endRow .afterReturn
  else if c = '\n' then r.endField.endRow .startRecord
  else if c = ',' then { r.endField with mode := .startField }
  else { r with cur := r.cur ++ [c], mode := .inField }

/-- 欄の先頭の文字。 -/
def startChar (r : Reader) (c : Char) : Reader :=
  if c = '"' then { r with mode := .inQuoted } else r.fieldChar c

/-- 行の先頭の文字。空の行には欄が無い。 -/
def recordChar (r : Reader) (c : Char) : Reader :=
  if c = '\r' then r.endRow .afterReturn
  else if c = '\n' then r.endRow .startRecord
  else r.startChar c

/-- 一文字を読む。 -/
def step (r : Reader) (c : Char) : Reader :=
  match r.mode with
  | .startRecord => r.recordChar c
  | .startField => r.startChar c
  | .inField => r.fieldChar c
  | .inQuoted =>
    if c = '"' then { r with mode := .quoteInQuoted } else { r with cur := r.cur ++ [c] }
  | .quoteInQuoted =>
    if c = '"' then { r with cur := r.cur ++ [c], mode := .inQuoted } else r.fieldChar c
  | .afterReturn => if c = '\n' then { r with mode := .startRecord } else r.recordChar c

/-- text の終わり。閉じていない欄と行を閉じる。 -/
def finish (r : Reader) : List (List (List Char)) :=
  match r.mode with
  | .startRecord | .afterReturn => r.rows
  | _ => r.rows ++ [r.fields ++ [r.cur]]

end Reader

/-- `csv.reader` の返す行。 -/
def read (text : List Char) : List (List (List Char)) := (Run.exec Reader.step {} text).finish

/-! ## 一つの欄 -/

variable {rows : List (List (List Char))} {fields : List (List Char)}

/-- 引用符の中では、どの文字も欄に加わる。 -/
theorem scan_escape : ∀ (cs cur : List Char),
    Run.exec Reader.step ⟨rows, fields, cur, .inQuoted⟩ (escape cs) =
      ⟨rows, fields, cur ++ cs, .inQuoted⟩
  | [], cur => by rw [List.append_nil]; rfl
  | c :: cs, cur => by
    have hcons : escape (c :: cs) = (if c = '"' then ['"', '"'] else [c]) ++ escape cs := rfl
    have hc : Run.exec Reader.step ⟨rows, fields, cur, .inQuoted⟩
        (if c = '"' then ['"', '"'] else [c]) = ⟨rows, fields, cur ++ [c], .inQuoted⟩ := by
      by_cases h : c = '"'
      · subst h
        rfl
      · rw [if_neg h, Run.exec_cons, Run.exec_nil]
        simp only [Reader.step, if_neg h]
    rw [hcons, Run.exec_append, hc, scan_escape cs, ← List.append_cons]

/-- 特別な文字の無い欄は、そのまま加わる。 -/
theorem scan_plain : ∀ (cs cur : List Char), (∀ c ∈ cs, special c = false) →
    Run.exec Reader.step ⟨rows, fields, cur, .inField⟩ cs = ⟨rows, fields, cur ++ cs, .inField⟩
  | [], cur, _ => by rw [List.append_nil]; rfl
  | c :: cs, cur, h => by
    obtain ⟨hc, hcs⟩ := List.forall_mem_cons.mp h
    simp only [special, Bool.or_eq_false_iff, decide_eq_false_iff_not] at hc
    obtain ⟨⟨⟨hcomma, hquote⟩, hcr⟩, hlf⟩ := hc
    have hstep : Reader.step ⟨rows, fields, cur, .inField⟩ c =
        ⟨rows, fields, cur ++ [c], .inField⟩ := by
      simp only [Reader.step, Reader.fieldChar, if_neg hcr, if_neg hlf, if_neg hcomma]
    rw [Run.exec_cons, hstep, scan_plain cs _ hcs, ← List.append_cons]

/-- 欄を読み終えた所。次の文字が欄を閉じる。 -/
def Ready (r : Reader) (rows : List (List (List Char))) (fields : List (List Char))
    (f : List Char) : Prop :=
  r = ⟨rows, fields, f, .quoteInQuoted⟩ ∨ r = ⟨rows, fields, f, .inField⟩ ∨
    (f = [] ∧ r = ⟨rows, fields, [], .startField⟩)

theorem Ready.comma {r : Reader} {f : List Char} (h : Ready r rows fields f) :
    r.step ',' = ⟨rows, fields ++ [f], [], .startField⟩ := by
  rcases h with rfl | rfl | ⟨rfl, rfl⟩ <;> rfl

theorem Ready.newline {r : Reader} {f : List Char} (h : Ready r rows fields f) :
    Run.exec Reader.step r ['\r', '\n'] = ⟨rows ++ [fields ++ [f]], [], [], .startRecord⟩ := by
  rcases h with rfl | rfl | ⟨rfl, rfl⟩ <;> rfl

/-- 欄の先頭からの読み方。行の先頭では、欄が空でないときに同じである。 -/
def Starts (r : Reader) (rows : List (List (List Char))) (fields : List (List Char))
    (text : List Char) : Prop :=
  r = ⟨rows, fields, [], .startField⟩ ∨ (r = ⟨rows, fields, [], .startRecord⟩ ∧ text ≠ [])

/-- 引用符の欄。 -/
theorem scan_quote {r : Reader} (f : List Char) (h : Starts r rows fields (quote f)) :
    Ready (Run.exec Reader.step r (quote f)) rows fields f := by
  have hopen : r.step '"' = ⟨rows, fields, [], .inQuoted⟩ := by
    rcases h with rfl | ⟨rfl, -⟩ <;> rfl
  have hcons : quote f = '"' :: (escape f ++ ['"']) := rfl
  rw [hcons, Run.exec_cons, hopen, Run.exec_append, scan_escape, List.nil_append]
  exact .inl rfl

/-- **欄の往復。** 書いた欄を読むと、その欄を持って、閉じる文字を待つ。 -/
theorem scan_field {r : Reader} (f : List Char) (h : Starts r rows fields (writeField f)) :
    Ready (Run.exec Reader.step r (writeField f)) rows fields f := by
  unfold writeField at h ⊢
  by_cases hs : f.any special = true
  · rw [if_pos hs] at h ⊢
    exact scan_quote f h
  · rw [if_neg hs] at h ⊢
    have hplain : ∀ c ∈ f, special c = false := by
      intro c hc
      exact Bool.eq_false_iff.mpr fun hsc => hs (List.any_eq_true.mpr ⟨c, hc, hsc⟩)
    cases f with
    | nil =>
      rcases h with rfl | ⟨-, hne⟩
      · exact .inr (.inr ⟨rfl, rfl⟩)
      · exact absurd rfl hne
    | cons c f =>
      -- 先頭の文字だけが、欄を始める状態で読まれる
      obtain ⟨hc, hf⟩ := List.forall_mem_cons.mp hplain
      simp only [special, Bool.or_eq_false_iff, decide_eq_false_iff_not] at hc
      obtain ⟨⟨⟨hcomma, hquote⟩, hcr⟩, hlf⟩ := hc
      have hstep : r.step c = ⟨rows, fields, [c], .inField⟩ := by
        rcases h with rfl | ⟨rfl, -⟩ <;>
          simp only [Reader.step, Reader.recordChar, Reader.startChar, Reader.fieldChar,
            if_neg hcr, if_neg hlf, if_neg hcomma, if_neg hquote, List.nil_append]
      rw [Run.exec_cons, hstep, scan_plain f _ hf]
      exact .inr (.inl rfl)

/-! ## 行 -/

/-- 欄を並べた行の、途中から終わりまで。 -/
theorem scan_fields : ∀ (row : List (List Char)) (f : List Char) {r : Reader}
    {fields : List (List Char)},
    Starts r rows fields (joinFields ((f :: row).map writeField)) →
    Run.exec Reader.step r (joinFields ((f :: row).map writeField) ++ ['\r', '\n']) =
      ⟨rows ++ [fields ++ f :: row], [], [], .startRecord⟩
  | [], f, r, fields, h => by
    have hjoin : joinFields ([f].map writeField) = writeField f := rfl
    rw [hjoin] at h ⊢
    rw [Run.exec_append, (scan_field f h).newline]
  | f' :: row, f, r, fields, h => by
    have hjoin : joinFields ((f :: f' :: row).map writeField) =
        writeField f ++ ',' :: joinFields ((f' :: row).map writeField) := rfl
    rw [hjoin] at h ⊢
    by_cases hempty : writeField f = [] ∧ r = ⟨rows, fields, [], .startRecord⟩
    · -- 行の先頭の空の欄。区切りがそのまま欄を閉じる
      obtain ⟨hnil, rfl⟩ := hempty
      have hf : f = [] := by
        unfold writeField at hnil
        split at hnil
        · cases hnil
        · exact hnil
      subst hf
      have hcomma : Reader.step ⟨rows, fields, [], .startRecord⟩ ',' =
          ⟨rows, fields ++ [[]], [], .startField⟩ := rfl
      rw [hnil, List.nil_append, List.cons_append, Run.exec_cons, hcomma,
        scan_fields row f' (.inl rfl), ← List.append_cons]
    · have hstart : Starts r rows fields (writeField f) := by
        rcases h with h | ⟨h, -⟩
        · exact .inl h
        · exact .inr ⟨h, fun hnil => hempty ⟨hnil, h⟩⟩
      have hready := scan_field f hstart
      rw [List.append_assoc, Run.exec_append, List.cons_append, Run.exec_cons, hready.comma,
        scan_fields row f' (.inl rfl), ← List.append_cons]

/-- **行の往復。** -/
theorem scan_row (row : List (List Char)) :
    Run.exec Reader.step ⟨rows, [], [], .startRecord⟩ (writeRow row) =
      ⟨rows ++ [row], [], [], .startRecord⟩ := by
  unfold writeRow
  by_cases hsingle : row = [[]]
  · subst hsingle
    rfl
  · rw [if_neg hsingle]
    cases row with
    | nil => rfl
    | cons f row =>
      refine scan_fields row f (.inr ⟨rfl, fun hnil => hsingle ?_⟩)
      -- 欄が二つあれば区切りが残るので、空なのは空の欄一つだけである
      cases row with
      | nil =>
        have hf : writeField f = [] := hnil
        unfold writeField at hf
        split at hf
        · cases hf
        · rw [hf]
      | cons f' row => exact absurd hnil (List.append_ne_nil_of_right_ne_nil _ (List.cons_ne_nil _ _))

theorem scan_write : ∀ (table rows : List (List (List Char))),
    Run.exec Reader.step ⟨rows, [], [], .startRecord⟩ (write table) =
      ⟨rows ++ table, [], [], .startRecord⟩
  | [], rows => by rw [List.append_nil]; rfl
  | row :: table, rows => by
    have hcons : write (row :: table) = writeRow row ++ write table := rfl
    rw [hcons, Run.exec_append, scan_row, scan_write table, ← List.append_cons]

/-- **表の往復。** 欄がどんな文字を含んでいても、書いた表はそのまま読み戻せる。 -/
theorem read_write (table : List (List (List Char))) : read (write table) = table := by
  have h := scan_write table []
  unfold read
  rw [show ({} : Reader) = ⟨[], [], [], .startRecord⟩ from rfl, h]
  rfl

end CipherPost.Csv
