/-!
# 5-tuple の文字列

`app/parsing/reassembly.py` の `split_five_tuple`。`client:port->server:port` の形を分け、
形が崩れていれば空の組を返す。文字列は文字の列として扱う。

* `partition`・`rpartition` — Python の `str.partition`・`str.rpartition`
* `isSpace` — `c.isspace()`
* `pyInt` — `int(s)`（十進の数字、符号、数字の間の `_`、前後の空白）
* `splitFiveTuple` — `split_five_tuple`
-/

namespace CipherPost.Parsing

/-- `s.partition(sep)`。`sep` が無ければ `none`。 -/
def partition (sep : List Char) : List Char → Option (List Char × List Char)
  | [] => none
  | c :: l =>
    if sep.isPrefixOf (c :: l) then some ([], (c :: l).drop sep.length)
    else (partition sep l).map fun p => (c :: p.1, p.2)

/-- `s.rpartition(c)`。`c` が無ければ前半は空で、後半が `s` になる。 -/
def rpartition (c : Char) (s : List Char) : List Char × List Char :=
  go s |>.getD ([], s)
where
  go : List Char → Option (List Char × List Char)
    | [] => none
    | x :: l =>
      match go l with
      | some p => some (x :: p.1, p.2)
      | none => if x = c then some ([], l) else none

/-- `int` が前後から落とす ASCII の空白。 -/
def isIntSpace (c : Char) : Bool := c = ' ' || (0x09 ≤ c.toNat && c.toNat ≤ 0x0D)

/-- `c.isspace()`。`str.strip` が前後から落とす空白である。 -/
def isSpace (c : Char) : Bool :=
  isIntSpace c || (0x1C ≤ c.toNat && c.toNat ≤ 0x1F) || (0x2000 ≤ c.toNat && c.toNat ≤ 0x200A) ||
    decide (c.toNat ∈ [0x85, 0xA0, 0x1680, 0x2028, 0x2029, 0x202F, 0x205F, 0x3000])

/-- 十進の数字の並びの、`0` の code point。 -/
def DIGIT_ZEROS : List Nat :=
  [0x660, 0x6F0, 0x7C0, 0x966, 0x9E6, 0xA66, 0xAE6, 0xB66, 0xBE6, 0xC66, 0xCE6, 0xD66, 0xDE6, 0xE50,
    0xED0, 0xF20, 0x1040, 0x1090, 0x17E0, 0x1810, 0x1946, 0x19D0, 0x1A80, 0x1A90, 0x1B50, 0x1BB0,
    0x1C40, 0x1C50, 0xA620, 0xA8D0, 0xA900, 0xA9D0, 0xA9F0, 0xAA50, 0xABF0, 0xFF10, 0x104A0, 0x10D30,
    0x11066, 0x110F0, 0x11136, 0x111D0, 0x112F0, 0x11450, 0x114D0, 0x11650, 0x116C0, 0x11730,
    0x118E0, 0x11950, 0x11C50, 0x11D50, 0x11DA0, 0x16A60, 0x16AC0, 0x16B50, 0x1D7CE, 0x1D7D8,
    0x1D7E2, 0x1D7EC, 0x1D7F6, 0x1E140, 0x1E2F0, 0x1E950, 0x1FBF0]

/-- `int` が読む前に、ASCII でない数字と空白を ASCII にする。 -/
def asciiDecimal (c : Char) : Char :=
  if c.toNat < 0x80 then c
  else if isSpace c then ' '
  else match DIGIT_ZEROS.find? fun z => decide (z ≤ c.toNat ∧ c.toNat < z + 10) with
    | some z => Char.ofNat (0x30 + (c.toNat - z))
    | none => '?'

/-- 数字の列。`_` は数字と数字の間にだけ置ける。 -/
def digits (acc : Nat) : List Char → Option Nat
  | [] => some acc
  | '_' :: d :: l =>
    if d.isDigit then digits (acc * 10 + (d.toNat - '0'.toNat)) l else none
  | d :: l => if d.isDigit then digits (acc * 10 + (d.toNat - '0'.toNat)) l else none

/-- 符号の無い整数。 -/
def pyNat : List Char → Option Nat
  | [] => none
  | d :: l => if d.isDigit then digits (d.toNat - '0'.toNat) l else none

/-- `int(s)`。`none` は ValueError。桁数の上限は見ない。 -/
def pyInt (s : List Char) : Option Int :=
  let s := s.map asciiDecimal
  match ((s.dropWhile isIntSpace).reverse.dropWhile isIntSpace).reverse with
  | '-' :: l => (pyNat l).map fun n => -(n : Int)
  | '+' :: l => (pyNat l).map fun n => (n : Int)
  | l => (pyNat l).map fun n => (n : Int)

/-- `split_five_tuple` の返り値。 -/
structure FiveTuple where
  client : List Char
  clientPort : Int
  server : List Char
  serverPort : Int
  deriving Repr, DecidableEq

/-- `split_five_tuple`。port が数でなければ空の組を返す。 -/
def splitFiveTuple (s : List Char) : FiveTuple :=
  let (left, right) :=
    match partition ['-', '>'] s with
    | some p => p
    | none => (partition ['-'] s).getD (s, [])
  let (cIp, cPort) := rpartition ':' left
  let (sIp, sPort) := rpartition ':' right
  match pyInt cPort, pyInt sPort with
  | some cp, some sp => ⟨cIp, cp, sIp.dropWhile (· = '>'), sp⟩
  | _, _ => ⟨[], 0, [], 0⟩

example : (splitFiveTuple "10.0.0.1:40000->10.0.0.2:25".toList).server = "10.0.0.2".toList := by
  decide

end CipherPost.Parsing
