import CipherPost.Infra.Dict

/-!
# JSON の値

Python の dict・list・数・文字列として読まれた JSON の値。dict は key と値の対の列で、代入は
`DictList.set` である。`json.loads(json.dumps(v))` はこの形の値を変えないので、text は持たない。

* `Json.get?` — `d.get(k)`
* `Json.set` — `d[k] = v`
* `Json.truthy` — `bool(v)`
-/

namespace CipherPost

/-- JSON の値。 -/
inductive Json where
  | null
  | bool (b : Bool)
  | int (n : Int)
  | float (x : Rat)
  | str (s : String)
  | arr (items : List Json)
  | obj (fields : List (String × Json))

namespace Json

/-- `d.get(k)`。dict でなければ無い。 -/
def get? (j : Json) (k : String) : Option Json :=
  match j with
  | obj fields => DictList.get? k fields
  | _ => none

/-- `d[k] = v`。 -/
def set (j : Json) (k : String) (v : Json) : Json :=
  match j with
  | obj fields => obj (DictList.set k v fields)
  | j => j

/-- `bool(v)`。 -/
def truthy : Json → Bool
  | null => false
  | bool b => b
  | int n => decide (n ≠ 0)
  | float x => decide (x ≠ 0)
  | str s => decide (s ≠ "")
  | arr items => !items.isEmpty
  | obj fields => !fields.isEmpty

/-- `isinstance(v, dict)`。 -/
def isObj : Json → Bool
  | obj _ => true
  | _ => false

/-- `for x in v` が回る要素。回れなければ無い。 -/
def iter? : Json → Option (List Json)
  | arr items => some items
  | str s => some (s.toList.map fun c => str (String.ofList [c]))
  | obj fields => some (fields.map fun f => str f.1)
  | _ => none

/-- 文字列の値。 -/
def str? : Json → Option String
  | str s => some s
  | _ => none

/-- 負でない整数の値。 -/
def nat? : Json → Option Nat
  | int n => if 0 ≤ n then some n.toNat else none
  | _ => none

/-- 真偽の値。 -/
def bool? : Json → Option Bool
  | bool b => some b
  | _ => none

/-- 小数の値。 -/
def float? : Json → Option Rat
  | float x => some x
  | _ => none

/-- `None` になりうる文字列。 -/
def ofString? : Option String → Json
  | none => null
  | some s => str s

/-- `None` になりうる整数。 -/
def ofNat? : Option Nat → Json
  | none => null
  | some n => int n

@[simp] theorem nat?_int (n : Nat) : (int n).nat? = some n := by
  simp [nat?]

theorem get?_set_obj (fields : List (String × Json)) (k : String) (v : Json) (k' : String) :
    ((obj fields).set k v).get? k' = if k = k' then some v else (obj fields).get? k' :=
  DictList.get?_set k v k' fields

theorem get?_set_of_ne {k k' : String} (h : k ≠ k') (j v : Json) :
    (j.set k v).get? k' = j.get? k' := by
  cases j with
  | obj fields => rw [get?_set_obj, if_neg h]
  | null => rfl
  | bool b => rfl
  | int n => rfl
  | float x => rfl
  | str s => rfl
  | arr items => rfl

end Json

end CipherPost
