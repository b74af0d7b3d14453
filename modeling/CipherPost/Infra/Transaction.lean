import Mathlib.Data.List.Basic

/-!
# transaction

書き込みと commit の列を、途中で例外になりうる transaction として実行する。例外の後は rollback され、
最後の commit より後の書き込みは残らない。何の database かは問わない。

* `Transaction.run` — 列の実行。durable な値と、開いた transaction の値を持つ
* `Transaction.stored_writes` — commit までは何も残らない
* `Transaction.stored_take` — 途中で止まった列に残るのは、前の commit までの分である
-/

namespace CipherPost.Transaction

variable {σ : Type}

/-- transaction の命令。 -/
inductive Command (σ : Type) where
  | write (f : σ → σ)
  | commit

/-- durable な値と、開いた transaction から見える値。 -/
structure View (σ : Type) where
  stored : σ
  working : σ

/-- 命令一つ。 -/
def step (v : View σ) : Command σ → View σ
  | .write f => { v with working := f v.working }
  | .commit => ⟨v.working, v.working⟩

/-- `db` の上で列を実行する。 -/
def run (is : List (Command σ)) (db : σ) : View σ := is.foldl step ⟨db, db⟩

theorem run_append (is js : List (Command σ)) (db : σ) :
    run (is ++ js) db = js.foldl step (run is db) := List.foldl_append

theorem foldl_writes (fs : List (σ → σ)) : ∀ v : View σ,
    (fs.map Command.write).foldl step v = ⟨v.stored, fs.foldl (fun s f => f s) v.working⟩ := by
  induction fs with
  | nil => exact fun v => rfl
  | cons f fs ih => exact fun v => ih _

/-- commit までの書き込みは残らない。 -/
theorem stored_writes (is : List (Command σ)) (fs : List (σ → σ)) (db : σ) :
    (run (is ++ fs.map Command.write) db).stored = (run is db).stored := by
  rw [run_append, foldl_writes]

/-- 途中で止まった列に残るのは、書き込みの前の列の分だけである。 -/
theorem stored_take (is : List (Command σ)) (fs : List (σ → σ)) (n : Nat) (db : σ) :
    (run ((is ++ fs.map Command.write).take n) db).stored = (run (is.take n) db).stored := by
  rw [List.take_append, ← List.map_take, stored_writes]

/-- commit まで進んだ列は、すべての書き込みを残す。 -/
theorem stored_commit (is : List (Command σ)) (fs : List (σ → σ)) (db : σ) :
    (run (is ++ fs.map Command.write ++ [.commit]) db).stored =
      fs.foldl (fun s f => f s) (run is db).working := by
  rw [run_append, run_append, foldl_writes]
  rfl

end CipherPost.Transaction
