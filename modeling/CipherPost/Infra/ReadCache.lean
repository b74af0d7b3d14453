import CipherPost.Infra.Run

/-!
# 読んだ値を使い回す cache

元の値は他の事象で変わっていき、読む側は一度読んだ値をしばらく使い回す。使い回すかは、読んだ時刻と今から決まる。
読めないときの値は、あってもなくてもよく、あれば同じように使い回される。元が何かも、読むものが何かも問わない。

* `ReadCache` — 読み方
* `ReadCache.State.step` — 元の変化と読み出しの列
* `ReadCache.loaded_of_run` — 使う値は、実行のどこかで読まれたものである
* `ReadCache.writes` — 元の変化だけを残した列
* `ReadCache.settled` — 元が変わらなくなり、それより前に読んだものの期限が過ぎれば、使う値は今の元のものである
-/

namespace CipherPost

/-- 使い回す cache。`keeps t now` は、`t` に読んだ値を `now` に使い回すことである。 -/
structure ReadCache (σ α : Type) where
  keeps : Nat → Nat → Bool
  load : σ → Nat → α
  /-- 読めないときの値。 -/
  fallback : Option α

namespace ReadCache

variable {σ ε α : Type}

/-- 元を読む。`up` は元に届くことである。 -/
def fetch (p : ReadCache σ α) (now : Nat) (up : Bool) (source : σ) : Option α :=
  if up then some (p.load source now) else p.fallback

/-- 読み直す。読めなければ、前の値を残す。 -/
def reload (p : ReadCache σ α) (now : Nat) (up : Bool) (source : σ) (entry : Option (Nat × α)) :
    Option (Nat × α) × Option α :=
  match p.fetch now up source with
  | some v => (some (now, v), some v)
  | none => (entry, none)

/-- 読み出し。次の中身と、使う値である。 -/
def read (p : ReadCache σ α) (now : Nat) (up : Bool) (source : σ) (entry : Option (Nat × α)) :
    Option (Nat × α) × Option α :=
  match entry with
  | some (t, v) => if p.keeps t now then (entry, some v) else p.reload now up source entry
  | none => p.reload now up source entry

/-- 元の変化と、読み出し。 -/
inductive Event (ε : Type) where
  | write (e : ε)
  | read (now : Nat) (up : Bool)

/-- 元と、cache の中身。 -/
structure State (σ α : Type) where
  source : σ
  entry : Option (Nat × α) := none

/-- 事象一つの後の状態。 -/
def State.step (write : σ → ε → σ) (p : ReadCache σ α) (s : State σ α) : Event ε → State σ α
  | .write e => { s with source := write s.source e }
  | .read now up => { s with entry := (p.read now up s.source s.entry).1 }

variable {write : σ → ε → σ} {p : ReadCache σ α}

/-- 使う値は、使い回したものか、今読んだものである。 -/
theorem of_read {now : Nat} {up : Bool} {source : σ} {entry : Option (Nat × α)} {v : α}
    (h : (p.read now up source entry).2 = some v) :
    (∃ t, entry = some (t, v) ∧ p.keeps t now = true) ∨ p.fetch now up source = some v := by
  have hreload : ∀ {e : Option (Nat × α)}, (p.reload now up source e).2 = some v →
      p.fetch now up source = some v := by
    intro e h
    unfold reload at h
    split at h
    · next hf => rw [hf]; exact h
    · cases h
  unfold read at h
  split at h
  · next t v' =>
    split at h
    · next hk =>
      cases Option.some.inj h
      exact .inl ⟨t, rfl, hk⟩
    · exact .inr (hreload h)
  · exact .inr (hreload h)

/-- 次の中身は、前の中身か、今読んだものである。 -/
theorem of_entry_read {now : Nat} {up : Bool} {source : σ} {entry : Option (Nat × α)} {t : Nat}
    {v : α} (h : (p.read now up source entry).1 = some (t, v)) :
    entry = some (t, v) ∨ (t = now ∧ p.fetch now up source = some v) := by
  have hreload : ∀ {e : Option (Nat × α)}, (p.reload now up source e).1 = some (t, v) →
      e = some (t, v) ∨ (t = now ∧ p.fetch now up source = some v) := by
    intro e h
    unfold reload at h
    split at h
    · next hf =>
      cases Option.some.inj h
      exact .inr ⟨rfl, hf⟩
    · exact .inl h
  unfold read at h
  split at h
  · split at h
    · exact .inl h
    · exact hreload h
  · exact hreload h

/-- `t` に、`s` からの実行のどこかで読まれた値である。 -/
def Loaded (write : σ → ε → σ) (p : ReadCache σ α) (s : State σ α) (es : List (Event ε)) (t : Nat)
    (v : α) : Prop :=
  ∃ pre up, pre ++ [.read t up] <+: es ∧
    p.fetch t up (Run.exec (State.step write p) s pre).source = some v

/-- **使う値の由来。** 空から始めれば、cache の中身は実行のどこかで読まれたものである。 -/
theorem loaded_of_run {source : σ} (es : List (Event ε)) {t : Nat} {v : α}
    (h : (Run.exec (State.step write p) ⟨source, none⟩ es).entry = some (t, v)) :
    Loaded write p ⟨source, none⟩ es t v := by
  refine Run.history (I := fun es (s : State σ α) => ∀ t v, s.entry = some (t, v) →
    Loaded write p ⟨source, none⟩ es t v) (s := ⟨source, none⟩) ?_ ?_ es t v h
  · exact fun t v h => nomatch h
  · intro pre e ih t v h
    have hmono : Loaded write p ⟨source, none⟩ pre t v →
        Loaded write p ⟨source, none⟩ (pre ++ [e]) t v := by
      rintro ⟨a, up, ha, hf⟩
      exact ⟨a, up, ha.trans (List.prefix_append _ _), hf⟩
    cases e with
    | write e => exact hmono (ih t v h)
    | read now up =>
      rcases of_entry_read h with h | ⟨rfl, hf⟩
      · exact hmono (ih t v h)
      · exact ⟨pre, up, List.prefix_rfl, hf⟩

/-- 二つに分けた列の途中の一歩は、前の列にあるか、後の列にある。 -/
theorem concat_isPrefix_append {ε : Type} {pre early late : List ε} {x : ε}
    (h : pre ++ [x] <+: early ++ late) :
    pre ++ [x] <+: early ∨ ∃ mid, pre = early ++ mid ∧ mid ++ [x] <+: late := by
  obtain ⟨rest, hrest⟩ := h
  rcases List.append_eq_append_iff.mp hrest with ⟨a, hearly, -⟩ | ⟨c, hpre, hlate⟩
  · exact .inl ⟨a, hearly.symm⟩
  · rcases List.eq_nil_or_concat c with rfl | ⟨mid, y, rfl⟩
    · rw [List.append_nil] at hpre
      exact .inl (hpre ▸ List.prefix_rfl)
    · rw [List.concat_eq_append, ← List.append_assoc] at hpre
      obtain ⟨hmid, hy⟩ := List.append_inj' hpre rfl
      rw [List.singleton_inj.mp hy]
      exact .inr ⟨mid, hmid, rest, by rw [hlate, List.concat_eq_append]⟩

/-- 元の変化だけを残した列。 -/
def writes : List (Event ε) → List ε
  | [] => []
  | .write e :: es => e :: writes es
  | .read _ _ :: es => writes es

theorem writes_append : ∀ es fs : List (Event ε), writes (es ++ fs) = writes es ++ writes fs
  | [], _ => rfl
  | .write e :: es, fs => congrArg (e :: ·) (writes_append es fs)
  | .read _ _ :: es, fs => writes_append es fs

theorem mem_writes {e : ε} : ∀ {es : List (Event ε)}, e ∈ writes es ↔ .write e ∈ es
  | [] => by simp [writes]
  | .write e' :: es => by
    have ih : e ∈ writes es ↔ .write e ∈ es := mem_writes
    simp [writes, ih]
  | .read _ _ :: es => by
    have ih : e ∈ writes es ↔ .write e ∈ es := mem_writes
    simp [writes, ih]

/-- 元は、読み出しでは変わらない。 -/
theorem source_exec : ∀ (es : List (Event ε)) (s : State σ α),
    (Run.exec (State.step write p) s es).source = Run.exec write s.source (writes es)
  | [], _ => rfl
  | .write e :: es, s => source_exec es (s.step write p (.write e))
  | .read now up :: es, s => source_exec es (s.step write p (.read now up))

/-- 元に届けば、使う値がある。 -/
theorem exists_read (now : Nat) (source : σ) (entry : Option (Nat × α)) :
    ∃ v, (p.read now true source entry).2 = some v := by
  have hreload : ∃ v, (p.reload now true source entry).2 = some v := ⟨p.load source now, rfl⟩
  unfold read
  split
  · next t v =>
    split
    · exact ⟨v, rfl⟩
    · exact hreload
  · exact hreload

/--
**読み出しの落ち着き。** `late` の間は元から読めるものが変わらず、いつも元に届き、`early` で読んだものの期限は過ぎて
いるなら、使う値は、`late` か今に読んだ、今の元の値である。
-/
theorem settled {source : σ} {early late : List (Event ε)} {now : Nat}
    (hearly : ∀ t up, .read t up ∈ early → p.keeps t now = false)
    (hup : ∀ t up, .read t up ∈ late → up = true)
    (hstable : ∀ pre, pre <+: late → ∀ t,
      p.load (Run.exec write source (writes (early ++ pre))) t =
        p.load (Run.exec write source (writes (early ++ late))) t) :
    ∃ t, (t = now ∨ .read t true ∈ late) ∧
      (p.read now true (Run.exec write source (writes (early ++ late)))
        (Run.exec (State.step write p) ⟨source, none⟩ (early ++ late)).entry).2 =
        some (p.load (Run.exec write source (writes (early ++ late))) t) := by
  obtain ⟨v, hv⟩ := exists_read (p := p) now (Run.exec write source (writes (early ++ late)))
    (Run.exec (State.step write p) ⟨source, none⟩ (early ++ late)).entry
  rw [hv]
  rcases of_read hv with ⟨t, hentry, hkeeps⟩ | hfetch
  · obtain ⟨pre, up, hpre, hf⟩ := loaded_of_run _ hentry
    rcases concat_isPrefix_append hpre with hin | ⟨mid, rfl, hin⟩
    · -- 前に読んだものの期限は過ぎている
      have hmem : Event.read t up ∈ early :=
        hin.subset (List.mem_append_right _ (List.mem_singleton_self _))
      rw [hearly t up hmem] at hkeeps
      cases hkeeps
    · have hmem : Event.read t up ∈ late :=
        hin.subset (List.mem_append_right _ (List.mem_singleton_self _))
      cases hup t up hmem
      refine ⟨t, .inr hmem, ?_⟩
      rw [← hstable mid ((List.prefix_append _ _).trans hin) t, ← hf, source_exec]
      rfl
  · exact ⟨now, .inl rfl, hfetch.symm⟩

end ReadCache

end CipherPost
