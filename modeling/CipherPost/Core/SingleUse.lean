import CipherPost.Infra.Run
import CipherPost.Core.Auth

/-!
# ticket の使い捨ての run

`consume_mfa_ticket` と `consume_sse_ticket` は、使った jti をその時の Redis の様子によって Redis か
process の集合に記し、同じ方だけを見る。一つの ticket が二度受け入れられるかを、run に沿って調べる。

* `Tickets`・`Tickets.step` — 二つの口が記す先と、試み一つ
* `SingleUse` — 受け入れた ticket は、二度と受け入れない
* `Recorded` — 受け入れたことが、試みる時に見る方に記されている
* `singleUse_iff` — `SingleUse` であるのは、受け入れた ticket のどの試みでも `Recorded` のとき
-/

namespace CipherPost.Core

/-- ticket の種類。 -/
inductive TicketKind where
  | mfa
  | sse
  deriving Repr, DecidableEq

namespace TicketKind

/-- 種類ごとの `scope`。 -/
def scope : TicketKind → String
  | mfa => "mfa-verify"
  | sse => "live:read"

/-- 種類ごとの寿命。 -/
def ttl : TicketKind → Nat
  | mfa => mfaTicketTtl
  | sse => sseTicketTtl

/-- `create_mfa_ticket` と `create_sse_ticket` が作る payload。 -/
def Creates : TicketKind → Claims → Prop
  | mfa, c => ∃ now hex hex' sub org, c = createMfaTicket now hex hex' sub org
  | sse, c => ∃ now hex hex' sub org role, c = createSseTicket now hex hex' sub org role

end TicketKind

/-- `_used_mfa_tickets` と `_used_sse_tickets`、Redis の `mfa-ticket:` と `sse-ticket:` の key。 -/
structure Tickets where
  mfa : UsedTickets := {}
  sse : UsedTickets := {}
  deriving DecidableEq

/-- ticket を使う試み。 -/
structure Attempt (Tok : Type) where
  kind : TicketKind
  now : Nat
  redisUp : Bool
  token : Tok

namespace Tickets

/-- 種類ごとの記録。 -/
def used (s : Tickets) : TicketKind → UsedTickets
  | .mfa => s.mfa
  | .sse => s.sse

/-- 種類ごとの記録を書く。 -/
def setUsed (s : Tickets) (kind : TicketKind) (used : UsedTickets) : Tickets :=
  match kind with
  | .mfa => { s with mfa := used }
  | .sse => { s with sse := used }

@[simp] theorem used_setUsed (s : Tickets) (kind : TicketKind) (u : UsedTickets) :
    (s.setUsed kind u).used kind = u := by cases kind <;> rfl

theorem used_setUsed_of_ne (s : Tickets) {kind kind' : TicketKind} (u : UsedTickets)
    (h : kind' ≠ kind) : (s.setUsed kind u).used kind' = s.used kind' := by
  cases kind <;> cases kind' <;> first | rfl | exact absurd rfl h

variable {Tok : Type} (jwt : Jwt Tok)

/-- `consume_mfa_ticket` か `consume_sse_ticket`。 -/
def consume (s : Tickets) (a : Attempt Tok) : Option (Claims × UsedTickets) :=
  match a.kind with
  | .mfa => consumeMfaTicket jwt s.mfa a.now a.redisUp a.token
  | .sse => consumeSseTicket jwt s.sse a.now a.redisUp a.token

/-- 試み一つの後の記録。 -/
def step (s : Tickets) (a : Attempt Tok) : Tickets :=
  match s.consume jwt a with
  | none => s
  | some (_, used) => s.setUsed a.kind used

/-- 試みは受け入れられる。 -/
def Accepts (s : Tickets) (a : Attempt Tok) : Prop := (s.consume jwt a).isSome

instance (s : Tickets) (a : Attempt Tok) : Decidable (Accepts jwt s a) :=
  inferInstanceAs (Decidable (_ = true))

/-- jti を使ったことが、いま見る方に記されている。 -/
def Burnt (s : Tickets) (kind : TicketKind) (now : Nat) (redisUp : Bool) (jti : String) : Prop :=
  if redisUp then ∃ expires, (s.used kind).redis.get? jti = some expires ∧ now < expires
  else jti ∈ (s.used kind).memory

/-- 受け入れられる試みは、記されていない jti の、期限の内にある ticket のものである。 -/
theorem consume_eq (s : Tickets) (a : Attempt Tok) : s.consume jwt a =
    consumeTicket jwt a.kind.scope a.kind.ttl (s.used a.kind) a.now a.redisUp a.token := by
  unfold consume
  cases a.kind <;> rfl

end Tickets

/-- 記されている jti だけが、使えない。 -/
theorem UsedTickets.burn_eq_none_iff (used : UsedTickets) (ttl now : Nat) (redisUp : Bool)
    (jti : String) : used.burn ttl now redisUp jti = none ↔
      if redisUp then ∃ expires, used.redis.get? jti = some expires ∧ now < expires
      else jti ∈ used.memory := by
  unfold burn
  cases redisUp with
  | false => simp
  | true =>
    cases hget : used.redis.get? jti with
    | none => simp
    | some expires => simp

/-- 使った jti は、その時に見た方に記される。 -/
theorem UsedTickets.burn_eq_some {used used' : UsedTickets} {ttl now : Nat} {redisUp : Bool}
    {jti : String} (h : used.burn ttl now redisUp jti = some used') : used' =
      if redisUp then { used with redis := used.redis.set jti (now + ttl) }
      else { used with memory := Revocations.remember used.memory jti } := by
  unfold burn at h
  cases redisUp with
  | false =>
    simp only [Bool.false_eq_true, if_false] at h ⊢
    split at h
    · cases h
    · exact (Option.some.inj h).symm
  | true =>
    simp only [if_true] at h ⊢
    repeat' split at h
    all_goals first | exact (Option.some.inj h).symm | cases h

namespace Tickets

variable {Tok : Type} (jwt : Jwt Tok)

/-! ## 記すことと、見えること -/

/-- 種類 `kind` の jti を、Redis の様子 `redisUp` の下で使う。 -/
def Uses (kind : TicketKind) (jti : String) (redisUp : Bool) (s : Tickets) (a : Attempt Tok) : Prop :=
  a.kind = kind ∧ a.redisUp = redisUp ∧ Accepts jwt s a ∧
    ∃ c, jwt.verify a.token = some c ∧ c.jti.getD "" = jti

/-- `jti` を使い、`now` より後まで残るものとして Redis に記す。 -/
def SharesUse (kind : TicketKind) (jti : String) (now : Nat) (s : Tickets) (a : Attempt Tok) : Prop :=
  Uses jwt kind jti true s a ∧ now < a.now + kind.ttl

/-- 他の jti を使って process の集合があふれ、`jti` を失う。 -/
def ForgetsUse (kind : TicketKind) (jti : String) (s : Tickets) (a : Attempt Tok) : Prop :=
  ∃ jti', jti' ≠ jti ∧ Uses jwt kind jti' false s a ∧
    Revocations.Overflows (s.used kind).memory jti'

/--
使ったことが、試みる時に見る方に記されている。Redis が動いていれば、動いている間に使われて残っているか、
止まっていれば、止まっている間に使われて集合があふれていない。
-/
def Recorded (s : Tickets) (pre : List (Attempt Tok)) (a : Attempt Tok) (jti : String) : Prop :=
  if a.redisUp then Run.Once (step jwt) (SharesUse jwt a.kind jti a.now) s pre
  else Run.Since (step jwt) (Uses jwt a.kind jti false) (ForgetsUse jwt a.kind jti) s pre

/-- 前に受け入れられた ticket を、また出す。 -/
def Reuses (s : Tickets) (pre : List (Attempt Tok)) (a : Attempt Tok) (c : Claims) : Prop :=
  jwt.verify a.token = some c ∧ (∃ kind : TicketKind, kind.Creates c) ∧
    Run.Once (step jwt) (fun s b => Accepts jwt s b ∧ jwt.verify b.token = some c) s pre

/-- 受け入れた ticket は、二度と受け入れない。 -/
def SingleUse (s : Tickets) (evs : List (Attempt Tok)) : Prop :=
  ∀ pre a c, pre ++ [a] <+: evs → Reuses jwt s pre a c → ¬Accepts jwt (Run.exec (step jwt) s pre) a

/-- 使ったかどうかを除いた、ticket が受け入れられる条件。 -/
def Usable (a : Attempt Tok) (c : Claims) : Prop :=
  c.scope = some a.kind.scope ∧ c.jti.getD "" ≠ "" ∧ c.iat ≤ a.now ∧ a.now < c.exp

variable {jwt} {s : Tickets} {a : Attempt Tok} {kind : TicketKind} {jti : String} {now : Nat}

/-! ## 試み一つ -/

/-- 署名の正しい ticket が受け入れられるのは、条件を満たし、記されていないときである。 -/
theorem accepts_iff {c : Claims} (hverify : jwt.verify a.token = some c) :
    Accepts jwt s a ↔ Usable a c ∧ ¬Burnt s a.kind a.now a.redisUp (c.jti.getD "") := by
  unfold Accepts Burnt Usable
  rw [consume_eq, ← UsedTickets.burn_eq_none_iff _ a.kind.ttl]
  unfold consumeTicket decodeToken
  rw [hverify]
  by_cases hlive : c.iat ≤ a.now ∧ a.now < c.exp
  · by_cases hscope : c.scope = some a.kind.scope
    · by_cases hjti : c.jti.getD "" = ""
      · simp [Option.filter, hlive, hscope, hjti]
      · cases hburn : (s.used a.kind).burn a.kind.ttl a.now a.redisUp (c.jti.getD "") with
        | none => simp [Option.filter, hlive, hscope, hjti, hburn]
        | some used => simp [Option.filter, hlive, hscope, hjti, hburn]
    · simp [Option.filter, hlive, hscope]
  · simp only [Option.filter, hlive, decide_false]
    simp

theorem used_step_of_accepts (h : Accepts jwt s a) {c : Claims}
    (hverify : jwt.verify a.token = some c) : (s.step jwt a).used a.kind =
      if a.redisUp then
        { s.used a.kind with
          redis := (s.used a.kind).redis.set (c.jti.getD "") (a.now + a.kind.ttl) }
      else { s.used a.kind with
          memory := Revocations.remember (s.used a.kind).memory (c.jti.getD "") } := by
  obtain ⟨⟨c', used'⟩, hconsume⟩ := Option.isSome_iff_exists.mp h
  have hstep : s.step jwt a = s.setUsed a.kind used' := by
    unfold step
    rw [hconsume]
  rw [hstep, used_setUsed]
  rw [consume_eq] at hconsume
  obtain ⟨hd, -, hburn⟩ := of_consumeTicket jwt hconsume
  cases hverify.symm.trans ((decodeToken_eq_some jwt).mp hd).1
  exact UsedTickets.burn_eq_some hburn

/-- 受け入れられない試みと、別の種類の試みは、記録を変えない。 -/
theorem used_step_of_not (h : ¬(a.kind = kind ∧ Accepts jwt s a)) :
    (s.step jwt a).used kind = s.used kind := by
  unfold Accepts at h
  unfold step
  cases hconsume : s.consume jwt a with
  | none => rfl
  | some r =>
    refine used_setUsed_of_ne s r.2 fun heq => h ⟨heq.symm, ?_⟩
    rw [hconsume]
    rfl

/-- 受け入れられた試みの token は、署名が正しい。 -/
theorem Accepts.verify (h : Accepts jwt s a) : ∃ c, jwt.verify a.token = some c := by
  obtain ⟨⟨c, used⟩, hconsume⟩ := Option.isSome_iff_exists.mp h
  rw [consume_eq] at hconsume
  exact ⟨c, ((decodeToken_eq_some jwt).mp (of_consumeTicket jwt hconsume).1).1⟩

/-- Redis の記録は、使う度に延びるだけである。 -/
theorem burnt_shared_step : Burnt (s.step jwt a) kind now true jti ↔
    SharesUse jwt kind jti now s a ∨ Burnt s kind now true jti := by
  unfold SharesUse Uses
  by_cases h : a.kind = kind ∧ Accepts jwt s a
  · obtain ⟨rfl, hacc⟩ := h
    obtain ⟨c, hverify⟩ := hacc.verify
    have hfree := ((accepts_iff hverify).mp hacc).2
    simp only [Burnt, if_true]
    rw [used_step_of_accepts hacc hverify]
    cases hup : a.redisUp with
    | false => simp
    | true =>
      by_cases heq : c.jti.getD "" = jti
      · subst heq
        -- 前の記録は切れているので、`now` より後まで残るなら、書いた記録も残る
        simp only [Burnt, hup, if_true, not_exists, not_and, Nat.not_lt] at hfree
        simp only [if_true, Dict.get?_set_self, Option.some.injEq, exists_eq_left', hacc, hverify,
          true_and, and_true]
        refine ⟨.inl, ?_⟩
        rintro (h | ⟨expires, hget, hlt⟩)
        · exact h
        · have := hfree expires hget
          omega
      · simp [Dict.get?_set_of_ne _ _ heq, hacc, hverify, heq]
  · simp only [Burnt, if_true, used_step_of_not h]
    tauto

theorem burnt_local_step : Burnt (s.step jwt a) kind now false jti ↔
    Uses jwt kind jti false s a ∨ (Burnt s kind now false jti ∧ ¬ForgetsUse jwt kind jti s a) := by
  unfold ForgetsUse Uses
  by_cases h : a.kind = kind ∧ Accepts jwt s a
  · obtain ⟨rfl, hacc⟩ := h
    obtain ⟨c, hverify⟩ := hacc.verify
    simp only [Burnt, Bool.false_eq_true, if_false]
    rw [used_step_of_accepts hacc hverify]
    cases hup : a.redisUp with
    | true => simp
    | false =>
      simp only [Bool.false_eq_true, if_false, Revocations.mem_remember_iff]
      by_cases heq : c.jti.getD "" = jti
      · simp [hacc, hverify, heq]
      · simp [hacc, hverify, heq, Ne.symm heq]
  · simp only [Burnt, Bool.false_eq_true, if_false, used_step_of_not h]
    tauto

/-! ## run -/

/-- 何も使っていない process からの run の後、見る方に記されているのは `Recorded` のときである。 -/
theorem burnt_exec (jwt : Jwt Tok) (pre : List (Attempt Tok)) (a : Attempt Tok) (jti : String) :
    Burnt (Run.exec (step jwt) {} pre) a.kind a.now a.redisUp jti ↔ Recorded jwt {} pre a jti := by
  unfold Recorded
  cases a.redisUp with
  | true =>
    refine Run.once_iff (R := fun s => Burnt s a.kind a.now true jti) ?_
      (fun s b => burnt_shared_step) pre
    cases a.kind <;> simp [Burnt, used]
  | false =>
    refine Run.since_iff (I := fun _ => True) (R := fun s => Burnt s a.kind a.now false jti) trivial
      (fun _ _ _ => trivial) ?_ (fun s b _ => burnt_local_step) pre
    cases a.kind <;> simp [Burnt, used]

/-- 作られた ticket の寿命は、種類で決まる。 -/
theorem exp_of_creates {c : Claims} (h : kind.Creates c) :
    c.exp = c.iat + kind.ttl ∧ c.scope = some kind.scope := by
  cases kind with
  | mfa =>
    obtain ⟨_, _, _, _, _, rfl⟩ := h
    exact ⟨rfl, rfl⟩
  | sse =>
    obtain ⟨_, _, _, _, _, _, rfl⟩ := h
    exact ⟨rfl, rfl⟩

theorem scope_injective {kind kind' : TicketKind} (h : kind.scope = kind'.scope) : kind = kind' := by
  cases kind <;> cases kind' <;> first | rfl | exact absurd h (by decide)

/-- Redis の動いている間に受け入れた ticket は、動いている限り、寿命の間は受け入れない。 -/
theorem recorded_of_shared {pre : List (Attempt Tok)} {c : Claims} (hup : a.redisUp = true)
    (hkind : kind.Creates c) (hlive : Usable a c)
    (h : Run.Once (step jwt) (fun s b => b.redisUp = true ∧ Accepts jwt s b ∧
      jwt.verify b.token = some c) {} pre) : Recorded jwt {} pre a (c.jti.getD "") := by
  obtain ⟨hexp, hscope⟩ := exp_of_creates hkind
  obtain ⟨hscope', -, -, hnow⟩ := hlive
  obtain rfl : kind = a.kind := scope_injective (Option.some.inj (hscope.symm.trans hscope'))
  unfold Recorded
  rw [if_pos hup]
  obtain ⟨before, b, hbefore, hb, hacc, hverify⟩ := h
  obtain ⟨hscope₂, -, hiat, -⟩ := ((accepts_iff hverify).mp hacc).1
  have hsame : b.kind = a.kind := scope_injective (Option.some.inj (hscope₂.symm.trans hscope'))
  refine ⟨before, b, hbefore, ⟨hsame, hb, hacc, c, hverify, rfl⟩, ?_⟩
  omega

/--
どの ticket も一度しか受け入れないのは、前に受け入れた ticket を寿命の間に出すどの試みでも、使ったことが
その時に見る方に記されているとき、かつそのときに限る。
-/
theorem singleUse_iff (jwt : Jwt Tok) (evs : List (Attempt Tok)) : SingleUse jwt {} evs ↔
    ∀ pre a c, pre ++ [a] <+: evs → Reuses jwt {} pre a c → Usable a c →
      Recorded jwt {} pre a (c.jti.getD "") := by
  constructor
  · intro h pre a c hpre hre huse
    rw [← burnt_exec]
    by_contra hfree
    exact h pre a c hpre hre ((accepts_iff hre.1).mpr ⟨huse, hfree⟩)
  · intro h pre a c hpre hre hacc
    obtain ⟨huse, hfree⟩ := (accepts_iff hre.1).mp hacc
    exact hfree ((burnt_exec jwt pre a _).mpr (h pre a c hpre hre huse))

/-! ## Redis が止まる -/

/-- payload をそのまま token とする JWT で、SSE の ticket を Redis の止まる前と後に出す。 -/
def ticketTwice : List (Attempt Claims) :=
  [⟨.sse, 1010, true, createSseTicket 1000 "a0" "a1" "user-1" "org-1" "admin"⟩,
   ⟨.sse, 1020, false, createSseTicket 1000 "a0" "a1" "user-1" "org-1" "admin"⟩]

/-- Redis の動いている間に使った ticket が、Redis の止まった同じ process で、寿命の間にまた使える。 -/
theorem not_singleUse_ticketTwice : ¬SingleUse ⟨id, some, fun _ => rfl⟩ {} ticketTwice := by
  intro h
  refine h (ticketTwice.take 1) _ _ List.prefix_rfl ⟨rfl, ⟨.sse, _, _, _, _, _, _, rfl⟩, ?_⟩
    (by decide)
  exact ⟨[], _, List.prefix_rfl, by decide, rfl⟩

end Tickets

end CipherPost.Core
