import CipherPost.Parsing.FiveTuple

/-!
# TOTP と recovery code

`app/core/mfa.py` の確かめる側と、`app/core/auth.py` の password の照合。
hash と AES-GCM は `Crypto` に受け取り、その周りの code（正規化、時計のずれの幅、
recovery code を一つ使い捨てる走査）を写す。

* `verifyCode` — `verify_code`
* `consumeRecoveryCode` — `consume_recovery_code`
-/

namespace CipherPost.Core

open Parsing

/-! ## 文字列 -/

/-- `s.strip()`。 -/
def strip (s : String) : String :=
  String.ofList ((s.toList.dropWhile isSpace).reverse.dropWhile isSpace).reverse

/-- `s.lower()`（ASCII の文字）。 -/
def lower (s : String) : String := String.ofList (s.toList.map Char.toLower)

/-- `s.replace(" ", "")`。 -/
def dropSpaces (s : String) : String := String.ofList (s.toList.filter (· ≠ ' '))

/-! ## 暗号 -/

/-- 標準ライブラリと `cryptography` の関数。 -/
structure Crypto where
  /-- `hash_password`。引数は salt と password。 -/
  hashPassword : String → String → String
  /-- `verify_password`。引数は password と保存した hash。 -/
  verifyPassword : String → String → Bool
  /-- `_hotp`。 -/
  hotp : String → Int → String
  /-- `hashlib.sha256(s.encode()).hexdigest()`。 -/
  sha256 : String → String
  /-- `encrypt_secret`。引数は nonce と secret で、鍵が弱ければ `none`。 -/
  encryptSecret : String → String → Option String
  /-- `decrypt_secret`。ValueError は `none`。 -/
  decryptSecret : String → Option String

variable (crypto : Crypto)

/-! ## TOTP -/

/-- `verify_code`。前後一つの時間幅まで受け入れる。 -/
def verifyCode (secret code : String) (now : Nat) : Bool :=
  let code := dropSpaces (strip code)
  if code.toList.length ≠ 6 || !code.toList.all Char.isDigit then false
  else
    let base : Int := ((now / 30 : Nat) : Int)
    [-1, 0, 1].any fun delta => decide (crypto.hotp secret (base + delta) = code)

/-! ## recovery code -/

/-- `hash_recovery_code`。 -/
def hashRecoveryCode (code : String) : String := crypto.sha256 (dropSpaces (lower (strip code)))

/-- `consume_recovery_code`。最初に一致したものを除いた残りを返す。 -/
def consumeRecoveryCode (stored : List String) (code : String) : Option (List String) :=
  let want := hashRecoveryCode crypto code
  if want ∈ stored then some (stored.erase want) else none

/-- recovery code が受け入れられると、保存した hash が一つ減る。 -/
theorem length_consumeRecoveryCode {stored rest : List String} {code : String}
    (h : consumeRecoveryCode crypto stored code = some rest) :
    rest.length + 1 = stored.length := by
  unfold consumeRecoveryCode at h
  simp only at h
  split at h
  · next hmem =>
    rw [Option.some.injEq] at h
    have hpos := List.length_pos_of_mem hmem
    rw [← h, List.length_erase_of_mem hmem]
    omega
  · cases h

end CipherPost.Core
