import ControlPlane.Library.HexText
import ControlPlane.RunpodProxy.SubmitGate

/-! A token is read back as the tenant that it was minted for, and as no other.
-/

namespace ControlPlane.RunpodProxy

open ControlPlane.Library
open ControlPlane.Library.TextParts
open ControlPlane.Modules
open ControlPlane.StudioBindings

-----------------------------------------------------------------------------------------
-- The digits of a MAC
-----------------------------------------------------------------------------------------

/-- HMAC-SHA-256: a key and a message have a digest of 32 bytes. -/
abbrev Hmac := String → String → Vector UInt8 32

def hmacHex (hmac : Hmac) : HmacHex := fun signingKey message =>
  String.ofList (hexText (hmac signingKey message).toList)

/-- A text has no difference from itself, by induction on it. -/
theorem no_difference (text : List Char)
    : (List.zipWith (fun x y : Char => x.toNat ^^^ y.toNat) text text).foldl (· ||| ·) 0 = 0 := by
  induction text with
  | nil => rfl
  | cons c text ih => simpa using ih

@[simp] theorem timingSafeEqual_self (text : String) : timingSafeEqual text text = true := by
  simp only [timingSafeEqual, true_and, decide_eq_true_eq]
  exact no_difference text.toList

/-- A MAC is written, and without the separator. -/
theorem hmacHex_part (hmac : Hmac) (signingKey message : String)
    : (hmacHex hmac signingKey message).toList ≠ []
      ∧ '.' ∉ (hmacHex hmac signingKey message).toList := by
  rw [hmacHex, String.toList_ofList]
  constructor
  · apply List.ne_nil_of_length_pos
    simp
  · exact not_mem_hexText _ rfl

-----------------------------------------------------------------------------------------
-- The parts of a token
-----------------------------------------------------------------------------------------

/-- What a token is minted for, and how it is written. -/
theorem mint_eq_some {digest : HmacHex} {signingKey tenantId token : String}
    (keyFilled : signingKey ≠ "")
    : mintTenantProxyToken digest (some signingKey) tenantId = some token
      ↔ (tenantId ≠ "" ∧ '.' ∉ tenantId.toList)
        ∧ PROXY_TOKEN_PREFIX ++ "." ++ tenantId ++ "." ++ digest signingKey (macInput tenantId)
          = token := by
  simp only [mintTenantProxyToken, Option.getD_some, if_neg keyFilled]
  by_cases unfit : tenantId = "" ∨ '.' ∈ tenantId.toList
  · rw [if_pos unfit]
    constructor
    · intro minted
      cases minted
    · intro fit
      obtain ⟨⟨filled, clean⟩, _⟩ := fit
      exact absurd unfit (not_or.mpr ⟨filled, clean⟩)
  · rw [if_neg unfit, Option.some.injEq]
    simp [not_or.mp unfit]

/-- A token is cut into its version, its tenant and its MAC. -/
theorem splitOn_token {tenantId mac : List Char} (named : '.' ∉ tenantId) (clean : '.' ∉ mac)
    : (PROXY_TOKEN_PREFIX ++ "." ++ String.ofList tenantId ++ "."
          ++ String.ofList mac).toList.splitOn '.'
      = [PROXY_TOKEN_PREFIX.toList, tenantId, mac] := by
  have version : '.' ∉ PROXY_TOKEN_PREFIX.toList := by decide
  have joined
      : (PROXY_TOKEN_PREFIX ++ "." ++ String.ofList tenantId ++ "." ++ String.ofList mac).toList
        = ['.'].intercalate [PROXY_TOKEN_PREFIX.toList, tenantId, mac] := by
    simp [List.intercalate]
  rw [joined]
  apply List.splitOn_intercalate
  · intro part isPart
    simp only [List.mem_cons, List.not_mem_nil, or_false] at isPart
    rcases isPart with isVersion | isTenant | isMac
    · rwa [isVersion]
    · rwa [isTenant]
    · rwa [isMac]
  · exact List.cons_ne_nil _ _

/-- A token that was minted authenticates its tenant. -/
theorem verify_of_mint {hmac : Hmac} {signingKey tenantId token : String}
    (keyFilled : signingKey ≠ "")
    (minted : mintTenantProxyToken (hmacHex hmac) (some signingKey) tenantId = some token)
    : verifyTenantProxyToken (hmacHex hmac) (some signingKey) (some token) = some tenantId := by
  obtain ⟨⟨filled, clean⟩, written⟩ := (mint_eq_some keyFilled).mp minted
  obtain ⟨macFilled, macClean⟩ := hmacHex_part hmac signingKey (macInput tenantId)
  have parts := splitOn_token clean macClean
  rw [String.ofList_toList, String.ofList_toList, written] at parts
  have tokenFilled : token ≠ "" := by
    intro empty
    rw [empty] at parts
    exact nomatch parts
  have named : tenantId.toList ≠ [] := by
    intro empty
    exact filled (String.toList_injective empty)
  have keyed : truthy (some signingKey) = some signingKey := by simp [truthy, keyFilled]
  have presented : truthy (some token) = some token := by simp [truthy, tokenFilled]
  simp only [verifyTenantProxyToken, keyed, presented, parts, String.ofList_toList]
  simp [named, macFilled]

-----------------------------------------------------------------------------------------
-- The codec
-----------------------------------------------------------------------------------------

/-- What is minted and what is verified under one key. -/
structure TokenCodec (hmac : Hmac) (signingKey : String) : Prop where
  /-- A text authenticates a tenant exactly if it is the token minted for it. -/
  inverse : ∀ presented tenantId : String,
    verifyTenantProxyToken (hmacHex hmac) (some signingKey) (some presented) = some tenantId
      ↔ mintTenantProxyToken (hmacHex hmac) (some signingKey) tenantId = some presented
  /-- An id that a token could not carry gets none, and no text authenticates it. -/
  carried : ∀ tenantId : String, tenantId = "" ∨ '.' ∈ tenantId.toList →
    mintTenantProxyToken (hmacHex hmac) (some signingKey) tenantId = none
      ∧ ∀ presented,
          verifyTenantProxyToken (hmacHex hmac) (some signingKey) presented ≠ some tenantId
  /-- One text is the token of one tenant, and under another key it authenticates no other. -/
  oneTenant : ∀ first second token : String,
    mintTenantProxyToken (hmacHex hmac) (some signingKey) first = some token
      → ((∃ otherKey,
            verifyTenantProxyToken (hmacHex hmac) otherKey (some token) = some second)
          ∨ mintTenantProxyToken (hmacHex hmac) (some signingKey) second = some token)
      → first = second

/-- The tenant of a token is its second part, whatever the key. -/
theorem tenant_of_verify {digest : HmacHex} {signingKey : Option String} {token tenantId : String}
    (verified : verifyTenantProxyToken digest signingKey (some token) = some tenantId)
    : (token.toList.splitOn '.')[1]? = some tenantId.toList := by
  obtain ⟨key, text, _, _, presents, _, parts⟩ := parts_of_verify verified
  rw [Option.some.inj presents, parts]
  rfl

/-- Under a key that is not empty, verifying is the inverse of minting. -/
theorem tokenCodec (hmac : Hmac) {signingKey : String} (keyFilled : signingKey ≠ "")
    : TokenCodec hmac signingKey where
  inverse := by
    intro presented tenantId
    constructor
    · intro verified
      exact (mint_of_verify verified).1.symm
    · exact verify_of_mint keyFilled
  carried := by
    intro tenantId unfit
    have none_ : mintTenantProxyToken (hmacHex hmac) (some signingKey) tenantId = none := by
      simp only [mintTenantProxyToken, Option.getD_some, if_neg keyFilled, if_pos unfit]
    refine ⟨none_, ?_⟩
    intro presented verified
    obtain ⟨minted, given⟩ := mint_of_verify verified
    exact given (minted.trans none_)
  oneTenant := by
    intro first second token minted other
    have isFirst := tenant_of_verify (verify_of_mint keyFilled minted)
    have isSecond : (token.toList.splitOn '.')[1]? = some second.toList := by
      rcases other with ⟨otherKey, verified⟩ | again
      · exact tenant_of_verify verified
      · exact tenant_of_verify (verify_of_mint keyFilled again)
    rw [isFirst] at isSecond
    exact String.toList_injective (Option.some.inj isSecond)

/-- A digest that is the length of its message, over and over. -/
def lengthDigest : Hmac := fun _ message => Vector.replicate 32 (UInt8.ofNat message.length)

/-- A key with the token of a tenant. -/
theorem tokenCodec_signed
    : TokenCodec lengthDigest "signing-key"
      ∧ mintTenantProxyToken (hmacHex lengthDigest) (some "signing-key") "ten_1"
        = some ("vjp1.ten_1." ++ hmacHex lengthDigest "signing-key" "vjp1.ten_1")
      ∧ hmacHex lengthDigest "signing-key" "vjp1.ten_1"
        = "0a0a0a0a0a0a0a0a0a0a0a0a0a0a0a0a0a0a0a0a0a0a0a0a0a0a0a0a0a0a0a0a" :=
  ⟨tokenCodec lengthDigest (by decide), by decide +kernel, by decide +kernel⟩

end ControlPlane.RunpodProxy
