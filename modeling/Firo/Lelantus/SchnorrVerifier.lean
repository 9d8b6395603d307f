import Mathlib.Algebra.Module.Basic
import Mathlib.Data.ZMod.Defs

/-! # The Schnorr verifier of Lelantus

The model of `liblelantus/schnorr_verifier.cpp`.  The curve is a group `G` on which the
scalars `ZMod q` act; every value of `G` and of `ZMod q` passes the library's membership
tests, so `isMember()` is `true` throughout and the validity gate keeps its four identity
and zero tests.  The group identity (`isInfinity()`) and the zero scalar (`isZero()`) are
both `0`.

The challenge generator is an interface the file only calls into: `ChallengeGenerator`
records its operations over an arbitrary state, so nothing is assumed of the hash.
`verify` is split at the point the source computes the challenge: `transcript` is what the
generator has absorbed when `get_challenge` is called, `accepts` is the validity gate and
the verification equation for a given challenge.
-/

namespace Firo.Lelantus

/-- A `SchnorrProof`: the commitment `u` and the responses `P1`, `T1`. -/
structure SchnorrProof (G : Type) (q : ℕ) where
  u : G
  P1 : ZMod q
  T1 : ZMod q

/-- A `SchnorrVerifier`: the generators `g_`, `h_` and the transcript mode `withFixes`
fixed by its constructor. -/
structure SchnorrVerifier (G : Type) where
  g : G
  h : G
  withFixes : Bool

/-- The operations of a `ChallengeGenerator` object over its state `Γ`: the two `add`
overloads, `get_challenge`, and the state of a fresh `ChallengeGeneratorSha256`. -/
structure ChallengeGenerator (Γ G : Type) (q : ℕ) where
  addBytes : Γ → List UInt8 → Γ
  addGroupElements : Γ → List G → Γ
  getChallenge : Γ → ZMod q × Γ
  sha256 : Γ

/-- The bytes of `"SCHNORR_PROOF"`, as `std::vector<unsigned char> pre(shts.begin(),
shts.end())` copies them. -/
def schnorrProofLabel : List UInt8 := "SCHNORR_PROOF".toList.map Char.toUInt8

variable {q : ℕ} {G Γ : Type} [AddCommGroup G] [Module (ZMod q) G] [DecidableEq G]

namespace SchnorrVerifier

/-- The generator `get_challenge` is called on: with fixes, the caller's generator after
the label and `u, y, a, b`; without, a fresh SHA-256 generator after `u` alone. -/
def transcript (verifier : SchnorrVerifier G) (generator : ChallengeGenerator Γ G q)
    (y a b u : G) (challengeGenerator : Γ) : Γ :=
  if verifier.withFixes then
    generator.addGroupElements (generator.addBytes challengeGenerator schnorrProofLabel)
      [u, y, a, b]
  else generator.addGroupElements generator.sha256 [u]

/-- The validity gate, then `u == y * c + g_ * P1 + h_ * T1`. -/
def accepts (verifier : SchnorrVerifier G) (y : G) (proof : SchnorrProof G q)
    (c : ZMod q) : Bool :=
  if proof.u = 0 ∨ y = 0 ∨ proof.P1 = 0 ∨ proof.T1 = 0 then false
  else decide (proof.u = c • y + proof.P1 • verifier.g + proof.T1 • verifier.h)

/-- `SchnorrVerifier::verify`: the verdict, and the caller's `challengeGenerator` handle
afterwards, which legacy mode has replaced by the fresh generator. -/
def verify (verifier : SchnorrVerifier G) (generator : ChallengeGenerator Γ G q)
    (y a b : G) (proof : SchnorrProof G q) (challengeGenerator : Γ) : Bool × Γ :=
  let challenge := generator.getChallenge
    (verifier.transcript generator y a b proof.u challengeGenerator)
  (verifier.accepts y proof challenge.1, challenge.2)

end SchnorrVerifier

end Firo.Lelantus
