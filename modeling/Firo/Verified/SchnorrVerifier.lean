import Firo.Lelantus.SchnorrVerifier
import Mathlib.Algebra.Lie.OfAssociative
import Mathlib.Algebra.NoZeroSMulDivisors.Basic
import Mathlib.Data.ZMod.Basic
import Mathlib.Tactic.Abel
import Mathlib.Tactic.Module

/-! # What `SchnorrVerifier::verify` accepts

The verdict is `accepts` at the challenge `get_challenge` returns on `transcript`, and the
transcript is built from the generator state, `u`, `y`, `a`, `b` and nothing else; in
particular never from the responses.  Everything below is about the verification
equation at that one challenge.

Main results:

* `verify_complete` — an honest proof, `P1 = r - c·x`, `T1 = s - c·z` for the challenge
  `verify` derives itself, is accepted exactly when it passes the validity gate, in both
  transcript modes: `c·(x·g + z·h) + (r - c·x)·g + (s - c·z)·h = r·g + s·h`.
* `verify_unique_responses` — over a prime-order group with non-identity generators, an
  accepted proof has one `P1` for its `T1` and one `T1` for its `P1`.
* `verify_extracts_opening` — two proofs accepted with the same `u` under different
  challenges open `y` as a combination of `g` and `h`.
* `verify_legacy_accepts_chosen_statement` — without fixes a statement can be chosen after
  the proof: `y = c⁻¹ • (u - P1 • g - T1 • h)` is accepted for any `u`, `P1`, `T1` that
  pass the gate.

The sample runs take `ZMod 3` acting on itself, an action that the whole of Mathlib finds
through `Mathlib.Algebra.Lie.OfAssociative`; the module imports it so that the samples
elaborate as they do there.
-/

namespace Firo.Verified.SchnorrVerifier

open Firo.Lelantus Firo.Lelantus.SchnorrVerifier

variable {q : ℕ} {G Γ : Type} [AddCommGroup G] [Module (ZMod q) G] [DecidableEq G]

/-! ## The verdict -/

theorem accepts_iff (verifier : SchnorrVerifier G) (y : G) (proof : SchnorrProof G q)
    (c : ZMod q) :
    verifier.accepts y proof c = true ↔
      (proof.u ≠ 0 ∧ y ≠ 0 ∧ proof.P1 ≠ 0 ∧ proof.T1 ≠ 0) ∧
        proof.u = c • y + proof.P1 • verifier.g + proof.T1 • verifier.h := by
  unfold accepts
  split
  · rename_i gate
    simp only [Bool.false_eq_true, false_iff]
    tauto
  · rename_i gate
    simp only [not_or] at gate
    simp only [decide_eq_true_eq]
    exact ⟨fun equation => ⟨gate, equation⟩, And.right⟩

theorem accepts_equation {verifier : SchnorrVerifier G} {y : G} {proof : SchnorrProof G q}
    {c : ZMod q} (accepted : verifier.accepts y proof c = true) :
    proof.u = c • y + proof.P1 • verifier.g + proof.T1 • verifier.h :=
  ((accepts_iff verifier y proof c).mp accepted).2

/-- The verification equation at a fixed challenge determines the responses' combination. -/
theorem accepts_same_combination {verifier : SchnorrVerifier G} {y u : G} {c : ZMod q}
    {P1 T1 P1' T1' : ZMod q} (accepted : verifier.accepts y ⟨u, P1, T1⟩ c = true)
    (accepted' : verifier.accepts y ⟨u, P1', T1'⟩ c = true) :
    P1 • verifier.g + T1 • verifier.h = P1' • verifier.g + T1' • verifier.h := by
  have first : u = c • y + P1 • verifier.g + T1 • verifier.h := accepts_equation accepted
  have second : u = c • y + P1' • verifier.g + T1' • verifier.h := accepts_equation accepted'
  rw [first] at second
  simp only [add_assoc] at second
  exact add_left_cancel second

/-! ## Completeness -/

omit [DecidableEq G] in
theorem honest_equation (g h : G) (x z r s c : ZMod q) :
    c • (x • g + z • h) + (r - c * x) • g + (s - c * z) • h = r • g + s • h := by
  module

theorem verify_complete (verifier : SchnorrVerifier G) (generator : ChallengeGenerator Γ G q)
    (x z r s : ZMod q) (a b : G) (challengeGenerator : Γ) :
    let y := x • verifier.g + z • verifier.h
    let u := r • verifier.g + s • verifier.h
    let c := (generator.getChallenge
      (if verifier.withFixes then
        generator.addGroupElements (generator.addBytes challengeGenerator schnorrProofLabel)
          [u, y, a, b]
      else generator.addGroupElements generator.sha256 [u])).1
    (verifier.verify generator y a b ⟨u, r - c * x, s - c * z⟩ challengeGenerator).1 = true ↔
      u ≠ 0 ∧ y ≠ 0 ∧ r - c * x ≠ 0 ∧ s - c * z ≠ 0 := by
  intro y u c
  have equation : u = c • y + (r - c * x) • verifier.g + (s - c * z) • verifier.h :=
    (honest_equation verifier.g verifier.h x z r s c).symm
  rw [verify, accepts_iff]
  exact ⟨fun accepted => accepted.1, fun gate => ⟨gate, equation⟩⟩

/-! ## Unique responses -/

theorem verify_unique_responses [Fact q.Prime] (verifier : SchnorrVerifier G)
    (generator : ChallengeGenerator Γ G q) (y a b u : G) (P1 T1 : ZMod q)
    (challengeGenerator : Γ) (gNonzero : verifier.g ≠ 0) (hNonzero : verifier.h ≠ 0)
    (accepted : (verifier.verify generator y a b ⟨u, P1, T1⟩ challengeGenerator).1 = true) :
    (∀ P1', P1' ≠ P1 →
      (verifier.verify generator y a b ⟨u, P1', T1⟩ challengeGenerator).1 = false) ∧
    (∀ T1', T1' ≠ T1 →
      (verifier.verify generator y a b ⟨u, P1, T1'⟩ challengeGenerator).1 = false) := by
  constructor
  · intro P1' differ
    rw [Bool.eq_false_iff]
    intro accepted'
    have combination := accepts_same_combination accepted accepted'
    exact differ (smul_left_injective (ZMod q) gNonzero (add_right_cancel combination)).symm
  · intro T1' differ
    rw [Bool.eq_false_iff]
    intro accepted'
    have combination := accepts_same_combination accepted accepted'
    exact differ (smul_left_injective (ZMod q) hNonzero (add_left_cancel combination)).symm

/-- A generator whose challenge is always `c`, for running the verifier on fixed inputs. -/
def constantChallenge (c : ZMod q) : ChallengeGenerator Unit G q where
  addBytes state _ := state
  addGroupElements state _ := state
  getChallenge state := (c, state)
  sha256 := ()

/-- The legacy verifier over `ZMod 3` with both generators `1`. -/
def verifierModThree : SchnorrVerifier (ZMod 3) := ⟨1, 1, false⟩

/-- The generator over `ZMod 3` whose challenge is always `1`. -/
def challengeOne : ChallengeGenerator Unit (ZMod 3) 3 := constantChallenge 1

theorem verify_unique_responses_mod_three :
    (verifierModThree.g ≠ 0 ∧ verifierModThree.h ≠ 0 ∧
      (verifierModThree.verify challengeOne 1 0 0 ⟨1, 1, 2⟩ ()).1 = true) ∧
    (∀ P1', P1' ≠ 1 →
      (verifierModThree.verify challengeOne 1 0 0 ⟨1, P1', 2⟩ ()).1 = false) ∧
    (∀ T1', T1' ≠ 2 →
      (verifierModThree.verify challengeOne 1 0 0 ⟨1, 1, T1'⟩ ()).1 = false) :=
  ⟨⟨by decide, by decide, by decide⟩,
    verify_unique_responses verifierModThree challengeOne 1 0 0 1 1 2 ()
      (by decide) (by decide) (by decide)⟩

/-! ## Extraction -/

/-- Two verification equations with the same commitment and different challenges. -/
theorem accepts_opening [Fact q.Prime] {verifier : SchnorrVerifier G} {y u : G}
    {c c' P1 T1 P1' T1' : ZMod q} (accepted : verifier.accepts y ⟨u, P1, T1⟩ c = true)
    (accepted' : verifier.accepts y ⟨u, P1', T1'⟩ c' = true) (distinct : c ≠ c') :
    y = ((c - c')⁻¹ * (P1' - P1)) • verifier.g + ((c - c')⁻¹ * (T1' - T1)) • verifier.h := by
  have first : u = c • y + P1 • verifier.g + T1 • verifier.h := accepts_equation accepted
  have second : u = c' • y + P1' • verifier.g + T1' • verifier.h := accepts_equation accepted'
  have scaled : (c - c') • y = (P1' - P1) • verifier.g + (T1' - T1) • verifier.h :=
    calc (c - c') • y
        = (c • y + P1 • verifier.g + T1 • verifier.h) - (c' • y + P1 • verifier.g + T1 • verifier.h) := by
          module
      _ = (c' • y + P1' • verifier.g + T1' • verifier.h) - (c' • y + P1 • verifier.g + T1 • verifier.h) := by
          rw [← first, second]
      _ = (P1' - P1) • verifier.g + (T1' - T1) • verifier.h := by module
  calc y = (c - c')⁻¹ • ((c - c') • y) := by
        rw [smul_smul, inv_mul_cancel₀ (sub_ne_zero.mpr distinct), one_smul]
    _ = _ := by rw [scaled]; module

theorem verify_extracts_opening [Fact q.Prime] (verifier : SchnorrVerifier G)
    (generator : ChallengeGenerator Γ G q) (y a b u : G) (P1 T1 P1' T1' : ZMod q)
    (challengeGenerator challengeGenerator' : Γ)
    (accepted : (verifier.verify generator y a b ⟨u, P1, T1⟩ challengeGenerator).1 = true)
    (accepted' : (verifier.verify generator y a b ⟨u, P1', T1'⟩ challengeGenerator').1 = true)
    (distinct : (generator.getChallenge (verifier.transcript generator y a b u challengeGenerator)).1 ≠
      (generator.getChallenge (verifier.transcript generator y a b u challengeGenerator')).1) :
    let c := (generator.getChallenge (verifier.transcript generator y a b u challengeGenerator)).1
    let c' := (generator.getChallenge (verifier.transcript generator y a b u challengeGenerator')).1
    y = ((c - c')⁻¹ * (P1' - P1)) • verifier.g + ((c - c')⁻¹ * (T1' - T1)) • verifier.h :=
  accepts_opening accepted accepted' distinct

/-- The verifier over `ZMod 3` with both generators `1`, with fixes. -/
def fixedVerifierModThree : SchnorrVerifier (ZMod 3) := ⟨1, 1, true⟩

/-- The generator over `ZMod 3` whose state is its challenge. -/
def stateChallenge : ChallengeGenerator (ZMod 3) (ZMod 3) 3 where
  addBytes state _ := state
  addGroupElements state _ := state
  getChallenge state := (state, state)
  sha256 := 0

theorem verify_extracts_opening_mod_three :
    ((fixedVerifierModThree.verify stateChallenge 1 0 0 ⟨1, 1, 2⟩ 1).1 = true ∧
      (fixedVerifierModThree.verify stateChallenge 1 0 0 ⟨1, 1, 1⟩ 2).1 = true ∧
      (stateChallenge.getChallenge (fixedVerifierModThree.transcript stateChallenge 1 0 0 1 1)).1 ≠
        (stateChallenge.getChallenge (fixedVerifierModThree.transcript stateChallenge 1 0 0 1 2)).1) ∧
    (1 : ZMod 3) = ((1 - 2 : ZMod 3)⁻¹ * (1 - 1)) • fixedVerifierModThree.g +
      ((1 - 2 : ZMod 3)⁻¹ * (1 - 2)) • fixedVerifierModThree.h :=
  ⟨⟨by decide, by decide, by decide⟩,
    verify_extracts_opening fixedVerifierModThree stateChallenge 1 0 0 1 1 2 1 1 1 2
      (by decide) (by decide) (by decide)⟩

/-! ## Legacy mode

Without fixes `verify` resets the caller's generator to a fresh SHA-256 generator and feeds
it `u` alone, so the challenge is fixed by the commitment. -/

/-- Without fixes the statement can be picked after the commitment and responses: at the
challenge `c` of `u` alone, `y = c⁻¹ • (u - P1 • g - T1 • h)` satisfies the verification
equation, so it is accepted exactly when it passes the gate. -/
theorem verify_legacy_accepts_chosen_statement [Fact q.Prime] (verifier : SchnorrVerifier G)
    (legacy : verifier.withFixes = false) (generator : ChallengeGenerator Γ G q)
    (a b u : G) (P1 T1 : ZMod q) (challengeGenerator : Γ) :
    let c := (generator.getChallenge (generator.addGroupElements generator.sha256 [u])).1
    let y := c⁻¹ • (u - P1 • verifier.g - T1 • verifier.h)
    c ≠ 0 →
      ((verifier.verify generator y a b ⟨u, P1, T1⟩ challengeGenerator).1 = true ↔
        u ≠ 0 ∧ y ≠ 0 ∧ P1 ≠ 0 ∧ T1 ≠ 0) := by
  intro c y nonzero
  have equation : u = c • y + P1 • verifier.g + T1 • verifier.h := by
    rw [smul_smul, mul_inv_cancel₀ nonzero, one_smul]
    abel
  rw [verify, transcript, legacy, if_neg Bool.false_ne_true, accepts_iff]
  exact ⟨And.left, fun gate => ⟨gate, equation⟩⟩

theorem verify_legacy_accepts_chosen_statement_mod_three :
    let c := (challengeOne.getChallenge (challengeOne.addGroupElements challengeOne.sha256 [1])).1
    let y := c⁻¹ • ((1 : ZMod 3) - 1 • verifierModThree.g - 1 • verifierModThree.h)
    c ≠ 0 ∧
      ((verifierModThree.verify challengeOne y 0 0 ⟨1, 1, 1⟩ ()).1 = true ↔
        (1 : ZMod 3) ≠ 0 ∧ y ≠ 0 ∧ (1 : ZMod 3) ≠ 0 ∧ (1 : ZMod 3) ≠ 0) :=
  ⟨by decide, verify_legacy_accepts_chosen_statement verifierModThree rfl challengeOne 0 0 1 1 1 ()
    (by decide)⟩

end Firo.Verified.SchnorrVerifier
