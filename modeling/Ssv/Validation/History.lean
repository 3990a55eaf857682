import Ssv.Validation.Admission

/-
  The admission counter of one key against what it is for.

  1. **Specification** — `admitted`: a message is let through exactly when `Validate` has a guard
     for it and that guard names no kind ALREADY let through (`policy`); the state is the
     history of admitted kinds, not seven Go `int`s.  A body of no known type is never let
     through.

  2. **Refinement** — `Agrees seen c`: a kind other than Proposal has a positive count in `c`
     exactly when it is in `seen`, and no such count is negative.  Under it `Validate` decides as
     the history check does (`accepts_eq_policy`), and a delivery is a step of the
     specification (`Agrees.deliver`).  Proposal's count is left free: no guard reads it, so it
     may grow, and even wrap, without effect.

  3. **Result** — from `MessageCounts{}` the counter lets through EXACTLY the messages the
     history check lets through, on every sequence of messages (`accepted_eq_admitted`).
-/

namespace Ssv.Validation

namespace MessageCounts

/-! ## The specification -/

/-- The history check: `msg` passes when `Validate` has a guard for it and that guard names no
    kind in `seen`. -/
def policy (t : MsgTypes) (seen : List MessageKind) (msg : DecodedSSVMessage) : Bool :=
  match msg.guard t with
  | some ks => ks.all fun k => k ∉ seen
  | none => false

/-- **What the counter is for**: the messages of a run the history check lets through, each one
    adding its kind, if it has one, to the history. -/
def admitted (t : MsgTypes) : List MessageKind → List DecodedSSVMessage → List DecodedSSVMessage
  | _, [] => []
  | seen, msg :: msgs =>
    if policy t seen msg then msg :: admitted t ((msg.kind t).toList ++ seen) msgs
    else admitted t seen msgs

/-! ## The refinement -/

/-- The counts agree with the history `seen`: every kind but Proposal has a positive count
    exactly when it was admitted, and never a negative one. -/
def Agrees (seen : List MessageKind) (c : MessageCounts) : Prop :=
  ∀ k, k ≠ MessageKind.proposal → 0 ≤ c.count k ∧ (0 < c.count k ↔ k ∈ seen)

variable {t : MsgTypes} {seen : List MessageKind} {c : MessageCounts} {msg : DecodedSSVMessage}

theorem agrees_zero : Agrees [] zero := fun k _ => by simp

/-- Under `Agrees`, `Validate` decides as the history check. -/
theorem accepts_eq_policy (h : Agrees seen c) : c.accepts t msg = policy t seen msg := by
  rw [Bool.eq_iff_iff, accepts_eq_true_iff_guard, policy]
  cases hg : msg.guard t with
  | none => simp
  | some ks =>
    simp only [Option.some.injEq, exists_eq_left', List.all_eq_true, decide_eq_true_eq]
    refine forall₂_congr fun k hk => ?_
    have := h k fun hp => proposal_not_mem_guard hg (hp ▸ hk)
    constructor
    · intro hle hmem; have := this.2.mpr hmem; omega
    · intro hnot; by_contra hpos; exact hnot (this.2.mp (by omega))

/-- **A delivery is a step of the specification**: an accepted message adds its kind to the
    history, a refused one changes nothing. -/
theorem Agrees.deliver (h : Agrees seen c) :
    Agrees (if c.accepts t msg then (msg.kind t).toList ++ seen else seen) (c.deliver t msg) := by
  rw [deliver_eq]
  by_cases hacc : c.accepts t msg = true
  · simp only [hacc, if_true]
    cases hkind : msg.kind t with
    | none => simpa using h
    | some k₀ =>
      intro k hk
      by_cases hkk : k = k₀
      · -- the message's own kind was not counted, and now is, once
        subst hkk
        have h0 : c.count k = 0 := by
          have := count_le_zero_of_accepts hacc hkind hk; have := (h k hk).1; omega
        rw [tally_some, count_bump_self, h0, wrapInt_one]
        simp
      · simpa [count_bump_of_ne hkk, hkk] using h k hk
  · simpa [hacc] using h

theorem accepted_eq_admitted_of (h : Agrees seen c) (msgs : List DecodedSSVMessage) :
    c.accepted t msgs = admitted t seen msgs := by
  induction msgs generalizing seen c with
  | nil => rfl
  | cons msg msgs ih =>
    have hstep := ih (@Agrees.deliver t seen c msg h)
    simp only [accepted, admitted, ← accepts_eq_policy h]
    split <;> simp_all

/-- **The counter is the history check**: from `MessageCounts{}`, on every sequence of messages,
    `Validate` and `Record` let through exactly the messages whose guard names no kind let
    through before them. -/
theorem accepted_eq_admitted (t : MsgTypes) (msgs : List DecodedSSVMessage) :
    zero.accepted t msgs = admitted t [] msgs :=
  accepted_eq_admitted_of agrees_zero msgs

end MessageCounts

end Ssv.Validation
