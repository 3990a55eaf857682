import Ssv.Validation.MessageCounts

/-
  Runs of the admission counter for ONE key: the message-handling pipeline calls `Validate` and,
  when it returns no error, `Record` (spec §4.1, §5: same-key pairs are serialised).

  1. **Runs** — `deliver` is one such pair, `states` the counts after each delivery, `accepted`
     the messages `Validate` let through, `Reachable` the counts some run produces from
     `MessageCounts{}`.

  2. **Two invariants**, both from the spec lemmas of `Ssv.Validation.MessageCounts`:
     - `Grows` — a kind other than Proposal, once counted, stays counted.  Each delivery grows
       the counts (`grows_deliver`), and `Validate`'s verdict is antitone in `Grows`
       (`accepts_of_grows`), because no guard reads Proposal.
     - `AtMostOnce` — every kind but Proposal has been counted at most once.  It holds of every
       reachable state (`Reachable.atMostOnce`) because every kind but Proposal blocks itself.

  3. **Results** — a refused message stays refused (`rejection_persists`); accepted messages
     respect the protocol's precedence (`accepted_respects_precedence`); and each kind other
     than Proposal is accepted at most once (`countP_accepted_le_one`).  What the code does NOT
     do: Proposal blocks nothing of its own kind, so Proposals flood
     (`accepted_replicate_proposal`); Decided blocks itself, so one Decided, not
     `committeeSize + 1`, is all a key admits (`second_decided_refused`); a Commit without
     signers passes `Validate` and is never counted (`signerless_commit_uncounted`).
-/

namespace Ssv.Validation

namespace MessageCounts

variable (t : MsgTypes)

/-! ## Runs -/

/-- One delivery for the key: `Validate`, then `Record` when it returned no error.  `Record`
    cannot panic there (`record_eq_tally`); the counts would then be left unchanged. -/
def deliver (c : MessageCounts) (msg : DecodedSSVMessage) : MessageCounts :=
  match c.validate t msg with
  | .ok () =>
    match c.record t msg with
    | .ok c' => c'
    | .error _ => c
  | .error _ => c

/-- `Validate` returned no error. -/
def accepts (c : MessageCounts) (msg : DecodedSSVMessage) : Bool :=
  match c.validate t msg with
  | .ok () => true
  | .error _ => false

/-- The counts before and after each delivery of a run, the starting counts first. -/
def states (c : MessageCounts) : List DecodedSSVMessage → List MessageCounts
  | [] => [c]
  | msg :: msgs => c :: (c.deliver t msg).states msgs

/-- The messages of a run that `Validate` let through, in order. -/
def accepted (c : MessageCounts) : List DecodedSSVMessage → List DecodedSSVMessage
  | [] => []
  | msg :: msgs =>
    if c.accepts t msg then msg :: (c.deliver t msg).accepted msgs
    else (c.deliver t msg).accepted msgs

/-- The counts at the end of a run. -/
def run (c : MessageCounts) : List DecodedSSVMessage → MessageCounts
  | [] => c
  | msg :: msgs => (c.deliver t msg).run msgs

/-- The counts some run produces from the zero value. -/
inductive Reachable : MessageCounts → Prop
  | zero : Reachable zero
  | deliver {c : MessageCounts} (msg : DecodedSSVMessage) :
      Reachable c → Reachable (c.deliver t msg)

variable {t} {c : MessageCounts} {msg : DecodedSSVMessage} {k : MessageKind}

theorem accepts_eq_true_iff : c.accepts t msg = true ↔ c.validate t msg = .ok () := by
  unfold accepts
  split <;> simp_all

/-- `accepts` read through the guard table. -/
theorem accepts_eq_true_iff_guard :
    c.accepts t msg = true ↔ ∃ ks, msg.guard t = some ks ∧ ∀ k ∈ ks, c.count k ≤ 0 :=
  accepts_eq_true_iff.trans validate_eq_ok_iff

/-- **One delivery**: an accepted message is tallied by kind, a refused one changes nothing. -/
theorem deliver_eq : c.deliver t msg = if c.accepts t msg then c.tally (msg.kind t) else c := by
  unfold deliver accepts
  split
  · rename_i h
    simp only [record_eq_tally h, if_true]
  · rfl

/-- **The run induction, once**: a property of the counts that every delivery keeps holds at
    every state of a run that starts where it holds. -/
theorem of_mem_states {P : MessageCounts → Prop} (h0 : P c)
    (hstep : ∀ s msg, P s → P (s.deliver t msg)) {s : MessageCounts}
    {msgs : List DecodedSSVMessage} (hs : s ∈ c.states t msgs) : P s := by
  induction msgs generalizing c with
  | nil => simp only [states, List.mem_singleton] at hs; exact hs ▸ h0
  | cons msg msgs ih =>
    simp only [states, List.mem_cons] at hs
    rcases hs with rfl | hs
    · exact h0
    · exact ih (hstep _ msg h0) hs

theorem Reachable.of_mem_states {s : MessageCounts} {msgs : List DecodedSSVMessage}
    (hc : Reachable t c) (hs : s ∈ c.states t msgs) : Reachable t s :=
  MessageCounts.of_mem_states hc (fun _ msg h => h.deliver msg) hs

theorem run_mem_states (c : MessageCounts) (msgs : List DecodedSSVMessage) :
    c.run t msgs ∈ c.states t msgs := by
  induction msgs generalizing c with
  | nil => exact List.mem_singleton_self c
  | cons msg msgs ih => exact List.mem_cons_of_mem _ (ih _)

/-- A message of kind `k` is refused once one of `k.blockers` has been counted. -/
theorem accepts_eq_false_of_blocker {b : MessageKind} (hk : msg.kind t = some k)
    (hb : b ∈ k.blockers) (hpos : 0 < c.count b) : c.accepts t msg = false := by
  by_contra hacc
  obtain ⟨ks, hg, hle⟩ := accepts_eq_true_iff_guard.mp (Bool.not_eq_false _ ▸ hacc)
  rw [guard_of_kind hk, Option.some.injEq] at hg
  exact absurd (hle b (hg ▸ hb)) (by omega)

/-- An accepted message of a kind other than Proposal found its own count at most zero. -/
theorem count_le_zero_of_accepts (hacc : c.accepts t msg = true) (hk : msg.kind t = some k)
    (hne : k ≠ .proposal) : c.count k ≤ 0 := by
  by_contra hpos
  rw [accepts_eq_false_of_blocker hk (MessageKind.mem_blockers_self hne) (by omega)] at hacc
  cases hacc

/-! ## `Grows`: a counted kind stays counted -/

/-- `c.Grows c'`: every kind but Proposal counted in `c` is still counted in `c'`. -/
def Grows (c c' : MessageCounts) : Prop :=
  ∀ k, k ≠ MessageKind.proposal → 0 < c.count k → 0 < c'.count k

theorem Grows.refl (c : MessageCounts) : c.Grows c := fun _ _ h => h

theorem Grows.trans {c₁ c₂ c₃ : MessageCounts} (h₁ : c₁.Grows c₂) (h₂ : c₂.Grows c₃) :
    c₁.Grows c₃ :=
  fun k hk hpos => h₂ k hk (h₁ k hk hpos)

/-- One delivery grows the counts: the only field it can bump past zero was zero or below. -/
theorem grows_deliver : c.Grows (c.deliver t msg) := by
  intro k' hk' hpos
  rw [deliver_eq]
  split
  · rename_i hacc
    cases hkind : msg.kind t with
    | none => exact hpos
    | some k =>
      by_cases hkk : k' = k
      · subst hkk
        exact absurd (count_le_zero_of_accepts hacc hkind hk') (by omega)
      · rwa [tally_some, count_bump_of_ne hkk]
  · exact hpos

/-- `Validate`'s verdict is antitone along `Grows`: no guard reads Proposal, and every other
    count it reads only grows. -/
theorem accepts_of_grows {c' : MessageCounts} (hg : c.Grows c') (h : c'.accepts t msg = true) :
    c.accepts t msg = true := by
  obtain ⟨ks, hks, hle⟩ := accepts_eq_true_iff_guard.mp h
  refine accepts_eq_true_iff_guard.mpr ⟨ks, hks, fun k hk => ?_⟩
  have hne : k ≠ .proposal := fun h => proposal_not_mem_guard hks (h ▸ hk)
  have := hle k hk
  by_contra hpos
  have := hg k hne (by omega)
  omega

theorem grows_of_mem_states {s : MessageCounts} {msgs : List DecodedSSVMessage}
    (hs : s ∈ c.states t msgs) : c.Grows s :=
  of_mem_states (Grows.refl c) (fun _ _ h => h.trans grows_deliver) hs

theorem states_pairwise_grows (c : MessageCounts) (msgs : List DecodedSSVMessage) :
    (c.states t msgs).Pairwise Grows := by
  induction msgs generalizing c with
  | nil => exact List.pairwise_singleton _ _
  | cons msg msgs ih =>
    exact List.pairwise_cons.mpr ⟨fun _ hs => grows_deliver.trans (grows_of_mem_states hs), ih _⟩

/-- **A refused message stays refused**: along any run, once `Validate` refuses `msg` it refuses
    it at every later state. -/
theorem rejection_persists (t : MsgTypes) (c : MessageCounts) (msgs : List DecodedSSVMessage)
    (msg : DecodedSSVMessage) :
    (c.states t msgs).Pairwise (fun s s' => s.accepts t msg = false → s'.accepts t msg = false) :=
  (states_pairwise_grows c msgs).imp fun hg hrej =>
    Bool.eq_false_iff.mpr fun hacc => by simp [accepts_of_grows hg hacc] at hrej

theorem exists_grows_of_mem_accepted {y : DecodedSSVMessage} {msgs : List DecodedSSVMessage}
    (h : y ∈ c.accepted t msgs) : ∃ s, c.Grows s ∧ s.accepts t y = true := by
  induction msgs generalizing c with
  | nil => cases h
  | cons msg msgs ih =>
    simp only [accepted] at h
    have later : y ∈ (c.deliver t msg).accepted t msgs → ∃ s, c.Grows s ∧ s.accepts t y = true :=
      fun h => (ih h).imp fun _ ⟨hg, hs⟩ => ⟨grows_deliver.trans hg, hs⟩
    split at h
    · rcases List.mem_cons.mp h with rfl | h
      · exact ⟨c, Grows.refl c, by assumption⟩
      · exact later h
    · exact later h

/-! ## `AtMostOnce`: the reachable states -/

/-- Every kind but Proposal has been counted at most once. -/
def AtMostOnce (c : MessageCounts) : Prop :=
  ∀ k, k ≠ MessageKind.proposal → 0 ≤ c.count k ∧ c.count k ≤ 1

theorem wrapInt_one : wrapInt (0 + 1) = 1 := by decide

/-- After an accepted message of kind `k ≠ Proposal`, kind `k` has been counted exactly once. -/
theorem count_deliver_self (hc : c.AtMostOnce) (hacc : c.accepts t msg = true)
    (hk : msg.kind t = some k) (hne : k ≠ .proposal) : (c.deliver t msg).count k = 1 := by
  have h0 : c.count k = 0 := by
    have := count_le_zero_of_accepts hacc hk hne; have := hc k hne; omega
  rw [deliver_eq, if_pos hacc, hk, tally_some, count_bump_self, h0, wrapInt_one]

theorem AtMostOnce.deliver (hc : c.AtMostOnce) : (c.deliver t msg).AtMostOnce := by
  intro k' hk'
  by_cases hacc : c.accepts t msg = true
  · cases hkind : msg.kind t with
    | none => rw [deliver_eq, if_pos hacc, hkind, tally_none]; exact hc k' hk'
    | some k =>
      by_cases hkk : k' = k
      · subst hkk; rw [count_deliver_self hc hacc hkind hk']; omega
      · rw [deliver_eq, if_pos hacc, hkind, tally_some, count_bump_of_ne hkk]; exact hc k' hk'
  · rw [deliver_eq, if_neg hacc]; exact hc k' hk'

/-- Every reachable state has counted each kind but Proposal at most once. -/
theorem Reachable.atMostOnce (h : Reachable t c) : c.AtMostOnce := by
  induction h with
  | zero => intro k _; simp only [count_zero]; omega
  | deliver msg _ ih => exact ih.deliver

/-! ## The precedence -/

theorem accepted_respects_precedence_of (hc : c.AtMostOnce) (msgs : List DecodedSSVMessage) :
    (c.accepted t msgs).Pairwise (fun x y => x.outOfOrder t y = false) := by
  induction msgs generalizing c with
  | nil => exact List.Pairwise.nil
  | cons msg msgs ih =>
    simp only [accepted]
    split
    · rename_i hacc
      refine List.pairwise_cons.mpr ⟨fun y hy => ?_, ih hc.deliver⟩
      unfold DecodedSSVMessage.outOfOrder
      split
      · rename_i kx ky hx hy'
        -- `msg`, of kind `kx`, is counted now, and a counted `kx` blocks every later `ky` that
        -- must precede it
        refine Bool.eq_false_iff.mpr fun hord => ?_
        have hne := MessageKind.ne_proposal_of_mustPrecede hord
        obtain ⟨s, hg, hs⟩ := exists_grows_of_mem_accepted hy
        have hpos : 0 < s.count kx := hg kx hne (by rw [count_deliver_self hc hacc hx hne]; omega)
        simp [accepts_eq_false_of_blocker hy' (MessageKind.mem_blockers_of_mustPrecede hord) hpos]
          at hs
      · rfl
    · exact ih hc.deliver

/-- **Phase order**: the messages a key accepts from `MessageCounts{}` never put a kind after one
    it must precede — no Proposal or Prepare after a Commit, Decided or PostConsensus, no Commit
    after a Decided or PostConsensus, no Decided after a PostConsensus. -/
theorem accepted_respects_precedence (t : MsgTypes) (msgs : List DecodedSSVMessage) :
    (zero.accepted t msgs).Pairwise (fun x y => x.outOfOrder t y = false) :=
  accepted_respects_precedence_of (Reachable.zero (t := t)).atMostOnce msgs

/-! ## Counting the accepted messages -/

/-- A delivery leaves the count of every kind but the message's own. -/
theorem count_deliver_of_ne (h : msg.kind t ≠ some k) : (c.deliver t msg).count k = c.count k := by
  rw [deliver_eq]
  split
  · cases hkind : msg.kind t with
    | none => rfl
    | some k' => exact count_bump_of_ne fun hkk => h (hkk ▸ hkind)
  · rfl

theorem Reachable.run (hc : Reachable t c) (msgs : List DecodedSSVMessage) :
    Reachable t (c.run t msgs) :=
  hc.of_mem_states (run_mem_states c msgs)

/-- **`Record` counts exactly the accepted messages**: from a state where every kind but
    Proposal was counted at most once, the final count of such a kind is the starting one plus
    the number of accepted messages of that kind. -/
theorem count_run (hc : c.AtMostOnce) (hk : k ≠ .proposal) (msgs : List DecodedSSVMessage) :
    (c.run t msgs).count k = c.count k + (c.accepted t msgs).countP (fun m => m.kind t = some k) := by
  induction msgs generalizing c with
  | nil => simp [run, accepted]
  | cons msg msgs ih =>
    simp only [run, accepted]
    rw [ih hc.deliver]
    split
    · rename_i hacc
      by_cases hkind : msg.kind t = some k
      · have h0 : c.count k = 0 := by
          have := count_le_zero_of_accepts hacc hkind hk; have := hc k hk; omega
        rw [count_deliver_self hc hacc hkind hk, List.countP_cons_of_pos _ _ (by simpa using hkind),
          h0]
        omega
      · rw [count_deliver_of_ne hkind, List.countP_cons_of_neg _ _ (by simpa using hkind)]
    · rename_i hrej
      rw [deliver_eq, if_neg hrej]

/-- **At most one of each kind but Proposal**: in any run from `MessageCounts{}`, `Validate`
    accepts at most one Prepare, Commit, Decided, RoundChange, PreConsensus and PostConsensus. -/
theorem countP_accepted_le_one (t : MsgTypes) (msgs : List DecodedSSVMessage) {k : MessageKind}
    (hk : k ≠ .proposal) :
    (zero.accepted t msgs).countP (fun m => m.kind t = some k) ≤ 1 := by
  have hrun := count_run (t := t) (Reachable.zero (t := t)).atMostOnce hk msgs
  have := (((Reachable.zero (t := t)).run msgs).atMostOnce k hk).2
  rw [count_zero] at hrun
  omega

theorem countP_accepted_le_one_prepares :
    MessageKind.prepare ≠ .proposal ∧
      (zero.accepted iotaMsgTypes (List.replicate 3
          ⟨.signedMessage ⟨[1], ⟨iotaMsgTypes.prepareMsgType⟩⟩⟩)).countP
        (fun m => m.kind iotaMsgTypes = some .prepare) ≤ 1 :=
  ⟨by decide, countP_accepted_le_one iotaMsgTypes _ (by decide)⟩

/-- **Within the limits, but for Proposal**: for every committee size whose Decided limit is a Go
    `int`, every reachable state keeps each kind but Proposal within `maxMessageCounts`. -/
theorem reachable_count_le_max (hc : Reachable t c) {n : Int} (h₀ : 0 ≤ n)
    (h₁ : n + 1 < 9223372036854775808) (hk : k ≠ .proposal) :
    c.count k ≤ (maxMessageCounts n).count k := by
  have := (hc.atMostOnce k hk).2
  rw [count_maxMessageCounts (by omega) h₁]
  split <;> omega

theorem reachable_count_le_max_decided :
    Reachable iotaMsgTypes
        (zero.run iotaMsgTypes [⟨.signedMessage ⟨[1, 2, 3], ⟨iotaMsgTypes.commitMsgType⟩⟩⟩]) ∧
      (0 : Int) ≤ 4 ∧ (4 : Int) + 1 < 9223372036854775808 ∧ MessageKind.decided ≠ .proposal ∧
      (zero.run iotaMsgTypes [⟨.signedMessage ⟨[1, 2, 3], ⟨iotaMsgTypes.commitMsgType⟩⟩⟩]).count
          .decided ≤ (maxMessageCounts 4).count .decided :=
  have hc := Reachable.zero.run [⟨.signedMessage ⟨[1, 2, 3], ⟨iotaMsgTypes.commitMsgType⟩⟩⟩]
  ⟨hc, by decide, by decide, by decide,
    reachable_count_le_max hc (by decide) (by decide) (by decide)⟩

/-- **What `ReachedLimits` sees**: for a committee of at least one member, no reachable state
    reaches the Decided limit `committeeSize + 1`, so `ReachedLimits(maxMessageCounts)` holds
    exactly when a message of another kind has been counted — after the first Prepare, say. -/
theorem reachedLimits_maxMessageCounts_iff (hc : Reachable t c) {n : Int} (h₁ : 1 ≤ n)
    (h₂ : n + 1 < 9223372036854775808) :
    c.reachedLimits (maxMessageCounts n) = true ↔ ∃ k, k ≠ .decided ∧ 0 < c.count k := by
  have hlim := count_maxMessageCounts (by omega) h₂
  rw [reachedLimits_eq_true_iff]
  constructor
  · rintro ⟨k, hk⟩
    rw [hlim] at hk
    by_cases hkd : k = .decided
    · -- a counted Decided is one, below the limit
      subst hkd
      have := (hc.atMostOnce .decided (by decide)).2
      simp only [if_true] at hk
      omega
    · exact ⟨k, hkd, by simp only [hkd, if_false] at hk; omega⟩
  · rintro ⟨k, hkd, hpos⟩
    exact ⟨k, by rw [hlim, if_neg hkd]; omega⟩

theorem reachedLimits_maxMessageCounts_iff_prepare :
    Reachable iotaMsgTypes
        (zero.run iotaMsgTypes [⟨.signedMessage ⟨[1], ⟨iotaMsgTypes.prepareMsgType⟩⟩⟩]) ∧
      (1 : Int) ≤ 4 ∧ (4 : Int) + 1 < 9223372036854775808 ∧
      ((zero.run iotaMsgTypes [⟨.signedMessage ⟨[1], ⟨iotaMsgTypes.prepareMsgType⟩⟩⟩]).reachedLimits
          (maxMessageCounts 4) = true ↔
        ∃ k, k ≠ .decided ∧ 0 < (zero.run iotaMsgTypes
          [⟨.signedMessage ⟨[1], ⟨iotaMsgTypes.prepareMsgType⟩⟩⟩]).count k) :=
  have hc := Reachable.zero.run [⟨.signedMessage ⟨[1], ⟨iotaMsgTypes.prepareMsgType⟩⟩⟩]
  ⟨hc, by decide, by decide, reachedLimits_maxMessageCounts_iff hc (by decide) (by decide)⟩

/-! ## What the code does not do -/

/-- The message `Validate` and `Record` both classify as a Proposal, whatever the constants. -/
theorem kind_proposal (t : MsgTypes) (signers : List UInt64) :
    DecodedSSVMessage.kind t ⟨.signedMessage ⟨signers, ⟨t.proposalMsgType⟩⟩⟩ = some .proposal := by
  simp [DecodedSSVMessage.kind]

theorem accepted_replicate_proposal_of (hc : c.commit ≤ 0 ∧ c.decided ≤ 0 ∧ c.postConsensus ≤ 0)
    (signers : List UInt64) (n : Nat) :
    let p : DecodedSSVMessage := ⟨.signedMessage ⟨signers, ⟨t.proposalMsgType⟩⟩⟩
    c.accepted t (List.replicate n p) = List.replicate n p := by
  intro p
  induction n generalizing c with
  | zero => rfl
  | succ n ih =>
    have hacc : c.accepts t p = true :=
      accepts_eq_true_iff_guard.mpr ⟨_, guard_of_kind (kind_proposal t signers), by
        simpa [MessageKind.blockers, count] using hc⟩
    rw [List.replicate_succ, accepted, if_pos hacc, ih]
    rw [deliver_eq, if_pos hacc, kind_proposal]
    exact hc

/-- **Proposals flood**: Proposal is the one kind whose guard does not contain itself, so from
    `MessageCounts{}` EVERY Proposal of a run of `n` Proposals is accepted — and `Record` counts
    them all, past the limit of `1` that `maxMessageCounts` sets. -/
theorem accepted_replicate_proposal (t : MsgTypes) (signers : List UInt64) (n : Nat) :
    let p : DecodedSSVMessage := ⟨.signedMessage ⟨signers, ⟨t.proposalMsgType⟩⟩⟩
    zero.accepted t (List.replicate n p) = List.replicate n p :=
  accepted_replicate_proposal_of (t := t) (by decide) signers n

/-- **One Decided, not `committeeSize + 1`**: with a committee of four, after one aggregate Commit
    the counts have Decided `1 < 4` and no PostConsensus, yet a second aggregate Commit is refused
    by the FIRST guard of the Commit branch (`… || c.Decided > 0 || …`). -/
theorem second_decided_refused :
    let d : DecodedSSVMessage := ⟨.signedMessage ⟨[1, 2, 3], ⟨iotaMsgTypes.commitMsgType⟩⟩⟩
    let c := zero.run iotaMsgTypes [d]
    c.postConsensus = 0 ∧ c.decided < 4 ∧
      c.validate iotaMsgTypes d = .error (.unexpectedMessageType
        ("commit, having pre-consensus: 0, proposal: 0, prepare: 0, commit: 0, decided: 1, " ++
          "round change: 0, post-consensus: 0")) :=
  ⟨rfl, by decide, rfl⟩

/-- **A signerless Commit is let through and never counted**: `Validate` accepts it at the zero
    counts, it is of no kind of the taxonomy, and `Record` leaves every field as it was. -/
theorem signerless_commit_uncounted :
    let m : DecodedSSVMessage := ⟨.signedMessage ⟨[], ⟨iotaMsgTypes.commitMsgType⟩⟩⟩
    zero.validate iotaMsgTypes m = .ok () ∧ m.kind iotaMsgTypes = none ∧
      zero.record iotaMsgTypes m = .ok zero :=
  ⟨rfl, rfl, rfl⟩

end MessageCounts

end Ssv.Validation
