import Ssv.Validation.Message

/-
  `message_counts.go`: the per-(validator, slot, round, signer) admission counter.

  1. **Program** — `MessageCounts` (seven Go `int` fields), `maxMessageCounts`, `String`,
     `Validate`, `Record` and `ReachedLimits`, each translated branch for branch.  `Record`'s
     `panic` is the `.error` of its `Except`; Go's `int` is 64 bits wide and `x++` wraps
     (`wrapInt`).

  2. **Kind-indexed view** — `count k` reads the field of kind `k`, `bump k` is that field's
     `++`, `tally` is `bump` on an optional kind.

  3. **Spec lemmas** — `Validate` IS a guard table: it refuses a message exactly when one of the
     kinds `guard` lists for it has a positive count (`validate_eq_ok_iff`), and for a message of
     kind `k` that list is `k.blockers` (`guard_of_kind`).  `Record` IS `tally` of the message's
     kind on every body `Validate` can accept (`record_eq_tally`).  Every later proof goes through
     these three and never unfolds `Validate` or `Record` again.

  4. **Results on the data** — every refusal is `ErrUnexpectedMessageType` naming the refusing
     branch and ALL seven counts, or the error for an unknown body (`validate_error_got`); after
     an accepted message `Record` adds one to its kind's count and leaves the others
     (`record_count_of_validate`).
-/

namespace Ssv.Validation

/-! ## Go's `int` -/

/-- Go's `int` on the 64-bit targets the node is built for: a result wraps into
    `[-2^63, 2^63)` (`2^63 = 9223372036854775808`). -/
def wrapInt (x : Int) : Int :=
  (x + 9223372036854775808) % 18446744073709551616 - 9223372036854775808

theorem wrapInt_of_lt {x : Int} (h₁ : -9223372036854775808 ≤ x) (h₂ : x < 9223372036854775808) :
    wrapInt x = x := by
  unfold wrapInt
  rw [Int.emod_eq_of_lt (by omega) (by omega)]
  omega

/-! ## The program -/

/-- `MessageCounts`: how many messages of each kind a signer sent within a slot and round. -/
structure MessageCounts where
  preConsensus : Int
  proposal : Int
  prepare : Int
  commit : Int
  decided : Int
  roundChange : Int
  postConsensus : Int
  deriving DecidableEq, Repr

/-- `maxMessageCounts`: the maximum number of acceptable messages from a signer within a slot and
    round. -/
def maxMessageCounts (committeeSize : Int) : MessageCounts where
  preConsensus := 1
  proposal := 1
  prepare := 1
  commit := 1
  decided := wrapInt (committeeSize + 1)
  roundChange := 1
  postConsensus := 1

/-- The errors `Validate` returns. -/
inductive ValidationError where
  /-- `ErrUnexpectedMessageType` with its `got` field set. -/
  | unexpectedMessageType (got : String)
  /-- A plain `fmt.Errorf` error with this text. -/
  | errorf (text : String)
  deriving DecidableEq, Repr

namespace MessageCounts

/-- The zero value `MessageCounts{}` a fresh key starts from. -/
def zero : MessageCounts := ⟨0, 0, 0, 0, 0, 0, 0⟩

/-- `(*MessageCounts).String`, the `%v` of each field after its label. -/
def toString (c : MessageCounts) : String :=
  "pre-consensus: " ++ ToString.toString c.preConsensus ++
  ", proposal: " ++ ToString.toString c.proposal ++
  ", prepare: " ++ ToString.toString c.prepare ++
  ", commit: " ++ ToString.toString c.commit ++
  ", decided: " ++ ToString.toString c.decided ++
  ", round change: " ++ ToString.toString c.roundChange ++
  ", post-consensus: " ++ ToString.toString c.postConsensus

/-- `(*MessageCounts).Validate`.  Go's `&&` binds tighter than `||`, so the source's
    `len(m.Signers) == 1 && c.Commit > 0 || c.Decided > 0 || c.PostConsensus > 0` is the
    parenthesisation written out below. -/
def validate (t : MsgTypes) (c : MessageCounts) (msg : DecodedSSVMessage) :
    Except ValidationError Unit :=
  match msg.body with
  | .signedMessage m =>
    match t.qbftCase m.message.msgType with
    | .proposal =>
      if c.commit > 0 ∨ c.decided > 0 ∨ c.postConsensus > 0 then
        .error (.unexpectedMessageType ("proposal, having " ++ c.toString))
      else .ok ()
    | .prepare =>
      if c.prepare > 0 ∨ c.commit > 0 ∨ c.decided > 0 ∨ c.postConsensus > 0 then
        .error (.unexpectedMessageType ("prepare, having " ++ c.toString))
      else .ok ()
    | .commit =>
      if (m.signers.length = 1 ∧ c.commit > 0) ∨ c.decided > 0 ∨ c.postConsensus > 0 then
        .error (.unexpectedMessageType ("commit, having " ++ c.toString))
      else if (m.signers.length > 1 ∧ c.decided > 0) ∨ c.postConsensus > 0 then
        .error (.unexpectedMessageType ("decided, having " ++ c.toString))
      else .ok ()
    | .roundChange =>
      if c.roundChange > 0 then
        .error (.unexpectedMessageType ("round change, having " ++ c.toString))
      else .ok ()
    | .noCase => .ok ()
  | .signedPartialSignatureMessage m =>
    match t.partialSigCase m.message.type with
    | .preConsensus =>
      if c.preConsensus > 0 then
        .error (.unexpectedMessageType ("pre-consensus, having " ++ c.toString))
      else .ok ()
    | .postConsensus =>
      if c.postConsensus > 0 then
        .error (.unexpectedMessageType ("post-consensus, having " ++ c.toString))
      else .ok ()
    | .noCase => .ok ()
  | .unknown dump => .error (.errorf ("unexpected message type: " ++ dump))

/-- `(*MessageCounts).Record`; `.error` is its `panic`.  A Commit with no signer falls into the
    source's empty `else` ("TODO: panic because 0-length signers should be checked before"). -/
def record (t : MsgTypes) (c : MessageCounts) (msg : DecodedSSVMessage) :
    Except String MessageCounts :=
  match msg.body with
  | .signedMessage m =>
    match t.qbftCase m.message.msgType with
    | .proposal => .ok { c with proposal := wrapInt (c.proposal + 1) }
    | .prepare => .ok { c with prepare := wrapInt (c.prepare + 1) }
    | .commit =>
      if m.signers.length = 1 then .ok { c with commit := wrapInt (c.commit + 1) }
      else if m.signers.length > 1 then .ok { c with decided := wrapInt (c.decided + 1) }
      else .ok c
    | .roundChange => .ok { c with roundChange := wrapInt (c.roundChange + 1) }
    | .noCase => .ok c
  | .signedPartialSignatureMessage m =>
    match t.partialSigCase m.message.type with
    | .preConsensus => .ok { c with preConsensus := wrapInt (c.preConsensus + 1) }
    | .postConsensus => .ok { c with postConsensus := wrapInt (c.postConsensus + 1) }
    | .noCase => .ok c
  | .unknown _ => .error "unexpected message type"

/-- `(*MessageCounts).ReachedLimits`: some field has reached its limit (an OR, not an AND). -/
def reachedLimits (c limits : MessageCounts) : Bool :=
  decide (c.preConsensus ≥ limits.preConsensus) || decide (c.proposal ≥ limits.proposal) ||
  decide (c.prepare ≥ limits.prepare) || decide (c.commit ≥ limits.commit) ||
  decide (c.decided ≥ limits.decided) || decide (c.roundChange ≥ limits.roundChange) ||
  decide (c.postConsensus ≥ limits.postConsensus)

/-! ## The kind-indexed view -/

/-- The field of `c` that counts kind `k`. -/
def count (c : MessageCounts) : MessageKind → Int
  | .preConsensus => c.preConsensus
  | .proposal => c.proposal
  | .prepare => c.prepare
  | .commit => c.commit
  | .decided => c.decided
  | .roundChange => c.roundChange
  | .postConsensus => c.postConsensus

/-- `c` after the `++` of kind `k`'s field. -/
def bump (c : MessageCounts) : MessageKind → MessageCounts
  | .preConsensus => { c with preConsensus := wrapInt (c.preConsensus + 1) }
  | .proposal => { c with proposal := wrapInt (c.proposal + 1) }
  | .prepare => { c with prepare := wrapInt (c.prepare + 1) }
  | .commit => { c with commit := wrapInt (c.commit + 1) }
  | .decided => { c with decided := wrapInt (c.decided + 1) }
  | .roundChange => { c with roundChange := wrapInt (c.roundChange + 1) }
  | .postConsensus => { c with postConsensus := wrapInt (c.postConsensus + 1) }

/-- `bump` on a kind, nothing on a message outside the taxonomy. -/
def tally (c : MessageCounts) : Option MessageKind → MessageCounts
  | some k => c.bump k
  | none => c

variable {c : MessageCounts} {k k' : MessageKind}

theorem count_preConsensus : c.count .preConsensus = c.preConsensus := rfl
theorem count_prepare : c.count .prepare = c.prepare := rfl
theorem count_commit : c.count .commit = c.commit := rfl
theorem count_decided : c.count .decided = c.decided := rfl
theorem count_roundChange : c.count .roundChange = c.roundChange := rfl
theorem count_postConsensus : c.count .postConsensus = c.postConsensus := rfl

@[simp] theorem count_bump_self : (c.bump k).count k = wrapInt (c.count k + 1) := by
  cases k <;> rfl

@[simp] theorem count_bump_of_ne (h : k' ≠ k) : (c.bump k).count k' = c.count k' := by
  cases k <;> cases k' <;> first | rfl | exact absurd rfl h

@[simp] theorem tally_none : c.tally none = c := rfl

@[simp] theorem tally_some : c.tally (some k) = c.bump k := rfl

@[simp] theorem count_zero : zero.count k = 0 := by cases k <;> rfl

/-- `ReachedLimits` holds exactly when SOME kind's count has reached its limit. -/
theorem reachedLimits_eq_true_iff {limits : MessageCounts} :
    c.reachedLimits limits = true ↔ ∃ k, limits.count k ≤ c.count k := by
  simp only [reachedLimits, Bool.or_eq_true, decide_eq_true_eq, ge_iff_le]
  constructor
  · rintro ((((((h | h) | h) | h) | h) | h) | h)
    exacts [⟨.preConsensus, h⟩, ⟨.proposal, h⟩, ⟨.prepare, h⟩, ⟨.commit, h⟩, ⟨.decided, h⟩,
      ⟨.roundChange, h⟩, ⟨.postConsensus, h⟩]
  · rintro ⟨k, hk⟩
    cases k <;> simp only [count] at hk <;> simp only [hk, true_or, or_true]

end MessageCounts

/-- Every limit is `1` except Decided's, which is `committeeSize + 1` as long as that sum is a
    Go `int`. -/
theorem count_maxMessageCounts {n : Int} (h₁ : -9223372036854775808 ≤ n + 1)
    (h₂ : n + 1 < 9223372036854775808)
    (k : MessageKind) :
    (maxMessageCounts n).count k = if k = .decided then n + 1 else 1 := by
  cases k <;> simp [maxMessageCounts, MessageCounts.count, wrapInt_of_lt h₁ h₂]

/-! ## `Validate` is a guard table -/

/-- What `Validate` checks for a message of kind `k`: it refuses the message once one of these
    kinds has been counted. -/
def MessageKind.blockers : MessageKind → List MessageKind
  | .proposal => [.commit, .decided, .postConsensus]
  | .prepare => [.prepare, .commit, .decided, .postConsensus]
  | .commit => [.commit, .decided, .postConsensus]
  | .decided => [.decided, .postConsensus]
  | .roundChange => [.roundChange]
  | .preConsensus => [.preConsensus]
  | .postConsensus => [.postConsensus]

/-- The kinds whose counts `Validate` inspects for `msg`: it refuses `msg` as soon as one of them
    is positive.  `none`: refused whatever the counts. -/
def DecodedSSVMessage.guard (t : MsgTypes) (msg : DecodedSSVMessage) :
    Option (List MessageKind) :=
  match msg.body with
  | .signedMessage m =>
    match t.qbftCase m.message.msgType with
    | .proposal => some [.commit, .decided, .postConsensus]
    | .prepare => some [.prepare, .commit, .decided, .postConsensus]
    | .commit =>
      if m.signers.length = 1 then some [.commit, .decided, .postConsensus]
      else some [.decided, .postConsensus]
    | .roundChange => some [.roundChange]
    | .noCase => some []
  | .signedPartialSignatureMessage m =>
    match t.partialSigCase m.message.type with
    | .preConsensus => some [.preConsensus]
    | .postConsensus => some [.postConsensus]
    | .noCase => some []
  | .unknown _ => none

namespace MessageCounts

variable {t : MsgTypes} {c : MessageCounts} {msg : DecodedSSVMessage} {k : MessageKind}

/-- **`Validate` is a guard table**: it accepts `msg` exactly when none of the kinds `guard`
    lists for it has a positive count. -/
theorem validate_eq_ok_iff :
    c.validate t msg = .ok () ↔ ∃ ks, msg.guard t = some ks ∧ ∀ k ∈ ks, c.count k ≤ 0 := by
  rcases msg with ⟨m | m | d⟩ <;> simp only [validate, DecodedSSVMessage.guard] <;>
    [cases t.qbftCase m.message.msgType; cases t.partialSigCase m.message.type; simp]
  -- each branch's condition against its guard's kinds
  all_goals
    dsimp only; (try split_ifs) <;>
      simp only [reduceCtorEq, Option.some.injEq, exists_eq_left', List.forall_mem_cons,
        List.not_mem_nil, false_implies, implies_true, count_preConsensus, count_prepare,
        count_commit, count_decided, count_roundChange, count_postConsensus, and_true, false_iff,
        true_iff, not_and_or, not_le, gt_iff_lt] <;> omega

/-- **Every refusal says why**: `Validate` refuses with `ErrUnexpectedMessageType` whose `got` is
    the label of the branch that refused followed by ALL seven counts, or, for a body of no known
    type, with the "unexpected message type" error that names it. -/
theorem validate_error_got {e : ValidationError} (h : c.validate t msg = .error e) :
    (∃ label ∈ ["proposal", "prepare", "commit", "decided", "round change", "pre-consensus",
        "post-consensus"], e = .unexpectedMessageType (label ++ ", having " ++ c.toString)) ∨
    (∃ dump, msg.body = .unknown dump ∧ e = .errorf ("unexpected message type: " ++ dump)) := by
  rcases msg with ⟨m | m | d⟩ <;> simp only [validate] at h
  · left
    generalize t.qbftCase m.message.msgType = q at h
    cases q <;> dsimp only at h <;> (try split_ifs at h) <;> cases h <;> simp
  · left
    generalize t.partialSigCase m.message.type = q at h
    cases q <;> dsimp only at h <;> (try split_ifs at h) <;> cases h <;> simp
  · cases h
    exact .inr ⟨d, rfl, rfl⟩

/-- For a message of the taxonomy the guard is its kind's `blockers`. -/
theorem guard_of_kind (h : msg.kind t = some k) : msg.guard t = some k.blockers := by
  rcases msg with ⟨m | m | d⟩
  · rw [DecodedSSVMessage.kind_signedMessage] at h
    simp only [DecodedSSVMessage.guard]
    generalize t.qbftCase m.message.msgType = q at h ⊢
    cases q <;> simp only [] at h ⊢ <;> (try split_ifs at h ⊢) <;>
      first | omega | (cases h <;> rfl)
  · rw [DecodedSSVMessage.kind_signedPartialSignatureMessage] at h
    simp only [DecodedSSVMessage.guard]
    generalize t.partialSigCase m.message.type = q at h ⊢
    cases q <;> simp only [] at h ⊢ <;> cases h <;> rfl
  · cases h

/-- No guard reads the Proposal count. -/
theorem proposal_not_mem_guard {ks : List MessageKind} (h : msg.guard t = some ks) :
    MessageKind.proposal ∉ ks := by
  rcases msg with ⟨m | m | d⟩ <;> simp only [DecodedSSVMessage.guard] at h
  · generalize t.qbftCase m.message.msgType = q at h
    cases q <;> simp only [] at h <;> (try split_ifs at h) <;> cases h <;> decide
  · generalize t.partialSigCase m.message.type = q at h
    cases q <;> cases h <;> decide
  · cases h

/-- **`Record` is `tally`**: wherever `Validate` accepts, `Record` does not panic and bumps the
    field of the message's kind, or nothing for a message outside the taxonomy. -/
theorem record_eq_tally (h : c.validate t msg = .ok ()) :
    c.record t msg = .ok (c.tally (msg.kind t)) := by
  rcases msg with ⟨m | m | d⟩ <;> simp only [record, DecodedSSVMessage.kind_signedMessage,
    DecodedSSVMessage.kind_signedPartialSignatureMessage]
  · cases t.qbftCase m.message.msgType <;> simp only [] <;> (try split_ifs) <;> rfl
  · cases t.partialSigCase m.message.type <;> rfl
  · cases h

/-- **`Record` after `Validate`**: wherever `Validate` accepts, `Record` does not panic, adds one
    (as a Go `int`) to the count of the message's kind and leaves every other count. -/
theorem record_count_of_validate (h : c.validate t msg = .ok ()) :
    ∃ c', c.record t msg = .ok c' ∧
      ∀ k, c'.count k = if msg.kind t = some k then wrapInt (c.count k + 1) else c.count k := by
  refine ⟨_, record_eq_tally h, fun k => ?_⟩
  cases hk : msg.kind t with
  | none => simp
  | some k' =>
    by_cases hkk : k = k'
    · subst hkk; simp
    · simp [hkk, Ne.symm hkk]

theorem record_count_of_validate_prepare :
    zero.validate iotaMsgTypes ⟨.signedMessage ⟨[1], ⟨iotaMsgTypes.prepareMsgType⟩⟩⟩ = .ok () ∧
      ∃ c', zero.record iotaMsgTypes ⟨.signedMessage ⟨[1], ⟨iotaMsgTypes.prepareMsgType⟩⟩⟩ =
          .ok c' ∧
        ∀ k, c'.count k =
          if DecodedSSVMessage.kind iotaMsgTypes
              ⟨.signedMessage ⟨[1], ⟨iotaMsgTypes.prepareMsgType⟩⟩⟩ = some k
          then wrapInt (zero.count k + 1) else zero.count k :=
  ⟨rfl, record_count_of_validate (t := iotaMsgTypes) rfl⟩

end MessageCounts

/-- Every kind but Proposal blocks itself: a second message of that kind is refused. -/
theorem MessageKind.mem_blockers_self {k : MessageKind} (h : k ≠ .proposal) : k ∈ k.blockers := by
  cases k <;> first | exact absurd rfl h | decide

/-- No kind must precede a Proposal. -/
theorem MessageKind.ne_proposal_of_mustPrecede {a b : MessageKind} (h : a.mustPrecede b = true) :
    b ≠ .proposal := by
  rintro rfl; cases a <;> cases h

/-- The precedence is enforced through the guards: if `a` must precede `b`, a counted `b`
    blocks every later `a`. -/
theorem MessageKind.mem_blockers_of_mustPrecede {a b : MessageKind} (h : a.mustPrecede b = true) :
    b ∈ a.blockers := by
  cases a <;> cases b <;> first | exact absurd h (by decide) | decide

end Ssv.Validation
