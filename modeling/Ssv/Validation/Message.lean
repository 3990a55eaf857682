import Mathlib.Data.List.Basic

/-
  The decoded messages the admission counter (`message_counts.go`) sees, and the message
  TAXONOMY both of its switches are meant to implement.

  `MessageCounts.Validate` and `MessageCounts.Record` each start with a type switch on
  `msg.Body` (a QBFT `*specqbft.SignedMessage`, a `*spectypes.SignedPartialSignatureMessage`,
  or anything else) and then a value switch on the QBFT message type or the partial-signature
  type.  Those types are plain `uint64`s declared with `iota` in the spec library, which is not
  part of this repository, so the constants the switches compare against are a PARAMETER
  (`MsgTypes`): every result holds for every assignment of them, the library's own included.

  Only the fields the counter reads are kept: the QBFT type and the signer list of a signed
  QBFT message, and the type of a partial-signature message.

  The taxonomy (`DecodedSSVMessage.kind`) is the spec's: seven kinds, Decided being a Commit
  carried by more than one signer, read off the type constants directly.  The case selection of
  the two switches (`MsgTypes.qbftCase`, `MsgTypes.partialSigCase`) is proved to implement it
  (`kind_signedMessage`, `kind_signedPartialSignatureMessage`).  `MessageKind.mustPrecede` is the
  per-round precedence the protocol intends.
-/

namespace Ssv.Validation

/-- The constants the two switches of the counter compare against: `specqbft.ProposalMsgType`,
    …, `specqbft.RoundChangeMsgType` (a `specqbft.MessageType = uint64`) and
    `spectypes.RandaoPartialSig`, …, `spectypes.PostConsensusPartialSig`
    (a `spectypes.PartialSigMsgType = uint64`). -/
structure MsgTypes where
  proposalMsgType : UInt64
  prepareMsgType : UInt64
  commitMsgType : UInt64
  roundChangeMsgType : UInt64
  randaoPartialSig : UInt64
  selectionProofPartialSig : UInt64
  contributionProofs : UInt64
  validatorRegistrationPartialSig : UInt64
  postConsensusPartialSig : UInt64
  deriving Repr

/-- The assignment the spec library makes with `iota`: QBFT types `0, 1, 2, 3` and
    partial-signature types `PostConsensusPartialSig = 0`, `RandaoPartialSig = 1`, … -/
def iotaMsgTypes : MsgTypes where
  proposalMsgType := 0
  prepareMsgType := 1
  commitMsgType := 2
  roundChangeMsgType := 3
  postConsensusPartialSig := 0
  randaoPartialSig := 1
  selectionProofPartialSig := 2
  contributionProofs := 3
  validatorRegistrationPartialSig := 4

/-- The case a `switch m.Message.MsgType` of the counter takes: the first constant equal to the
    message's QBFT type, or none of them. -/
inductive QBFTCase where
  | proposal | prepare | commit | roundChange | noCase
  deriving DecidableEq, Repr

/-- `switch msgType { case ProposalMsgType: … case PrepareMsgType: … case CommitMsgType: …
    case RoundChangeMsgType: … }`, cases tried in order. -/
def MsgTypes.qbftCase (t : MsgTypes) (msgType : UInt64) : QBFTCase :=
  if msgType = t.proposalMsgType then .proposal
  else if msgType = t.prepareMsgType then .prepare
  else if msgType = t.commitMsgType then .commit
  else if msgType = t.roundChangeMsgType then .roundChange
  else .noCase

@[simp] theorem MsgTypes.qbftCase_proposalMsgType (t : MsgTypes) :
    t.qbftCase t.proposalMsgType = .proposal := if_pos rfl

/-- The case a `switch m.Message.Type` of the counter takes. -/
inductive PartialSigCase where
  | preConsensus | postConsensus | noCase
  deriving DecidableEq, Repr

/-- `switch type { case RandaoPartialSig, SelectionProofPartialSig, ContributionProofs,
    ValidatorRegistrationPartialSig: … case PostConsensusPartialSig: … default: … }`. -/
def MsgTypes.partialSigCase (t : MsgTypes) (type : UInt64) : PartialSigCase :=
  if type ∈ [t.randaoPartialSig, t.selectionProofPartialSig, t.contributionProofs,
      t.validatorRegistrationPartialSig] then .preConsensus
  else if type = t.postConsensusPartialSig then .postConsensus
  else .noCase

/-- `specqbft.Message`, reduced to the field the counter reads. -/
structure Message where
  msgType : UInt64
  deriving DecidableEq, Repr

/-- `specqbft.SignedMessage`: `Signers []types.OperatorID` and the signed `Message`. -/
structure SignedMessage where
  signers : List UInt64
  message : Message
  deriving DecidableEq, Repr

/-- `spectypes.PartialSignatureMessages`, reduced to its `Type`. -/
structure PartialSignatureMessages where
  type : UInt64
  deriving DecidableEq, Repr

/-- `spectypes.SignedPartialSignatureMessage`. -/
structure SignedPartialSignatureMessage where
  message : PartialSignatureMessages
  deriving DecidableEq, Repr

/-- The dynamic type of `DecodedSSVMessage.Body`.  `unknown dump` is any other value, with
    `dump` what `%d` prints for it. -/
inductive Body where
  | signedMessage (m : SignedMessage)
  | signedPartialSignatureMessage (m : SignedPartialSignatureMessage)
  | unknown (dump : String)
  deriving DecidableEq, Repr

/-- `queue.DecodedSSVMessage`, reduced to its `Body`. -/
structure DecodedSSVMessage where
  body : Body
  deriving DecidableEq, Repr

/-! ## The taxonomy -/

/-- The seven message kinds a signer contributes within one round (spec §3 `MessageKind`). -/
inductive MessageKind where
  | preConsensus | proposal | prepare | commit | decided | roundChange | postConsensus
  deriving DecidableEq, Repr

/-- The kind of a decoded message, by the spec's taxonomy, read off the type constants: a Commit
    with exactly one signer is a Commit, with more than one a Decided; Randao, SelectionProof,
    ContributionProofs and ValidatorRegistration partial signatures are PreConsensus.  `none`:
    outside the taxonomy.  Where two constants coincide the first one named decides. -/
def DecodedSSVMessage.kind (t : MsgTypes) (msg : DecodedSSVMessage) : Option MessageKind :=
  match msg.body with
  | .signedMessage m =>
    if m.message.msgType = t.proposalMsgType then some .proposal
    else if m.message.msgType = t.prepareMsgType then some .prepare
    else if m.message.msgType = t.commitMsgType then
      if m.signers.length = 1 then some .commit
      else if 1 < m.signers.length then some .decided
      else none
    else if m.message.msgType = t.roundChangeMsgType then some .roundChange
    else none
  | .signedPartialSignatureMessage m =>
    if m.message.type = t.randaoPartialSig ∨ m.message.type = t.selectionProofPartialSig ∨
        m.message.type = t.contributionProofs ∨ m.message.type = t.validatorRegistrationPartialSig
    then some .preConsensus
    else if m.message.type = t.postConsensusPartialSig then some .postConsensus
    else none
  | .unknown _ => none

/-- **The QBFT switch implements the taxonomy**: the case `switch m.Message.MsgType` takes is the
    message's kind, the Commit case splitting on the number of signers. -/
theorem DecodedSSVMessage.kind_signedMessage (t : MsgTypes) (m : SignedMessage) :
    DecodedSSVMessage.kind t ⟨.signedMessage m⟩ =
      match t.qbftCase m.message.msgType with
      | .proposal => some .proposal
      | .prepare => some .prepare
      | .commit =>
        if m.signers.length = 1 then some .commit
        else if 1 < m.signers.length then some .decided
        else none
      | .roundChange => some .roundChange
      | .noCase => none := by
  unfold DecodedSSVMessage.kind MsgTypes.qbftCase
  dsimp only
  split_ifs <;> rfl

/-- **The partial-signature switch implements the taxonomy.** -/
theorem DecodedSSVMessage.kind_signedPartialSignatureMessage (t : MsgTypes)
    (m : SignedPartialSignatureMessage) :
    DecodedSSVMessage.kind t ⟨.signedPartialSignatureMessage m⟩ =
      match t.partialSigCase m.message.type with
      | .preConsensus => some .preConsensus
      | .postConsensus => some .postConsensus
      | .noCase => none := by
  unfold DecodedSSVMessage.kind MsgTypes.partialSigCase
  simp only [List.mem_cons, List.not_mem_nil, or_false]
  split_ifs <;> rfl

/-- `a.mustPrecede b`: within one round a signer's `a` must come before its `b` (spec §4.1).
    Proposal and Prepare precede Commit, Decided and PostConsensus; Commit precedes Decided and
    PostConsensus; Decided precedes PostConsensus. -/
def MessageKind.mustPrecede : MessageKind → MessageKind → Bool
  | .proposal, .commit | .proposal, .decided | .proposal, .postConsensus => true
  | .prepare, .commit | .prepare, .decided | .prepare, .postConsensus => true
  | .commit, .decided | .commit, .postConsensus => true
  | .decided, .postConsensus => true
  | _, _ => false

/-- Two messages `x` then `y` break the precedence when `y`'s kind must come before `x`'s. -/
def DecodedSSVMessage.outOfOrder (t : MsgTypes) (x y : DecodedSSVMessage) : Bool :=
  match x.kind t, y.kind t with
  | some kx, some ky => ky.mustPrecede kx
  | _, _ => false

end Ssv.Validation
