import Mathlib.Data.List.Basic

/-
  `message/validation/logger_fields.go`: the descriptor the message validator attaches to every
  log record about a message.

  This file is written against the later `queue.DecodedSSVMessage`, whose `Body` is a
  `*specqbft.Message` or a `*spectypes.PartialSignatureMessages` (either possibly `nil`); its
  getters `GetID().GetDutyExecutorID()`, `GetID().GetRoleType()`, `GetType()` and the signed
  message's `OperatorIDs` are kept as the values they return.

  The program: `buildLoggerFields` (a `nil` message is `none`) and `AsZapFields`, the zap fields
  built by the `fields` package being the constructors of `ZapField`, and the two type-name
  tables of `ssvmessage` parameters.
-/

namespace Ssv.Validation.Descriptor

/-- `specqbft.Message`, the fields the descriptor reads. -/
structure QBFTMessage where
  msgType : UInt64
  height : UInt64
  round : UInt64

/-- `spectypes.PartialSignatureMessages`, the field the descriptor reads. -/
structure PartialSignatureMessages where
  slot : UInt64

/-- The dynamic type of `Body`; `none` is a `nil` pointer of that type. -/
inductive Body where
  | message (m : Option QBFTMessage)
  | partialSignatureMessages (m : Option PartialSignatureMessages)
  | other

/-- `queue.DecodedSSVMessage`, with what its getters return.  `role` is a
    `spectypes.RunnerRole` (`int32`). -/
structure DecodedSSVMessage where
  dutyExecutorID : List UInt8
  role : Int
  ssvMessageType : UInt64
  operatorIDs : List UInt64
  body : Body

/-- `ConsensusFields`. -/
structure ConsensusFields where
  round : UInt64
  qbftMessageType : UInt64
  deriving DecidableEq

/-- `LoggerFields`; `consensus` is the `*ConsensusFields` pointer. -/
structure LoggerFields where
  dutyExecutorID : List UInt8
  role : Int
  ssvMessageType : UInt64
  slot : UInt64
  consensus : Option ConsensusFields
  operatorIDs : List UInt64

/-- `(*messageValidator).buildLoggerFields`. -/
def buildLoggerFields : Option DecodedSSVMessage → LoggerFields
  | none => ⟨[], 0, 0, 0, some ⟨0, 0⟩, []⟩
  | some decodedMessage =>
    let descriptor : LoggerFields :=
      ⟨decodedMessage.dutyExecutorID, decodedMessage.role, decodedMessage.ssvMessageType, 0,
        some ⟨0, 0⟩, decodedMessage.operatorIDs⟩
    match decodedMessage.body with
    | .message (some m) => { descriptor with slot := m.height, consensus := some ⟨m.round, m.msgType⟩ }
    | .partialSignatureMessages (some m) => { descriptor with slot := m.slot }
    | _ => descriptor

/-- A zap field, by the constructor that built it. -/
inductive ZapField where
  /-- `fields.DutyExecutorID`. -/
  | dutyExecutorID (v : List UInt8)
  /-- `fields.Role`. -/
  | role (v : Int)
  /-- `zap.String`. -/
  | string (key value : String)
  /-- `fields.Slot`. -/
  | slot (v : UInt64)
  /-- `fields.OperatorIDs`. -/
  | operatorIDs (v : List UInt64)
  /-- `fields.Round`. -/
  | round (v : UInt64)

/-- `LoggerFields.AsZapFields`, with `ssvmessage.MsgTypeToString` and
    `ssvmessage.QBFTMsgTypeToString` as parameters. -/
def LoggerFields.asZapFields (msgTypeToString qbftMsgTypeToString : UInt64 → String)
    (d : LoggerFields) : List ZapField :=
  [.dutyExecutorID d.dutyExecutorID, .role d.role,
    .string "ssv_message_type" (msgTypeToString d.ssvMessageType), .slot d.slot,
    .operatorIDs d.operatorIDs] ++
  match d.consensus with
  | some c => [.round c.round, .string "qbft_message_type" (qbftMsgTypeToString c.qbftMessageType)]
  | none => []

end Ssv.Validation.Descriptor
