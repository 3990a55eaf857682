import Mathlib.Data.List.Basic

/-
  `beacon/goclient/goclient.go`: the operator's client of its consensus (beacon) node.

  1. **Program** — `Healthy`, the health check that also sets the `ssv_beacon_status` gauge, given
     what `NodeSyncing` returned; and `slotStartTime`, which turns a slot into a wall-clock time
     through Go's `uint64` and `int64` arithmetic.  The network's genesis time and slot duration
     are the values of `gc.network.MinGenesisTime()` and `uint64(SlotDurationSec().Seconds())`.

  2. **Result** — `slotStartTime` is the genesis time plus `slot` slot durations EXACTLY while
     that many nanoseconds fit in an `int64`; past it the duration wraps
     (`slotStartTime_eq_iff`).  The genesis time is bounded so that `time.Time` holds every time
     an `int64` duration can reach from it: `time.Unix` keeps the seconds since year 1 (Unix
     seconds plus `62135596800`) in an `int64`, and `Add` moves them by at most `9223372037`;
     below the bound neither wraps nor saturates, in any Go release.
-/

namespace Ssv.Beacon

/-! ## `Healthy` -/

/-- `statusUnknown`. -/
def statusUnknown : Int := 0

/-- `statusSyncing`. -/
def statusSyncing : Int := 1

/-- `statusOK`. -/
def statusOK : Int := 2

/-- `apiv1.SyncState`, the fields `Healthy` reads. -/
structure SyncState where
  isSyncing : Bool
  isOptimistic : Bool

/-- `(*goClient).Healthy`, given what `gc.client.NodeSyncing` returned: an error (its text), a nil
    response (`none`), or a response whose `Data` is nil (`some none`) or not.  It returns the value
    it leaves in `metricsBeaconNodeStatus`, which every path sets, and its error (`none` is
    `nil`). -/
def healthy (nodeSyncing : Except String (Option (Option SyncState))) : Int × Option String :=
  match nodeSyncing with
  | .error err => (statusUnknown, some ("failed to obtain node syncing status: " ++ err))
  | .ok none => (statusUnknown, some "node syncing response is nil")
  | .ok (some none) => (statusUnknown, some "node syncing data is nil")
  | .ok (some (some syncState)) =>
    if syncState.isSyncing then (statusSyncing, some "syncing")
    else if syncState.isOptimistic then (statusSyncing, some "optimistic")
    else (statusOK, none)

/-! ## `slotStartTime` -/

/-- The `beaconprotocol.Network` values `slotStartTime` reads. -/
structure Network where
  /-- `MinGenesisTime()`, Unix seconds. -/
  minGenesisTime : UInt64
  /-- `uint64(SlotDurationSec().Seconds())`. -/
  slotDurationSec : UInt64

/-- Go's `int64(u)` of a 64-bit pattern: the integer it stands for in two's complement. -/
def int64Of (u : UInt64) : Int :=
  if u.toNat < 9223372036854775808 then u.toNat else u.toNat - 18446744073709551616

/-- `(*goClient).slotStartTime`, as Unix nanoseconds.  The `uint64` product of the slot and the
    slot duration becomes a `time.Duration` and is multiplied by `time.Second` in `int64`: both
    products wrap modulo `2^64`, so they are computed on the 64-bit pattern. -/
def slotStartTime (network : Network) (slot : UInt64) : Int :=
  let duration := int64Of (1000000000 * (slot * network.slotDurationSec))
  int64Of network.minGenesisTime * 1000000000 + duration

/-- The nanosecond pattern of `slotStartTime` is the exact product, modulo `2^64`. -/
theorem toNat_duration (network : Network) (slot : UInt64) :
    (1000000000 * (slot * network.slotDurationSec)).toNat =
      slot.toNat * network.slotDurationSec.toNat * 1000000000 % 18446744073709551616 := by
  show 1000000000 * (slot.toNat * network.slotDurationSec.toNat % 18446744073709551616) %
    18446744073709551616 = _
  rw [Nat.mul_mod_mod, Nat.mul_comm]

/-- **Slot start times are exact until the nanoseconds overflow**: for a genesis time from which
    `time.Time` reaches every `int64` duration without wrapping or saturating its seconds,
    `slotStartTime` is the genesis time plus `slot` slot durations exactly when that many
    nanoseconds fit in an `int64`; past that the duration wraps. -/
theorem slotStartTime_eq_iff (network : Network) (slot : UInt64)
    (hg : network.minGenesisTime.toNat + 62135596800 + 9223372037 < 9223372036854775808) :
    slotStartTime network slot =
        ((network.minGenesisTime.toNat + slot.toNat * network.slotDurationSec.toNat) * 1000000000 :
          Nat) ↔
      slot.toNat * network.slotDurationSec.toNat * 1000000000 < 9223372036854775808 := by
  unfold slotStartTime int64Of
  dsimp only
  rw [if_pos (by omega), toNat_duration]
  generalize slot.toNat * network.slotDurationSec.toNat = n
  split_ifs <;> omega

theorem slotStartTime_eq_iff_mainnet :
    (1606824023 : UInt64).toNat + 62135596800 + 9223372037 < 9223372036854775808 ∧
      (slotStartTime ⟨1606824023, 12⟩ 768614337 =
          (((1606824023 : UInt64).toNat + (768614337 : UInt64).toNat * (12 : UInt64).toNat) *
            1000000000 : Nat) ↔
        (768614337 : UInt64).toNat * (12 : UInt64).toNat * 1000000000 < 9223372036854775808) :=
  ⟨by decide, slotStartTime_eq_iff ⟨1606824023, 12⟩ 768614337 (by decide)⟩

end Ssv.Beacon
