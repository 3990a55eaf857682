import Mathlib.Data.List.Basic
import Mathlib.Tactic.Ring
import Mathlib.Data.Nat.Digits

/-
  The cache key of the decided-stream publisher (`exporter/api/decided/stream.go`):

      identifier := hex.EncodeToString(msg.Identifier[:])
      key := fmt.Sprintf("%s:%d:%d", identifier, msg.Slot, len(msg.Signers))

  1. **Program** — `hexEncode` is `encoding/hex`'s loop (`hextable[v>>4]`, `hextable[v&0x0f]`),
     `%d` of a non-negative integer is `Nat.repr`, and `cacheKey` is the `Sprintf`.

  2. **Round trips** — both encodings READ BACK: `hexDecode (hexEncode src) = src` and
     `decimalValue (Nat.toDigits 10 n) = n`.  Neither writes a `:`.

  3. **Injectivity** — the key splits at its two `:` into the three renderings, so two entries
     get the same key exactly when they agree on identifier, slot and number of signers
     (`cacheKey_eq_iff`).
-/

namespace Ssv.Exporter

/-- `spectypes.MessageID`, a `[56]byte`. -/
structure MessageID where
  bytes : List UInt8
  length_eq : bytes.length = 56

/-- `qbftstorage.ParticipantsRangeEntry`: a slot, its signers (`[]spectypes.OperatorID`) and
    the duty's identifier. -/
structure ParticipantsRangeEntry where
  slot : UInt64
  signers : List UInt64
  identifier : MessageID

/-- What the key of an entry is meant to determine: identifier, slot and number of signers. -/
def ParticipantsRangeEntry.triple (msg : ParticipantsRangeEntry) : List UInt8 × UInt64 × Nat :=
  (msg.identifier.bytes, msg.slot, msg.signers.length)

/-! ## The program -/

/-- `hextable` of `encoding/hex`. -/
def hextable : List Char :=
  ['0', '1', '2', '3', '4', '5', '6', '7', '8', '9', 'a', 'b', 'c', 'd', 'e', 'f']

/-- `hex.Encode`: every byte `v` becomes `hextable[v>>4]` then `hextable[v&0x0f]`. -/
def hexEncode (src : List UInt8) : List Char :=
  src.flatMap fun v => [hextable.getD (v >>> 4).toNat '0', hextable.getD (v &&& 0x0f).toNat '0']

/-- `hex.EncodeToString`. -/
def encodeToString (src : List UInt8) : String := ⟨hexEncode src⟩

/-- `fmt.Sprintf("%s:%d:%d", identifier, msg.Slot, len(msg.Signers))`, `%d` of a non-negative
    integer being its decimal digits. -/
def cacheKey (msg : ParticipantsRangeEntry) : String :=
  encodeToString msg.identifier.bytes ++ ":" ++ Nat.repr msg.slot.toNat ++ ":" ++
    Nat.repr msg.signers.length

/-! ## Hex reads back -/

/-- The digit's position in `hextable`. -/
def hexValue (c : Char) : Nat := hextable.indexOf c

/-- `hex.Decode` on well-formed input: two digits per byte. -/
def hexDecode : List Char → List UInt8
  | hi :: lo :: rest => UInt8.ofNat (hexValue hi * 16 + hexValue lo) :: hexDecode rest
  | _ => []

theorem hexValue_getD : ∀ d < 16, hexValue (hextable.getD d '0') = d := by decide

theorem getD_hextable_ne_colon : ∀ d < 16, hextable.getD d '0' ≠ ':' := by decide

theorem shiftRight_four_toNat (v : UInt8) : (v >>> 4).toNat = v.toNat / 16 := by
  show (v.toBitVec >>> (UInt8.mod 4 8).toBitVec).toNat = _
  simp [BitVec.toNat_ushiftRight, Nat.shiftRight_eq_div_pow]
  rfl

theorem and_fifteen_toNat (v : UInt8) : (v &&& 0x0f).toNat = v.toNat % 16 := by
  rw [UInt8.and_toNat]
  show v.toNat &&& (2 ^ 4 - 1) = _
  rw [Nat.and_pow_two_sub_one_eq_mod]

/-- **Hex round trip.** -/
theorem hexDecode_hexEncode (src : List UInt8) : hexDecode (hexEncode src) = src := by
  induction src with
  | nil => rfl
  | cons v src ih =>
    have hv := UInt8.toNat_lt_size v
    have hhi : v.toNat / 16 < 16 := by unfold UInt8.size at hv; omega
    have hlo : v.toNat % 16 < 16 := Nat.mod_lt _ (by decide)
    simp only [hexEncode, List.flatMap_cons, List.cons_append, List.nil_append] at ih ⊢
    rw [hexDecode, ih, shiftRight_four_toNat, and_fifteen_toNat, hexValue_getD _ hhi,
      hexValue_getD _ hlo]
    congr 1
    apply UInt8.toNat.inj
    rw [UInt8.toNat_ofNat_of_lt (by unfold UInt8.size at hv ⊢; omega)]
    omega

theorem colon_not_mem_hexEncode (src : List UInt8) : ':' ∉ hexEncode src := by
  simp only [hexEncode, List.mem_flatMap, List.mem_cons, List.mem_singleton, List.not_mem_nil,
    or_false, not_exists, not_and]
  intro v _ h
  have hv := UInt8.toNat_lt_size v
  unfold UInt8.size at hv
  rw [shiftRight_four_toNat, and_fifteen_toNat] at h
  rcases h with h | h
  · exact getD_hextable_ne_colon _ (by omega) h.symm
  · exact getD_hextable_ne_colon _ (Nat.mod_lt _ (by decide)) h.symm

/-! ## Decimal reads back -/

/-- The number a string of decimal digits spells. -/
def decimalValue : List Char → Nat
  | [] => 0
  | c :: cs => (c.toNat - 48) * 10 ^ cs.length + decimalValue cs

theorem digitChar_value : ∀ d < 10, (Nat.digitChar d).toNat - 48 = d := by decide

theorem digitChar_ne_colon : ∀ d < 10, Nat.digitChar d ≠ ':' := by decide

/-- `toDigitsCore` puts the digits of `n` in front of what it has already produced. -/
theorem decimalValue_toDigitsCore : ∀ (fuel n : Nat) (ds : List Char), n < fuel →
    decimalValue (Nat.toDigitsCore 10 fuel n ds) = n * 10 ^ ds.length + decimalValue ds
  | 0, _, _, h => absurd h (Nat.not_lt_zero _)
  | fuel + 1, n, ds, h => by
    have hd := digitChar_value (n % 10) (Nat.mod_lt _ (by decide))
    have hdiv := Nat.div_add_mod n 10
    simp only [Nat.toDigitsCore]
    split
    · rename_i h0
      rw [decimalValue, hd, show n % 10 = n by omega]
    · rename_i h0
      rw [decimalValue_toDigitsCore fuel (n / 10) _ (by omega), decimalValue, hd,
        List.length_cons, Nat.pow_succ]
      calc n / 10 * (10 ^ ds.length * 10) + (n % 10 * 10 ^ ds.length + decimalValue ds)
          = (10 * (n / 10) + n % 10) * 10 ^ ds.length + decimalValue ds := by ring
        _ = n * 10 ^ ds.length + decimalValue ds := by rw [hdiv]

/-- **Decimal round trip.** -/
theorem decimalValue_toDigits (n : Nat) : decimalValue (Nat.toDigits 10 n) = n := by
  simpa using decimalValue_toDigitsCore (n + 1) n [] (Nat.lt_succ_self n)

/-- `toDigitsCore` writes only digits: a character no digit equals is not added. -/
theorem not_mem_toDigitsCore {ch : Char} (hch : ∀ d < 10, Nat.digitChar d ≠ ch) :
    ∀ (fuel n : Nat) (ds : List Char), ch ∉ ds → ch ∉ Nat.toDigitsCore 10 fuel n ds
  | 0, _, _, h => h
  | fuel + 1, n, ds, h => by
    have hd := hch (n % 10) (Nat.mod_lt _ (by decide))
    simp only [Nat.toDigitsCore]
    split
    · exact List.not_mem_cons_of_ne_of_not_mem hd.symm h
    · exact not_mem_toDigitsCore hch fuel _ _ (List.not_mem_cons_of_ne_of_not_mem hd.symm h)

theorem not_mem_toDigits {ch : Char} (hch : ∀ d < 10, Nat.digitChar d ≠ ch) (n : Nat) :
    ch ∉ Nat.toDigits 10 n :=
  not_mem_toDigitsCore hch _ _ _ (List.not_mem_nil _)

/-! ## The key determines the triple -/

theorem cacheKey_data (msg : ParticipantsRangeEntry) :
    (cacheKey msg).data = [':'].intercalate [hexEncode msg.identifier.bytes,
      Nat.toDigits 10 msg.slot.toNat, Nat.toDigits 10 msg.signers.length] := by
  simp [cacheKey, encodeToString, Nat.repr, List.asString, List.intercalate]

/-- The key splits at its colons into the three renderings. -/
theorem cacheKey_splitOn (msg : ParticipantsRangeEntry) :
    (cacheKey msg).data.splitOn ':' = [hexEncode msg.identifier.bytes,
      Nat.toDigits 10 msg.slot.toNat, Nat.toDigits 10 msg.signers.length] := by
  rw [cacheKey_data, List.splitOn_intercalate _ _
    (by simp [colon_not_mem_hexEncode, not_mem_toDigits digitChar_ne_colon]) (by simp)]

/-- **The key is injective on triples**: two entries get the same key exactly when they agree on
    identifier, slot and number of signers. -/
theorem cacheKey_eq_iff {msg msg' : ParticipantsRangeEntry} :
    cacheKey msg = cacheKey msg' ↔ msg.triple = msg'.triple := by
  constructor
  · intro h
    have hparts := congrArg (fun s : String => s.data.splitOn ':') h
    simp only [cacheKey_splitOn, List.cons.injEq, and_true] at hparts
    obtain ⟨hid, hslot, hlen⟩ := hparts
    -- each part reads back
    have hex := Function.LeftInverse.injective hexDecode_hexEncode
    have dec := Function.LeftInverse.injective (f := Nat.toDigits 10) decimalValue_toDigits
    simp only [ParticipantsRangeEntry.triple, hex hid, UInt64.toNat.inj (dec hslot), dec hlen]
  · intro h
    obtain ⟨hid, hslot, hlen⟩ : _ ∧ _ ∧ _ := by simpa [ParticipantsRangeEntry.triple] using h
    simp only [cacheKey, hid, hslot, hlen]

end Ssv.Exporter
