import Ssv.Validation.MessageCounts
import Ssv.Exporter.CacheKey

/-
  `(*MessageCounts).String`: the text every count refusal of `Validate` carries after "having ".

  1. **One field** — the `%v` of a Go `int` is an optional `-` followed by the decimal digits of
     its magnitude; `intValue` reads it back (`intValue_toString`), through `decimalValue`,
     which reads back the digits of `Nat.toDigits` (`Ssv.Exporter.decimalValue_toDigits`).

  2. **The seven fields** — neither a label nor a rendered number holds a `,`, so the text splits
     at its commas into the seven labelled fields (`toString_splitOn`).

  3. **Result** — `String` is injective: two count states render alike only when they are equal,
     so the text of a refusal determines the counts it was refused at (`toString_eq_iff`).
-/

namespace Ssv.Validation

open Ssv.Exporter (decimalValue decimalValue_toDigits not_mem_toDigits)

/-! ## One field -/

/-- The integer a `%v` rendering spells: an optional minus sign, then decimal digits. -/
def intValue : List Char → Int
  | '-' :: ds => -(decimalValue ds : Int)
  | ds => decimalValue ds

theorem intValue_toDigits (n : Nat) : intValue (Nat.toDigits 10 n) = n := by
  unfold intValue
  split
  · -- digits hold no minus sign
    rename_i ds hds
    exact absurd (hds ▸ List.mem_cons_self _ _) (not_mem_toDigits (by decide) n)
  · rw [decimalValue_toDigits]

/-- **`%v` of an `int` reads back.** -/
theorem intValue_toString (i : Int) : intValue (ToString.toString i).data = i := by
  cases i with
  | ofNat m => exact intValue_toDigits m
  | negSucc m =>
    show intValue ('-' :: Nat.toDigits 10 (m + 1)) = _
    simp only [intValue, decimalValue_toDigits]
    rfl

theorem comma_not_mem_toString (i : Int) : ',' ∉ (ToString.toString i).data := by
  cases i with
  | ofNat m => exact not_mem_toDigits (by decide) m
  | negSucc m =>
    show ',' ∉ '-' :: Nat.toDigits 10 (m + 1)
    exact List.not_mem_cons_of_ne_of_not_mem (by decide) (not_mem_toDigits (by decide) _)

/-! ## The seven fields -/

namespace MessageCounts

theorem toString_data (c : MessageCounts) : c.toString.data = [','].intercalate
    ["pre-consensus: ".data ++ (ToString.toString c.preConsensus).data,
      " proposal: ".data ++ (ToString.toString c.proposal).data,
      " prepare: ".data ++ (ToString.toString c.prepare).data,
      " commit: ".data ++ (ToString.toString c.commit).data,
      " decided: ".data ++ (ToString.toString c.decided).data,
      " round change: ".data ++ (ToString.toString c.roundChange).data,
      " post-consensus: ".data ++ (ToString.toString c.postConsensus).data] := by
  simp [toString, List.intercalate]

/-- The text splits at its commas into the seven labelled fields. -/
theorem toString_splitOn (c : MessageCounts) : c.toString.data.splitOn ',' =
    ["pre-consensus: ".data ++ (ToString.toString c.preConsensus).data,
      " proposal: ".data ++ (ToString.toString c.proposal).data,
      " prepare: ".data ++ (ToString.toString c.prepare).data,
      " commit: ".data ++ (ToString.toString c.commit).data,
      " decided: ".data ++ (ToString.toString c.decided).data,
      " round change: ".data ++ (ToString.toString c.roundChange).data,
      " post-consensus: ".data ++ (ToString.toString c.postConsensus).data] := by
  rw [toString_data, List.splitOn_intercalate _ _ ?_ (by simp)]
  -- no label and no rendered number holds a comma
  intro l hl
  simp only [List.mem_cons, List.not_mem_nil, or_false] at hl
  rcases hl with rfl | rfl | rfl | rfl | rfl | rfl | rfl <;>
    exact List.not_mem_append (by decide) (comma_not_mem_toString _)

/-- **The text determines the counts**: `String` renders two count states alike only when they
    are equal. -/
theorem toString_eq_iff {c c' : MessageCounts} : c.toString = c'.toString ↔ c = c' := by
  refine ⟨fun h => ?_, fun h => h ▸ rfl⟩
  have hparts := congrArg (fun s : String => s.data.splitOn ',') h
  simp only [toString_splitOn, List.cons.injEq, List.append_cancel_left_eq, and_true] at hparts
  -- each field reads back from its rendering
  have read {i j : Int} (hij : (ToString.toString i).data = (ToString.toString j).data) :
      i = j := by
    rw [← intValue_toString i, hij, intValue_toString]
  obtain ⟨h₁, h₂, h₃, h₄, h₅, h₆, h₇⟩ := hparts
  cases c; cases c'
  simp only [mk.injEq]
  exact ⟨read h₁, read h₂, read h₃, read h₄, read h₅, read h₆, read h₇⟩

end MessageCounts

end Ssv.Validation
