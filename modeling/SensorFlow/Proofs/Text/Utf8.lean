import Mathlib.Data.List.Basic
import SensorFlow.Text.Utf8

/-!
# Texts and their bytes

Encoding a text loses nothing: the bytes are valid and read back as the text. A zero byte stands
only for the character zero.
-/
namespace SensorFlow.Text.Utf8
set_option autoImplicit false

theorem start?_two (lead : Nat) (hLow : 2 ≤ lead) (hHigh : lead < 32) :
    start? (lead + 192) = some { bits := lead, owed := 1 } := by
  simp [start?, show ¬ lead + 192 < 128 by omega, show ¬ lead + 192 < 194 by omega,
    show lead + 192 < 224 by omega]

theorem start?_three (lead : Nat) (hHigh : lead < 16) :
    start? (lead + 224) = some {
      bits := lead
      owed := 2
      low := if lead = 0 then 160 else 128
      high := if lead = 13 then 159 else 191 } := by
  simp [start?, show ¬ lead + 224 < 128 by omega, show ¬ lead + 224 < 194 by omega,
    show lead + 224 < 240 by omega]

theorem start?_four (lead : Nat) (hHigh : lead < 5) :
    start? (lead + 240) = some {
      bits := lead
      owed := 3
      low := if lead = 0 then 144 else 128
      high := if lead = 4 then 143 else 191 } := by
  simp [start?, show ¬ lead + 240 < 128 by omega, show ¬ lead + 240 < 194 by omega,
    show ¬ lead + 240 < 224 by omega, show ¬ lead + 240 < 240 by omega,
    show lead + 240 < 245 by omega]

theorem unitsFrom_lead {byte : Nat} (hByte : byte < 256) {begun : Begun}
    (hStart : start? byte = some begun) (hOwed : begun.owed ≠ 0) (rest : List UInt8) :
    unitsFrom none (UInt8.ofNat byte :: rest) = unitsFrom (some begun) rest := by
  simp [unitsFrom, step, begin, UInt8.toNat_ofNat_of_lt' hByte, hStart, hOwed]

theorem step_next {begun : Begun} {digit : Nat} (hDigit : digit < 64)
    (hLow : begun.low ≤ digit + 128) (hHigh : digit + 128 ≤ begun.high) :
    step (some begun) (UInt8.ofNat (digit + 128)).toNat =
      if begun.owed ≤ 1 then ([some (Char.ofNat (begun.bits * 64 + digit))], none)
      else ([], some { bits := begun.bits * 64 + digit, owed := begun.owed - 1 }) := by
  have hByte : (UInt8.ofNat (digit + 128)).toNat = digit + 128 :=
    UInt8.toNat_ofNat_of_lt' (show digit + 128 < 256 by omega)
  rw [step, hByte]
  simp [hLow, hHigh]

theorem unitsFrom_next {begun : Begun} {owed : Nat} (hOwed : begun.owed = owed + 2) {digit : Nat}
    (hDigit : digit < 64) (hLow : begun.low ≤ digit + 128) (hHigh : digit + 128 ≤ begun.high)
    (rest : List UInt8) :
    unitsFrom (some begun) (UInt8.ofNat (digit + 128) :: rest) =
      unitsFrom (some { bits := begun.bits * 64 + digit, owed := owed + 1 }) rest := by
  rw [unitsFrom, step_next hDigit hLow hHigh, if_neg (by omega), hOwed]
  rfl

theorem unitsFrom_last {begun : Begun} (hOwed : begun.owed = 1) {digit : Nat}
    (hDigit : digit < 64) (hLow : begun.low ≤ digit + 128) (hHigh : digit + 128 ≤ begun.high)
    (rest : List UInt8) :
    unitsFrom (some begun) (UInt8.ofNat (digit + 128) :: rest) =
      some (Char.ofNat (begun.bits * 64 + digit)) :: unitsFrom none rest := by
  rw [unitsFrom, step_next hDigit hLow hHigh, if_pos (by omega)]
  rfl

theorem unitsFrom_encodeChar (c : Char) (rest : List UInt8) :
    unitsFrom none (String.utf8EncodeChar c ++ rest) = some c :: unitsFrom none rest := by
  have hValid : c.val.toNat < 0xD800 ∨ 0xDFFF < c.val.toNat ∧ c.val.toNat < 0x110000 := c.valid
  have hChar : Char.ofNat c.val.toNat = c := Char.ofNat_toNat c
  rw [String.utf8EncodeChar]
  generalize c.val.toNat = v at hValid hChar
  by_cases hOne : v ≤ 127
  · have hByte : (UInt8.ofNat v).toNat = v :=
      UInt8.toNat_ofNat_of_lt' (show v < 256 by omega)
    simp [unitsFrom, step, begin, start?, hOne, hByte, show v < 128 by omega, hChar]
  by_cases hTwo : v ≤ 2047
  · have hStart := start?_two (v / 64 % 32) (by omega) (by omega)
    have hBits : v / 64 % 32 * 64 + v % 64 = v := by omega
    simp only [if_neg hOne, if_pos hTwo, List.cons_append, List.nil_append]
    rw [unitsFrom_lead (by omega) hStart (by simp),
      unitsFrom_last rfl (by omega) (by simp) (by simp; omega), hBits, hChar]
  by_cases hThree : v ≤ 65535
  · have hStart := start?_three (v / 4096 % 16) (by omega)
    have hBits : (v / 4096 % 16 * 64 + v / 64 % 64) * 64 + v % 64 = v := by omega
    simp only [if_neg hOne, if_neg hTwo, if_pos hThree, List.cons_append, List.nil_append]
    rw [unitsFrom_lead (by omega) hStart (by simp),
      unitsFrom_next rfl (by omega) (by dsimp only; split <;> omega)
        (by dsimp only; split <;> omega),
      unitsFrom_last rfl (by omega) (by simp) (by simp; omega), hBits, hChar]
  · have hStart := start?_four (v / 262144 % 8) (by omega)
    have hBits : ((v / 262144 % 8 * 64 + v / 4096 % 64) * 64 + v / 64 % 64) * 64 + v % 64 = v := by
      omega
    simp only [if_neg hOne, if_neg hTwo, if_neg hThree, List.cons_append, List.nil_append]
    rw [unitsFrom_lead (by omega) hStart (by simp),
      unitsFrom_next rfl (by omega) (by dsimp only; split <;> omega)
        (by dsimp only; split <;> omega),
      unitsFrom_next rfl (by omega) (by simp) (by simp; omega),
      unitsFrom_last rfl (by omega) (by simp) (by simp; omega), hBits, hChar]

theorem unitsFrom_encode (text : List Char) : unitsFrom none (encode text) = text.map some := by
  induction text with
  | nil => rfl
  | cons c text ih =>
    rw [encode, List.flatMap_cons, unitsFrom_encodeChar, ← encode, ih, List.map_cons]

theorem decode?_encode (text : List Char) : decode? (encode text) = some text := by
  rw [decode?, unitsFrom_encode]
  induction text with
  | nil => rfl
  | cons c text ih => simp [ih]

theorem encode_injective : Function.Injective encode := by
  intro first second hSame
  have hRead := congrArg decode? hSame
  rw [decode?_encode, decode?_encode] at hRead
  exact Option.some.inj hRead

theorem eq_zero_of_zero_mem {c : Char} (hZero : 0 ∈ String.utf8EncodeChar c) : c.toNat = 0 := by
  have hByte {n : Nat} (hLess : n < 256) (hN : (0 : UInt8) = UInt8.ofNat n) : n = 0 := by
    have hToNat := congrArg UInt8.toNat hN
    rw [UInt8.toNat_ofNat_of_lt' hLess] at hToNat
    exact hToNat.symm
  have hHigh {n : Nat} (hLow : 128 ≤ n) (hLess : n < 256) : (0 : UInt8) ≠ UInt8.ofNat n := by
    intro hN
    have hZero := hByte hLess hN
    omega
  rw [← Char.toNat_val]
  rw [String.utf8EncodeChar] at hZero
  generalize c.val.toNat = v at hZero ⊢
  -- only the one byte of an ASCII character can be zero
  split at hZero
  · exact hByte (by omega) (List.mem_singleton.1 hZero)
  · refine absurd hZero ?_
    split
    · simp only [List.mem_cons, List.not_mem_nil, or_false, not_or]
      exact ⟨hHigh (by omega) (by omega), hHigh (by omega) (by omega)⟩
    split
    · simp only [List.mem_cons, List.not_mem_nil, or_false, not_or]
      exact ⟨hHigh (by omega) (by omega), hHigh (by omega) (by omega), hHigh (by omega) (by omega)⟩
    · simp only [List.mem_cons, List.not_mem_nil, or_false, not_or]
      exact ⟨hHigh (by omega) (by omega), hHigh (by omega) (by omega), hHigh (by omega) (by omega),
        hHigh (by omega) (by omega)⟩

theorem zero_notMem_encode {text : List Char} (hText : Char.ofNat 0 ∉ text) : 0 ∉ encode text := by
  intro hZero
  obtain ⟨c, hC, hByte⟩ := List.mem_flatMap.1 hZero
  refine hText ?_
  rwa [← eq_zero_of_zero_mem hByte, Char.ofNat_toNat]

end SensorFlow.Text.Utf8
