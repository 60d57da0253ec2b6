import SchemaBridge.Text.Digits

/-!
# Numbers of 32 bits

`IsNumber w n`: the text `w` is a run of ASCII digits, leading zeros allowed, of value `n`. The reader of
numbers accepts exactly these texts (`uint32OfText?_eq_some_iff`), whose case does not matter
(`uint32OfText?_toLower`), and a number is read back from the way it is written (`isNumber_toString`).
-/

namespace SchemaBridge.Text

/-- The text is a non-empty run of ASCII digits whose value is `n`. -/
def IsNumber (w : String) (n : UInt32) : Prop :=
  w ≠ "" ∧ (∀ c ∈ w.toList, c.isDigit = true) ∧ Nat.ofDigitChars 10 w.toList 0 = n.toNat

theorem IsNumber.unique {w : String} {m n : UInt32} (hm : IsNumber w m) (hn : IsNumber w n) : m = n :=
  UInt32.toNat_inj.1 (hm.2.2.symm.trans hn.2.2)

theorem digitsValue?_eq_some_iff {cs : List Char} {value n : Nat} :
    digitsValue? value cs = some n ↔
      (∀ c ∈ cs, c.isDigit = true) ∧ Nat.ofDigitChars 10 cs value = n := by
  induction cs generalizing value with
  | nil => simp [digitsValue?]
  | cons c cs ih =>
    by_cases hc : c.isDigit = true
    · simp [digitsValue?, hc, ih, Nat.ofDigitChars_cons]
    · simp [digitsValue?, hc]

theorem natOfDigits?_eq_some_iff {cs : List Char} {n : Nat} :
    natOfDigits? cs = some n ↔
      cs ≠ [] ∧ (∀ c ∈ cs, c.isDigit = true) ∧ Nat.ofDigitChars 10 cs 0 = n := by
  cases cs with
  | nil => simp [natOfDigits?]
  | cons c cs => simp [natOfDigits?, digitsValue?_eq_some_iff]

theorem uint32OfText?_eq_some_iff {w : String} {n : UInt32} :
    uint32OfText? w = some n ↔ IsNumber w n := by
  have hw : w.toList ≠ [] ↔ w ≠ "" := by simp
  unfold uint32OfText? natOfText? IsNumber
  simp only [Option.map_eq_some_iff, Option.filter_eq_some_iff, natOfDigits?_eq_some_iff, hw,
    decide_eq_true_eq]
  refine ⟨fun h => ?_, fun h => ?_⟩
  · obtain ⟨m, ⟨⟨hne, hd, rfl⟩, hm⟩, rfl⟩ := h
    refine ⟨hne, hd, ?_⟩
    rw [Nat.toUInt32_eq, UInt32.toNat_ofNat_of_lt' (by simp only [UInt32.size]; omega)]
  · obtain ⟨hne, hd, hv⟩ := h
    have := n.toNat_lt
    exact ⟨n.toNat, ⟨⟨hne, hd, hv⟩, by omega⟩, by simp⟩

/-- A number is read back from its decimal spelling. -/
theorem isNumber_toString (n : UInt32) : IsNumber (toString n) n := by
  have hl : (toString n : String).toList = Nat.toDigits 10 n.toNat := Nat.toList_repr
  refine ⟨Nat.repr_ne_empty, fun c hc => ?_, ?_⟩
  · rw [hl] at hc
    exact Nat.isDigit_of_mem_toDigits (by decide) (by decide) hc
  · rw [hl, Nat.ofDigitChars_ten_toDigits]

/-! ## Numerals have no case -/

theorem isDigit_eq_false {c : Char} (h : 57 < c.val.toNat) : c.isDigit = false := by
  have h9 : ¬c.val ≤ 57 := by
    intro h9
    have := UInt32.le_iff_toNat_le.1 h9
    have : (57 : UInt32).toNat = 57 := rfl
    omega
  show (decide (48 ≤ c.val) && decide (c.val ≤ 57)) = false
  simp [h9]

/-- No letter becomes a digit, and none is one. -/
theorem isDigit_toLower (c : Char) : c.toLower.isDigit = c.isDigit := by
  unfold Char.toLower
  split
  · rename_i hu
    obtain ⟨hA, hZ⟩ := hu
    have hA : 65 ≤ c.val.toNat := UInt32.le_iff_toNat_le.1 hA
    have hZ : c.val.toNat ≤ 90 := UInt32.le_iff_toNat_le.1 hZ
    have hsum : (c.val + (('a' : Char).val - ('A' : Char).val)).toNat = c.val.toNat + 32 := by
      have h32 : (('a' : Char).val - ('A' : Char).val).toNat = 32 := by decide
      rw [UInt32.toNat_add, h32]
      omega
    rw [isDigit_eq_false (c := c) (by omega)]
    apply isDigit_eq_false
    show 57 < (c.val + (('a' : Char).val - ('A' : Char).val)).toNat
    omega
  · rfl

theorem toLower_of_isDigit {c : Char} (h : c.isDigit = true) : c.toLower = c := by
  unfold Char.toLower
  split
  · rename_i hu
    have hA : 65 ≤ c.val.toNat := UInt32.le_iff_toNat_le.1 hu.1
    rw [isDigit_eq_false (by omega)] at h
    cases h
  · rfl

theorem digitsValue?_map_toLower (value : Nat) (cs : List Char) :
    digitsValue? value (cs.map Char.toLower) = digitsValue? value cs := by
  induction cs generalizing value with
  | nil => rfl
  | cons c cs ih =>
    rw [List.map_cons, digitsValue?, digitsValue?, isDigit_toLower]
    by_cases hc : c.isDigit = true
    · rw [if_pos hc, if_pos hc, toLower_of_isDigit hc, ih]
    · rw [if_neg hc, if_neg hc]

/-- The case of a word does not matter where a number is read. -/
theorem uint32OfText?_toLower (w : String) : uint32OfText? w.toLower = uint32OfText? w := by
  have hl : w.toLower.toList = w.toList.map Char.toLower := String.toList_map
  unfold uint32OfText? natOfText?
  rw [hl]
  cases w.toList with
  | nil => rfl
  | cons c cs =>
    show Option.map _ (Option.filter _ (digitsValue? 0 ((c :: cs).map Char.toLower))) = _
    rw [digitsValue?_map_toLower]
    rfl

end SchemaBridge.Text
