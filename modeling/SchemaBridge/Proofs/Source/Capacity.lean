import SchemaBridge.Proofs.PowersOfTen
import SchemaBridge.Proofs.Source.Primitive

/-!
# Decimals and the storage they fit

A storage kind is credited with as many decimal digits as it is said to hold (`Physical.decimalCapacity?`).
`Fits` says in exact integers what it does hold, and `DecimalVerdict` what a decimal column should be read as
with regard to that. For byte sequences the number of digits is a product that is rounded to a double. It is
never too small (`le_digitsOfBits`) and too large by at most one digit (`ten_pow_le_of_lt_digitsOfBits`);
storage where it is too large is `Overstated`. By the neighbours of log₁₀ 2 among the fractions with small
denominators, the shortest sequence that is overstated has 122202250 bytes (`eq_of_lt_of_le`,
`ten_pow_digitsOfBits_le`).

Main statement: `decimals_fit_unless_overstated`.
-/

namespace SchemaBridge.Source

/-! ## Rounding -/

/-- The unit in the last of 53 places. -/
def lastPlace (n : Nat) : Nat := 2 ^ (n.log2 + 1 - 53)

/-- A number is rounded down to a multiple of the unit, or up by one unit past the half. -/
theorem roundToDouble_cases (n : Nat) :
    roundToDouble n = n - n % lastPlace n ∨
      roundToDouble n = n - n % lastPlace n + lastPlace n ∧ lastPlace n ≤ 2 * (n % lastPlace n) := by
  have h : roundToDouble n =
      if 2 * (n % lastPlace n) < lastPlace n then n - n % lastPlace n
      else if lastPlace n < 2 * (n % lastPlace n) then n - n % lastPlace n + lastPlace n
      else if (n - n % lastPlace n) / lastPlace n % 2 = 0 then n - n % lastPlace n
      else n - n % lastPlace n + lastPlace n := rfl
  rw [h]
  split
  · exact .inl rfl
  · split
    · exact .inr ⟨rfl, by omega⟩
    · split
      · exact .inl rfl
      · exact .inr ⟨rfl, by omega⟩

/-- A unit that does not divide the number is small against it. -/
theorem lastPlace_mul_le {n : Nat} (h : n % lastPlace n ≠ 0) : 2 ^ 52 * lastPlace n ≤ n := by
  have hn : n ≠ 0 := by
    rintro rfl
    simp at h
  have hlog : 52 ≤ n.log2 := by
    by_contra hlog
    have hone : lastPlace n = 1 := by
      rw [lastPlace, show n.log2 + 1 - 53 = 0 by omega, Nat.pow_zero]
    rw [hone, Nat.mod_one] at h
    exact h rfl
  calc 2 ^ 52 * lastPlace n = 2 ^ n.log2 := by
        rw [lastPlace, ← pow_add]
        congr 1
        omega
    _ ≤ n := Nat.log2_self_le hn

/-- Rounding adds at most one part in `2⁵³`. -/
theorem roundToDouble_le (n : Nat) : 2 ^ 53 * roundToDouble n ≤ (2 ^ 53 + 1) * n := by
  rcases roundToDouble_cases n with h | ⟨h, hhalf⟩
  · omega
  · have hmod := Nat.mod_le n (lastPlace n)
    have hpos : 0 < lastPlace n := Nat.two_pow_pos _
    have hunit := lastPlace_mul_le (n := n) (by omega)
    omega

/-- A number stays above the multiples of the unit that it is above. -/
theorem le_roundToDouble {m n : Nat} (hm : lastPlace n ∣ m) (h : m ≤ n) : m ≤ roundToDouble n := by
  have hfloor : m ≤ n - n % lastPlace n := by
    obtain ⟨q, rfl⟩ := hm
    have hq : q ≤ n / lastPlace n := (Nat.le_div_iff_mul_le (Nat.two_pow_pos _)).2 (by rwa [Nat.mul_comm])
    calc lastPlace n * q ≤ lastPlace n * (n / lastPlace n) := Nat.mul_le_mul_left _ hq
      _ = n - n % lastPlace n := Nat.mul_div_self_eq_mod_sub_self
  rcases roundToDouble_cases n with h | ⟨h, -⟩
  · rw [h]
    exact hfloor
  · rw [h]
    exact hfloor.trans (Nat.le_add_right ..)

/-! ## Digits and bits -/

section
variable {p k : Nat}

/-- No number of bits is credited with fewer digits than fit it. -/
theorem le_digitsOfBits (hk : k < 2 ^ 35) (h : 10 ^ p ≤ 2 ^ k) : p ≤ digitsOfBits k := by
  have hlog : 2 ^ 80 * p ≤ (logTwo + 60) * k := by
    by_contra hlt
    exact absurd (two_pow_lt_ten_pow (Nat.lt_of_not_le hlt)) (Nat.not_lt.2 h)
  have hle : 2 ^ 54 * p ≤ k * logTwoSignificand := by
    unfold logTwo at hlog
    unfold logTwoSignificand
    omega
  have hsmall : k * logTwoSignificand < 2 ^ 107 := by
    unfold logTwoSignificand
    omega
  have hunit : lastPlace (k * logTwoSignificand) ∣ 2 ^ 54 := by
    refine Nat.pow_dvd_pow 2 ?_
    rcases Nat.eq_zero_or_pos (k * logTwoSignificand) with h0 | hpos
    · rw [h0]
      decide
    · have hbits := (Nat.log2_lt hpos.ne').2 hsmall
      omega
  have hround := le_roundToDouble (hunit.mul_right p) hle
  exact (Nat.le_div_iff_mul_le (Nat.two_pow_pos 54)).2 (by rwa [Nat.mul_comm])

theorem digitsOfBits_le (k : Nat) :
    2 ^ 107 * digitsOfBits k ≤ (2 ^ 53 + 1) * (k * logTwoSignificand) := by
  have hdiv : 2 ^ 54 * digitsOfBits k ≤ roundToDouble (k * logTwoSignificand) := Nat.mul_div_le ..
  have hround := roundToDouble_le (k * logTwoSignificand)
  omega

/-- A number of bits is credited with at most one digit more than fit it. -/
theorem ten_pow_le_of_lt_digitsOfBits (hk : k < 2 ^ 35) (h : p < digitsOfBits k) : 10 ^ p ≤ 2 ^ k := by
  have hdigits := digitsOfBits_le k
  refine ten_pow_le_two_pow ?_
  unfold logTwoSignificand at hdigits
  unfold logTwo
  omega

theorem below_of_logTwo_lt (h : logTwo * k < 2 ^ 80 * p) : 15392313 * k ≤ 51132157 * p := by
  unfold logTwo at h
  omega

theorem above_of_le_significand (h : 2 ^ 107 * p ≤ (2 ^ 53 + 1) * (k * logTwoSignificand)) :
    95832151 * p ≤ 28848352 * k := by
  unfold logTwoSignificand at h
  omega

/-- A fraction between the neighbours `15392313 / 51132157` and `28848352 / 95832151` is a sum of these. -/
theorem exists_sums (hbelow : 15392313 * k ≤ 51132157 * p) (habove : 95832151 * p ≤ 28848352 * k) :
    ∃ s t, k = 51132157 * s + 95832151 * t ∧ p = 15392313 * s + 28848352 * t :=
  ⟨28848352 * k - 95832151 * p, 51132157 * p - 15392313 * k, by omega, by omega⟩

/-- A few fractions are above log₁₀ 2 and not above its rounded multiples. The least denominators among these
that are a number of bits in whole bytes, less the sign, are the one given here and `977617999`. -/
theorem eq_of_lt_of_le (hk : k < 977617999) (hbytes : k % 8 = 7) (hlow : logTwo * k < 2 ^ 80 * p)
    (hhigh : 2 ^ 107 * p ≤ (2 ^ 53 + 1) * (k * logTwoSignificand)) : k = 683689383 ∧ p = 205811012 := by
  have few : ∀ {s t : Nat}, 51132157 * s + 95832151 * t < 977617999 → s < 20 ∧ t < 11 := by
    omega
  have sums : ∀ s < 20, ∀ t < 11,
      51132157 * s + 95832151 * t < 977617999 ∧ (51132157 * s + 95832151 * t) % 8 = 7 ∧
        logTwo * (51132157 * s + 95832151 * t) < 2 ^ 80 * (15392313 * s + 28848352 * t) ∧
        2 ^ 107 * (15392313 * s + 28848352 * t) ≤
          (2 ^ 53 + 1) * ((51132157 * s + 95832151 * t) * logTwoSignificand) → s = 4 ∧ t = 5 := by
    decide +kernel
  obtain ⟨s, t, rfl, rfl⟩ := exists_sums (below_of_logTwo_lt hlow) (above_of_le_significand hhigh)
  obtain ⟨hs, ht⟩ := few hk
  obtain ⟨rfl, rfl⟩ := sums s hs t ht ⟨hk, hbytes, hlow, hhigh⟩
  exact ⟨by decide, by decide⟩

/-- Up to 122 million bytes, every length is credited with the digits that fit it. -/
theorem ten_pow_digitsOfBits_le {n : Nat} (hn : 0 < n) (h : n < 122202250) :
    10 ^ digitsOfBits (8 * n - 1) ≤ 2 ^ (8 * n - 1) := by
  by_contra hlt
  have hlow : logTwo * (8 * n - 1) < 2 ^ 80 * digitsOfBits (8 * n - 1) := by
    by_contra hle
    exact hlt (ten_pow_le_two_pow (Nat.le_of_not_lt hle))
  obtain ⟨hk, hp⟩ := eq_of_lt_of_le (by omega) (by omega) hlow (digitsOfBits_le _)
  -- There the product is rounded down.
  rw [hk] at hp
  exact absurd hp (by decide +kernel)

end

/-! ## What a decimal column is read as -/

/-- Every number of `p` decimal digits is a signed integer of `w` bits in two's complement. -/
def Fits (p w : Nat) : Prop := 1 ≤ w ∧ 10 ^ p ≤ 2 ^ (w - 1)

/-- The width in bits of the storage kinds that have one and hold decimals. -/
def Physical.width? : Physical → Option Nat
  | .int32 => some 32
  | .int64 => some 64
  | .fixedLenByteArray length => some (8 * length.toNat)
  | _ => none

/-- What a decimal column should be read as: refused without a precision, or with one that does not fit the
storage; else the decimal type, if that has a positive precision and no more digits after the point. -/
inductive DecimalVerdict (physical : Physical) :
    Option UInt32 → Option UInt32 → Except SchemaError DataType → Prop
  | noPrecision {scale : Option UInt32} :
      DecimalVerdict physical none scale (.error (unsupported physical (some (.decimal none scale))))
  | tooWide {p : UInt32} {scale : Option UInt32} {w : Nat} :
      0 < p → physical.width? = some w → ¬Fits p.toNat w →
      DecimalVerdict physical (some p) scale
        (.error (unsupported physical (some (.decimal (some p) scale))))
  | invalid {p : UInt32} {scale : Option UInt32} {reason : String} :
      p = 0 ∨ (∀ w ∈ physical.width?, Fits p.toNat w) ∧ p < scale.getD 0 →
      DecimalVerdict physical (some p) scale (.error (.invalidParameters "decimal" reason))
  | fits {p : UInt32} {scale : Option UInt32} :
      0 < p → (∀ w ∈ physical.width?, Fits p.toNat w) → scale.getD 0 ≤ p →
      DecimalVerdict physical (some p) scale (.ok (.decimal p (scale.getD 0)))

/-- The storage is credited with this many digits, and not all numbers of so many digits fit it. -/
def Overstated (physical : Physical) (p : UInt32) : Prop :=
  0 < p ∧ physical.decimalCapacity? = some p ∧ ∃ w ∈ physical.width?, ¬Fits p.toNat w

/-- The storage is credited with so many digits. -/
def Credited (physical : Physical) (p : UInt32) : Prop := ∀ most ∈ physical.decimalCapacity?, p ≤ most

section
variable {physical : Physical} {p : UInt32}

/-- A bound is exact if the digits up to it fit and no more do. -/
theorem fits_iff_le {most p w : Nat} (hw : 1 ≤ w) (hmost : 10 ^ most ≤ 2 ^ (w - 1))
    (hnext : 2 ^ (w - 1) < 10 ^ (most + 1)) : Fits p w ↔ p ≤ most := by
  refine ⟨fun h => ?_, fun h => ⟨hw, (Nat.pow_le_pow_right (by decide) h).trans hmost⟩⟩
  by_contra hp
  have hge : 10 ^ (most + 1) ≤ 10 ^ p := Nat.pow_le_pow_right (by decide) (by omega)
  exact absurd (hge.trans h.2) (Nat.not_le.2 hnext)

theorem toNat_digitsOfBytes {n : UInt32} (hn : n ≠ 0) :
    (digitsOfBytes n).toNat = min (digitsOfBits (8 * n.toNat - 1)) 4294967295 := by
  rw [digitsOfBytes, if_neg hn]
  generalize digitsOfBits (8 * n.toNat - 1) = digits
  exact UInt32.toNat_ofNat_of_lt' (by rw [UInt32.size]; omega)

/-- A length is credited with the digits that fit it, and with no others unless it is overstated. -/
theorem le_digitsOfBytes_iff {n : UInt32} (hp : 0 < p) :
    p ≤ digitsOfBytes n ↔
      Fits p.toNat (8 * n.toNat) ∨ Overstated (.fixedLenByteArray n) p := by
  have hp' : 0 < p.toNat := UInt32.lt_iff_toNat_lt.1 hp
  have hself : Overstated (.fixedLenByteArray n) p → p.toNat ≤ (digitsOfBytes n).toNat := by
    rintro ⟨-, hmost, -⟩
    rw [Option.some.inj hmost]
  rw [UInt32.le_iff_toNat_le]
  by_cases hn : n = 0
  · subst hn
    refine ⟨fun h => absurd h (Nat.not_le.2 hp'), fun h => ?_⟩
    rcases h with h | h
    · exact absurd h.1 (by decide)
    · exact hself h
  · have hn' : 0 < n.toNat := UInt32.lt_iff_toNat_lt.1 (UInt32.pos_iff_ne_zero.2 hn)
    have hbits : 8 * n.toNat - 1 < 2 ^ 35 := by
      have := n.toNat_lt
      omega
    have hp32 := p.toNat_lt
    have hmost := toNat_digitsOfBytes hn
    refine ⟨fun h => ?_, fun h => ?_⟩
    · rcases Nat.lt_or_ge p.toNat (digitsOfBits (8 * n.toNat - 1)) with hlt | hge
      · exact .inl ⟨by omega, ten_pow_le_of_lt_digitsOfBits hbits hlt⟩
      · by_cases hfits : Fits p.toNat (8 * n.toNat)
        · exact .inl hfits
        · have heq : digitsOfBytes n = p := UInt32.toNat_inj.1 (by omega)
          exact .inr ⟨hp, congrArg some heq, _, rfl, hfits⟩
    · rcases h with h | h
      · have hle := le_digitsOfBits hbits h.2
        omega
      · exact hself h

/-- A bound that is exact is not overstated. -/
theorem credited_iff_of_exact {most : UInt32} {w : Nat} (hmost : physical.decimalCapacity? = some most)
    (hw : physical.width? = some w) (h : ∀ {q : Nat}, Fits q w ↔ q ≤ most.toNat) :
    Credited physical p ↔ (∀ w ∈ physical.width?, Fits p.toNat w) ∨ Overstated physical p := by
  have hexact : Credited physical p ↔ Fits p.toNat w := by
    simp only [Credited, hmost, Option.mem_some_iff, forall_eq', h, UInt32.le_iff_toNat_le]
  have hno : ¬Overstated physical p := by
    rintro ⟨-, hp, w', hw', hfits⟩
    rw [hmost, Option.some.injEq] at hp
    rw [hw, Option.mem_some_iff] at hw'
    subst hp hw'
    exact hfits (h.2 (Nat.le_refl _))
  rw [hexact, or_iff_left hno]
  simp [hw]

/-- **Storage is credited with the digits that fit it**, and with no others unless it is overstated. -/
theorem credited_iff (h : physical.holdsDecimals = true) (hp : 0 < p) :
    Credited physical p ↔ (∀ w ∈ physical.width?, Fits p.toNat w) ∨ Overstated physical p := by
  cases physical with
  | boolean | int96 | float | double => cases h
  | byteArray => simp [Credited, Physical.decimalCapacity?, Physical.width?]
  | fixedLenByteArray n =>
    simp only [Credited, Physical.decimalCapacity?, Physical.width?, Option.mem_some_iff, forall_eq']
    exact le_digitsOfBytes_iff hp
  | int32 => exact credited_iff_of_exact rfl rfl (fits_iff_le (by decide) (by decide) (by decide))
  | int64 => exact credited_iff_of_exact rfl rfl (fits_iff_le (by decide) (by decide) (by decide))

/-! ## Columns -/

theorem decimalType_of_credited {scale : Option UInt32} (h : Credited physical p) :
    decimalType physical (some p) scale = DataType.mkDecimal p (scale.getD 0) := by
  have hany : physical.decimalCapacity?.any (· < p) = false := by
    unfold Credited at h
    cases hmost : physical.decimalCapacity? with
    | none => rfl
    | some most => simpa [hmost] using h
  simp [decimalType, hany]

theorem decimalType_of_not_credited {scale : Option UInt32} (h : ¬Credited physical p) :
    decimalType physical (some p) scale =
      .error (unsupported physical (some (.decimal (some p) scale))) := by
  have hany : physical.decimalCapacity?.any (· < p) = true := by
    unfold Credited at h
    cases hmost : physical.decimalCapacity? with
    | none => simp [hmost] at h
    | some most => simpa [hmost] using h
  simp [decimalType, hany]

theorem exists_of_mkDecimal_eq_error {s : UInt32} {e : SchemaError} (h : DataType.mkDecimal p s = .error e) :
    (p = 0 ∨ p < s) ∧ ∃ reason, e = .invalidParameters "decimal" reason := by
  unfold DataType.mkDecimal at h
  split at h
  · rename_i hp
    cases h
    exact ⟨.inl hp, _, rfl⟩
  · split at h
    · rename_i hs
      cases h
      exact ⟨.inr hs, _, rfl⟩
    · cases h

theorem primitiveType_decimal {policies : SourcePolicies} {precision scale : Option UInt32}
    (h : physical.holdsDecimals = true) :
    primitiveType policies physical (some (.decimal precision scale)) =
      decimalType physical precision scale := by
  cases physical with
  | int32 | int64 | byteArray | fixedLenByteArray => rfl
  | boolean | int96 | float | double => cases h

/-- What fits the storage is judged by the checked constructor. -/
theorem verdict_mkDecimal {scale : Option UInt32} (h : p = 0 ∨ ∀ w ∈ physical.width?, Fits p.toNat w) :
    DecimalVerdict physical (some p) scale (DataType.mkDecimal p (scale.getD 0)) := by
  cases hmk : DataType.mkDecimal p (scale.getD 0) with
  | ok t =>
    obtain ⟨rfl, hp, hscale⟩ := DataType.mkDecimal_eq_ok_iff.1 hmk
    have hfits := h.resolve_left (UInt32.pos_iff_ne_zero.1 hp)
    exact .fits hp hfits hscale
  | error e =>
    obtain ⟨hbad, reason, rfl⟩ := exists_of_mkDecimal_eq_error hmk
    rcases h with h | hfits
    · exact .invalid (.inl h)
    · exact .invalid (hbad.imp_right fun hs => ⟨hfits, hs⟩)

/-- An overstated storage takes a precision that it should refuse. -/
theorem not_verdict_of_overstated {policies : SourcePolicies} {scale : Option UInt32}
    (hh : physical.holdsDecimals = true) (h : Overstated physical p) :
    ¬DecimalVerdict physical (some p) scale
      (primitiveType policies physical (some (.decimal (some p) scale))) := by
  have hcredited := (credited_iff hh h.1).2 (.inr h)
  obtain ⟨hp, -, w, hw, hno⟩ := h
  rw [primitiveType_decimal hh, decimalType_of_credited hcredited]
  intro hverdict
  generalize hr : DataType.mkDecimal p (scale.getD 0) = r at hverdict
  cases hverdict with
  | tooWide =>
    obtain ⟨-, reason, he⟩ := exists_of_mkDecimal_eq_error hr
    cases he
  | invalid hbad =>
    rcases hbad with rfl | ⟨hfits, -⟩
    · exact absurd hp (by decide)
    · exact hno (hfits w hw)
  | fits _ hfits _ => exact hno (hfits w hw)

/-- **A decimal is read as it should be exactly where its storage is not overstated.** -/
theorem verdict_iff_not_overstated {policies : SourcePolicies} {precision scale : Option UInt32}
    (h : physical.holdsDecimals = true) :
    DecimalVerdict physical precision scale
        (primitiveType policies physical (some (.decimal precision scale))) ↔
      ∀ p ∈ precision, ¬Overstated physical p := by
  refine ⟨fun hverdict p hp hover => ?_, fun hno => ?_⟩
  · obtain rfl : precision = some p := hp
    exact not_verdict_of_overstated h hover hverdict
  · rw [primitiveType_decimal h]
    cases precision with
    | none => exact .noPrecision
    | some p =>
      by_cases hp : p = 0
      · rw [decimalType_of_credited fun most _ => by simp [hp]]
        exact verdict_mkDecimal (.inl hp)
      · have hpos := UInt32.pos_iff_ne_zero.2 hp
        have hcredited := (credited_iff h hpos).trans (or_iff_left (hno p rfl))
        by_cases hfits : ∀ w ∈ physical.width?, Fits p.toNat w
        · rw [decimalType_of_credited (hcredited.2 hfits)]
          exact verdict_mkDecimal (.inr hfits)
        · rw [decimalType_of_not_credited (mt hcredited.1 hfits)]
          simp only [not_forall, exists_prop] at hfits
          obtain ⟨w, hw, hwide⟩ := hfits
          exact .tooWide hpos hw hwide

/-- No length of up to 122 million bytes is overstated. -/
theorem not_overstated_of_lt {n : UInt32} (hn : n < 122202250) : ¬Overstated (.fixedLenByteArray n) p := by
  rintro ⟨hp, hmost, w, hw, hno⟩
  obtain rfl := Option.mem_some_iff.1 hw
  rw [Physical.decimalCapacity?, Option.some.injEq] at hmost
  have hn' : n.toNat < 122202250 := UInt32.lt_iff_toNat_lt.1 hn
  have hpos : n ≠ 0 := by
    rintro rfl
    exact absurd hp (hmost ▸ by decide)
  have hpos' : 0 < n.toNat := UInt32.lt_iff_toNat_lt.1 (UInt32.pos_iff_ne_zero.2 hpos)
  have hle : p.toNat ≤ digitsOfBits (8 * n.toNat - 1) := by
    have := toNat_digitsOfBytes hpos
    rw [hmost] at this
    omega
  exact hno ⟨by omega, (Nat.pow_le_pow_right (by decide) hle).trans
    (ten_pow_digitsOfBits_le hpos' hn')⟩

theorem not_overstated_of_exact {most : UInt32} {w : Nat} (hmost : physical.decimalCapacity? = some most)
    (hw : physical.width? = some w) (h : Fits most.toNat w) : ¬Overstated physical p := by
  rintro ⟨-, hp, w', hw', hno⟩
  rw [hmost, Option.some.injEq] at hp
  rw [hw, Option.mem_some_iff] at hw'
  subst hp hw'
  exact hno h

end

/-- **Decimals are accepted exactly where they fit their storage**, unless it is credited with a digit too
many; there it is that many digits, and no others, that are read wrongly. 32 and 64 bits are not overstated,
and no length in bytes below 122202250 is. -/
theorem decimals_fit_unless_overstated (policies : SourcePolicies) :
    (∀ physical precision scale, physical.holdsDecimals = true →
      (DecimalVerdict physical precision scale
          (primitiveType policies physical (some (.decimal precision scale))) ↔
        ∀ p ∈ precision, ¬Overstated physical p)) ∧
      (∀ p, ¬Overstated .int32 p ∧ ¬Overstated .int64 p ∧ ¬Overstated .byteArray p) ∧
      ∀ n p, n < 122202250 → ¬Overstated (.fixedLenByteArray n) p := by
  refine ⟨fun physical precision scale => verdict_iff_not_overstated, fun p => ⟨?_, ?_, ?_⟩,
    fun n p => not_overstated_of_lt⟩
  · exact not_overstated_of_exact (w := 32) rfl rfl ⟨by decide, by decide⟩
  · exact not_overstated_of_exact (w := 64) rfl rfl ⟨by decide, by decide⟩
  · rintro ⟨-, hmost, -⟩
    cases hmost

theorem decimals_fit_sixteen_bytes :
    Physical.holdsDecimals (.fixedLenByteArray 16) = true ∧ (16 : UInt32) < 122202250 ∧
      DecimalVerdict (.fixedLenByteArray 16) (some 38) (some 10)
        (primitiveType {} (.fixedLenByteArray 16) (some (.decimal (some 38) (some 10)))) ∧
      DecimalVerdict (.fixedLenByteArray 16) (some 39) none
        (primitiveType {} (.fixedLenByteArray 16) (some (.decimal (some 39) none))) := by
  obtain ⟨hverdict, -, hlength⟩ := decimals_fit_unless_overstated {}
  exact ⟨rfl, by decide, (hverdict _ _ _ rfl).2 fun p _ => hlength 16 p (by decide),
    (hverdict _ _ _ rfl).2 fun p _ => hlength 16 p (by decide)⟩

/-- 122202250 bytes are credited with 294292342 digits, of which all but one fit. -/
theorem overstated_bytes : Overstated (.fixedLenByteArray 122202250) 294292342 := by
  refine ⟨by decide, by decide +kernel, _, rfl, fun h => ?_⟩
  exact absurd h.2 (Nat.not_le.2 (two_pow_lt_ten_pow (by decide +kernel)))

theorem not_verdict_of_overstated_bytes :
    primitiveType {} (.fixedLenByteArray 122202250) (some (.decimal (some 294292342) (some 0))) =
        .ok (.decimal 294292342 0) ∧
      ¬Fits 294292342 (8 * 122202250) ∧
      ¬DecimalVerdict (.fixedLenByteArray 122202250) (some 294292342) (some 0)
        (primitiveType {} (.fixedLenByteArray 122202250) (some (.decimal (some 294292342) (some 0)))) := by
  refine ⟨by decide +kernel, fun h => ?_, not_verdict_of_overstated rfl overstated_bytes⟩
  exact absurd h.2 (Nat.not_le.2 (two_pow_lt_ten_pow (by decide +kernel)))

end SchemaBridge.Source
