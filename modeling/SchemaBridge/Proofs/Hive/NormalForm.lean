import SchemaBridge.Conversion
import SchemaBridge.Proofs.Hive.RoundTrip

/-!
# Normal forms of type texts

`Hive.canonical` reads a text and writes the type that it spells. Every sentence of the grammar stands for
a type that widening leaves as it is (`Derives.widen_eq`), so nothing is lost on the way back
(`readType_of_canonical`), and a text that was written for some type is its own normal form
(`canonical_of_typeText`). Main statements: `exists_readType_iff`, the types that some text spells, and
`canonical_normalForm`.
-/

namespace SchemaBridge.Hive

/-! ## What a sentence stands for is spelled without loss -/

theorem widen_of_mem_scalarWords {w : String} {t : DataType} (h : (w, t) ∈ scalarWords) :
    t.widen = t := by
  have hall : ∀ entry ∈ scalarWords, entry.2.widen = entry.2 := by decide
  exact hall (w, t) h

theorem widen_of_mem_sizedWords {w : String} {make : UInt32 → DataType}
    (h : (w, make) ∈ sizedWords) (n : UInt32) : (make n).widen = make n := by
  simp only [sizedWords, List.mem_cons, Prod.mk.injEq, List.not_mem_nil, or_false] at h
  rcases h with ⟨-, rfl⟩ | ⟨-, rfl⟩ <;> rfl

mutual

/-- A sentence stands for a type that widening leaves as it is. -/
theorem Derives.widen_eq {ls : List Lexeme} {t : DataType} : Derives ls t → t.widen = t
  | .scalar hw => widen_of_mem_scalarWords hw
  | .doublePrecision _ _ => rfl
  | .decimal _ _ => rfl
  | .sized hw _ ht => by
    subst ht
    exact widen_of_mem_sizedWords hw _
  | .array _ he => by rw [DataType.widen, he.widen_eq]
  | .map _ hk hv => by rw [DataType.widen, hk.widen_eq, hv.widen_eq]
  | .struct _ hm => by rw [DataType.widen, hm.widen_eq]

theorem DerivesMembers.widen_eq {ls : List Lexeme} {members : List MemberType} :
    DerivesMembers ls members →
      DataType.widenFields (memberFields members) = memberFields members
  | .one _ ht => by
    simp only [memberFields, List.map_cons, List.map_nil, DataType.widenFields, ht.widen_eq]
  | .more _ ht hm => by
    have tail := hm.widen_eq
    simp only [memberFields, List.map_cons, DataType.widenFields, ht.widen_eq] at tail ⊢
    rw [tail]

end

/-- What a text is read as is not too deep, well formed, and spelled without loss. -/
theorem readable_of_readType {text : String} {t : DataType} (h : readType text = .ok t) :
    t.depth ≤ maxNesting + 1 ∧ t.WellFormed ∧ t.widen = t := by
  obtain ⟨tokens, -, hr⟩ := readFrom_eq_ok_iff.1 h
  obtain ⟨hd, ha⟩ := run_type_eq_ok_iff.1 hr
  obtain ⟨hdepth, hwf⟩ := admitted_zero_iff.1 ha
  exact ⟨hdepth, hwf, hd.widen_eq⟩

/-! ## The types that texts spell -/

/-- The spelling of the lexemes of a type is a text of it, whether or not the dialect admits the type. -/
theorem exists_readType_of_widen_eq {t : DataType} (ht : t.WellFormed) (hw : t.widen = t)
    (hd : t.depth ≤ 129) : ∃ text, readType text = .ok t := by
  obtain ⟨hp, ha⟩ := spellable_typeLexemes t
  obtain ⟨tokens, hs, hl⟩ := scan_spell hp ha
  have hderives : Derives (tokens.map Token.lexeme) t := by
    rw [hl]
    simpa only [hw] using derives_typeLexemes ht
  have htokens : tokensOf (String.ofList (spellAll (typeLexemes t))) = .ok tokens := by
    rw [tokensOf, String.toList_ofList, hs]
    rfl
  exact ⟨_, readType_eq_ok_iff_derives.2 ⟨⟨tokens, htokens, hderives⟩, hd, ht⟩⟩

/-- **The types that texts spell** are the well-formed ones of at most 129 levels in which the text tells every
type in full. Precisions and sizes that the dialect does not admit, names that differ in case alone and map
keys of any kind are among them. -/
theorem exists_readType_iff {t : DataType} :
    (∃ text, readType text = .ok t) ↔
      t.WellFormed ∧ (∀ u ∈ t.walk, u.ToldInFull) ∧ t.depth ≤ 129 := by
  rw [← DataType.widen_eq_self_iff]
  constructor
  · rintro ⟨text, h⟩
    obtain ⟨hd, ht, hw⟩ := readable_of_readType h
    exact ⟨ht, hw, hd⟩
  · rintro ⟨ht, hw, hd⟩
    exact exists_readType_of_widen_eq ht hw hd

example : readType "map<array<decimal(4294967295)>,struct<a:char(256),A:varchar(65536)>>" =
    .ok (.map (.array (.decimal 4294967295 0))
      (.record [⟨"a", .char 256, true⟩, ⟨"A", .varchar 65536, true⟩])) := by decide +kernel

/-! ## Normal forms -/

/-- A text is read, and the type is written under the default policies. -/
theorem canonical_eq_bind (text : String) : canonical text = (readType text).bind (typeText {}) := rfl

theorem canonical_eq_ok_iff {text c : String} :
    canonical text = .ok c ↔ ∃ t, readType text = .ok t ∧ typeText {} t = .ok c := by
  rw [canonical_eq_bind]
  exact bind_eq_ok_iff

/-- A normal form spells the same type. -/
theorem readType_of_canonical {text c : String} (h : canonical text = .ok c) :
    readType c = readType text := by
  obtain ⟨t, hr, hs⟩ := canonical_eq_ok_iff.1 h
  obtain ⟨hd, hwf, hw⟩ := readable_of_readType hr
  have hc : readType c = .ok t.widen := readType_of_depth_le hwf hs hd
  rw [hc, hw, hr]

/-- A text that was written for a type, under any policies, is its own normal form. -/
theorem canonical_of_typeText {policies : HivePolicies} {t : DataType} {s : String} (ht : t.WellFormed)
    (hd : t.depth ≤ maxNesting + 1) (hs : typeText policies t = .ok s) : canonical s = .ok s := by
  have hr : readType s = .ok t.widen := readType_of_depth_le ht hs hd
  have hw : typeText {} t.widen = .ok s := typeText_widen {} hs
  exact canonical_eq_ok_iff.2 ⟨t.widen, hr, hw⟩

/-- **Normal forms**: the normal form of a text spells the same type and is its own normal form; two texts
have the same one exactly if they spell the same type; and a text that was written for a type of at most
129 levels, under any policies, is one. -/
theorem canonical_normalForm :
    (∀ text c, canonical text = .ok c → readType c = readType text ∧ canonical c = .ok c) ∧
      (∀ text₁ text₂ c₁ c₂, canonical text₁ = .ok c₁ → canonical text₂ = .ok c₂ →
        (canonical text₁ = canonical text₂ ↔ readType text₁ = readType text₂)) ∧
      ∀ (policies : HivePolicies) (t : DataType) (s : String), t.WellFormed → t.depth ≤ 129 →
        typeText policies t = .ok s → canonical s = .ok s := by
  refine ⟨fun text c h => ?_, fun text₁ text₂ c₁ c₂ h₁ h₂ => ?_, fun policies t s ht hd hs => ?_⟩
  · obtain ⟨t, hr, hs⟩ := canonical_eq_ok_iff.1 h
    obtain ⟨hd, hwf, -⟩ := readable_of_readType hr
    exact ⟨readType_of_canonical h, canonical_of_typeText hwf hd hs⟩
  · refine ⟨fun hc => ?_, fun hr => ?_⟩
    · rw [h₁, h₂, Except.ok.injEq] at hc
      rw [← readType_of_canonical h₁, ← readType_of_canonical h₂, hc]
    · rw [canonical_eq_bind, canonical_eq_bind, hr]
  · exact canonical_of_typeText ht hd hs

/-- Two spellings of one type: blanks, capitals, aliases, a needless quotation and a leading zero. -/
theorem canonical_of_loose_spellings :
    canonical " STRUCT< \x60a\x60 : Numeric , b:map<integer,double  PRECISION>>" =
        .ok "struct<a:decimal(10,0),b:map<int,double>>" ∧
      readType "struct<a:decimal(10,0),b:map<int,double>>" =
        readType " STRUCT< \x60a\x60 : Numeric , b:map<integer,double  PRECISION>>" ∧
      canonical "struct<a:decimal(10,0),b:map<int,double>>" =
        .ok "struct<a:decimal(10,0),b:map<int,double>>" ∧
      (canonical " STRUCT< \x60a\x60 : Numeric , b:map<integer,double  PRECISION>>" =
          canonical "struct<a:decimal(010),\x60b\x60:map<int,double>>" ↔
        readType " STRUCT< \x60a\x60 : Numeric , b:map<integer,double  PRECISION>>" =
          readType "struct<a:decimal(010),\x60b\x60:map<int,double>>") ∧
      canonical "struct<at:bigint,\x60to,from\x60:string>" =
        .ok "struct<at:bigint,\x60to,from\x60:string>" := by
  obtain ⟨hform, hsame, htext⟩ := canonical_normalForm
  have h₁ : canonical " STRUCT< \x60a\x60 : Numeric , b:map<integer,double  PRECISION>>" =
      .ok "struct<a:decimal(10,0),b:map<int,double>>" := by decide +kernel
  have h₂ : canonical "struct<a:decimal(010),\x60b\x60:map<int,double>>" =
      .ok "struct<a:decimal(10,0),b:map<int,double>>" := by decide +kernel
  have hwf : (DataType.record [⟨"at", .timeMicros, false⟩,
      ⟨"to,from", .enumeration ["x"], true⟩]).WellFormed :=
    ⟨by constructor <;> decide, trivial, trivial, trivial⟩
  have hs : typeText { timeOfDay := .widen } (.record [⟨"at", .timeMicros, false⟩,
      ⟨"to,from", .enumeration ["x"], true⟩]) = .ok "struct<at:bigint,\x60to,from\x60:string>" := by
    decide +kernel
  obtain ⟨hr, hc⟩ := hform _ _ h₁
  exact ⟨h₁, hr, hc, hsame _ _ _ _ h₁ h₂, htext _ _ _ hwf (by decide) hs⟩

end SchemaBridge.Hive
