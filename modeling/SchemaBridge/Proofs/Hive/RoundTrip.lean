import SchemaBridge.Proofs.Hive.Recognition
import SchemaBridge.Proofs.Hive.TypeText

/-!
# Type texts are read back

The lexemes of a type are a sentence of the grammar, and the sentence stands for the widened type
(`derives_typeLexemes`). Since the lexemes can be told apart in the text, reading a type text undoes
writing it up to widening (`readType_typeText`). Since no sentence has two readings, a text determines the
widened type, whether or not the reader would go as deep (`typeText_eq_iff_widen_eq`).
-/

namespace SchemaBridge.Hive

/-! ## The sentence of a type -/

theorem isName_nameLexeme (name : String) : IsName (nameLexeme name) name := by
  unfold nameLexeme
  split
  · exact .word name
  · exact .quoted name

/-- The members of a widened record, as the grammar has them. -/
def widenMembers (fields : List Field) : List MemberType :=
  fields.map fun f => (f.name, f.type.widen)

theorem memberFields_widenMembers (fields : List Field) :
    memberFields (widenMembers fields) = DataType.widenFields fields := by
  rw [DataType.widenFields_eq_map, memberFields, widenMembers, List.map_map]
  rfl

theorem derivesMembers_memberLexemes {fields : List Field} (hne : fields ≠ [])
    (ih : ∀ f ∈ fields, Derives (typeLexemes f.type) f.type.widen) :
    DerivesMembers (memberLexemes fields) (widenMembers fields) := by
  induction fields with
  | nil => exact absurd rfl hne
  | cons f fields ihf =>
    have hf := ih f (List.mem_cons_self ..)
    cases fields with
    | nil => exact .one (isName_nameLexeme f.name) hf
    | cons g fields =>
      have hfs := ihf (by simp) fun g hg => ih g (List.mem_cons_of_mem _ hg)
      exact .more (isName_nameLexeme f.name) hf hfs

/-- **The lexemes of a type are a sentence** for the widened type. -/
theorem derives_typeLexemes {t : DataType} (h : t.WellFormed) : Derives (typeLexemes t) t.widen := by
  induction t using DataType.induction with
  | primitive t ht =>
    cases t with
    | decimal p s =>
      exact .decimal (by decide +kernel) (.scale (Text.isNumber_toString p) (Text.isNumber_toString s))
    | char n =>
      have hw : "char".toLower = "char" := by decide +kernel
      exact .sized (by simp [sizedWords, hw]) (Text.isNumber_toString n) rfl
    | varchar n =>
      have hw : "varchar".toLower = "varchar" := by decide +kernel
      exact .sized (by simp [sizedWords, hw]) (Text.isNumber_toString n) rfl
    | enumeration symbols =>
      have hw : ("string".toLower, DataType.string) ∈ scalarWords := by decide +kernel
      exact .scalar hw
    | record | array | map => cases ht
    | _ => exact .scalar (by decide +kernel)
  | record fields ih =>
    obtain ⟨hn, hw⟩ := DataType.wellFormed_record_iff.1 h
    have hne : fields ≠ [] := by
      rintro rfl
      exact hn.ne_nil rfl
    have hm := derivesMembers_memberLexemes hne fun f hf => ih f hf (hw f hf)
    rw [DataType.widen, ← memberFields_widenMembers]
    exact .struct (by decide +kernel) hm
  | array element ih => exact .array (by decide +kernel) (ih h)
  | map key value ihk ihv => exact .map (by decide +kernel) (ihk h.1) (ihv h.2)

/-- The tokens of a type text. -/
theorem tokensOf_typeText {policies : HivePolicies} {t : DataType} {s : String}
    (h : typeText policies t = .ok s) :
    ∃ tokens, tokensOf s = .ok tokens ∧ tokens.map Token.lexeme = typeLexemes t := by
  obtain ⟨hp, ha⟩ := spellable_typeLexemes t
  obtain ⟨tokens, hs, hl⟩ := scan_spell hp ha
  rw [← toList_of_typeText h] at hs
  exact ⟨tokens, by rw [tokensOf, hs]; rfl, hl⟩

/-! ## Reading what was written -/

section
variable {policies : HivePolicies} {t : DataType} {s : String}

/-- A type that is not too deep is read back from its text, widened. -/
theorem readType_of_depth_le (ht : t.WellFormed) (hs : typeText policies t = .ok s)
    (hd : t.depth ≤ maxNesting + 1) : readType s = .ok t.widen := by
  obtain ⟨tokens, hk, hl⟩ := tokensOf_typeText hs
  have ha : Admitted 0 t.widen := admitted_zero_iff.2 ⟨by rw [DataType.depth_widen]; exact hd, ht.widen⟩
  have hr := run_type_eq_ok_iff.2 ⟨derives_typeLexemes ht, ha⟩
  rw [← hl] at hr
  exact readFrom_eq_ok_iff.2 ⟨tokens, hk, hr⟩

/-- The text of a type that is too deep is refused for its depth. -/
theorem readType_of_lt_depth (ht : t.WellFormed) (hs : typeText policies t = .ok s)
    (hd : maxNesting + 1 < t.depth) :
    ∃ position, readType s = .error (.malformed s position (ReadReason.message false .tooDeep)) := by
  obtain ⟨tokens, hk, hl⟩ := tokensOf_typeText hs
  have hd : maxNesting + 1 < (Context.whole).depth + t.widen.depth := by
    rw [DataType.depth_widen, Context.depth]
    omega
  obtain ⟨left, hr⟩ := Derives.run_tooDeep .whole [] (derives_typeLexemes ht) ht.widen hd
  rw [List.append_nil, ← hl] at hr
  refine ⟨positionAt s tokens left, ?_⟩
  simp only [readType, readFrom, hk, hr]
  rfl

/-- **Reading undoes writing** up to widening, for types of at most 129 levels. The text of a deeper type
is refused. -/
theorem readType_typeText (ht : t.WellFormed) (hs : typeText policies t = .ok s) :
    (t.depth ≤ 129 → readType s = .ok t.widen) ∧
      (129 < t.depth →
        ∃ position, readType s = .error (.malformed s position "type nesting too deep")) :=
  ⟨readType_of_depth_le ht hs, readType_of_lt_depth ht hs⟩

end

/-- Names that hold brackets, commas, colons, blanks and back-quotes, and a name that is a keyword. -/
def awkwardType : DataType :=
  .record [
    ⟨"a\x60<b>, ", .map .string (.record [⟨"struct<x:int>", .timeMicros, false⟩]), false⟩,
    ⟨"ß:\x60", .array (.decimal 38 2), true⟩,
    ⟨"Int", .enumeration ["x"], false⟩]

def awkwardText : String :=
  "struct<\x60a\x60\x60<b>, \x60:map<string,struct<\x60struct<x:int>\x60:bigint>>," ++
    "\x60ß:\x60\x60\x60:array<decimal(38,2)>,Int:string>"

theorem readType_awkwardText :
    awkwardType.WellFormed ∧ typeText { timeOfDay := .widen } awkwardType = .ok awkwardText ∧
      readType awkwardText = .ok (.record [
        ⟨"a\x60<b>, ", .map .string (.record [⟨"struct<x:int>", .int64, true⟩]), true⟩,
        ⟨"ß:\x60", .array (.decimal 38 2), true⟩,
        ⟨"Int", .string, true⟩]) := by
  have ht : awkwardType.WellFormed :=
    ⟨by constructor <;> decide, ⟨trivial, by constructor <;> decide, trivial, trivial⟩,
      ⟨by decide, by decide⟩, trivial, trivial⟩
  have hs : typeText { timeOfDay := .widen } awkwardType = .ok awkwardText := by decide +kernel
  exact ⟨ht, hs, (readType_typeText ht hs).1 (by decide)⟩

/-- A type text determines the lexemes of its type. -/
theorem typeLexemes_eq_of_text {p₁ p₂ : HivePolicies} {t₁ t₂ : DataType} {s : String}
    (h₁ : typeText p₁ t₁ = .ok s) (h₂ : typeText p₂ t₂ = .ok s) : typeLexemes t₁ = typeLexemes t₂ := by
  obtain ⟨tokens₁, hk₁, hl₁⟩ := tokensOf_typeText h₁
  obtain ⟨tokens₂, hk₂, hl₂⟩ := tokensOf_typeText h₂
  rw [hk₁, Except.ok.injEq] at hk₂
  rw [← hl₁, ← hl₂, hk₂]

/-- **Texts coincide exactly where the widened types do**, at any depth and under any policies. -/
theorem typeText_eq_iff_widen_eq {p₁ p₂ : HivePolicies} {t₁ t₂ : DataType} {s₁ s₂ : String}
    (ht₁ : t₁.WellFormed) (ht₂ : t₂.WellFormed) (hs₁ : typeText p₁ t₁ = .ok s₁)
    (hs₂ : typeText p₂ t₂ = .ok s₂) : s₁ = s₂ ↔ t₁.widen = t₂.widen := by
  refine ⟨fun h => ?_, fun hw => ?_⟩
  · obtain rfl := h
    have hl := typeLexemes_eq_of_text hs₁ hs₂
    have hd₁ := derives_typeLexemes ht₁
    have hd₂ := derives_typeLexemes ht₂
    exact (hd₁.unique hd₂ (congrArg (· ++ []) hl) endsType_nil endsType_nil).2
  · have hl : typeLexemes t₁ = typeLexemes t₂ := by
      rw [← typeLexemes_widen t₁, hw, typeLexemes_widen]
    rw [← String.toList_inj, toList_of_typeText hs₁, toList_of_typeText hs₂, hl]

/-- A name that spells two members is no two members. -/
theorem typeText_ne_of_spelled_members :
    (DataType.record [⟨"a", .int32, true⟩, ⟨"b", .int32, true⟩]).WellFormed ∧
      (DataType.record [⟨"a:int,b", .int32, true⟩]).WellFormed ∧
      typeText {} (.record [⟨"a", .int32, true⟩, ⟨"b", .int32, true⟩]) = .ok "struct<a:int,b:int>" ∧
      typeText {} (.record [⟨"a:int,b", .int32, true⟩]) = .ok "struct<\x60a:int,b\x60:int>" ∧
      ("struct<a:int,b:int>" = "struct<\x60a:int,b\x60:int>" ↔
        (DataType.record [⟨"a", .int32, true⟩, ⟨"b", .int32, true⟩]).widen =
          (DataType.record [⟨"a:int,b", .int32, true⟩]).widen) := by
  have h₁ : (DataType.record [⟨"a", .int32, true⟩, ⟨"b", .int32, true⟩]).WellFormed :=
    ⟨by constructor <;> decide, trivial, trivial, trivial⟩
  have h₂ : (DataType.record [⟨"a:int,b", .int32, true⟩]).WellFormed :=
    ⟨by constructor <;> decide, trivial, trivial⟩
  have hs₁ : typeText {} (.record [⟨"a", .int32, true⟩, ⟨"b", .int32, true⟩]) =
    .ok "struct<a:int,b:int>" := by decide +kernel
  have hs₂ : typeText {} (.record [⟨"a:int,b", .int32, true⟩]) =
    .ok "struct<\x60a:int,b\x60:int>" := by decide +kernel
  exact ⟨h₁, h₂, hs₁, hs₂, typeText_eq_iff_widen_eq h₁ h₂ hs₁ hs₂⟩

end SchemaBridge.Hive
