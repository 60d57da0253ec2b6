import SchemaBridge.Hive.TypeText
import SchemaBridge.Proofs.DataType.Widening
import SchemaBridge.Proofs.Except
import SchemaBridge.Proofs.Hive.Scanning
import SchemaBridge.Proofs.Text.Numeral

/-!
# Type texts are spelled lexemes

`typeLexemes t` are the lexemes of the Hive text of `t`. Each kind of nested type has one equivalence that
says when it has a text and which one (`typeText_record_eq_ok_iff` and its siblings). Main statements:
`toList_of_typeText`, a type text is the spelling of these lexemes side by side; `spellable_typeLexemes`,
they can be told apart in it; and `typeLexemes_widen`, they depend on what the text keeps of the type
alone.
-/

namespace SchemaBridge

namespace Hive

/-! ## Lexemes of a type -/

/-- A member name as a lexeme. -/
def nameLexeme (name : String) : Lexeme :=
  if isPlainName name then .word name else .quoted name

mutual

/-- The lexemes of the text of a type. -/
def typeLexemes : DataType → List Lexeme
  | .boolean => [.word "boolean"]
  | .int8 => [.word "tinyint"]
  | .int16 => [.word "smallint"]
  | .int32 | .timeMillis => [.word "int"]
  | .int64 | .timeMicros => [.word "bigint"]
  | .float32 => [.word "float"]
  | .float64 => [.word "double"]
  | .decimal p s =>
    [.word "decimal", .lparen, .word (toString p), .comma, .word (toString s), .rparen]
  | .string | .enumeration _ => [.word "string"]
  | .char n => [.word "char", .lparen, .word (toString n), .rparen]
  | .varchar n => [.word "varchar", .lparen, .word (toString n), .rparen]
  | .binary => [.word "binary"]
  | .date => [.word "date"]
  | .timestampMillis | .timestampMicros => [.word "timestamp"]
  | .record fields => .word "struct" :: .langle :: (memberLexemes fields ++ [.rangle])
  | .array element => .word "array" :: .langle :: (typeLexemes element ++ [.rangle])
  | .map key value =>
    .word "map" :: .langle :: (typeLexemes key ++ .comma :: (typeLexemes value ++ [.rangle]))

/-- The lexemes of the members of a record. -/
def memberLexemes : List Field → List Lexeme
  | [] => []
  | [⟨name, type, _⟩] => nameLexeme name :: .colon :: typeLexemes type
  | ⟨name, type, _⟩ :: field :: fields =>
    nameLexeme name :: .colon :: (typeLexemes type ++ .comma :: memberLexemes (field :: fields))

end

theorem memberLexemes_widenFields {fields : List Field}
    (ih : ∀ f ∈ fields, typeLexemes f.type.widen = typeLexemes f.type) :
    memberLexemes (DataType.widenFields fields) = memberLexemes fields := by
  induction fields with
  | nil => rfl
  | cons f fields ihf =>
    have hf := ih f (List.mem_cons_self ..)
    have hfs := ihf fun g hg => ih g (List.mem_cons_of_mem _ hg)
    cases fields with
    | nil => simp [DataType.widenFields, memberLexemes, hf]
    | cons g fields =>
      rw [DataType.widenFields] at hfs
      simp [DataType.widenFields, memberLexemes, hf, hfs]

theorem typeLexemes_widen (t : DataType) : typeLexemes t.widen = typeLexemes t := by
  induction t using DataType.induction with
  | primitive t ht => cases t <;> first | rfl | cases ht
  | record fields ih =>
    rw [DataType.widen, typeLexemes, typeLexemes, memberLexemes_widenFields ih]
  | array element ih => rw [DataType.widen, typeLexemes, typeLexemes, ih]
  | map key value ihk ihv => rw [DataType.widen, typeLexemes, typeLexemes, ihk, ihv]

/-! ## Lexemes that can be told apart -/

/-- Every lexeme can be spelled, and no two neighbours need a blank between them. -/
structure Spellable (ls : List Lexeme) : Prop where
  proper : ∀ l ∈ ls, l.Proper
  apart : ls.IsChain Lexeme.Apart

/-- The lexemes that are one character. -/
def Lexeme.IsMark : Lexeme → Prop
  | .word _ => False
  | .quoted _ => False
  | _ => True

theorem spellable_nil : Spellable [] := ⟨by simp, .nil⟩

theorem spellable_singleton {l : Lexeme} (h : l.Proper) : Spellable [l] :=
  ⟨by simpa using h, .singleton _⟩

/-- A mark divides any two lists of lexemes. -/
theorem Spellable.append_mark {ls ms : List Lexeme} {m : Lexeme} (h : Spellable ls) (h' : Spellable ms)
    (hm : m.IsMark) : Spellable (ls ++ m :: ms) := by
  constructor
  · intro l hl
    rcases List.mem_append.1 hl with hl | hl
    · exact h.proper l hl
    · rcases List.mem_cons.1 hl with rfl | hl
      · cases l <;> first | exact hm.elim | trivial
      · exact h'.proper l hl
  · have hleft : ∀ l : Lexeme, l.Apart m := by
      intro l
      cases m <;> cases l <;> first | exact hm.elim | trivial
    have hright : ∀ l : Lexeme, m.Apart l := by
      intro l
      cases m <;> first | exact hm.elim | trivial
    rw [List.isChain_append]
    refine ⟨h.apart, ?_, fun l _ n hn => by cases hn; exact hleft l⟩
    cases ms with
    | nil => exact .singleton _
    | cons n ms => exact .cons_cons (hright n) h'.apart

theorem proper_word {w : String} (h : isPlainName w = true) : (Lexeme.word w).Proper := by
  simp only [isPlainName, Bool.and_eq_true, Bool.not_eq_true', List.all_eq_true] at h
  exact ⟨by rintro rfl; simp at h, h.2⟩

theorem proper_nameLexeme (name : String) : (nameLexeme name).Proper := by
  unfold nameLexeme
  split
  · rename_i h
    exact proper_word h
  · trivial

theorem spellable_number (n : UInt32) : Spellable [.word (toString n)] := by
  obtain ⟨hne, hd, -⟩ := Text.isNumber_toString n
  exact spellable_singleton ⟨hne, fun c hc => by simp [isWordChar, Char.isAlphanum, hd c hc]⟩

/-- Lexemes in the brackets of a constructor. -/
theorem Spellable.brackets {w : String} {ls : List Lexeme} (hw : (Lexeme.word w).Proper)
    (h : Spellable ls) : Spellable (.word w :: .langle :: (ls ++ [.rangle])) :=
  (spellable_singleton hw).append_mark (h.append_mark spellable_nil (m := .rangle) trivial) trivial

/-- A number in the parentheses of a text type. -/
theorem spellable_sized {w : String} (n : UInt32) (hw : (Lexeme.word w).Proper) :
    Spellable [.word w, .lparen, .word (toString n), .rparen] :=
  (spellable_singleton hw).append_mark
    ((spellable_number n).append_mark spellable_nil (m := .rparen) trivial) trivial

theorem spellable_decimal (p s : UInt32) :
    Spellable [.word "decimal", .lparen, .word (toString p), .comma, .word (toString s), .rparen] := by
  have hs : Spellable [.word (toString s), .rparen] :=
    (spellable_number s).append_mark spellable_nil (m := .rparen) trivial
  have hp : Spellable [.word (toString p), .comma, .word (toString s), .rparen] :=
    (spellable_number p).append_mark hs (m := .comma) trivial
  have hw : Spellable [.word "decimal"] := spellable_singleton (proper_word (by decide))
  exact hw.append_mark hp (m := .lparen) trivial

theorem spellable_memberLexemes {fields : List Field}
    (ih : ∀ f ∈ fields, Spellable (typeLexemes f.type)) : Spellable (memberLexemes fields) := by
  induction fields with
  | nil => exact spellable_nil
  | cons f fields ihf =>
    have hf := ih f (List.mem_cons_self ..)
    have hfs := ihf fun g hg => ih g (List.mem_cons_of_mem _ hg)
    have hn := spellable_singleton (proper_nameLexeme f.name)
    cases fields with
    | nil => exact hn.append_mark hf (m := .colon) trivial
    | cons g fields =>
      exact hn.append_mark (hf.append_mark hfs (m := .comma) trivial) (m := .colon) trivial

/-- **The lexemes of a type can be told apart** in their spelling. -/
theorem spellable_typeLexemes (t : DataType) : Spellable (typeLexemes t) := by
  induction t using DataType.induction with
  | primitive t ht =>
    cases t with
    | decimal p s => exact spellable_decimal p s
    | char n => exact spellable_sized n (proper_word (by decide))
    | varchar n => exact spellable_sized n (proper_word (by decide))
    | record | array | map => cases ht
    | _ => exact spellable_singleton (proper_word (by decide))
  | record fields ih => exact (spellable_memberLexemes ih).brackets (proper_word (by decide))
  | array element ih => exact ih.brackets (proper_word (by decide))
  | map key value ihk ihv =>
    have h := (ihk.append_mark ihv (m := .comma) trivial).brackets (w := "map") (proper_word (by decide))
    rwa [List.append_assoc] at h

/-! ## Texts -/

section
variable {policies : HivePolicies} {s : String}

theorem widened_eq_ok_iff {policy : Policy} {typeName text : String} :
    widened policy typeName text = .ok s ↔ policy = .widen ∧ s = text := by
  cases policy <;> simp [widened, eq_comm]

theorem typeText_record_eq_ok_iff {fields : List Field} :
    typeText policies (.record fields) = .ok s ↔ checkNames (fields.map Member.name) = .ok () ∧
      ∃ members, memberTexts policies fields = .ok members ∧ s = spellStruct members := by
  rw [typeText, bind_eq_ok_iff]
  simp only [bind_eq_ok_iff, pure_eq_ok_iff]
  refine ⟨fun h => ?_, fun h => ?_⟩
  · obtain ⟨u, hn, members, hm, rfl⟩ := h
    exact ⟨hn, members, hm, rfl⟩
  · obtain ⟨hn, members, hm, rfl⟩ := h
    exact ⟨(), hn, members, hm, rfl⟩

theorem typeText_array_eq_ok_iff {element : DataType} :
    typeText policies (.array element) = .ok s ↔
      ∃ text, typeText policies element = .ok text ∧ s = spellArray text := by
  rw [typeText, bind_eq_ok_iff]
  simp only [pure_eq_ok_iff, within_eq_ok_iff]

theorem typeText_map_eq_ok_iff {key value : DataType} :
    typeText policies (.map key value) = .ok s ↔ key.isPrimitive = true ∧
      ∃ keyText, typeText policies key = .ok keyText ∧
        ∃ valueText, typeText policies value = .ok valueText ∧ s = spellMap keyText valueText := by
  rw [typeText]
  cases key.isPrimitive with
  | false => simp [bind, Except.bind, throw, throwThe, MonadExceptOf.throw]
  | true =>
    simp only [Bool.not_true, Bool.false_eq_true, if_false, bind_eq_ok_iff, pure_eq_ok_iff,
      within_eq_ok_iff, true_and]

theorem memberTexts_cons_eq_ok_iff {field : Field} {fields : List Field}
    {members : List (String × String)} :
    memberTexts policies (field :: fields) = .ok members ↔
      ∃ text, typeText policies field.type = .ok text ∧
        ∃ texts, memberTexts policies fields = .ok texts ∧ members = (field.name, text) :: texts := by
  rw [memberTexts, bind_eq_ok_iff]
  simp only [bind_eq_ok_iff, pure_eq_ok_iff, within_eq_ok_iff]

end

/-! ## Texts of widened types -/

section
variable {p : HivePolicies} (q : HivePolicies)

theorem memberTexts_widenFields {fields : List Field} {members : List (String × String)}
    (ih : ∀ f ∈ fields, ∀ {s : String}, typeText p f.type = .ok s → typeText q f.type.widen = .ok s)
    (h : memberTexts p fields = .ok members) :
    memberTexts q (DataType.widenFields fields) = .ok members := by
  induction fields generalizing members with
  | nil =>
    cases h
    rfl
  | cons f fields ihf =>
    obtain ⟨text, ht, texts, hts, rfl⟩ := memberTexts_cons_eq_ok_iff.1 h
    have hf := ih f (List.mem_cons_self ..) ht
    have hfs := ihf (fun g hg => ih g (List.mem_cons_of_mem _ hg)) hts
    rw [DataType.widenFields]
    exact memberTexts_cons_eq_ok_iff.2 ⟨text, hf, texts, hfs, rfl⟩

/-- **A widened type needs no widening**: it has the same text, whatever the policies are. -/
theorem typeText_widen {t : DataType} {s : String} (h : typeText p t = .ok s) :
    typeText q t.widen = .ok s := by
  induction t using DataType.induction generalizing s with
  | primitive t ht =>
    cases t with
    | timestampMicros | timeMillis | timeMicros | enumeration _ =>
      rw [typeText, widened_eq_ok_iff] at h
      obtain ⟨-, rfl⟩ := h
      rfl
    | record | array | map => cases ht
    | _ => exact h
  | record fields ih =>
    obtain ⟨hn, members, hm, rfl⟩ := typeText_record_eq_ok_iff.1 h
    have hm' := memberTexts_widenFields q ih hm
    rw [DataType.widen]
    refine typeText_record_eq_ok_iff.2 ⟨?_, members, hm', rfl⟩
    rw [DataType.map_name_widenFields]
    exact hn
  | array element ih =>
    obtain ⟨text, ht, rfl⟩ := typeText_array_eq_ok_iff.1 h
    exact typeText_array_eq_ok_iff.2 ⟨text, ih ht, rfl⟩
  | map key value ihk ihv =>
    obtain ⟨hp, keyText, hk, valueText, hv, rfl⟩ := typeText_map_eq_ok_iff.1 h
    have hp' : key.widen.isPrimitive = true := by rw [DataType.isPrimitive_widen, hp]
    exact typeText_map_eq_ok_iff.2 ⟨hp', keyText, ihk hk, valueText, ihv hv, rfl⟩

end

theorem toList_spellName (name : String) : (spellName name).toList = (nameLexeme name).spell := by
  unfold spellName nameLexeme
  split
  · rfl
  · rw [String.toList_ofList, Lexeme.spell]

/-- A text without an enclosed type. -/
theorem toList_of_typeText_primitive {policies : HivePolicies} {t : DataType} {s : String}
    (ht : t.isPrimitive = true) (h : typeText policies t = .ok s) :
    s.toList = spellAll (typeLexemes t) := by
  cases t with
  | decimal p n =>
    simp only [typeText] at h
    split at h
    · cases h
    · cases h
      simp [spellDecimal, typeLexemes, Lexeme.spell]
  | char n =>
    simp only [typeText] at h
    split at h
    · cases h
    · cases h
      simp [spellChar, typeLexemes, Lexeme.spell]
  | varchar n =>
    simp only [typeText] at h
    split at h
    · cases h
    · cases h
      simp [spellVarchar, typeLexemes, Lexeme.spell]
  | timestampMicros | timeMillis | timeMicros | enumeration _ =>
    rw [typeText, widened_eq_ok_iff] at h
    simp [h.2, typeLexemes, Lexeme.spell]
  | record | array | map => cases ht
  | _ =>
    cases h
    simp [typeLexemes, Lexeme.spell]

/-- The members of a record, if the texts of their types are the spellings of their lexemes. -/
theorem toList_commaList {policies : HivePolicies} {fields : List Field}
    {members : List (String × String)}
    (ih : ∀ f ∈ fields, ∀ {s : String}, typeText policies f.type = .ok s →
      s.toList = spellAll (typeLexemes f.type))
    (hm : memberTexts policies fields = .ok members) :
    (commaList (members.map fun m => spellName m.1 ++ ":" ++ m.2)).toList =
      spellAll (memberLexemes fields) := by
  induction fields generalizing members with
  | nil => cases hm; rfl
  | cons f fields ihf =>
    obtain ⟨text, ht, texts, hts, rfl⟩ := memberTexts_cons_eq_ok_iff.1 hm
    have hf := ih f (List.mem_cons_self ..) ht
    have hfs := ihf (fun g hg => ih g (List.mem_cons_of_mem _ hg)) hts
    cases fields with
    | nil =>
      cases hts
      simp [commaList, memberLexemes, toList_spellName, hf, Lexeme.spell]
    | cons g fields =>
      obtain ⟨text', -, texts', -, rfl⟩ := memberTexts_cons_eq_ok_iff.1 hts
      rw [List.map_cons] at hfs
      simp [commaList, memberLexemes, toList_spellName, hf, hfs, Lexeme.spell]

/-- **A type text is the spelling of the lexemes of its type**, side by side. -/
theorem toList_of_typeText {policies : HivePolicies} {t : DataType} {s : String}
    (h : typeText policies t = .ok s) : s.toList = spellAll (typeLexemes t) := by
  induction t using DataType.induction generalizing s with
  | primitive t ht => exact toList_of_typeText_primitive ht h
  | record fields ih =>
    obtain ⟨-, members, hm, rfl⟩ := typeText_record_eq_ok_iff.1 h
    have key := toList_commaList ih hm
    simp [spellStruct, typeLexemes, key, Lexeme.spell]
  | array element ih =>
    obtain ⟨text, ht, rfl⟩ := typeText_array_eq_ok_iff.1 h
    simp [spellArray, typeLexemes, ih ht, Lexeme.spell]
  | map key value ihk ihv =>
    obtain ⟨-, keyText, hk, valueText, hv, rfl⟩ := typeText_map_eq_ok_iff.1 h
    simp [spellMap, typeLexemes, ihk hk, ihv hv, Lexeme.spell]

end Hive

end SchemaBridge
