import SchemaBridge.Hive.State
import SchemaBridge.Proofs.Text.Numeral

/-!
# The grammar of Hive types

    type    := scalar | "double" "precision" | decimal | sized | array | map | struct
    decimal := ( "decimal" | "numeric" ) [ "(" number [ "," number ] ")" ]
    sized   := ( "char" | "varchar" ) "(" number ")"
    array   := "array" "<" type ">"
    map     := "map" "<" type "," type ">"
    struct  := "struct" "<" members ">"
    members := member { "," member }
    member  := (word | quoted) ":" type

`Derives ls t`: the lexemes `ls` are a sentence of the grammar and stand for `t`; `DerivesMembers` is the
same for lists of members. Keywords are compared in small letters. The relation knows no limit of nesting
and checks no attributes.

Main statement: `Derives.unique`, no list of lexemes has two readings, nor does one reading stop inside
another. The first word of a sentence decides how it goes on (`derives_array_iff` and its siblings).
-/

namespace SchemaBridge.Hive

/-! ## Productions -/

/-- The words that are a type, and the type that each one names. -/
def scalarWords : List (String × DataType) := [
  ("tinyint", .int8), ("smallint", .int16), ("int", .int32), ("integer", .int32), ("bigint", .int64),
  ("float", .float32), ("double", .float64), ("boolean", .boolean), ("string", .string),
  ("binary", .binary), ("date", .date), ("timestamp", .timestampMillis)]

/-- The words of a decimal type. -/
def decimalWords : List String := ["decimal", "numeric"]

/-- The words of types that take a size. -/
def sizedWords : List (String × (UInt32 → DataType)) := [("char", .char), ("varchar", .varchar)]

/-- The parameter list of a decimal: precision and scale, with their defaults. -/
inductive DecimalParameters : List Lexeme → UInt32 → UInt32 → Prop
  | none : DecimalParameters [] 10 0
  | precision {w : String} {p : UInt32} : Text.IsNumber w p →
      DecimalParameters [.lparen, .word w, .rparen] p 0
  | scale {w v : String} {p s : UInt32} : Text.IsNumber w p → Text.IsNumber v s →
      DecimalParameters [.lparen, .word w, .comma, .word v, .rparen] p s

/-- The lexemes that name a member. -/
inductive IsName : Lexeme → String → Prop
  | word (n : String) : IsName (.word n) n
  | quoted (n : String) : IsName (.quoted n) n

mutual

/-- The lexemes are a type. -/
inductive Derives : List Lexeme → DataType → Prop
  | scalar {w : String} {t : DataType} : (w.toLower, t) ∈ scalarWords → Derives [.word w] t
  | doublePrecision {w v : String} : w.toLower = "double" → v.toLower = "precision" →
      Derives [.word w, .word v] .float64
  | decimal {w : String} {ls : List Lexeme} {p s : UInt32} :
      w.toLower ∈ decimalWords → DecimalParameters ls p s →
      Derives (.word w :: ls) (.decimal p s)
  | sized {w v : String} {make : UInt32 → DataType} {n : UInt32} {t : DataType} :
      (w.toLower, make) ∈ sizedWords → Text.IsNumber v n → t = make n →
      Derives [.word w, .lparen, .word v, .rparen] t
  | array {w : String} {ls : List Lexeme} {t : DataType} : w.toLower = "array" → Derives ls t →
      Derives (.word w :: .langle :: (ls ++ [.rangle])) (.array t)
  | map {w : String} {ls ms : List Lexeme} {key value : DataType} : w.toLower = "map" →
      Derives ls key → Derives ms value →
      Derives (.word w :: .langle :: (ls ++ .comma :: (ms ++ [.rangle]))) (.map key value)
  | struct {w : String} {ls : List Lexeme} {members : List MemberType} : w.toLower = "struct" →
      DerivesMembers ls members →
      Derives (.word w :: .langle :: (ls ++ [.rangle])) (.record (memberFields members))

/-- The lexemes are a list of members. -/
inductive DerivesMembers : List Lexeme → List MemberType → Prop
  | one {l : Lexeme} {n : String} {ls : List Lexeme} {t : DataType} : IsName l n → Derives ls t →
      DerivesMembers (l :: .colon :: ls) [(n, t)]
  | more {l : Lexeme} {n : String} {ls ms : List Lexeme} {t : DataType} {members : List MemberType} :
      IsName l n → Derives ls t → DerivesMembers ms members →
      DerivesMembers (l :: .colon :: (ls ++ .comma :: ms)) ((n, t) :: members)

end

/-- What may stand after a type. -/
def EndsType (rest : List Lexeme) : Prop := ∀ l ∈ rest.head?, l = .comma ∨ l = .rangle

/-- What may stand after a list of members. -/
def EndsMembers (rest : List Lexeme) : Prop := ∀ l ∈ rest.head?, l = .rangle

@[simp] theorem endsType_nil : EndsType [] := by simp [EndsType]

@[simp] theorem endsType_comma (ls : List Lexeme) : EndsType (.comma :: ls) := by simp [EndsType]

@[simp] theorem endsType_rangle (ls : List Lexeme) : EndsType (.rangle :: ls) := by simp [EndsType]

@[simp] theorem endsMembers_rangle (ls : List Lexeme) : EndsMembers (.rangle :: ls) := by
  simp [EndsMembers]

theorem EndsMembers.endsType {rest : List Lexeme} (h : EndsMembers rest) : EndsType rest :=
  fun l hl => .inr (h l hl)

/-! ## The first word decides -/

theorem Derives.exists_word {ls : List Lexeme} {t : DataType} (h : Derives ls t) :
    ∃ w rest, ls = .word w :: rest := by
  cases h <;> exact ⟨_, _, rfl⟩

/-- A derivation that starts where a word stands starts with this word. -/
theorem Derives.word_eq {w : String} {ls ls' k k' : List Lexeme} {t' : DataType} (h' : Derives ls' t')
    (he : .word w :: ls ++ k = ls' ++ k') : ∃ rest, ls' = .word w :: rest ∧ ls ++ k = rest ++ k' := by
  obtain ⟨w', rest, rfl⟩ := h'.exists_word
  simp only [List.cons_append, List.cons.injEq, Lexeme.word.injEq] at he
  obtain ⟨rfl, he⟩ := he
  exact ⟨rest, rfl, he⟩

section
variable {w : String} {ls : List Lexeme} {t : DataType}

/-- A derivation by its last production. -/
theorem derives_word_iff :
    Derives (.word w :: ls) t ↔
      ls = [] ∧ (w.toLower, t) ∈ scalarWords ∨
      w.toLower = "double" ∧ (∃ v, v.toLower = "precision" ∧ ls = [.word v]) ∧ t = .float64 ∨
      w.toLower ∈ decimalWords ∧
        (∃ p s, DecimalParameters ls p s ∧ t = .decimal p s) ∨
      (∃ make, (w.toLower, make) ∈ sizedWords ∧
        ∃ v n, Text.IsNumber v n ∧ ls = [.lparen, .word v, .rparen] ∧ t = make n) ∨
      w.toLower = "array" ∧ (∃ ms e, Derives ms e ∧ ls = .langle :: (ms ++ [.rangle]) ∧ t = .array e) ∨
      w.toLower = "map" ∧ (∃ ms ns key value, Derives ms key ∧ Derives ns value ∧
        ls = .langle :: (ms ++ .comma :: (ns ++ [.rangle])) ∧ t = .map key value) ∨
      w.toLower = "struct" ∧ (∃ ms members, DerivesMembers ms members ∧
        ls = .langle :: (ms ++ [.rangle]) ∧ t = .record (memberFields members)) := by
  constructor
  · intro h
    cases h with
    | scalar h => exact .inl ⟨rfl, h⟩
    | doublePrecision h hv => exact .inr (.inl ⟨h, ⟨_, hv, rfl⟩, rfl⟩)
    | decimal h hp => exact .inr (.inr (.inl ⟨h, _, _, hp, rfl⟩))
    | sized h hv ht => exact .inr (.inr (.inr (.inl ⟨_, h, _, _, hv, rfl, ht⟩)))
    | array h he => exact .inr (.inr (.inr (.inr (.inl ⟨h, _, _, he, rfl, rfl⟩))))
    | map h hk hv => exact .inr (.inr (.inr (.inr (.inr (.inl ⟨h, _, _, _, _, hk, hv, rfl, rfl⟩)))))
    | struct h hm => exact .inr (.inr (.inr (.inr (.inr (.inr ⟨h, _, _, hm, rfl, rfl⟩)))))
  · rintro (⟨rfl, h⟩ | ⟨h, ⟨v, hv, rfl⟩, rfl⟩ | ⟨h, p, s, hp, rfl⟩ | ⟨make, h, v, n, hv, rfl, rfl⟩ |
      ⟨h, ms, e, he, rfl, rfl⟩ | ⟨h, ms, ns, key, value, hk, hv, rfl, rfl⟩ |
      ⟨h, ms, members, hm, rfl, rfl⟩)
    · exact .scalar h
    · exact .doublePrecision h hv
    · exact .decimal h hp
    · exact .sized h hv rfl
    · exact .array h he
    · exact .map h hk hv
    · exact .struct h hm

theorem lower_int : "int".toLower = "int" := by decide +kernel

theorem lower_array : "array".toLower = "array" := by decide +kernel

theorem lower_map : "map".toLower = "map" := by decide +kernel

theorem lower_struct : "struct".toLower = "struct" := by decide +kernel

theorem derives_array_iff (h : w.toLower = "array") :
    Derives (.word w :: ls) t ↔
      ∃ ms e, Derives ms e ∧ ls = .langle :: (ms ++ [.rangle]) ∧ t = .array e := by
  rw [derives_word_iff]
  simp [h, scalarWords, decimalWords, sizedWords]

theorem derives_map_iff (h : w.toLower = "map") :
    Derives (.word w :: ls) t ↔ ∃ ms ns key value, Derives ms key ∧ Derives ns value ∧
      ls = .langle :: (ms ++ .comma :: (ns ++ [.rangle])) ∧ t = .map key value := by
  rw [derives_word_iff]
  simp [h, scalarWords, decimalWords, sizedWords]

theorem derives_struct_iff (h : w.toLower = "struct") :
    Derives (.word w :: ls) t ↔ ∃ ms members, DerivesMembers ms members ∧
      ls = .langle :: (ms ++ [.rangle]) ∧ t = .record (memberFields members) := by
  rw [derives_word_iff]
  simp [h, scalarWords, decimalWords, sizedWords]

theorem derives_decimal_iff (h : w.toLower ∈ decimalWords) :
    Derives (.word w :: ls) t ↔ ∃ p s, DecimalParameters ls p s ∧ t = .decimal p s := by
  rw [derives_word_iff]
  simp only [decimalWords, List.mem_cons, List.not_mem_nil, or_false] at h
  rcases h with h | h <;> simp [h, scalarWords, decimalWords, sizedWords]

theorem derives_sized_iff {make : UInt32 → DataType} (h : (w.toLower, make) ∈ sizedWords) :
    Derives (.word w :: ls) t ↔
      ∃ v n, Text.IsNumber v n ∧ ls = [.lparen, .word v, .rparen] ∧ t = make n := by
  rw [derives_word_iff]
  simp only [sizedWords, List.mem_cons, Prod.mk.injEq, List.not_mem_nil, or_false] at h
  rcases h with ⟨h, rfl⟩ | ⟨h, rfl⟩ <;> simp [h, scalarWords, decimalWords, sizedWords]

theorem derives_scalar_iff {s : DataType} (h : (w.toLower, s) ∈ scalarWords) :
    Derives (.word w :: ls) t ↔ t = s ∧
      (ls = [] ∨ w.toLower = "double" ∧ ∃ v, v.toLower = "precision" ∧ ls = [.word v]) := by
  rw [derives_word_iff]
  simp only [scalarWords, List.mem_cons, Prod.mk.injEq, List.not_mem_nil, or_false] at h
  rcases h with ⟨h, rfl⟩ | ⟨h, rfl⟩ | ⟨h, rfl⟩ | ⟨h, rfl⟩ | ⟨h, rfl⟩ | ⟨h, rfl⟩ | ⟨h, rfl⟩ | ⟨h, rfl⟩ |
    ⟨h, rfl⟩ | ⟨h, rfl⟩ | ⟨h, rfl⟩ | ⟨h, rfl⟩
  all_goals simp [h, scalarWords, decimalWords, sizedWords, and_comm, and_or_left]

end

/-! ## One reading -/

theorem IsName.unique {l : Lexeme} {m n : String} (hm : IsName l m) (hn : IsName l n) : m = n := by
  cases hm <;> cases hn <;> rfl

theorem DecimalParameters.unique {ls ls' k k' : List Lexeme} {p p' s s' : UInt32}
    (h : DecimalParameters ls p s) (h' : DecimalParameters ls' p' s') (he : ls ++ k = ls' ++ k')
    (hk : EndsType k) (hk' : EndsType k') : ls = ls' ∧ p = p' ∧ s = s' := by
  cases h with
  | none =>
    cases h' with
    | none => exact ⟨rfl, rfl, rfl⟩
    | precision _ | scale _ _ => subst he; simp [EndsType] at hk
  | precision hp =>
    cases h' with
    | none => subst he; simp [EndsType] at hk'
    | precision hp' =>
      simp only [List.cons_append, List.cons.injEq, Lexeme.word.injEq] at he
      obtain ⟨-, rfl, -⟩ := he
      exact ⟨rfl, hp.unique hp', rfl⟩
    | scale _ _ => simp at he
  | scale hp hs =>
    cases h' with
    | none => subst he; simp [EndsType] at hk'
    | precision _ => simp at he
    | scale hp' hs' =>
      simp only [List.cons_append, List.cons.injEq, Lexeme.word.injEq] at he
      obtain ⟨-, rfl, -, rfl, -⟩ := he
      exact ⟨rfl, hp.unique hp', hs.unique hs'⟩

mutual

/-- **Unambiguity**: sentences at the start of one list of lexemes are the same and stand for the same
type, where what follows them may follow a type. -/
theorem Derives.unique {ls ls' k k' : List Lexeme} {t t' : DataType} :
    Derives ls t → Derives ls' t' → ls ++ k = ls' ++ k' → EndsType k → EndsType k' →
      ls = ls' ∧ t = t'
  | .scalar hw, h', he, hk, _ => by
    obtain ⟨rest, rfl, he'⟩ := h'.word_eq he
    obtain ⟨rfl, rfl | ⟨-, v, -, rfl⟩⟩ := (derives_scalar_iff hw).1 h'
    · exact ⟨rfl, rfl⟩
    · subst he'
      simp [EndsType] at hk
  | .doublePrecision hw _, h', he, _, hk' => by
    obtain ⟨rest, rfl, he'⟩ := h'.word_eq he
    obtain ⟨rfl, rfl | ⟨-, v, -, rfl⟩⟩ :=
      (derives_scalar_iff (s := .float64) (by simp [hw, scalarWords])).1 h'
    · subst he'
      simp [EndsType] at hk'
    · simp only [List.cons_append, List.cons.injEq, Lexeme.word.injEq] at he'
      obtain ⟨rfl, -⟩ := he'
      exact ⟨rfl, rfl⟩
  | .decimal hw hp, h', he, hk, hk' => by
    obtain ⟨rest, rfl, he'⟩ := h'.word_eq he
    obtain ⟨p, s, hp', rfl⟩ := (derives_decimal_iff hw).1 h'
    obtain ⟨rfl, rfl, rfl⟩ := hp.unique hp' he' hk hk'
    exact ⟨rfl, rfl⟩
  | .sized hw hv ht, h', he, _, _ => by
    subst ht
    obtain ⟨rest, rfl, he'⟩ := h'.word_eq he
    obtain ⟨v, n, hv', rfl, rfl⟩ := (derives_sized_iff hw).1 h'
    simp only [List.cons_append, List.cons.injEq, Lexeme.word.injEq] at he'
    obtain ⟨-, rfl, -⟩ := he'
    rw [hv.unique hv']
    exact ⟨rfl, rfl⟩
  | .array hw ht, h', he, _, _ => by
    obtain ⟨rest, rfl, he'⟩ := h'.word_eq he
    obtain ⟨ms, e, ht', rfl, rfl⟩ := (derives_array_iff hw).1 h'
    simp only [List.cons_append, List.append_assoc, List.nil_append, List.cons.injEq, true_and] at he'
    obtain ⟨rfl, rfl⟩ := ht.unique ht' he' (by simp) (by simp)
    exact ⟨rfl, rfl⟩
  | .map hw ht hv, h', he, _, _ => by
    obtain ⟨rest, rfl, he'⟩ := h'.word_eq he
    obtain ⟨ms, ns, key, value, ht', hv', rfl, rfl⟩ := (derives_map_iff hw).1 h'
    simp only [List.cons_append, List.append_assoc, List.nil_append, List.cons.injEq, true_and] at he'
    obtain ⟨rfl, rfl⟩ := ht.unique ht' he' (by simp) (by simp)
    simp only [List.append_cancel_left_eq, List.cons.injEq, true_and] at he'
    obtain ⟨rfl, rfl⟩ := hv.unique hv' he' (by simp) (by simp)
    exact ⟨rfl, rfl⟩
  | .struct hw hm, h', he, _, _ => by
    obtain ⟨rest, rfl, he'⟩ := h'.word_eq he
    obtain ⟨ms, members, hm', rfl, rfl⟩ := (derives_struct_iff hw).1 h'
    simp only [List.cons_append, List.append_assoc, List.nil_append, List.cons.injEq, true_and] at he'
    obtain ⟨rfl, rfl⟩ := hm.unique hm' he' (by simp) (by simp)
    exact ⟨rfl, rfl⟩

theorem DerivesMembers.unique {ls ls' k k' : List Lexeme} {members members' : List MemberType} :
    DerivesMembers ls members → DerivesMembers ls' members' → ls ++ k = ls' ++ k' →
      EndsMembers k → EndsMembers k' → ls = ls' ∧ members = members'
  | .one hn ht, .one hn' ht', he, hk, hk' => by
    simp only [List.cons_append, List.cons.injEq, true_and] at he
    obtain ⟨rfl, he⟩ := he
    obtain ⟨rfl, rfl⟩ := ht.unique ht' he hk.endsType hk'.endsType
    rw [hn.unique hn']
    exact ⟨rfl, rfl⟩
  | .one hn ht, .more hn' ht' _, he, hk, _ => by
    simp only [List.cons_append, List.append_assoc, List.cons.injEq, true_and] at he
    obtain ⟨rfl, he⟩ := he
    obtain ⟨rfl, rfl⟩ := ht.unique ht' he hk.endsType (by simp)
    rw [List.append_cancel_left_eq] at he
    subst he
    simp [EndsMembers] at hk
  | .more hn ht _, .one hn' ht', he, _, hk' => by
    simp only [List.cons_append, List.append_assoc, List.cons.injEq, true_and] at he
    obtain ⟨rfl, he⟩ := he
    obtain ⟨rfl, rfl⟩ := ht.unique ht' he (by simp) hk'.endsType
    rw [List.append_cancel_left_eq] at he
    subst he
    simp [EndsMembers] at hk'
  | .more hn ht hm, .more hn' ht' hm', he, hk, hk' => by
    simp only [List.cons_append, List.append_assoc, List.cons.injEq, true_and] at he
    obtain ⟨rfl, he⟩ := he
    obtain ⟨rfl, rfl⟩ := ht.unique ht' he (by simp) (by simp)
    simp only [List.append_cancel_left_eq, List.cons.injEq, true_and] at he
    obtain ⟨rfl, rfl⟩ := hm.unique hm' he hk hk'
    rw [hn.unique hn']
    exact ⟨rfl, rfl⟩

end

end SchemaBridge.Hive
