import SchemaBridge.Proofs.Hive.Joining
import SchemaBridge.Proofs.Hive.RoundTrip

/-!
# Texts that are put together

Texts of types can be put together to texts of greater types, in whatever spelling they come: the lexemes of
the parts stand between the marks of the whole (`Lexes.append_mark_iff`), and the grammar does not look past
the marks. Main statements: `readType_spelled`, the spellings of arrays, maps and records read as the types of
their parts; and `readMembers_in_brackets`, a list of members is read alike with and without the brackets of a
record type, one level of depth apart, and a record type is read as its members are.
-/

namespace SchemaBridge.Hive

/-! ## Texts by their lexemes -/

/-- What a type says of its depth one level further in. -/
theorem admitted_one_iff {t : DataType} : Admitted 1 t ↔ Admitted 0 t ∧ t.depth ≤ 128 := by
  have hmax : maxNesting = 128 := rfl
  constructor
  · rintro ⟨hw, hf⟩
    rw [hmax] at hf
    exact ⟨⟨hw, by rw [hmax]; omega⟩, by omega⟩
  · rintro ⟨⟨hw, -⟩, hd⟩
    exact ⟨hw, by rw [hmax]; omega⟩

theorem readType_eq_ok_iff {text : String} {t : DataType} :
    readType text = .ok t ↔ ∃ ls, Lexes text.toList ls ∧ Derives ls t ∧ Admitted 0 t := by
  unfold readType
  rw [readFrom_eq_ok_iff]
  simp only [lexes_iff_tokensOf]
  constructor
  · rintro ⟨tokens, ht, h⟩
    exact ⟨_, ⟨tokens, ht, rfl⟩, run_type_eq_ok_iff.1 h⟩
  · rintro ⟨_, ⟨tokens, ht, rfl⟩, h⟩
    exact ⟨tokens, ht, run_type_eq_ok_iff.2 h⟩

/-- A text that spells a type which may stand one level further in. -/
theorem exists_of_readType {text : String} {t : DataType} (h : readType text = .ok t)
    (hd : t.depth ≤ 128) : ∃ ls, Lexes text.toList ls ∧ Derives ls t ∧ Admitted 1 t := by
  obtain ⟨ls, hl, ht, ha⟩ := readType_eq_ok_iff.1 h
  exact ⟨ls, hl, ht, admitted_one_iff.2 ⟨ha, hd⟩⟩

/-! ## Arrays, maps and records -/

theorem toList_spellArray (element : String) :
    (spellArray element).toList = "array".toList ++ '<' :: (element.toList ++ ['>']) := by
  simp [spellArray]

theorem toList_spellMap (key value : String) :
    (spellMap key value).toList =
      "map".toList ++ '<' :: (key.toList ++ ',' :: value.toList ++ ['>']) := by
  simp [spellMap]

/-- **The text of an array** spells an array of what the text inside spells. -/
theorem readType_spellArray_eq_ok_iff {text : String} {t : DataType} :
    readType (spellArray text) = .ok t ↔
      ∃ e, readType text = .ok e ∧ e.depth ≤ 128 ∧ t = .array e := by
  rw [readType_eq_ok_iff, toList_spellArray]
  simp only [lexes_brackets_iff (proper_word (by decide : isPlainName "array" = true))]
  constructor
  · rintro ⟨_, ⟨ls, rfl, hl⟩, hd, ha⟩
    obtain ⟨ms, e, he, heq, rfl⟩ := (derives_array_iff lower_array).1 hd
    obtain rfl : ls = ms := by simpa using heq
    obtain ⟨ha0, hdepth⟩ := admitted_one_iff.1 (admitted_array_iff.1 ha)
    exact ⟨e, readType_eq_ok_iff.2 ⟨ls, hl, he, ha0⟩, hdepth, rfl⟩
  · rintro ⟨e, hr, hd, rfl⟩
    obtain ⟨ls, hl, he, ha⟩ := exists_of_readType hr hd
    exact ⟨_, ⟨ls, rfl, hl⟩, .array lower_array he, admitted_array_iff.2 ha⟩

theorem readType_spellMap {key value : String} {k v : DataType} (hk : readType key = .ok k)
    (hv : readType value = .ok v) (hkd : k.depth ≤ 128) (hvd : v.depth ≤ 128) :
    readType (spellMap key value) = .ok (.map k v) := by
  obtain ⟨ls, hl, hdk, hak⟩ := exists_of_readType hk hkd
  obtain ⟨ms, hm, hdv, hav⟩ := exists_of_readType hv hvd
  have hin : Lexes (key.toList ++ ',' :: value.toList) (ls ++ .comma :: ms) :=
    hl.append_mark rfl hm
  rw [readType_eq_ok_iff, toList_spellMap]
  refine ⟨_, (lexes_brackets_iff (proper_word (by decide))).2 ⟨_, rfl, hin⟩, ?_,
    admitted_map_iff.2 ⟨hak, hav⟩⟩
  simpa using Derives.map lower_map hdk hdv

/-- A name, a text and the type that the text spells. -/
structure SpelledMember where
  name : String
  text : String
  type : DataType

namespace SpelledMember

/-- The text spells the type, which may stand inside a record. -/
def Reads (m : SpelledMember) : Prop := readType m.text = .ok m.type ∧ m.type.depth ≤ 128

/-- The name and the text, as a record type is put together. -/
def parts (m : SpelledMember) : String × String := (m.name, m.text)

/-- The name and the type, as they are read. -/
def member (m : SpelledMember) : MemberType := (m.name, m.type)

theorem lexes {m : SpelledMember} (h : m.Reads) :
    ∃ ls, Lexes (spellName m.name ++ ":" ++ m.text).toList (nameLexeme m.name :: .colon :: ls) ∧
      Derives ls m.type ∧ Admitted 1 m.type := by
  obtain ⟨ls, hl, hd, ha⟩ := exists_of_readType h.1 h.2
  refine ⟨ls, ?_, hd, ha⟩
  have hn : Lexes (spellName m.name).toList [nameLexeme m.name] := by
    rw [toList_spellName]
    exact lexes_spell (proper_nameLexeme m.name)
  simpa using hn.append_mark (c := ':') rfl hl

end SpelledMember

/-- The members of a record, put together from texts. -/
theorem exists_lexes_commaList {ms : List SpelledMember} (hne : ms ≠ []) (h : ∀ m ∈ ms, m.Reads) :
    ∃ ls, Lexes (commaList (ms.map fun m => spellName m.name ++ ":" ++ m.text)).toList ls ∧
      DerivesMembers ls (ms.map SpelledMember.member) ∧ ∀ m ∈ ms, Admitted 1 m.type := by
  induction ms with
  | nil => exact absurd rfl hne
  | cons m ms ih =>
    obtain ⟨ls, hl, hd, ha⟩ := SpelledMember.lexes (h m (List.mem_cons_self ..))
    cases ms with
    | nil =>
      refine ⟨_, hl, .one (isName_nameLexeme m.name) hd, ?_⟩
      intro m' hm'
      obtain rfl := List.mem_singleton.1 hm'
      exact ha
    | cons m' ms =>
      obtain ⟨ls', hl', hd', ha'⟩ := ih (by simp) fun n hn => h n (List.mem_cons_of_mem _ hn)
      refine ⟨_, ?_, .more (isName_nameLexeme m.name) hd hd', ?_⟩
      · have hjoin := hl.append_mark (c := ',') rfl hl'
        simpa [commaList] using hjoin
      · intro n hn
        rcases List.mem_cons.1 hn with rfl | hn
        · exact ha
        · exact ha' n hn

theorem map_name_memberFields (members : List MemberType) :
    (memberFields members).map Member.name = members.map Prod.fst := by
  rw [memberFields, List.map_map]
  rfl

theorem lexes_structBrackets_iff {text : String} {us : List Lexeme} :
    Lexes ("struct<" ++ text ++ ">").toList us ↔
      ∃ ls, us = .word "struct" :: .langle :: (ls ++ [.rangle]) ∧ Lexes text.toList ls := by
  have htext : ("struct<" ++ text ++ ">").toList =
      "struct".toList ++ '<' :: (text.toList ++ ['>']) := by simp
  rw [htext]
  exact lexes_brackets_iff (proper_word (by decide))

/-- **Members in the brackets of a record type** spell the record of these members. -/
theorem readType_structBrackets_eq_ok_iff {text : String} {t : DataType} :
    readType ("struct<" ++ text ++ ">") = .ok t ↔
      ∃ ls members, Lexes text.toList ls ∧ DerivesMembers ls members ∧
        (∀ m ∈ members, Admitted 1 m.2) ∧ "" ∉ members.map Prod.fst ∧ (members.map Prod.fst).Nodup ∧
        t = .record (memberFields members) := by
  rw [readType_eq_ok_iff]
  simp only [lexes_structBrackets_iff]
  constructor
  · rintro ⟨_, ⟨ls, rfl, hl⟩, hd, ha⟩
    obtain ⟨ms, members, hm, heq, rfl⟩ := (derives_struct_iff lower_struct).1 hd
    obtain rfl : ls = ms := by simpa using heq
    obtain ⟨hv, -, hma⟩ := admitted_record_iff.1 ha
    rw [map_name_memberFields] at hv
    exact ⟨ls, members, hl, hm, hma, hv.named, hv.nodup, rfl⟩
  · rintro ⟨ls, members, hl, hm, hma, hnamed, hnodup, rfl⟩
    have hne : members.map Prod.fst ≠ [] := by cases hm <;> simp
    refine ⟨_, ⟨ls, rfl, hl⟩, .struct lower_struct hm, admitted_record_iff.2 ⟨?_, Nat.zero_le _, hma⟩⟩
    rw [map_name_memberFields]
    exact ⟨hne, hnamed, hnodup⟩

theorem readType_spellStruct {ms : List SpelledMember} (hne : ms ≠ [])
    (hnamed : "" ∉ ms.map (·.name)) (hnodup : (ms.map (·.name)).Nodup) (h : ∀ m ∈ ms, m.Reads) :
    readType (spellStruct (ms.map SpelledMember.parts)) =
      .ok (.record (memberFields (ms.map SpelledMember.member))) := by
  obtain ⟨ls, hl, hd, ha⟩ := exists_lexes_commaList hne h
  have hnames : (ms.map SpelledMember.member).map Prod.fst = ms.map (·.name) := by
    rw [List.map_map]
    rfl
  have htext : spellStruct (ms.map SpelledMember.parts) =
      "struct<" ++ commaList (ms.map fun m => spellName m.name ++ ":" ++ m.text) ++ ">" := by
    rw [spellStruct, List.map_map]
    rfl
  rw [htext, readType_structBrackets_eq_ok_iff]
  refine ⟨ls, _, hl, hd, ?_, by rwa [hnames], by rwa [hnames], rfl⟩
  intro m hm
  obtain ⟨m', hm', rfl⟩ := List.mem_map.1 hm
  exact ha m' hm'

/-- **Spellings are read part by part**, in whatever way the parts are spelled: the text of an array, a map or
a record is read as the type of the types that its parts spell, if these are at most 128 levels deep; and
the text of an array is read in no other way. -/
theorem readType_spelled :
    (∀ a ta, readType a = .ok ta → ta.depth ≤ 128 → readType (spellArray a) = .ok (.array ta)) ∧
      (∀ a b ta tb, readType a = .ok ta → readType b = .ok tb → ta.depth ≤ 128 → tb.depth ≤ 128 →
        readType (spellMap a b) = .ok (.map ta tb)) ∧
      (∀ ms : List SpelledMember, ms ≠ [] → "" ∉ ms.map (·.name) → (ms.map (·.name)).Nodup →
        (∀ m ∈ ms, readType m.text = .ok m.type ∧ m.type.depth ≤ 128) →
        readType (spellStruct (ms.map fun m => (m.name, m.text))) =
          .ok (.record (ms.map fun m => ⟨m.name, m.type, true⟩))) ∧
      ∀ a t, readType (spellArray a) = .ok t → ∃ e, readType a = .ok e ∧ t = .array e := by
  refine ⟨fun a ta ha hd => ?_, fun a b ta tb ha hb hda hdb => ?_, fun ms hne hnamed hnodup hms => ?_,
    fun a t h => ?_⟩
  · exact readType_spellArray_eq_ok_iff.2 ⟨ta, ha, hd, rfl⟩
  · exact readType_spellMap ha hb hda hdb
  · have h := readType_spellStruct hne hnamed hnodup hms
    rw [memberFields, List.map_map] at h
    exact h
  · obtain ⟨e, he, -, rfl⟩ := readType_spellArray_eq_ok_iff.1 h
    exact ⟨e, he, rfl⟩

/-- A name with a comma and a blank, and one with a back-quote. -/
def looseMembers : List SpelledMember := [
  ⟨"to, from", " Array < INT > ", .array .int32⟩, ⟨"\x60", "numeric", .decimal 10 0⟩]

theorem readType_spelled_loosely :
    readType " Array < INT > " = .ok (.array .int32) ∧ readType "numeric" = .ok (.decimal 10 0) ∧
      readType (spellArray " Array < INT > ") = .ok (.array (.array .int32)) ∧
      readType (spellMap "numeric" " Array < INT > ") = .ok (.map (.decimal 10 0) (.array .int32)) ∧
      readType (spellStruct [("to, from", " Array < INT > "), ("\x60", "numeric")]) =
        .ok (.record [⟨"to, from", .array .int32, true⟩, ⟨"\x60", .decimal 10 0, true⟩]) ∧
      ∃ e, readType "int" = .ok e ∧ DataType.array .int32 = .array e := by
  obtain ⟨harray, hmap, hstruct, hinner⟩ := readType_spelled
  have ha : readType " Array < INT > " = .ok (.array .int32) := by decide +kernel
  have hn : readType "numeric" = .ok (.decimal 10 0) := by decide +kernel
  have hint : readType (spellArray "int") = .ok (.array .int32) := by decide +kernel
  have hmembers : ∀ m ∈ looseMembers, readType m.text = .ok m.type ∧ m.type.depth ≤ 128 := by
    intro m hm
    rcases List.mem_cons.1 hm with rfl | hm
    · exact ⟨ha, by decide⟩
    · obtain rfl := List.mem_singleton.1 hm
      exact ⟨hn, by decide⟩
  exact ⟨ha, hn, harray _ _ ha (by decide), hmap _ _ _ _ hn ha (by decide) (by decide),
    hstruct looseMembers (by decide) (by decide) (by decide) hmembers, hinner _ _ hint⟩

/-! ## Members with and without brackets -/

/-- The lexemes start like a record type. -/
def StartsStruct (ls : List Lexeme) : Prop :=
  ∃ w rest, w.toLower = "struct" ∧ ls = .word w :: .langle :: rest

theorem membersStart_of_startsStruct {w : String} (hw : w.toLower = "struct") (rest : List Lexeme) :
    membersStart (.word w :: .langle :: rest) = (.name .wrapped [], rest) := by
  rw [membersStart, if_pos hw]

theorem membersStart_of_not_startsStruct {ls : List Lexeme} (h : ¬StartsStruct ls) :
    membersStart ls = (.name .bare [], ls) := by
  unfold membersStart
  split
  · rename_i w rest
    split
    · rename_i hw
      exact absurd ⟨w, rest, hw, rfl⟩ h
    · rfl
  · rfl

/-- Members without brackets are those of the grammar. -/
theorem run_bare_eq_ok_iff {ls : List Lexeme} {members : List MemberType} :
    (State.name .bare []).run ls = .ok members ↔
      DerivesMembers ls members ∧ ∀ m ∈ members, Admitted 0 m.2 := by
  constructor
  · intro h
    have ha : Accepts .members ls members := (State.Reads.name .bare .nil).run h
    cases ha with
    | bare hm ha => exact ⟨hm, ha⟩
    | wrapped hw hm ha => cases h
  · rintro ⟨hm, ha⟩
    obtain ⟨init, n, t, he, hrun⟩ := hm.run .bare [] [] ha endsType_nil
    rw [List.append_nil] at hrun
    rw [hrun, State.run]
    show Except.ok (init ++ [(n, t)]) = Except.ok members
    rw [← he, List.nil_append]

/-- Members in brackets are those of the grammar, with the closing bracket after them. -/
theorem run_wrapped_eq_ok_iff {ls : List Lexeme} {members : List MemberType} :
    (State.name .wrapped []).run (ls ++ [.rangle]) = .ok members ↔
      DerivesMembers ls members ∧ ∀ m ∈ members, Admitted 1 m.2 := by
  constructor
  · intro h
    have ha : Accepts .members (.word "struct" :: .langle :: (ls ++ [.rangle])) members :=
      (State.Reads.name (.wrapped lower_struct) .nil).run h
    generalize hus : Lexeme.word "struct" :: .langle :: (ls ++ [.rangle]) = us at ha
    cases ha with
    | bare hm ha => cases hm <;> simp at hus
    | wrapped hw hm ha =>
      obtain ⟨-, rfl⟩ : _ ∧ ls = _ := by simpa using hus
      exact ⟨hm, ha⟩
  · rintro ⟨hm, ha⟩
    obtain ⟨init, n, t, he, hrun⟩ := hm.run .wrapped [] [.rangle] ha (by simp)
    rw [hrun, State.run_cons_ok rfl, State.run]
    show Except.ok (init ++ [(n, t)]) = Except.ok members
    rw [← he, List.nil_append]

theorem readMembers_eq_ok_iff {text : String} {members : List MemberType} :
    readMembers text = .ok members ↔ ∃ ls, Lexes text.toList ls ∧
      (membersStart ls).1.run (membersStart ls).2 = .ok members := by
  unfold readMembers
  rw [readFrom_eq_ok_iff]
  simp only [lexes_iff_tokensOf]
  constructor
  · rintro ⟨tokens, ht, h⟩
    exact ⟨_, ⟨tokens, ht, rfl⟩, h⟩
  · rintro ⟨_, ⟨tokens, ht, rfl⟩, h⟩
    exact ⟨tokens, ht, h⟩

section
variable {text : String}

/-- Members in the brackets of a record type. -/
theorem readMembers_brackets_eq_ok_iff {members : List MemberType} :
    readMembers ("struct<" ++ text ++ ">") = .ok members ↔
      ∃ ls, Lexes text.toList ls ∧ DerivesMembers ls members ∧ ∀ m ∈ members, Admitted 1 m.2 := by
  rw [readMembers_eq_ok_iff]
  constructor
  · rintro ⟨us, hu, hrun⟩
    obtain ⟨ls, rfl, hl⟩ := lexes_structBrackets_iff.1 hu
    rw [membersStart_of_startsStruct lower_struct, run_wrapped_eq_ok_iff] at hrun
    exact ⟨ls, hl, hrun⟩
  · rintro ⟨ls, hl, hm⟩
    refine ⟨_, lexes_structBrackets_iff.2 ⟨ls, rfl, hl⟩, ?_⟩
    rw [membersStart_of_startsStruct lower_struct, run_wrapped_eq_ok_iff]
    exact hm

/-- Members without brackets, in a text that does not start like a record type. -/
theorem readMembers_bare_eq_ok_iff {members : List MemberType}
    (h : ∀ ls, Lexes text.toList ls → ¬StartsStruct ls) :
    readMembers text = .ok members ↔
      ∃ ls, Lexes text.toList ls ∧ DerivesMembers ls members ∧ ∀ m ∈ members, Admitted 0 m.2 := by
  rw [readMembers_eq_ok_iff]
  constructor
  · rintro ⟨ls, hl, hrun⟩
    rw [membersStart_of_not_startsStruct (h ls hl), run_bare_eq_ok_iff] at hrun
    exact ⟨ls, hl, hrun⟩
  · rintro ⟨ls, hl, hm⟩
    refine ⟨ls, hl, ?_⟩
    rw [membersStart_of_not_startsStruct (h ls hl), run_bare_eq_ok_iff]
    exact hm

end

/-- **Members are read alike with and without brackets.** A text that does not start like a record type is
read in the brackets of one as the same members, if they are at most 128 levels deep. Any text in these
brackets is read as a type exactly if it is read as members with names that are present and distinct;
the type is the record of these members, all of which may be missing. -/
theorem readMembers_in_brackets (text : String) :
    ((∀ tokens, tokensOf text = .ok tokens → ¬StartsStruct (tokens.map Token.lexeme)) →
      ∀ members, readMembers ("struct<" ++ text ++ ">") = .ok members ↔
        readMembers text = .ok members ∧ ∀ m ∈ members, m.2.depth ≤ 128) ∧
    ∀ t, readType ("struct<" ++ text ++ ">") = .ok t ↔
      ∃ members, readMembers ("struct<" ++ text ++ ">") = .ok members ∧
        "" ∉ members.map Prod.fst ∧ (members.map Prod.fst).Nodup ∧
        t = .record (members.map fun (name, type) => ⟨name, type, true⟩) := by
  refine ⟨fun h members => ?_, fun t => ?_⟩
  · have hl : ∀ ls, Lexes text.toList ls → ¬StartsStruct ls := by
      intro ls hls
      obtain ⟨tokens, ht, rfl⟩ := lexes_iff_tokensOf.1 hls
      exact h tokens ht
    rw [readMembers_brackets_eq_ok_iff, readMembers_bare_eq_ok_iff hl]
    simp only [admitted_one_iff]
    constructor
    · rintro ⟨ls, hls, hm, ha⟩
      exact ⟨⟨ls, hls, hm, fun m hmem => (ha m hmem).1⟩, fun m hmem => (ha m hmem).2⟩
    · rintro ⟨⟨ls, hls, hm, ha⟩, hd⟩
      exact ⟨ls, hls, hm, fun m hmem => ⟨ha m hmem, hd m hmem⟩⟩
  · rw [readType_structBrackets_eq_ok_iff]
    simp only [readMembers_brackets_eq_ok_iff]
    constructor
    · rintro ⟨ls, members, hl, hm, hma, hnamed, hnodup, rfl⟩
      exact ⟨members, ⟨ls, hl, hm, hma⟩, hnamed, hnodup, rfl⟩
    · rintro ⟨members, ⟨ls, hl, hm, hma⟩, hnamed, hnodup, rfl⟩
      exact ⟨ls, members, hl, hm, hma, hnamed, hnodup, rfl⟩

/-- Members of which the first is called like the keyword. -/
def keywordMembers : List Token := [
  ⟨.word "Struct", 0⟩, ⟨.colon, 6⟩, ⟨.word "array", 8⟩, ⟨.langle, 13⟩, ⟨.word "INT", 14⟩, ⟨.rangle, 17⟩,
  ⟨.comma, 18⟩, ⟨.quoted "to, from", 19⟩, ⟨.colon, 29⟩, ⟨.word "numeric", 30⟩]

theorem readMembers_keywordMembers :
    tokensOf "Struct: array<INT>,\x60to, from\x60:numeric" = .ok keywordMembers ∧
      ¬StartsStruct (keywordMembers.map Token.lexeme) ∧
      readMembers ("struct<" ++ "Struct: array<INT>,\x60to, from\x60:numeric" ++ ">") =
        .ok [("Struct", .array .int32), ("to, from", .decimal 10 0)] ∧
      readType ("struct<" ++ "Struct: array<INT>,\x60to, from\x60:numeric" ++ ">") =
        .ok (.record [⟨"Struct", .array .int32, true⟩, ⟨"to, from", .decimal 10 0, true⟩]) := by
  obtain ⟨hbrackets, hrecord⟩ :=
    readMembers_in_brackets "Struct: array<INT>,\x60to, from\x60:numeric"
  have ht : tokensOf "Struct: array<INT>,\x60to, from\x60:numeric" = .ok keywordMembers := by
    decide +kernel
  have hstart : ¬StartsStruct (keywordMembers.map Token.lexeme) := by
    rintro ⟨w, rest, -, he⟩
    cases he
  have hbare : readMembers "Struct: array<INT>,\x60to, from\x60:numeric" =
      .ok [("Struct", .array .int32), ("to, from", .decimal 10 0)] := by decide +kernel
  have hwrapped : readMembers ("struct<" ++ "Struct: array<INT>,\x60to, from\x60:numeric" ++ ">") =
      .ok [("Struct", .array .int32), ("to, from", .decimal 10 0)] := by
    refine (hbrackets ?_ _).2 ⟨hbare, by decide⟩
    intro tokens htokens
    obtain rfl : keywordMembers = tokens := Except.ok.inj (ht.symm.trans htokens)
    exact hstart
  exact ⟨ht, hstart, hwrapped, (hrecord _).2 ⟨_, hwrapped, by decide, by decide, rfl⟩⟩

end SchemaBridge.Hive
