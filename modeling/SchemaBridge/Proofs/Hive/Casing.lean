import SchemaBridge.Proofs.Hive.Stopping

/-!
# Blanks and capitals

Two texts are read alike if their lexemes are `Alike`: the same, except that words other than the names of
members may differ in the case of ASCII letters. Keywords are compared in small letters and numerals have
none, so that a state steps alike on two such words (`State.stepsAlike_word`) unless it expects the name
of a member; there the words may differ only where no colon follows, and both runs stop in front of what
stands in its place. Main statement: `readType_alike`. Names keep their capitals: they are the words and
quoted names in front of colons (`Derives.memberNames_eq`).
-/

namespace SchemaBridge

mutual

/-- The names of the members in a type, in the order in which they are written. -/
def DataType.memberNames : DataType → List String
  | .record fields => memberNamesOfFields fields
  | .array element => element.memberNames
  | .map key value => key.memberNames ++ value.memberNames
  | _ => []

def DataType.memberNamesOfFields : List Field → List String
  | [] => []
  | ⟨name, type, _⟩ :: fields => name :: (type.memberNames ++ memberNamesOfFields fields)

end

theorem DataType.memberNames_of_isPrimitive {t : DataType} (h : t.isPrimitive = true) :
    t.memberNames = [] := by
  cases t <;> first | rfl | cases h

end SchemaBridge

namespace SchemaBridge.Hive

/-! ## Lexemes that are alike -/

/-- The same lexemes, except that two words in one place, if no colon follows them, may differ in the case
of ASCII letters. -/
inductive Alike : List Lexeme → List Lexeme → Prop
  | nil : Alike [] []
  | same {ls ms : List Lexeme} (l : Lexeme) : Alike ls ms → Alike (l :: ls) (l :: ms)
  | word {v w : String} {ls ms : List Lexeme} : v.toLower = w.toLower →
      ls.head? ≠ some .colon → ms.head? ≠ some .colon → Alike ls ms →
      Alike (.word v :: ls) (.word w :: ms)

theorem Alike.length_eq {ls ms : List Lexeme} (h : Alike ls ms) : ls.length = ms.length := by
  induction h with
  | nil => rfl
  | same l _ ih => simp [ih]
  | word _ _ _ _ ih => simp [ih]

/-- Two results of reading are the same, up to the wording of why a text is malformed. -/
inductive ResultsAlike {α : Type} : Except ReadFault α → Except ReadFault α → Prop
  | ok (a : α) : ResultsAlike (.ok a) (.ok a)
  | refused (e : SchemaError) (left : Nat) :
      ResultsAlike (.error ⟨.refused e, left⟩) (.error ⟨.refused e, left⟩)
  | malformed (reason reason' : ReadReason) (left : Nat) :
      ResultsAlike (.error ⟨.malformed reason, left⟩) (.error ⟨.malformed reason', left⟩)

theorem resultsAlike_error {α : Type} (refusal : Refusal) (left : Nat) :
    ResultsAlike (α := α) (.error ⟨refusal, left⟩) (.error ⟨refusal, left⟩) := by
  cases refusal with
  | malformed reason => exact .malformed reason reason left
  | refused e => exact .refused e left

/-- Two steps are the same, up to the wording of why the text is malformed. -/
inductive StepsAlike {α : Type} : Except Refusal α → Except Refusal α → Prop
  | same (r : Except Refusal α) : StepsAlike r r
  | malformed (reason reason' : ReadReason) :
      StepsAlike (.error (.malformed reason)) (.error (.malformed reason'))

namespace State

variable {g : Goal}

/-- Marks are no words: a word in the place of a mark is refused, whatever the word is. -/
theorem leaveMembers_word (list : ListContext g) (members : List MemberType) (v w : String) :
    leaveMembers members (.word v) list = leaveMembers members (.word w) list := by
  cases list <;> simp only [leaveMembers, reduceCtorEq, if_false]

theorem leave_word (ctx : Context g) (t : DataType) (v w : String) :
    leave t (.word v) ctx = leave t (.word w) ctx := by
  cases ctx with
  | whole => rfl
  | element | key | value => simp only [leave, reduceCtorEq, if_false]
  | member list done n =>
    simp only [leave, reduceCtorEq, if_false]
    exact leaveMembers_word list _ v w

theorem extend_word (ctx : Context g) (e : Extension) (t : DataType) {v w : String}
    (h : v.toLower = w.toLower) : extend? ctx e t (.word v) = extend? ctx e t (.word w) := by
  cases e with
  | none => rfl
  | precisionWord => simp only [extend?, h]
  | withWord => simp only [extend?, h]
  | parameters => rfl

theorem stepsAlike_number (next : UInt32 → State g) {v w : String} (h : v.toLower = w.toLower) :
    StepsAlike (number next (.word v)) (number next (.word w)) := by
  have hn : Text.uint32OfText? v = Text.uint32OfText? w := by
    rw [← Text.uint32OfText?_toLower v, h, Text.uint32OfText?_toLower]
  simp only [number]
  rw [hn]
  cases Text.uint32OfText? w with
  | none => exact .malformed _ _
  | some n => exact .same _

/-- A state that does not expect the name of a member does not see the case of a word. -/
theorem stepsAlike_word (s : State g) {v w : String} (h : v.toLower = w.toLower)
    (hs : ∀ list done, s ≠ .name list done) : StepsAlike (s.step (.word v)) (s.step (.word w)) := by
  cases s with
  | type ctx =>
    simp only [step, h]
    exact .same _
  | name list done => exact absurd rfl (hs list done)
  | after t e ctx =>
    rw [step, step, extend_word ctx e t h, leave_word ctx t v w]
    exact .same _
  | precision | scale | size => exact stepsAlike_number _ h
  | opening | colon | precisionEnd | scaleEnd | sizeOpen | sizeEnd =>
    simp only [step, reduceCtorEq, if_false]
    exact .same _
  | closed members => exact .same _

/-- After the name of a member a colon is missing. -/
theorem run_colon_of_head {list : ListContext g} {done : List MemberType} {n : String}
    {ls : List Lexeme} (h : ls.head? ≠ some .colon) :
    (State.colon list done n).run ls = .error ⟨.malformed (.expected .colon), ls.length⟩ := by
  cases ls with
  | nil => rfl
  | cons l ls =>
    have hl : l ≠ .colon := by
      rintro rfl
      exact h rfl
    refine run_cons_error ?_
    rw [step, if_neg hl]
    rfl

/-- One step on two words, and what the runs do after it. -/
theorem resultsAlike_cons {s : State g} {l m : Lexeme} {ls ms : List Lexeme}
    (hs : StepsAlike (s.step l) (s.step m)) (hlen : ls.length = ms.length)
    (ih : ∀ next : State g, ResultsAlike (next.run ls) (next.run ms)) :
    ResultsAlike (s.run (l :: ls)) (s.run (m :: ms)) := by
  rw [run, run, ← hlen]
  generalize s.step l = r at hs
  generalize s.step m = r' at hs
  cases hs with
  | same =>
    cases r with
    | error refusal => exact resultsAlike_error refusal _
    | ok next => exact ih next
  | malformed reason reason' => exact .malformed reason reason' _

/-- **Runs on lexemes that are alike** have results that are alike. -/
theorem resultsAlike_run {s : State g} {ls ms : List Lexeme} (h : Alike ls ms) :
    ResultsAlike (s.run ls) (s.run ms) := by
  induction h generalizing s with
  | nil =>
    rw [run]
    cases s.finish with
    | ok r => exact .ok r
    | error reason => exact .malformed reason reason 0
  | same l h ih => exact resultsAlike_cons (.same _) h.length_eq fun next => ih
  | @word v w ls ms hvw hl hm h ih =>
    by_cases hs : ∃ list done, s = .name list done
    · obtain ⟨list, done, rfl⟩ := hs
      have hv : (State.name list done).run (.word v :: ls) = .error ⟨_, ls.length⟩ :=
        (run_cons_ok rfl).trans (run_colon_of_head hl)
      have hw : (State.name list done).run (.word w :: ms) = .error ⟨_, ms.length⟩ :=
        (run_cons_ok rfl).trans (run_colon_of_head hm)
      rw [hv, hw, h.length_eq]
      exact .malformed _ _ _
    · have hs : ∀ list done, s ≠ .name list done := fun list done he => hs ⟨list, done, he⟩
      exact resultsAlike_cons (s.stepsAlike_word hvw hs) h.length_eq fun next => ih

end State

/-! ## Names keep their case -/

/-- The words and quoted names in front of colons. -/
def namesBeforeColons : List Lexeme → List String
  | .word n :: .colon :: ls => n :: namesBeforeColons ls
  | .quoted n :: .colon :: ls => n :: namesBeforeColons ls
  | _ :: ls => namesBeforeColons ls
  | [] => []

theorem namesBeforeColons_word {w : String} {ls : List Lexeme} (h : ls.head? ≠ some .colon) :
    namesBeforeColons (.word w :: ls) = namesBeforeColons ls := by
  cases ls with
  | nil => rfl
  | cons l ls =>
    cases l with
    | colon => exact absurd rfl h
    | word | quoted | langle | rangle | lparen | rparen | comma => rfl

theorem namesBeforeColons_name {l : Lexeme} {n : String} (h : IsName l n) (ls : List Lexeme) :
    namesBeforeColons (l :: .colon :: ls) = n :: namesBeforeColons ls := by
  cases h <;> rfl

theorem DecimalParameters.namesBeforeColons_append {ls rest : List Lexeme} {p s : UInt32}
    (h : DecimalParameters ls p s) : namesBeforeColons (ls ++ rest) = namesBeforeColons rest := by
  cases h <;> rfl

theorem DecimalParameters.head_append_ne {ls rest : List Lexeme} {p s : UInt32}
    (h : DecimalParameters ls p s) (hr : rest.head? ≠ some .colon) :
    (ls ++ rest).head? ≠ some .colon := by
  cases h with
  | none => exact hr
  | precision | scale => simp

mutual

/-- The names in front of colons in a sentence are the names of the members of its type. -/
theorem Derives.namesBeforeColons_append {ls : List Lexeme} {t : DataType} (rest : List Lexeme) :
    Derives ls t → rest.head? ≠ some .colon →
      namesBeforeColons (ls ++ rest) = t.memberNames ++ namesBeforeColons rest
  | .scalar hw, hr => by
    rw [DataType.memberNames_of_isPrimitive (isPrimitive_of_mem_scalarWords hw).1]
    exact namesBeforeColons_word hr
  | .doublePrecision _ _, hr => namesBeforeColons_word hr
  | .decimal _ hp, hr => by
    rw [List.cons_append, namesBeforeColons_word (hp.head_append_ne hr), hp.namesBeforeColons_append]
    rfl
  | .sized hw _ ht, _ => by
    obtain ⟨kind, rfl, -⟩ := State.keyword_sized .whole hw
    rw [ht, DataType.memberNames_of_isPrimitive (kind.isPrimitive_make _)]
    rfl
  | @Derives.array _ ls e _ he, _ => by
    have hin := he.namesBeforeColons_append (.rangle :: rest) (by simp)
    rw [DataType.memberNames]
    simpa [namesBeforeColons] using hin
  | @Derives.map _ ls ms key value _ hk hv, _ => by
    have hkey := hk.namesBeforeColons_append (.comma :: (ms ++ .rangle :: rest)) (by simp)
    have hvalue := hv.namesBeforeColons_append (.rangle :: rest) (by simp)
    rw [DataType.memberNames]
    simpa [namesBeforeColons, hvalue] using hkey
  | @Derives.struct _ ls members _ hm, _ => by
    have hin := hm.namesBeforeColons_append (.rangle :: rest) (by simp)
    rw [DataType.memberNames]
    simpa [namesBeforeColons] using hin

theorem DerivesMembers.namesBeforeColons_append {ls : List Lexeme} {members : List MemberType}
    (rest : List Lexeme) :
    DerivesMembers ls members → rest.head? ≠ some .colon →
      namesBeforeColons (ls ++ rest) =
        DataType.memberNamesOfFields (memberFields members) ++ namesBeforeColons rest
  | @DerivesMembers.one _ n ls t hn ht, hr => by
    have hin := ht.namesBeforeColons_append rest hr
    simp [namesBeforeColons_name hn, memberFields, DataType.memberNamesOfFields, hin]
  | @DerivesMembers.more _ n ls ms t _ hn ht hm, hr => by
    have hin := ht.namesBeforeColons_append (.comma :: (ms ++ rest)) (by simp)
    have htail := hm.namesBeforeColons_append rest hr
    simp only [memberFields] at htail
    simp [namesBeforeColons_name hn, memberFields, DataType.memberNamesOfFields, hin, namesBeforeColons,
      htail]

end

/-- **Names are kept as they are written.** -/
theorem Derives.memberNames_eq {ls : List Lexeme} {t : DataType} (h : Derives ls t) :
    t.memberNames = namesBeforeColons ls := by
  have hn := h.namesBeforeColons_append [] (by simp)
  simpa [namesBeforeColons] using hn.symm

/-! ## Texts that are alike -/

/-- Errors about two texts: the same, or both texts are malformed at tokens with the same index, or both at
their ends. -/
inductive FaultsAlike (a b : String) (as bs : List Token) : SchemaError → SchemaError → Prop
  | invalid (typeName reason : String) :
      FaultsAlike a b as bs (.invalidParameters typeName reason) (.invalidParameters typeName reason)
  | unsupported (physical refinement path : String) :
      FaultsAlike a b as bs (.unsupportedSource physical refinement path)
        (.unsupportedSource physical refinement path)
  | malformed {front back front' back' : List Token} (reason reason' : String) :
      as = front ++ back → bs = front' ++ back' → front.length = front'.length →
      back.length = back'.length →
      FaultsAlike a b as bs (.malformed a (startOf a back) reason) (.malformed b (startOf b back') reason')

section
variable {a b : String} {as bs : List Token}

theorem faultsAlike_refused {s : State .type} {ls : List Lexeme} {e : SchemaError}
    (h : s.Blocks ls (.refused e)) : FaultsAlike a b as bs e e := by
  obtain ⟨l, rest, -, hl⟩ := h.exists_refuses
  cases hl with
  | invalid typeName reason => exact .invalid typeName reason
  | keyword | zone => exact .unsupported _ _ _

/-- Texts whose lexemes are alike are read alike. -/
theorem readType_alike_cases (ha : tokensOf a = .ok as) (hb : tokensOf b = .ok bs)
    (h : Alike (as.map Token.lexeme) (bs.map Token.lexeme)) :
    (∃ t, readType a = .ok t ∧ readType b = .ok t) ∨
      ∃ e e', readType a = .error e ∧ readType b = .error e' ∧ FaultsAlike a b as bs e e' := by
  have hlen : as.length = bs.length := by simpa using h.length_eq
  have hrun : ResultsAlike ((State.type .whole).run _) ((State.type .whole).run _) :=
    State.resultsAlike_run h
  rw [readType_eq_mapError ha, readType_eq_mapError hb]
  generalize hra : (State.type .whole).run (as.map Token.lexeme) = ra at hrun
  generalize hrb : (State.type .whole).run (bs.map Token.lexeme) = rb at hrun
  cases hrun with
  | ok t => exact .inl ⟨t, rfl, rfl⟩
  | refused e left =>
    obtain ⟨front, back, next, -, -, hblocks, -⟩ := State.exists_tokens_of_run_eq_error hra
    exact .inr ⟨e, e, rfl, rfl, faultsAlike_refused hblocks⟩
  | malformed reason reason' left =>
    obtain ⟨front, back, -, rfl, -, -, rfl⟩ := State.exists_tokens_of_run_eq_error hra
    obtain ⟨front', back', -, rfl, -, -, hleft⟩ := State.exists_tokens_of_run_eq_error hrb
    have hback : back.length = back'.length := hleft
    refine .inr ⟨_, _, rfl, rfl, ?_⟩
    rw [ReadFault.error_append, hback, ReadFault.error_append]
    refine .malformed _ _ rfl rfl ?_ hback
    simp only [List.length_append] at hlen
    omega

/-- **Blanks and the case of keywords do not matter.** Two texts whose tokens are alike are read as the same
type; or both fail, with the same error about attributes or about an unsupported type, or malformed at the
same token. The names of members are read as they are written. -/
theorem readType_alike (ha : tokensOf a = .ok as) (hb : tokensOf b = .ok bs)
    (h : Alike (as.map Token.lexeme) (bs.map Token.lexeme)) :
    (∀ t, readType a = .ok t ↔ readType b = .ok t) ∧
      (∀ e e', readType a = .error e → readType b = .error e' → FaultsAlike a b as bs e e') ∧
      ∀ t, readType a = .ok t → t.memberNames = namesBeforeColons (as.map Token.lexeme) := by
  refine ⟨fun t => ?_, fun e e' he he' => ?_, fun t ht => ?_⟩
  · rcases readType_alike_cases ha hb h with ⟨t', hra, hrb⟩ | ⟨e, e', hra, hrb, -⟩
    · rw [hra, hrb]
    · rw [hra, hrb]
      simp
  · rcases readType_alike_cases ha hb h with ⟨t', hra, -⟩ | ⟨e₁, e₂, hra, hrb, hf⟩
    · rw [hra] at he
      cases he
    · rw [hra] at he
      rw [hrb] at he'
      cases he
      cases he'
      exact hf
  · obtain ⟨tokens, htokens, hrun⟩ := readFrom_eq_ok_iff.1 ht
    rw [ha] at htokens
    cases htokens
    exact (run_type_eq_ok_iff.1 hrun).1.memberNames_eq

end

def looseRecord : List Token := [
  ⟨.word "STRUCT", 1⟩, ⟨.langle, 7⟩, ⟨.word "Id", 9⟩, ⟨.colon, 12⟩, ⟨.word "INT", 14⟩, ⟨.rangle, 18⟩]

def closeRecord : List Token := [
  ⟨.word "struct", 0⟩, ⟨.langle, 6⟩, ⟨.word "Id", 7⟩, ⟨.colon, 9⟩, ⟨.word "int", 10⟩, ⟨.rangle, 13⟩]

def looseArray : List Token := [⟨.word "Array", 0⟩, ⟨.langle, 5⟩, ⟨.word "Int", 7⟩, ⟨.comma, 11⟩]

def closeArray : List Token := [⟨.word "array", 0⟩, ⟨.langle, 5⟩, ⟨.word "int", 6⟩, ⟨.comma, 9⟩]

/-- A record whose member keeps its capital, and an array that does not close: both are blamed at their
comma. -/
theorem readType_alike_record_and_array :
    tokensOf " STRUCT< Id : INT >" = .ok looseRecord ∧ tokensOf "struct<Id:int>" = .ok closeRecord ∧
      Alike (looseRecord.map Token.lexeme) (closeRecord.map Token.lexeme) ∧
      readType "struct<Id:int>" = .ok (.record [⟨"Id", .int32, true⟩]) ∧
      tokensOf "Array< Int ," = .ok looseArray ∧ tokensOf "array<int," = .ok closeArray ∧
      Alike (looseArray.map Token.lexeme) (closeArray.map Token.lexeme) ∧
      FaultsAlike "Array< Int ," "array<int," looseArray closeArray
        (.malformed "Array< Int ," 11 "expected '>'") (.malformed "array<int," 9 "expected '>'") := by
  have hstruct : "STRUCT".toLower = "struct" := by decide +kernel
  have harray : "Array".toLower = "array" := by decide +kernel
  have hint : "INT".toLower = "int" := by decide +kernel
  have hint' : "Int".toLower = "int" := by decide +kernel
  have ha : tokensOf " STRUCT< Id : INT >" = .ok looseRecord := by decide +kernel
  have hb : tokensOf "struct<Id:int>" = .ok closeRecord := by decide +kernel
  have hab : Alike (looseRecord.map Token.lexeme) (closeRecord.map Token.lexeme) :=
    .word (hstruct.trans lower_struct.symm) (by simp) (by simp) (.same _ (.same _ (.same _
      (.word (hint.trans lower_int.symm) (by simp) (by simp) (.same _ .nil)))))
  have hra : readType " STRUCT< Id : INT >" = .ok (.record [⟨"Id", .int32, true⟩]) := by decide +kernel
  have hc : tokensOf "Array< Int ," = .ok looseArray := by decide +kernel
  have hd : tokensOf "array<int," = .ok closeArray := by decide +kernel
  have hcd : Alike (looseArray.map Token.lexeme) (closeArray.map Token.lexeme) :=
    .word (harray.trans lower_array.symm) (by simp) (by simp) (.same _
      (.word (hint'.trans lower_int.symm) (by simp) (by simp) (.same _ .nil)))
  have hec : readType "Array< Int ," = .error (.malformed "Array< Int ," 11 "expected '>'") := by
    decide +kernel
  have hed : readType "array<int," = .error (.malformed "array<int," 9 "expected '>'") := by
    decide +kernel
  obtain ⟨hrecord, -, -⟩ := readType_alike ha hb hab
  obtain ⟨-, hfaults, -⟩ := readType_alike hc hd hcd
  exact ⟨ha, hb, hab, (hrecord _).1 hra, hc, hd, hcd, hfaults _ _ hec hed⟩

end SchemaBridge.Hive
