import SchemaBridge.Proofs.Except
import SchemaBridge.Proofs.Hive.Reading

/-!
# The reader accepts the grammar

A sentence of the grammar leads a state that expects a type to the state after that type, if the type is
admitted there (`Derives.run`), and is refused for its depth if it is only nested too deeply
(`Derives.run_tooDeep`). Together with what a run has read (`State.Reads.run`) this settles what the
reader accepts: exactly the sentences of the grammar whose types are well formed and not too deep
(`readType_eq_ok_iff_derives`).
-/

namespace SchemaBridge.Hive

/-! ## Steps that go on -/

namespace State

variable {g : Goal} {ctx : Context g} {s next : State g} {l : Lexeme} {w : String}
  {ls rest : List Lexeme}

theorem run_cons_ok (h : s.step l = .ok next) : s.run (l :: ls) = next.run ls := by
  rw [run, h]

theorem run_cons_error {refusal : Refusal} (h : s.step l = .error refusal) :
    s.run (l :: ls) = .error ⟨refusal, ls.length + 1⟩ := by
  rw [run, h]

/-- Where a type ends nothing extends it. -/
theorem run_after_eq (t : DataType) (e : Extension) (h : EndsType rest) :
    (State.after t e ctx).run rest = (State.after t .none ctx).run rest := by
  cases rest with
  | nil => rfl
  | cons l rest =>
    have hx : ∀ e, extend? ctx e t l = none := by
      intro e
      rcases h l rfl with rfl | rfl <;> cases e <;> rfl
    rw [run, run, step, step, hx, hx]

theorem step_word (hd : ctx.depth ≤ maxNesting) :
    (State.type ctx).step (.word w) = State.keyword ctx w.toLower := by
  rw [step, if_neg (Nat.not_lt.2 hd)]

/-- No type is read at a place that is too deep. -/
theorem run_word_tooDeep (hd : ¬ctx.depth ≤ maxNesting) :
    ∃ left, (State.type ctx).run (.word w :: ls) = .error ⟨.malformed .tooDeep, left⟩ :=
  ⟨_, run_cons_error (by rw [step, if_pos (Nat.not_le.1 hd)])⟩

/-- A primitive type is too deep only where every type is. -/
theorem run_primitive_tooDeep {t : DataType} (ht : t.isPrimitive = true)
    (hd : maxNesting + 1 < ctx.depth + t.depth) :
    ∃ left, (State.type ctx).run (.word w :: ls) = .error ⟨.malformed .tooDeep, left⟩ := by
  rw [DataType.depth_of_isPrimitive ht] at hd
  exact run_word_tooDeep (by omega)

theorem keyword_plain (ctx : Context g) {t : DataType} (h : (w, t) ∈ scalarWords) :
    ∃ e, State.keyword ctx w = .ok (.after t e ctx) := by
  simp only [scalarWords, List.mem_cons, Prod.mk.injEq, List.not_mem_nil, or_false] at h
  rcases h with ⟨rfl, rfl⟩ | ⟨rfl, rfl⟩ | ⟨rfl, rfl⟩ | ⟨rfl, rfl⟩ | ⟨rfl, rfl⟩ | ⟨rfl, rfl⟩ |
    ⟨rfl, rfl⟩ | ⟨rfl, rfl⟩ | ⟨rfl, rfl⟩ | ⟨rfl, rfl⟩ | ⟨rfl, rfl⟩ | ⟨rfl, rfl⟩
  all_goals exact ⟨_, rfl⟩

theorem keyword_decimal (h : w ∈ decimalWords) :
    State.keyword ctx w = .ok (.after (.decimal 10 0) .parameters ctx) := by
  rw [State.keyword, (Keyword.ofLower?_eq_some_iff (k := .decimal)).2 h]

theorem keyword_sized (ctx : Context g) {make : UInt32 → DataType} (h : (w, make) ∈ sizedWords) :
    ∃ kind : SizedText, make = kind.make ∧ State.keyword ctx w = .ok (.sizeOpen kind ctx) := by
  simp only [sizedWords, List.mem_cons, Prod.mk.injEq, List.not_mem_nil, or_false] at h
  rcases h with ⟨rfl, rfl⟩ | ⟨rfl, rfl⟩
  · exact ⟨.char, rfl, rfl⟩
  · exact ⟨.varchar, rfl, rfl⟩

/-- The bracket of a constructor opens. -/
theorem run_open (kind : Composite) (hd : ctx.depth ≤ maxNesting) (hw : w.toLower = kind.word) :
    (State.type ctx).run (.word w :: .langle :: ls) = (inside ctx kind).run ls := by
  have hk : State.keyword ctx w.toLower = .ok (.opening kind ctx) := by
    rw [State.keyword, (Keyword.ofLower?_eq_some_iff (k := .composite kind)).2 hw]
  rw [run_cons_ok ((step_word hd).trans hk)]
  exact run_cons_ok rfl

theorem run_number {v : String} {n : UInt32} (next : UInt32 → State g)
    (hs : ∀ l, s.step l = number next l) (hv : Text.IsNumber v n) :
    s.run (.word v :: ls) = (next n).run ls := by
  refine run_cons_ok ?_
  rw [hs, number, Text.uint32OfText?_eq_some_iff.2 hv]

/-- A checked constructor accepts the attributes read. -/
theorem run_complete {r : Except SchemaError DataType} {t : DataType} (hs : s.step l = complete ctx r)
    (hr : r = .ok t) : s.run (l :: ls) = (State.after t .none ctx).run ls := by
  refine run_cons_ok ?_
  rw [hs, hr, complete]

/-- The name of a member and its colon. -/
theorem run_name {list : ListContext g} {done : List MemberType} {n : String} (hn : IsName l n) :
    (State.name list done).run (l :: .colon :: ls) = (State.type (.member list done n)).run ls := by
  cases hn <;> rfl

end State

/-! ## Sentences -/

section
variable {g : Goal} {ctx : Context g} {rest : List Lexeme}

theorem DecimalParameters.run {ls : List Lexeme} {p s : UInt32} (h : DecimalParameters ls p s)
    (hw : (DataType.decimal p s).WellFormed) (hr : EndsType rest) :
    (State.after (.decimal 10 0) .parameters ctx).run (ls ++ rest) =
      (State.after (.decimal p s) .none ctx).run rest := by
  have hmk := DataType.mkDecimal_eq_ok_iff.2 ⟨rfl, hw⟩
  cases h with
  | none => exact State.run_after_eq _ _ hr
  | precision hp =>
    calc
      _ = (State.precision ctx).run (.word _ :: .rparen :: rest) := State.run_cons_ok rfl
      _ = (State.precisionEnd p ctx).run (.rparen :: rest) :=
        State.run_number (.precisionEnd · ctx) (fun _ => rfl) hp
      _ = _ := State.run_complete rfl hmk
  | scale hp hs =>
    calc
      _ = (State.precision ctx).run (.word _ :: .comma :: .word _ :: .rparen :: rest) :=
        State.run_cons_ok rfl
      _ = (State.precisionEnd p ctx).run (.comma :: .word _ :: .rparen :: rest) :=
        State.run_number (.precisionEnd · ctx) (fun _ => rfl) hp
      _ = (State.scale p ctx).run (.word _ :: .rparen :: rest) := State.run_cons_ok rfl
      _ = (State.scaleEnd p s ctx).run (.rparen :: rest) :=
        State.run_number (.scaleEnd p · ctx) (fun _ => rfl) hs
      _ = _ := State.run_complete rfl hmk

theorem SizedText.run_make (kind : SizedText) {v : String} {n : UInt32} (hv : Text.IsNumber v n)
    (hw : (kind.make n).WellFormed) :
    (State.sizeOpen kind ctx).run (.lparen :: .word v :: .rparen :: rest) =
      (State.after (kind.make n) .none ctx).run rest :=
  calc
    _ = (State.size kind ctx).run (.word v :: .rparen :: rest) := State.run_cons_ok rfl
    _ = (State.sizeEnd kind n ctx).run (.rparen :: rest) :=
      State.run_number (.sizeEnd kind · ctx) (fun _ => rfl) hv
    _ = _ := State.run_complete rfl (SizedText.type_eq_ok_iff.2 ⟨rfl, hw⟩)

/-- The members are complete when a closing bracket follows. -/
theorem State.run_closeMembers {outer : Context g} {init members : List MemberType} {n : String}
    {t : DataType} (he : members = init ++ [(n, t)])
    (hn : DataType.ValidNames ((memberFields members).map Member.name)) :
    (State.after t .none (.member (.nested outer) init n)).run (.rangle :: rest) =
      (State.after (.record (memberFields members)) .none outer).run rest := by
  subst he
  exact State.run_complete rfl (DataType.mkRecord_eq_ok_iff.2 ⟨rfl, hn⟩)

end

mutual

/-- **Acceptance**: a sentence leads to the state after its type. -/
theorem Derives.run {g : Goal} {ctx : Context g} {ls rest : List Lexeme} {t : DataType} :
    Derives ls t → Admitted ctx.depth t → EndsType rest →
      (State.type ctx).run (ls ++ rest) = (State.after t .none ctx).run rest
  | .scalar hw, ha, hr => by
    obtain ⟨e, he⟩ := State.keyword_plain ctx hw
    calc
      _ = (State.after t e ctx).run rest := State.run_cons_ok ((State.step_word ha.le).trans he)
      _ = _ := State.run_after_eq t e hr
  | .doublePrecision hw hv, ha, _ => by
    calc
      _ = (State.after .float64 .precisionWord ctx).run (.word _ :: rest) :=
        State.run_cons_ok ((State.step_word ha.le).trans (by rw [hw]; rfl))
      _ = _ := State.run_cons_ok (by rw [State.step, State.extend?, if_pos hv]; rfl)
  | .decimal hw hp, ha, hr => by
    calc
      _ = (State.after (.decimal 10 0) .parameters ctx).run (_ ++ rest) :=
        State.run_cons_ok ((State.step_word ha.le).trans (State.keyword_decimal hw))
      _ = _ := hp.run ha.wellFormed hr
  | .sized hw hv ht, ha, _ => by
    obtain ⟨kind, rfl, hk⟩ := State.keyword_sized ctx hw
    subst ht
    calc
      _ = (State.sizeOpen kind ctx).run (.lparen :: .word _ :: .rparen :: rest) :=
        State.run_cons_ok ((State.step_word ha.le).trans hk)
      _ = _ := kind.run_make hv ha.wellFormed
  | @Derives.array _ ls e hw he, ha, _ => by
    calc
      _ = (State.type (.element ctx)).run (ls ++ .rangle :: rest) := by
        simpa [State.inside] using State.run_open .array ha.le hw
      _ = (State.after e .none (.element ctx)).run (.rangle :: rest) :=
        he.run (admitted_array_iff.1 ha) (by simp)
      _ = _ := State.run_cons_ok rfl
  | @Derives.map _ ls ms key value hw hk hv, ha, _ => by
    obtain ⟨hka, hva⟩ := admitted_map_iff.1 ha
    calc
      _ = (State.type (.key ctx)).run (ls ++ .comma :: (ms ++ .rangle :: rest)) := by
        simpa [State.inside] using State.run_open .map ha.le hw
      _ = (State.after key .none (.key ctx)).run (.comma :: (ms ++ .rangle :: rest)) :=
        hk.run hka (by simp)
      _ = (State.type (.value key ctx)).run (ms ++ .rangle :: rest) := State.run_cons_ok rfl
      _ = (State.after value .none (.value key ctx)).run (.rangle :: rest) := hv.run hva (by simp)
      _ = _ := State.run_cons_ok rfl
  | @Derives.struct _ ls members hw hm, ha, _ => by
    obtain ⟨hn, hd, hma⟩ := admitted_record_iff.1 ha
    obtain ⟨init, n, t, he, hrun⟩ := DerivesMembers.run (.nested ctx) [] (.rangle :: rest) hm
      hma (by simp)
    calc
      _ = (State.name (.nested ctx) []).run (ls ++ .rangle :: rest) := by
        simpa [State.inside] using State.run_open .struct hd hw
      _ = (State.after t .none (.member (.nested ctx) init n)).run (.rangle :: rest) := hrun
      _ = _ := State.run_closeMembers he hn

/-- A list of members leads to the state after the type of the last one. -/
theorem DerivesMembers.run {g : Goal} (list : ListContext g) (done : List MemberType)
    {ls : List Lexeme} (rest : List Lexeme) {members : List MemberType} :
    DerivesMembers ls members → (∀ m ∈ members, Admitted list.depth m.2) → EndsType rest →
      ∃ init n t, done ++ members = init ++ [(n, t)] ∧
        (State.name list done).run (ls ++ rest) =
          (State.after t .none (.member list init n)).run rest
  | @DerivesMembers.one _ n ls t hn ht, ha, hr => by
    have hat : Admitted list.depth t := ha _ (List.mem_cons_self ..)
    refine ⟨done, n, t, rfl, ?_⟩
    calc
      _ = (State.type (.member list done n)).run (ls ++ rest) := State.run_name hn
      _ = _ := ht.run hat hr
  | @DerivesMembers.more _ n ls ms t _ hn ht hm, ha, hr => by
    have hat : Admitted list.depth t := ha _ (List.mem_cons_self ..)
    obtain ⟨init, n', t', he, hrun⟩ := DerivesMembers.run list (done ++ [(n, t)]) rest hm
      (fun m h => ha m (List.mem_cons_of_mem _ h)) hr
    refine ⟨init, n', t', by simpa using he, ?_⟩
    calc
      _ = (State.type (.member list done n)).run (ls ++ .comma :: (ms ++ rest)) := by
        simpa using State.run_name hn
      _ = (State.after t .none (.member list done n)).run (.comma :: (ms ++ rest)) :=
        ht.run hat (by simp)
      _ = (State.name list (done ++ [(n, t)])).run (ms ++ rest) := State.run_cons_ok rfl
      _ = _ := hrun

end

/-! ## Sentences that are too deep -/

mutual

/-- **Refusal by depth**: a sentence of well-formed types that are too deep for their place. -/
theorem Derives.run_tooDeep {g : Goal} (ctx : Context g) {ls : List Lexeme} (rest : List Lexeme)
    {t : DataType} :
    Derives ls t → t.WellFormed → maxNesting + 1 < ctx.depth + t.depth →
      ∃ left, (State.type ctx).run (ls ++ rest) = .error ⟨.malformed .tooDeep, left⟩
  | .scalar hw, _, hd => State.run_primitive_tooDeep (isPrimitive_of_mem_scalarWords hw).1 hd
  | .doublePrecision _ _, _, hd => State.run_primitive_tooDeep rfl hd
  | .decimal _ _, _, hd => State.run_primitive_tooDeep rfl hd
  | .sized hw _ ht, _, hd => by
    obtain ⟨kind, rfl, -⟩ := State.keyword_sized ctx hw
    exact State.run_primitive_tooDeep (ht ▸ kind.isPrimitive_make _) hd
  | @Derives.array _ ls e hw he, hwf, hd => by
    by_cases hc : ctx.depth ≤ maxNesting
    · obtain ⟨left, h⟩ := Derives.run_tooDeep (.element ctx) (.rangle :: rest) he hwf
        (by rw [DataType.depth] at hd; rw [Context.depth]; omega)
      exact ⟨left, by simpa [State.inside] using (State.run_open .array hc hw).trans h⟩
    · exact State.run_word_tooDeep hc
  | @Derives.map _ ls ms key value hw hk hv, hwf, hd => by
    by_cases hc : ctx.depth ≤ maxNesting
    · have hopen :
          (State.type ctx).run (.word _ :: .langle :: (ls ++ .comma :: (ms ++ .rangle :: rest))) =
            (State.type (.key ctx)).run (ls ++ .comma :: (ms ++ .rangle :: rest)) :=
        State.run_open .map hc hw
      -- The key is read first, so a key that is too deep is the one that is refused.
      by_cases hkd : maxNesting + 1 < ctx.depth + 1 + key.depth
      · obtain ⟨left, h⟩ := Derives.run_tooDeep (.key ctx) (.comma :: (ms ++ .rangle :: rest)) hk hwf.1
          hkd
        exact ⟨left, by simpa using hopen.trans h⟩
      · have hka : Admitted (Context.key ctx).depth key := ⟨hwf.1, by rw [Context.depth]; omega⟩
        have hkr : (State.type (.key ctx)).run (ls ++ .comma :: (ms ++ .rangle :: rest)) =
            (State.type (.value key ctx)).run (ms ++ .rangle :: rest) :=
          (hk.run hka (by simp)).trans (State.run_cons_ok rfl)
        obtain ⟨left, h⟩ := Derives.run_tooDeep (.value key ctx) (.rangle :: rest) hv hwf.2
          (by rw [DataType.depth] at hd; rw [Context.depth]; omega)
        exact ⟨left, by simpa using hopen.trans (hkr.trans h)⟩
    · exact State.run_word_tooDeep hc
  | @Derives.struct _ ls members hw hm, hwf, hd => by
    have hmw := (forall_memberFields_iff (P := DataType.WellFormed)).1
      (DataType.wellFormed_record_iff.1 hwf).2
    by_cases hc : ctx.depth ≤ maxNesting
    · have hdeep : ∃ m ∈ members, maxNesting + 1 < ctx.depth + 1 + m.2.depth := by
        refine Classical.byContradiction fun hn => ?_
        simp only [not_exists, not_and, Nat.not_lt] at hn
        have hma : ∀ m ∈ members, Admitted (ctx.depth + 1) m.2 := fun m h => ⟨hmw m h, hn m h⟩
        have := (admitted_record_iff.2 ⟨(DataType.wellFormed_record_iff.1 hwf).1, hc, hma⟩).fits
        omega
      obtain ⟨left, h⟩ := DerivesMembers.run_tooDeep (.nested ctx) [] (.rangle :: rest) hm hmw
        hdeep
      exact ⟨left, by simpa [State.inside] using (State.run_open .struct hc hw).trans h⟩
    · exact State.run_word_tooDeep hc

theorem DerivesMembers.run_tooDeep {g : Goal} (list : ListContext g) (done : List MemberType)
    {ls : List Lexeme} (rest : List Lexeme) {members : List MemberType} :
    DerivesMembers ls members → (∀ m ∈ members, m.2.WellFormed) →
      (∃ m ∈ members, maxNesting + 1 < list.depth + m.2.depth) →
      ∃ left, (State.name list done).run (ls ++ rest) = .error ⟨.malformed .tooDeep, left⟩
  | @DerivesMembers.one _ n ls t hn ht, hwf, hd => by
    simp only [List.mem_singleton, forall_eq, exists_eq_left] at hwf hd
    obtain ⟨left, h⟩ := Derives.run_tooDeep (.member list done n) rest ht hwf hd
    exact ⟨left, (State.run_name hn).trans h⟩
  | @DerivesMembers.more _ n ls ms t _ hn ht hm, hwf, hd => by
    simp only [List.mem_cons, forall_eq_or_imp, exists_eq_or_imp] at hwf hd
    have hname : (State.name list done).run (_ :: .colon :: (ls ++ .comma :: (ms ++ rest))) =
        (State.type (.member list done n)).run (ls ++ .comma :: (ms ++ rest)) := State.run_name hn
    by_cases htd : maxNesting + 1 < list.depth + t.depth
    · obtain ⟨left, h⟩ := Derives.run_tooDeep (.member list done n) (.comma :: (ms ++ rest)) ht hwf.1
        htd
      exact ⟨left, by simpa using hname.trans h⟩
    · have hat : Admitted (Context.member list done n).depth t :=
        ⟨hwf.1, by rw [Context.depth]; omega⟩
      have htr : (State.type (.member list done n)).run (ls ++ .comma :: (ms ++ rest)) =
          (State.name list (done ++ [(n, t)])).run (ms ++ rest) :=
        (ht.run hat (by simp)).trans (State.run_cons_ok rfl)
      obtain ⟨left, h⟩ := DerivesMembers.run_tooDeep list (done ++ [(n, t)]) rest hm hwf.2
        (hd.resolve_left htd)
      exact ⟨left, by simpa using hname.trans (htr.trans h)⟩

end

/-! ## Whole texts -/

/-- The lexemes that are read as a type. -/
theorem run_type_eq_ok_iff {ls : List Lexeme} {t : DataType} :
    (State.type .whole).run ls = .ok t ↔ Derives ls t ∧ Admitted 0 t := by
  refine ⟨fun h => ?_, fun h => ?_⟩
  · have ha : Accepts .type ls t := (State.Reads.type .whole).run h
    cases ha with
    | type hd ha => exact ⟨hd, ha⟩
  · obtain ⟨hd, ha⟩ := h
    have h := hd.run (show Admitted (Context.whole).depth t from ha) endsType_nil
    rw [List.append_nil] at h
    exact h

theorem admitted_zero_iff {t : DataType} : Admitted 0 t ↔ t.depth ≤ maxNesting + 1 ∧ t.WellFormed := by
  refine ⟨fun h => ?_, fun h => ?_⟩
  · exact ⟨Nat.zero_add t.depth ▸ h.fits, h.wellFormed⟩
  · obtain ⟨hd, hw⟩ := h
    exact ⟨hw, by omega⟩

/-- A text is read by its lexemes, which have to exist. -/
theorem readFrom_eq_ok_iff {g : Goal} {start : List Lexeme → State g × List Lexeme} {text : String}
    {r : g.Result} :
    readFrom start text = .ok r ↔ ∃ tokens, tokensOf text = .ok tokens ∧
      (start (tokens.map Token.lexeme)).1.run (start (tokens.map Token.lexeme)).2 = .ok r := by
  unfold readFrom
  cases tokensOf text with
  | error e => simp
  | ok tokens =>
    simp only [Except.ok.injEq, exists_eq_left']
    exact mapError_eq_ok_iff

/-- **The reader accepts exactly the grammar**: a text is read as a type if its lexemes are a sentence for
this type, and the type is well formed and at most 129 levels deep. -/
theorem readType_eq_ok_iff_derives {text : String} {t : DataType} :
    readType text = .ok t ↔
      (∃ tokens, tokensOf text = .ok tokens ∧ Derives (tokens.map Token.lexeme) t) ∧
        t.depth ≤ 129 ∧ t.WellFormed := by
  refine ⟨fun h => ?_, fun h => ?_⟩
  · obtain ⟨tokens, ht, hr⟩ := readFrom_eq_ok_iff.1 h
    obtain ⟨hd, ha⟩ := run_type_eq_ok_iff.1 hr
    exact ⟨⟨tokens, ht, hd⟩, admitted_zero_iff.1 ha⟩
  · obtain ⟨⟨tokens, ht, hd⟩, ha⟩ := h
    exact readFrom_eq_ok_iff.2 ⟨tokens, ht, run_type_eq_ok_iff.2 ⟨hd, admitted_zero_iff.2 ha⟩⟩

theorem wellFormed_of_readType {text : String} {t : DataType} (h : readType text = .ok t) :
    t.WellFormed := by
  obtain ⟨tokens, -, hr⟩ := readFrom_eq_ok_iff.1 h
  exact (run_type_eq_ok_iff.1 hr).2.wellFormed

/-- The brackets that may enclose a list of members lead into the state in which it starts. -/
theorem reads_membersStart (ls : List Lexeme) :
    ∃ front, ls = front ++ (membersStart ls).2 ∧ (membersStart ls).1.Reads front := by
  unfold membersStart
  split
  · rename_i w rest
    split
    · rename_i hw
      exact ⟨[.word w, .langle], rfl, .name (.wrapped hw) .nil⟩
    · exact ⟨[], rfl, .name .bare .nil⟩
  · exact ⟨[], rfl, .name .bare .nil⟩

/-- A text is read as members if its lexemes are accepted as such. -/
theorem accepts_of_readMembers {text : String} {members : List MemberType}
    (h : readMembers text = .ok members) :
    ∃ tokens, tokensOf text = .ok tokens ∧ Accepts .members (tokens.map Token.lexeme) members := by
  obtain ⟨tokens, ht, hr⟩ := readFrom_eq_ok_iff.1 h
  obtain ⟨front, hf, hs⟩ := reads_membersStart (tokens.map Token.lexeme)
  exact ⟨tokens, ht, hf ▸ hs.run hr⟩

theorem wellFormed_of_readMembers {text : String} {members : List MemberType}
    (h : readMembers text = .ok members) : ∀ m ∈ members, m.2.WellFormed := by
  obtain ⟨tokens, -, ha⟩ := accepts_of_readMembers h
  generalize tokens.map Token.lexeme = ls at ha
  cases ha with
  | bare _ hm => exact fun m h => (hm m h).wellFormed
  | wrapped _ _ hm => exact fun m h => (hm m h).wellFormed

end SchemaBridge.Hive
