import SchemaBridge.Proofs.Hive.Stopping

/-!
# The first offence of a text

A text is blamed at the first token that no sentence of the grammar goes on with. `TypePlace ls names`: the
lexemes `ls` lead to a place where a type starts, inside the members `names`; every place has a
continuation (`TypePlace.viable`), so that whatever a run has read is the beginning of a sentence
(`State.Reads.viable`). Conversely no beginning of a sentence is refused, limits apart
(`Viable.steps`). Main statement: `readType_blames_first_offence`.
-/

namespace SchemaBridge.Hive

/-! ## Beginnings of sentences -/

/-- The lexemes are the beginning of a sentence. -/
def Viable (ls : List Lexeme) : Prop := ∃ rest t, Derives (ls ++ rest) t

/-- Members, each one with a comma after it. -/
inductive MembersBefore : List Lexeme → Prop
  | nil : MembersBefore []
  | cons {l : Lexeme} {n : String} {ms ls : List Lexeme} {t : DataType} :
      IsName l n → Derives ms t → MembersBefore ls → MembersBefore (l :: .colon :: (ms ++ .comma :: ls))

/-- The lexemes lead to a place where a type starts; the members that are open there, the outermost one
first, have these names. -/
inductive TypePlace : List Lexeme → List String → Prop
  | whole : TypePlace [] []
  | element {ls : List Lexeme} {names : List String} {w : String} :
      TypePlace ls names → w.toLower = "array" → TypePlace (ls ++ [.word w, .langle]) names
  | key {ls : List Lexeme} {names : List String} {w : String} :
      TypePlace ls names → w.toLower = "map" → TypePlace (ls ++ [.word w, .langle]) names
  | value {ls ms : List Lexeme} {names : List String} {w : String} {key : DataType} :
      TypePlace ls names → w.toLower = "map" → Derives ms key →
      TypePlace (ls ++ .word w :: .langle :: (ms ++ [.comma])) names
  | member {ls ms : List Lexeme} {names : List String} {w : String} {l : Lexeme} {n : String} :
      TypePlace ls names → w.toLower = "struct" → MembersBefore ms → IsName l n →
      TypePlace (ls ++ .word w :: .langle :: (ms ++ [l, .colon])) (names ++ [n])

/-- The lexemes start with a type that has no counterpart; the dialect calls it `name`. -/
inductive StartsUnsupported : List Lexeme → String → Prop
  | keyword {w : String} {rest : List Lexeme} : w.toLower ∈ unsupportedWords →
      StartsUnsupported (.word w :: rest) w.toLower
  | zone {w v : String} {rest : List Lexeme} : w.toLower = "timestamp" → v.toLower = "with" →
      StartsUnsupported (.word w :: .word v :: rest) zonedTimestamp

/-! ## Every place has a continuation -/

theorem MembersBefore.snoc {ls ms : List Lexeme} {l : Lexeme} {n : String} {t : DataType}
    (h : MembersBefore ls) (hn : IsName l n) (ht : Derives ms t) :
    MembersBefore (ls ++ l :: .colon :: (ms ++ [.comma])) := by
  induction h with
  | nil => exact .cons hn ht .nil
  | cons hn' ht' _ ih => simpa using MembersBefore.cons hn' ht' ih

theorem MembersRead.before {d : Nat} {ls : List Lexeme} {done : List MemberType}
    (h : MembersRead d ls done) : MembersBefore ls := by
  induction h with
  | nil => exact .nil
  | snoc _ hn ht _ ih => exact ih.snoc hn ht

theorem MembersBefore.derives {ls ms : List Lexeme} {members : List MemberType}
    (h : MembersBefore ls) (hm : DerivesMembers ms members) :
    ∃ members', DerivesMembers (ls ++ ms) members' := by
  induction h with
  | nil => exact ⟨members, hm⟩
  | cons hn ht _ ih =>
    obtain ⟨members', hm'⟩ := ih
    exact ⟨_, by simpa using DerivesMembers.more hn ht hm'⟩

theorem derives_int : Derives [.word "int"] .int32 :=
  .scalar (by simp [lower_int, scalarWords])

/-- What closes a place does not depend on the type that stands there. -/
theorem TypePlace.exists_closing {ls : List Lexeme} {names : List String} (h : TypePlace ls names) :
    ∃ closing, ∀ ms t, Derives ms t → ∃ t', Derives (ls ++ (ms ++ closing)) t' := by
  induction h with
  | whole => exact ⟨[], fun ms t ht => ⟨t, by simpa using ht⟩⟩
  | element _ hw ih =>
    obtain ⟨closing, hc⟩ := ih
    refine ⟨.rangle :: closing, ?_⟩
    intro ms t ht
    simpa using hc _ _ (.array hw ht)
  | key _ hw ih =>
    obtain ⟨closing, hc⟩ := ih
    refine ⟨.comma :: .word "int" :: .rangle :: closing, ?_⟩
    intro ms t ht
    simpa using hc _ _ (.map hw ht derives_int)
  | value _ hw hk ih =>
    obtain ⟨closing, hc⟩ := ih
    refine ⟨.rangle :: closing, ?_⟩
    intro ms t ht
    simpa using hc _ _ (.map hw hk ht)
  | member _ hw hm hn ih =>
    obtain ⟨closing, hc⟩ := ih
    refine ⟨.rangle :: closing, ?_⟩
    intro ms t ht
    obtain ⟨members, hms⟩ := hm.derives (.one hn ht)
    simpa using hc _ _ (.struct hw hms)

/-- The beginning of a type, in its place, is the beginning of a sentence. -/
theorem TypePlace.viable {ls : List Lexeme} {names : List String} {t : DataType}
    (h : TypePlace ls names) (ms rest : List Lexeme) (ht : Derives (ms ++ rest) t) :
    Viable (ls ++ ms) := by
  obtain ⟨closing, hc⟩ := h.exists_closing
  obtain ⟨t', ht'⟩ := hc _ _ ht
  exact ⟨rest ++ closing, t', by simpa using ht'⟩

mutual

/-- A context of types stands at a place where a type starts. -/
theorem Context.Reads.typePlace : {g : Goal} → {ctx : Context g} → {ls : List Lexeme} → g = .type →
    ctx.Reads ls → TypePlace ls ctx.names
  | _, _, _, _, .whole => .whole
  | _, _, _, hg, .element hc hw => by
    have hp := hc.typePlace hg
    exact .element hp hw
  | _, _, _, hg, .key hc hw => by
    have hp := hc.typePlace hg
    exact .key hp hw
  | _, _, _, hg, .value hc hw hk _ => by
    have hp := hc.typePlace hg
    exact .value hp hw hk
  | _, _, _, hg, .member hl hm hn => by
    obtain ⟨ls', w, hp, hw, rfl⟩ := hl.typePlace hg
    rw [Context.names]
    simpa using TypePlace.member hp hw hm.before hn

theorem ListContext.Reads.typePlace : {g : Goal} → {list : ListContext g} → {ls : List Lexeme} →
    g = .type → list.Reads ls →
      ∃ ls' w, TypePlace ls' list.names ∧ w.toLower = "struct" ∧ ls = ls' ++ [.word w, .langle]
  | _, _, _, hg, .nested hc hw => ⟨_, _, hc.typePlace hg, hw, rfl⟩
  | _, _, _, hg, .wrapped _ => by cases hg
  | _, _, _, hg, .bare => by cases hg

end

theorem isNumber_one : Text.IsNumber "1" 1 := Text.isNumber_toString 1

/-- Members that may follow at the place of a member. -/
theorem MembersBefore.exists_struct {ls : List Lexeme} {members : List MemberType} {w : String}
    (h : MembersBefore ls) (hw : w.toLower = "struct") (ms rest : List Lexeme)
    (hm : DerivesMembers (ms ++ rest) members) :
    ∃ t, Derives (.word w :: .langle :: (ls ++ ms) ++ (rest ++ [.rangle])) t := by
  obtain ⟨members', hm'⟩ := h.derives hm
  exact ⟨_, by simpa using Derives.struct hw hm'⟩

/-- **What a run has read is the beginning of a sentence.** -/
theorem State.Reads.viable {s : State .type} {ls : List Lexeme} (h : s.Reads ls) : Viable ls := by
  cases h with
  | type hc => simpa using (hc.typePlace rfl).viable [] [.word "int"] derives_int
  | @opening _ ctx kind ls w hc hw =>
    have hp := hc.typePlace rfl
    cases kind with
    | array => exact hp.viable [.word w] [.langle, .word "int", .rangle] (.array hw derives_int)
    | map =>
      exact hp.viable [.word w] [.langle, .word "int", .comma, .word "int", .rangle]
        (.map hw derives_int derives_int)
    | struct =>
      exact hp.viable [.word w] [.langle, .word "a", .colon, .word "int", .rangle]
        (.struct hw (.one (.word "a") derives_int))
  | name hl hm =>
    obtain ⟨ls', w, hp, hw, rfl⟩ := hl.typePlace rfl
    obtain ⟨t, ht⟩ := hm.before.exists_struct hw [] [.word "a", .colon, .word "int"]
      (.one (.word "a") derives_int)
    simpa using hp.viable _ _ ht
  | @colon _ list ls ms done l n hl hm hn =>
    obtain ⟨ls', w, hp, hw, rfl⟩ := hl.typePlace rfl
    obtain ⟨t, ht⟩ := hm.before.exists_struct hw [l] [.colon, .word "int"] (.one hn derives_int)
    simpa using hp.viable _ _ ht
  | @after _ ctx ls ms t e hc ht => exact (hc.typePlace rfl).viable ms [] (by simpa using ht)
  | precision hc _ hw =>
    exact (hc.typePlace rfl).viable _ [.word "1", .rparen] (.decimal hw (.precision isNumber_one))
  | precisionEnd hc _ hw hv =>
    exact (hc.typePlace rfl).viable _ [.rparen] (.decimal hw (.precision hv))
  | scale hc _ hw hv =>
    exact (hc.typePlace rfl).viable _ [.word "1", .rparen] (.decimal hw (.scale hv isNumber_one))
  | scaleEnd hc _ hw hv hu => exact (hc.typePlace rfl).viable _ [.rparen] (.decimal hw (.scale hv hu))
  | sizeOpen hc _ hw =>
    exact (hc.typePlace rfl).viable _ [.lparen, .word "1", .rparen] (.sized hw isNumber_one rfl)
  | size hc _ hw =>
    exact (hc.typePlace rfl).viable _ [.word "1", .rparen] (.sized hw isNumber_one rfl)
  | sizeEnd hc _ hw hv => exact (hc.typePlace rfl).viable _ [.rparen] (.sized hw hv rfl)

/-! ## Sentences are refused for limits only -/

/-- A type is too deep for its place, or its attributes are invalid. -/
def Refusal.IsLimit : Refusal → Prop
  | .malformed reason => reason = .tooDeep
  | .refused e => e.isInvalidParameters = true

/-- A result has the property, unless a limit has been met. -/
def UpToLimits {α : Type} (P : α → Prop) : Except Refusal α → Prop
  | .ok a => P a
  | .error refusal => refusal.IsLimit

theorem UpToLimits.mono {α : Type} {P Q : α → Prop} {r : Except Refusal α} (h : UpToLimits P r)
    (hpq : ∀ a, P a → Q a) : UpToLimits Q r := by
  cases r with
  | ok a => exact hpq a h
  | error refusal => exact h

theorem UpToLimits.bind {α β : Type} {P : α → Prop} {Q : β → Prop} {r : Except Refusal α}
    {f : α → Except Refusal β} (h : UpToLimits P r) (hf : ∀ a, P a → UpToLimits Q (f a)) :
    UpToLimits Q (r >>= f) := by
  cases r with
  | ok a => exact hf a h
  | error refusal => exact h

namespace State

variable {g : Goal} {ctx : Context g} {s next : State g} {l : Lexeme} {ls ms : List Lexeme} {w : String}
  {P Q : State g → Prop}

theorem upToLimits_append (h : UpToLimits P (s.steps ls))
    (hn : ∀ next, P next → UpToLimits Q (next.steps ms)) : UpToLimits Q (s.steps (ls ++ ms)) := by
  rw [steps_append]
  exact h.bind hn

theorem upToLimits_ok (next : State g) (h : s.step l = .ok next) (hn : UpToLimits Q (next.steps ls)) :
    UpToLimits Q (s.steps (l :: ls)) := by
  rw [steps_cons, h]
  exact hn

/-- The first word of a type is refused for its depth only. -/
theorem upToLimits_word (h : State.keyword ctx w.toLower = .ok next)
    (hn : UpToLimits Q (next.steps ls)) : UpToLimits Q ((State.type ctx).steps (.word w :: ls)) := by
  by_cases hd : maxNesting < ctx.depth
  · rw [steps_cons, step, if_pos hd]
    rfl
  · exact upToLimits_ok _ ((step_word (Nat.not_lt.1 hd)).trans h) hn

/-- A checked constructor refuses attributes only. -/
theorem upToLimits_complete {t : DataType} {r : Except SchemaError DataType}
    (hs : s.step l = complete ctx r) (hr : Checked t r)
    (hn : UpToLimits Q ((State.after t .none ctx).steps ls)) : UpToLimits Q (s.steps (l :: ls)) := by
  cases hr with
  | ok => exact upToLimits_ok _ hs hn
  | invalid typeName reason =>
    rw [steps_cons, hs, complete, ctx.blame_invalidParameters]
    rfl

/-- The bracket of a constructor opens. -/
theorem upToLimits_open (kind : Composite) (hw : w.toLower = kind.word)
    (hn : UpToLimits Q ((inside ctx kind).steps ls)) :
    UpToLimits Q ((State.type ctx).steps (.word w :: .langle :: ls)) := by
  have hk : State.keyword ctx w.toLower = .ok (.opening kind ctx) := by
    rw [State.keyword, (Keyword.ofLower?_eq_some_iff (k := .composite kind)).2 hw]
  exact upToLimits_word hk (upToLimits_ok _ rfl hn)

theorem upToLimits_number {v : String} {n : UInt32} (make : UInt32 → State g)
    (hs : ∀ l, s.step l = number make l) (hv : Text.IsNumber v n)
    (hn : UpToLimits Q ((make n).steps ls)) : UpToLimits Q (s.steps (.word v :: ls)) := by
  refine upToLimits_ok (make n) ?_ hn
  rw [hs, number, Text.uint32OfText?_eq_some_iff.2 hv]

/-- The name of a member and its colon. -/
theorem upToLimits_name {list : ListContext g} {done : List MemberType} {n : String} (hl : IsName l n)
    (hn : UpToLimits Q ((State.type (.member list done n)).steps ls)) :
    UpToLimits Q ((State.name list done).steps (l :: .colon :: ls)) := by
  cases hl with
  | word n => exact upToLimits_ok _ rfl (upToLimits_ok _ rfl hn)
  | quoted n => exact upToLimits_ok _ rfl (upToLimits_ok _ rfl hn)

/-- A mark that no type goes on with ends the type before it. -/
theorem step_after {t : DataType} {e : Extension} (hl : l = .comma ∨ l = .rangle) :
    (State.after t e ctx).step l = leave t l ctx := by
  rcases hl with rfl | rfl <;> cases e <;> rfl

end State

/-- The state after the type `t`, whatever may still extend the type. -/
def IsAfter {g : Goal} (t : DataType) (ctx : Context g) (s : State g) : Prop := ∃ e, s = .after t e ctx

theorem isAfter {g : Goal} (t : DataType) (e : Extension) (ctx : Context g) :
    IsAfter t ctx (.after t e ctx) :=
  ⟨e, rfl⟩

theorem DecimalParameters.steps {g : Goal} {ctx : Context g} {ls : List Lexeme} {p s : UInt32}
    (h : DecimalParameters ls p s) :
    UpToLimits (IsAfter (.decimal p s) ctx)
      ((State.after (.decimal 10 0) .parameters ctx).steps ls) := by
  cases h with
  | none => exact isAfter ..
  | precision hp =>
    refine State.upToLimits_ok (.precision ctx) rfl ?_
    refine State.upToLimits_number (.precisionEnd · ctx) (fun _ => rfl) hp ?_
    exact State.upToLimits_complete rfl (checked_mkDecimal p 0) (isAfter ..)
  | scale hp hs =>
    refine State.upToLimits_ok (.precision ctx) rfl ?_
    refine State.upToLimits_number (.precisionEnd · ctx) (fun _ => rfl) hp ?_
    refine State.upToLimits_ok (.scale p ctx) rfl ?_
    refine State.upToLimits_number (.scaleEnd p · ctx) (fun _ => rfl) hs ?_
    exact State.upToLimits_complete rfl (checked_mkDecimal p s) (isAfter ..)

mutual

/-- **A sentence is refused for limits only**: it leads to the state after its type. -/
theorem Derives.steps {g : Goal} {ctx : Context g} {ls : List Lexeme} {t : DataType} :
    Derives ls t → UpToLimits (IsAfter t ctx) ((State.type ctx).steps ls)
  | .scalar hw => by
    obtain ⟨e, he⟩ := State.keyword_plain ctx hw
    exact State.upToLimits_word he (isAfter ..)
  | .doublePrecision hw hv => by
    have hk : State.keyword ctx "double" = .ok (.after .float64 .precisionWord ctx) := rfl
    rw [← hw] at hk
    refine State.upToLimits_word hk (State.upToLimits_ok (.after .float64 .none ctx) ?_ (isAfter ..))
    rw [State.step, State.extend?, if_pos hv]
    rfl
  | .decimal hw hp => State.upToLimits_word (State.keyword_decimal hw) hp.steps
  | .sized hw hv ht => by
    obtain ⟨kind, rfl, hk⟩ := State.keyword_sized ctx hw
    subst ht
    refine State.upToLimits_word hk (State.upToLimits_ok (.size kind ctx) rfl ?_)
    refine State.upToLimits_number (.sizeEnd kind · ctx) (fun _ => rfl) hv ?_
    exact State.upToLimits_complete rfl (kind.checked_type _) (isAfter ..)
  | .array hw he => by
    refine State.upToLimits_open .array hw (State.upToLimits_append he.steps ?_)
    rintro _ ⟨e, rfl⟩
    exact State.upToLimits_ok _ (State.step_after (.inr rfl)) (isAfter ..)
  | .map hw hk hv => by
    refine State.upToLimits_open .map hw (State.upToLimits_append hk.steps ?_)
    rintro _ ⟨e, rfl⟩
    refine State.upToLimits_ok _ (State.step_after (.inl rfl)) (State.upToLimits_append hv.steps ?_)
    rintro _ ⟨e', rfl⟩
    exact State.upToLimits_ok _ (State.step_after (.inr rfl)) (isAfter ..)
  | .struct hw hm => by
    refine State.upToLimits_open .struct hw
      (State.upToLimits_append (DerivesMembers.steps (.nested ctx) [] hm) ?_)
    rintro _ ⟨init, n, t, he, e, rfl⟩
    obtain rfl : _ = init ++ [(n, t)] := he
    exact State.upToLimits_complete (State.step_after (.inr rfl)) (checked_mkRecord _) (isAfter ..)

/-- A list of members leads to the state after the type of the last one. -/
theorem DerivesMembers.steps {g : Goal} (list : ListContext g) (done : List MemberType)
    {ls : List Lexeme} {members : List MemberType} :
    DerivesMembers ls members →
      UpToLimits (fun s => ∃ init n t, done ++ members = init ++ [(n, t)] ∧
        IsAfter t (.member list init n) s) ((State.name list done).steps ls)
  | @DerivesMembers.one _ n ls t hn ht => by
    have hlast : UpToLimits (IsAfter t (.member list done n)) ((State.name list done).steps _) :=
      State.upToLimits_name hn ht.steps
    exact hlast.mono fun s hs => ⟨done, n, t, rfl, hs⟩
  | @DerivesMembers.more _ n ls ms t _ hn ht hm => by
    refine State.upToLimits_name hn (State.upToLimits_append ht.steps ?_)
    rintro _ ⟨e, rfl⟩
    have htail := DerivesMembers.steps list (done ++ [(n, t)]) hm
    rw [List.append_assoc] at htail
    exact State.upToLimits_ok _ (State.step_after (.inl rfl)) htail

end

/-! ## Beginnings of sentences are refused for limits only -/

theorem Viable.steps {ls : List Lexeme} (h : Viable ls) :
    UpToLimits (fun _ => True) ((State.type .whole).steps ls) := by
  obtain ⟨rest, t, ht⟩ := h
  have hs : UpToLimits (IsAfter t .whole) ((State.type .whole).steps (ls ++ rest)) := ht.steps
  rw [State.steps_append] at hs
  cases hl : (State.type .whole).steps ls with
  | ok s => trivial
  | error refusal =>
    rw [hl] at hs
    exact hs

/-- A lexeme that is refused, but not for a limit, goes on with no sentence. -/
theorem not_viable_of_step {ls : List Lexeme} {l : Lexeme} {s : State .type} {refusal : Refusal}
    (hs : (State.type .whole).steps ls = .ok s) (h : s.step l = .error refusal)
    (hr : ¬refusal.IsLimit) : ¬Viable (ls ++ [l]) := by
  intro hv
  have hsteps := hv.steps
  rw [State.steps_append, hs, ok_bind, State.steps_cons, h] at hsteps
  exact hr hsteps

/-- Where the end of the text is refused, no sentence ends. -/
theorem not_derives_of_finish {ls : List Lexeme} {s : State .type} {reason : ReadReason}
    (hs : (State.type .whole).steps ls = .ok s) (h : s.finish = .error reason) :
    ¬∃ t, Derives ls t := by
  rintro ⟨t, ht⟩
  have hsteps : UpToLimits (IsAfter t .whole) ((State.type .whole).steps ls) := ht.steps
  rw [hs] at hsteps
  obtain ⟨e, rfl⟩ := hsteps
  cases h

theorem MembersBefore.steps {g : Goal} {list : ListContext g} {ls : List Lexeme}
    (h : MembersBefore ls) (done : List MemberType) :
    UpToLimits (fun s => ∃ done', s = .name list done') ((State.name list done).steps ls) := by
  induction h generalizing done with
  | nil => exact ⟨done, rfl⟩
  | cons hn ht _ ih =>
    refine State.upToLimits_name hn (State.upToLimits_append ht.steps ?_)
    rintro _ ⟨e, rfl⟩
    exact State.upToLimits_ok _ (State.step_after (.inl rfl)) (ih _)

/-- The lexemes before a place where a type starts lead to the state that expects a type there. -/
theorem TypePlace.steps {ls : List Lexeme} {names : List String} (h : TypePlace ls names) :
    UpToLimits (fun s => ∃ ctx : Context .type, s = .type ctx ∧ ctx.names = names)
      ((State.type .whole).steps ls) := by
  induction h with
  | whole => exact ⟨.whole, rfl, rfl⟩
  | element _ hw ih =>
    refine State.upToLimits_append ih ?_
    rintro _ ⟨ctx, rfl, rfl⟩
    exact State.upToLimits_open .array hw ⟨.element ctx, rfl, rfl⟩
  | key _ hw ih =>
    refine State.upToLimits_append ih ?_
    rintro _ ⟨ctx, rfl, rfl⟩
    exact State.upToLimits_open .map hw ⟨.key ctx, rfl, rfl⟩
  | value _ hw hk ih =>
    refine State.upToLimits_append ih ?_
    rintro _ ⟨ctx, rfl, rfl⟩
    refine State.upToLimits_open .map hw (State.upToLimits_append hk.steps ?_)
    rintro _ ⟨e, rfl⟩
    exact State.upToLimits_ok _ (State.step_after (.inl rfl)) ⟨.value _ ctx, rfl, rfl⟩
  | member _ hw hm hn ih =>
    refine State.upToLimits_append ih ?_
    rintro _ ⟨ctx, rfl, rfl⟩
    refine State.upToLimits_open .struct hw (State.upToLimits_append (hm.steps []) ?_)
    rintro _ ⟨done, rfl⟩
    exact State.upToLimits_name hn ⟨.member (.nested ctx) done _, rfl, rfl⟩

/-! ## The first offence -/

/-- Between two parts of a text the first offence is: what comes before is the beginning of a sentence, but
no sentence goes on with the next lexeme, or ends where the text does. -/
inductive FirstOffence : List Lexeme → List Lexeme → Prop
  | lexeme {front back : List Lexeme} {l : Lexeme} : Viable front → ¬Viable (front ++ [l]) →
      FirstOffence front (l :: back)
  | ending {front : List Lexeme} : Viable front → (¬∃ t, Derives front t) → FirstOffence front []

/-- The second part of a text starts with its first type without a counterpart, at a place inside the
members `names`; the dialect calls the type `name`. -/
structure FirstUnsupported (front back : List Lexeme) (names : List String) (name : String) : Prop where
  viable : Viable front
  place : TypePlace front names
  starts : StartsUnsupported back name
  first : ∀ front' back', front ++ back = front' ++ back' → front'.length < front.length →
    ∀ names' name', TypePlace front' names' → ¬StartsUnsupported back' name'

/-- No type without a counterpart is read over. -/
theorem StartsUnsupported.steps_ne {g : Goal} {ctx ctx' : Context g} {ls rest : List Lexeme}
    {name : String} (h : StartsUnsupported (ls ++ rest) name) (hne : ls ≠ []) :
    (State.type ctx).steps ls ≠ .ok (.type ctx') := by
  obtain ⟨l, ls, rfl⟩ := List.exists_cons_of_ne_nil hne
  intro hs
  rw [State.steps_cons, bind_eq_ok_iff] at hs
  obtain ⟨next, hstep, hs⟩ := hs
  have hd : ctx.depth ≤ maxNesting := by
    apply Classical.byContradiction
    intro hd
    simp only [State.step] at hstep
    rw [if_pos (Nat.not_le.1 hd)] at hstep
    cases hstep
  rw [List.cons_append] at h
  generalize hms : ls ++ rest = ms at h
  cases h with
  | keyword hw =>
    rw [State.step_word hd, State.keyword, (Keyword.ofLower?_eq_some_iff (k := .unsupported)).2 hw]
      at hstep
    cases hstep
  | @zone w v rest' hw hv =>
    rw [State.step_word hd, hw] at hstep
    obtain rfl : State.after .timestampMillis .withWord ctx = next := Except.ok.inj hstep
    cases ls with
    | nil => cases hs
    | cons m ls =>
      obtain ⟨rfl, -⟩ := List.cons.inj hms
      rw [State.steps_cons, State.step, State.extend?, if_pos hv] at hs
      cases hs

/-- A place that a run has reached, and the type without a counterpart that starts there. -/
theorem TypePlace.firstUnsupported {front back : List Lexeme} {names : List String} {name : String}
    {s : State .type} (hp : TypePlace front names) (hs : (State.type .whole).steps front = .ok s)
    (hb : StartsUnsupported back name) : FirstUnsupported front back names name := by
  have hv : Viable (front ++ []) := hp.viable [] [.word "int"] derives_int
  rw [List.append_nil] at hv
  refine ⟨hv, hp, hb, ?_⟩
  intro front' back' he hlen names' name' hp' hb'
  obtain ⟨mid, rfl, rfl⟩ : ∃ mid, front = front' ++ mid ∧ back' = mid ++ back := by
    rcases List.append_eq_append_iff.1 he with ⟨mid, h1, h2⟩ | ⟨mid, h1, h2⟩
    · rw [h1, List.length_append] at hlen
      omega
    · exact ⟨mid, h1, h2⟩
  have hmid : mid ≠ [] := by
    rintro rfl
    simp at hlen
  obtain ⟨s', hs', hmids⟩ := State.steps_append_eq_ok_iff.1 hs
  have hplace := hp.steps
  have hplace' := hp'.steps
  rw [hs] at hplace
  rw [hs'] at hplace'
  obtain ⟨ctx, rfl, -⟩ := hplace
  obtain ⟨ctx', rfl, -⟩ := hplace'
  exact hb'.steps_ne hmid hmids

/-- A run that does not go on has met the first offence, limits and unsupported types apart. -/
theorem firstOffence_of_blocks {front back : List Lexeme} {s : State .type} {reason : ReadReason}
    (hs : (State.type .whole).steps front = .ok s) (hb : s.Blocks back (.malformed reason))
    (hr : reason ≠ .tooDeep) : FirstOffence front back := by
  have hv : Viable front := ((State.Reads.type .whole).steps hs).viable
  cases hb with
  | lexeme h => exact .lexeme hv (not_viable_of_step hs h hr)
  | ending h => exact .ending hv (not_derives_of_finish hs h)

/-- A run that stops at a type without a counterpart has met the first one. -/
theorem firstUnsupported_of_blocks {front back : List Lexeme} {s : State .type}
    {physical refinement path : String} (hs : (State.type .whole).steps front = .ok s)
    (hb : s.Blocks back (.refused (.unsupportedSource physical refinement path))) :
    ∃ front' back' names, front ++ back = front' ++ back' ∧
      FirstUnsupported front' back' names refinement ∧ physical = "hive" ∧
      path = dottedPath names := by
  have hreads := (State.Reads.type .whole).steps hs
  rw [List.nil_append] at hreads
  obtain ⟨l, rest, rfl, hl⟩ := hb.exists_refuses
  cases hl with
  | @keyword ctx w hd hw =>
    cases hreads with
    | type hc =>
      exact ⟨front, _, ctx.names, rfl, (hc.typePlace rfl).firstUnsupported hs (.keyword hw), rfl, rfl⟩
  | @zone ctx t v hv =>
    -- The timestamp itself has been read as a type; it is the token to blame.
    cases hreads with
    | after hc ht ha he =>
      obtain ⟨w, hw, rfl⟩ := he
      obtain ⟨s', hs', -⟩ := State.steps_append_eq_ok_iff.1 hs
      exact ⟨_, .word w :: .word v :: rest, ctx.names, by simp,
        (hc.typePlace rfl).firstUnsupported hs' (.zone hw hv), rfl, rfl⟩

/-- **Errors point at the first offence.** A text of tokens that is malformed, but not nested too deeply, is
blamed as it is, at the byte offset of the first token that no sentence goes on with, or at its end if it
is only the beginning of a sentence. A text with an unsupported type is blamed for the first one, with the
path of the members that are open there. -/
theorem readType_blames_first_offence {text : String} {tokens : List Token}
    (h : tokensOf text = .ok tokens) :
    (∀ input position reason, readType text = .error (.malformed input position reason) →
      reason ≠ "type nesting too deep" →
      input = text ∧ ∃ front back, tokens = front ++ back ∧ position = startOf text back ∧
        FirstOffence (front.map Token.lexeme) (back.map Token.lexeme)) ∧
    (∀ physical refinement path,
      readType text = .error (.unsupportedSource physical refinement path) →
      physical = "hive" ∧ ∃ front back names, tokens = front ++ back ∧
        FirstUnsupported (front.map Token.lexeme) (back.map Token.lexeme) names refinement ∧
        ("" ∉ names → path = ".".intercalate names)) := by
  refine ⟨fun input position reason he hr => ?_, fun physical refinement path he => ?_⟩
  · obtain ⟨front, back, s, refusal, rfl, hs, hb, heq⟩ := exists_of_readType_eq_error h he
    cases refusal with
    | malformed why =>
      simp only [Refusal.errorAt, SchemaError.malformed.injEq] at heq
      obtain ⟨rfl, rfl, rfl⟩ := heq
      have hwhy : why ≠ .tooDeep := by
        rintro rfl
        exact hr rfl
      exact ⟨rfl, front, back, rfl, rfl, firstOffence_of_blocks hs hb hwhy⟩
    | refused e =>
      obtain rfl : .malformed input position reason = e := heq
      obtain ⟨l, rest, -, hl⟩ := hb.exists_refuses
      cases hl
  · obtain ⟨front, back, s, refusal, rfl, hs, hb, heq⟩ := exists_of_readType_eq_error h he
    cases refusal with
    | malformed why => cases heq
    | refused e =>
      obtain rfl : .unsupportedSource physical refinement path = e := heq
      obtain ⟨lf, lb, names, hl, hfirst, rfl, rfl⟩ := firstUnsupported_of_blocks hs hb
      rw [← List.map_append] at hl
      obtain ⟨front', back', htokens, rfl, rfl⟩ := List.map_eq_append_iff.1 hl
      exact ⟨rfl, front', back', names, htokens, hfirst, dottedPath_eq_intercalate⟩

def commaTokens : List Token := [
  ⟨.word "array", 0⟩, ⟨.langle, 5⟩, ⟨.word "int", 6⟩, ⟨.comma, 9⟩, ⟨.word "string", 10⟩, ⟨.rangle, 16⟩]

def voidTokens : List Token := [
  ⟨.word "struct", 0⟩, ⟨.langle, 6⟩, ⟨.word "a", 7⟩, ⟨.colon, 8⟩, ⟨.word "map", 9⟩, ⟨.langle, 12⟩,
  ⟨.word "int", 13⟩, ⟨.comma, 16⟩, ⟨.word "VOID", 17⟩, ⟨.rangle, 21⟩, ⟨.rangle, 22⟩]

/-- The comma where an array should close, and a value of an unsupported type inside the member `a`. -/
theorem readType_blames_comma_and_void :
    tokensOf "array<int,string>" = .ok commaTokens ∧
      readType "array<int,string>" = .error (.malformed "array<int,string>" 9 "expected '>'") ∧
      (∃ front back, commaTokens = front ++ back ∧ 9 = startOf "array<int,string>" back ∧
        FirstOffence (front.map Token.lexeme) (back.map Token.lexeme)) ∧
      tokensOf "struct<a:map<int,VOID>>" = .ok voidTokens ∧
      readType "struct<a:map<int,VOID>>" = .error (.unsupportedSource "hive" "void" "a") ∧
      ∃ front back names, voidTokens = front ++ back ∧
        FirstUnsupported (front.map Token.lexeme) (back.map Token.lexeme) names "void" ∧
        ("" ∉ names → "a" = ".".intercalate names) := by
  have hc : tokensOf "array<int,string>" = .ok commaTokens := by decide +kernel
  have hv : tokensOf "struct<a:map<int,VOID>>" = .ok voidTokens := by decide +kernel
  have hce : readType "array<int,string>" = .error (.malformed "array<int,string>" 9 "expected '>'") := by
    decide +kernel
  have hve : readType "struct<a:map<int,VOID>>" = .error (.unsupportedSource "hive" "void" "a") := by
    decide +kernel
  obtain ⟨-, hoffence⟩ := (readType_blames_first_offence hc).1 _ _ _ hce (by decide)
  obtain ⟨-, hunsupported⟩ := (readType_blames_first_offence hv).2 _ _ _ hve
  exact ⟨hc, hce, hoffence, hv, hve, hunsupported⟩

end SchemaBridge.Hive
