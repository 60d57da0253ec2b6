import SchemaBridge.Hive.Reader
import SchemaBridge.Proofs.DataType.WellFormed
import SchemaBridge.Proofs.Hive.Grammar

/-!
# What a state has read

`State.Reads s ls`: the lexemes `ls` lead into the state `s`. The contexts of a state hold the constructs
that are open, so that each state describes a beginning of a sentence. `State.Reads.step` says that a step
keeps this, and `State.Reads.run` that a run which accepts has read a sentence whose types are all
admitted: well formed, and not nested too deeply for their place.
-/

namespace SchemaBridge.Hive

/-! ## Keywords -/

def Composite.word : Composite → String
  | .array => "array"
  | .map => "map"
  | .struct => "struct"

/-- The type of that size, its size unchecked. -/
def SizedText.make : SizedText → UInt32 → DataType
  | .char => .char
  | .varchar => .varchar

/-- The words of types that have no counterpart. -/
def unsupportedWords : List String :=
  ["uniontype", "void", "interval", "interval_year_month", "interval_day_time"]

/-- The small words that announce a keyword. -/
def Keyword.Spells (w : String) : Keyword → Prop
  | .plain t => (w, t) ∈ scalarWords ∧ w ≠ "double" ∧ w ≠ "timestamp"
  | .double => w = "double"
  | .timestamp => w = "timestamp"
  | .decimal => w ∈ decimalWords
  | .sized kind => (w, kind.make) ∈ sizedWords
  | .composite kind => w = kind.word
  | .unsupported => w ∈ unsupportedWords

theorem Keyword.ofLower?_eq_some_iff {w : String} {k : Keyword} :
    Keyword.ofLower? w = some k ↔ k.Spells w := by
  refine ⟨fun h => ?_, fun h => ?_⟩
  · unfold Keyword.ofLower? at h
    split at h
    all_goals cases h
    all_goals simp [Spells, scalarWords, decimalWords, sizedWords, SizedText.make, Composite.word,
      unsupportedWords]
  · cases k with
    | plain t =>
      obtain ⟨h, hd, ht⟩ := h
      simp only [scalarWords, List.mem_cons, Prod.mk.injEq, List.not_mem_nil, or_false] at h
      rcases h with ⟨rfl, rfl⟩ | ⟨rfl, rfl⟩ | ⟨rfl, rfl⟩ | ⟨rfl, rfl⟩ | ⟨rfl, rfl⟩ | ⟨rfl, rfl⟩ |
        ⟨rfl, rfl⟩ | ⟨rfl, rfl⟩ | ⟨rfl, rfl⟩ | ⟨rfl, rfl⟩ | ⟨rfl, rfl⟩ | ⟨rfl, rfl⟩
      all_goals first | rfl | exact absurd rfl hd | exact absurd rfl ht
    | double => obtain rfl := h; rfl
    | timestamp => obtain rfl := h; rfl
    | decimal =>
      simp only [Spells, decimalWords, List.mem_cons, List.not_mem_nil, or_false] at h
      rcases h with rfl | rfl <;> rfl
    | sized kind =>
      cases kind <;> simp [Spells, sizedWords, SizedText.make, funext_iff] at h <;> subst h <;> rfl
    | composite kind => obtain rfl := h; cases kind <;> rfl
    | unsupported =>
      simp only [Spells, unsupportedWords, List.mem_cons, List.not_mem_nil, or_false] at h
      rcases h with rfl | rfl | rfl | rfl | rfl <;> rfl

theorem SizedText.type_eq_ok_iff {kind : SizedText} {n : UInt32} {t : DataType} :
    kind.type n = .ok t ↔ t = kind.make n ∧ t.WellFormed := by
  cases kind
  · exact DataType.mkChar_eq_ok_iff
  · exact DataType.mkVarchar_eq_ok_iff

theorem SizedText.isPrimitive_make (kind : SizedText) (n : UInt32) :
    (kind.make n).isPrimitive = true := by
  cases kind <;> rfl

/-! ## Invariants -/

/-- A type is well formed and fits a place that `depth` types enclose. -/
structure Admitted (depth : Nat) (t : DataType) : Prop where
  wellFormed : t.WellFormed
  fits : depth + t.depth ≤ maxNesting + 1

/-- Members at a place that `depth` types enclose, each one with a comma after it. -/
inductive MembersRead (depth : Nat) : List Lexeme → List MemberType → Prop
  | nil : MembersRead depth [] []
  | snoc {ls ms : List Lexeme} {done : List MemberType} {l : Lexeme} {n : String} {t : DataType} :
      MembersRead depth ls done → IsName l n → Derives ms t → Admitted depth t →
      MembersRead depth (ls ++ l :: .colon :: (ms ++ [.comma])) (done ++ [(n, t)])

mutual

/-- The lexemes lead into the context. -/
inductive Context.Reads : {g : Goal} → Context g → List Lexeme → Prop
  | whole : Context.Reads .whole []
  | element {g : Goal} {outer : Context g} {ls : List Lexeme} {w : String} :
      Context.Reads outer ls → w.toLower = "array" →
      Context.Reads (.element outer) (ls ++ [.word w, .langle])
  | key {g : Goal} {outer : Context g} {ls : List Lexeme} {w : String} :
      Context.Reads outer ls → w.toLower = "map" →
      Context.Reads (.key outer) (ls ++ [.word w, .langle])
  | value {g : Goal} {outer : Context g} {ls ms : List Lexeme} {w : String} {key : DataType} :
      Context.Reads outer ls → w.toLower = "map" → Derives ms key → Admitted (outer.depth + 1) key →
      Context.Reads (.value key outer) (ls ++ .word w :: .langle :: (ms ++ [.comma]))
  | member {g : Goal} {list : ListContext g} {ls ms : List Lexeme} {done : List MemberType} {l : Lexeme}
      {n : String} :
      ListContext.Reads list ls → MembersRead list.depth ms done → IsName l n →
      Context.Reads (.member list done n) (ls ++ (ms ++ [l, .colon]))

/-- The lexemes lead to the place of the list. -/
inductive ListContext.Reads : {g : Goal} → ListContext g → List Lexeme → Prop
  | nested {g : Goal} {outer : Context g} {ls : List Lexeme} {w : String} :
      Context.Reads outer ls → w.toLower = "struct" →
      ListContext.Reads (.nested outer) (ls ++ [.word w, .langle])
  | wrapped {w : String} : w.toLower = "struct" → ListContext.Reads .wrapped [.word w, .langle]
  | bare : ListContext.Reads .bare []

end

/-- The lexemes of a complete type that the extension may follow. -/
def Extension.Extends : Extension → List Lexeme → Prop
  | .none, _ => True
  | .precisionWord, ls => ∃ w, w.toLower = "double" ∧ ls = [.word w]
  | .withWord, ls => ∃ w, w.toLower = "timestamp" ∧ ls = [.word w]
  | .parameters, ls => ∃ w, w.toLower ∈ decimalWords ∧ ls = [.word w]

/-- The lexemes lead into the state. -/
inductive State.Reads : {g : Goal} → State g → List Lexeme → Prop
  | type {g : Goal} {ctx : Context g} {ls : List Lexeme} : ctx.Reads ls → State.Reads (.type ctx) ls
  | opening {g : Goal} {ctx : Context g} {kind : Composite} {ls : List Lexeme} {w : String} :
      ctx.Reads ls → w.toLower = kind.word → State.Reads (.opening kind ctx) (ls ++ [.word w])
  | name {g : Goal} {list : ListContext g} {ls ms : List Lexeme} {done : List MemberType} :
      list.Reads ls → MembersRead list.depth ms done → State.Reads (.name list done) (ls ++ ms)
  | colon {g : Goal} {list : ListContext g} {ls ms : List Lexeme} {done : List MemberType} {l : Lexeme}
      {n : String} :
      list.Reads ls → MembersRead list.depth ms done → IsName l n →
      State.Reads (.colon list done n) (ls ++ (ms ++ [l]))
  | after {g : Goal} {ctx : Context g} {ls ms : List Lexeme} {t : DataType} {e : Extension} :
      ctx.Reads ls → Derives ms t → Admitted ctx.depth t → e.Extends ms →
      State.Reads (.after t e ctx) (ls ++ ms)
  | precision {g : Goal} {ctx : Context g} {ls : List Lexeme} {w : String} :
      ctx.Reads ls → ctx.depth ≤ maxNesting → w.toLower ∈ decimalWords →
      State.Reads (.precision ctx) (ls ++ [.word w, .lparen])
  | precisionEnd {g : Goal} {ctx : Context g} {ls : List Lexeme} {w v : String} {p : UInt32} :
      ctx.Reads ls → ctx.depth ≤ maxNesting → w.toLower ∈ decimalWords →
      Text.IsNumber v p → State.Reads (.precisionEnd p ctx) (ls ++ [.word w, .lparen, .word v])
  | scale {g : Goal} {ctx : Context g} {ls : List Lexeme} {w v : String} {p : UInt32} :
      ctx.Reads ls → ctx.depth ≤ maxNesting → w.toLower ∈ decimalWords →
      Text.IsNumber v p → State.Reads (.scale p ctx) (ls ++ [.word w, .lparen, .word v, .comma])
  | scaleEnd {g : Goal} {ctx : Context g} {ls : List Lexeme} {w v u : String} {p s : UInt32} :
      ctx.Reads ls → ctx.depth ≤ maxNesting → w.toLower ∈ decimalWords →
      Text.IsNumber v p → Text.IsNumber u s →
      State.Reads (.scaleEnd p s ctx) (ls ++ [.word w, .lparen, .word v, .comma, .word u])
  | sizeOpen {g : Goal} {ctx : Context g} {kind : SizedText} {ls : List Lexeme} {w : String} :
      ctx.Reads ls → ctx.depth ≤ maxNesting → (w.toLower, kind.make) ∈ sizedWords →
      State.Reads (.sizeOpen kind ctx) (ls ++ [.word w])
  | size {g : Goal} {ctx : Context g} {kind : SizedText} {ls : List Lexeme} {w : String} :
      ctx.Reads ls → ctx.depth ≤ maxNesting → (w.toLower, kind.make) ∈ sizedWords →
      State.Reads (.size kind ctx) (ls ++ [.word w, .lparen])
  | sizeEnd {g : Goal} {ctx : Context g} {kind : SizedText} {ls : List Lexeme} {w v : String}
      {n : UInt32} :
      ctx.Reads ls → ctx.depth ≤ maxNesting → (w.toLower, kind.make) ∈ sizedWords →
      Text.IsNumber v n → State.Reads (.sizeEnd kind n ctx) (ls ++ [.word w, .lparen, .word v])
  | closed {w : String} {ls : List Lexeme} {members : List MemberType} :
      w.toLower = "struct" → DerivesMembers ls members → (∀ m ∈ members, Admitted 1 m.2) →
      State.Reads (.closed members) (.word w :: .langle :: (ls ++ [.rangle]))

/-! ## Admitted types -/

theorem isPrimitive_of_mem_scalarWords {w : String} {t : DataType} (h : (w, t) ∈ scalarWords) :
    t.isPrimitive = true ∧ t.WellFormed := by
  simp only [scalarWords, List.mem_cons, Prod.mk.injEq, List.not_mem_nil, or_false] at h
  rcases h with ⟨-, rfl⟩ | ⟨-, rfl⟩ | ⟨-, rfl⟩ | ⟨-, rfl⟩ | ⟨-, rfl⟩ | ⟨-, rfl⟩ | ⟨-, rfl⟩ |
    ⟨-, rfl⟩ | ⟨-, rfl⟩ | ⟨-, rfl⟩ | ⟨-, rfl⟩ | ⟨-, rfl⟩
  all_goals exact ⟨rfl, trivial⟩

theorem Admitted.ofPrimitive {d : Nat} {t : DataType} (hp : t.isPrimitive = true) (hw : t.WellFormed)
    (hd : d ≤ maxNesting) : Admitted d t :=
  ⟨hw, by rw [DataType.depth_of_isPrimitive hp]; omega⟩

theorem Admitted.le {d : Nat} {t : DataType} (h : Admitted d t) : d ≤ maxNesting := by
  have := h.fits
  have := t.depth_pos
  omega

theorem admitted_array_iff {d : Nat} {t : DataType} :
    Admitted d (.array t) ↔ Admitted (d + 1) t := by
  refine ⟨fun h => ?_, fun h => ?_⟩
  · have hf := h.fits
    rw [DataType.depth] at hf
    exact ⟨h.wellFormed, by omega⟩
  · have hf := h.fits
    exact ⟨h.wellFormed, by rw [DataType.depth]; omega⟩

theorem admitted_map_iff {d : Nat} {key value : DataType} :
    Admitted d (.map key value) ↔ Admitted (d + 1) key ∧ Admitted (d + 1) value := by
  refine ⟨fun h => ?_, fun h => ?_⟩
  · have hf := h.fits
    rw [DataType.depth] at hf
    exact ⟨⟨h.wellFormed.1, by omega⟩, ⟨h.wellFormed.2, by omega⟩⟩
  · obtain ⟨hk, hv⟩ := h
    have hf := hk.fits
    have hg := hv.fits
    exact ⟨⟨hk.wellFormed, hv.wellFormed⟩, by rw [DataType.depth]; omega⟩

theorem forall_memberFields_iff {P : DataType → Prop} {members : List MemberType} :
    (∀ f ∈ memberFields members, P f.type) ↔ ∀ m ∈ members, P m.2 :=
  List.forall_mem_map

theorem admitted_record_iff {d : Nat} {members : List MemberType} :
    Admitted d (.record (memberFields members)) ↔
      DataType.ValidNames ((memberFields members).map Member.name) ∧ d ≤ maxNesting ∧
        ∀ m ∈ members, Admitted (d + 1) m.2 := by
  have hdepth : (DataType.record (memberFields members)).depth ≤ maxNesting - d + 1 ↔
      ∀ m ∈ members, m.2.depth ≤ maxNesting - d :=
    DataType.depth_record_le_iff.trans (forall_memberFields_iff (P := (·.depth ≤ maxNesting - d)))
  refine ⟨fun h => ?_, fun h => ?_⟩
  · obtain ⟨hn, hw⟩ := DataType.wellFormed_record_iff.1 h.wellFormed
    have hle := h.le
    have hd := hdepth.1 (by have := h.fits; omega)
    exact ⟨hn, hle, fun m hm =>
      ⟨(forall_memberFields_iff (P := DataType.WellFormed)).1 hw m hm, by have := hd m hm; omega⟩⟩
  · obtain ⟨hn, hle, hm⟩ := h
    have hw := (forall_memberFields_iff (P := DataType.WellFormed)).2 fun m h => (hm m h).wellFormed
    have hd := hdepth.2 fun m h => by have := (hm m h).fits; omega
    exact ⟨DataType.wellFormed_record_iff.2 ⟨hn, hw⟩, by omega⟩

/-- The members read and one more are a list of members. -/
theorem MembersRead.derives {d : Nat} {ls ms : List Lexeme} {done : List MemberType} {l : Lexeme}
    {n : String} {t : DataType} (h : MembersRead d ls done) (hn : IsName l n) (ht : Derives ms t) :
    DerivesMembers (ls ++ l :: .colon :: ms) (done ++ [(n, t)]) := by
  suffices key : ∀ {ns members}, DerivesMembers ns members →
      DerivesMembers (ls ++ ns) (done ++ members) from key (.one hn ht)
  induction h with
  | nil => exact fun h => h
  | snoc h hn' ht' _ ih =>
    intro ns members hm
    simpa using ih (.more hn' ht' hm)

theorem MembersRead.admitted {d : Nat} {ls : List Lexeme} {done : List MemberType}
    (h : MembersRead d ls done) : ∀ m ∈ done, Admitted d m.2 := by
  induction h with
  | nil => simp
  | snoc h hn ht ha ih =>
    intro m hm
    rcases List.mem_append.1 hm with hm | hm
    · exact ih m hm
    · obtain rfl := List.mem_singleton.1 hm
      exact ha

/-! ## Steps -/

namespace State

variable {g : Goal}

theorem exists_of_complete {ctx : Context g} {r : Except SchemaError DataType} {s : State g}
    (h : complete ctx r = .ok s) : ∃ t, r = .ok t ∧ s = .after t .none ctx := by
  cases r with
  | error e => cases h
  | ok t => cases h; exact ⟨t, rfl, rfl⟩

/-- The one lexeme that a state goes on with. -/
theorem eq_of_expect {l m : Lexeme} {r : Except Refusal (State g)} {refusal : Refusal} {s : State g}
    (h : (if l = m then r else .error refusal) = .ok s) : l = m ∧ r = .ok s := by
  split at h
  · exact ⟨‹_›, h⟩
  · cases h

theorem exists_of_number {next : UInt32 → State g} {l : Lexeme} {s : State g}
    (h : number next l = .ok s) : ∃ v n, l = .word v ∧ Text.IsNumber v n ∧ s = next n := by
  cases l with
  | word v =>
    simp only [number] at h
    split at h
    · rename_i n hn
      cases h
      exact ⟨v, n, rfl, Text.uint32OfText?_eq_some_iff.1 hn, rfl⟩
    · cases h
  | quoted n | langle | rangle | lparen | rparen | comma | colon => cases h

/-- The first word of a type. -/
theorem Reads.keyword {ctx : Context g} {ls : List Lexeme} {w : String} {s : State g}
    (hc : ctx.Reads ls) (hd : ctx.depth ≤ maxNesting) (h : State.keyword ctx w.toLower = .ok s) :
    s.Reads (ls ++ [.word w]) := by
  unfold State.keyword at h
  cases hk : Keyword.ofLower? w.toLower with
  | none => rw [hk] at h; cases h
  | some k =>
    have hs := Keyword.ofLower?_eq_some_iff.1 hk
    rw [hk] at h
    cases k with
    | plain t =>
      cases h
      have hp := isPrimitive_of_mem_scalarWords hs.1
      exact .after hc (.scalar hs.1) (.ofPrimitive hp.1 hp.2 hd) trivial
    | double =>
      cases h
      have hs : w.toLower = "double" := hs
      exact .after hc (.scalar (by simp [hs, scalarWords])) (.ofPrimitive rfl trivial hd) ⟨w, hs, rfl⟩
    | timestamp =>
      cases h
      have hs : w.toLower = "timestamp" := hs
      exact .after hc (.scalar (by simp [hs, scalarWords])) (.ofPrimitive rfl trivial hd) ⟨w, hs, rfl⟩
    | decimal =>
      cases h
      exact .after hc (.decimal hs .none) (.ofPrimitive rfl ⟨by decide, by decide⟩ hd) ⟨w, hs, rfl⟩
    | sized kind => cases h; exact .sizeOpen hc hd hs
    | composite kind => cases h; exact .opening hc hs
    | unsupported => cases h

/-- The lexeme after a complete list of members. -/
theorem Reads.leaveMembers {list : ListContext g} {ls ms : List Lexeme} {members : List MemberType}
    {l : Lexeme} {s : State g} (hl : list.Reads ls) (hm : DerivesMembers ms members)
    (ha : ∀ m ∈ members, Admitted list.depth m.2) (h : State.leaveMembers members l list = .ok s) :
    s.Reads (ls ++ (ms ++ [l])) := by
  cases hl with
  | @nested _ outer ls w hc hw =>
    obtain ⟨rfl, h⟩ := eq_of_expect h
    obtain ⟨t, ht, rfl⟩ := exists_of_complete h
    obtain ⟨rfl, hn⟩ := DataType.mkRecord_eq_ok_iff.1 ht
    have hd : outer.depth ≤ maxNesting := by
      obtain ⟨m, hm'⟩ := List.exists_mem_of_ne_nil members (by cases hm <;> simp)
      have := (ha m hm').fits
      have := m.2.depth_pos
      rw [ListContext.depth] at *
      omega
    simpa using Reads.after (e := .none) hc (.struct hw hm) (admitted_record_iff.2 ⟨hn, hd, ha⟩) trivial
  | wrapped hw =>
    obtain ⟨rfl, h⟩ := eq_of_expect h
    cases h
    exact .closed hw hm ha
  | bare => cases h

/-- The lexeme after a complete type. -/
theorem Reads.leave {ctx : Context g} {ls ms : List Lexeme} {t : DataType} {l : Lexeme} {s : State g}
    (hc : ctx.Reads ls) (ht : Derives ms t) (ha : Admitted ctx.depth t)
    (h : State.leave t l ctx = .ok s) : s.Reads (ls ++ (ms ++ [l])) := by
  cases hc with
  | whole => cases h
  | element hc hw =>
    obtain ⟨rfl, h⟩ := eq_of_expect h
    cases h
    simpa using Reads.after (e := .none) hc (.array hw ht) (admitted_array_iff.2 ha) trivial
  | key hc hw =>
    obtain ⟨rfl, h⟩ := eq_of_expect h
    cases h
    simpa using Reads.type (.value hc hw ht ha)
  | value hc hw hk hka =>
    obtain ⟨rfl, h⟩ := eq_of_expect h
    cases h
    simpa using Reads.after (e := .none) hc (.map hw hk ht) (admitted_map_iff.2 ⟨hka, ha⟩) trivial
  | member hl hm hn =>
    simp only [State.leave] at h
    split at h
    · rename_i hr
      cases h
      subst hr
      simpa using Reads.name hl (.snoc hm hn ht ha)
    · have ha' := (MembersRead.snoc hm hn ht ha).admitted
      simpa using Reads.leaveMembers hl (hm.derives hn ht) ha' h

/-- The lexeme after a type, where it extends the type. -/
theorem Reads.extend {ctx : Context g} {ls ms : List Lexeme} {t : DataType} {e : Extension} {l : Lexeme}
    {s : State g} (hc : ctx.Reads ls) (ht : Derives ms t) (ha : Admitted ctx.depth t)
    (he : e.Extends ms) (h : extend? ctx e t l = some (.ok s)) : s.Reads (ls ++ (ms ++ [l])) := by
  have hd := ha.le
  unfold extend? at h
  split at h
  · rename_i v
    split at h
    · rename_i hv
      obtain ⟨w, hw, rfl⟩ := he
      cases h
      obtain ⟨rfl, -⟩ := (derives_scalar_iff (s := .float64) (by simp [hw, scalarWords])).1 ht
      exact .after hc (.doublePrecision hw hv) ha trivial
    · cases h
  · split at h <;> cases h
  · obtain ⟨w, hw, rfl⟩ := he
    cases h
    exact .precision hc hd hw
  · cases h

/-- **One step**: what leads into a state, and the lexeme read, lead into the next one. -/
theorem Reads.step {s s' : State g} {ls : List Lexeme} {l : Lexeme} (hs : s.Reads ls)
    (h : s.step l = .ok s') : s'.Reads (ls ++ [l]) := by
  cases hs with
  | type hc =>
    simp only [State.step] at h
    split at h
    · cases h
    · rename_i hd
      split at h
      · exact Reads.keyword hc (by omega) h
      · cases h
  | @opening _ ctx kind ls w hc hw =>
    obtain ⟨rfl, h⟩ := eq_of_expect h
    cases h
    cases kind with
    | array => simpa [inside] using Reads.type (.element hc hw)
    | map => simpa [inside] using Reads.type (.key hc hw)
    | struct => simpa [inside] using Reads.name (.nested hc hw) .nil
  | name hl hm =>
    simp only [State.step] at h
    split at h
    · cases h
      simpa using Reads.colon hl hm (.word _)
    · cases h
      simpa using Reads.colon hl hm (.quoted _)
    · cases h
  | colon hl hm hn =>
    obtain ⟨rfl, h⟩ := eq_of_expect h
    cases h
    simpa using Reads.type (.member hl hm hn)
  | @after _ ctx ls ms t e hc ht ha he =>
    simp only [State.step] at h
    rw [List.append_assoc]
    cases hx : extend? ctx e t l with
    | none =>
      rw [hx, Option.getD_none] at h
      exact Reads.leave hc ht ha h
    | some r =>
      rw [hx, Option.getD_some] at h
      exact Reads.extend hc ht ha he (hx.trans (congrArg some h))
  | precision hc hd hw =>
    obtain ⟨v, p, rfl, hv, rfl⟩ := exists_of_number h
    simpa using Reads.precisionEnd hc hd hw hv
  | precisionEnd hc hd hw hv =>
    simp only [State.step] at h
    split at h
    · rename_i hr
      cases h
      subst hr
      simpa using Reads.scale hc hd hw hv
    · obtain ⟨rfl, h⟩ := eq_of_expect h
      obtain ⟨t, ht, rfl⟩ := exists_of_complete h
      obtain ⟨rfl, hwf⟩ := DataType.mkDecimal_eq_ok_iff.1 ht
      simpa using Reads.after (e := .none) hc (.decimal hw (.precision hv))
        (.ofPrimitive rfl hwf hd) trivial
  | scale hc hd hw hv =>
    obtain ⟨u, s, rfl, hu, rfl⟩ := exists_of_number h
    simpa using Reads.scaleEnd hc hd hw hv hu
  | scaleEnd hc hd hw hv hu =>
    obtain ⟨rfl, h⟩ := eq_of_expect h
    obtain ⟨t, ht, rfl⟩ := exists_of_complete h
    obtain ⟨rfl, hwf⟩ := DataType.mkDecimal_eq_ok_iff.1 ht
    simpa using Reads.after (e := .none) hc (.decimal hw (.scale hv hu))
      (.ofPrimitive rfl hwf hd) trivial
  | sizeOpen hc hd hw =>
    obtain ⟨rfl, h⟩ := eq_of_expect h
    cases h
    simpa using Reads.size hc hd hw
  | size hc hd hw =>
    obtain ⟨v, n, rfl, hv, rfl⟩ := exists_of_number h
    simpa using Reads.sizeEnd hc hd hw hv
  | sizeEnd hc hd hw hv =>
    obtain ⟨rfl, h⟩ := eq_of_expect h
    obtain ⟨t, ht, rfl⟩ := exists_of_complete h
    obtain ⟨rfl, hwf⟩ := SizedText.type_eq_ok_iff.1 ht
    simpa using Reads.after (e := .none) hc (.sized hw hv rfl)
      (.ofPrimitive (SizedText.isPrimitive_make _ _) hwf hd) trivial
  | closed _ _ _ => cases h

end State

/-! ## Runs -/

/-- The lexemes are a whole text of what is read, and every type in it is admitted in its place. -/
inductive Accepts : (g : Goal) → List Lexeme → g.Result → Prop
  | type {ls : List Lexeme} {t : DataType} : Derives ls t → Admitted 0 t → Accepts .type ls t
  | bare {ls : List Lexeme} {members : List MemberType} :
      DerivesMembers ls members → (∀ m ∈ members, Admitted 0 m.2) → Accepts .members ls members
  | wrapped {w : String} {ls : List Lexeme} {members : List MemberType} :
      w.toLower = "struct" → DerivesMembers ls members → (∀ m ∈ members, Admitted 1 m.2) →
      Accepts .members (.word w :: .langle :: (ls ++ [.rangle])) members

namespace State

variable {g : Goal}

/-- The end of the text after a complete type. -/
theorem Reads.finishType {ctx : Context g} {ls ms : List Lexeme} {t : DataType} {r : g.Result}
    (hc : ctx.Reads ls) (ht : Derives ms t) (ha : Admitted ctx.depth t)
    (h : State.finishType t ctx = .ok r) : Accepts g (ls ++ ms) r := by
  cases hc with
  | whole => cases h; exact .type ht ha
  | element | key | value => cases h
  | member hl hm hn =>
    cases hl with
    | nested | wrapped => simp [State.finishType] at h
    | bare =>
      cases h
      simpa using Accepts.bare (hm.derives hn ht) (MembersRead.snoc hm hn ht ha).admitted

theorem Reads.finish {s : State g} {ls : List Lexeme} {r : g.Result} (hs : s.Reads ls)
    (h : s.finish = .ok r) : Accepts g ls r := by
  cases hs with
  | after hc ht ha => exact Reads.finishType hc ht ha h
  | closed hw hm ha => cases h; exact .wrapped hw hm ha
  | type | opening | name | colon | precision | precisionEnd | scale | scaleEnd | sizeOpen | size
  | sizeEnd => cases h

/-- **A run that accepts** has read, with what led into its state, a whole text. -/
theorem Reads.run {s : State g} {ls rest : List Lexeme} {r : g.Result} (hs : s.Reads ls)
    (h : s.run rest = .ok r) : Accepts g (ls ++ rest) r := by
  induction rest generalizing s ls with
  | nil =>
    rw [State.run] at h
    cases hf : s.finish with
    | error reason => rw [hf] at h; cases h
    | ok r' => rw [hf] at h; cases h; simpa using hs.finish hf
  | cons l rest ih =>
    rw [State.run] at h
    cases hn : s.step l with
    | error refusal => rw [hn] at h; cases h
    | ok next =>
      rw [hn] at h
      simpa using ih (hs.step hn) h

end State

end SchemaBridge.Hive
