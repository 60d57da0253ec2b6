import SchemaBridge.Proofs.Hive.Recognition

/-!
# Where a run stops

`State.steps` is a run without the end of the text: the state after some lexemes, or the first refusal. A
run that fails stops at the first lexeme that is refused, or at the end of the text
(`State.exists_of_run_eq_error`), and the text is blamed there (`exists_of_readType_eq_error`). A refusal is
about the grammar or the depth, about the attributes of a type, or about a type without a counterpart
(`State.refuses_of_step`); the last one carries the path of the members that are open
(`Context.blame_unsupportedSource`).
-/

namespace SchemaBridge.Hive

/-! ## Steps -/

namespace State

variable {g : Goal}

/-- The state after some lexemes, or the first refusal. -/
def steps (s : State g) : List Lexeme → Except Refusal (State g)
  | [] => .ok s
  | l :: ls => s.step l >>= fun next => next.steps ls

@[simp] theorem steps_nil (s : State g) : s.steps [] = .ok s := rfl

theorem steps_cons (s : State g) (l : Lexeme) (ls : List Lexeme) :
    s.steps (l :: ls) = s.step l >>= fun next => next.steps ls := rfl

theorem steps_append (s : State g) (ls ms : List Lexeme) :
    s.steps (ls ++ ms) = s.steps ls >>= fun next => next.steps ms := by
  induction ls generalizing s with
  | nil => rfl
  | cons l ls ih =>
    rw [List.cons_append, steps_cons, steps_cons]
    cases s.step l with
    | error refusal => rfl
    | ok next => exact ih next

theorem steps_append_eq_ok_iff {s s' : State g} {ls ms : List Lexeme} :
    s.steps (ls ++ ms) = .ok s' ↔ ∃ next, s.steps ls = .ok next ∧ next.steps ms = .ok s' := by
  rw [steps_append, bind_eq_ok_iff]

/-- What the steps have read leads into the state after them. -/
theorem Reads.steps {s s' : State g} {ls ms : List Lexeme} (hs : s.Reads ls)
    (h : s.steps ms = .ok s') : s'.Reads (ls ++ ms) := by
  induction ms generalizing s ls with
  | nil =>
    cases h
    simpa using hs
  | cons m ms ih =>
    rw [steps_cons, bind_eq_ok_iff] at h
    obtain ⟨next, hn, h⟩ := h
    simpa using ih (hs.step hn) h

/-- A state does not go on with the rest of a text: it refuses the first lexeme, or the end. -/
inductive Blocks (s : State g) : List Lexeme → Refusal → Prop
  | lexeme {l : Lexeme} {rest : List Lexeme} {refusal : Refusal} :
      s.step l = .error refusal → Blocks s (l :: rest) refusal
  | ending {reason : ReadReason} : s.finish = .error reason → Blocks s [] (.malformed reason)

/-- **Where a run stops**: at a lexeme that is refused, or at the end of the text. -/
theorem exists_of_run_eq_error {s : State g} {ls : List Lexeme} {fault : ReadFault}
    (h : s.run ls = .error fault) :
    ∃ front back next, ls = front ++ back ∧ s.steps front = .ok next ∧
      next.Blocks back fault.refusal ∧ fault.left = back.length := by
  induction ls generalizing s with
  | nil =>
    rw [run] at h
    cases hf : s.finish with
    | ok r => rw [hf] at h; cases h
    | error reason =>
      rw [hf] at h
      cases h
      exact ⟨[], [], s, rfl, rfl, .ending hf, rfl⟩
  | cons l ls ih =>
    rw [run] at h
    cases hs : s.step l with
    | error refusal =>
      rw [hs] at h
      cases h
      exact ⟨[], l :: ls, s, rfl, rfl, .lexeme hs, rfl⟩
    | ok next =>
      rw [hs] at h
      obtain ⟨front, back, next', rfl, hf, hb, hl⟩ := ih h
      exact ⟨l :: front, back, next', rfl, by rw [steps_cons, hs]; exact hf, hb, hl⟩

end State

/-! ## Errors about whole texts -/

/-- The byte offset of the first of these tokens of a text, or of its end. -/
def startOf (text : String) : List Token → Nat
  | [] => text.utf8ByteSize
  | token :: _ => token.position

/-- The error about a text that is refused where these tokens are left. -/
def Refusal.errorAt (text : String) (back : List Token) : Refusal → SchemaError
  | .malformed reason => .malformed text (startOf text back) (reason.message (back.length = 0))
  | .refused e => e

theorem ReadFault.error_append (text : String) (front back : List Token) (refusal : Refusal) :
    ReadFault.error text (front ++ back) ⟨refusal, back.length⟩ = refusal.errorAt text back := by
  have hlen : (front ++ back).length - back.length = front.length := by
    rw [List.length_append]
    omega
  have hpos : positionAt text (front ++ back) back.length = startOf text back := by
    unfold positionAt
    rw [hlen, List.drop_left]
    cases back <;> rfl
  cases refusal with
  | malformed reason =>
    show SchemaError.malformed _ _ _ = SchemaError.malformed _ _ _
    rw [hpos]
  | refused e => rfl

/-- Where the run on the lexemes of a list of tokens stops. -/
theorem State.exists_tokens_of_run_eq_error {g : Goal} {s : State g} {tokens : List Token}
    {fault : ReadFault} (h : s.run (tokens.map Token.lexeme) = .error fault) :
    ∃ front back next, tokens = front ++ back ∧ s.steps (front.map Token.lexeme) = .ok next ∧
      next.Blocks (back.map Token.lexeme) fault.refusal ∧ fault.left = back.length := by
  obtain ⟨lf, lb, next, hl, hs, hb, hleft⟩ := exists_of_run_eq_error h
  obtain ⟨front, back, rfl, rfl, rfl⟩ := List.map_eq_append_iff.1 hl
  rw [List.length_map] at hleft
  exact ⟨front, back, next, rfl, hs, hb, hleft⟩

/-- A text is read by the run on its lexemes. -/
theorem readType_eq_mapError {text : String} {tokens : List Token} (h : tokensOf text = .ok tokens) :
    readType text =
      ((State.type .whole).run (tokens.map Token.lexeme)).mapError (ReadFault.error text tokens) := by
  simp only [readType, readFrom, h]

/-- A text of tokens is refused where the run on its lexemes stops. -/
theorem exists_of_readType_eq_error {text : String} {tokens : List Token} {e : SchemaError}
    (h : tokensOf text = .ok tokens) (he : readType text = .error e) :
    ∃ front back next refusal, tokens = front ++ back ∧
      (State.type .whole).steps (front.map Token.lexeme) = .ok next ∧
      next.Blocks (back.map Token.lexeme) refusal ∧ e = refusal.errorAt text back := by
  rw [readType_eq_mapError h] at he
  cases hr : (State.type .whole).run (tokens.map Token.lexeme) with
  | ok t => rw [hr] at he; cases he
  | error fault =>
    rw [hr] at he
    cases he
    obtain ⟨refusal, left⟩ := fault
    obtain ⟨front, back, next, rfl, hs, hb, rfl⟩ := State.exists_tokens_of_run_eq_error hr
    exact ⟨front, back, next, refusal, rfl, hs, hb, ReadFault.error_append text front back refusal⟩

/-! ## Checked constructors -/

/-- What a checked constructor of the type `t` yields. -/
inductive Checked (t : DataType) : Except SchemaError DataType → Prop
  | ok : Checked t (.ok t)
  | invalid (typeName reason : String) : Checked t (.error (.invalidParameters typeName reason))

theorem checked_mkDecimal (p s : UInt32) : Checked (.decimal p s) (DataType.mkDecimal p s) := by
  unfold DataType.mkDecimal
  split
  · exact .invalid ..
  · split
    · exact .invalid ..
    · exact .ok

theorem SizedText.checked_type (kind : SizedText) (n : UInt32) : Checked (kind.make n) (kind.type n) := by
  cases kind with
  | char =>
    show Checked (.char n) (DataType.mkChar n)
    unfold DataType.mkChar
    split
    · exact .invalid ..
    · exact .ok
  | varchar =>
    show Checked (.varchar n) (DataType.mkVarchar n)
    unfold DataType.mkVarchar
    split
    · exact .invalid ..
    · exact .ok

theorem checked_mkRecord (fields : List Field) : Checked (.record fields) (DataType.mkRecord fields) := by
  unfold DataType.mkRecord
  cases h : Record.ofFields fields with
  | ok r =>
    obtain rfl := Record.ofFields_eq_ok_iff.1 h
    exact .ok
  | error e =>
    obtain ⟨flaw, -, rfl⟩ := Record.ofFields_eq_error_iff.1 h
    exact .invalid ..

/-! ## Paths -/

mutual

/-- The names of the open members, the outermost one first. -/
def Context.names {g : Goal} : Context g → List String
  | .whole => []
  | .element outer => outer.names
  | .key outer => outer.names
  | .value _ outer => outer.names
  | .member list _ name => list.names ++ [name]

def ListContext.names {g : Goal} : ListContext g → List String
  | .nested outer => outer.names
  | .wrapped => []
  | .bare => []

end

mutual

theorem Context.blame_invalidParameters {g : Goal} (typeName reason : String) : (ctx : Context g) →
    ctx.blame (.invalidParameters typeName reason) = .invalidParameters typeName reason
  | .whole => rfl
  | .element outer => outer.blame_invalidParameters typeName reason
  | .key outer => outer.blame_invalidParameters typeName reason
  | .value _ outer => outer.blame_invalidParameters typeName reason
  | .member list _ _ => list.blame_invalidParameters typeName reason

theorem ListContext.blame_invalidParameters {g : Goal} (typeName reason : String) :
    (list : ListContext g) →
    list.blame (.invalidParameters typeName reason) = .invalidParameters typeName reason
  | .nested outer => outer.blame_invalidParameters typeName reason
  | .wrapped => rfl
  | .bare => rfl

end

mutual

theorem Context.blame_dottedPath {g : Goal} (physical refinement : String) (inner : List String) :
    (ctx : Context g) → ctx.blame (.unsupportedSource physical refinement (dottedPath inner)) =
      .unsupportedSource physical refinement (dottedPath (ctx.names ++ inner))
  | .whole => rfl
  | .element outer => outer.blame_dottedPath physical refinement inner
  | .key outer => outer.blame_dottedPath physical refinement inner
  | .value _ outer => outer.blame_dottedPath physical refinement inner
  | .member list _ name => by
    rw [Context.names, List.append_assoc]
    exact list.blame_dottedPath physical refinement (name :: inner)

theorem ListContext.blame_dottedPath {g : Goal} (physical refinement : String) (inner : List String) :
    (list : ListContext g) → list.blame (.unsupportedSource physical refinement (dottedPath inner)) =
      .unsupportedSource physical refinement (dottedPath (list.names ++ inner))
  | .nested outer => outer.blame_dottedPath physical refinement inner
  | .wrapped => rfl
  | .bare => rfl

end

/-- An unsupported type is blamed with the path of the members that are open around it. -/
theorem Context.blame_unsupportedSource {g : Goal} (physical refinement : String) (ctx : Context g) :
    ctx.blame (.unsupportedSource physical refinement "") =
      .unsupportedSource physical refinement (dottedPath ctx.names) := by
  have h := ctx.blame_dottedPath physical refinement []
  rwa [List.append_nil] at h

/-! ## Refusals that are not about the grammar -/

/-- The name of a timestamp with a time zone, which has no counterpart. -/
def zonedTimestamp : String := "timestamp with local time zone"

namespace State

variable {g : Goal}

/-- A lexeme is refused for the attributes of a type, or because a type has no counterpart. -/
inductive Refuses : State g → Lexeme → SchemaError → Prop
  | invalid {s : State g} {l : Lexeme} (typeName reason : String) :
      Refuses s l (.invalidParameters typeName reason)
  | keyword {ctx : Context g} {w : String} : ctx.depth ≤ maxNesting → w.toLower ∈ unsupportedWords →
      Refuses (.type ctx) (.word w) (.unsupportedSource "hive" w.toLower (dottedPath ctx.names))
  | zone {ctx : Context g} {t : DataType} {w : String} : w.toLower = "with" →
      Refuses (.after t .withWord ctx) (.word w)
        (.unsupportedSource "hive" zonedTimestamp (dottedPath ctx.names))

theorem refuses_of_complete {s : State g} {l : Lexeme} {ctx : Context g} {t : DataType}
    {r : Except SchemaError DataType} {e : SchemaError} (hr : Checked t r)
    (h : complete ctx r = .error (.refused e)) : Refuses s l e := by
  cases hr with
  | ok => cases h
  | invalid typeName reason =>
    cases h
    rw [ctx.blame_invalidParameters]
    exact .invalid typeName reason

/-- The one lexeme that a state goes on with, where no other one is refused for what it says. -/
theorem of_expect_eq_refused {l m : Lexeme} {r : Except Refusal (State g)} {reason : ReadReason}
    {e : SchemaError} (h : (if l = m then r else .error (.malformed reason)) = .error (.refused e)) :
    r = .error (.refused e) := by
  split at h
  · exact h
  · cases h

theorem number_ne_refused (next : UInt32 → State g) (l : Lexeme) (e : SchemaError) :
    number next l ≠ .error (.refused e) := by
  intro h
  unfold number at h
  split at h
  · split at h <;> cases h
  · cases h

theorem refuses_of_keyword {ctx : Context g} {w : String} {e : SchemaError}
    (hd : ctx.depth ≤ maxNesting) (h : State.keyword ctx w.toLower = .error (.refused e)) :
    Refuses (.type ctx) (.word w) e := by
  unfold State.keyword at h
  cases hk : Keyword.ofLower? w.toLower with
  | none => rw [hk] at h; cases h
  | some k =>
    rw [hk] at h
    cases k with
    | unsupported =>
      cases h
      rw [ctx.blame_unsupportedSource]
      exact .keyword hd (Keyword.ofLower?_eq_some_iff.1 hk)
    | plain | double | timestamp | decimal | sized | composite => cases h

theorem refuses_of_leave {s : State g} {ctx : Context g} {t : DataType} {l : Lexeme} {e : SchemaError}
    (h : leave t l ctx = .error (.refused e)) : Refuses s l e := by
  cases ctx with
  | whole => cases h
  | element outer => cases of_expect_eq_refused h
  | key outer => cases of_expect_eq_refused h
  | value key outer => cases of_expect_eq_refused h
  | member list done n =>
    simp only [leave] at h
    split at h
    · cases h
    · cases list with
      | nested outer => exact refuses_of_complete (checked_mkRecord _) (of_expect_eq_refused h)
      | wrapped => cases of_expect_eq_refused h
      | bare => cases h

theorem refuses_of_extend {ctx : Context g} {t : DataType} {ext : Extension} {l : Lexeme}
    {e : SchemaError} (h : extend? ctx ext t l = some (.error (.refused e))) :
    Refuses (.after t ext ctx) l e := by
  unfold extend? at h
  split at h
  · split at h <;> cases h
  · split at h
    · rename_i hw
      cases h
      have hb := ctx.blame_unsupportedSource "hive" zonedTimestamp
      rw [zonedTimestamp] at hb
      rw [hb]
      exact .zone hw
    · cases h
  · cases h
  · cases h

/-- **Refusals**: what a step refuses, other than for the grammar or the depth. -/
theorem refuses_of_step {s : State g} {l : Lexeme} {e : SchemaError}
    (h : s.step l = .error (.refused e)) : Refuses s l e := by
  cases s with
  | type ctx =>
    simp only [step] at h
    split at h
    · cases h
    · rename_i hd
      split at h
      · exact refuses_of_keyword (by omega) h
      · cases h
  | opening kind ctx => cases of_expect_eq_refused h
  | name list done =>
    simp only [step] at h
    split at h <;> cases h
  | colon list done n => cases of_expect_eq_refused h
  | after t ext ctx =>
    simp only [step] at h
    cases hx : extend? ctx ext t l with
    | none =>
      rw [hx, Option.getD_none] at h
      exact refuses_of_leave h
    | some r =>
      rw [hx, Option.getD_some] at h
      subst h
      exact refuses_of_extend hx
  | precision ctx | scale p ctx | size kind ctx => exact absurd h (number_ne_refused _ _ _)
  | precisionEnd p ctx =>
    simp only [step] at h
    split at h
    · cases h
    · exact refuses_of_complete (checked_mkDecimal p 0) (of_expect_eq_refused h)
  | scaleEnd p n ctx => exact refuses_of_complete (checked_mkDecimal p n) (of_expect_eq_refused h)
  | sizeOpen kind ctx => cases of_expect_eq_refused h
  | sizeEnd kind n ctx => exact refuses_of_complete (kind.checked_type n) (of_expect_eq_refused h)
  | closed members => cases h

theorem Blocks.exists_refuses {s : State g} {ls : List Lexeme} {e : SchemaError}
    (h : s.Blocks ls (.refused e)) : ∃ l rest, ls = l :: rest ∧ s.Refuses l e := by
  cases h with
  | lexeme hs => exact ⟨_, _, rfl, refuses_of_step hs⟩

end State

end SchemaBridge.Hive
