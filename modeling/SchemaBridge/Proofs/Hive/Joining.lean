import SchemaBridge.Hive.Reader
import SchemaBridge.Proofs.Hive.TypeText

/-!
# Scanning texts that are put together

A mark divides two texts for the scanner: what stands before it is scanned as it is alone
(`Scan.run_append_mark`), and what stands after it too, only further on (`Scan.run_shift`). `Lexes cs ls`: the
text `cs` is a sequence of tokens, with the lexemes `ls`. Main statements: `Lexes.append_mark_iff`, for a text
with a mark after its first part; `lexes_brackets_iff`, for a text in the brackets of a constructor,
whatever the text inside is; and `tokensOf_spellName_append`, for a text after a spelled name.
-/

namespace SchemaBridge.Hive

/-! ## Offsets -/

/-- The token as it is `k` bytes further on. -/
def Token.shift (k : Nat) (token : Token) : Token := { token with position := token.position + k }

@[simp] theorem Token.lexeme_shift (k : Nat) (token : Token) : (token.shift k).lexeme = token.lexeme := rfl

/-- The fault as it is `k` bytes further on. -/
def ScanFault.shift (k : Nat) (fault : ScanFault) : ScanFault :=
  { fault with position := fault.position + k }

namespace Scan

/-- What is open, `k` bytes further on. -/
def shift (k : Nat) : Scan → Scan
  | .blank => .blank
  | .word start read => .word (start + k) read
  | .quoted start read => .quoted (start + k) read
  | .quotedEnd start read => .quotedEnd (start + k) read

/-- The tokens of one step and what is open after it, `k` bytes further on. -/
def shiftStep (k : Nat) (r : List Token × Scan) : List Token × Scan :=
  (r.1.map (Token.shift k), r.2.shift k)

theorem start_shift (k position : Nat) (c : Char) :
    start (position + k) c =
      ((start position c).map (shiftStep k)).mapError (ScanFault.shift k) := by
  unfold start
  by_cases hb : Text.isBlank c = true
  · rw [if_pos hb, if_pos hb]
    rfl
  · by_cases hw : isWordChar c = true
    · rw [if_neg hb, if_neg hb, if_pos hw, if_pos hw]
      rfl
    · by_cases hq : c = quote
      · rw [if_neg hb, if_neg hb, if_neg hw, if_neg hw, if_pos hq, if_pos hq]
        rfl
      · rw [if_neg hb, if_neg hb, if_neg hw, if_neg hw, if_neg hq, if_neg hq]
        cases mark? c <;> rfl

/-- The token that a step ends comes in front, wherever the text starts. -/
theorem map_cons_shift {k : Nat} (token : Token) {r : Except ScanFault (List Token × Scan)} :
    (((r.map (shiftStep k)).mapError (ScanFault.shift k)).map
        fun (tokens, next) => (token.shift k :: tokens, next)) =
      ((r.map fun (tokens, next) => (token :: tokens, next)).map (shiftStep k)).mapError
        (ScanFault.shift k) := by
  cases r <;> rfl

theorem step_shift (s : Scan) (k position : Nat) (c : Char) :
    (s.shift k).step (position + k) c =
      ((s.step position c).map (shiftStep k)).mapError (ScanFault.shift k) := by
  cases s with
  | blank => exact start_shift k position c
  | word begin read =>
    simp only [shift, step]
    by_cases hc : isWordChar c = true
    · rw [if_pos hc, if_pos hc]
      rfl
    · rw [if_neg hc, if_neg hc, start_shift]
      exact map_cons_shift (wordToken begin read)
  | quoted begin read =>
    simp only [shift, step]
    by_cases hc : c = quote
    · rw [if_pos hc, if_pos hc]
      rfl
    · rw [if_neg hc, if_neg hc]
      rfl
  | quotedEnd begin read =>
    simp only [shift, step]
    by_cases hc : c = quote
    · rw [if_pos hc, if_pos hc]
      rfl
    · rw [if_neg hc, if_neg hc, start_shift]
      exact map_cons_shift (quotedToken begin read)

/-- **A text is scanned alike wherever it starts.** -/
theorem run_shift (s : Scan) (k position : Nat) (cs : List Char) :
    (s.shift k).run (position + k) cs =
      ((s.run position cs).map (List.map (Token.shift k))).mapError (ScanFault.shift k) := by
  induction cs generalizing s position with
  | nil => cases s <;> rfl
  | cons c cs ih =>
    rw [run, run, step_shift]
    cases s.step position c with
    | error fault => rfl
    | ok r =>
      obtain ⟨tokens, next⟩ := r
      have hp : position + k + c.utf8Size = position + c.utf8Size + k := by omega
      have hnext := ih next (position + c.utf8Size)
      simp only [Except.map, Except.mapError, shiftStep] at hnext ⊢
      rw [hp, hnext]
      cases next.run (position + c.utf8Size) cs with
      | error fault => rfl
      | ok rest => simp

/-! ## Marks -/

theorem run_cons_eq_ok_iff {s : Scan} {position : Nat} {c : Char} {cs : List Char} {tokens : List Token} :
    s.run position (c :: cs) = .ok tokens ↔ ∃ ended next rest, s.step position c = .ok (ended, next) ∧
      next.run (position + c.utf8Size) cs = .ok rest ∧ tokens = ended ++ rest := by
  rw [run]
  cases s.step position c with
  | error fault => simp
  | ok r =>
    obtain ⟨ended, next⟩ := r
    simp only [map_eq_ok_iff, Except.ok.injEq, Prod.mk.injEq]
    constructor
    · rintro ⟨rest, hr, rfl⟩
      exact ⟨ended, next, rest, ⟨rfl, rfl⟩, hr, rfl⟩
    · rintro ⟨_, _, rest, ⟨rfl, rfl⟩, hr, rfl⟩
      exact ⟨rest, hr, rfl⟩

section
variable {c : Char} {mark : Lexeme} (hc : mark? c = some mark)
include hc

theorem endsWord_mark (rest : List Char) : EndsWord (c :: rest) := by
  intro d hd
  cases hd
  exact (mark?_eq_some hc).2.1

theorem endsQuote_mark (rest : List Char) : EndsQuote (c :: rest) := by
  intro d hd
  cases hd
  exact (mark?_eq_some hc).2.2

/-- A text before a mark is scanned as it is alone. -/
theorem run_append_mark {s : Scan} {position : Nat} {cs : List Char} {tokens : List Token}
    (h : s.run position cs = .ok tokens) (rest : List Char) :
    s.run position (cs ++ c :: rest) =
      (Scan.blank.run (position + byteLength cs + c.utf8Size) rest).map
        (tokens ++ ⟨mark, position + byteLength cs⟩ :: ·) := by
  induction cs generalizing s position tokens with
  | nil =>
    have hmark : Scan.blank.run position (c :: rest) = _ := run_mark position hc
    rw [List.nil_append, byteLength_nil, Nat.add_zero]
    cases s with
    | blank =>
      cases h
      exact hmark
    | word begin read =>
      cases h
      rw [run_word_end (endsWord_mark hc rest), hmark]
      cases Scan.blank.run (position + c.utf8Size) rest <;> rfl
    | quoted begin read => cases h
    | quotedEnd begin read =>
      cases h
      rw [run_quotedEnd (endsQuote_mark hc rest), hmark]
      cases Scan.blank.run (position + c.utf8Size) rest <;> rfl
  | cons d cs ih =>
    obtain ⟨ended, next, tail, hs, hr, rfl⟩ := run_cons_eq_ok_iff.1 h
    have hp : position + byteLength (d :: cs) = position + d.utf8Size + byteLength cs := by
      rw [byteLength_cons]
      omega
    rw [List.cons_append, run, hs, hp]
    simp only [ih hr]
    cases Scan.blank.run (position + d.utf8Size + byteLength cs + c.utf8Size) rest <;>
      simp [Except.map]

/-- A mark at the end of a text ends no quoted name. -/
theorem exists_of_run_append_mark {s : Scan} {position : Nat} {cs : List Char} {tokens : List Token}
    (h : s.run position (cs ++ [c]) = .ok tokens) : ∃ front, s.run position cs = .ok front := by
  induction cs generalizing s position tokens with
  | nil =>
    cases s with
    | blank => exact ⟨_, rfl⟩
    | word begin read => exact ⟨_, rfl⟩
    | quotedEnd begin read => exact ⟨_, rfl⟩
    | quoted begin read =>
      have hs : (Scan.quoted begin read).step position c = .ok ([], .quoted begin (c :: read)) := by
        rw [step, if_neg (mark?_eq_some hc).2.2]
      rw [List.nil_append, run_cons_silent hs] at h
      cases h
  | cons d cs ih =>
    obtain ⟨ended, next, rest, hs, hr, rfl⟩ := run_cons_eq_ok_iff.1 h
    obtain ⟨front, hf⟩ := ih hr
    exact ⟨ended ++ front, run_cons_eq_ok_iff.2 ⟨ended, next, front, hs, hf, rfl⟩⟩

end

end Scan

/-! ## Lexemes of texts -/

/-- The text is a sequence of tokens with these lexemes. -/
def Lexes (cs : List Char) (ls : List Lexeme) : Prop :=
  ∃ tokens, scan cs = .ok tokens ∧ tokens.map Token.lexeme = ls

theorem lexes_iff_tokensOf {text : String} {ls : List Lexeme} :
    Lexes text.toList ls ↔ ∃ tokens, tokensOf text = .ok tokens ∧ tokens.map Token.lexeme = ls := by
  simp only [tokensOf, mapError_eq_ok_iff]
  rfl

/-- A lexeme is read back from its spelling. -/
theorem lexes_spell {l : Lexeme} (h : l.Proper) : Lexes l.spell [l] := by
  refine ⟨[⟨l, 0⟩], ?_, rfl⟩
  have hr := Scan.run_spell 0 h l.ends_nil
  rw [List.append_nil] at hr
  rw [scan, hr]
  rfl

section
variable {c : Char} {mark : Lexeme} {xs ys : List Char} {ls us : List Lexeme}

/-- **A mark divides a text**: the lexemes after it are those of the text that starts there. -/
theorem Lexes.append_mark_iff (hx : Lexes xs ls) (hc : mark? c = some mark) :
    Lexes (xs ++ c :: ys) us ↔ ∃ ms, us = ls ++ mark :: ms ∧ Lexes ys ms := by
  obtain ⟨front, hf, rfl⟩ := hx
  have hrun := Scan.run_append_mark hc hf ys
  have hshift : Scan.blank.run (0 + (byteLength xs + c.utf8Size)) ys = _ :=
    Scan.run_shift .blank (byteLength xs + c.utf8Size) 0 ys
  rw [Nat.add_assoc, hshift] at hrun
  unfold Lexes scan
  rw [hrun]
  simp only [map_eq_ok_iff, mapError_eq_ok_iff]
  constructor
  · rintro ⟨_, ⟨_, ⟨tokens, ht, rfl⟩, rfl⟩, rfl⟩
    exact ⟨tokens.map Token.lexeme, by simp, tokens, ht, rfl⟩
  · rintro ⟨_, rfl, tokens, ht, rfl⟩
    exact ⟨_, ⟨_, ⟨tokens, ht, rfl⟩, rfl⟩, by simp⟩

/-- Two texts with a mark between them. -/
theorem Lexes.append_mark {ms : List Lexeme} (hx : Lexes xs ls) (hc : mark? c = some mark)
    (hy : Lexes ys ms) : Lexes (xs ++ c :: ys) (ls ++ mark :: ms) :=
  (hx.append_mark_iff hc).2 ⟨ms, rfl, hy⟩

theorem lexes_nil_iff : Lexes [] us ↔ us = [] := by
  constructor
  · rintro ⟨tokens, ht, rfl⟩
    cases ht
    rfl
  · rintro rfl
    exact ⟨[], rfl, rfl⟩

/-- A text with a mark at its end. -/
theorem lexes_concat_mark_iff (hc : mark? c = some mark) :
    Lexes (xs ++ [c]) us ↔ ∃ ls, us = ls ++ [mark] ∧ Lexes xs ls := by
  constructor
  · intro h
    obtain ⟨tokens, ht, -⟩ := id h
    obtain ⟨front, hf⟩ := Scan.exists_of_run_append_mark hc ht
    have hx : Lexes xs (front.map Token.lexeme) := ⟨front, hf, rfl⟩
    obtain ⟨ms, rfl, hms⟩ := (hx.append_mark_iff hc).1 h
    rw [lexes_nil_iff] at hms
    exact ⟨_, by rw [hms], hx⟩
  · rintro ⟨ls, rfl, hx⟩
    exact hx.append_mark hc (lexes_nil_iff.2 rfl)

/-- **A text in the brackets of a constructor** has the lexemes of the text inside between them, and is no
sequence of tokens unless the text inside is one. -/
theorem lexes_brackets_iff {w : String} (hw : (Lexeme.word w).Proper) :
    Lexes (w.toList ++ '<' :: (xs ++ ['>'])) us ↔
      ∃ ls, us = .word w :: .langle :: (ls ++ [.rangle]) ∧ Lexes xs ls := by
  have hword : Lexes w.toList [.word w] := lexes_spell hw
  have hopen : mark? '<' = some .langle := rfl
  have hclose : mark? '>' = some .rangle := rfl
  rw [hword.append_mark_iff hopen]
  constructor
  · rintro ⟨_, rfl, h⟩
    obtain ⟨ls, rfl, hx⟩ := (lexes_concat_mark_iff hclose).1 h
    exact ⟨ls, rfl, hx⟩
  · rintro ⟨ls, rfl, hx⟩
    exact ⟨_, rfl, (lexes_concat_mark_iff hclose).2 ⟨ls, rfl, hx⟩⟩

end

/-! ## Spelled names -/

/-- The bytes of the characters of a text are those of the text. -/
theorem byteLength_toList (s : String) : byteLength s.toList = s.utf8ByteSize := by
  have key : ∀ cs, byteLength cs = (String.ofList cs).utf8ByteSize := by
    intro cs
    induction cs with
    | nil => rfl
    | cons c cs ih => rw [byteLength_cons, ih]; simp [String.ofList_cons]
  rw [key, String.ofList_toList]

/-- What ends a spelled name, whether or not it is in back-quotes. -/
theorem ends_nameLexeme {name : String} {rest : List Char}
    (h : ∀ c ∈ rest.head?, c ≠ quote ∧ isWordChar c = false) : (nameLexeme name).Ends rest := by
  unfold nameLexeme
  split
  · exact fun c hc => (h c hc).2
  · exact fun c hc => (h c hc).1

/-- The rest of the text is scanned as it is alone, its faults included. -/
theorem scan_spellName_append {name : String} {rest : List Char}
    (h : ∀ c ∈ rest.head?, c ≠ quote ∧ isWordChar c = false) :
    scan ((spellName name).toList ++ rest) =
      (((scan rest).map (List.map (Token.shift (spellName name).utf8ByteSize))).mapError
        (ScanFault.shift (spellName name).utf8ByteSize)).map (⟨nameLexeme name, 0⟩ :: ·) := by
  have hshift : Scan.blank.run (0 + (spellName name).utf8ByteSize) rest = _ :=
    Scan.run_shift .blank _ 0 rest
  rw [toList_spellName, scan, Scan.run_spell 0 (proper_nameLexeme name) (ends_nameLexeme h),
    ← toList_spellName, byteLength_toList, hshift]
  rfl

theorem nameLexeme_injective : Function.Injective nameLexeme := by
  intro a b h
  unfold nameLexeme at h
  split at h <;> split at h <;> cases h <;> rfl

/-- Names that are spelled alike are the same. -/
theorem spellName_injective : Function.Injective spellName := by
  intro a b h
  have hl : (nameLexeme a).spell = (nameLexeme b).spell := by
    rw [← toList_spellName, ← toList_spellName, h]
  obtain ⟨as, hs, has⟩ := lexes_spell (proper_nameLexeme a)
  obtain ⟨bs, hs', hbs⟩ := lexes_spell (proper_nameLexeme b)
  rw [hl, hs', Except.ok.injEq] at hs
  subst hs
  rw [hbs, List.singleton_inj] at has
  exact nameLexeme_injective has.symm

/-- **A spelled name is one token.** In front of a text that does not continue it, the tokens of this text
follow, as far further on as the name is long; and different names are spelled differently. -/
theorem tokensOf_spellName_append :
    (∀ name rest : String, (∀ c ∈ rest.toList.head?, c ≠ quote ∧ isWordChar c = false) →
      ∀ tokens, tokensOf (spellName name ++ rest) = .ok tokens ↔
        ∃ tail, tokensOf rest = .ok tail ∧
          tokens = ⟨if isPlainName name then .word name else .quoted name, 0⟩ ::
            tail.map (Token.shift (spellName name).utf8ByteSize)) ∧
    Function.Injective spellName := by
  refine ⟨fun name rest h tokens => ?_, spellName_injective⟩
  rw [tokensOf, mapError_eq_ok_iff, String.toList_append, scan_spellName_append h]
  simp only [map_eq_ok_iff, mapError_eq_ok_iff, tokensOf]
  constructor
  · rintro ⟨_, ⟨tail, ht, rfl⟩, rfl⟩
    exact ⟨tail, ht, rfl⟩
  · rintro ⟨tail, ht, rfl⟩
    exact ⟨_, ⟨tail, ht, rfl⟩, rfl⟩

theorem tokensOf_spellName_backquotes :
    (∀ c ∈ ":int".toList.head?, c ≠ quote ∧ isWordChar c = false) ∧
    tokensOf (spellName "\x60é\x60\x60" ++ ":int") =
      .ok [⟨.quoted "\x60é\x60\x60", 0⟩, ⟨.colon, 10⟩, ⟨.word "int", 11⟩] ∧
    tokensOf (spellName "id" ++ ":int") = .ok [⟨.word "id", 0⟩, ⟨.colon, 2⟩, ⟨.word "int", 3⟩] ∧
    spellName "id" ≠ spellName "\x60id\x60" := by
  have hrest : ∀ c ∈ ":int".toList.head?, c ≠ quote ∧ isWordChar c = false := by
    rintro _ ⟨⟩
    decide
  have htail : tokensOf ":int" = .ok [⟨.colon, 0⟩, ⟨.word "int", 1⟩] := by decide +kernel
  refine ⟨hrest, ?_, ?_, tokensOf_spellName_append.2.ne (by decide)⟩
  · exact (tokensOf_spellName_append.1 _ _ hrest _).2 ⟨_, htail, by decide +kernel⟩
  · exact (tokensOf_spellName_append.1 _ _ hrest _).2 ⟨_, htail, by decide +kernel⟩

end SchemaBridge.Hive
