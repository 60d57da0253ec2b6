import Mathlib.Data.List.Chain
import SchemaBridge.Hive.Spelling

/-!
# Scanning spelled lexemes

One equation per kind of lexeme says what the scanner does with its spelling in front of any text: it
yields the token and goes on with the rest (`run_word`, `run_quoted`, `run_mark`). Words and quoted names
need a rest that does not continue them. Main statement: `scan_spell`, a list of lexemes that may stand
side by side is read back from its spelling.
-/

namespace SchemaBridge.Hive

/-- The bytes of a list of characters in UTF-8. -/
def byteLength : List Char → Nat
  | [] => 0
  | c :: cs => c.utf8Size + byteLength cs

@[simp] theorem byteLength_nil : byteLength [] = 0 := rfl

@[simp] theorem byteLength_cons (c : Char) (cs : List Char) :
    byteLength (c :: cs) = c.utf8Size + byteLength cs := rfl

@[simp] theorem byteLength_append (cs ds : List Char) :
    byteLength (cs ++ ds) = byteLength cs + byteLength ds := by
  induction cs with
  | nil => simp
  | cons c cs ih => rw [List.cons_append, byteLength_cons, byteLength_cons, ih, Nat.add_assoc]

/-! ## Classes of characters -/

/-- The rest of a text does not continue a word. -/
def EndsWord (rest : List Char) : Prop := ∀ c ∈ rest.head?, isWordChar c = false

/-- The rest of a text does not continue a quoted name. -/
def EndsQuote (rest : List Char) : Prop := ∀ c ∈ rest.head?, c ≠ quote

/-- The characters of words are among the digits and letters of ASCII and what lies between these. -/
theorem toNat_of_isWordChar {c : Char} (h : isWordChar c = true) : 48 ≤ c.toNat ∧ c.toNat ≤ 122 := by
  have h : (decide (65 ≤ c.val ∧ c.val ≤ 90) || (97 ≤ c.val && c.val ≤ 122) ||
      (48 ≤ c.val && c.val ≤ 57) || c == '_') = true := h
  simp only [Bool.or_eq_true, Bool.and_eq_true, decide_eq_true_eq, beq_iff_eq,
    UInt32.le_iff_toNat_le] at h
  rcases h with ((⟨h1, h2⟩ | ⟨h1, h2⟩) | ⟨h1, h2⟩) | rfl
  · exact ⟨Nat.le_trans (by decide) h1, Nat.le_trans h2 (by decide)⟩
  · exact ⟨Nat.le_trans (by decide) h1, Nat.le_trans h2 (by decide)⟩
  · exact ⟨Nat.le_trans (by decide) h1, Nat.le_trans h2 (by decide)⟩
  · decide

theorem isBlank_of_isWordChar {c : Char} (h : isWordChar c = true) : Text.isBlank c = false := by
  obtain ⟨h1, h2⟩ := toNat_of_isWordChar h
  simp only [Text.isBlank, Bool.or_eq_false_iff, Bool.and_eq_false_iff, decide_eq_false_iff_not,
    beq_eq_false_iff_ne]
  omega

/-- A character that is a token of its own. -/
theorem mark?_eq_some {c : Char} {mark : Lexeme} (h : mark? c = some mark) :
    Text.isBlank c = false ∧ isWordChar c = false ∧ c ≠ quote := by
  unfold mark? at h
  split at h
  all_goals cases h
  all_goals decide

namespace Scan

/-! ## One lexeme -/

/-- Where a word ends the scanner goes on as it would without it. -/
theorem run_word_end {start position : Nat} {read rest : List Char} (h : EndsWord rest) :
    (Scan.word start read).run position rest =
      (Scan.blank.run position rest).map (wordToken start read :: ·) := by
  cases rest with
  | nil => rfl
  | cons c cs =>
    have hc : isWordChar c = false := h c rfl
    rw [run, run, step, step, hc]
    simp only [Bool.false_eq_true, if_false]
    cases Scan.start position c with
    | error fault => rfl
    | ok r => simp only [Except.map]; split <;> simp

/-- Where a quoted name ends the scanner goes on as it would without it. -/
theorem run_quotedEnd {start position : Nat} {read rest : List Char} (h : EndsQuote rest) :
    (Scan.quotedEnd start read).run position rest =
      (Scan.blank.run position rest).map (quotedToken start read :: ·) := by
  cases rest with
  | nil => rfl
  | cons c cs =>
    have hc : c ≠ quote := h c rfl
    rw [run, run, step, step, if_neg hc]
    cases Scan.start position c with
    | error fault => rfl
    | ok r => simp only [Except.map]; split <;> simp

/-- A character that ends no token. -/
theorem run_cons_silent {s next : Scan} {position : Nat} {c : Char} {cs : List Char}
    (h : s.step position c = .ok ([], next)) :
    s.run position (c :: cs) = next.run (position + c.utf8Size) cs := by
  rw [run, h]
  cases hr : next.run (position + c.utf8Size) cs <;> simp [Except.map, hr]

theorem run_word_append {start : Nat} {w rest : List Char} (hw : ∀ c ∈ w, isWordChar c = true)
    (position : Nat) (read : List Char) :
    (Scan.word start read).run position (w ++ rest) =
      (Scan.word start (w.reverse ++ read)).run (position + byteLength w) rest := by
  induction w generalizing position read with
  | nil => rfl
  | cons c w ih =>
    have hc : isWordChar c = true := hw c (by simp)
    have hs : (Scan.word start read).step position c = .ok ([], .word start (c :: read)) := by
      rw [step, if_pos hc]
    rw [List.cons_append, run_cons_silent hs, ih (fun d hd => hw d (by simp [hd])),
      List.reverse_cons, List.append_assoc, byteLength_cons, Nat.add_assoc]
    rfl

theorem run_quoted_append {start : Nat} {n rest : List Char} (position : Nat) (read : List Char) :
    (Scan.quoted start read).run position (doubleQuotes n ++ rest) =
      (Scan.quoted start (n.reverse ++ read)).run (position + byteLength (doubleQuotes n)) rest := by
  induction n generalizing position read with
  | nil => rfl
  | cons c n ih =>
    have hd : doubleQuotes (c :: n) = (if c = quote then [quote, quote] else [c]) ++ doubleQuotes n := rfl
    by_cases hc : c = quote
    · subst hc
      have h1 : (Scan.quoted start read).step position quote = .ok ([], .quotedEnd start read) := rfl
      have h2 : ∀ p, (Scan.quotedEnd start read).step p quote =
        .ok ([], .quoted start (quote :: read)) := fun _ => rfl
      rw [hd, if_pos rfl, List.append_assoc, List.cons_append, run_cons_silent h1,
        List.cons_append, run_cons_silent (h2 _), List.nil_append, ih, List.reverse_cons,
        List.append_assoc, byteLength_append]
      simp [Nat.add_assoc]
    · have h1 : (Scan.quoted start read).step position c = .ok ([], .quoted start (c :: read)) := by
        rw [step, if_neg hc]
      rw [hd, if_neg hc, List.append_assoc, List.cons_append, run_cons_silent h1, List.nil_append,
        ih, List.reverse_cons, List.append_assoc, byteLength_append]
      simp [Nat.add_assoc]

/-- A word in front of a text that does not continue it. -/
theorem run_word {w rest : List Char} (position : Nat) (hne : w ≠ [])
    (hw : ∀ c ∈ w, isWordChar c = true) (hr : EndsWord rest) :
    Scan.blank.run position (w ++ rest) =
      (Scan.blank.run (position + byteLength w) rest).map
        (⟨.word (String.ofList w), position⟩ :: ·) := by
  obtain ⟨c, w, rfl⟩ := List.exists_cons_of_ne_nil hne
  have hc : isWordChar c = true := hw c (by simp)
  have hs : Scan.blank.step position c = .ok ([], .word position [c]) := by
    rw [step, start, isBlank_of_isWordChar hc, if_neg (by decide), if_pos hc]
  rw [List.cons_append, run_cons_silent hs, run_word_append (fun d hd => hw d (by simp [hd])),
    run_word_end hr, wordToken, List.reverse_append, List.reverse_reverse, byteLength_cons,
    Nat.add_assoc]
  rfl

/-- A quoted name in front of a text that does not continue it. -/
theorem run_quoted {n rest : List Char} (position : Nat) (hr : EndsQuote rest) :
    Scan.blank.run position (quote :: (doubleQuotes n ++ quote :: rest)) =
      (Scan.blank.run (position + byteLength (quote :: (doubleQuotes n ++ [quote]))) rest).map
        (⟨.quoted (String.ofList n), position⟩ :: ·) := by
  have h1 : Scan.blank.step position quote = .ok ([], .quoted position []) := rfl
  have h2 : ∀ p read, (Scan.quoted position read).step p quote =
    .ok ([], .quotedEnd position read) := fun _ _ => rfl
  rw [run_cons_silent h1, run_quoted_append, run_cons_silent (h2 _ _), run_quotedEnd hr, quotedToken]
  simp [Nat.add_assoc]

/-- A token of one character in front of any text. -/
theorem run_mark {c : Char} {mark : Lexeme} {rest : List Char} (position : Nat)
    (h : mark? c = some mark) :
    Scan.blank.run position (c :: rest) =
      (Scan.blank.run (position + c.utf8Size) rest).map (⟨mark, position⟩ :: ·) := by
  obtain ⟨hb, hw, hq⟩ := mark?_eq_some h
  rw [run, step, start, hb, if_neg (by decide), hw, if_neg (by decide), if_neg hq, h]
  rfl

end Scan

/-! ## Lists of lexemes -/

/-- The spelling of a lexeme. -/
def Lexeme.spell : Lexeme → List Char
  | .word w => w.toList
  | .quoted n => quote :: (doubleQuotes n.toList ++ [quote])
  | .langle => ['<']
  | .rangle => ['>']
  | .lparen => ['(']
  | .rparen => [')']
  | .comma => [',']
  | .colon => [':']

/-- A word consists of word characters. -/
def Lexeme.Proper : Lexeme → Prop
  | .word w => w ≠ "" ∧ ∀ c ∈ w.toList, isWordChar c = true
  | _ => True

/-- The rest of a text does not continue a lexeme. -/
def Lexeme.Ends : Lexeme → List Char → Prop
  | .word _, rest => EndsWord rest
  | .quoted _, rest => EndsQuote rest
  | _, _ => True

/-- Two lexemes that nothing needs to divide. -/
def Lexeme.Apart : Lexeme → Lexeme → Prop
  | .word _, .word _ => False
  | .quoted _, .quoted _ => False
  | _, _ => True

/-- The spelling of lexemes side by side. -/
def spellAll (ls : List Lexeme) : List Char := ls.flatMap Lexeme.spell

@[simp] theorem spellAll_nil : spellAll [] = [] := rfl

@[simp] theorem spellAll_cons (l : Lexeme) (ls : List Lexeme) :
    spellAll (l :: ls) = l.spell ++ spellAll ls := rfl

@[simp] theorem spellAll_append (ls ms : List Lexeme) :
    spellAll (ls ++ ms) = spellAll ls ++ spellAll ms := List.flatMap_append

/-- The spelling of a lexeme in front of a text that does not continue it. -/
theorem Scan.run_spell {l : Lexeme} {rest : List Char} (position : Nat) (hp : l.Proper)
    (hr : l.Ends rest) :
    Scan.blank.run position (l.spell ++ rest) =
      (Scan.blank.run (position + byteLength l.spell) rest).map (⟨l, position⟩ :: ·) := by
  cases l with
  | word w =>
    obtain ⟨hne, hw⟩ := hp
    rw [Lexeme.spell, run_word position (by simpa using hne) hw hr, String.ofList_toList]
  | quoted n =>
    rw [Lexeme.spell, List.cons_append, List.append_assoc, List.singleton_append,
      run_quoted position hr, String.ofList_toList]
  | langle | rangle | lparen | rparen | comma | colon => exact run_mark position rfl

/-- A lexeme ends where one that is apart from it starts. -/
theorem Lexeme.ends_spell {a b : Lexeme} (h : a.Apart b) (hb : b.Proper) (rest : List Char) :
    a.Ends (b.spell ++ rest) := by
  cases a with
  | word w =>
    cases b with
    | word w' => exact h.elim
    | quoted n => intro c hc; cases hc; rfl
    | langle | rangle | lparen | rparen | comma | colon => intro c hc; cases hc; rfl
  | quoted n =>
    cases b with
    | word w' =>
      obtain ⟨hne, hw⟩ := hb
      obtain ⟨c, cs, hcs⟩ := List.exists_cons_of_ne_nil (l := w'.toList) (by simpa using hne)
      intro d hd
      rw [Lexeme.spell, hcs] at hd
      cases hd
      rintro rfl
      exact absurd (hw quote (by rw [hcs]; simp)) (by decide)
    | quoted n' => exact h.elim
    | langle | rangle | lparen | rparen | comma | colon => intro c hc; cases hc; decide
  | langle | rangle | lparen | rparen | comma | colon => trivial

theorem Lexeme.ends_nil (a : Lexeme) : a.Ends [] := by
  cases a <;> simp [Lexeme.Ends, EndsWord, EndsQuote]

/-- **Scanning undoes spelling**, for proper lexemes that may stand side by side. -/
theorem scan_spell {ls : List Lexeme} (hp : ∀ l ∈ ls, l.Proper) (ha : ls.IsChain Lexeme.Apart) :
    ∃ tokens, scan (spellAll ls) = .ok tokens ∧ tokens.map Token.lexeme = ls := by
  have key : ∀ position, ∃ tokens, Scan.blank.run position (spellAll ls) = .ok tokens ∧
      tokens.map Token.lexeme = ls := by
    induction ls with
    | nil => exact fun _ => ⟨[], rfl, rfl⟩
    | cons l ls ih =>
      intro position
      have hr : l.Ends (spellAll ls) := by
        cases ls with
        | nil => exact l.ends_nil
        | cons m ls => exact Lexeme.ends_spell (List.isChain_cons_cons.1 ha).1 (hp m (by simp)) _
      obtain ⟨tokens, ht, hl⟩ := ih (fun m hm => hp m (by simp [hm])) ha.tail
        (position + byteLength l.spell)
      refine ⟨⟨l, position⟩ :: tokens, ?_, by rw [List.map_cons, hl]⟩
      rw [spellAll_cons, Scan.run_spell position (hp l (by simp)) hr, ht]
      rfl
  exact key 0

end SchemaBridge.Hive
