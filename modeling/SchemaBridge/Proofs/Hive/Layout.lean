import Mathlib.Data.List.TakeWhile
import SchemaBridge.Hive.Reader
import SchemaBridge.Proofs.Except
import SchemaBridge.Proofs.Hive.Scanning

/-!
# Blanks and tokens of a text

A `Layout` is a text cut into runs of blanks and spelled lexemes in turn. `Outside front rest`: the place
between the two parts of the text `front ++ rest` is in no quoted name; `Stops rest reason`: no token starts
at such a place. A text has a layout or a place where it stops (`exists_layout_or_stops`), and the scanner
finds the one or the leftmost of the others (`Layout.Valid.run`, `IsFirstStop.scan_eq`).

Main statement: `tokensOf_exact`, the tokens of a text are those of its only layout, and a text without one
is refused at the first place where it stops.
-/

namespace SchemaBridge.Hive

/-! ## Layouts -/

/-- The characters are all white space. -/
def IsGap (cs : List Char) : Prop := ∀ c ∈ cs, Text.isBlank c = true

/-- Runs of blanks and lexemes in turn, with a run of blanks at either end. -/
inductive Layout where
  | blanks (gap : List Char)
  | lexeme (gap : List Char) (l : Lexeme) (rest : Layout)
deriving DecidableEq, Repr

namespace Layout

/-- The text with this layout. -/
def chars : Layout → List Char
  | .blanks gap => gap
  | .lexeme gap l rest => gap ++ (l.spell ++ rest.chars)

/-- The tokens of a layout that starts at byte offset `position`. -/
def tokens (position : Nat) : Layout → List Token
  | .blanks _ => []
  | .lexeme gap l rest =>
    ⟨l, position + byteLength gap⟩ :: rest.tokens (position + byteLength gap + byteLength l.spell)

/-- The lexeme that a layout starts with, if no blank stands in front of it. -/
def touching? : Layout → Option Lexeme
  | .lexeme [] l _ => some l
  | _ => none

/-- Words consist of word characters, and a blank stands between two words and between two quoted names. -/
def Valid : Layout → Prop
  | .blanks gap => IsGap gap
  | .lexeme gap l rest =>
    IsGap gap ∧ l.Proper ∧ (∀ m ∈ rest.touching?, l.Apart m) ∧ rest.Valid

/-- The text consists of these blanks and lexemes. -/
structure Cuts (layout : Layout) (text : String) : Prop where
  valid : layout.Valid
  chars_eq : layout.chars = text.toList

end Layout

/-! ## Where a lexeme ends -/

theorem isWordChar_of_isBlank {c : Char} (h : Text.isBlank c = true) : isWordChar c = false := by
  cases hw : isWordChar c with
  | false => rfl
  | true => rw [isBlank_of_isWordChar hw] at h; cases h

theorem ne_quote_of_isBlank {c : Char} (h : Text.isBlank c = true) : c ≠ quote := by
  rintro rfl
  exact absurd h (by decide)

/-- A blank ends every lexeme. -/
theorem Lexeme.ends_blank (l : Lexeme) {c : Char} (h : Text.isBlank c = true) (rest : List Char) :
    l.Ends (c :: rest) := by
  cases l with
  | word w =>
    intro d hd
    cases hd
    exact isWordChar_of_isBlank h
  | quoted n =>
    intro d hd
    cases hd
    exact ne_quote_of_isBlank h
  | langle | rangle | lparen | rparen | comma | colon => trivial

/-- A lexeme is not apart from one that would continue it. -/
theorem Lexeme.apart_of_ends {a b : Lexeme} {rest : List Char} (hb : b.Proper)
    (h : a.Ends (b.spell ++ rest)) : a.Apart b := by
  cases a with
  | word w =>
    cases b with
    | word v =>
      obtain ⟨hne, hv⟩ := hb
      obtain ⟨c, cs, hcs⟩ := List.exists_cons_of_ne_nil (l := v.toList) (by simpa using hne)
      have hc : isWordChar c = true := hv c (by rw [hcs]; simp)
      have hend : isWordChar c = false := h c (by rw [Lexeme.spell, hcs]; rfl)
      rw [hc] at hend
      cases hend
    | _ => trivial
  | quoted n =>
    cases b with
    | quoted m => exact absurd rfl (h quote rfl)
    | _ => trivial
  | langle | rangle | lparen | rparen | comma | colon => trivial

theorem Lexeme.spell_ne_nil {l : Lexeme} (h : l.Proper) : l.spell ≠ [] := by
  cases l with
  | word w => simpa [Lexeme.spell] using h.1
  | _ => simp [Lexeme.spell]

/-- A lexeme ends where a layout starts that does not go on with one that has to be apart from it. -/
theorem Layout.Valid.ends_chars_iff {layout : Layout} (h : layout.Valid) {l : Lexeme} :
    l.Ends layout.chars ↔ ∀ m ∈ layout.touching?, l.Apart m := by
  match layout, h with
  | .blanks [], _ => simp [touching?, chars, l.ends_nil]
  | .blanks (c :: gap), h =>
    have hc : l.Ends (Layout.blanks (c :: gap)).chars := l.ends_blank (h c (List.mem_cons_self ..)) gap
    simp [touching?, hc]
  | .lexeme [] m rest, h =>
    have hm : l.Ends (m.spell ++ rest.chars) ↔ l.Apart m :=
      ⟨Lexeme.apart_of_ends h.2.1, fun ha => Lexeme.ends_spell ha h.2.1 _⟩
    simpa [touching?, chars] using hm
  | .lexeme (c :: gap) m rest, h =>
    have hc : l.Ends (Layout.lexeme (c :: gap) m rest).chars :=
      l.ends_blank (h.1 c (List.mem_cons_self ..)) _
    simp [touching?, hc]

/-! ## Scanning a layout -/

theorem Scan.run_gap {gap : List Char} (h : IsGap gap) (position : Nat) (rest : List Char) :
    Scan.blank.run position (gap ++ rest) = Scan.blank.run (position + byteLength gap) rest := by
  induction gap generalizing position with
  | nil => rfl
  | cons c gap ih =>
    obtain ⟨hc, hgap⟩ := List.forall_mem_cons.1 h
    have hs : Scan.blank.step position c = .ok ([], .blank) := by
      rw [Scan.step, Scan.start, if_pos hc]
    rw [List.cons_append, Scan.run_cons_silent hs, ih hgap, byteLength_cons, Nat.add_assoc]

/-- **The scanner finds the tokens of a layout.** -/
theorem Layout.Valid.run {layout : Layout} (h : layout.Valid) (position : Nat) :
    Scan.blank.run position layout.chars = .ok (layout.tokens position) := by
  induction layout generalizing position with
  | blanks gap =>
    have hrun := Scan.run_gap h position []
    rw [List.append_nil] at hrun
    exact hrun
  | lexeme gap l rest ih =>
    obtain ⟨hgap, hl, happart, hrest⟩ := h
    have hends : l.Ends rest.chars := hrest.ends_chars_iff.2 happart
    rw [chars, Scan.run_gap hgap, Scan.run_spell _ hl hends, ih hrest]
    rfl

/-- Parts of a text that have the same number of bytes are the same. -/
theorem append_inj_of_byteLength {xs ys us vs : List Char} (h : xs ++ us = ys ++ vs)
    (hl : byteLength xs = byteLength ys) : xs = ys ∧ us = vs := by
  induction xs generalizing ys with
  | nil =>
    cases ys with
    | nil => exact ⟨rfl, h⟩
    | cons d ys =>
      have := d.utf8Size_pos
      rw [byteLength_nil, byteLength_cons] at hl
      omega
  | cons c xs ih =>
    cases ys with
    | nil =>
      have := c.utf8Size_pos
      rw [byteLength_nil, byteLength_cons] at hl
      omega
    | cons d ys =>
      rw [List.cons_append, List.cons_append, List.cons.injEq] at h
      obtain ⟨rfl, h⟩ := h
      rw [byteLength_cons, byteLength_cons] at hl
      obtain ⟨rfl, rfl⟩ := ih h (by omega)
      exact ⟨rfl, rfl⟩

/-- A layout is determined by its text and its tokens. -/
theorem Layout.eq_of_chars_eq_of_tokens_eq {a b : Layout} {position : Nat} (hc : a.chars = b.chars)
    (ht : a.tokens position = b.tokens position) : a = b := by
  induction a generalizing b position with
  | blanks gap =>
    cases b with
    | blanks gap' => exact congrArg Layout.blanks hc
    | lexeme => cases ht
  | lexeme gap l rest ih =>
    cases b with
    | blanks => cases ht
    | lexeme gap' l' rest' =>
      simp only [tokens, List.cons.injEq, Token.mk.injEq] at ht
      obtain ⟨⟨rfl, hp⟩, ht⟩ := ht
      rw [chars, chars] at hc
      obtain ⟨rfl, hrest⟩ := append_inj_of_byteLength hc (by omega)
      rw [List.append_cancel_left_eq] at hrest
      rw [ih hrest ht]

/-- **A text has one layout at most.** -/
theorem Layout.Cuts.unique {a b : Layout} {text : String} (ha : a.Cuts text) (hb : b.Cuts text) :
    a = b := by
  have hc : a.chars = b.chars := ha.chars_eq.trans hb.chars_eq.symm
  have ht : (Except.ok (a.tokens 0) : Except ScanFault _) = .ok (b.tokens 0) := by
    rw [← ha.valid.run, ← hb.valid.run, hc]
  exact eq_of_chars_eq_of_tokens_eq hc (Except.ok.inj ht)

/-! ## Places where no token starts -/

/-- Between the two parts of a text is a place outside quoted names: the first part can be read character by
character, with each quoted name in it as a whole. -/
inductive Outside : List Char → List Char → Prop
  | start (text : List Char) : Outside [] text
  | char {front rest : List Char} {c : Char} : Outside front (c :: rest) → c ≠ quote →
      Outside (front ++ [c]) rest
  | name {front rest : List Char} (n : List Char) :
      Outside front (quote :: (doubleQuotes n ++ quote :: rest)) → EndsQuote rest →
      Outside (front ++ quote :: (doubleQuotes n ++ [quote])) rest

/-- No token starts here: there is a character that no token has outside quoted names, or a back-quote that
opens a name and is never followed by one that closes it. -/
inductive Stops : List Char → ScanReason → Prop
  | stray {c : Char} {rest : List Char} : Text.isBlank c = false → isWordChar c = false → c ≠ quote →
      mark? c = none → Stops (c :: rest) (.strayCharacter c)
  | openQuote {rest : List Char} :
      (∀ n after, rest = doubleQuotes n ++ quote :: after → ¬EndsQuote after) →
      Stops (quote :: rest) .openQuote

/-- The fault tells the leftmost place outside quoted names at which no token starts. -/
structure IsFirstStop (text : List Char) (fault : ScanFault) (front rest : List Char) : Prop where
  text_eq : front ++ rest = text
  outside : Outside front rest
  stops : Stops rest fault.reason
  position_eq : fault.position = byteLength front
  leftmost : ∀ front' rest' reason, front' ++ rest' = text → Outside front' rest' → Stops rest' reason →
    front.length ≤ front'.length

/-! ## Every text is cut or stops -/

section
variable {front rest : List Char}

theorem Outside.chars {cs : List Char} (h : Outside front (cs ++ rest)) (hcs : ∀ c ∈ cs, c ≠ quote) :
    Outside (front ++ cs) rest := by
  induction cs generalizing front with
  | nil => rwa [List.append_nil]
  | cons c cs ih =>
    obtain ⟨hc, htail⟩ := List.forall_mem_cons.1 hcs
    have hnext : Outside (front ++ [c]) (cs ++ rest) := .char h hc
    have hall := ih hnext htail
    rwa [List.append_assoc] at hall

theorem ne_quote_of_isWordChar {c : Char} (h : isWordChar c = true) : c ≠ quote := by
  rintro rfl
  exact absurd h (by decide)

theorem Outside.lexeme {l : Lexeme} (h : Outside front (l.spell ++ rest)) (hl : l.Proper)
    (hr : l.Ends rest) : Outside (front ++ l.spell) rest := by
  cases l with
  | word w => exact h.chars fun c hc => ne_quote_of_isWordChar (hl.2 c hc)
  | quoted n =>
    rw [Lexeme.spell, List.cons_append, List.append_assoc, List.singleton_append] at h
    exact .name n.toList h hr
  | langle | rangle | lparen | rparen | comma | colon => exact h.chars (by simp [Lexeme.spell, quote])

end

/-- A token of one character is spelled by this character, whatever follows it. -/
theorem spell_of_mark?_eq_some {c : Char} {m : Lexeme} (h : mark? c = some m) :
    m.spell = [c] ∧ m.Proper ∧ ∀ rest, m.Ends rest := by
  unfold mark? at h
  split at h
  all_goals cases h
  all_goals exact ⟨rfl, trivial, fun _ => trivial⟩

/-- A text that starts with no blank starts with a lexeme, or stops. -/
theorem exists_lexeme_or_stops {c : Char} (hb : Text.isBlank c = false) (cs : List Char) :
    (∃ l after, Lexeme.Proper l ∧ l.Ends after ∧ c :: cs = l.spell ++ after) ∨
      ∃ reason, Stops (c :: cs) reason := by
  by_cases hw : isWordChar c = true
  · -- The longest run of word characters.
    left
    have hword : ∀ d ∈ c :: cs.takeWhile isWordChar, isWordChar d = true := by
      rw [List.forall_mem_cons]
      exact ⟨hw, fun d hd => List.mem_takeWhile_imp hd⟩
    refine ⟨.word (String.ofList (c :: cs.takeWhile isWordChar)), cs.dropWhile isWordChar, ?_, ?_, ?_⟩
    · exact ⟨by simp, by rwa [String.toList_ofList]⟩
    · intro d hd
      have hlast := List.head?_dropWhile_not isWordChar cs
      rw [hd] at hlast
      simpa using hlast
    · rw [Lexeme.spell, String.toList_ofList, List.cons_append, List.takeWhile_append_dropWhile]
  · by_cases hq : c = quote
    · subst hq
      by_cases hclosed : ∃ n after, cs = doubleQuotes n ++ quote :: after ∧ EndsQuote after
      · obtain ⟨n, after, rfl, hend⟩ := hclosed
        refine .inl ⟨.quoted (String.ofList n), after, trivial, hend, ?_⟩
        rw [Lexeme.spell, String.toList_ofList]
        simp
      · exact .inr ⟨.openQuote, .openQuote fun n after he hend => hclosed ⟨n, after, he, hend⟩⟩
    · cases hm : mark? c with
      | none => exact .inr ⟨.strayCharacter c, .stray hb (by simpa using hw) hq hm⟩
      | some m =>
        obtain ⟨hspell, hproper, hends⟩ := spell_of_mark?_eq_some hm
        exact .inl ⟨m, cs, hproper, hends cs, by rw [hspell, List.singleton_append]⟩

/-- **From a place outside quoted names on a text has a layout, or stops somewhere.** -/
theorem exists_layout_or_stops {front cs : List Char} (h : Outside front cs) :
    (∃ layout : Layout, layout.Valid ∧ layout.chars = cs) ∨
      ∃ front' rest reason, front' ++ rest = front ++ cs ∧ Outside front' rest ∧ Stops rest reason := by
  have hsplit : cs.takeWhile Text.isBlank ++ cs.dropWhile Text.isBlank = cs :=
    List.takeWhile_append_dropWhile
  have hgap : IsGap (cs.takeWhile Text.isBlank) := fun c hc => List.mem_takeWhile_imp hc
  have hplace : Outside (front ++ cs.takeWhile Text.isBlank) (cs.dropWhile Text.isBlank) :=
    Outside.chars (by rwa [hsplit]) fun c hc => ne_quote_of_isBlank (hgap c hc)
  cases hd : cs.dropWhile Text.isBlank with
  | nil =>
    rw [hd, List.append_nil] at hsplit
    exact .inl ⟨.blanks _, hgap, hsplit⟩
  | cons c rest =>
    have hb : Text.isBlank c = false := by
      have hlast := List.head?_dropWhile_not Text.isBlank cs
      rw [hd] at hlast
      simpa using hlast
    rw [hd] at hplace hsplit
    rcases exists_lexeme_or_stops hb rest with ⟨l, after, hl, hend, he⟩ | ⟨reason, hs⟩
    · rw [he] at hplace hsplit
      have hshort : after.length < cs.length := by
        have := List.length_pos_iff.2 (Lexeme.spell_ne_nil hl)
        rw [← hsplit, List.length_append, List.length_append]
        omega
      rcases exists_layout_or_stops (hplace.lexeme hl hend) with
        ⟨layout, hv, hc⟩ | ⟨f, r, reason, hf, ho, hs⟩
      · refine .inl ⟨.lexeme (cs.takeWhile Text.isBlank) l layout, ⟨hgap, hl, ?_, hv⟩, ?_⟩
        · exact hv.ends_chars_iff.1 (by rwa [hc])
        · rw [Layout.chars, hc, hsplit]
      · refine .inr ⟨f, r, reason, ?_, ho, hs⟩
        rw [hf, List.append_assoc, List.append_assoc, hsplit]
    · exact .inr ⟨_, c :: rest, reason, by rw [List.append_assoc, hsplit], hplace, hs⟩
termination_by cs.length

/-! ## Scanning up to a place -/

namespace Scan

/-- Nothing that is open here goes on with a back-quote. -/
def Settled : Scan → List Char → Prop
  | .blank, _ => True
  | .word _ _, _ => True
  | .quoted _ _, _ => False
  | .quotedEnd _ _, rest => EndsQuote rest

theorem run_cons_of_step {s next : Scan} {position : Nat} {c : Char} {cs : List Char} {ended : List Token}
    (h : s.step position c = .ok (ended, next)) :
    s.run position (c :: cs) = (next.run (position + c.utf8Size) cs).map (ended ++ ·) := by
  rw [run, h]

section
variable {c : Char} {rest : List Char} (position : Nat)

/-- Where the text does not stop, a character outside quoted names starts or is a token, or is a blank. -/
theorem exists_start (hc : c ≠ quote) (hs : ∀ reason, ¬Stops (c :: rest) reason) :
    ∃ ended next, start position c = .ok (ended, next) ∧ next.Settled rest := by
  unfold start
  by_cases hb : Text.isBlank c = true
  · exact ⟨[], .blank, by rw [if_pos hb], trivial⟩
  · by_cases hw : isWordChar c = true
    · exact ⟨[], .word position [c], by rw [if_neg hb, if_pos hw], trivial⟩
    · rw [if_neg hb, if_neg hw, if_neg hc]
      cases hm : mark? c with
      | some m => exact ⟨_, _, rfl, trivial⟩
      | none => exact absurd (.stray (by simpa using hb) (by simpa using hw) hc hm) (hs _)

theorem Settled.exists_step {s : Scan} (h : s.Settled (c :: rest)) (hc : c ≠ quote)
    (hs : ∀ reason, ¬Stops (c :: rest) reason) :
    ∃ ended next, s.step position c = .ok (ended, next) ∧ next.Settled rest := by
  obtain ⟨ended, next, hstart, hnext⟩ := exists_start position hc hs
  cases s with
  | blank => exact ⟨ended, next, hstart, hnext⟩
  | word begin read =>
    by_cases hw : isWordChar c = true
    · exact ⟨[], .word begin (c :: read), by rw [step, if_pos hw], trivial⟩
    · exact ⟨_, next, by rw [step, if_neg hw, hstart]; rfl, hnext⟩
  | quoted begin read => exact h.elim
  | quotedEnd begin read => exact ⟨_, next, by rw [step, if_neg hc, hstart]; rfl, hnext⟩

theorem Settled.step_quote {s : Scan} (h : s.Settled (quote :: rest)) :
    ∃ ended, s.step position quote = .ok (ended, .quoted position []) := by
  cases s with
  | blank => exact ⟨[], rfl⟩
  | word begin read => exact ⟨_, rfl⟩
  | quoted begin read => exact h.elim
  | quotedEnd begin read => exact absurd rfl (h quote rfl)

/-- A quoted name is read to its end. -/
theorem Settled.run_name {s : Scan} {n : List Char}
    (h : s.Settled (quote :: (doubleQuotes n ++ quote :: rest))) :
    ∃ ended read, s.run position (quote :: (doubleQuotes n ++ quote :: rest)) =
      ((Scan.quotedEnd position read).run
        (position + byteLength (quote :: (doubleQuotes n ++ [quote]))) rest).map (ended ++ ·) := by
  obtain ⟨ended, hq⟩ := h.step_quote position
  have hend : ∀ p read, (Scan.quoted position read).step p quote = .ok ([], .quotedEnd position read) :=
    fun _ _ => rfl
  refine ⟨ended, n.reverse ++ [], ?_⟩
  rw [run_cons_of_step hq, run_quoted_append, run_cons_silent (hend _ _)]
  simp [Nat.add_assoc]

end

/-- A name that is not closed is open at the end of the text. -/
theorem run_unclosed (start : Nat) : (rest : List Char) →
    (∀ n after, rest = doubleQuotes n ++ quote :: after → ¬EndsQuote after) → ∀ position read,
      (Scan.quoted start read).run position rest = .error ⟨start, .openQuote⟩
  | [], _, _, _ => rfl
  | [c], h, position, read => by
    by_cases hc : c = quote
    · subst hc
      exact absurd (by simp [EndsQuote]) (h [] [] rfl)
    · have hs : (Scan.quoted start read).step position c = .ok ([], .quoted start (c :: read)) := by
        rw [step, if_neg hc]
      rw [run_cons_silent hs]
      rfl
  | c :: d :: cs, h, position, read => by
    by_cases hc : c = quote
    · subst hc
      by_cases hd : d = quote
      · -- Two back-quotes are one character of the name.
        subst hd
        have h1 : (Scan.quoted start read).step position quote = .ok ([], .quotedEnd start read) := rfl
        have h2 : ∀ p, (Scan.quotedEnd start read).step p quote =
          .ok ([], .quoted start (quote :: read)) := fun _ => rfl
        rw [run_cons_silent h1, run_cons_silent (h2 _)]
        exact run_unclosed start cs
          (fun n after he => h (quote :: n) after (by rw [he]; rfl)) _ _
      · have hend : EndsQuote (d :: cs) := by
          intro e he
          cases he
          exact hd
        exact absurd hend (h [] (d :: cs) rfl)
    · have hs : (Scan.quoted start read).step position c = .ok ([], .quoted start (c :: read)) := by
        rw [step, if_neg hc]
      have hd : ∀ n, doubleQuotes (c :: n) = c :: doubleQuotes n := by
        intro n
        simp [doubleQuotes, hc]
      rw [run_cons_silent hs]
      exact run_unclosed start (d :: cs)
        (fun n after he => h (c :: n) after (by rw [he, hd, List.cons_append])) _ _

/-- The scanner refuses a text where it stops. -/
theorem Settled.run_stops {s : Scan} {rest : List Char} {reason : ScanReason} (h : s.Settled rest)
    (hs : Stops rest reason) (position : Nat) : s.run position rest = .error ⟨position, reason⟩ := by
  cases hs with
  | @stray c rest hb hw hq hm =>
    have hstart : start position c = .error ⟨position, .strayCharacter c⟩ := by
      simp [start, hb, hw, hq, hm]
    cases s with
    | blank => rw [run, step, hstart]
    | word begin read => rw [run, step, hw, hstart]; rfl
    | quoted begin read => exact h.elim
    | quotedEnd begin read => rw [run, step, if_neg hq, hstart]; rfl
  | openQuote hopen =>
    obtain ⟨ended, hq⟩ := h.step_quote position
    rw [run_cons_of_step hq, run_unclosed position _ hopen]
    rfl

end Scan

theorem map_append_map {α : Type} {r : Except ScanFault (List α)} (xs ys : List α) :
    (r.map (ys ++ ·)).map (xs ++ ·) = r.map (xs ++ ys ++ ·) := by
  cases r with
  | error fault => rfl
  | ok zs => simp [Except.map]

/-- **The scanner comes to every place outside quoted names** that has none before it where the text stops. -/
theorem Outside.run {front rest : List Char} (h : Outside front rest)
    (hfirst : ∀ front' rest' reason, front' ++ rest' = front ++ rest → Outside front' rest' →
      Stops rest' reason → front.length ≤ front'.length) :
    ∃ ended s, Scan.Settled s rest ∧ Scan.blank.run 0 (front ++ rest) =
      (s.run (byteLength front) rest).map (ended ++ ·) := by
  induction h with
  | start text =>
    refine ⟨[], .blank, trivial, ?_⟩
    rw [List.nil_append, byteLength_nil]
    cases Scan.blank.run 0 text <;> rfl
  | @char front rest c h hc ih =>
    rw [List.append_assoc, List.singleton_append] at hfirst ⊢
    simp only [List.length_append, List.length_singleton] at hfirst
    obtain ⟨ended, s, hs, hrun⟩ := ih fun f r reason he ho hstop => by
      have := hfirst f r reason he ho hstop
      omega
    have hgoes : ∀ reason, ¬Stops (c :: rest) reason := fun reason hstop => by
      have := hfirst front (c :: rest) reason rfl h hstop
      omega
    obtain ⟨ended', next, hstep, hnext⟩ := hs.exists_step (byteLength front) hc hgoes
    refine ⟨ended ++ ended', next, hnext, ?_⟩
    rw [hrun, Scan.run_cons_of_step hstep, map_append_map, byteLength_append]
    rfl
  | @name front rest n h hend ih =>
    have he : front ++ quote :: (doubleQuotes n ++ [quote]) ++ rest =
        front ++ quote :: (doubleQuotes n ++ quote :: rest) := by simp
    rw [he] at hfirst ⊢
    obtain ⟨ended, s, hs, hrun⟩ := ih fun f r reason he' ho hstop => by
      have := hfirst f r reason he' ho hstop
      rw [List.length_append] at this
      omega
    obtain ⟨ended', read, hname⟩ := hs.run_name (byteLength front)
    refine ⟨ended ++ ended', .quotedEnd (byteLength front) read, hend, ?_⟩
    rw [hrun, hname, map_append_map, byteLength_append]

/-- **The scanner refuses a text at the first place where it stops.** -/
theorem IsFirstStop.scan_eq {text front rest : List Char} {fault : ScanFault}
    (h : IsFirstStop text fault front rest) : scan text = .error fault := by
  obtain ⟨rfl, ho, hs, hp, hfirst⟩ := h
  obtain ⟨ended, s, hsettled, hrun⟩ := ho.run hfirst
  rw [scan, hrun, hsettled.run_stops hs, ← hp]
  rfl

/-- If a text stops anywhere, it does so somewhere first. -/
theorem exists_isFirstStop {text front rest : List Char} {reason : ScanReason} (he : front ++ rest = text)
    (ho : Outside front rest) (hs : Stops rest reason) :
    ∃ fault front rest, IsFirstStop text fault front rest := by
  by_cases hfirst : ∀ front' rest' reason, front' ++ rest' = text → Outside front' rest' →
      Stops rest' reason → front.length ≤ front'.length
  · exact ⟨⟨byteLength front, reason⟩, front, rest, he, ho, hs, rfl, hfirst⟩
  · simp only [not_forall, Nat.not_le] at hfirst
    obtain ⟨front', rest', reason', he', ho', hs', hlt⟩ := hfirst
    exact exists_isFirstStop he' ho' hs'
termination_by front.length

/-! ## The tokens of a text -/

theorem scan_eq_ok_iff {text : List Char} {tokens : List Token} :
    scan text = .ok tokens ↔
      ∃ layout : Layout, layout.Valid ∧ layout.chars = text ∧ tokens = layout.tokens 0 := by
  constructor
  · intro h
    rcases exists_layout_or_stops (.start text) with ⟨layout, hv, rfl⟩ | ⟨front, rest, reason, he, ho, hs⟩
    · have hrun : scan layout.chars = .ok (layout.tokens 0) := hv.run 0
      rw [hrun, Except.ok.injEq] at h
      exact ⟨layout, hv, rfl, h.symm⟩
    · obtain ⟨fault, _, _, hfirst⟩ := exists_isFirstStop he ho hs
      rw [List.nil_append] at hfirst
      rw [hfirst.scan_eq] at h
      cases h
  · rintro ⟨layout, hv, rfl, rfl⟩
    exact hv.run 0

theorem scan_eq_error_iff {text : List Char} {fault : ScanFault} :
    scan text = .error fault ↔ ∃ front rest, IsFirstStop text fault front rest := by
  constructor
  · intro h
    rcases exists_layout_or_stops (.start text) with ⟨layout, hv, rfl⟩ | ⟨front, rest, reason, he, ho, hs⟩
    · have hrun : scan layout.chars = .ok (layout.tokens 0) := hv.run 0
      rw [hrun] at h
      cases h
    · obtain ⟨fault', front, rest, hfirst⟩ := exists_isFirstStop he ho hs
      rw [List.nil_append] at hfirst
      rw [hfirst.scan_eq, Except.error.injEq] at h
      exact ⟨front, rest, h ▸ hfirst⟩
  · rintro ⟨front, rest, h⟩
    exact h.scan_eq

/-- **The tokens of a text** are those of a layout of it, and it has one layout at most. A text without a
layout is refused at the leftmost place outside quoted names at which no token starts. -/
theorem tokensOf_exact (text : String) :
    (∀ tokens, tokensOf text = .ok tokens ↔
      ∃ layout : Layout, layout.Cuts text ∧ tokens = layout.tokens 0) ∧
    (∀ layout layout' : Layout, layout.Cuts text → layout'.Cuts text → layout = layout') ∧
    ∀ e, tokensOf text = .error e ↔ ∃ fault front rest, IsFirstStop text.toList fault front rest ∧
      e = .malformed text fault.position fault.reason.message := by
  refine ⟨fun tokens => ?_, fun _ _ h h' => h.unique h', fun e => ?_⟩
  · rw [tokensOf, mapError_eq_ok_iff, scan_eq_ok_iff]
    constructor
    · rintro ⟨layout, hv, hc, rfl⟩
      exact ⟨layout, ⟨hv, hc⟩, rfl⟩
    · rintro ⟨layout, ⟨hv, hc⟩, rfl⟩
      exact ⟨layout, hv, hc, rfl⟩
  · rw [tokensOf, mapError_eq_error_iff]
    simp only [scan_eq_error_iff]
    constructor
    · rintro ⟨fault, ⟨front, rest, h⟩, rfl⟩
      exact ⟨fault, front, rest, h, rfl⟩
    · rintro ⟨fault, front, rest, h, rfl⟩
      exact ⟨fault, ⟨front, rest, h⟩, rfl⟩

/-- A blank of two bytes, a quoted name with a back-quote and a letter of two bytes, and a word. -/
def accentText : String := "\u00a0\x60é\x60\x60 \x60,x"

def accentLayout : Layout :=
  .lexeme ['\u00a0'] (.quoted "é\x60 ") (.lexeme [] .comma (.lexeme [] (.word "x") (.blanks [])))

theorem tokensOf_accentText :
    accentLayout.Cuts accentText ∧
    tokensOf accentText = .ok [⟨.quoted "é\x60 ", 2⟩, ⟨.comma, 9⟩, ⟨.word "x", 10⟩] ∧
    (∀ layout : Layout, layout.Cuts accentText → layout = accentLayout) ∧
    ∃ fault front rest, IsFirstStop "x \x60y\x60\x60+".toList fault front rest ∧ fault.position = 2 := by
  have hgap : IsGap ['\u00a0'] := List.forall_mem_singleton.2 (by decide)
  have hword : (Lexeme.word "x").Proper := ⟨by decide, List.all_eq_true.1 rfl⟩
  have hvalid : accentLayout.Valid :=
    ⟨hgap, trivial, by simp [Layout.touching?, Lexeme.Apart], by simp [IsGap], trivial,
      by simp [Layout.touching?, Lexeme.Apart], by simp [IsGap], hword, by simp [Layout.touching?],
      by simp [Layout.Valid, IsGap]⟩
  have hcuts : accentLayout.Cuts accentText := ⟨hvalid, by decide +kernel⟩
  have hopen : tokensOf "x \x60y\x60\x60+" =
      .error (.malformed "x \x60y\x60\x60+" 2 "unterminated quoted identifier") := by decide +kernel
  have htokens := ((tokensOf_exact accentText).1 _).2 ⟨accentLayout, hcuts, rfl⟩
  obtain ⟨fault, front, rest, h, he⟩ := ((tokensOf_exact _).2.2 _).1 hopen
  refine ⟨hcuts, ?_, fun layout h => (tokensOf_exact _).2.1 layout accentLayout h hcuts, fault, front, rest, h, ?_⟩
  · rw [htokens]
    decide +kernel
  · exact (SchemaError.malformed.inj he).2.1.symm

end SchemaBridge.Hive
