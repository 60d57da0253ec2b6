import SchemaBridge.Json.Printer
import SchemaBridge.Json.Reader
import SchemaBridge.Proofs.Text.Numeral

/-!
# Printed values are read back

`tokens j` are the tokens of the value `j`. `Spells cs ts`: the scanner finds the tokens `ts` in the text `cs`,
in front of any text that ends a bare word. A value is printed as a text that spells its tokens, however deep
the indent is (`spells_prettyAt`), and the tokens of a value are put together to it again
(`Place.run_tokens`). Main statement: `read?_pretty`, a value whose numbers are integers is read back.
-/

namespace SchemaBridge.Json

/-! ## Values whose numbers are integers -/

mutual

/-- Every number in the value is an integer, and so has one spelling only. -/
def Integral : Json → Prop
  | number (.real _) => False
  | array items => IntegralItems items
  | object members => IntegralMembers members
  | _ => True

def IntegralItems : List Json → Prop
  | [] => True
  | item :: items => item.Integral ∧ IntegralItems items

def IntegralMembers : List (String × Json) → Prop
  | [] => True
  | (_, value) :: members => value.Integral ∧ IntegralMembers members

end

theorem integral_array_iff {items : List Json} :
    (array items).Integral ↔ ∀ item ∈ items, item.Integral := by
  rw [Integral]
  induction items with
  | nil => simp [IntegralItems]
  | cons item items ih => rw [IntegralItems, ih, List.forall_mem_cons]

theorem integral_object_iff {members : List (String × Json)} :
    (object members).Integral ↔ ∀ m ∈ members, m.2.Integral := by
  rw [Integral]
  induction members with
  | nil => simp [IntegralMembers]
  | cons m members ih => rw [IntegralMembers, ih, List.forall_mem_cons]

/-! ## Tokens of a value -/

mutual

/-- The tokens of a value. -/
def tokens : Json → List Token
  | array [] => [.openArray, .closeArray]
  | array (item :: items) => .openArray :: (item.tokens ++ (itemTokens items ++ [.closeArray]))
  | object [] => [.openObject, .closeObject]
  | object ((key, value) :: members) => .openObject :: .scalar (.string key) :: .colon ::
      (value.tokens ++ (memberTokens members ++ [.closeObject]))
  | j => [.scalar j]

/-- The tokens of the items after the first one. -/
def itemTokens : List Json → List Token
  | [] => []
  | item :: items => .comma :: (item.tokens ++ itemTokens items)

/-- The tokens of the members after the first one. -/
def memberTokens : List (String × Json) → List Token
  | [] => []
  | (key, value) :: members =>
    .comma :: .scalar (.string key) :: .colon :: (value.tokens ++ memberTokens members)

end

/-! ## Scanning bare words -/

/-- A character that can stand in a bare word: a number or a name without quotes. -/
def isBare (c : Char) : Bool := !(Scan.isGap c || c == '"' || (Scan.mark? c).isSome)

/-- The rest of a text does not continue a bare word. -/
def EndsBare (rest : List Char) : Prop := ∀ c ∈ rest.head?, isBare c = false

theorem endsBare_nil : EndsBare [] := by
  simp [EndsBare]

theorem endsBare_cons {c : Char} (h : isBare c = false) (cs : List Char) : EndsBare (c :: cs) := by
  simpa [EndsBare] using h

theorem EndsBare.append {cs rest : List Char} (hc : EndsBare cs) (hr : EndsBare rest) :
    EndsBare (cs ++ rest) := by
  cases cs with
  | nil => exact hr
  | cons c cs => exact hc

namespace Scan

/-- A character that ends no token. -/
theorem run_cons_silent {s next : Scan} {c : Char} {cs : List Char} (h : s.step c = some ([], next)) :
    s.run (c :: cs) = next.run cs := by
  rw [run, h]
  cases hr : next.run cs <;> simp [hr]

theorem run_gap {c : Char} (h : isGap c = true) (cs : List Char) : gap.run (c :: cs) = gap.run cs :=
  run_cons_silent (by rw [step, start, if_pos h])

theorem mark?_eq_some {c : Char} {mark : Token} (h : mark? c = some mark) :
    isGap c = false ∧ c ≠ '"' := by
  unfold mark? at h
  split at h
  all_goals cases h
  all_goals decide

theorem run_mark {c : Char} {mark : Token} (h : mark? c = some mark) (cs : List Char) :
    gap.run (c :: cs) = (gap.run cs).map (mark :: ·) := by
  obtain ⟨hg, hq⟩ := mark?_eq_some h
  rw [run, step, start, hg, if_neg (by decide), if_neg hq, h]
  rfl

theorem run_bare_append {w rest : List Char} (hw : ∀ c ∈ w, isBare c = true) (read : List Char) :
    (bare read).run (w ++ rest) = (bare (w.reverse ++ read)).run rest := by
  induction w generalizing read with
  | nil => rfl
  | cons c w ih =>
    obtain ⟨hc, hw⟩ := List.forall_mem_cons.1 hw
    have hs : (bare read).step c = some ([], .bare (c :: read)) := by
      rw [isBare, Bool.not_eq_true'] at hc
      rw [step, bareStep, hc]
      rfl
    rw [List.cons_append, run_cons_silent hs, ih hw, List.reverse_cons, List.append_assoc]
    rfl

/-- Where a bare word ends the scanner goes on as it would without it. -/
theorem run_bare_end {read rest : List Char} {v : Json} (hr : EndsBare rest)
    (hv : bareValue? read.reverse = some v) :
    (bare read).run rest = (gap.run rest).map (.scalar v :: ·) := by
  cases rest with
  | nil => simp [run, finish, hv]
  | cons c cs =>
    have hc : (isGap c || c == '"' || (mark? c).isSome) = true := by
      have := hr c rfl
      rwa [isBare, Bool.not_eq_false'] at this
    rw [run, run, step, step, bareStep, if_pos hc, hv]
    cases start c with
    | none => rfl
    | some r =>
      obtain ⟨tokens, next⟩ := r
      show Option.map _ (next.run cs) = Option.map _ (Option.map _ (next.run cs))
      rw [Option.map_map]
      rfl

end Scan

/-! ## Texts that spell tokens -/

/-- In front of a text that ends a bare word the scanner finds these tokens, and it goes on with this text. -/
def Spells (cs : List Char) (ts : List Token) : Prop :=
  ∀ rest, EndsBare rest → Scan.gap.run (cs ++ rest) = (Scan.gap.run rest).map (ts ++ ·)

section
variable {cs ds : List Char} {ts us : List Token}

theorem spells_nil : Spells [] [] := by
  intro rest _
  cases h : Scan.gap.run rest <;> simp [h]

theorem Spells.append (hc : Spells cs ts) (hd : Spells ds us) (he : EndsBare ds) :
    Spells (cs ++ ds) (ts ++ us) := by
  intro rest hr
  rw [List.append_assoc, hc _ (he.append hr), hd _ hr, Option.map_map]
  simp [Function.comp_def]

theorem Spells.mark (h : Spells cs ts) {c : Char} {m : Token} (hm : Scan.mark? c = some m) :
    Spells (c :: cs) (m :: ts) := by
  intro rest hr
  rw [List.cons_append, Scan.run_mark hm, h _ hr, Option.map_map]
  rfl

theorem Spells.gap (h : Spells cs ts) {c : Char} (hc : Scan.isGap c = true) : Spells (c :: cs) ts := by
  intro rest hr
  rw [List.cons_append, Scan.run_gap hc, h _ hr]

theorem Spells.newLine (h : Spells cs ts) (level : Nat) : Spells ((newLine level).toList ++ cs) ts := by
  rw [Json.newLine, String.toList_ofList]
  refine Spells.gap ?_ rfl
  induction 2 * level with
  | zero => exact h
  | succ n ih => exact ih.gap rfl

/-- A bare word is one token. -/
theorem spells_bare {w : List Char} {v : Json} (hne : w ≠ []) (hw : ∀ c ∈ w, isBare c = true)
    (hv : bareValue? w = some v) : Spells w [.scalar v] := by
  intro rest hr
  obtain ⟨c, w, rfl⟩ := List.exists_cons_of_ne_nil hne
  obtain ⟨hc, hw⟩ := List.forall_mem_cons.1 hw
  have hs : Scan.gap.step c = some ([], .bare [c]) := by
    simp only [isBare, Bool.not_eq_true', Bool.or_eq_false_iff, beq_eq_false_iff_ne,
      Option.isSome_eq_false_iff, Option.isNone_iff_eq_none] at hc
    obtain ⟨⟨hg, hq⟩, hm⟩ := hc
    rw [Scan.step, Scan.start, hg, if_neg (by decide), if_neg hq, hm]
  rw [List.cons_append, Scan.run_cons_silent hs, Scan.run_bare_append hw,
    Scan.run_bare_end hr (by simpa using hv)]
  rfl

end

/-! ## Strings -/

theorem hexValue?_hexDigit : ∀ n < 16, Text.hexValue? (hexDigit n) = some n := by
  decide

namespace Scan

section
variable (read rest : List Char)

/-- A character after a backslash. -/
theorem run_escaped {e c : Char} (h : escaped? e = some c) (hu : e ≠ 'u') :
    (text read).run ('\\' :: e :: rest) = (text (c :: read)).run rest := by
  have hb : (text read).step '\\' = some ([], .escape read) := rfl
  have he : (Scan.escape read).step e = some ([], .text (c :: read)) := by
    rw [step, if_neg hu, h]
    rfl
  rw [run_cons_silent hb, run_cons_silent he]

/-- A control character as an escape of four digits. -/
theorem run_control {c : Char} (h : c.toNat < 0x20) :
    (text read).run
        ('\\' :: 'u' :: '0' :: '0' :: hexDigit (c.toNat / 16) :: hexDigit (c.toNat % 16) :: rest) =
      (text (c :: read)).run rest := by
  have hb : (text read).step '\\' = some ([], .escape read) := rfl
  have hu : (Scan.escape read).step 'u' = some ([], .unicode read none 3 0) := rfl
  have h3 : (unicode read none 3 0).step '0' = some ([], .unicode read none 2 0) := rfl
  have h2 : (unicode read none 2 0).step '0' = some ([], .unicode read none 1 0) := rfl
  have h1 : (unicode read none 1 0).step (hexDigit (c.toNat / 16)) =
      some ([], .unicode read none 0 (c.toNat / 16)) := by
    rw [step, hexValue?_hexDigit _ (by omega)]
    simp
  have h0 : (unicode read none 0 (c.toNat / 16)).step (hexDigit (c.toNat % 16)) =
      some ([], .text (c :: read)) := by
    have hv : 16 * (c.toNat / 16) + c.toNat % 16 = c.toNat := Nat.div_add_mod ..
    rw [step, hexValue?_hexDigit _ (by omega)]
    simp only [Option.bind_eq_bind, Option.bind_some, hv]
    rw [unicodeEnd, if_neg (by omega), if_neg (by omega), Char.ofNat_toNat]
    rfl
  rw [run_cons_silent hb, run_cons_silent hu, run_cons_silent h3, run_cons_silent h2, run_cons_silent h1,
    run_cons_silent h0]

/-- A character of a string is read back from its escape. -/
theorem run_escape (c : Char) : (text read).run (Json.escape c ++ rest) = (text (c :: read)).run rest := by
  unfold Json.escape
  -- The escapes of one character.
  iterate 7
    split
    next h => subst h; exact run_escaped read rest rfl (by decide)
  split
  next h => exact run_control read rest h
  next hq hb _ _ _ _ _ hc =>
    have hs : (text read).step c = some ([], .text (c :: read)) := by
      rw [step, textStep, if_neg hq, if_neg hb, if_neg hc]
    rw [List.singleton_append, run_cons_silent hs]

end

theorem run_text_append (cs read rest : List Char) :
    (text read).run (cs.flatMap Json.escape ++ rest) = (text (cs.reverse ++ read)).run rest := by
  induction cs generalizing read with
  | nil => rfl
  | cons c cs ih =>
    rw [List.flatMap_cons, List.append_assoc, run_escape, ih, List.reverse_cons, List.append_assoc]
    rfl

end Scan

/-- A string in its quotes is one token. -/
theorem Spells.quoted {cs : List Char} {ts : List Token} (h : Spells cs ts) (text : String) :
    Spells ((quoted text).toList ++ cs) (.scalar (.string text) :: ts) := by
  intro rest hr
  have ho : Scan.gap.step '"' = some ([], .text []) := rfl
  have he : ∀ read, (Scan.text read).step '"' =
    some ([.scalar (.string (String.ofList read.reverse))], .gap) := fun _ => rfl
  rw [Json.quoted, String.toList_ofList, List.cons_append, List.cons_append, Scan.run_cons_silent ho,
    List.append_assoc, List.append_assoc, Scan.run_text_append, List.singleton_append, Scan.run, he,
    List.append_nil, List.reverse_reverse, String.ofList_toList]
  show Option.map _ (Scan.gap.run (cs ++ rest)) = _
  rw [h _ hr, Option.map_map]
  rfl

/-! ## Numbers -/

theorem isBare_of_isDigit {c : Char} (h : c.isDigit = true) : isBare c = true := by
  have hall : ∀ n < 58, 48 ≤ n → isBare (Char.ofNat n) = true := by decide
  simp only [Char.isDigit, Bool.and_eq_true, decide_eq_true_eq, ge_iff_le, UInt32.le_iff_toNat_le] at h
  rw [← Char.ofNat_toNat c]
  exact hall _ (Nat.lt_succ_of_le h.2) h.1

/-- No digits of a positive number start with a zero. -/
theorem head?_toDigits_ne {n : Nat} (h : 0 < n) : (Nat.toDigits 10 n).head? ≠ some '0' := by
  induction n using Nat.strongRecOn with
  | _ n ih =>
    by_cases hn : n < 10
    · have hall : ∀ m < 10, 0 < m → some m.digitChar ≠ some '0' := by decide
      rw [Nat.toDigits_of_lt_base hn]
      exact hall n hn h
    · have hfront := ih (n / 10) (by omega) (by omega)
      obtain ⟨c, cs, hcs⟩ := List.exists_cons_of_ne_nil (Nat.toDigits_ne_nil (n := n / 10) (b := 10))
      rw [hcs] at hfront
      rw [Nat.toDigits_of_base_le (by decide) (by omega), hcs]
      exact hfront

theorem isWhole_of_isDigit {cs : List Char} (hne : cs ≠ []) (hd : ∀ c ∈ cs, c.isDigit = true)
    (h0 : cs.head? ≠ some '0') : isWhole cs = true := by
  unfold isWhole
  split
  · exact absurd rfl hne
  · rfl
  · exact absurd rfl h0
  · exact List.all_eq_true.2 hd

section
variable (n : Nat)

theorem isDigit_of_mem_toDigits {c : Char} (h : c ∈ Nat.toDigits 10 n) : c.isDigit = true :=
  Nat.isDigit_of_mem_toDigits (by decide) (by decide) h

theorem isWhole_toDigits : isWhole (Nat.toDigits 10 n) = true := by
  by_cases hn : n = 0
  · subst hn
    rfl
  · exact isWhole_of_isDigit Nat.toDigits_ne_nil (fun _ => isDigit_of_mem_toDigits n)
      (head?_toDigits_ne (by omega))

theorem digitsValue?_toDigits : Text.digitsValue? 0 (Nat.toDigits 10 n) = some n :=
  Text.digitsValue?_eq_some_iff.2
    ⟨fun _ => isDigit_of_mem_toDigits n, Nat.ofDigitChars_ten_toDigits⟩

theorem number?_toDigits : number? (Nat.toDigits 10 n) = some (.integer n) := by
  unfold number?
  split
  · rename_i magnitude h
    have hd := isDigit_of_mem_toDigits n (c := '-') (by rw [h]; exact List.mem_cons_self ..)
    exact absurd hd (by decide)
  · rw [if_pos (isWhole_toDigits n), digitsValue?_toDigits]
    rfl

theorem number?_neg_toDigits (h : 0 < n) : number? ('-' :: Nat.toDigits 10 n) = some (.integer (-(n : Int))) := by
  have h0 : (Nat.toDigits 10 n == ['0']) = false := by
    rw [beq_eq_false_iff_ne]
    intro he
    exact head?_toDigits_ne h (by rw [he]; rfl)
  rw [number?, h0, if_neg (by decide), if_pos (isWhole_toDigits n), digitsValue?_toDigits]
  rfl

end

/-- A word that has neither of three letters is no name. -/
theorem bareValue?_eq_number? {cs : List Char} (hn : 'n' ∉ cs) (ht : 't' ∉ cs) (hf : 'f' ∉ cs) :
    bareValue? cs = (number? cs).map .number := by
  have hnull : (cs == "null".toList) = false := beq_eq_false_iff_ne.2 fun h => hn (by rw [h]; decide)
  have htrue : (cs == "true".toList) = false := beq_eq_false_iff_ne.2 fun h => ht (by rw [h]; decide)
  have hfalse : (cs == "false".toList) = false := beq_eq_false_iff_ne.2 fun h => hf (by rw [h]; decide)
  rw [bareValue?, hnull, htrue, hfalse]
  rfl

/-- An integer is one token. -/
theorem spells_integer (value : Int) :
    Spells (toString value).toList [.scalar (.number (.integer value))] := by
  have hdigit : ∀ n, ∀ c ∈ Nat.toDigits 10 n, c.isDigit = true := fun n _ => isDigit_of_mem_toDigits n
  have hletter : ∀ n c, c.isDigit = false → c ∉ Nat.toDigits 10 n := by
    intro n c hc hm
    rw [hdigit n c hm] at hc
    cases hc
  cases value with
  | ofNat n =>
    have hl : (toString (Int.ofNat n)).toList = Nat.toDigits 10 n := Nat.toList_repr
    rw [hl]
    refine spells_bare Nat.toDigits_ne_nil (fun c hc => isBare_of_isDigit (hdigit n c hc)) ?_
    rw [bareValue?_eq_number? (hletter n _ rfl) (hletter n _ rfl) (hletter n _ rfl), number?_toDigits]
    rfl
  | negSucc n =>
    have hl : (toString (Int.negSucc n)).toList = '-' :: Nat.toDigits 10 (n + 1) := by
      show ("-" ++ (n + 1).repr).toList = _
      rw [String.toList_append, Nat.toList_repr]
      rfl
    have hw : ∀ c ∈ '-' :: Nat.toDigits 10 (n + 1), isBare c = true := by
      rw [List.forall_mem_cons]
      exact ⟨by decide, fun c hc => isBare_of_isDigit (hdigit _ c hc)⟩
    have hl' : ∀ c : Char, c.isDigit = false → c ≠ '-' → c ∉ '-' :: Nat.toDigits 10 (n + 1) := by
      intro c hc hne hm
      exact (List.mem_cons.1 hm).elim hne (hletter _ c hc)
    rw [hl]
    refine spells_bare (by simp) hw ?_
    rw [bareValue?_eq_number? (hl' _ rfl (by decide)) (hl' _ rfl (by decide)) (hl' _ rfl (by decide)),
      number?_neg_toDigits _ (Nat.succ_pos n)]
    rfl

/-! ## Printed values -/

theorem endsBare_newLine (level : Nat) (cs : List Char) : EndsBare ((newLine level).toList ++ cs) := by
  rw [newLine, String.toList_ofList]
  exact endsBare_cons rfl _

theorem endsBare_prettyItems {level : Nat} {cs : List Char} (h : EndsBare cs) (items : List Json) :
    EndsBare ((prettyItems level items).toList ++ cs) := by
  cases items with
  | nil => simpa [prettyItems] using h
  | cons item items => simpa [prettyItems] using endsBare_cons rfl _

theorem endsBare_prettyMembers {level : Nat} {cs : List Char} (h : EndsBare cs)
    (members : List (String × Json)) : EndsBare ((prettyMembers level members).toList ++ cs) := by
  cases members with
  | nil => simpa [prettyMembers] using h
  | cons m members => simpa [prettyMembers] using endsBare_cons rfl _

theorem spells_close {c : Char} {m : Token} (hm : Scan.mark? c = some m) (level : Nat) :
    Spells ((newLine level).toList ++ [c]) [m] :=
  (spells_nil.mark hm).newLine level

mutual

/-- **A printed value spells its tokens**, at every nesting. -/
theorem spells_prettyAt (level : Nat) : (j : Json) → j.Integral → Spells (j.prettyAt level).toList j.tokens
  | .null, _ | .bool true, _ | .bool false, _ => by
    rw [prettyAt]
    exact spells_bare (by simp) (List.all_eq_true.1 rfl) rfl
  | .number (.integer value), _ => by
    rw [prettyAt]
    exact spells_integer value
  | .string text, _ => by
    have h := spells_nil.quoted text
    rw [List.append_nil] at h
    rwa [prettyAt]
  | .array [], _ => by
    rw [prettyAt, tokens]
    exact (spells_nil.mark (c := ']') rfl).mark (c := '[') rfl
  | .array (item :: items), h => by
    have hclose := spells_close (c := ']') rfl level
    have hitems := (spells_prettyItems (level + 1) items h.2).append hclose (endsBare_newLine _ _)
    have hitem := (spells_prettyAt (level + 1) item h.1).append hitems
      (endsBare_prettyItems (endsBare_newLine _ _) items)
    have hall := (hitem.newLine (level + 1)).mark (c := '[') rfl
    simpa [prettyAt, tokens] using hall
  | .object [], _ => by
    rw [prettyAt, tokens]
    exact (spells_nil.mark (c := '\x7d') rfl).mark (c := '\x7b') rfl
  | .object ((key, value) :: members), h => by
    have hclose := spells_close (c := '\x7d') rfl level
    have hmembers := (spells_prettyMembers (level + 1) members h.2).append hclose (endsBare_newLine _ _)
    have hvalue := (spells_prettyAt (level + 1) value h.1).append hmembers
      (endsBare_prettyMembers (endsBare_newLine _ _) members)
    have hkey := ((hvalue.gap (c := ' ') rfl).mark (c := ':') rfl).quoted key
    have hall := (hkey.newLine (level + 1)).mark (c := '\x7b') rfl
    simpa [prettyAt, tokens] using hall

theorem spells_prettyItems (level : Nat) : (items : List Json) → IntegralItems items →
    Spells (prettyItems level items).toList (itemTokens items)
  | [], _ => by
    rw [prettyItems, itemTokens]
    exact spells_nil
  | item :: items, h => by
    have hitem := (spells_prettyAt level item h.1).append (spells_prettyItems level items h.2) (by
      simpa using endsBare_prettyItems endsBare_nil items)
    have hall := (hitem.newLine level).mark (c := ',') rfl
    simpa [prettyItems, itemTokens] using hall

theorem spells_prettyMembers (level : Nat) : (members : List (String × Json)) → IntegralMembers members →
    Spells (prettyMembers level members).toList (memberTokens members)
  | [], _ => by
    rw [prettyMembers, memberTokens]
    exact spells_nil
  | (key, value) :: members, h => by
    have hvalue := (spells_prettyAt level value h.1).append (spells_prettyMembers level members h.2) (by
      simpa using endsBare_prettyMembers endsBare_nil members)
    have hkey := ((hvalue.gap (c := ' ') rfl).mark (c := ':') rfl).quoted key
    have hall := (hkey.newLine level).mark (c := ',') rfl
    simpa [prettyMembers, memberTokens] using hall

end

/-! ## Putting tokens together -/

namespace Place

/-- No value starts with the end of an array. -/
theorem run_firstItem (stack : List Frame) (j : Json) (ts : List Token) :
    (Place.firstItem stack).run (j.tokens ++ ts) = (Place.value (.items [] :: stack)).run (j.tokens ++ ts) := by
  match j with
  | .array [] | .object [] | .null | .bool _ | .number _ | .string _ => rfl
  | .array (item :: items) => rw [tokens]; rfl
  | .object ((name, v) :: members) => rw [tokens]; rfl

mutual

/-- **The tokens of a value are put together to it.** -/
theorem run_tokens (stack : List Frame) (ts : List Token) : (j : Json) →
    (Place.value stack).run (j.tokens ++ ts) = (Place.after j stack).run ts
  | .null | .bool _ | .number _ | .string _ | .array [] | .object [] => rfl
  | .array (item :: items) => by
    have hfirst : (Place.value stack).run ((array (item :: items)).tokens ++ ts) =
        (Place.firstItem stack).run (item.tokens ++ (itemTokens items ++ .closeArray :: ts)) := by
      rw [tokens, List.cons_append, List.append_assoc, List.append_assoc]
      rfl
    rw [hfirst, run_firstItem, run_tokens _ _ item, run_itemTokens]
    rfl
  | .object ((name, v) :: members) => by
    have hfirst : (Place.value stack).run ((object ((name, v) :: members)).tokens ++ ts) =
        (Place.value (.member [] name :: stack)).run
          (v.tokens ++ (memberTokens members ++ .closeObject :: ts)) := by
      rw [tokens, List.cons_append, List.cons_append, List.cons_append, List.append_assoc, List.append_assoc]
      rfl
    rw [hfirst, run_tokens _ _ v, run_memberTokens]
    rfl

theorem run_itemTokens (stack : List Frame) (ts : List Token) (done : List Json) (item : Json) :
    (items : List Json) →
    (Place.after item (.items done :: stack)).run (itemTokens items ++ .closeArray :: ts) =
      (Place.after (.array (done.reverse ++ item :: items)) stack).run ts
  | [] => by
    have hclose : (Place.after item (.items done :: stack)).run (itemTokens [] ++ .closeArray :: ts) =
        (Place.after (.array (item :: done).reverse) stack).run ts := rfl
    rw [hclose, List.reverse_cons]
  | next :: items => by
    have hcomma : (Place.after item (.items done :: stack)).run
          (itemTokens (next :: items) ++ .closeArray :: ts) =
        (Place.value (.items (item :: done) :: stack)).run
          (next.tokens ++ (itemTokens items ++ .closeArray :: ts)) := by
      rw [itemTokens, List.cons_append, List.append_assoc]
      rfl
    rw [hcomma, run_tokens _ _ next, run_itemTokens _ _ _ _ items, List.reverse_cons, List.append_assoc]
    rfl

theorem run_memberTokens (stack : List Frame) (ts : List Token) (done : List (String × Json)) (name : String)
    (v : Json) : (members : List (String × Json)) →
    (Place.after v (.member done name :: stack)).run (memberTokens members ++ .closeObject :: ts) =
      (Place.after (.object (done.reverse ++ (name, v) :: members)) stack).run ts
  | [] => by
    have hclose : (Place.after v (.member done name :: stack)).run (memberTokens [] ++ .closeObject :: ts) =
        (Place.after (.object ((name, v) :: done).reverse) stack).run ts := rfl
    rw [hclose, List.reverse_cons]
  | (name', next) :: members => by
    have hcomma : (Place.after v (.member done name :: stack)).run
          (memberTokens ((name', next) :: members) ++ .closeObject :: ts) =
        (Place.value (.member ((name, v) :: done) name' :: stack)).run
          (next.tokens ++ (memberTokens members ++ .closeObject :: ts)) := by
      rw [memberTokens, List.cons_append, List.cons_append, List.cons_append, List.append_assoc]
      rfl
    rw [hcomma, run_tokens _ _ next, run_memberTokens _ _ _ _ _ members, List.reverse_cons, List.append_assoc]
    rfl

end

end Place

/-! ## Reading -/

theorem read?_of_spells {text : String} {j : Json} (h : Spells text.toList j.tokens) : read? text = some j := by
  have hs := h [] endsBare_nil
  have hp := Place.run_tokens [] [] j
  rw [List.append_nil] at hs hp
  rw [read?, hs]
  simp only [Scan.run, Scan.finish, Option.map_some, List.append_nil, Option.bind_some, hp]
  rfl

/-- **A printed value is read back**, from a line of its own. -/
theorem read?_pretty {j : Json} (h : j.Integral) : read? (j.pretty ++ "\n") = some j := by
  have hline : Spells ['\n'] [] := spells_nil.gap rfl
  have hj := (spells_prettyAt 0 j h).append hline (endsBare_cons rfl _)
  rw [List.append_nil] at hj
  exact read?_of_spells (by rwa [pretty, String.toList_append])

end SchemaBridge.Json
