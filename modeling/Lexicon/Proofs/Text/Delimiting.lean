/-
What stands between the quotes of a literal. `Spells` is the grammar: a character other than a quote and a backslash
stands for itself, and a backslash introduces an escape, which is a letter, one of the three characters that escape
themselves, or a code point of one to six digits (`Denotes`). A reader of literals follows it exactly: what is spelled
is read, and what is read was spelled (`readFrom_eq_some`); so a spelling has one value. `untilQuote?` knows nothing of
values: it looks for the first quote without a backslash that escapes it. Inside of a spelling there is none
(`untilQuote?_spells`), as the digits and braces of a code point are no quotes.

Results: `literals_self_delimiting`.
-/
import Lexicon.Proofs.Text.Literal

namespace Lexicon.Hex

theorem valueFrom_snoc (n : Nat) (ds : List Char) (c : Char) :
    valueFrom n (ds ++ [c]) = (valueFrom n ds).bind fun m => (digitValue? c).map fun d => 16 * m + d := by
  induction ds generalizing n with
  | nil =>
    simp only [List.nil_append, valueFrom, Option.bind_some]
    cases digitValue? c <;> rfl
  | cons e es ih =>
    simp only [List.cons_append, valueFrom]
    cases digitValue? e with
    | none => rfl
    | some d => exact ih (16 * n + d)

theorem isDigit_of_valueFrom {n m : Nat} {ds : List Char} (h : valueFrom n ds = some m) :
    ∀ c ∈ ds, isDigit c = true := by
  induction ds generalizing n with
  | nil => simp
  | cons e es ih =>
    simp only [valueFrom] at h
    cases he : digitValue? e with
    | none => simp [he] at h
    | some d =>
      rw [he] at h
      intro c hc
      rcases List.mem_cons.1 hc with rfl | hc
      · simp [isDigit, he]
      · exact ih h c hc

theorem value?_eq_some {ds : List Char} {n : Nat} : value? ds = some n ↔ ds ≠ [] ∧ valueFrom 0 ds = some n := by
  cases ds <;> simp [value?]

end Lexicon.Hex

namespace Lexicon.Literal

open Lexicon.Hex

/-! ## the grammar -/

/-- what stands behind the backslash of an escape, and the character it denotes -/
inductive Denotes : List Char → Char → Prop where
  | tab : Denotes ['t'] '\t'
  | carriageReturn : Denotes ['r'] '\r'
  | newline : Denotes ['n'] '\n'
  | apostrophe : Denotes ['\x27'] '\x27'
  | quote : Denotes ['"'] '"'
  | backslash : Denotes ['\\'] '\\'
  | codePoint {ds : List Char} {n : Nat} (hdigits : value? ds = some n) (hcount : ds.length ≤ 6)
      (hvalid : n.isValidChar) : Denotes ('u' :: '{' :: ds ++ ['}']) (Char.ofNat n)

/-- the text between two quotes, and the value that it spells -/
inductive Spells : List Char → List Char → Prop where
  | nil : Spells [] []
  | plain {c : Char} {written value : List Char} (hquote : c ≠ '"') (hbackslash : c ≠ '\\')
      (h : Spells written value) : Spells (c :: written) (c :: value)
  | escaped {escape written value : List Char} {c : Char} (hc : Denotes escape c) (h : Spells written value) :
      Spells ('\\' :: escape ++ written) (c :: value)

/-! ## what is spelled is read -/

theorem readFrom_valueFrom {ds : List Char} {value n : Nat} (count : Nat) (h : valueFrom value ds = some n)
    (rest : List Char) :
    readFrom (.digits count value) (ds ++ rest) = readFrom (.digits (count + ds.length) n) rest := by
  induction ds generalizing count value with
  | nil =>
    obtain rfl := Option.some.inj h
    rfl
  | cons c cs ih =>
    simp only [valueFrom] at h
    cases hc : digitValue? c with
    | none => simp [hc] at h
    | some d =>
      rw [hc] at h
      have hbrace : c ≠ '}' := by
        rintro rfl
        cases hc
      have hrest := ih (count + 1) h
      rw [Nat.add_assoc, Nat.add_comm 1] at hrest
      simpa [readFrom, hbrace, hc] using hrest

theorem readFrom_denotes {escape : List Char} {c : Char} (h : Denotes escape c) (rest : List Char) :
    readFrom .begun (escape ++ rest) = put c (readFrom .outside rest) := by
  cases h with
  | @codePoint ds n hdigits hcount hvalid =>
    obtain ⟨hne, hvalue⟩ := value?_eq_some.1 hdigits
    have hread := readFrom_valueFrom 0 hvalue ('}' :: rest)
    simp only [List.cons_append, List.append_assoc, List.nil_append]
    change readFrom (.digits 0 0) (ds ++ '}' :: rest) = _
    rw [hread]
    simp [readFrom, codePoint?, hcount, hvalid, Nat.one_le_iff_ne_zero, hne]
  | _ => rfl

theorem readFrom_spells {written value : List Char} (h : Spells written value) (rest : List Char) :
    readFrom .outside (written ++ '"' :: rest) = some (value, rest) := by
  induction h with
  | nil => rfl
  | plain hquote hbackslash _ ih => simp [readFrom, hquote, hbackslash, ih, put]
  | escaped hc _ ih =>
    simp only [List.cons_append, List.append_assoc]
    change readFrom .begun (_ ++ _) = _
    rw [readFrom_denotes hc, ih]
    rfl

/-! ## what is read was spelled -/

/-- what a reader has passed since it was last outside of escapes -/
def Escape.Passed : Escape → List Char → Prop
  | .outside, passed => passed = []
  | .begun, passed => passed = ['\\']
  | .lettered, passed => passed = ['\\', 'u']
  | .digits count value, passed =>
    ∃ ds, passed = '\\' :: 'u' :: '{' :: ds ∧ ds.length = count ∧ valueFrom 0 ds = some value

theorem denotes_of_shortEscape? {c d : Char} (h : shortEscape? c = some d) : Denotes [c] d := by
  unfold shortEscape? at h
  split_ifs at h with ht hr hn hself
  · subst ht
    exact Option.some.inj h ▸ .tab
  · subst hr
    exact Option.some.inj h ▸ .carriageReturn
  · subst hn
    exact Option.some.inj h ▸ .newline
  · obtain rfl := Option.some.inj h
    rcases hself with rfl | rfl | rfl
    · exact .apostrophe
    · exact .quote
    · exact .backslash

theorem denotes_of_codePoint? {ds : List Char} {value : Nat} {d : Char} (hvalue : valueFrom 0 ds = some value)
    (h : codePoint? ds.length value = some d) : Denotes ('u' :: '{' :: ds ++ ['}']) d := by
  unfold codePoint? at h
  split_ifs at h with hvalid
  obtain ⟨hpos, hle, hvalid⟩ := hvalid
  obtain rfl := Option.some.inj h
  exact .codePoint (value?_eq_some.2 ⟨List.length_pos_iff.1 hpos, hvalue⟩) hle hvalid

theorem put_eq_some {c : Char} {read : Option (List Char × List Char)} {value rest : List Char} :
    put c read = some (value, rest) ↔ ∃ later, read = some (later, rest) ∧ value = c :: later := by
  rw [put, Option.map_eq_some_iff]
  constructor
  · rintro ⟨⟨later, rest'⟩, hread, heq⟩
    obtain ⟨rfl, rfl⟩ := Prod.mk.inj heq
    exact ⟨later, hread, rfl⟩
  · rintro ⟨later, hread, rfl⟩
    exact ⟨_, hread, rfl⟩

/-- A reader at any point of an escape: what it has passed of it and what it reads from there on spell the value. -/
theorem spells_of_passed (state : Escape) {passed text value rest : List Char} (hpassed : state.Passed passed)
    (h : readFrom state text = some (value, rest)) :
    ∃ written, text = written ++ '"' :: rest ∧ Spells (passed ++ written) value := by
  induction text generalizing state passed value with
  | nil => cases state <;> cases h
  | cons c cs ih =>
    -- behind an escape that ends with c, the rest is read outside of escapes
    have hescaped {d : Char} {escape : List Char} (hd : Denotes escape d) (heq : passed ++ [c] = '\\' :: escape)
        (hread : put d (readFrom .outside cs) = some (value, rest)) :
        ∃ written, c :: cs = written ++ '"' :: rest ∧ Spells (passed ++ written) value := by
      obtain ⟨later, hlater, rfl⟩ := put_eq_some.1 hread
      obtain ⟨written, rfl, hspells⟩ := ih .outside rfl hlater
      refine ⟨c :: written, rfl, ?_⟩
      have hsplit : passed ++ c :: written = '\\' :: escape ++ written := by
        rw [List.append_cons, heq]
      rw [hsplit]
      exact .escaped hd hspells
    -- inside of an escape that goes on with c, more of it is passed
    have hfurther (next : Escape) (hnext : next.Passed (passed ++ [c]))
        (hread : readFrom next cs = some (value, rest)) :
        ∃ written, c :: cs = written ++ '"' :: rest ∧ Spells (passed ++ written) value := by
      obtain ⟨written, rfl, hspells⟩ := ih next hnext hread
      exact ⟨c :: written, rfl, by rwa [List.append_cons]⟩
    cases state with
    | outside =>
      obtain rfl : passed = [] := hpassed
      simp only [readFrom] at h
      split_ifs at h with hquote hbackslash
      · subst hquote
        obtain ⟨rfl, rfl⟩ := Prod.mk.inj (Option.some.inj h)
        exact ⟨[], rfl, .nil⟩
      · exact hfurther .begun (by rw [hbackslash]; rfl) h
      · obtain ⟨later, hlater, rfl⟩ := put_eq_some.1 h
        obtain ⟨written, rfl, hspells⟩ := ih .outside rfl hlater
        exact ⟨c :: written, rfl, .plain hquote hbackslash hspells⟩
    | begun =>
      obtain rfl : passed = ['\\'] := hpassed
      simp only [readFrom] at h
      split_ifs at h with hletter
      · exact hfurther .lettered (by rw [hletter]; rfl) h
      · obtain ⟨d, hd, hread⟩ := Option.bind_eq_some_iff.1 h
        exact hescaped (denotes_of_shortEscape? hd) rfl hread
    | lettered =>
      obtain rfl : passed = ['\\', 'u'] := hpassed
      simp only [readFrom] at h
      split_ifs at h with hbrace
      exact hfurther (.digits 0 0) (by rw [hbrace]; exact ⟨[], rfl, rfl, rfl⟩) h
    | digits count number =>
      obtain ⟨ds, rfl, rfl, hnumber⟩ := hpassed
      simp only [readFrom] at h
      split_ifs at h with hbrace
      · obtain ⟨d, hd, hread⟩ := Option.bind_eq_some_iff.1 h
        exact hescaped (denotes_of_codePoint? hnumber hd) (by rw [hbrace]; rfl) hread
      · obtain ⟨d, hd, hread⟩ := Option.bind_eq_some_iff.1 h
        refine hfurther (.digits (ds.length + 1) (16 * number + d)) ⟨ds ++ [c], rfl, by simp, ?_⟩ hread
        rw [valueFrom_snoc, hnumber, Option.bind_some, hd, Option.map_some]

/-- **Readers of literals follow the grammar.** -/
theorem readFrom_eq_some {text value rest : List Char} :
    readFrom .outside text = some (value, rest) ↔ ∃ written, text = written ++ '"' :: rest ∧ Spells written value := by
  refine ⟨fun h => spells_of_passed .outside rfl h, ?_⟩
  rintro ⟨written, rfl, h⟩
  exact readFrom_spells h rest

/-- A spelling has one value. -/
theorem Spells.unique {written value value' : List Char} (h : Spells written value) (h' : Spells written value') :
    value = value' := by
  have hread := readFrom_spells h []
  rw [readFrom_spells h' []] at hread
  exact (congrArg Prod.fst (Option.some.inj hread)).symm

/-! ## the closing quote -/

/-- the text up to the first quote that no backslash escapes, and what follows; the flag tells of a backslash in front
-/
def untilQuote? : Bool → List Char → Option (List Char × List Char)
  | _, [] => none
  | true, c :: cs => put c (untilQuote? false cs)
  | false, c :: cs => if c = '"' then some ([], cs) else put c (untilQuote? (c == '\\') cs)

theorem untilQuote?_append {passed : List Char} (h : ∀ c ∈ passed, c ≠ '"' ∧ c ≠ '\\') {text found rest : List Char}
    (htext : untilQuote? false text = some (found, rest)) :
    untilQuote? false (passed ++ text) = some (passed ++ found, rest) := by
  induction passed with
  | nil => exact htext
  | cons c cs ih =>
    obtain ⟨⟨hquote, hbackslash⟩, hcs⟩ := List.forall_mem_cons.1 h
    simp [untilQuote?, hquote, beq_false_of_ne hbackslash, ih hcs, put]

theorem untilQuote?_denotes {escape : List Char} {c : Char} (h : Denotes escape c) {text found rest : List Char}
    (htext : untilQuote? false text = some (found, rest)) :
    untilQuote? true (escape ++ text) = some (escape ++ found, rest) := by
  cases h with
  | @codePoint ds n hdigits hcount hvalid =>
    have hbraces : ∀ c ∈ '{' :: ds ++ ['}'], c ≠ '"' ∧ c ≠ '\\' := by
      intro c hc
      rw [List.mem_append, List.mem_cons, List.mem_singleton] at hc
      rcases hc with (rfl | hc) | rfl
      · decide
      · have hdigit := isDigit_of_valueFrom (value?_eq_some.1 hdigits).2 c hc
        constructor <;> rintro rfl <;> cases hdigit
      · decide
    change put 'u' (untilQuote? false (('{' :: ds ++ ['}']) ++ text)) = _
    rw [untilQuote?_append hbraces htext]
    rfl
  | _ =>
    simp only [List.singleton_append, untilQuote?, htext]
    rfl

theorem untilQuote?_spells {written value : List Char} (h : Spells written value) (rest : List Char) :
    untilQuote? false (written ++ '"' :: rest) = some (written, rest) := by
  induction h with
  | nil => rfl
  | plain hquote hbackslash _ ih => simp [untilQuote?, hquote, beq_false_of_ne hbackslash, ih, put]
  | escaped hc _ ih =>
    simp only [List.cons_append, List.append_assoc]
    change put '\\' (untilQuote? true (_ ++ _)) = _
    rw [untilQuote?_denotes hc ih]
    rfl

/-! ## what is written -/

/-- the characters of printable ASCII -/
def IsPrintable (c : Char) : Prop := 0x20 ≤ c.toNat ∧ c.toNat ≤ 0x7E

instance (c : Char) : Decidable (IsPrintable c) := inferInstanceAs (Decidable (_ ∧ _))

theorem isPrintable_of_isDigit {c : Char} (h : isDigit c = true) : IsPrintable c := by
  unfold isDigit digitValue? at h
  unfold IsPrintable
  simp only at h
  split_ifs at h
  · omega
  · omega
  · omega
  · cases h

theorem isDigit_of_mem_digits {n : Nat} : ∀ c ∈ digits n, isDigit c = true := by
  induction n using Nat.strongRecOn with
  | ind n ih =>
    have hdigit {m : Nat} (hm : m < 16) : isDigit (digit m) = true := by rw [isDigit, digitValue?_digit hm]; rfl
    intro c hc
    by_cases hn : n < 16
    · rw [digits_of_lt hn, List.mem_singleton] at hc
      exact hc ▸ hdigit hn
    · rw [digits_of_ge (Nat.le_of_not_lt hn), List.mem_append, List.mem_singleton] at hc
      rcases hc with hc | rfl
      · exact ih (n / 16) (by omega) c hc
      · exact hdigit (Nat.mod_lt n (by decide))

theorem isPrintable_of_mem_escape (c : Char) : ∀ d ∈ escape c, IsPrintable d := by
  unfold escape
  split_ifs with ht hr hn hself hprintable
  · simp [IsPrintable]
  · simp [IsPrintable]
  · simp [IsPrintable]
  · rcases hself with rfl | rfl | rfl <;> simp [IsPrintable]
  · simpa [IsPrintable] using hprintable
  · have hopening : ∀ d ∈ ['\\', 'u', '{'], IsPrintable d := by simp [IsPrintable]
    have hclosing : ∀ d ∈ ['}'], IsPrintable d := by simp [IsPrintable]
    intro d hd
    rw [List.mem_append, List.mem_append] at hd
    rcases hd with (hd | hd) | hd
    · exact hopening d hd
    · exact isPrintable_of_isDigit (isDigit_of_mem_digits d hd)
    · exact hclosing d hd

/-- A quote or a backslash stands escaped in its place. -/
theorem encode_append_cons {c : Char} (h : c = '"' ∨ c = '\\') (before after : List Char) :
    encode (before ++ c :: after) = encode before ++ '\\' :: c :: encode after := by
  have hescape : escape c = ['\\', c] := by rcases h with rfl | rfl <;> rfl
  rw [encode, List.flatMap_append, List.flatMap_cons, hescape]
  rfl

/-- An escaped text spells the text. -/
theorem spells_encode (text : List Char) : Spells (encode text) text := by
  obtain ⟨written, hwritten, h⟩ := readFrom_eq_some.1 (readFrom_encode text [])
  obtain rfl : encode text = written := List.append_cancel_right hwritten
  exact h

/-- Where two literals with texts behind them agree, so do their values and the texts. -/
theorem quote_append_inj {text text' rest rest' : List Char} (h : quote text ++ rest = quote text' ++ rest') :
    text = text' ∧ rest = rest' := by
  have hread := read?_quote text rest
  rw [h, read?_quote] at hread
  obtain ⟨rfl, rfl⟩ := Prod.mk.inj (Option.some.inj hread)
  exact ⟨rfl, rfl⟩

/-- **Literals delimit themselves and are exact.** Between the quotes of a literal stand printable ASCII characters
only. Every quote and every backslash of the text stands there escaped, and the first quote that no backslash escapes is
the closing one, whatever follows. By the grammar of escapes the literal spells the text and nothing else, and a reader
that starts at the opening quote reads the text and stops behind the closing one. So no literal is the beginning of
another: different texts have different literals. -/
theorem literals_self_delimiting (text : List Char) :
    (∀ c ∈ encode text, IsPrintable c) ∧
      (∀ before c after, text = before ++ c :: after → c = '"' ∨ c = '\\' →
        encode text = encode before ++ '\\' :: c :: encode after) ∧
      (∀ rest, ∃ inner, quote text ++ rest = '"' :: inner ∧ untilQuote? false inner = some (encode text, rest)) ∧
      (∀ value, Spells (encode text) value ↔ value = text) ∧
      (∀ rest, read? (quote text ++ rest) = some (text, rest)) ∧
      ∀ text' rest rest', quote text ++ rest = quote text' ++ rest' → text = text' ∧ rest = rest' := by
  refine ⟨fun c hc => ?_, ?_, fun rest => ⟨encode text ++ '"' :: rest, ?_, ?_⟩, fun value => ?_, read?_quote text,
    fun _ _ _ => quote_append_inj⟩
  · obtain ⟨d, -, hd⟩ := List.mem_flatMap.1 hc
    exact isPrintable_of_mem_escape d c hd
  · rintro before c after rfl hc
    exact encode_append_cons hc before after
  · simp [quote]
  · exact untilQuote?_spells (spells_encode text) rest
  · constructor
    · intro h
      exact h.unique (spells_encode text)
    · rintro rfl
      exact spells_encode value

/-- an escape that is no escape, a quote behind a backslash, and characters beyond ASCII in front of digits -/
def jumble : List Char := ['\\', 'u', '{', '4', '1', '}', '\\', '"', '\x7f', '0', 'é', 'f', '\n']

theorem jumble_delimited :
    encode jumble =
      ['\\', '\\', 'u', '{', '4', '1', '}', '\\', '\\', '\\', '"', '\\', 'u', '{', '7', 'f', '}', '0',
        '\\', 'u', '{', 'e', '9', '}', 'f', '\\', 'n'] ∧
      '"' ∈ encode jumble ∧ IsPrintable '"' ∧
      encode jumble = encode (jumble.take 7) ++ '\\' :: '"' :: encode (jumble.drop 8) ∧
      untilQuote? false (encode jumble ++ ['"', ')']) = some (encode jumble, [')']) ∧
      Spells (encode jumble) jumble ∧ quote (jumble.take 6) ≠ quote ['A'] := by
  obtain ⟨hprintable, hescaped, hclosing, hspells, -, -⟩ := literals_self_delimiting jumble
  have hquote : '"' ∈ encode jumble := by decide
  obtain ⟨inner, hinner, huntil⟩ := hclosing [')']
  obtain rfl : encode jumble ++ ['"', ')'] = inner := (List.cons.inj hinner).2
  refine ⟨by decide, hquote, hprintable _ hquote, hescaped _ _ _ rfl (Or.inl rfl), huntil, (hspells jumble).2 rfl,
    fun h => ?_⟩
  obtain ⟨-, -, -, -, -, hdistinct⟩ := literals_self_delimiting (jumble.take 6)
  cases (hdistinct ['A'] [] [] (congrArg (· ++ []) h)).1

end Lexicon.Literal
