/-
Sources in which every character stands for itself. A character that is no metacharacter is read as a literal
(`readToken_plain`), so a plain source is read as literals one after the other (`pieces_plain`) and its expression takes
that text and nothing else (`exists_form_plain`). A search then finds the first place where the text occurs, and behind
the assertion it finds the text at the front only; a character and a text are looked for at the front as well.

What a pattern finds lies between two character boundaries of the input, whichever the pattern is (`sliced_of_find?`).

Results: `plain_strategies_agree`.
-/
import Mathlib.Data.List.Infix
import Lexicon.Proofs.Pattern.Agreement
import Lexicon.Proofs.Scan

namespace Lexicon

/-! ## plain texts -/

namespace Expression

/-- the characters that do not stand for themselves -/
def metacharacters : List Char := ['\\', '.', '+', '*', '?', '(', ')', '|', '[', ']', '{', '}', '^', '$']

/-- a text without metacharacters -/
def IsPlain (text : List Char) : Prop := ∀ c ∈ text, c ∉ metacharacters

instance (text : List Char) : Decidable (IsPlain text) := List.decidableBAll (· ∉ metacharacters) text

theorem readToken_plain {c : Char} (hc : c ∉ metacharacters) (extended repeatable : Bool) (r : Reader) :
    readToken extended repeatable c r = .ok (.part (.literal ⟨r.next, c, false⟩), r.bump) := by
  simp only [metacharacters, List.mem_cons, List.not_mem_nil, or_false, not_or] at hc
  obtain ⟨hslash, hdot, hplus, hstar, hoption, hopen, hclose, hbar, hbracket, -, hbrace, -, hcaret, hdollar⟩ := hc
  simp only [readToken, hslash, hdot, hplus, hstar, hoption, hopen, hclose, hbar, hbracket, hbrace, hcaret, hdollar,
    or_self, if_false]

/-- the literals of a text -/
def Spells (ls : List Literal) (text : List Char) : Prop :=
  ls.map Literal.char = text ∧ ∀ l ∈ ls, l.byteForm = false

/-- Outside of groups and classes a plain text adds its literals to the run. -/
theorem readPieces_plain {text : List Char} (h : IsPlain text) {b : Builder} (hstack : b.stack = [])
    (hextended : b.extended = false) {fuel : Nat} (hfuel : text.length < fuel) (p : Position) :
    ∃ ls stop, Spells ls text ∧ readPieces fuel b ⟨text, p⟩ =
      .ok (Run.toTree ⟨b.run.start, (ls.map Tree.literal).reverse ++ b.run.latest⟩ stop) := by
  induction text generalizing b fuel p with
  | nil =>
    obtain ⟨stop, hstop⟩ := readPieces_end (b := b) (Reader.trim_of_rest_eq_nil (r := ⟨[], p⟩) rfl) fuel
    refine ⟨[], stop, ⟨rfl, nofun⟩, hstop.trans ?_⟩
    unfold Builder.finish
    rw [hstack]
    rfl
  | cons c text ih =>
    obtain ⟨fuel, rfl⟩ := Nat.exists_eq_add_one.2 (Nat.zero_lt_of_lt hfuel)
    obtain ⟨hc, htext⟩ := List.forall_mem_cons.1 h
    let l : Literal := ⟨Reader.next ⟨c :: text, p⟩, c, false⟩
    obtain ⟨ls, stop, ⟨hchars, hbytes⟩, hread⟩ := ih htext (b := b.addPart (.literal l)) hstack hextended
      (Nat.lt_of_succ_lt_succ hfuel) (p.past c)
    have htrim : Reader.trim b.extended ⟨c :: text, p⟩ = ⟨c :: text, p⟩ := by rw [hextended]; rfl
    refine ⟨l :: ls, stop, ⟨congrArg (c :: ·) hchars, List.forall_mem_cons.2 ⟨rfl, hbytes⟩⟩, ?_⟩
    rw [readPieces_cons htrim, readToken_plain hc, List.map_cons, List.reverse_cons, List.append_assoc]
    exact hread

theorem pieces_plain {text : List Char} (h : IsPlain text) : ∃ ls stop, Spells ls text ∧
    pieces text = .ok (Run.toTree ⟨Position.start, (ls.map Tree.literal).reverse⟩ stop) := by
  obtain ⟨ls, stop, hspells, hread⟩ :=
    readPieces_plain h (b := Builder.start) rfl rfl (Nat.lt_succ_self _) Position.start
  exact ⟨ls, stop, hspells, hread.trans (by rw [Builder.start, Run.none, List.append_nil])⟩

theorem charForm_initial (c : Char) : Modes.initial.charForm c = .literal [c] := by
  simp only [Modes.charForm, Modes.fold, Modes.initial, Bool.false_eq_true, if_false, Form.ofSet, CharSet.onlyChar?,
    CharSet.singleton, if_true, Char.ofNat_toNat]

theorem meaning_literal {l : Literal} (h : l.byteForm = false) :
    (Tree.literal l).meaning Modes.initial = .ok (.literal [l.char], Modes.initial) := by
  simp [Tree.meaning, Literal.meaning, h, charForm_initial, bind, Except.bind, pure, Except.pure]

theorem allMeanings_literals {ls : List Literal} {text : List Char} (h : Spells ls text) :
    Tree.allMeanings Modes.initial (ls.map Tree.literal) =
      .ok (text.map fun c => .literal [c], Modes.initial) := by
  obtain ⟨rfl, hbytes⟩ := h
  induction ls with
  | nil => rfl
  | cons l ls ih =>
    obtain ⟨hl, hls⟩ := List.forall_mem_cons.1 hbytes
    simp [Tree.allMeanings, meaning_literal hl, ih hls, bind, Except.bind, pure, Except.pure]

theorem takesAll_literals (text : List Char) (p q : Place) :
    Form.TakesAll (text.map fun c => .literal [c]) p q ↔ Place.ReadsText text p q := by
  induction text generalizing p with
  | nil => rfl
  | cons c text ih => simp [Form.TakesAll, Form.Takes, Place.ReadsText, ih]

/-- A run means its parts one after the other. -/
theorem meaning_toTree {m m' : Modes} {u : Run} {fs : List Form} (stop : Position)
    (h : Tree.allMeanings m u.latest.reverse = .ok (fs, m')) :
    ∃ f, (u.toTree stop).meaning m = .ok (f, m') ∧ ∀ p q, f.Takes p q ↔ Form.TakesAll fs p q := by
  obtain ⟨start, _ | ⟨t, _ | ⟨t', ts⟩⟩⟩ := u
  · obtain ⟨rfl, rfl⟩ := Prod.mk.inj (Except.ok.inj h)
    exact ⟨.empty, rfl, fun p q => Iff.rfl⟩
  · obtain ⟨f, n, rest, hf, hrest, rfl⟩ := allMeanings_cons.1 h
    obtain ⟨rfl, rfl⟩ := Prod.mk.inj (Except.ok.inj hrest)
    exact ⟨f, hf, fun p q => by simp [Form.TakesAll]⟩
  · exact ⟨.sequence fs, by simp only [Run.toTree, Tree.meaning, h]; rfl, Form.takes_sequence fs⟩

theorem height_toTree_le (u : Run) (stop : Position) :
    (u.toTree stop).height ≤ Tree.greatestHeight u.latest.reverse + 1 := by
  obtain ⟨start, _ | ⟨t, _ | ⟨t', ts⟩⟩⟩ := u
  · exact Nat.zero_le _
  · simp [Run.toTree, Tree.greatestHeight]
  · simp [Run.toTree, Tree.height]

theorem greatestHeight_literals (ls : List Literal) : Tree.greatestHeight (ls.map Tree.literal) = 0 := by
  induction ls with
  | nil => rfl
  | cons l ls ih => simp [Tree.greatestHeight, Tree.height, ih]

/-- **A plain text is an expression** that takes the text itself. -/
theorem exists_form_plain {text : List Char} (h : IsPlain text) :
    ∃ f, formOf text = .ok f ∧ ∀ p q, f.Takes p q ↔ Place.ReadsText text p q := by
  obtain ⟨ls, stop, hspells, hpieces⟩ := pieces_plain h
  have hmeanings := allMeanings_literals hspells
  rw [← List.reverse_reverse (ls.map Tree.literal)] at hmeanings
  obtain ⟨f, hf, htakes⟩ := meaning_toTree (u := ⟨Position.start, (ls.map Tree.literal).reverse⟩) stop hmeanings
  have hheight := height_toTree_le ⟨Position.start, (ls.map Tree.literal).reverse⟩ stop
  rw [List.reverse_reverse, greatestHeight_literals] at hheight
  have hread := read_eq_ok.2 ⟨hpieces, Nat.le_trans hheight (by decide)⟩
  refine ⟨f, ?_, fun p q => (htakes p q).trans (takesAll_literals text p q)⟩
  simp only [formOf, hread, hf, bind, Except.bind, pure, Except.pure]

/-! ## searching for a text -/

theorem rest_of_readsText {text : List Char} {p q : Place} (h : Place.ReadsText text p q) :
    p.rest = text ++ q.rest := by
  induction text generalizing p with
  | nil => exact congrArg Place.rest h.symm
  | cons c text ih =>
    obtain ⟨r, ⟨hrest, -⟩, hr⟩ := h
    rw [hrest, ih hr, List.cons_append]

theorem exists_readsText {text rest : List Char} {p : Place} (h : p.rest = text ++ rest) :
    ∃ q, Place.ReadsText text p q := by
  induction text generalizing p with
  | nil => exact ⟨p, rfl⟩
  | cons c text ih =>
    obtain ⟨q, hq⟩ := ih (p := ⟨some c, text ++ rest⟩) rfl
    exact ⟨q, ⟨some c, text ++ rest⟩, ⟨h, rfl⟩, hq⟩

section

variable {f : Form} {text input : List Char} (h : ∀ p q, f.Takes p q ↔ Place.ReadsText text p q)
include h

theorem matchesAt_text (k : Nat) : f.program.MatchesAt (.inside input k) ↔ text <+: input.drop k := by
  simp only [Program.MatchesAt, Form.accepts_program, h]
  constructor
  · rintro ⟨q, hq⟩
    exact ⟨q.rest, (rest_of_readsText hq).symm⟩
  · rintro ⟨rest, hrest⟩
    exact exists_readsText (p := .inside input k) hrest.symm

/-- A match of a text is an occurrence of it, and there is none before. -/
theorem search?_text {k n : Nat} (hfound : f.program.search? input = some (k, n)) :
    n = text.length ∧ text <+: input.drop k ∧ ∀ j < k, ¬ text <+: input.drop j := by
  obtain ⟨hle, ⟨q, hq, haccepts⟩, hbefore⟩ := Program.search?_eq_some hfound
  have hrest := rest_of_readsText ((h _ _).1 ((Form.accepts_program _ _ _).1 haccepts))
  change input.drop k = text ++ q.rest at hrest
  refine ⟨?_, ⟨q.rest, hrest.symm⟩, fun j hj => (matchesAt_text h j).not.1 (hbefore j hj)⟩
  have hlength := congrArg List.length hrest
  rw [hq, List.length_append, List.length_drop, List.length_drop] at hlength
  omega

theorem search?_text_eq_none : f.program.search? input = none ↔ ¬ text <:+: input := by
  rw [List.infix_iff_prefix_suffix]
  constructor
  · rintro hnone ⟨rest, hstarts, hsuffix⟩
    rw [List.suffix_iff_eq_drop.1 hsuffix] at hstarts
    exact Program.search?_eq_none hnone (Nat.sub_le _ _) ((matchesAt_text h _).2 hstarts)
  · intro hnot
    rw [Option.eq_none_iff_forall_ne_some]
    rintro ⟨k, n⟩ hfound
    exact hnot ⟨_, (search?_text h hfound).2.1, List.drop_suffix k input⟩

/-- The expression of a text finds the text where it occurs. -/
theorem find?_text : f.program.find? input = if text <:+: input then some text else none := by
  unfold Program.find?
  cases hfound : f.program.search? input with
  | none => rw [if_neg ((search?_text_eq_none h).1 hfound), Option.map_none]
  | some r =>
    obtain ⟨k, n⟩ := r
    have hinfix : text <:+: input := by
      by_contra hnot
      cases hfound.symm.trans ((search?_text_eq_none h).2 hnot)
    obtain ⟨rfl, hstarts, -⟩ := search?_text h hfound
    rw [if_pos hinfix]
    exact congrArg some (List.prefix_iff_eq_take.1 hstarts).symm

/-- Behind the assertion it finds the text at the front. -/
theorem find?_text_atFront :
    (Form.atFront [f]).program.find? input = if text <+: input then some text else none := by
  unfold Program.find?
  cases hfound : (Form.atFront [f]).program.search? input with
  | none =>
    rw [Option.map_none, if_neg]
    intro hstarts
    -- the text occurs, so it is found, and not behind the front
    obtain ⟨⟨k, n⟩, hsome⟩ := Option.ne_none_iff_exists'.1 ((search?_text_eq_none h).not.2 (not_not.2 hstarts.isInfix))
    obtain ⟨-, -, hbefore⟩ := search?_text h hsome
    obtain rfl : k = 0 := Nat.eq_zero_of_not_pos fun hpos => hbefore 0 hpos hstarts
    cases hfound.symm.trans (Program.search?_atFront.2 ⟨rfl, hsome⟩)
  | some r =>
    obtain ⟨k, n⟩ := r
    obtain ⟨rfl, hfront⟩ := Program.search?_atFront.1 hfound
    obtain ⟨rfl, hstarts, -⟩ := search?_text h hfront
    rw [List.drop_zero] at hstarts
    rw [if_pos hstarts]
    exact congrArg some (List.prefix_iff_eq_take.1 hstarts).symm

end

end Expression

open Expression

/-! ## slices -/

/-- a place in a text, in bytes, between two characters or at an end -/
def IsBoundary (text : List Char) (n : Nat) : Prop := (dropBytes? n text).isSome = true

/-- a slice of the input that starts and ends at boundaries -/
def Sliced (input m : List Char) : Prop :=
  ∃ front rest, front ++ m ++ rest = input ∧ IsBoundary input (byteLength front) ∧
    IsBoundary input (byteLength (front ++ m))

theorem isBoundary_of_prefix {front text : List Char} (h : front <+: text) : IsBoundary text (byteLength front) := by
  obtain ⟨rest, rfl⟩ := h
  rw [IsBoundary, dropBytes?_byteLength]
  rfl

theorem sliced_of_infix {input m : List Char} (h : m <:+: input) : Sliced input m := by
  obtain ⟨front, rest, rfl⟩ := h
  refine ⟨front, rest, rfl, isBoundary_of_prefix ?_, isBoundary_of_prefix (List.prefix_append _ _)⟩
  exact (List.prefix_append front m).trans (List.prefix_append _ _)

namespace Pattern

theorem infix_of_find? {pattern : Pattern} {input m : String} (h : pattern.find? input = some m) :
    m.toList <:+: input.toList := by
  cases pattern with
  | character c =>
    simp only [find?, take?, Option.map_eq_some_iff, Option.ite_none_right_eq_some, Option.some.injEq] at h
    obtain ⟨text, ⟨hhead, rfl⟩, rfl⟩ := h
    obtain ⟨rest, hrest⟩ := List.head?_eq_some_iff.1 hhead
    rw [String.toList_ofList, hrest]
    exact ⟨[], rest, rfl⟩
  | string s =>
    simp only [find?, take?, Option.map_eq_some_iff, Option.ite_none_right_eq_some, Option.some.injEq] at h
    obtain ⟨text, ⟨hstarts, rfl⟩, rfl⟩ := h
    rw [String.toList_ofList]
    exact (List.isPrefixOf_iff_prefix.1 hstarts).isInfix
  | regexp r =>
    obtain ⟨k, n, -, hm⟩ := find?_regexp.1 h
    rw [hm]
    exact (List.take_prefix n _).isInfix.trans (List.drop_suffix k _).isInfix

/-- Whatever a pattern finds starts and ends between characters. -/
theorem sliced_of_find? {pattern : Pattern} {input m : String} (h : pattern.find? input = some m) :
    Sliced input.toList m.toList :=
  sliced_of_infix (infix_of_find? h)

/-! ## the strategies -/

theorem find?_string (s input : String) :
    (Pattern.string s).find? input = if s.toList <+: input.toList then some s else none := by
  simp only [find?, take?, List.isPrefixOf_iff_prefix]
  split_ifs <;> simp

theorem find?_character {s : String} {c : Char} (hs : s.toList = [c]) (input : String) :
    (Pattern.character c).find? input = if s.toList <+: input.toList then some s else none := by
  have hstarts : s.toList <+: input.toList ↔ input.toList.head? = some c := by
    rw [hs, List.head?_eq_some_iff]
    exact exists_congr fun rest => eq_comm
  simp only [find?, take?, hstarts, ← hs]
  split_ifs <;> simp

/-- **The strategies agree on plain texts.** If a text without metacharacters is a pattern under both anchorings, then
as a text, as an anchored expression and, if it is one character, as a character it finds itself in the inputs that
start with it and nothing in others; as an unanchored expression it finds itself where it occurs. Its bytes end at a
character boundary where the input starts with it, and so does whatever is found, which also starts at one. -/
theorem plain_strategies_agree {s : String} (hs : IsPlain s.toList) {p q : Pattern}
    (hp : (anchored s).result = .ok p) (hq : (unanchored s).result = .ok q) (input : String) :
    let answer := if s.toList <+: input.toList then some s else none
    (Pattern.string s).find? input = answer ∧ p.find? input = answer ∧
      (∀ c, s.toList = [c] → (Pattern.character c).find? input = answer) ∧
      (q.find? input = if s.toList <:+: input.toList then some s else none) ∧
      (s.toList <+: input.toList → IsBoundary input.toList (byteLength s.toList)) ∧
      ∀ (pattern : Pattern) (m : String), pattern.find? input = some m → Sliced input.toList m.toList := by
  obtain ⟨r, ⟨hr, hstart⟩, rfl⟩ := anchored_eq_ok.1 hp
  obtain ⟨u, ⟨hu, hanywhere⟩, rfl⟩ := unanchored_eq_ok.1 hq
  obtain ⟨f, hf, huprogram, hrprogram⟩ := Regexp.exists_form_atFront (hr.trans hu.symm) hstart hanywhere
  obtain ⟨g, hg, htakes⟩ := exists_form_plain hs
  rw [hu] at hf
  obtain rfl := Except.ok.inj (hf.symm.trans hg)
  refine ⟨find?_string s input, ?_, fun c hc => find?_character hc input, ?_, isBoundary_of_prefix,
    fun _ _ => sliced_of_find?⟩
  · simp only [find?, take?, Regexp.find?, hrprogram, find?_text_atFront htakes]
    split_ifs <;> simp
  · simp only [find?, take?, Regexp.find?, huprogram, find?_text htakes]
    split_ifs <;> simp

/-- a text of two characters, the first of which takes two bytes -/
theorem accented_strategies_agree : ∃ p q : Pattern,
    (anchored "é#").result = .ok p ∧ (unanchored "é#").result = .ok q ∧
      (Pattern.string "é#").find? "é#é" = some "é#" ∧ p.find? "é#é" = some "é#" ∧ p.find? "#é#" = none ∧
      q.find? "#é#" = some "é#" := by
  have hp : (anchored "é#").result = .ok (.regexp ⟨"é#", .start, _, rfl⟩) := rfl
  have hq : (unanchored "é#").result = .ok (.regexp ⟨"é#", .anywhere, _, rfl⟩) := rfl
  have hplain : IsPlain "é#".toList := by decide
  obtain ⟨hstring, hanchored, -⟩ := plain_strategies_agree hplain hp hq "é#é"
  obtain ⟨-, hbehind, -, hunanchored, -⟩ := plain_strategies_agree hplain hp hq "#é#"
  exact ⟨_, _, hp, hq, hstring, hanchored, hbehind, hunanchored⟩

end Pattern

end Lexicon
