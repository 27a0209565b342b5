/-
Emitted tables read back. Each writer of `Emission` has its reader; a reader applied to what its writer wrote, with
anything behind it, answers with what was written and leaves the rest (`readPattern?_pattern`,
`readDefinition?_definition`, `readDefinitions?_definitions`). No name of a kind or form needs a look beyond the
parenthesis or comma behind it, and literals end at their own quote, so commas, brackets and quotes in identifiers do
no harm.

What is read back builds the symbols the table was written from, because definitions of symbols do
(`exists_buildCatalog_ofSymbol`).

Result: `table_reads_back`.
-/
import Lexicon.Emission.Reading
import Lexicon.Proofs.Catalog.Entries
import Lexicon.Proofs.Definition
import Lexicon.Proofs.Text.Literal

namespace Lexicon.Emission

/-! ## reading what was written -/

theorem expect?_append (text rest : List Char) : expect? text (text ++ rest) = some rest := by
  induction text with
  | nil => rfl
  | cons c cs ih => simp [expect?, ih]

theorem readKind?_name (k : SymbolKind) (rest : List Char) : readKind? (k.name.toList ++ rest) = some (k, rest) := by
  cases k <;> rfl

theorem readArgument?_quote (text rest : List Char) :
    readArgument? ('(' :: Literal.quote text ++ ')' :: rest) = some (text, rest) := by
  simp [readArgument?, expect?, Literal.read?_quote]

/-- Behind the path stands the name of a form, with an argument or without. -/
theorem readPattern?_path (s : List Char) :
    readPattern? (patternPath ++ s) =
      ((textForms.findSome? fun form => readForm? form s).or
        ((expect? PatternText.absent.parts.1.toList s).map fun rest => (.absent, rest))) := by
  simp only [readPattern?, expect?_append, Option.bind_eq_bind, Option.bind_some]
  cases textForms.findSome? fun form => readForm? form s with
  | some r => rfl
  | none => cases expect? PatternText.absent.parts.1.toList s <;> rfl

section

variable {form : String → PatternText} {name : String} (hparts : ∀ text, (form text).parts = (name, some text))
include hparts

theorem readForm?_quote (text : String) (rest : List Char) :
    readForm? form (name.toList ++ '(' :: (Literal.quote text.toList ++ ')' :: rest)) = some (form text, rest) := by
  have hargument := readArgument?_quote text.toList rest
  simp only [List.cons_append] at hargument
  simp [readForm?, hparts, expect?_append, hargument]

/-- A form with a text is read back if no form that is tried before it is read in its place. -/
theorem readPattern?_text (earlier later : List (String → PatternText)) (hforms : textForms = earlier ++ form :: later)
    (hearlier : ∀ g ∈ earlier, ∀ s, readForm? g (name.toList ++ s) = none) (text : String) (rest : List Char) :
    readPattern? (pattern (form text) ++ rest) = some (form text, rest) := by
  have hpattern : pattern (form text) ++ rest =
      patternPath ++ (name.toList ++ '(' :: (Literal.quote text.toList ++ ')' :: rest)) := by
    simp [pattern, hparts]
  have hnone (s : List Char) : (earlier.findSome? fun g => readForm? g (name.toList ++ s)) = none :=
    List.findSome?_eq_none_iff.2 fun g hg => hearlier g hg s
  rw [hpattern, readPattern?_path, hforms, List.findSome?_append, hnone, List.findSome?_cons,
    readForm?_quote hparts text rest]
  rfl

end

theorem readPattern?_pattern (p : PatternText) (rest : List Char) :
    readPattern? (pattern p ++ rest) = some (p, rest) := by
  cases p with
  | absent => rfl
  | character text => exact readPattern?_text (fun _ => rfl) [] _ rfl (by simp) text rest
  | string text =>
    have hearlier : ∀ g ∈ [PatternText.character], ∀ s, readForm? g ("String".toList ++ s) = none :=
      List.forall_mem_singleton.2 fun _ => rfl
    exact readPattern?_text (fun _ => rfl) _ _ rfl hearlier text rest
  | regexp source =>
    have hearlier : ∀ g ∈ [PatternText.character, .string], ∀ s, readForm? g ("Regexp".toList ++ s) = none :=
      List.forall_mem_cons.2 ⟨fun _ => rfl, List.forall_mem_singleton.2 fun _ => rfl⟩
    exact readPattern?_text (fun _ => rfl) _ _ rfl hearlier source rest
  | regexpAnywhere source =>
    -- the shorter name is read, but no parenthesis follows it
    have hregexp (s : List Char) : readForm? .regexp ("RegexpAnywhere".toList ++ s) = none := rfl
    have hearlier : ∀ g ∈ [PatternText.character, .string, .regexp], ∀ s,
        readForm? g ("RegexpAnywhere".toList ++ s) = none :=
      List.forall_mem_cons.2 ⟨fun _ => rfl, List.forall_mem_cons.2 ⟨fun _ => rfl, List.forall_mem_singleton.2 hregexp⟩⟩
    exact readPattern?_text (fun _ => rfl) _ _ rfl hearlier source rest

theorem readDefinition?_definition (d : Definition) (rest : List Char) :
    readDefinition? (definition d ++ rest) = some (d, rest) := by
  simp only [readDefinition?, definition, List.append_assoc, expect?_append, readKind?_name, Literal.read?_quote,
    readPattern?_pattern, Option.bind_eq_bind, Option.bind_some, String.ofList_toList]
  rfl

theorem definition_ne_nil (d : Definition) : definition d ≠ [] := by
  intro h
  have hread := readDefinition?_definition d []
  rw [h] at hread
  cases hread

theorem readDefinitions?_definitions {ds : List Definition} (hne : ds ≠ []) {fuel : Nat} (h : ds.length ≤ fuel) :
    readDefinitions? fuel (definitions ds ++ [']']) = some (ds, [']']) := by
  induction ds generalizing fuel with
  | nil => exact absurd rfl hne
  | cons d ds ih =>
    obtain ⟨fuel, rfl⟩ : ∃ n, fuel = n + 1 := ⟨fuel - 1, by simp at h; omega⟩
    cases ds with
    | nil => simp [definitions, readDefinitions?, readDefinition?_definition, expect?, comma]
    | cons d' ds =>
      have hrest := ih (by simp) (Nat.le_of_succ_le_succ h)
      simp [definitions, readDefinitions?, List.append_assoc, readDefinition?_definition, expect?_append, hrest]

theorem length_le_length_definitions (ds : List Definition) : ds.length ≤ (definitions ds).length := by
  induction ds with
  | nil => exact Nat.le_refl _
  | cons d ds ih =>
    have hpos := List.length_pos_of_ne_nil (definition_ne_nil d)
    cases ds with
    | nil => exact hpos
    | cons d' ds =>
      simp only [definitions, List.length_cons, List.length_append] at ih ⊢
      omega

/-- **Tables read back** as the definitions they were written from. -/
theorem readTable?_array (ds : List Definition) : readTable? (array ds) = some ds := by
  cases ds with
  | nil => rfl
  | cons d ds =>
    have hlength := length_le_length_definitions (d :: ds)
    have hread : readDefinitions? (definitions (d :: ds) ++ [']']).length (definitions (d :: ds) ++ [']']) =
        some (d :: ds, [']']) :=
      readDefinitions?_definitions (by simp) (by simp only [List.length_append]; omega)
    have hne : definitions (d :: ds) ++ [']'] ≠ [']'] := by
      intro h
      have := congrArg List.length h
      simp only [List.length_append, List.length_cons] at this hlength
      omega
    simp only [readTable?, array, expect?, List.cons_append, if_true, if_neg hne, hread]

/-! ## tables of symbols -/

theorem table_result (s : Catalog Symbol) :
    (table s).result = .ok (String.ofList (array (s.items.map .ofSymbol))) := rfl

theorem array_injective {ds es : List Definition} (h : array ds = array es) : ds = es := by
  have hread := readTable?_array ds
  rw [h, readTable?_array] at hread
  exact (Option.some.inj hread).symm

theorem items_eq_of_table_eq {s t : Catalog Symbol} (h : (table s).result = (table t).result) : s.items = t.items := by
  rw [table_result, table_result, Except.ok.injEq, String.ofList_inj] at h
  exact List.map_injective_iff.2 (fun _ _ => Definition.ofSymbol_injective) (array_injective h)

/-- **Tables of symbols read back.** Emission succeeds, and its text is the table of definitions that build the
symbols of the set again, in their order, for all sets whose symbols positions can count; so two sets with one text
have the same symbols. The declaration counts these definitions. -/
theorem table_reads_back (name : String) (s : Catalog Symbol) :
    ∃ (text : String) (ds : List Definition),
      (table s).result = .ok text ∧ readTable? text.toList = some ds ∧
      (∃ built, (Definition.buildCatalog ds .free).result = .ok built ∧
        (s.size ≤ Catalog.positionLimit → built.items = s.items)) ∧
      (render name s).result =
        .ok ("pub const " ++ name ++ ": [sigil::codegen::SymbolDef; " ++ ds.length.repr ++ "] = " ++ text ++ ";\n") ∧
      ∀ t, (table t).result = .ok text → t.items = s.items := by
  refine ⟨_, s.items.map .ofSymbol, table_result s, ?_, ?_, ?_, fun t ht => items_eq_of_table_eq ht⟩
  · rw [String.toList_ofList]
    exact readTable?_array _
  · rw [← s.length_items]
    exact Definition.exists_buildCatalog_ofSymbol s.items
  · rw [List.length_map, s.length_items, render, Attempt.result_andThen_of_ok (table_result s)]
    rfl

/-- symbols whose identifiers hold quotes, brackets and commas, under patterns of all forms, with the sentinel between
-/
def awkward : Catalog Symbol :=
  .ofItems [
    .plain .start "], [\"" (.string "\\ü\n"), .plain .nonTerminal "\")" (.regexp ⟨"a|b", .start, _, rfl⟩), .endOfInput,
    .plain .terminal "" (.regexp ⟨"a|b", .anywhere, _, rfl⟩), .plain .terminal "a, b" (.character '"')]

theorem awkward_reads_back :
    awkward.size ≤ Catalog.positionLimit ∧
      ∃ ds built, readTable? (array (awkward.items.map .ofSymbol)) = some ds ∧ ds.length = 5 ∧
        (Definition.buildCatalog ds .free).result = .ok built ∧ built.items = awkward.items := by
  have hsize : awkward.size ≤ Catalog.positionLimit := by decide
  obtain ⟨text, ds, htext, hread, ⟨built, hbuilt, hitems⟩, -, -⟩ := table_reads_back "TABLE" awkward
  rw [table_result, Except.ok.injEq] at htext
  subst htext
  rw [String.toList_ofList] at hread
  have hds : ds = awkward.items.map .ofSymbol := by
    rw [readTable?_array] at hread
    exact (Option.some.inj hread).symm
  exact ⟨hsize, ds, built, hread, hds ▸ rfl, hbuilt, hitems hsize⟩

end Lexicon.Emission
