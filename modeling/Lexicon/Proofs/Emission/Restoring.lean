/-
Definitions restored from the table of the symbols they build. Building forgets nothing of a definition but what the
sentinel ignores: a symbol is written as the definition it was built from, in the normal form in which a sentinel has its
own identifier and no pattern (`ofSymbol_of_standsFor`). A definition and its normal form build the same, so what is read
back from a table builds the same set under every validator, and that set has the same table.

Results: `definitions_restored`.
-/
import Lexicon.Proofs.Definition.Building
import Lexicon.Proofs.Emission.RoundTrip

namespace Lexicon

/-! ## normal forms -/

theorem PatternText.ofPattern_of_standsFor {p : PatternText} {pattern : Pattern} (h : p.StandsFor pattern) :
    ofPattern pattern = p := by
  cases h with
  | @character text c h =>
    have htext : String.singleton c = text := by
      rw [← String.toList_inj, h, String.toList_singleton]
    exact congrArg PatternText.character htext
  | string text => rfl
  | regexp h => simp only [ofPattern, h]
  | regexpAnywhere h => simp only [ofPattern, h]

namespace Definition

/-- a definition as tables have it: one of the sentinel has the identifier of the sentinel and no pattern -/
def normal (d : Definition) : Definition :=
  match d.kind with
  | .endOfInput => ⟨.endOfInput, Symbol.sentinelId, .absent⟩
  | _ => d

theorem normal_plain (role : Role) (id : String) (p : PatternText) :
    normal ⟨role.kind, id, p⟩ = ⟨role.kind, id, p⟩ := by
  cases role <;> rfl

/-- A symbol is written as the normal form of what it was built from. -/
theorem ofSymbol_of_standsFor {d : Definition} {s : Symbol} (h : d.StandsFor s) : ofSymbol s = d.normal := by
  cases h with
  | sentinel id p => rfl
  | plain role id h =>
    rw [normal_plain]
    exact congrArg (Definition.mk role.kind id) (PatternText.ofPattern_of_standsFor h)

theorem map_ofSymbol {ds : List Definition} {ss : List Symbol} (h : List.Forall₂ StandsFor ds ss) :
    ss.map ofSymbol = ds.map normal := by
  induction h with
  | nil => rfl
  | cons hs _ ih => rw [List.map_cons, List.map_cons, ofSymbol_of_standsFor hs, ih]

theorem build_normal (d : Definition) : d.normal.build = d.build := by
  obtain ⟨kind, id, p⟩ := d
  cases kind <;> rfl

theorem buildAll_normal (ds : List Definition) : buildAll (ds.map normal) = buildAll ds := by
  induction ds with
  | nil => rfl
  | cons d ds ih => rw [List.map_cons, buildAll_cons, buildAll_cons, build_normal, ih]

theorem buildCatalog_normal (ds : List Definition) (v : Validator Symbol) :
    buildCatalog (ds.map normal) v = buildCatalog ds v := by
  rw [buildCatalog, buildAll_normal, buildCatalog]

end Definition

namespace Emission

open Definition

/-! ## tables of what was built -/

theorem table_of_standFor {s : Catalog Symbol} {ds : List Definition} (h : List.Forall₂ StandsFor ds s.items) :
    (table s).result = .ok (String.ofList (array (ds.map normal))) := by
  rw [table_result, map_ofSymbol h]

/-- **Tables give the definitions back that their symbols were built from**, for any list that there can be (`maxItems`):
one by one, but for those of the sentinel, which come back under its identifier and without a pattern. What comes back
builds what the definitions build, under every validator, and the table of what it builds is the table it was read from,
to the letter. -/
theorem definitions_restored {ds : List Definition} {v : Validator Symbol} {s : Catalog Symbol}
    (h : ds.length ≤ Catalog.maxItems) (hs : (buildCatalog ds v).result = .ok s) :
    ∃ text, (table s).result = .ok text ∧ readTable? text.toList = some (ds.map normal) ∧
      (∀ w, buildCatalog (ds.map normal) w = buildCatalog ds w) ∧
      (∀ w t, (buildCatalog (ds.map normal) w).result = .ok t → (table t).result = .ok text) ∧
      ∃ t, (buildCatalog (ds.map normal) .free).result = .ok t := by
  have hitems := (built_of_buildCatalog h hs).1
  refine ⟨_, table_of_standFor hitems, ?_, buildCatalog_normal ds, fun w t ht => ?_, ?_⟩
  · rw [String.toList_ofList]
    exact readTable?_array _
  · rw [buildCatalog_normal] at ht
    exact table_of_standFor (built_of_buildCatalog h ht).1
  · rw [buildCatalog_normal]
    exact ⟨_, (buildCatalog_eq_ok h).2 ⟨s.items, hitems, fun _ _ => rfl, rfl⟩⟩

/-- an awkward string, a sentinel with an identifier and a pattern, an expression, and a quote -/
def scribbled : List Definition :=
  [⟨.start, "], [\"", .string "\\ü\n"⟩, ⟨.endOfInput, "end", .character "ab"⟩, ⟨.nonTerminal, "", .regexpAnywhere "a|b"⟩,
    ⟨.terminal, "a, b", .character "\""⟩]

theorem scribbled_restored :
    scribbled.length ≤ Catalog.maxItems ∧ ∃ s text,
      (buildCatalog scribbled (.ofType ⟨"Symbol"⟩)).result = .ok s ∧ (table s).result = .ok text ∧
      readTable? text.toList = some [⟨.start, "], [\"", .string "\\ü\n"⟩, ⟨.endOfInput, "$", .absent⟩,
        ⟨.nonTerminal, "", .regexpAnywhere "a|b"⟩, ⟨.terminal, "a, b", .character "\""⟩] := by
  have hlength : scribbled.length ≤ Catalog.maxItems := by decide
  have hsound : ∀ d ∈ scribbled, d.Sound := by
    simp only [scribbled, List.forall_mem_cons]
    exact ⟨Or.inr trivial, Or.inl rfl, Or.inr ⟨_, rfl⟩, Or.inr rfl, nofun⟩
  obtain ⟨ss, hss⟩ := exists_symbols_iff.2 hsound
  have hbuilt : (buildCatalog scribbled (.ofType ⟨"Symbol"⟩)).result = .ok ⟨Catalog.numbered ss, _⟩ :=
    (buildCatalog_eq_ok hlength).2 ⟨ss, hss, fun _ _ => rfl, rfl⟩
  obtain ⟨text, htext, hread, -⟩ := definitions_restored hlength hbuilt
  exact ⟨hlength, _, text, hbuilt, htext, hread⟩

end Emission

end Lexicon
