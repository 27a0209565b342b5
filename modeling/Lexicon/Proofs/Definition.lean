/-
What definitions build. An expression is compiled from its source and anchoring, which determine it (`ofSource_ok`),
so the definition of a symbol builds that symbol again (`build_ofSymbol`), and the definitions of the symbols of a
catalog build its items in their order (`exists_buildCatalog_ofSymbol`). A definition with an anchored source builds a
symbol with the pattern that the source has by itself (`build_anchored`).
-/
import Lexicon.Definition
import Lexicon.Proofs.Catalog.Changes

namespace Lexicon

/-! ## expressions and patterns -/

/-- An expression is made exactly from its own source under its own anchoring. -/
theorem Regexp.ofSource_ok {source : String} {a : Anchoring} {r : Regexp} :
    (ofSource source a).result = .ok r ↔ r.source = source ∧ r.anchoring = a := by
  simp only [ofSource, Attempt.result_noting]
  split
  · rename_i program h
    simp only [Attempt.result_done, Except.ok.injEq]
    constructor
    · rintro rfl
      exact ⟨rfl, rfl⟩
    · rintro ⟨hs, ha⟩
      exact eq_of_source hs.symm ha.symm
  · rename_i refusal h
    constructor
    · intro hf
      cases hf
    · rintro ⟨hs, ha⟩
      have hc := r.compiled
      rw [hs, ha, h] at hc
      cases hc

theorem PatternText.build_ofPattern (id : String) (p : Pattern) :
    ((ofPattern p).build id).result = .ok p := by
  cases p with
  | character c => simp [ofPattern, build]
  | string s => rfl
  | regexp r =>
    have hr : (Regexp.ofSource r.source r.anchoring).result = .ok r := Regexp.ofSource_ok.2 ⟨rfl, rfl⟩
    cases ha : r.anchoring <;> rw [ha] at hr <;>
      simp [ofPattern, ha, build, Pattern.anchored, Pattern.unanchored, Attempt.result_andThen_of_ok hr]

theorem Pattern.anchored_result {source : String} {r : Regexp} (h : (Regexp.ofSource source .start).result = .ok r) :
    (Pattern.anchored source).result = .ok (.regexp r) :=
  Attempt.result_andThen_of_ok h _

namespace Definition

/-! ## definitions -/

theorem build_ofSymbol (s : Symbol) : (ofSymbol s).build.result = .ok s := by
  cases s with
  | endOfInput => rfl
  | plain role id p =>
    have hp := PatternText.build_ofPattern id p
    cases role <;> exact Attempt.result_andThen_of_ok hp _

theorem ofSymbol_injective {s t : Symbol} (h : ofSymbol s = ofSymbol t) : s = t := by
  have hs := build_ofSymbol s
  rw [h, build_ofSymbol t] at hs
  exact (Except.ok.inj hs).symm

theorem buildAll_ofSymbol (ss : List Symbol) : (buildAll (ss.map ofSymbol)).result = .ok ss := by
  induction ss with
  | nil => rfl
  | cons s ss ih =>
    simp only [List.map_cons, buildAll]
    rw [Attempt.result_andThen_of_ok (build_ofSymbol s), Attempt.result_andThen_of_ok ih]
    rfl

/-- The definitions of symbols build the symbols again, one after the other as far as positions can count them. -/
theorem exists_buildCatalog_ofSymbol (ss : List Symbol) :
    ∃ built, (buildCatalog (ss.map ofSymbol) .free).result = .ok built ∧
      (ss.length ≤ Catalog.positionLimit → built.items = ss) := by
  refine ⟨⟨Entries.collect (Catalog.numbered ss), .free⟩, ?_, fun h => ?_⟩
  · rw [buildCatalog, Attempt.result_andThen_of_ok (buildAll_ofSymbol ss), Catalog.withValidator, Catalog.ofEntries_ok]
    exact ⟨fun _ _ => rfl, rfl⟩
  · rw [Catalog.items, Entries.collect_eq (Catalog.keys_numbered_nodup h)]
    exact Catalog.items_numbered ss

/-- a definition with an anchored source builds a symbol with the pattern of that source -/
theorem build_anchored {source : String} {r : Regexp} (h : (Regexp.ofSource source .start).result = .ok r)
    {d : Definition} (hd : d.pattern = .regexp source) (hkind : d.kind ≠ .endOfInput) :
    ∃ role, role.kind = d.kind ∧ d.build.result = .ok (.plain role d.id (.regexp r)) := by
  have hpattern : (d.pattern.build d.id).result = .ok (.regexp r) := by
    rw [hd]
    exact Pattern.anchored_result h
  have has (role : Role) : (d.buildAs role).result = .ok (.plain role d.id (.regexp r)) :=
    Attempt.result_andThen_of_ok hpattern _
  unfold build
  cases hk : d.kind with
  | endOfInput => exact absurd hk hkind
  | terminal => exact ⟨.terminal, rfl, has _⟩
  | nonTerminal => exact ⟨.nonTerminal, rfl, has _⟩
  | start => exact ⟨.start, rfl, has _⟩

end Definition

end Lexicon
