/-
What becomes of a table of definitions. A definition stands for a symbol, or there is something wrong with it, by its kind
and the form of its pattern alone (`StandsFor`, `Faulty`); that is what building it answers (`build_eq_ok`,
`build_eq_error`). A table goes through two passes. The first builds every definition and stops at the first that is not
sound; the second judges the symbols in their places. So a fault anywhere in the table comes before a rejection anywhere,
and no symbol is stored unless all are.

Results: `tables_all_or_nothing`.
-/
import Lexicon.Proofs.Catalog.Blame
import Lexicon.Proofs.Catalog.Rebuilding
import Lexicon.Proofs.Pattern.Validity

namespace Lexicon

open Expression

theorem Regexp.ofSource_of_error {source : String} {a : Anchoring} {refusal : Refusal}
    (h : compile (a.wrap source.toList) = .error refusal) : (ofSource source a).result =
      .error (.of (.invalidPattern source (refusal.report (String.ofList (a.wrap source.toList))))) := by
  obtain ⟨r, ⟨program, hprogram⟩, -⟩ | ⟨refusal', h', hresult⟩ := Pattern.ofSource_cases source a
  · cases h.symm.trans hprogram
  · obtain rfl := Except.error.inj (h.symm.trans h')
    exact hresult

/-- A source is that of an expression with an anchoring, or it is refused under it. -/
theorem Regexp.exists_or_refused (source : String) (a : Anchoring) :
    Pattern.Compiles (a.wrap source.toList) ∧ (∃ r : Regexp, r.source = source ∧ r.anchoring = a) ∨
      ¬ Pattern.Compiles (a.wrap source.toList) ∧ ∃ refusal, compile (a.wrap source.toList) = .error refusal := by
  cases h : compile (a.wrap source.toList) with
  | ok program => exact Or.inl ⟨⟨program, h⟩, ⟨source, a, program, h⟩, rfl, rfl⟩
  | error refusal =>
    refine Or.inr ⟨?_, refusal, rfl⟩
    rintro ⟨program, hprogram⟩
    cases h.symm.trans hprogram

/-! ## patterns as written -/

namespace PatternText

/-- what a written pattern stands for -/
inductive StandsFor : PatternText → Pattern → Prop where
  | character {text : String} {c : Char} (h : text.toList = [c]) : StandsFor (.character text) (.character c)
  | string (text : String) : StandsFor (.string text) (.string text)
  | regexp {r : Regexp} (h : r.anchoring = .start) : StandsFor (.regexp r.source) (.regexp r)
  | regexpAnywhere {r : Regexp} (h : r.anchoring = .anywhere) : StandsFor (.regexpAnywhere r.source) (.regexp r)

/-- the cause for which a source is refused under an anchoring -/
def refused (source : String) (a : Anchoring) (refusal : Refusal) : Cause :=
  .invalidPattern source (refusal.report (String.ofList (a.wrap source.toList)))

/-- what is wrong with a written pattern; `id` is blamed if there is none -/
inductive Faulty (id : String) : PatternText → Cause → Prop where
  | absent : Faulty id .absent (.missingPattern id)
  | character {text : String} (h : text.length ≠ 1) : Faulty id (.character text) (.invalidCharacter text)
  | regexp {source : String} {refusal : Refusal} (h : compile (Anchoring.start.wrap source.toList) = .error refusal) :
      Faulty id (.regexp source) (refused source .start refusal)
  | regexpAnywhere {source : String} {refusal : Refusal}
      (h : compile (Anchoring.anywhere.wrap source.toList) = .error refusal) :
      Faulty id (.regexpAnywhere source) (refused source .anywhere refusal)

/-- a string, one character, or a source that compiles under its anchoring -/
def Sound : PatternText → Prop
  | .absent => False
  | .character text => text.length = 1
  | .string _ => True
  | .regexp source => Pattern.Compiles (Anchoring.start.wrap source.toList)
  | .regexpAnywhere source => Pattern.Compiles (Anchoring.anywhere.wrap source.toList)

variable {p : PatternText} {pattern : Pattern} {c : Cause}

theorem build_of_standsFor (h : p.StandsFor pattern) (id : String) : (p.build id).result = .ok pattern := by
  cases h with
  | character h => simp [build, h]
  | string text => rfl
  | regexp h => exact Attempt.result_andThen_of_ok (Regexp.ofSource_ok.2 ⟨rfl, h⟩) _
  | regexpAnywhere h => exact Attempt.result_andThen_of_ok (Regexp.ofSource_ok.2 ⟨rfl, h⟩) _

theorem build_of_faulty {id : String} (h : p.Faulty id c) : (p.build id).result = .error (.of c) := by
  have hsource {source : String} {a : Anchoring} {refusal : Refusal}
      (h : compile (a.wrap source.toList) = .error refusal) :
      ((Regexp.ofSource source a).andThen fun r => .done (Pattern.regexp r)).result =
        .error (.of (refused source a refusal)) :=
    congrArg Attempt.result (Attempt.andThen_of_error (Regexp.ofSource_of_error h) _)
  cases h with
  | absent => rfl
  | @character text h =>
    simp only [build]
    split
    · rename_i c htext
      exact absurd (congrArg List.length htext) h
    · rfl
  | regexp h => exact hsource h
  | regexpAnywhere h => exact hsource h

/-- A written pattern is sound and stands for a pattern, or there is something wrong with it. -/
theorem sound_or_faulty (id : String) (p : PatternText) :
    p.Sound ∧ (∃ pattern, p.StandsFor pattern) ∨ ¬ p.Sound ∧ ∃ c, p.Faulty id c := by
  cases p with
  | absent => exact Or.inr ⟨not_false, _, .absent⟩
  | character text =>
    by_cases h : text.length = 1
    · obtain ⟨c, hc⟩ := List.length_eq_one_iff.1 h
      exact Or.inl ⟨h, _, .character hc⟩
    · exact Or.inr ⟨h, _, .character h⟩
  | string text => exact Or.inl ⟨trivial, _, .string text⟩
  | regexp source =>
    obtain ⟨h, r, rfl, hr⟩ | ⟨h, refusal, hrefusal⟩ := Regexp.exists_or_refused source .start
    · exact Or.inl ⟨h, _, .regexp hr⟩
    · exact Or.inr ⟨h, _, .regexp hrefusal⟩
  | regexpAnywhere source =>
    obtain ⟨h, r, rfl, hr⟩ | ⟨h, refusal, hrefusal⟩ := Regexp.exists_or_refused source .anywhere
    · exact Or.inl ⟨h, _, .regexpAnywhere hr⟩
    · exact Or.inr ⟨h, _, .regexpAnywhere hrefusal⟩

end PatternText

/-! ## definitions -/

theorem Role.kind_ne_endOfInput (role : Role) : role.kind ≠ .endOfInput := by
  cases role <;> exact nofun

/-- Every kind but that of the sentinel is the kind of a role. -/
theorem SymbolKind.eq_endOfInput_or_role (k : SymbolKind) : k = .endOfInput ∨ ∃ role : Role, role.kind = k := by
  cases k with
  | terminal => exact Or.inr ⟨.terminal, rfl⟩
  | nonTerminal => exact Or.inr ⟨.nonTerminal, rfl⟩
  | start => exact Or.inr ⟨.start, rfl⟩
  | endOfInput => exact Or.inl rfl

namespace Definition

/-- the symbol that a definition stands for -/
inductive StandsFor : Definition → Symbol → Prop where
  | sentinel (id : String) (p : PatternText) : StandsFor ⟨.endOfInput, id, p⟩ .endOfInput
  | plain (role : Role) (id : String) {p : PatternText} {pattern : Pattern} (h : p.StandsFor pattern) :
      StandsFor ⟨role.kind, id, p⟩ (.plain role id pattern)

/-- what is wrong with a definition -/
inductive Faulty : Definition → Cause → Prop where
  | plain (role : Role) {id : String} {p : PatternText} {c : Cause} (h : p.Faulty id c) :
      Faulty ⟨role.kind, id, p⟩ c

/-- a definition of the sentinel, or one with a sound pattern -/
def Sound (d : Definition) : Prop := d.kind = .endOfInput ∨ d.pattern.Sound

variable {d : Definition} {s : Symbol} {f : Failure} {c : Cause}

theorem build_plain (role : Role) (id : String) (p : PatternText) :
    build ⟨role.kind, id, p⟩ = buildAs ⟨role.kind, id, p⟩ role := by
  cases role <;> rfl

theorem build_of_standsFor (h : d.StandsFor s) : d.build.result = .ok s := by
  cases h with
  | sentinel id p => rfl
  | plain role id h =>
    rw [build_plain]
    exact Attempt.result_andThen_of_ok (PatternText.build_of_standsFor h id) _

theorem build_of_faulty (h : d.Faulty c) : d.build.result = .error (.of c) := by
  cases h with
  | plain role h =>
    rw [build_plain]
    exact congrArg Attempt.result (Attempt.andThen_of_error (PatternText.build_of_faulty h) _)

/-- A definition is sound and stands for a symbol, or there is something wrong with it. -/
theorem sound_or_faulty (d : Definition) : d.Sound ∧ (∃ s, d.StandsFor s) ∨ ¬ d.Sound ∧ ∃ c, d.Faulty c := by
  obtain ⟨kind, id, p⟩ := d
  obtain rfl | ⟨role, rfl⟩ := kind.eq_endOfInput_or_role
  · exact Or.inl ⟨Or.inl rfl, _, .sentinel id p⟩
  · obtain ⟨hsound, pattern, hpattern⟩ | ⟨hsound, c, hc⟩ := p.sound_or_faulty id
    · exact Or.inl ⟨Or.inr hsound, _, .plain role id hpattern⟩
    · refine Or.inr ⟨?_, c, .plain role hc⟩
      rintro (hkind | hp)
      · exact role.kind_ne_endOfInput hkind
      · exact hsound hp

theorem build_eq_ok : d.build.result = .ok s ↔ d.StandsFor s := by
  refine ⟨fun h => ?_, build_of_standsFor⟩
  obtain ⟨-, t, ht⟩ | ⟨-, c, hc⟩ := d.sound_or_faulty
  · obtain rfl := Except.ok.inj (h.symm.trans (build_of_standsFor ht))
    exact ht
  · cases h.symm.trans (build_of_faulty hc)

theorem build_eq_error : d.build.result = .error f ↔ ∃ c, d.Faulty c ∧ f = .of c := by
  constructor
  · intro h
    obtain ⟨-, t, ht⟩ | ⟨-, c, hc⟩ := d.sound_or_faulty
    · cases h.symm.trans (build_of_standsFor ht)
    · exact ⟨c, hc, Except.error.inj (h.symm.trans (build_of_faulty hc))⟩
  · rintro ⟨c, hc, rfl⟩
    exact build_of_faulty hc

theorem sound_iff : d.Sound ↔ ∃ s, d.StandsFor s := by
  obtain ⟨hsound, hs⟩ | ⟨hsound, c, hc⟩ := d.sound_or_faulty
  · exact iff_of_true hsound hs
  · refine iff_of_false hsound ?_
    rintro ⟨s, hs⟩
    cases (build_of_standsFor hs).symm.trans (build_of_faulty hc)

theorem Faulty.not_sound (h : d.Faulty c) : ¬ d.Sound := by
  rw [sound_iff]
  rintro ⟨s, hs⟩
  cases (build_of_standsFor hs).symm.trans (build_of_faulty h)

/-! ## tables -/

theorem buildAll_cons (d : Definition) (ds : List Definition) :
    buildAll (d :: ds) = d.build.andThen fun s => (buildAll ds).andThen fun ss => .done (s :: ss) := rfl

/-- The symbols of a table are those its definitions stand for, in order. -/
theorem buildAll_eq_ok {ds : List Definition} {ss : List Symbol} :
    (buildAll ds).result = .ok ss ↔ List.Forall₂ StandsFor ds ss := by
  induction ds generalizing ss with
  | nil => rw [List.forall₂_nil_left_iff, eq_comm, buildAll, Attempt.result_done, Except.ok.injEq]
  | cons d ds ih =>
    simp only [buildAll_cons, Attempt.andThen_eq_ok, build_eq_ok, ih, Attempt.result_done, Except.ok.injEq,
      List.forall₂_cons_left_iff]
    constructor
    · rintro ⟨s, hs, ss, hss, rfl⟩
      exact ⟨s, ss, hs, hss, rfl⟩
    · rintro ⟨s, ss, hs, hss, rfl⟩
      exact ⟨s, hs, ss, hss, rfl⟩

theorem exists_symbols_iff {ds : List Definition} : (∃ ss, List.Forall₂ StandsFor ds ss) ↔ ∀ d ∈ ds, d.Sound := by
  induction ds with
  | nil => exact iff_of_true ⟨[], .nil⟩ nofun
  | cons d ds ih =>
    rw [List.forall_mem_cons, sound_iff, ← ih]
    simp only [List.forall₂_cons_left_iff]
    constructor
    · rintro ⟨_, s, ss, hs, hss, rfl⟩
      exact ⟨⟨s, hs⟩, ss, hss⟩
    · rintro ⟨⟨s, hs⟩, ss, hss⟩
      exact ⟨_, s, ss, hs, hss, rfl⟩

/-- The first definition that is not sound fails the table. -/
theorem buildAll_eq_error {ds : List Definition} : (buildAll ds).result = .error f ↔
    ∃ n d c, IsFirst (fun d => ¬ d.Sound) ds n d ∧ d.Faulty c ∧ f = .of c := by
  induction ds with
  | nil =>
    refine iff_of_false nofun ?_
    rintro ⟨n, d, c, hfirst, -⟩
    cases hfirst.here
  | cons d ds ih =>
    rw [buildAll_cons, Attempt.andThen_eq_error]
    simp only [Attempt.andThen_eq_error]
    constructor
    · rintro (h | ⟨s, hs, h | ⟨ss, -, h⟩⟩)
      · obtain ⟨c, hc, rfl⟩ := build_eq_error.1 h
        exact ⟨0, d, c, isFirst_cons.2 (Or.inl ⟨rfl, rfl, hc.not_sound⟩), hc, rfl⟩
      · obtain ⟨n, e, c, hfirst, hc, rfl⟩ := ih.1 h
        have hd : d.Sound := sound_iff.2 ⟨s, build_eq_ok.1 hs⟩
        exact ⟨n + 1, e, c, isFirst_cons.2 (Or.inr ⟨n, rfl, not_not.2 hd, hfirst⟩), hc, rfl⟩
      · cases h
    · rintro ⟨n, e, c, hfirst, hc, rfl⟩
      obtain ⟨-, rfl, -⟩ | ⟨m, -, hd, hfirst⟩ := isFirst_cons.1 hfirst
      · exact Or.inl (build_of_faulty hc)
      · obtain ⟨s, hs⟩ := sound_iff.1 (not_not.1 hd)
        exact Or.inr ⟨s, build_of_standsFor hs, Or.inl (ih.2 ⟨m, e, c, hfirst, hc, rfl⟩)⟩

theorem StandsFor.unique {x y : Symbol} (hx : d.StandsFor x) (hy : d.StandsFor y) : x = y :=
  Except.ok.inj ((build_of_standsFor hx).symm.trans (build_of_standsFor hy))

theorem accepts_iff_of_standsFor {ds : List Definition} {ss : List Symbol} (h : List.Forall₂ StandsFor ds ss)
    (v : Validator Symbol) :
    (∀ x ∈ ss, v.accepts x = true) ↔ ∀ d ∈ ds, ∀ x, d.StandsFor x → v.accepts x = true := by
  induction h with
  | nil => exact iff_of_true nofun nofun
  | @cons d s ds ss hs _ ih =>
    rw [List.forall_mem_cons, List.forall_mem_cons, ih]
    refine and_congr_left fun _ => ⟨fun haccepts x hx => ?_, fun hall => hall s hs⟩
    rw [hx.unique hs]
    exact haccepts

theorem buildCatalog_eq_ok {ds : List Definition} {v : Validator Symbol} {s : Catalog Symbol}
    (h : ds.length ≤ Catalog.maxItems) : (buildCatalog ds v).result = .ok s ↔
      ∃ ss, List.Forall₂ StandsFor ds ss ∧ (∀ x ∈ ss, v.accepts x = true) ∧ s = ⟨Catalog.numbered ss, v⟩ := by
  rw [buildCatalog, Attempt.andThen_eq_ok]
  simp only [buildAll_eq_ok]
  refine exists_congr fun ss => and_congr_right fun hss => ?_
  have hlength : ss.length ≤ Catalog.maxItems := hss.length_eq ▸ h
  exact Catalog.withValidator_eq_ok hlength

/-- What is built from a table holds what the definitions stand for, in order under dense keys. -/
theorem built_of_buildCatalog {ds : List Definition} {v : Validator Symbol} {s : Catalog Symbol}
    (h : ds.length ≤ Catalog.maxItems) (hs : (buildCatalog ds v).result = .ok s) :
    List.Forall₂ StandsFor ds s.items ∧ s.Dense ∧ s.validator = v := by
  obtain ⟨ss, hss, -, rfl⟩ := (buildCatalog_eq_ok h).1 hs
  have hlength : ss.length ≤ Catalog.maxItems := hss.length_eq ▸ h
  have hitems : Catalog.items ⟨Catalog.numbered ss, v⟩ = ss := Catalog.items_numbered ss
  exact ⟨hitems.symm ▸ hss, Catalog.dense_numbered hlength v, rfl⟩

/-- the outcome for a table under a validator: the symbols that the definitions stand for, in order under dense keys, if
all definitions are sound and all symbols accepted; the fault of the first definition that is not sound, without a key;
or, where all are sound, the rejection of the first symbol that is refused, at its place -/
structure AllOrNothing (ds : List Definition) (v : Validator Symbol) (r : Except Failure (Catalog Symbol)) : Prop where
  succeeds : (∃ s, r = .ok s) ↔ (∀ d ∈ ds, d.Sound) ∧ ∀ d ∈ ds, ∀ x, d.StandsFor x → v.accepts x = true
  built : ∀ s, r = .ok s → List.Forall₂ StandsFor ds s.items ∧ s.Dense ∧ s.validator = v
  fails : ∀ f, r = .error f ↔
    (∃ n d c, IsFirst (fun d => ¬ d.Sound) ds n d ∧ d.Faulty c ∧ f = ⟨c, none⟩) ∨
      ∃ ss n x k, List.Forall₂ StandsFor ds ss ∧ IsFirst (fun x => v.accepts x = false) ss n x ∧ k.IsIndex n ∧
        f = ⟨.invalidItem x.kind.name, some k⟩

/-- **Tables are built all or nothing, with faults before rejections.** A table is built exactly if every definition is
sound (of the sentinel with anything, else with a string, a text of one character, or a source that compiles under its
anchoring) and the validator accepts every symbol; its symbols then stand in order under the indices from 0 on. A
definition that is not sound fails the table with its fault, the first such definition, whatever the validator would say
to symbols before it; without one, the first symbol refused does, by the name of its kind and its place. -/
theorem tables_all_or_nothing {ds : List Definition} (h : ds.length ≤ Catalog.maxItems) (v : Validator Symbol) :
    AllOrNothing ds v (buildCatalog ds v).result where
  succeeds := by
    simp only [buildCatalog_eq_ok h]
    constructor
    · rintro ⟨s, ss, hss, haccepts, rfl⟩
      exact ⟨exists_symbols_iff.1 ⟨ss, hss⟩, (accepts_iff_of_standsFor hss v).1 haccepts⟩
    · rintro ⟨hsound, haccepts⟩
      obtain ⟨ss, hss⟩ := exists_symbols_iff.2 hsound
      exact ⟨_, ss, hss, (accepts_iff_of_standsFor hss v).2 haccepts, rfl⟩
  built _ hs := built_of_buildCatalog h hs
  fails f := by
    rw [buildCatalog, Attempt.andThen_eq_error, buildAll_eq_error]
    refine or_congr Iff.rfl ?_
    simp only [buildAll_eq_ok, (Catalog.judgesInPlace_withValidator v _).fails]
    constructor
    · rintro ⟨ss, hss, n, x, hfirst, rfl⟩
      have hn : n < ss.length := (List.getElem?_eq_some_iff.1 hfirst.here).1
      have hindex : (Key.position n).IsIndex n := Catalog.isIndex_iff.2 ⟨by rw [← hss.length_eq] at hn; omega, rfl⟩
      exact ⟨ss, n, x, _, hss, hfirst, hindex, rfl⟩
    · rintro ⟨ss, n, x, k, hss, hfirst, hk, rfl⟩
      obtain ⟨-, rfl⟩ := Catalog.isIndex_iff.1 hk
      exact ⟨ss, hss, n, x, hfirst, rfl⟩

/-- a non-terminal, a sentinel that ignores its pattern, a terminal without a pattern, and one with two characters -/
def faulty : List Definition :=
  [⟨.nonTerminal, "E", .string "E"⟩, ⟨.endOfInput, "end", .string "?"⟩, ⟨.terminal, "x", .absent⟩,
    ⟨.terminal, "ab", .character "ab"⟩]

/-- a character, a sentinel that ignores its pattern, and an expression for the start symbol -/
def sound : List Definition :=
  [⟨.terminal, "a", .character "ä"⟩, ⟨.endOfInput, "end", .absent⟩, ⟨.start, "S", .regexp "a|b"⟩]

theorem faults_before_rejections :
    faulty.length ≤ Catalog.maxItems ∧ sound.length ≤ Catalog.maxItems ∧
      (buildCatalog faulty (.ofType ⟨"Terminal"⟩)).result = .error ⟨.missingPattern "x", none⟩ ∧
      (buildCatalog sound (.ofType ⟨"Terminal"⟩)).result = .error ⟨.invalidItem "Start", some (.index 2)⟩ ∧
      ∃ s, (buildCatalog sound (.ofType ⟨"Symbol"⟩)).result = .ok s := by
  have hthird {β : Type} {r : β → Prop} {x y z : β} {zs : List β} (hx : ¬ r x) (hy : ¬ r y) (hz : r z) :
      IsFirst r (x :: y :: z :: zs) 2 z :=
    isFirst_cons.2 (Or.inr ⟨1, rfl, hx, isFirst_cons.2 (Or.inr ⟨0, rfl, hy, isFirst_cons.2 (Or.inl ⟨rfl, rfl, hz⟩)⟩)⟩)
  have hfaulty : faulty.length ≤ Catalog.maxItems := by decide
  have hsound : sound.length ≤ Catalog.maxItems := by decide
  have habsent : Faulty ⟨.terminal, "x", .absent⟩ (.missingPattern "x") := .plain .terminal .absent
  obtain ⟨r, hsource, hanchoring⟩ : ∃ r : Regexp, r.source = "a|b" ∧ r.anchoring = .start :=
    ⟨⟨"a|b", .start, _, rfl⟩, rfl, rfl⟩
  have hstart : StandsFor ⟨.start, "S", .regexp "a|b"⟩ (.plain .start "S" (.regexp r)) := by
    rw [← hsource]
    exact .plain .start "S" (.regexp hanchoring)
  have hsymbols : List.Forall₂ StandsFor sound
      [.plain .terminal "a" (.character 'ä'), .endOfInput, .plain .start "S" (.regexp r)] :=
    .cons (.plain .terminal "a" (.character rfl)) (.cons (.sentinel _ _) (.cons hstart .nil))
  refine ⟨hfaulty, hsound, ?_, ?_, ?_⟩
  · refine ((tables_all_or_nothing hfaulty _).fails _).2 (Or.inl ⟨2, _, _, hthird ?_ ?_ habsent.not_sound, habsent, rfl⟩)
    · exact not_not_intro (Or.inr trivial)
    · exact not_not_intro (Or.inl rfl)
  · have hindex : (Key.index 2).IsIndex 2 := ⟨2, rfl, rfl⟩
    refine ((tables_all_or_nothing hsound _).fails _).2 (Or.inr ⟨_, 2, _, _, hsymbols, hthird ?_ ?_ rfl, hindex, rfl⟩)
    · exact nofun
    · exact nofun
  · refine (tables_all_or_nothing hsound _).succeeds.2 ⟨exists_symbols_iff.1 ⟨_, hsymbols⟩, ?_⟩
    exact (accepts_iff_of_standsFor hsymbols _).1 fun x _ => rfl

end Definition

end Lexicon
