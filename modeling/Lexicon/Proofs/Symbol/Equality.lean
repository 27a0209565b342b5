/-
Equal symbols. Equality of patterns looks at what is written of them: a character, a text, or the source and the anchoring
of an expression, but never at its program (`Pattern.alike`). That is enough, because a program belongs to its source and
anchoring (`Regexp.eq_of_source`); so patterns that are written alike are one and the same, and so are symbols
(`Symbol.alike_iff`). What is built from definitions is equal exactly if the definitions are (`Pattern.alike_of_build`,
`Symbol.isIdentical_of_build`), the fields that a sentinel ignores apart.

Equality of sets goes by entries and leaves the validators out (`sameEntries_iff`). Overwriting a symbol with an equal one
puts back what stood there, in its place.

Results: `equal_symbols_indistinguishable`.
-/
import Lexicon.Proofs.Catalog.Interchange
import Lexicon.Proofs.Catalog.Priority
import Lexicon.Proofs.Emission.Restoring

namespace Lexicon

/-! ## patterns written alike -/

theorem PatternText.build_eq_ok {a : PatternText} {id : String} {p : Pattern} :
    (a.build id).result = .ok p ↔ a.StandsFor p := by
  refine ⟨fun h => ?_, fun h => build_of_standsFor h id⟩
  obtain ⟨-, q, hq⟩ | ⟨-, c, hc⟩ := a.sound_or_faulty id
  · obtain rfl := Except.ok.inj (h.symm.trans (build_of_standsFor hq id))
    exact hq
  · cases h.symm.trans (build_of_faulty hc)

namespace Pattern

/-- whether two patterns are written alike; the programs of expressions are not looked at -/
def alike : Pattern → Pattern → Bool
  | .character c, .character d => c == d
  | .string s, .string t => s == t
  | .regexp r, .regexp q => r.source == q.source && r.anchoring == q.anchoring
  | _, _ => false

variable {p q : Pattern}

/-- Patterns written alike are one pattern: the program of an expression is that of its source and anchoring. -/
theorem alike_iff : p.alike q = true ↔ p = q := by
  cases p with
  | character c => cases q <;> simp [alike]
  | string s => cases q <;> simp [alike]
  | regexp r =>
    cases q with
    | regexp q =>
      rw [alike, Bool.and_eq_true, beq_iff_eq, beq_iff_eq, Pattern.regexp.injEq]
      exact ⟨fun h => Regexp.eq_of_source h.1 h.2, fun h => h ▸ ⟨rfl, rfl⟩⟩
    | _ => simp [alike]

/-- Equality of patterns compares what is written of them. -/
theorem beq_eq_alike (p q : Pattern) : (p == q) = p.alike q := by
  rw [Bool.eq_iff_iff, beq_iff_eq, alike_iff]

/-- nothing that a pattern shows or takes tells it from the other -/
structure Indistinguishable (p q : Pattern) : Prop where
  kind : q.kind = p.kind
  display : q.display = p.display
  dump : q.dump = p.dump
  text : PatternText.ofPattern q = .ofPattern p
  find : ∀ input, q.find? input = p.find? input

theorem indistinguishable_of_alike (h : p.alike q = true) : p.Indistinguishable q := by
  obtain rfl := alike_iff.1 h
  exact ⟨rfl, rfl, rfl, rfl, fun _ => rfl⟩

/-- Patterns are written alike exactly if tables have them the same. -/
theorem alike_iff_ofPattern : p.alike q = true ↔ PatternText.ofPattern p = .ofPattern q := by
  rw [alike_iff]
  constructor
  · rintro rfl
    rfl
  · intro h
    have hbuilt := PatternText.build_ofPattern "" p
    rw [h, PatternText.build_ofPattern] at hbuilt
    exact (Except.ok.inj hbuilt).symm

/-- What is built from two texts is equal exactly if the texts are, whoever is blamed for a missing one. -/
theorem alike_of_build {a b : PatternText} {i j : String} (hp : (a.build i).result = .ok p)
    (hq : (b.build j).result = .ok q) : p.alike q = true ↔ a = b := by
  rw [alike_iff_ofPattern, PatternText.ofPattern_of_standsFor (PatternText.build_eq_ok.1 hp),
    PatternText.ofPattern_of_standsFor (PatternText.build_eq_ok.1 hq)]

end Pattern

/-! ## symbols written alike -/

namespace Symbol

/-- whether two symbols are written alike, in identifier, kind and pattern -/
def alike (x y : Symbol) : Bool :=
  x.id == y.id && x.kind == y.kind &&
    match x.pattern?, y.pattern? with
    | none, none => true
    | some p, some q => p.alike q
    | _, _ => false

variable {x y : Symbol}

theorem alike_iff : x.alike y = true ↔ x = y := by
  cases x with
  | endOfInput =>
    cases y with
    | endOfInput => exact iff_of_true rfl rfl
    | plain role id q => simp [alike, kind, Ne.symm role.kind_ne_endOfInput]
  | plain role id p =>
    cases y with
    | endOfInput => simp [alike, kind, role.kind_ne_endOfInput]
    | plain role' id' q =>
      have hkind : role.kind = role'.kind ↔ role = role' := by cases role <;> cases role' <;> decide
      simp only [alike, Symbol.id, kind, pattern?, Bool.and_eq_true, beq_iff_eq, Pattern.alike_iff, hkind,
        Symbol.plain.injEq]
      tauto

/-- Identity of symbols compares what is written of them. -/
theorem isIdentical_eq_alike (x y : Symbol) : isIdentical x y = x.alike y := by
  rw [Bool.eq_iff_iff, alike_iff]
  exact decide_eq_true_iff

/-- nothing that a symbol shows, takes or leaves in a table tells it from the other -/
structure Indistinguishable (x y : Symbol) : Prop where
  id : y.id = x.id
  kind : y.kind = x.kind
  dump : y.dump = x.dump
  isA : ∀ tag, Typed.isA y tag = Typed.isA x tag
  text : Emission.ofSymbol y = Emission.ofSymbol x
  taken : ∀ input, y.match? input = x.match? input

theorem indistinguishable_of_identical (h : isIdentical x y = true) : x.Indistinguishable y := by
  rw [isIdentical_eq_alike] at h
  obtain rfl := alike_iff.1 h
  exact ⟨rfl, rfl, rfl, fun _ => rfl, rfl, fun _ => rfl⟩

/-- What is built from two definitions is identical exactly if their normal forms are equal. -/
theorem isIdentical_of_build {d e : Definition} (hx : d.build.result = .ok x) (hy : e.build.result = .ok y) :
    isIdentical x y = true ↔ d.normal = e.normal := by
  rw [isIdentical_eq_alike, alike_iff, ← Definition.ofSymbol_of_standsFor (Definition.build_eq_ok.1 hx),
    ← Definition.ofSymbol_of_standsFor (Definition.build_eq_ok.1 hy)]
  exact ⟨congrArg _, Definition.ofSymbol_injective⟩

end Symbol

/-! ## equal sets of symbols -/

namespace Catalog

/-- Catalogs are equal if they have the same entries in the same order, whatever their validators. -/
theorem sameEntries_iff {α : Type} [BEq α] [LawfulBEq α] {s t : Catalog α} :
    s.sameEntries t = true ↔ s.entries = t.entries := by
  have hlists (es fs : Entries Key α) :
      (es.length == fs.length && (es.zip fs).all fun p => p.1.1 == p.2.1 && p.1.2 == p.2.2) = true ↔ es = fs := by
    induction es generalizing fs with
    | nil => cases fs <;> simp
    | cons e es ih =>
      cases fs with
      | nil => simp
      | cons f fs =>
        have hrest := ih fs
        simp only [Bool.and_eq_true, beq_iff_eq] at hrest
        simp only [List.length_cons, List.zip_cons_cons, List.all_cons, Bool.and_eq_true, beq_iff_eq,
          Nat.add_right_cancel_iff, List.cons.injEq, Prod.ext_iff, ← hrest]
        tauto
  exact hlists s.entries t.entries

/-- no query and no table tells a set of symbols from the other -/
structure Indistinguishable (s t : Catalog Symbol) : Prop where
  keys : t.keys = s.keys
  items : List.Forall₂ Symbol.Indistinguishable s.items t.items
  start : t.start? = s.start?
  endOfInput : t.endOfInput? = s.endOfInput?
  symbol : ∀ id, t.symbol? id = s.symbol? id
  firstMatch : ∀ input, t.firstMatch? input = s.firstMatch? input
  table : Emission.table t = Emission.table s
  declaration : ∀ name, Emission.render name t = Emission.render name s

theorem indistinguishable_of_entries {s t : Catalog Symbol} (h : s.entries = t.entries) : s.Indistinguishable t := by
  have hitems : t.items = s.items := congrArg Entries.items h.symm
  have htable : Emission.table t = Emission.table s := by rw [Emission.table, hitems, Emission.table]
  refine ⟨congrArg Entries.keys h.symm, ?_, ?_, ?_, fun id => ?_, fun input => ?_, htable, fun name => ?_⟩
  · rw [hitems, List.forall₂_same]
    exact fun x _ => Symbol.indistinguishable_of_identical (decide_eq_true rfl)
  · rw [start?, hitems, start?]
  · rw [endOfInput?, hitems, endOfInput?]
  · rw [symbol?, hitems, symbol?]
  · rw [firstMatch?_eq_answer?, firstMatch?_eq_answer?, h]
  · rw [Emission.render, Emission.render, htable, size, size, h]

/-- an insertion of a symbol at a key that holds an identical one -/
inductive Restates (s : Catalog Symbol) : Edit Symbol → Prop where
  | insert {k : Key} {x y : Symbol} (hx : s.entries.at? k = some x) (hy : isIdentical x y = true) :
      Restates s (.insert k y)

/-- Overwriting a symbol with an identical one changes nothing, accepted or refused. -/
theorem perform_restates {s : Catalog Symbol} {e : Edit Symbol} (h : s.Restates e) : (s.perform e).1 = s := by
  cases h with
  | @insert k x y hx hy =>
    rw [Symbol.isIdentical_eq_alike] at hy
    obtain rfl := Symbol.alike_iff.1 hy
    rcases insert_cases s k x with ⟨f, log, hs⟩ | hs <;> rw [perform, hs]
    rw [Entries.put_of_at? hx]

theorem after_restates {s : Catalog Symbol} {es : List (Edit Symbol)} (h : ∀ e ∈ es, s.Restates e) :
    (Run.after s es).catalog = s := by
  induction es using List.reverseRecOn with
  | nil => rfl
  | append_singleton es e ih =>
    have hbefore : (Run.after s es).catalog = s := ih fun f hf => h f (List.mem_append_left _ hf)
    rw [Run.after_snoc, Run.next, hbefore]
    exact perform_restates (h e (by simp))

/-- Where the validator has accepted what is stored, it accepts it again; the answer is the symbol overwritten. -/
theorem Reachable.insert_identical {C : Copying Symbol} {s : Catalog Symbol} (h : Reachable C s) {k : Key}
    {x y : Symbol} (hx : s.entries.at? k = some x) (hy : isIdentical x y = true) :
    s.insert k y = ⟨s, .done (some x)⟩ := by
  rw [Symbol.isIdentical_eq_alike] at hy
  obtain rfl := Symbol.alike_iff.1 hy
  have haccepted : s.validator.accepts x = true := h.valid.accepted _ (Entries.mem_of_at? hx)
  rw [insert_eq, if_pos haccepted, Entries.put_of_at? hx, hx]

/-! ## equality and what can be observed -/

/-- **Equal patterns and symbols are indistinguishable**, although the programs of expressions are never compared. An
expression has the program that its source compiles to under its anchoring, so patterns that are written alike are of one
kind, show the same and take the same of every input; and what two texts or definitions build is equal exactly if they are
the same. Sets of symbols with equal entries answer every query and are written in the same way. So overwriting stored
symbols by identical ones, any number of times, leaves the set, its answers and its table as they were; on a set that can
be made, each time the symbol overwritten is answered. -/
theorem equal_symbols_indistinguishable :
    (∀ r : Regexp, (Regexp.ofSource r.source r.anchoring).result = .ok r) ∧
      (∀ p q : Pattern, (p == q) = p.alike q ∧ (p.alike q = true → p.Indistinguishable q)) ∧
      (∀ (a b : PatternText) i j p q, (a.build i).result = .ok p → (b.build j).result = .ok q →
        (p.alike q = true ↔ a = b)) ∧
      (∀ x y : Symbol, isIdentical x y = x.alike y ∧ (isIdentical x y = true → x.Indistinguishable y)) ∧
      (∀ (d e : Definition) x y, d.build.result = .ok x → e.build.result = .ok y →
        (isIdentical x y = true ↔ d.normal = e.normal)) ∧
      (∀ s t : Catalog Symbol, s.sameEntries t = true → s.Indistinguishable t) ∧
      (∀ (s : Catalog Symbol) es, (∀ e ∈ es, s.Restates e) →
        (Run.after s es).catalog = s ∧ s.sameEntries (Run.after s es).catalog = true ∧
          s.Indistinguishable (Run.after s es).catalog) ∧
      ∀ (C : Copying Symbol) s k x y, Reachable C s → s.get k = .ok x → isIdentical x y = true →
        s.insert k y = ⟨s, .done (some x)⟩ := by
  refine ⟨fun r => Regexp.ofSource_ok.2 ⟨rfl, rfl⟩, fun p q => ⟨p.beq_eq_alike q, Pattern.indistinguishable_of_alike⟩,
    fun _ _ _ _ _ _ => Pattern.alike_of_build,
    fun x y => ⟨x.isIdentical_eq_alike y, Symbol.indistinguishable_of_identical⟩,
    fun _ _ _ _ => Symbol.isIdentical_of_build, fun s t h => indistinguishable_of_entries (sameEntries_iff.1 h),
    fun s es h => ?_, fun C s k x y hs hx => hs.insert_identical (get_eq_ok.1 hx)⟩
  rw [after_restates h]
  exact ⟨rfl, sameEntries_iff.2 rfl, indistinguishable_of_entries rfl⟩

/-- a terminal with an expression, and the sentinel behind it -/
def choices (r : Regexp) : Catalog Symbol :=
  ⟨[(.name "x", .plain .terminal "x" (.regexp r)), (.index 0, .endOfInput)], .ofType ⟨"Terminal"⟩⟩

theorem choices_overwritten :
    ∃ (r q : Regexp) (y : Symbol), r.source = "a|b" ∧ q.source = "a|b" ∧
      (Pattern.regexp r).display = (Pattern.regexp q).display ∧ (Pattern.regexp r == .regexp q) = false ∧
      (Definition.build ⟨.terminal, "x", .regexp "a|b"⟩).result = .ok y ∧ (choices r).Reachable (.values Symbol) ∧
      (choices r).get (.name "x") = .ok y ∧ (choices r).insert (.name "x") y = ⟨choices r, .done (some y)⟩ := by
  obtain ⟨-, hpatterns, htexts, -, hdefinitions, -, -, hinsert⟩ := equal_symbols_indistinguishable
  obtain ⟨r, hr, hfront⟩ : ∃ r : Regexp, r.source = "a|b" ∧ r.anchoring = .start := ⟨⟨"a|b", .start, _, rfl⟩, rfl, rfl⟩
  obtain ⟨q, hq, hanywhere⟩ : ∃ q : Regexp, q.source = "a|b" ∧ q.anchoring = .anywhere :=
    ⟨⟨"a|b", .anywhere, _, rfl⟩, rfl, rfl⟩
  have hbuilt : (Definition.build ⟨.terminal, "x", .regexp "a|b"⟩).result =
      .ok (.plain .terminal "x" (.regexp r)) := by
    rw [Definition.build_eq_ok, ← hr]
    exact .plain .terminal "x" (.regexp hfront)
  have hmade : (ofEntries (choices r).entries (choices r).validator).result = .ok (choices r) := rfl
  have hreachable : (choices r).Reachable (.values Symbol) := .ofEntries (Validator.faithful_values _) hmade
  have hdifferent : ¬ (Pattern.regexp r).alike (.regexp q) = true := by
    rw [htexts (.regexp "a|b") (.regexpAnywhere "a|b") "" "" _ _ ?_ ?_]
    · exact nofun
    · rw [PatternText.build_eq_ok, ← hr]
      exact .regexp hfront
    · rw [PatternText.build_eq_ok, ← hq]
      exact .regexpAnywhere hanywhere
  refine ⟨r, q, _, hr, hq, ?_, ?_, hbuilt, hreachable, rfl, ?_⟩
  · rw [Pattern.display, Pattern.display, hr, hq]
  · rw [(hpatterns _ _).1]
    exact Bool.eq_false_iff.2 hdifferent
  · exact hinsert _ _ _ _ _ hreachable rfl ((hdefinitions _ _ _ _ hbuilt hbuilt).2 rfl)

end Catalog

end Lexicon
