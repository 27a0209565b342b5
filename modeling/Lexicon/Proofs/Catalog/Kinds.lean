/-
Kinds of symbols and their tags. A selection asks a symbol whether it is a terminal, a validator asks it for a tag by
name; both go by the kinds that a kind covers (`SymbolKind.covered`): the sentinel is a terminal, the start symbol a
non-terminal. Every kind is covered by one of the two (`mem_covered_nonTerminal`). So terminals and non-terminals of a set
divide its symbols, and the tag of one of them refuses exactly those that the other selection holds.

Results: `kinds_and_tags_agree`.
-/
import Lexicon.Proofs.Catalog.Blame
import Lexicon.Proofs.Catalog.Selection

namespace Lexicon

/-! ## kinds -/

namespace SymbolKind

/-- the kinds whose symbols satisfy the tag of a kind -/
def covered : SymbolKind → List SymbolKind
  | .terminal => [.terminal, .endOfInput]
  | .nonTerminal => [.nonTerminal, .start]
  | .start => [.start]
  | .endOfInput => [.endOfInput]

theorem isTerminal_iff (k : SymbolKind) : k.isTerminal = true ↔ k ∈ covered .terminal := by
  cases k <;> decide

theorem isNonTerminal_iff (k : SymbolKind) : k.isNonTerminal = true ↔ k ∈ covered .nonTerminal := by
  cases k <;> decide

theorem mem_covered_nonTerminal (k : SymbolKind) : k ∈ covered .nonTerminal ↔ k ∉ covered .terminal := by
  cases k <;> decide

end SymbolKind

/-- A symbol satisfies the tag of a kind exactly if the kind covers its own. -/
theorem Symbol.isA_name (x : Symbol) (k : SymbolKind) : isA x k.name = true ↔ x.kind ∈ k.covered := by
  change (k.name == "Symbol" || k.name == x.kind.name || (k.name == SymbolKind.terminal.name && x.kind.isTerminal) ||
    (k.name == SymbolKind.nonTerminal.name && x.kind.isNonTerminal)) = true ↔ x.kind ∈ k.covered
  generalize x.kind = j
  cases j <;> cases k <;> decide

namespace Catalog

/-! ## selections and tags -/

/-- A selection is empty only if nothing passes the test. -/
theorem entries_filter_eq_nil {α : Type} {s : Catalog α} {p : α → Bool} :
    (s.filter p).entries = [] ↔ ∀ e ∈ s.entries, p e.2 = false := by
  have hnumbered : numbered (s.items.filter p) = [] ↔ s.items.filter p = [] := by
    rw [numbered, List.map_eq_nil_iff, List.zipIdx_eq_nil_iff]
  change Entries.collect (numbered (s.items.filter p)) = [] ↔ _
  rw [Entries.collect_eq_nil, hnumbered, List.filter_eq_nil_iff, items, Entries.items, List.forall_mem_map]
  simp only [Bool.not_eq_true]

/-- what the tag of one kind makes of a set, where `these` are the symbols of that kind and `others` those of the kind
opposed to it -/
structure SetsApart (kind opposed : SymbolKind) (s these others : Catalog Symbol) : Prop where
  accepted : these.setValidator (.ofType kind.tag) = ⟨⟨these.entries, .ofType kind.tag⟩, .done ()⟩
  succeeds : (s.setValidator (.ofType kind.tag)).outcome.result = .ok () ↔ others.entries = []
  fails : ∀ f, (s.setValidator (.ofType kind.tag)).outcome.result = .error f ↔
    ∃ n k x, IsFirst (fun e => e.2.kind ∈ opposed.covered) s.entries n (k, x) ∧ f = ⟨.invalidItem x.kind.name, some k⟩
  kept : ∀ C, Reachable C s → s.validator = .ofType kind.tag → others.entries = []
  members : s.size ≤ positionLimit → ∀ x, x ∈ others.items ↔ x ∈ s.items ∧ x.kind ∈ opposed.covered

theorem accepts_tag (k : SymbolKind) (x : Symbol) :
    (Validator.ofType k.tag).accepts x = true ↔ x.kind ∈ k.covered := x.isA_name k

/-- The tag of a kind and a selection of the other symbols exclude each other. -/
theorem setsApart {kind opposed : SymbolKind} {p q : Symbol → Bool} (hp : ∀ x, p x = true ↔ x.kind ∈ kind.covered)
    (hq : ∀ x, q x = true ↔ x.kind ∈ opposed.covered) (hopposed : ∀ k, k ∈ opposed.covered ↔ k ∉ kind.covered)
    (s : Catalog Symbol) : s.SetsApart kind opposed (s.filter p) (s.filter q) := by
  have hrefused (x : Symbol) : (Validator.ofType kind.tag).accepts x = false ↔ x.kind ∈ opposed.covered := by
    rw [← Bool.not_eq_true, accepts_tag, hopposed]
  have hempty : (∀ e ∈ s.entries, (Validator.ofType kind.tag).accepts e.2 = true) ↔ (s.filter q).entries = [] := by
    rw [entries_filter_eq_nil]
    refine forall₂_congr fun e _ => ?_
    rw [← Bool.not_eq_true, hq, ← hrefused, Bool.not_eq_false]
  have hjudged := judges_setValidator (.ofType kind.tag) s
  refine ⟨?_, ?_, fun f => ?_, fun C hs hv => ?_, fun h x => ?_⟩
  · have haccepted : ∀ e ∈ (s.filter p).entries, (Validator.ofType kind.tag).accepts e.2 = true :=
      fun e he => (accepts_tag kind e.2).2 ((hp e.2).1 (List.mem_filter.1 (mem_items_of_mem_filter he)).2)
    rw [setValidator_eq, Validator.offender?_eq_none.2 haccepted]
  · rw [← hempty, ← hjudged.succeeds]
    exact ⟨fun h => ⟨(), h⟩, fun ⟨_, h⟩ => h⟩
  · simp only [hjudged.fails f, hrefused]
    rfl
  · have hvalid := hs.valid.accepted
    rw [hv] at hvalid
    exact hempty.1 hvalid
  · rw [items_filter h, List.mem_filter, hq]

/-- **Kinds and tags tell the same story** of every set of symbols. Its terminals and non-terminals divide it: every
symbol is in one of the two, and as far as keys can tell positions apart the symbols of the set are merged from them, each
in its order. Setting the validator to the tag of terminals succeeds on the terminals, and on the set itself exactly if it
has no non-terminals; if it has some, it is refused for the first symbol that is one of them, by the name of its own kind
and at its key. A set under that tag never holds a non-terminal. The same holds the other way round. -/
theorem kinds_and_tags_agree (s : Catalog Symbol) :
    (s.size ≤ positionLimit → Interleaves s.terminals.items s.nonTerminals.items s.items ∧
      ∀ x ∈ s.items, Xor (x ∈ s.terminals.items) (x ∈ s.nonTerminals.items)) ∧
      s.SetsApart .terminal .nonTerminal s.terminals s.nonTerminals ∧
      s.SetsApart .nonTerminal .terminal s.nonTerminals s.terminals := by
  have hterminal (x : Symbol) : x.isTerminal = true ↔ x.kind ∈ SymbolKind.terminal.covered := x.kind.isTerminal_iff
  have hnonTerminal (x : Symbol) : x.isNonTerminal = true ↔ x.kind ∈ SymbolKind.nonTerminal.covered :=
    x.kind.isNonTerminal_iff
  have hopposed := SymbolKind.mem_covered_nonTerminal
  refine ⟨fun h => ?_, setsApart hterminal hnonTerminal hopposed s,
    setsApart hnonTerminal hterminal (fun k => (not_iff_comm.1 (hopposed k).symm).symm) s⟩
  have hothers : Symbol.isNonTerminal = fun x => !x.isTerminal := by
    funext x
    rw [Bool.eq_iff_iff, hnonTerminal, hopposed, ← hterminal, Bool.not_eq_true', Bool.not_eq_true]
  rw [terminals, nonTerminals, items_filter h, items_filter h, hothers]
  refine ⟨interleaves_filter _ _, fun x hx => ?_⟩
  cases hx' : x.isTerminal <;> simp [Xor, hx, hx']

/-- a start symbol under a name, a sentinel, a terminal and a non-terminal under indices out of order -/
def grammar : Catalog Symbol :=
  ⟨[(.index 7, .plain .terminal "+" (.character '+')), (.name "S", .plain .start "S" (.string "S")),
    (.index 2, .plain .nonTerminal "E" (.string "E")), (.index (-1), .endOfInput)], .ofType ⟨"Symbol"⟩⟩

theorem grammar_set_apart :
    grammar.size ≤ positionLimit ∧ grammar.terminals.items = [.plain .terminal "+" (.character '+'), .endOfInput] ∧
      Interleaves grammar.terminals.items grammar.nonTerminals.items grammar.items ∧
      (grammar.setValidator (.ofType ⟨"Terminal"⟩)).outcome.result =
        .error ⟨.invalidItem "Start", some (.name "S")⟩ ∧
      (grammar.setValidator (.ofType ⟨"NonTerminal"⟩)).outcome.result =
        .error ⟨.invalidItem "Terminal", some (.index 7)⟩ ∧
      (grammar.terminals.setValidator (.ofType ⟨"Terminal"⟩)).outcome.result = .ok () := by
  have hsize : grammar.size ≤ positionLimit := by decide
  obtain ⟨hdivided, hterminal, hnonTerminal⟩ := kinds_and_tags_agree grammar
  refine ⟨hsize, rfl, (hdivided hsize).1, ?_, ?_, ?_⟩
  · exact (hterminal.fails _).2 ⟨1, _, _, isFirst_cons.2 (Or.inr ⟨0, rfl, by decide,
      isFirst_cons.2 (Or.inl ⟨rfl, rfl, by decide⟩)⟩), rfl⟩
  · exact (hnonTerminal.fails _).2 ⟨0, _, _, isFirst_cons.2 (Or.inl ⟨rfl, rfl, by decide⟩), rfl⟩
  · exact congrArg (fun c => c.outcome.result) hterminal.accepted

end Catalog

end Lexicon
