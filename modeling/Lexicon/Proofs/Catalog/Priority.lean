/-
The order of a set of symbols as a priority. A query gives the answer of the first entry that has one, the entry that
answers (`Answers`). So its answer over entries one behind the other is that of the front ones, or else that of the
others (`answer?_append`), and every change of a catalog is one of entries at a place: what is new stands behind all
others, what is taken out leaves the others in order, and what is overwritten keeps its place
(`Entries.put_append_cons`).

Results: `queries_prioritized`. The four queries answer by priority (`Prioritized`) on every catalog of symbols that can
be made: their answer comes from the entry that answers, and no change lets a later entry pass an earlier one.
-/
import Lexicon.Catalog.Symbols
import Lexicon.Proofs.Catalog.Frame
import Lexicon.Proofs.Catalog.Pushing
import Lexicon.Proofs.Catalog.Views

namespace Lexicon

theorem Entries.put_append_cons {κ α : Type} [DecidableEq κ] {k : κ} {x y : α} {before after : Entries κ α}
    (h : k ∉ keys before) : put k x (before ++ (k, y) :: after) = before ++ (k, x) :: after := by
  induction before with
  | nil => simp [put]
  | cons e rest ih =>
    simp only [keys, List.map_cons, List.mem_cons, not_or] at h
    simpa [put, Ne.symm h.1] using ih h.2

namespace Catalog

variable {α β : Type} {ask : α → Option β} {es before after : Entries Key α} {k j : Key} {x y z : α}

/-! ## the first answer -/

/-- the answer of the first entry that has one -/
def answer? (ask : α → Option β) (es : Entries Key α) : Option β := es.items.findSome? ask

/-- the entry of x at k answers: it has an answer, and no entry before it has one -/
def Answers (ask : α → Option β) (es : Entries Key α) (k : Key) (x : α) : Prop :=
  ∃ before after, es = before ++ (k, x) :: after ∧ (∀ e ∈ before, ask e.2 = none) ∧ ask x ≠ none

theorem answer?_append (es fs : Entries Key α) : answer? ask (es ++ fs) = (answer? ask es).or (answer? ask fs) := by
  simp [answer?, Entries.items]

theorem answer?_cons (e : Key × α) (es : Entries Key α) : answer? ask (e :: es) = (ask e.2).or (answer? ask es) := by
  rw [← List.singleton_append, answer?_append]
  simp [answer?, Entries.items]

theorem answer?_eq_none : answer? ask es = none ↔ ∀ e ∈ es, ask e.2 = none := by
  simp only [answer?, Entries.items, List.findSome?_eq_none_iff, List.forall_mem_map]

theorem answer?_of_answers (h : Answers ask es k x) : answer? ask es = ask x := by
  obtain ⟨before, after, rfl, hbefore, hx⟩ := h
  obtain ⟨b, hb⟩ := Option.ne_none_iff_exists'.1 hx
  rw [answer?_append, answer?_cons, answer?_eq_none.2 hbefore, Option.none_or, hb, Option.some_or]

/-- There is an answer exactly if an entry answers. -/
theorem answer?_eq_some {b : β} : answer? ask es = some b ↔ ∃ k x, Answers ask es k x ∧ ask x = some b := by
  constructor
  · intro h
    obtain ⟨front, x, back, hitems, hx, hfront⟩ := List.findSome?_eq_some_iff.1 h
    obtain ⟨before, others, rfl, rfl, hothers⟩ := List.map_eq_append_iff.1 hitems
    obtain ⟨⟨k, x⟩, after, rfl, rfl, -⟩ := List.map_eq_cons_iff.1 hothers
    refine ⟨k, x, ⟨before, after, rfl, fun e he => ?_, by simp [hx]⟩, hx⟩
    exact hfront _ (List.mem_map_of_mem he)
  · rintro ⟨k, x, h, hb⟩
    rw [answer?_of_answers h, hb]

/-- Only one entry answers. -/
theorem Answers.unique (hx : Answers ask es k x) (hz : Answers ask es j z) : (k, x) = (j, z) := by
  obtain ⟨before, after, rfl, hbefore, hx⟩ := hx
  obtain ⟨front, back, heq, hfront, hz⟩ := hz
  rcases List.append_eq_append_iff.1 heq with ⟨between, rfl, hrest⟩ | ⟨between, rfl, hrest⟩
  · cases between with
    | nil => exact (List.cons.inj hrest).1
    | cons e rest => exact absurd (hfront (k, x) (by simp [(List.cons.inj hrest).1])) hx
  · cases between with
    | nil => exact (List.cons.inj hrest).1.symm
    | cons e rest => exact absurd (hbefore (j, z) (by simp [(List.cons.inj hrest).1])) hz

/-- Where no key is there twice, no entry before the one that answers has an answer. -/
theorem Answers.none_before (h : Answers ask (before ++ (k, x) :: after) k x)
    (hkeys : Entries.keys (before ++ (k, x) :: after) |>.Nodup) : answer? ask before = none := by
  obtain ⟨front, back, heq, hfront, -⟩ := h
  have hnodup : (before ++ (k, x) :: after).Nodup := List.Nodup.of_map _ hkeys
  rw [List.nodup_middle, List.nodup_cons, List.mem_append, not_or] at hnodup
  obtain ⟨rfl, -, -⟩ := (List.append_cons_inj_of_notMem hnodup.1.1 hnodup.1.2).1 heq
  exact answer?_eq_none.2 hfront

/-! ## entries changed -/

theorem answer?_put_absent (h : k ∉ es.keys) (x : α) : answer? ask (es.put k x) = (answer? ask es).or (ask x) := by
  rw [Entries.put_of_not_mem h, answer?_append, answer?_cons]
  simp [answer?, Entries.items]

/-- Only the entry that answers is missed. -/
theorem answer?_erase (h : es.keys.Nodup) (hk : ∀ x, ¬ Answers ask es k x) :
    answer? ask (es.erase k) = answer? ask es := by
  by_cases hmem : k ∈ es.keys
  · obtain ⟨y, hy⟩ := Entries.mem_keys.1 hmem
    obtain ⟨before, after, rfl, hbefore⟩ := Entries.exists_append_cons h (Entries.mem_of_at? hy)
    rw [Entries.erase_append_cons hbefore, answer?_append, answer?_append, answer?_cons]
    cases hfront : answer? ask before with
    | some b => rw [Option.some_or, Option.some_or]
    | none =>
      -- nothing answers before the entry, so it would be the one that answers
      have hnone : ask y = none := by
        by_contra hsome
        exact hk y ⟨before, after, rfl, answer?_eq_none.1 hfront, hsome⟩
      simp only [hnone, Option.none_or]
  · rw [Entries.erase_of_not_mem hmem]

theorem answer?_overwrite (h : k ∉ before.keys) (x : α) :
    answer? ask (Entries.put k x (before ++ (k, y) :: after)) =
      (answer? ask before).or ((ask x).or (answer? ask after)) := by
  rw [Entries.put_append_cons h, answer?_append, answer?_cons]

/-- An entry overwritten in front of the one that answers is asked before it. -/
theorem answer?_overwrite_before (hbefore : k ∉ before.keys)
    (hkeys : Entries.keys (before ++ (k, y) :: after) |>.Nodup) (hz : Answers ask (before ++ (k, y) :: after) j z)
    (hj : (j, z) ∈ after) (x : α) :
    answer? ask (Entries.put k x (before ++ (k, y) :: after)) =
      (ask x).or (answer? ask (before ++ (k, y) :: after)) := by
  obtain ⟨between, behind, rfl⟩ := List.append_of_mem hj
  have hsplit : before ++ (k, y) :: (between ++ (j, z) :: behind) =
      (before ++ (k, y) :: between) ++ (j, z) :: behind := by simp
  have hnone : answer? ask (before ++ (k, y) :: between) = none := by
    rw [hsplit] at hz hkeys
    exact hz.none_before hkeys
  rw [answer?_append, answer?_cons, Option.or_eq_none_iff, Option.or_eq_none_iff] at hnone
  obtain ⟨hfront, hy, -⟩ := hnone
  simp only [answer?_overwrite hbefore, answer?_append, answer?_cons, hfront, hy, Option.none_or]

/-- One overwritten behind it is not asked. -/
theorem answer?_overwrite_behind (hbefore : k ∉ before.keys) (hz : Answers ask (before ++ (k, y) :: after) j z)
    (hj : (j, z) ∈ before) (x : α) :
    answer? ask (Entries.put k x (before ++ (k, y) :: after)) = answer? ask (before ++ (k, y) :: after) := by
  have hsome : answer? ask before ≠ none := by
    intro hnone
    obtain ⟨-, -, -, -, hanswer⟩ := hz
    exact hanswer (answer?_eq_none.1 hnone _ hj)
  obtain ⟨b, hb⟩ := Option.ne_none_iff_exists'.1 hsome
  rw [answer?_overwrite hbefore, answer?_append, hb, Option.some_or, Option.some_or]

/-! ## queries -/

/-- a query that asks every item the same gives the answer of the first entry that has one, and changes keep to that:
what is new is asked last, what is removed is missed only if it answered, and what is overwritten is asked in its
place -/
structure Prioritized [Typed α] (ask : α → Option β) (query : Catalog α → Option β) (s : Catalog α) : Prop where
  answer : ∀ b, query s = some b ↔ ∃ k x, Answers ask s.entries k x ∧ ask x = some b
  noAnswer : query s = none ↔ ∀ e ∈ s.entries, ask e.2 = none
  insertNew : ∀ k x former, k ∉ s.keys → (s.insert k x).outcome.result = .ok former →
    query (s.insert k x).catalog = (query s).or (ask x)
  push : ∀ k x, (s.push x).outcome.result = .ok k → query (s.push x).catalog = (query s).or (ask x)
  remove : ∀ k, (∀ x, ¬ Answers ask s.entries k x) → query (s.remove k).catalog = query s
  overwrite : ∀ k x y former before after, s.entries = before ++ (k, y) :: after →
    (s.insert k x).outcome.result = .ok former →
      (s.insert k x).catalog.entries = before ++ (k, x) :: after ∧
        query (s.insert k x).catalog = (answer? ask before).or ((ask x).or (answer? ask after)) ∧
        (∀ j z, Answers ask s.entries j z → (j, z) ∈ after →
          query (s.insert k x).catalog = (ask x).or (query s)) ∧
        ∀ j z, Answers ask s.entries j z → (j, z) ∈ before → query (s.insert k x).catalog = query s
  refused : ∀ e : Edit α, (s.perform e).2.isRefused = true → query (s.perform e).1 = query s

theorem entries_of_insert [Typed α] {s : Catalog α} {former : Option α}
    (h : (s.insert k x).outcome.result = .ok former) : (s.insert k x).catalog.entries = s.entries.put k x := by
  rcases insert_cases s k x with ⟨f, log, hs⟩ | hs <;> rw [hs] at h ⊢
  cases h

theorem entries_of_push [Typed α] {s : Catalog α} (h : (s.push x).outcome.result = .ok k) :
    k ∉ s.keys ∧ (s.push x).catalog.entries = s.entries.put k x := by
  rcases nextIndex_cases s with ⟨hfull, -⟩ | ⟨-, i, hnext, hi⟩
  · rw [push_full hfull] at h
    cases h
  · rw [push_eq, hnext] at h ⊢
    simp only at h ⊢
    split_ifs at h ⊢
    · obtain rfl : Key.index i = k := Except.ok.inj h
      exact ⟨hi.not_mem, rfl⟩
    · cases h

theorem prioritized_of_nodup [Typed α] {query : Catalog α → Option β} (hquery : ∀ s, query s = answer? ask s.entries)
    {s : Catalog α} (h : s.keys.Nodup) : s.Prioritized ask query where
  answer b := by rw [hquery, answer?_eq_some]
  noAnswer := by rw [hquery, answer?_eq_none]
  insertNew k x former hk hinsert := by
    rw [hquery, hquery, entries_of_insert hinsert]
    exact answer?_put_absent hk x
  push k x hpush := by
    obtain ⟨hk, hentries⟩ := entries_of_push hpush
    rw [hquery, hquery, hentries]
    exact answer?_put_absent hk x
  remove k hk := by
    rw [hquery, hquery]
    exact answer?_erase h hk
  overwrite k x y former before after hentries hinsert := by
    have hkeys : Entries.keys (before ++ (k, y) :: after) |>.Nodup := hentries ▸ h
    have hk : k ∉ before.keys := by
      intro hk
      rw [Entries.keys, List.map_append, List.nodup_append] at hkeys
      exact hkeys.2.2 k hk k List.mem_cons_self rfl
    simp only [hquery, entries_of_insert hinsert, hentries]
    exact ⟨Entries.put_append_cons hk, answer?_overwrite hk x,
      fun j z hz hj => answer?_overwrite_before hk hkeys hz hj x, fun j z hz hj => answer?_overwrite_behind hk hz hj x⟩
  refused e he := by rw [perform_refused he]

theorem firstMatch?_eq_answer? (s : Catalog Symbol) (input : String) :
    s.firstMatch? input = answer? (fun x => (x.match? input).map fun m => (x, m)) s.entries := by
  simp only [firstMatch?, firstTake?, answer?, items, List.map_findSome?, Function.comp_def, Option.map_map,
    Symbol.match?]

/-- every query of a set of symbols answers by priority -/
structure QueriesPrioritized (s : Catalog Symbol) : Prop where
  start : s.Prioritized (Option.guard Symbol.isStart) start?
  endOfInput : s.Prioritized (Option.guard Symbol.isEndOfInput) endOfInput?
  symbol : ∀ id, s.Prioritized (Option.guard fun x => x.id == id) fun t => t.symbol? id
  firstMatch : ∀ input, s.Prioritized (fun x => (x.match? input).map fun m => (x, m)) fun t => t.firstMatch? input

theorem Made.queriesPrioritized {C : Copying Symbol} {s : Catalog Symbol} (h : Made C s) : s.QueriesPrioritized where
  start := prioritized_of_nodup (fun _ => List.find?_eq_findSome?_guard) h.distinct
  endOfInput := prioritized_of_nodup (fun _ => List.find?_eq_findSome?_guard) h.distinct
  symbol _ := prioritized_of_nodup (fun _ => List.find?_eq_findSome?_guard) h.distinct
  firstMatch input := prioritized_of_nodup (fun t => t.firstMatch?_eq_answer? input) h.distinct

/-- **The order of a set of symbols is a stable priority**, for every set that can be made and for every set in a slot
after any run: the first match, the start symbol, the sentinel and the symbol of an identifier are those of the earliest
entry that has one. An item at a new key is asked last; a removal leaves the answer unless it removes the entry that
answers; an item that overwrites another is asked in its place, so before the entry that answers it becomes the answer
if it has one, and changes nothing if not. -/
theorem queries_prioritized (C : Copying Symbol) :
    (∀ s, Made C s → s.QueriesPrioritized) ∧
      ∀ (ops : List (Workspace.Op Symbol)) (on : String) (s : Catalog Symbol),
        (Workspace.run [] ops).1.at? on = some s → s.QueriesPrioritized := by
  refine ⟨fun s h => h.queriesPrioritized, fun ops on s hs => ?_⟩
  have hempty : Workspace.AllReachable ([] : Workspace Symbol) := by simp [Workspace.AllReachable]
  have hreachable : Reachable (.values Symbol) s := (Workspace.run_reachable hempty ops).of_at? hs
  exact hreachable.made.queriesPrioritized

/-- the keyword -/
def keyword (id : String) : Symbol := .plain .terminal id (.string "if")

/-- a digit, the keyword, and the letter that it begins with -/
def keywords : Catalog Symbol := ⟨[(.index 0, .plain .terminal "zero" (.character '0')), (.name "if", keyword "if"),
  (.index 1, .plain .terminal "i" (.character 'i'))], .free⟩

theorem keywords_prioritized :
    keywords.Made (.values Symbol) ∧ keywords.firstMatch? "if" = some (keyword "if", "if") ∧
      (keywords.push (keyword "elif")).catalog.firstMatch? "if" = keywords.firstMatch? "if" ∧
      (keywords.remove (.index 1)).catalog.firstMatch? "if" = keywords.firstMatch? "if" ∧
      (keywords.insert (.index 0) (keyword "elif")).catalog.firstMatch? "if" = some (keyword "elif", "if") ∧
      (keywords.insert (.index 1) (keyword "elif")).catalog.firstMatch? "if" = keywords.firstMatch? "if" := by
  have hgathered : (ofEntries keywords.entries .free).result = .ok keywords := rfl
  have hmade : keywords.Made (.values Symbol) := .ofEntries hgathered
  have hqueries := ((queries_prioritized (.values Symbol)).1 keywords hmade).firstMatch "if"
  have hmatch (id : String) : (keyword id).match? "if" = some "if" := rfl
  have hanswers : Answers (fun x : Symbol => (x.match? "if").map fun m => (x, m)) keywords.entries (.name "if")
      (keyword "if") := by
    refine ⟨[_], [_], rfl, ?_, by simp [hmatch]⟩
    simp only [List.mem_singleton, forall_eq]
    decide +kernel
  have hfirst : keywords.firstMatch? "if" = some (keyword "if", "if") :=
    (hqueries.answer _).2 ⟨_, _, hanswers, by simp [hmatch]⟩
  refine ⟨hmade, hfirst, ?_, ?_, ?_, ?_⟩
  · rw [hqueries.push (.index 2) _ (by decide +kernel), hfirst, Option.some_or]
  · exact hqueries.remove _ fun x hx => absurd (hx.unique hanswers) (by simp)
  · obtain ⟨-, -, hbefore, -⟩ := hqueries.overwrite (.index 0) (keyword "elif") _ _ [] _ rfl rfl
    rw [hbefore _ _ hanswers (by simp), hmatch]
    rfl
  · obtain ⟨-, -, -, hbehind⟩ := hqueries.overwrite (.index 1) (keyword "elif") _ _ [_, _] _ rfl rfl
    exact hbehind _ _ hanswers (by simp)

end Catalog

end Lexicon
