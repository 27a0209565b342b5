/-
What a form matches. A `Place` is the character before it and the text behind it; `f.Takes p q` says that f can match
the text from p to q, with no word on which of its matches is preferred. A repetition takes its least number of rounds
and some more, as many as the greatest number leaves room for.

The constructors that keep forms simple do not change what is taken: `takes_sequence` (neighbouring literals joined,
what is empty left out) and `takesAny_spliceAlternations`. A common beginning in front of alternatives is only
followed as far as needed here: where the first alternative asks for the front of the input, the choice takes behind
the front what the other alternatives take (`takes_oneOf_behind_front`).

Results: `takes_sequence`, `takes_oneOf_behind_front`.
-/
import Mathlib.Tactic.Common
import Lexicon.Expression.Search

namespace Lexicon.Expression

/-! ## places -/

/-- a place in an input: the character before it and the text behind it -/
structure Place where
  before : Option Char
  rest : List Char

namespace Place

/-- the place i characters into an input -/
def inside (input : List Char) (i : Nat) : Place := ⟨(input.take i).getLast?, input.drop i⟩

theorem inside_append (front rest : List Char) : inside (front ++ rest) front.length = ⟨front.getLast?, rest⟩ := by
  simp [inside]

theorem before_inside_ne_none {input : List Char} {i : Nat} (hpos : 0 < i) (hle : i ≤ input.length) :
    (inside input i).before ≠ none := by
  intro h
  have hnil : input.take i = [] := List.getLast?_eq_none_iff.1 h
  have hlength := congrArg List.length hnil
  simp only [List.length_take, List.length_nil] at hlength
  omega

/-- reading c leads from one place to another -/
def Reads (p : Place) (c : Char) (q : Place) : Prop := p.rest = c :: q.rest ∧ q.before = some c

/-- so does reading a text -/
def ReadsText : List Char → Place → Place → Prop
  | [], p, q => q = p
  | c :: cs, p, q => ∃ r, p.Reads c r ∧ ReadsText cs r q

/-- two places on the way, in either order -/
theorem then_assoc {R : Place → Prop} {S : Place → Place → Prop} {T : Place → Prop} :
    (∃ r, R r ∧ ∃ s, S r s ∧ T s) ↔ ∃ s, (∃ r, R r ∧ S r s) ∧ T s := by
  constructor
  · rintro ⟨r, hr, s, hs, ht⟩
    exact ⟨s, ⟨r, hr, hs⟩, ht⟩
  · rintro ⟨s, ⟨r, hr, hs⟩, ht⟩
    exact ⟨r, hr, s, hs, ht⟩

theorem readsText_append (as bs : List Char) (p q : Place) :
    ReadsText (as ++ bs) p q ↔ ∃ r, ReadsText as p r ∧ ReadsText bs r q := by
  induction as generalizing p with
  | nil => simp [ReadsText]
  | cons a as ih =>
    simp only [List.cons_append, ReadsText, ih]
    exact then_assoc

/-- n steps of a relation between places -/
def Rounds (R : Place → Place → Prop) : Nat → Place → Place → Prop
  | 0, p, q => q = p
  | n + 1, p, q => ∃ r, R p r ∧ Rounds R n r q

theorem rounds_add (R : Place → Place → Prop) (m n : Nat) (p q : Place) :
    Rounds R (m + n) p q ↔ ∃ r, Rounds R m p r ∧ Rounds R n r q := by
  induction m generalizing p with
  | zero => simp [Rounds]
  | succ m ih =>
    rw [Nat.succ_add]
    simp only [Rounds, ih]
    exact then_assoc

end Place

open Place

/-! ## what forms take -/

mutual

/-- whether a form can match the text between two places -/
def Form.Takes : Form → Place → Place → Prop
  | .empty, p, q => q = p
  | .literal text, p, q => ReadsText text p q
  | .set s, p, q => ∃ c, s.contains c = true ∧ p.Reads c q
  | .look l, p, q => l.holds p.before p.rest.head? = true ∧ q = p
  | .repetition min max _ a, p, q =>
    ∃ extra, (∀ m ∈ max, extra ≤ m - min) ∧ Rounds (fun r s => a.Takes r s) (min + extra) p q
  | .capture _ a, p, q => a.Takes p q
  | .concat as, p, q => Form.TakesAll as p q
  | .alternation as, p, q => Form.TakesAny as p q

/-- whether forms can match one after the other -/
def Form.TakesAll : List Form → Place → Place → Prop
  | [], p, q => q = p
  | a :: as, p, q => ∃ r, a.Takes p r ∧ Form.TakesAll as r q

/-- whether one of the forms can match -/
def Form.TakesAny : List Form → Place → Place → Prop
  | [], _, _ => False
  | a :: as, p, q => a.Takes p q ∨ Form.TakesAny as p q

end

namespace Form

theorem takesAny_iff (fs : List Form) (p q : Place) : TakesAny fs p q ↔ ∃ f ∈ fs, f.Takes p q := by
  induction fs with
  | nil => simp [TakesAny]
  | cons f fs ih => simp [TakesAny, ih]

theorem takesAny_append (as bs : List Form) (p q : Place) :
    TakesAny (as ++ bs) p q ↔ TakesAny as p q ∨ TakesAny bs p q := by
  simp only [takesAny_iff, List.mem_append, or_and_right, exists_or]

theorem takesAll_append (as bs : List Form) (p q : Place) :
    TakesAll (as ++ bs) p q ↔ ∃ r, TakesAll as p r ∧ TakesAll bs r q := by
  induction as generalizing p with
  | nil => simp [TakesAll]
  | cons a as ih =>
    simp only [List.cons_append, TakesAll, ih]
    exact then_assoc

/-! ## sequences -/

theorem takesAll_spliceConcats (fs : List Form) (p q : Place) : TakesAll (spliceConcats fs) p q ↔ TakesAll fs p q := by
  induction fs generalizing p with
  | nil => rfl
  | cons f fs ih =>
    cases f with
    | concat ps => simp only [spliceConcats, takesAll_append, ih, TakesAll, Takes]
    | _ => simp only [spliceConcats, TakesAll, ih]

theorem takesAll_joinLiterals (fs : List Form) (p q : Place) : TakesAll (joinLiterals fs) p q ↔ TakesAll fs p q := by
  induction fs generalizing p with
  | nil => rfl
  | cons f fs ih =>
    cases f with
    | empty => simp only [joinLiterals, TakesAll, Takes, ih, exists_eq_left]
    | literal a =>
      have hjoined (p : Place) : TakesAll (.literal a :: joinLiterals fs) p q ↔ TakesAll (.literal a :: fs) p q := by
        simp only [TakesAll, ih]
      rw [← hjoined]
      simp only [joinLiterals]
      split
      · rename_i b more h
        rw [h]
        simp only [TakesAll, Takes, readsText_append]
        exact then_assoc.symm
      · rfl
    | _ => simp only [joinLiterals, TakesAll, ih]

/-- **A sequence takes what its parts take** one after the other. -/
theorem takes_sequence (fs : List Form) (p q : Place) : (sequence fs).Takes p q ↔ TakesAll fs p q := by
  rw [← takesAll_spliceConcats, ← takesAll_joinLiterals]
  unfold sequence
  split
  · rename_i h
    rw [h]
    rfl
  · rename_i f h
    rw [h]
    simp [TakesAll]
  · rfl

/-! ## choices -/

theorem takesAny_spliceAlternations (fs : List Form) (p q : Place) :
    TakesAny (spliceAlternations fs) p q ↔ TakesAny fs p q := by
  induction fs with
  | nil => rfl
  | cons f fs ih =>
    cases f with
    | alternation bs => simp only [spliceAlternations, takesAny_append, ih, TakesAny, Takes]
    | _ => simp only [spliceAlternations, TakesAny, ih]

/-- a sequence of parts of which the first asks for the front of the input -/
def atFront (fs : List Form) : Form := sequence (.look .textStart :: fs)

theorem before_of_takesAll {fs : List Form} {p q : Place} (h : TakesAll (.look .textStart :: fs) p q) :
    p.before = none := by
  obtain ⟨r, ⟨hlook, -⟩, -⟩ := h
  simpa [Look.holds] using hlook

theorem before_of_takes_atFront {fs : List Form} {p q : Place} (h : (atFront fs).Takes p q) : p.before = none :=
  before_of_takesAll ((takes_sequence _ p q).1 h)

/-- Such a sequence keeps its shape: the question alone, or a sequence that starts with it. -/
theorem atFront_cases (fs : List Form) :
    atFront fs = .look .textStart ∨ ∃ more, atFront fs = .concat (.look .textStart :: more) := by
  simp only [atFront, sequence, spliceConcats, joinLiterals]
  cases joinLiterals (spliceConcats fs) with
  | nil => exact Or.inl rfl
  | cons f more => exact Or.inr ⟨f :: more, rfl⟩

theorem same_look {l : Look} {f : Form} (h : (Form.look l).same f = true) : f = .look l := by
  cases f with
  | look k => rw [eq_of_beq (show (l == k) = true from h)]
  | _ => cases h

theorem commonStart_cons {as bs front : List Form} {a : Form} (h : commonStart as bs = a :: front) :
    (∃ as', as = a :: as') ∧ ∃ b bs', bs = b :: bs' ∧ a.same b = true := by
  cases as with
  | nil => simp [commonStart] at h
  | cons a' as' =>
    cases bs with
    | nil => simp [commonStart] at h
    | cons b bs' =>
      by_cases hs : a'.same b = true
      · simp only [commonStart, hs, if_true, List.cons.injEq] at h
        exact ⟨⟨as', by rw [h.1]⟩, b, bs', rfl, h.1 ▸ hs⟩
      · simp [commonStart, hs] at h

/-- What is common to all lists stands first in each. -/
theorem foldl_commonStart_cons {ps : List Form} {rest : List (List Form)} {a : Form} {front : List Form}
    (h : rest.foldl commonStart ps = a :: front) :
    (∃ ps', ps = a :: ps') ∧ ∀ qs ∈ rest, ∃ b qs', qs = b :: qs' ∧ a.same b = true := by
  induction rest generalizing ps with
  | nil => exact ⟨⟨front, h⟩, by simp⟩
  | cons qs rest ih =>
    obtain ⟨⟨ps', hps⟩, hrest⟩ := ih h
    obtain ⟨hfirst, hqs⟩ := commonStart_cons hps
    refine ⟨hfirst, fun rs hrs => ?_⟩
    rcases List.mem_cons.1 hrs with rfl | hrs
    · exact hqs
    · exact hrest rs hrs

theorem allParts?_eq_some {fs : List Form} {pss : List (List Form)} (h : allParts? fs = some pss) :
    fs = pss.map .concat := by
  induction fs generalizing pss with
  | nil =>
    obtain rfl : [] = pss := Option.some.inj h
    rfl
  | cons f fs ih =>
    cases f with
    | concat ps =>
      simp only [allParts?, parts?, Option.bind_some, Option.map_eq_some_iff] at h
      obtain ⟨qss, hqss, rfl⟩ := h
      rw [List.map_cons, ← ih hqss]
    | _ => simp [allParts?, parts?] at h

/-- Behind the front, a factored choice whose first branch asks for the front takes what its branches take. -/
theorem takes_factored_behind_front {more bs : List Form} {p q : Place} (hp : p.before ≠ none) :
    (factored (.concat (.look .textStart :: more) :: bs)).Takes p q ↔
      TakesAny (.concat (.look .textStart :: more) :: bs) p q := by
  unfold factored
  split
  · rename_i ps rest h
    have hbranches := allParts?_eq_some h
    simp only [List.map_cons, List.cons.injEq, Form.concat.injEq] at hbranches
    obtain ⟨rfl, rfl⟩ := hbranches
    cases hfront : rest.foldl commonStart (.look .textStart :: more) with
    | nil => rfl
    | cons a front =>
      -- the common beginning asks for the front, so neither side takes anything
      obtain ⟨⟨ps', hps⟩, hrest⟩ := foldl_commonStart_cons hfront
      obtain ⟨rfl, -⟩ := List.cons.inj hps
      simp only [List.isEmpty_cons, Bool.false_eq_true, if_false]
      constructor
      · intro ht
        exact absurd (before_of_takes_atFront ht) hp
      · rw [takesAny_iff]
        rintro ⟨f, hf, ht⟩
        obtain ⟨qs, hqs, rfl⟩ := List.mem_map.1 (show f ∈ ((_ :: rest).map .concat) from hf)
        obtain ⟨qs', rfl⟩ : ∃ qs', qs = .look .textStart :: qs' := by
          rcases List.mem_cons.1 hqs with rfl | hqs
          · exact ⟨more, rfl⟩
          · obtain ⟨b, qs', rfl, hb⟩ := hrest qs hqs
            exact ⟨qs', by rw [same_look hb]⟩
        exact absurd (before_of_takesAll ht) hp
  · rfl

/-- **A choice behind the front.** Where the first of several forms asks for the front of the input, their choice
takes at any other place what the other forms take. -/
theorem takes_oneOf_behind_front {fs others : List Form} {p q : Place} (hp : p.before ≠ none) :
    (oneOf (atFront fs :: others)).Takes p q ↔ ∃ f ∈ others, f.Takes p q := by
  have hfirst : ¬ (atFront fs).Takes p q := fun h => hp (before_of_takes_atFront h)
  have hany : TakesAny (atFront fs :: spliceAlternations others) p q ↔ ∃ f ∈ others, f.Takes p q := by
    rw [← takesAny_iff, ← takesAny_spliceAlternations others]
    simp [TakesAny, hfirst]
  rw [← hany]
  rcases atFront_cases fs with h | ⟨more, h⟩ <;> rw [h] <;> simp only [oneOf, spliceAlternations] <;>
    cases spliceAlternations others with
    | nil => simp [choice, TakesAny]
    | cons b bs => ?_
  · rfl
  · exact takes_factored_behind_front hp

end Form

end Lexicon.Expression
