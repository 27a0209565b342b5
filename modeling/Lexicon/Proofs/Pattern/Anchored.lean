/-
Where anchored expressions match. An anchored source is compiled behind an assertion and inside a group; a source that
closes the group itself can have further branches, which the assertion does not bind. `Strays` says that one of them
matches further in while nothing matches at the front of the input. That is the only way for an anchored expression to
find a match elsewhere: a search takes the first place that has a match (`search?_at_front`), the program accepts what
the form takes (`accepts_program`), and behind the front the form takes what the branches outside take
(`takes_behind_front`).

Results: `anchored_at_front`; a source without branches outside is always matched at the front
(`findsAtFront_of_no_branches`).
-/
import Lexicon.Proofs.Definition
import Lexicon.Proofs.Expression.Outermost
import Lexicon.Proofs.Expression.Searching

namespace Lexicon

open Expression

namespace Regexp

/-- matches found in the input start at its first character -/
def FindsAtFront (r : Regexp) (input : List Char) : Prop := ∀ k n, r.program.search? input = some (k, n) → k = 0

/-- one of the branches outside matches further in, and nothing matches at the front -/
def Strays (form : Form) (others : List Form) (input : List Char) : Prop :=
  (∃ i, 0 < i ∧ i ≤ input.length ∧ ∃ f ∈ others, ∃ q, f.Takes (.inside input i) q) ∧
    ¬ ∃ q, form.Takes (.inside input 0) q

/-- An expression has the program of the form of its text. -/
theorem exists_form (r : Regexp) :
    ∃ form, formOf (r.anchoring.wrap r.source.toList) = .ok form ∧ r.program = form.program := by
  have hcompiled := r.compiled
  unfold compile at hcompiled
  split at hcompiled
  · cases hcompiled
  · rename_i form hform
    split_ifs at hcompiled with hfits
    exact ⟨form, hform, (Except.ok.inj hcompiled).symm⟩

theorem matchesAt_iff {r : Regexp} {form : Form} (h : r.program = form.program) (place : Place) :
    r.program.MatchesAt place ↔ ∃ q, form.Takes place q := by
  rw [h]
  exact exists_congr fun q => form.accepts_program place q

theorem find?_prefix {r : Regexp} {input m : List Char} (h : r.FindsAtFront input) (hm : r.find? input = some m) :
    m <+: input := by
  obtain ⟨⟨k, n⟩, hsearch, rfl⟩ := Option.map_eq_some_iff.1 hm
  obtain rfl := h k n hsearch
  exact List.take_prefix n input

theorem findsAtFront_iff {r : Regexp} {form : Form} {others : List Form} (hprogram : r.program = form.program)
    (hothers : ∀ p q, p.before ≠ none → (form.Takes p q ↔ ∃ g ∈ others, g.Takes p q)) (input : List Char) :
    r.FindsAtFront input ↔ ¬ Strays form others input := by
  have hbehind {i : Nat} (hpos : 0 < i) (hle : i ≤ input.length) :
      r.program.MatchesAt (.inside input i) ↔ ∃ f ∈ others, ∃ q, f.Takes (.inside input i) q := by
    rw [matchesAt_iff hprogram]
    simp only [hothers _ _ (Place.before_inside_ne_none hpos hle)]
    constructor
    · rintro ⟨q, f, hf, hq⟩
      exact ⟨f, hf, q, hq⟩
    · rintro ⟨f, hf, q, hq⟩
      exact ⟨q, f, hf, hq⟩
  rw [FindsAtFront, Program.search?_at_front]
  constructor
  · rintro hfront ⟨⟨i, hpos, hle, hout⟩, hnone⟩
    exact hnone ((matchesAt_iff hprogram _).1 (hfront i hpos hle ((hbehind hpos hle).2 hout)))
  · intro hnot i hpos hle hm
    by_contra hnone
    exact hnot ⟨⟨i, hpos, hle, (hbehind hpos hle).1 hm⟩, fun ht => hnone ((matchesAt_iff hprogram _).2 ht)⟩

/-- What an anchored expression finds in any input, told by the forms of its text and of its branches outside. -/
theorem exists_forms {r : Regexp} (h : r.anchoring = .start) :
    ∃ form others, formOf (Anchoring.start.wrap r.source.toList) = .ok form ∧
      outsideForms (Anchoring.start.wrap r.source.toList) = .ok others ∧
      ∀ input, r.FindsAtFront input ↔ ¬ Strays form others input := by
  obtain ⟨form, hform, hprogram⟩ := r.exists_form
  rw [h] at hform
  obtain ⟨others, hothers, hbehind⟩ := takes_behind_front hform
  exact ⟨form, others, hform, hothers, findsAtFront_iff hprogram hbehind⟩

/-- **Sources that stay in their group** are matched at the front of every input. -/
theorem findsAtFront_of_no_branches {r : Regexp} (h : r.anchoring = .start)
    (hnone : outsideForms (Anchoring.start.wrap r.source.toList) = .ok []) (input : List Char) :
    r.FindsAtFront input := by
  obtain ⟨form, others, -, hothers, hfront⟩ := exists_forms h
  obtain rfl := Except.ok.inj (hothers.symm.trans hnone)
  refine (hfront input).2 ?_
  rintro ⟨⟨i, -, -, f, hf, -⟩, -⟩
  cases hf

/-- a bar inside of the group makes no branch outside -/
example : outsideForms (Anchoring.start.wrap "a|(b)|".toList) = .ok [] := rfl

/-! ## patterns of anchored sources -/

/-- **Anchored expressions match at the front unless they stray.** Whichever way an anchored source becomes a pattern,
what the pattern finds in an input starts at its first character exactly if no branch outside of the assertion strays
there; then it is a prefix of the input. -/
theorem anchored_at_front {source : String} {r : Regexp} (h : (ofSource source .start).result = .ok r) :
    (Pattern.anchored source).result = .ok (.regexp r) ∧
      (∀ d : Definition, d.pattern = .regexp source → d.kind ≠ .endOfInput →
        ∃ role, role.kind = d.kind ∧ d.build.result = .ok (.plain role d.id (.regexp r))) ∧
      ∃ form others, formOf (Anchoring.start.wrap source.toList) = .ok form ∧
        outsideForms (Anchoring.start.wrap source.toList) = .ok others ∧
        ∀ input : String,
          (r.FindsAtFront input.toList ↔ ¬ Strays form others input.toList) ∧
            (¬ Strays form others input.toList → ∀ m, (Pattern.regexp r).find? input = some m →
              m.toList <+: input.toList) := by
  refine ⟨Pattern.anchored_result h, fun d hd hkind => Definition.build_anchored h hd hkind, ?_⟩
  obtain ⟨rfl, hanchoring⟩ := ofSource_ok.1 h
  obtain ⟨form, others, hform, hothers, hfront⟩ := exists_forms hanchoring
  refine ⟨form, others, hform, hothers, fun input => ⟨hfront input.toList, fun hnot m hm => ?_⟩⟩
  obtain ⟨text, htext, rfl⟩ := Option.map_eq_some_iff.1 hm
  rw [String.toList_ofList]
  exact find?_prefix ((hfront input.toList).2 hnot) htext

/-- a source that closes the group it stands in -/
def escaping : String := "a)|(?:b"

theorem escaping_strays_only_without_front :
    ∃ r, (ofSource escaping .start).result = .ok r ∧ r.FindsAtFront "ab".toList ∧ ¬ r.FindsAtFront "xb".toList := by
  have hr : (ofSource escaping .start).result = .ok ⟨escaping, .start, _, rfl⟩ := rfl
  obtain ⟨-, -, form, others, hform, hothers, hinput⟩ := anchored_at_front hr
  have hescaping : formOf (Anchoring.start.wrap escaping.toList) =
      .ok (.alternation [.concat [.look .textStart, .literal ['a']], .literal ['b']]) := rfl
  have houtside : outsideForms (Anchoring.start.wrap escaping.toList) = .ok [.literal ['b']] := rfl
  obtain rfl := Except.ok.inj (hform.symm.trans hescaping)
  obtain rfl := Except.ok.inj (hothers.symm.trans houtside)
  refine ⟨_, hr, (hinput "ab").1.2 fun hstrays => hstrays.2 ?_, fun hfront => (hinput "xb").1.1 hfront ⟨?_, ?_⟩⟩
  · exact ⟨⟨some 'a', ['b']⟩, Or.inl ⟨_, ⟨rfl, rfl⟩, _, ⟨_, ⟨rfl, rfl⟩, rfl⟩, rfl⟩⟩
  · exact ⟨1, by decide, by decide, _, List.mem_singleton_self _, ⟨some 'b', []⟩, _, ⟨rfl, rfl⟩, rfl⟩
  · rintro ⟨q, ⟨r, ⟨-, rfl⟩, s, ⟨t, ⟨hread, -⟩, -⟩, -⟩ | ⟨t, ⟨hread, -⟩, -⟩ | hnone⟩
    · simp [Place.inside] at hread
    · simp [Place.inside] at hread
    · exact hnone

theorem escaping_finds_behind_front :
    ∃ r, (ofSource escaping .start).result = .ok r ∧ r.program.search? "xb".toList = some (1, 1) ∧
      (Pattern.regexp r).find? "xb" = some "b" ∧ ¬ "b".toList <+: "xb".toList :=
  ⟨⟨escaping, .start, _, rfl⟩, rfl, by decide +kernel, by decide +kernel, by decide⟩

end Regexp

end Lexicon
