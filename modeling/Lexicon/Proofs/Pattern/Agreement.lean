/-
One source under both anchorings. If the source compiles by itself and in the group behind the assertion, then it reads
as the same expression in both places (`Expression.anchored`: a source that closes the group, or that swallows its last
parenthesis, is refused by one of the two). So the anchored program is the other one behind the assertion, and it finds
what the other one finds at the front of the input, of the same length (`Program.search?_atFront`).

Results: `anchored_agrees`.
-/
import Lexicon.Proofs.Expression.Fronting
import Lexicon.Proofs.Expression.Wrapping
import Lexicon.Proofs.Pattern.Anchored

namespace Lexicon

open Expression

namespace Pattern

/-- a pattern of a source is an expression of the source -/
theorem andThen_regexp_eq_ok {source : String} {a : Anchoring} {p : Pattern} :
    ((Regexp.ofSource source a).andThen fun r => .done (.regexp r)).result = .ok p ↔
      ∃ r : Regexp, (r.source = source ∧ r.anchoring = a) ∧ p = .regexp r := by
  simp only [Attempt.andThen_eq_ok, Regexp.ofSource_ok, Attempt.result_done, Except.ok.injEq, eq_comm (b := p)]

theorem anchored_eq_ok {source : String} {p : Pattern} : (anchored source).result = .ok p ↔
    ∃ r : Regexp, (r.source = source ∧ r.anchoring = .start) ∧ p = .regexp r :=
  andThen_regexp_eq_ok

theorem unanchored_eq_ok {source : String} {p : Pattern} : (unanchored source).result = .ok p ↔
    ∃ r : Regexp, (r.source = source ∧ r.anchoring = .anywhere) ∧ p = .regexp r :=
  andThen_regexp_eq_ok

/-- What an expression finds is what its program has between the start and the end of the match. -/
theorem find?_regexp {r : Regexp} {input m : String} : (Pattern.regexp r).find? input = some m ↔
    ∃ k n, r.program.search? input.toList = some (k, n) ∧ m.toList = (input.toList.drop k).take n := by
  simp only [find?, take?, Regexp.find?, Program.find?, Option.map_map, Option.map_eq_some_iff, Prod.exists,
    Function.comp_apply]
  refine exists_congr fun k => exists_congr fun n => and_congr_right fun _ => ?_
  rw [← String.toList_inj, String.toList_ofList, eq_comm]

theorem find?_regexp_eq_none {r : Regexp} {input : String} :
    (Pattern.regexp r).find? input = none ↔ r.program.search? input.toList = none := by
  simp only [find?, take?, Regexp.find?, Program.find?, Option.map_eq_none_iff]

end Pattern

namespace Regexp

/-- An expression that compiles under both anchorings has one form, which the assertion stands in front of or not. -/
theorem exists_form_atFront {r u : Regexp} (hsource : r.source = u.source) (hr : r.anchoring = .start)
    (hu : u.anchoring = .anywhere) : ∃ f : Form, formOf u.source.toList = .ok f ∧ u.program = f.program ∧
      r.program = (Form.atFront [f]).program := by
  obtain ⟨g, hg, hrprogram⟩ := r.exists_form
  obtain ⟨f, hf, huprogram⟩ := u.exists_form
  rw [hr, hsource] at hg
  rw [hu] at hf
  change formOf u.source.toList = .ok f at hf
  refine ⟨f, hf, huprogram, ?_⟩
  cases Expression.anchored u.source.toList with
  | unopened hread => cases (formOf_of_read_error hread).symm.trans hf
  | malformed hform => cases hform.symm.trans hf
  | swallowed _ _ hwrap => cases hwrap.symm.trans hg
  | deep _ _ _ _ hwrap => cases hwrap.symm.trans hg
  | inFront hform _ _ _ hwrap =>
    obtain rfl := Except.ok.inj (hform.symm.trans hf)
    obtain rfl := Except.ok.inj (hwrap.symm.trans hg)
    exact hrprogram

end Regexp

namespace Pattern

/-- **Anchored and unanchored matching agree at the front.** If a source is a pattern under both anchorings, then in
every input the anchored pattern finds a text if the other one does and its match starts at the first character; so it
finds nothing where the other one finds nothing, and both take matches of the same length. -/
theorem anchored_agrees {source : String} {p q : Pattern} (hp : (anchored source).result = .ok p)
    (hq : (unanchored source).result = .ok q) :
    ∃ r u : Regexp, p = .regexp r ∧ q = .regexp u ∧ ∀ input : String,
      (∀ m, p.find? input = some m ↔
        q.find? input = some m ∧ ∃ n, u.program.search? input.toList = some (0, n)) ∧
      (q.find? input = none → p.find? input = none) ∧
      ∀ k n, r.program.search? input.toList = some (k, n) ↔ k = 0 ∧ u.program.search? input.toList = some (0, n) := by
  obtain ⟨r, ⟨hr, hstart⟩, rfl⟩ := anchored_eq_ok.1 hp
  obtain ⟨u, ⟨hu, hanywhere⟩, rfl⟩ := unanchored_eq_ok.1 hq
  obtain ⟨f, -, huprogram, hrprogram⟩ := Regexp.exists_form_atFront (hr.trans hu.symm) hstart hanywhere
  have hsearch (input : String) (k n : Nat) :
      r.program.search? input.toList = some (k, n) ↔ k = 0 ∧ u.program.search? input.toList = some (0, n) := by
    rw [hrprogram, huprogram]
    exact Program.search?_atFront
  refine ⟨r, u, rfl, rfl, fun input => ⟨fun m => ?_, fun hnone => ?_, hsearch input⟩⟩
  · simp only [find?_regexp, hsearch]
    constructor
    · rintro ⟨k, n, ⟨rfl, hn⟩, hm⟩
      exact ⟨⟨0, n, hn, hm⟩, n, hn⟩
    · rintro ⟨⟨k, n, hn, hm⟩, n', hfront⟩
      obtain ⟨rfl, rfl⟩ := Prod.mk.inj (Option.some.inj (hn.symm.trans hfront))
      exact ⟨0, n, ⟨rfl, hfront⟩, hm⟩
  · rw [find?_regexp_eq_none, Option.eq_none_iff_forall_ne_some]
    rintro ⟨k, n⟩ hfound
    obtain ⟨-, hfront⟩ := (hsearch input k n).1 hfound
    cases (find?_regexp_eq_none.1 hnone).symm.trans hfront

/-- the shorter alternative is preferred under both anchorings, and further in only the unanchored pattern finds it -/
theorem alternatives_agree : ∃ p q : Pattern,
    (anchored "a|ab").result = .ok p ∧ (unanchored "a|ab").result = .ok q ∧
      q.find? "abc" = some "a" ∧ p.find? "abc" = some "a" ∧ q.find? "xab" = some "a" ∧ p.find? "xab" = none := by
  have hp : (anchored "a|ab").result = .ok (.regexp ⟨"a|ab", .start, _, rfl⟩) := rfl
  have hq : (unanchored "a|ab").result = .ok (.regexp ⟨"a|ab", .anywhere, _, rfl⟩) := rfl
  refine ⟨_, _, hp, hq, ?_⟩
  obtain ⟨r, u, hr, hu, hagree⟩ := anchored_agrees hp hq
  have hu := Pattern.regexp.inj hu
  have hfront : u.program.search? "abc".toList = some (0, 1) := hu ▸ by decide +kernel
  have hbehind : u.program.search? "xab".toList = some (1, 1) := hu ▸ by decide +kernel
  refine ⟨by decide +kernel, ((hagree "abc").1 "a").2 ⟨by decide +kernel, 1, hfront⟩, by decide +kernel, ?_⟩
  rw [Option.eq_none_iff_forall_ne_some]
  intro m hm
  obtain ⟨-, n, hn⟩ := ((hagree "xab").1 m).1 hm
  cases hbehind.symm.trans hn

end Pattern

end Lexicon
