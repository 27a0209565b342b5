/-
Which sources can be compiled under which anchoring. A source that is refused is refused as no expression, naming the
source itself (`valid_or_invalid`). But whether an anchored source is refused is decided on its text in the group behind
the assertion, and there it may be another matter than for the source by itself (`Differs`):
- `closes`: the source closes the group and opens one that the last parenthesis closes;
- `swallows`: the source ends in a comment, which takes the last parenthesis, and the group stays open;
- `deep`: the group and the sequence it stands in are two levels more than may be nested;
- `size`: the assertion changes the size of the program, which is then on the other side of the limit.

Results: `valid_under_both_iff`, these are all the ways in which the anchoring decides whether a source is valid;
`closing_source_is_valid_at_front` and `commented_source_is_valid_anywhere` show the first two.
-/
import Lexicon.Proofs.Definition
import Lexicon.Proofs.Expression.Wrapping

namespace Lexicon

open Expression

namespace Pattern

/-! ## sources that can be compiled -/

/-- a text has a program -/
def Compiles (text : List Char) : Prop := ∃ program, compile text = .ok program

theorem compiles_of_formOf {text : List Char} {f : Form} (h : formOf text = .ok f) : Compiles text ↔ f.fits = true := by
  unfold Compiles compile
  rw [h]
  dsimp only
  cases f.fits with
  | false => exact iff_of_false (fun ⟨_, hprogram⟩ => by cases hprogram) Bool.false_ne_true
  | true => exact iff_of_true ⟨_, rfl⟩ rfl

theorem not_compiles_of_formOf {text : List Char} {d : Diagnosis} (h : formOf text = .error d) : ¬ Compiles text := by
  unfold Compiles compile
  rw [h]
  rintro ⟨program, hprogram⟩
  cases hprogram

theorem ofSource_cases (source : String) (a : Anchoring) :
    (∃ r, Compiles (a.wrap source.toList) ∧ (Regexp.ofSource source a).result = .ok r) ∨
      ∃ refusal, compile (a.wrap source.toList) = .error refusal ∧ (Regexp.ofSource source a).result =
        .error (.of (.invalidPattern source (refusal.report (String.ofList (a.wrap source.toList))))) := by
  simp only [Regexp.ofSource, Attempt.result_noting]
  split
  · rename_i program h
    exact Or.inl ⟨_, ⟨program, h⟩, rfl⟩
  · rename_i refusal h
    exact Or.inr ⟨refusal, h, rfl⟩

/-- the pattern of an expression under an anchoring -/
def ofExpression (source : String) : Anchoring → Attempt Pattern
  | .start => anchored source
  | .anywhere => unanchored source

/-- a source is a pattern under an anchoring -/
def Valid (source : String) (a : Anchoring) : Prop := ∃ p, (ofExpression source a).result = .ok p

/-- a source is refused under an anchoring, as an invalid pattern and for what is wrong with the text compiled -/
def Invalid (source : String) (a : Anchoring) : Prop :=
  ∃ refusal, compile (a.wrap source.toList) = .error refusal ∧ (ofExpression source a).result =
    .error (.of (.invalidPattern source (refusal.report (String.ofList (a.wrap source.toList)))))

/-- **A source is a pattern if its text compiles**; otherwise it is refused as an invalid pattern. -/
theorem valid_or_invalid (source : String) (a : Anchoring) :
    Compiles (a.wrap source.toList) ∧ Valid source a ∨ ¬ Compiles (a.wrap source.toList) ∧ Invalid source a := by
  have hof : ofExpression source a = (Regexp.ofSource source a).andThen fun r => .done (.regexp r) := by
    cases a <;> rfl
  obtain ⟨r, hcompiles, hr⟩ | ⟨refusal, hrefusal, hr⟩ := ofSource_cases source a
  · exact Or.inl ⟨hcompiles, .regexp r, by rw [hof, Attempt.result_andThen_of_ok hr]; rfl⟩
  · refine Or.inr ⟨?_, refusal, hrefusal, by rw [hof, Attempt.andThen_of_error hr]⟩
    rintro ⟨program, hprogram⟩
    cases hrefusal.symm.trans hprogram

theorem valid_iff (source : String) (a : Anchoring) : Valid source a ↔ Compiles (a.wrap source.toList) := by
  obtain ⟨hcompiles, hvalid⟩ | ⟨hcompiles, refusal, -, hinvalid⟩ := valid_or_invalid source a
  · exact iff_of_true hvalid hcompiles
  · refine iff_of_false ?_ hcompiles
    rintro ⟨p, hp⟩
    cases hinvalid.symm.trans hp

/-! ## where the anchoring decides -/

/-- the ways in which it depends on the anchoring whether a source can be compiled -/
inductive Differs (source : List Char) : Prop where
  /-- the source closes a group that it does not open, and the group around it is one that can be closed there -/
  | closes {d : Diagnosis} (h : Tree.read source = .error d) (hd : d.fault = .groupUnopened)
      (h' : Compiles (Anchoring.start.wrap source))
  /-- the source is valid, and a parenthesis behind it would be a part of it -/
  | swallows (h : Compiles source) (hs : Swallows source)
  /-- the source is valid, and two levels more are too many -/
  | deep {tree : Tree} (h : Compiles source) (htree : Tree.read source = .ok tree) (hdeep : nestLimit < tree.height + 2)
  /-- with the assertion in front or without it, the program is too large, but not both -/
  | size {f : Form} {tree : Tree} (h : formOf source = .ok f) (hs : ¬ Swallows source)
      (htree : Tree.read source = .ok tree) (hheight : tree.height + 2 ≤ nestLimit)
      (hsize : f.fits ≠ (Form.atFront [f]).fits)

theorem not_compiles_of_read {text : List Char} {d : Diagnosis} (h : Tree.read text = .error d) : ¬ Compiles text :=
  not_compiles_of_formOf (formOf_of_read_error h)

theorem differs_iff (source : List Char) :
    Differs source ↔ ¬ (Compiles (Anchoring.start.wrap source) ↔ Compiles source) := by
  constructor
  · intro hdiffers hiff
    cases hdiffers with
    | closes h hd h' => exact not_compiles_of_read h (hiff.1 h')
    | swallows h hs =>
      cases Expression.anchored source with
      | unopened hread => exact not_compiles_of_read hread h
      | malformed hform => exact not_compiles_of_formOf hform h
      | swallowed _ _ h' => exact not_compiles_of_formOf h' (hiff.2 h)
      | deep _ _ hnot => exact hnot hs
      | inFront _ _ hnot => exact hnot hs
    | deep h htree hdeep =>
      cases Expression.anchored source with
      | unopened hread => exact not_compiles_of_read hread h
      | malformed hform => exact not_compiles_of_formOf hform h
      | swallowed _ _ h' => exact not_compiles_of_formOf h' (hiff.2 h)
      | deep _ _ _ _ h' => exact not_compiles_of_formOf h' (hiff.2 h)
      | inFront _ htree' _ hheight =>
        obtain rfl := Except.ok.inj (htree.symm.trans htree')
        omega
    | @size f tree h hs htree hheight hsize =>
      cases Expression.anchored source with
      | unopened hread => cases htree.symm.trans hread
      | malformed hform => cases h.symm.trans hform
      | swallowed _ hswallows => exact hs hswallows
      | deep _ htree' _ hdeep =>
        obtain rfl := Except.ok.inj (htree.symm.trans htree')
        omega
      | inFront hf _ _ _ h' =>
        obtain rfl := Except.ok.inj (h.symm.trans hf)
        rw [compiles_of_formOf h, compiles_of_formOf h', ← Bool.eq_iff_iff] at hiff
        exact hsize hiff.symm
  · intro hnot
    cases Expression.anchored source with
    | unopened hread hd =>
      have hsource := not_compiles_of_read hread
      by_cases hwrap : Compiles (Anchoring.start.wrap source)
      · exact .closes hread hd hwrap
      · exact absurd (iff_of_false hwrap hsource) hnot
    | malformed h h' =>
      exact absurd (iff_of_false (not_compiles_of_formOf h') (not_compiles_of_formOf h)) hnot
    | swallowed h hs h' =>
      by_cases hsource : Compiles source
      · exact .swallows hsource hs
      · exact absurd (iff_of_false (not_compiles_of_formOf h') hsource) hnot
    | deep h htree _ hdeep h' =>
      by_cases hsource : Compiles source
      · exact .deep hsource htree hdeep
      · exact absurd (iff_of_false (not_compiles_of_formOf h') hsource) hnot
    | inFront h htree hs hheight h' =>
      refine .size h hs htree hheight fun hsize => hnot ?_
      rw [compiles_of_formOf h, compiles_of_formOf h', hsize]

/-- **The anchoring decides whether a source is valid in these ways only.** Under either anchoring a source is a
pattern or is refused as an invalid one; and it is the same under both unless the two differ. -/
theorem valid_under_both_iff (source : String) :
    (∀ a, Valid source a ∨ Invalid source a) ∧
      ((Valid source .start ↔ Valid source .anywhere) ↔ ¬ Differs source.toList) := by
  refine ⟨fun a => (valid_or_invalid source a).imp And.right And.right, ?_⟩
  rw [valid_iff, valid_iff, differs_iff, not_not]
  rfl

theorem not_valid_of_result {source : String} {a : Anchoring} {f : Failure}
    (h : (ofExpression source a).result = .error f) : ¬ Valid source a := by
  rintro ⟨p, hp⟩
  cases h.symm.trans hp

/-- a source that closes the group around it and opens another one: refused anywhere, but a pattern at the front -/
theorem closing_source_is_valid_at_front :
    Valid "a)(?:b" .start ∧ ¬ Valid "a)(?:b" .anywhere ∧
      (unanchored "a)(?:b").result = .error (.of (.invalidPattern "a)(?:b"
        (Refusal.report "a)(?:b" (.malformed (Fault.groupUnopened.on ⟨⟨1, 1, 2⟩, ⟨2, 1, 3⟩⟩))))) := by
  have hrefused : (unanchored "a)(?:b").result = .error (.of (.invalidPattern "a)(?:b"
      (Refusal.report "a)(?:b" (.malformed (Fault.groupUnopened.on ⟨⟨1, 1, 2⟩, ⟨2, 1, 3⟩⟩))))) := rfl
  exact ⟨⟨.regexp ⟨"a)(?:b", .start, _, rfl⟩, rfl⟩, not_valid_of_result (a := .anywhere) hrefused, hrefused⟩

/-- a source that ends in a comment: a pattern anywhere, but refused at the front -/
theorem commented_source_is_valid_anywhere :
    ¬ Valid "(?x)a#" .start ∧ Valid "(?x)a#" .anywhere := by
  refine ⟨?_, ⟨.regexp ⟨"(?x)a#", .anywhere, _, rfl⟩, rfl⟩⟩
  rw [valid_iff]
  exact not_compiles_of_formOf rfl

end Pattern

end Lexicon
