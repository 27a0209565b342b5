/-
What stands at the outermost level of an anchored source. The text of one starts with an assertion and opens a group,
but the source may close that group and go on behind it. So while the pieces come in, the assertion stays the first
part of the outermost run, with something behind it, until a bar turns that run into the first branch (`Held`); it
never comes to be repeated. Every piece keeps this (`held_add`), and so the whole expression has a first branch that
asks for the front of the input (`frontFirst_read`). Whatever branches follow are outside of the assertion:
`outsideForms`.

Result: `takes_behind_front`, what an anchored source takes behind the front is what its branches outside take.
-/
import Lexicon.Pattern
import Lexicon.Proofs.Expression.Takes

namespace Lexicon.Expression

/-! ## branches -/

/-- the branches of an expression at its outermost level -/
def Tree.branches : Tree → List Tree
  | .alternation _ bs => bs
  | t => [t]

/-- parts that follow one another, of which the first asserts that the text starts -/
def Tree.AtFront (t : Tree) : Prop := ∃ span s parts, t = .concat span (.mark s .textStart :: parts)

/-- the first branch does so -/
def Tree.FrontFirst (t : Tree) : Prop := ∃ first others, t.branches = first :: others ∧ first.AtFront

/-- the forms of the branches that follow the first one, in the text of an expression -/
def outsideForms (text : List Char) : Except Diagnosis (List Form) := do
  let tree ← Tree.read text
  let (fs, _) ← Tree.allMeanings Modes.initial tree.branches
  return fs.tail

/-! ## while pieces come in -/

/-- the assertion comes first and something follows it -/
def Run.AtFront (u : Run) : Prop := ∃ t more s, u.latest = t :: (more ++ [.mark s .textStart])

/-- the outermost run, or the first branch that was made of it, asserts that the text starts; a group around the run
counts as the part that follows the assertion -/
def Held : List Frame → Run → Prop
  | [], u => u.AtFront
  | .group outer _ _ _ :: rest, _ => ∀ t, Held rest (outer.add t)
  | [.alternation _ latest], _ => ∃ first ∈ latest.getLast?, first.AtFront
  | .alternation _ _ :: .group outer _ _ _ :: rest, _ => ∀ t, Held rest (outer.add t)
  | .alternation _ _ :: .alternation _ _ :: _, _ => False

theorem Run.AtFront.add {u : Run} (h : u.AtFront) (t : Tree) : (u.add t).AtFront := by
  obtain ⟨x, more, s, hu⟩ := h
  exact ⟨t, x :: more, s, by rw [Run.add, hu]; rfl⟩

theorem Run.AtFront.toTree {u : Run} (h : u.AtFront) (stop : Position) : (u.toTree stop).AtFront := by
  obtain ⟨t, more, s, hu⟩ := h
  have hparts : u.latest.reverse = .mark s .textStart :: (more.reverse ++ [t]) := by simp [hu]
  refine ⟨⟨u.start, stop⟩, s, more.reverse ++ [t], ?_⟩
  rw [← hparts]
  unfold Run.toTree
  rw [hu]
  cases more <;> rfl

/-- Only an outermost run matters itself. -/
theorem Held.of_run {stack : List Frame} {u v : Run} (h : Held stack u) (hrun : u.AtFront → v.AtFront) :
    Held stack v := by
  match stack with
  | [] => exact hrun h
  | .group .. :: _ => exact h
  | [.alternation ..] => exact h
  | .alternation .. :: .group .. :: _ => exact h

namespace Builder

variable {b b' : Builder}

theorem held_addPart (h : Held b.stack b.run) (t : Tree) : Held (b.addPart t).stack (b.addPart t).run := by
  cases t <;> exact h.of_run fun hu => hu.add _

theorem held_addRepetition (h : Held b.stack b.run) (min : Nat) (max : Option Nat) (greedy : Bool) (stop : Position) :
    Held (b.addRepetition min max greedy stop).stack (b.addRepetition min max greedy stop).run := by
  unfold addRepetition
  split
  · exact h
  · rename_i t rest hlatest
    refine h.of_run fun hu => ?_
    obtain ⟨x, more, s, hu⟩ := hu
    obtain ⟨rfl, rfl⟩ := List.cons.inj (hlatest.symm.trans hu)
    exact ⟨_, more, s, rfl⟩

theorem held_openGroup (h : Held b.stack b.run) {opening : Span} {mark : GroupMark} {inner : Position}
    (hb : b.openGroup opening mark inner = .ok b') : Held b'.stack b'.run := by
  have henter (kind : Group) (u : Run) : Held (.group b.run opening kind b.extended :: b.stack) u :=
    fun t => h.of_run fun hu => hu.add t
  unfold openGroup at hb
  match mark with
  | .plain =>
    obtain rfl := Except.ok.inj hb
    exact henter _ _
  | .scoped fs =>
    obtain rfl := Except.ok.inj hb
    exact henter _ _
  | .named name span =>
    simp only at hb
    split at hb
    · cases hb
    · obtain rfl := Except.ok.inj hb
      exact henter _ _

theorem held_addBar (h : Held b.stack b.run) (before after : Position) :
    Held (b.addBar before after).stack (b.addBar before after).run := by
  obtain ⟨stack, run, extended, captures, names⟩ := b
  match stack with
  | [] => exact ⟨_, rfl, h.toTree before⟩
  | .group .. :: _ => exact h
  | [.alternation _ latest] =>
    obtain ⟨first, hfirst, hfront⟩ := h
    refine ⟨first, ?_, hfront⟩
    rw [Option.mem_def] at hfirst ⊢
    rw [List.getLast?_cons, hfirst]
    rfl
  | .alternation .. :: .group .. :: _ => exact h

theorem held_closeGroup (h : Held b.stack b.run) {before after : Position} (hb : b.closeGroup before after = .ok b') :
    Held b'.stack b'.run := by
  obtain ⟨stack, run, extended, captures, names⟩ := b
  match stack with
  | [] => cases hb
  | .group .. :: _ =>
    obtain rfl := Except.ok.inj hb
    exact h _
  | [.alternation ..] => cases hb
  | .alternation .. :: .group .. :: _ =>
    obtain rfl := Except.ok.inj hb
    exact h _

/-- **Every piece leaves the assertion first.** -/
theorem held_add (h : Held b.stack b.run) {t : Token} {before after : Position} (hb : b.add t before after = .ok b') :
    Held b'.stack b'.run := by
  cases t with
  | part t =>
    obtain rfl := Except.ok.inj hb
    exact held_addPart h t
  | opening span mark => exact held_openGroup h hb
  | closing => exact held_closeGroup h hb
  | bar =>
    obtain rfl := Except.ok.inj hb
    exact held_addBar h before after
  | repetition min max greedy =>
    obtain rfl := Except.ok.inj hb
    exact held_addRepetition h min max greedy after

theorem frontFirst_finish (h : Held b.stack b.run) {stop : Position} {tree : Tree} (hb : b.finish stop = .ok tree) :
    tree.FrontFirst := by
  obtain ⟨stack, run, extended, captures, names⟩ := b
  match stack with
  | [] =>
    obtain rfl := Except.ok.inj hb
    have hfront : (run.toTree stop).AtFront := h.toTree stop
    obtain ⟨span, s, parts, htree⟩ := hfront
    exact ⟨_, [], by rw [htree]; rfl, ⟨span, s, parts, rfl⟩⟩
  | .group .. :: _ => cases hb
  | [.alternation _ latest] =>
    obtain rfl := Except.ok.inj hb
    obtain ⟨first, hfirst, hfront⟩ := h
    obtain ⟨more, rfl⟩ : ∃ more, latest = more ++ [first] := List.getLast?_eq_some_iff.1 hfirst
    exact ⟨first, (run.toTree stop :: more).reverse, by simp [Tree.branches], hfront⟩
  | .alternation .. :: .group .. :: _ => cases hb

end Builder

/-! ## the whole expression -/

theorem bind_eq_ok {ε α β : Type} {x : Except ε α} {f : α → Except ε β} {c : β} :
    (x >>= f) = .ok c ↔ ∃ a, x = .ok a ∧ f a = .ok c := by
  cases x with
  | error e => simp [bind, Except.bind]
  | ok a => simp [bind, Except.bind]

theorem frontFirst_readPieces {fuel : Nat} {b : Builder} {r : Reader} {tree : Tree} (h : Held b.stack b.run)
    (hread : readPieces fuel b r = .ok tree) : tree.FrontFirst := by
  induction fuel generalizing b r with
  | zero => exact b.frontFirst_finish h hread
  | succ fuel ih =>
    simp only [readPieces] at hread
    split at hread
    · exact b.frontFirst_finish h hread
    · obtain ⟨⟨t, after⟩, -, hread⟩ := bind_eq_ok.1 hread
      obtain ⟨b', hb, hread⟩ := bind_eq_ok.1 hread
      exact ih (Builder.held_add h hb) hread

/-- what stands open behind the assertion and the opening of the group -/
def opened : Builder :=
  ⟨[.group ⟨Position.start, [.mark ⟨Position.start, ⟨2, 1, 3⟩⟩ .textStart]⟩ ⟨⟨2, 1, 3⟩, ⟨3, 1, 4⟩⟩ (.scoped []) false],
    Run.none ⟨5, 1, 6⟩, false, 0, []⟩

theorem readPieces_wrap (fuel : Nat) (source : List Char) :
    readPieces (fuel + 2) Builder.start (Reader.ofText (Anchoring.start.wrap source)) =
      readPieces fuel opened ⟨source ++ [')'], ⟨5, 1, 6⟩⟩ := rfl

theorem held_opened : Held opened.stack opened.run := fun t => ⟨t, [], _, rfl⟩

/-- **The first branch of an anchored source asks for the front of the input.** -/
theorem frontFirst_read {source : List Char} {tree : Tree} (h : Tree.read (Anchoring.start.wrap source) = .ok tree) :
    tree.FrontFirst := by
  obtain ⟨whole, hread, hdepth⟩ := bind_eq_ok.1 h
  have hlength : (Anchoring.start.wrap source).length + 1 = (source.length + 5) + 2 := by simp [Anchoring.wrap]
  rw [hlength, readPieces_wrap] at hread
  have hfront := frontFirst_readPieces held_opened hread
  split at hdepth
  · cases hdepth
  · obtain rfl := Except.ok.inj hdepth
    exact hfront

/-! ## what it means -/

theorem allMeanings_cons {m m' : Modes} {t : Tree} {ts : List Tree} {fs : List Form} :
    Tree.allMeanings m (t :: ts) = .ok (fs, m') ↔
      ∃ f n rest, t.meaning m = .ok (f, n) ∧ Tree.allMeanings n ts = .ok (rest, m') ∧ fs = f :: rest := by
  simp only [Tree.allMeanings, bind_eq_ok, Prod.exists, pure, Except.pure, Except.ok.injEq, Prod.mk.injEq]
  constructor
  · rintro ⟨f, n, hf, rest, k, hrest, rfl, rfl⟩
    exact ⟨f, n, rest, hf, hrest, rfl⟩
  · rintro ⟨f, n, rest, hf, hrest, rfl⟩
    exact ⟨f, n, hf, rest, m', hrest, rfl, rfl⟩

theorem meaning_atFront {m m' : Modes} {t : Tree} {f : Form} (h : t.AtFront) (hf : t.meaning m = .ok (f, m')) :
    ∃ fs, f = .atFront fs := by
  obtain ⟨span, s, parts, rfl⟩ := h
  simp only [Tree.meaning] at hf
  obtain ⟨⟨fs, n⟩, hfs, hf⟩ := bind_eq_ok.1 hf
  obtain ⟨look, k, rest, hlook, -, rfl⟩ := allMeanings_cons.1 hfs
  obtain ⟨rfl, rfl⟩ := Prod.mk.inj (Except.ok.inj hlook)
  obtain ⟨rfl, -⟩ := Prod.mk.inj (Except.ok.inj hf)
  exact ⟨rest, rfl⟩

/-- An expression means the choice between its branches, or its only branch. -/
theorem meaning_branches {m m' : Modes} {t : Tree} {f : Form} (h : t.meaning m = .ok (f, m')) :
    ∃ fs, Tree.allMeanings m t.branches = .ok (fs, m') ∧ (f = .oneOf fs ∨ fs = [f]) := by
  have honly : Tree.allMeanings m [t] = .ok ([f], m') := allMeanings_cons.2 ⟨f, m', [], h, rfl, rfl⟩
  cases t with
  | alternation span bs =>
    simp only [Tree.meaning] at h
    obtain ⟨⟨fs, n⟩, hfs, h⟩ := bind_eq_ok.1 h
    obtain ⟨rfl, rfl⟩ := Prod.mk.inj (Except.ok.inj h)
    exact ⟨fs, hfs, Or.inl rfl⟩
  | _ => exact ⟨[f], honly, Or.inr rfl⟩

/-- **Behind the front, an anchored source takes what its branches outside take.** -/
theorem takes_behind_front {source : List Char} {f : Form} (h : formOf (Anchoring.start.wrap source) = .ok f) :
    ∃ others, outsideForms (Anchoring.start.wrap source) = .ok others ∧
      ∀ p q, p.before ≠ none → (f.Takes p q ↔ ∃ g ∈ others, g.Takes p q) := by
  obtain ⟨tree, hread, hform⟩ := bind_eq_ok.1 h
  obtain ⟨⟨f', m⟩, hmeaning, hf⟩ := bind_eq_ok.1 hform
  obtain rfl : f' = f := Except.ok.inj hf
  obtain ⟨first, others, hbranches, hfirst⟩ := frontFirst_read hread
  obtain ⟨fs, hfs, hchoice⟩ := meaning_branches hmeaning
  have houtside : outsideForms (Anchoring.start.wrap source) = .ok fs.tail :=
    bind_eq_ok.2 ⟨tree, hread, bind_eq_ok.2 ⟨(fs, m), hfs, rfl⟩⟩
  rw [hbranches] at hfs
  obtain ⟨g, n, gs, hg, -, rfl⟩ := allMeanings_cons.1 hfs
  obtain ⟨parts, rfl⟩ := meaning_atFront hfirst hg
  refine ⟨gs, houtside, fun p q hp => ?_⟩
  rcases hchoice with rfl | hone
  · exact Form.takes_oneOf_behind_front hp
  · obtain ⟨rfl, rfl⟩ := List.cons.inj hone
    simp only [List.not_mem_nil, false_and, exists_false, iff_false]
    exact fun h => hp (Form.before_of_takes_atFront h)

end Lexicon.Expression
