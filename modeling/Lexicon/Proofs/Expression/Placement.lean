/-
Where the parts of an expression stand. A tree notes the span of every part; what it means, how deep it is nested and
whether it can be repeated do not depend on the spans. `unplaced` takes the spans away: trees that are the same without
them have the same meaning (`meaning_of_unplaced_eq`). A diagnosis does name a span, so meanings are compared as far as
there is one.

How deep an expression is nested is its `height`, which says whether it is too deep at any depth it may stand at.

Results: `meaning_of_unplaced_eq`, `isSome_tooDeep?`.
-/
import Mathlib.Tactic.Common
import Lexicon.Expression.Compile

namespace Lexicon.Expression

/-- the span of what has no place -/
def Span.nowhere : Span := Position.start.point

/-! ## trees without places -/

/-- a literal without its place -/
def Literal.unplaced (l : Literal) : Literal := ⟨.nowhere, l.char, l.byteForm⟩

mutual

/-- a part of a class without places -/
def ClassTree.unplaced : ClassTree → ClassTree
  | .empty _ => .empty .nowhere
  | .literal l => .literal l.unplaced
  | .range _ low high => .range .nowhere low.unplaced high.unplaced
  | .named _ name negated => .named .nowhere name negated
  | .property _ query negated => .property .nowhere query negated
  | .short _ name negated => .short .nowhere name negated
  | .bracketed _ negated body => .bracketed .nowhere negated body.unplaced
  | .union _ items => .union .nowhere (ClassTree.allUnplaced items)
  | .binary _ op left right => .binary .nowhere op left.unplaced right.unplaced

/-- parts of a class without places -/
def ClassTree.allUnplaced : List ClassTree → List ClassTree
  | [] => []
  | t :: ts => t.unplaced :: ClassTree.allUnplaced ts

end

mutual

/-- an expression without places -/
def Tree.unplaced : Tree → Tree
  | .empty _ => .empty .nowhere
  | .flags _ fs => .flags .nowhere fs
  | .literal l => .literal l.unplaced
  | .dot _ => .dot .nowhere
  | .mark _ m => .mark .nowhere m
  | .property _ query negated => .property .nowhere query negated
  | .short _ name negated => .short .nowhere name negated
  | .bracketed _ negated body => .bracketed .nowhere negated body.unplaced
  | .repetition _ min max greedy body => .repetition .nowhere min max greedy body.unplaced
  | .group _ kind body => .group .nowhere kind body.unplaced
  | .alternation _ branches => .alternation .nowhere (Tree.allUnplaced branches)
  | .concat _ parts => .concat .nowhere (Tree.allUnplaced parts)

/-- expressions without places -/
def Tree.allUnplaced : List Tree → List Tree
  | [] => []
  | t :: ts => t.unplaced :: Tree.allUnplaced ts

end

theorem ClassTree.allUnplaced_eq_map (ts : List ClassTree) : allUnplaced ts = ts.map unplaced := by
  induction ts with
  | nil => rfl
  | cons t ts ih => rw [allUnplaced, ih, List.map_cons]

theorem Tree.allUnplaced_eq_map (ts : List Tree) : allUnplaced ts = ts.map unplaced := by
  induction ts with
  | nil => rfl
  | cons t ts ih => rw [allUnplaced, ih, List.map_cons]

theorem Tree.isRepeatable_unplaced (t : Tree) : t.unplaced.isRepeatable = t.isRepeatable := by
  cases t <;> rfl

/-! ## meanings -/

@[simp] theorem toOption_bind {ε α β : Type} (x : Except ε α) (f : α → Except ε β) :
    (x >>= f).toOption = x.toOption.bind fun a => (f a).toOption := by
  cases x <;> rfl

@[simp] theorem toOption_ok {ε α : Type} (a : α) : (Except.ok a : Except ε α).toOption = some a := rfl

@[simp] theorem toOption_error {ε α : Type} (e : ε) : (Except.error e : Except ε α).toOption = none := rfl

section

variable (m : Modes)

theorem Modes.negate_toOption (s t : Span) (negated : Bool) (set : CharSet) :
    (m.negate s negated set).toOption = (m.negate t negated set).toOption := by
  unfold negate
  split_ifs <;> rfl

theorem propertyMeaning_toOption (s t : Span) (query : Unicode.Query) (negated : Bool) :
    (propertyMeaning m s query negated).toOption = (propertyMeaning m t query negated).toOption := by
  unfold propertyMeaning
  split_ifs
  · cases Unicode.lookup query with
    | ok set => exact m.negate_toOption s t negated _
    | error e => cases e <;> rfl
  · rfl

theorem Modes.dotForm_toOption (s t : Span) : (m.dotForm s).toOption = (m.dotForm t).toOption := by
  unfold dotForm
  split_ifs <;> rfl

theorem Literal.meaning_unplaced (l : Literal) : (l.unplaced.meaning m).toOption = (l.meaning m).toOption := by
  by_cases h : (!m.unicode && l.byteForm && decide (0x7F < l.char.toNat)) = true
  · have hl : l.meaning m = .error _ := if_pos h
    have hu : l.unplaced.meaning m = .error _ := if_pos h
    rw [hl, hu]
    rfl
  · have hl : l.meaning m = .ok l.char := if_neg h
    have hu : l.unplaced.meaning m = .ok l.char := if_neg h
    rw [hl, hu]

theorem Literal.classMeaning_unplaced (l : Literal) :
    (l.unplaced.classMeaning m).toOption = (l.classMeaning m).toOption := by
  simp only [classMeaning, toOption_bind, l.meaning_unplaced m]
  refine Option.bind_congr fun c _ => ?_
  split_ifs <;> rfl

mutual

theorem ClassTree.meaning_unplaced : ∀ t : ClassTree, (t.unplaced.meaning m).toOption = (t.meaning m).toOption
  | .empty _ => rfl
  | .literal l => by
    simp only [unplaced, meaning, toOption_bind, l.classMeaning_unplaced]
  | .range _ low high => by
    simp only [unplaced, meaning, toOption_bind, low.classMeaning_unplaced, high.classMeaning_unplaced]
  | .named _ name negated => m.negate_toOption _ _ negated _
  | .property _ query negated => propertyMeaning_toOption m _ _ query negated
  | .short _ name negated => m.negate_toOption _ _ negated _
  | .bracketed span negated body => by
    simp only [unplaced, meaning, toOption_bind, body.meaning_unplaced, m.negate_toOption .nowhere span]
  | .union _ items => by
    simp only [unplaced, meaning, toOption_bind, allRanges_unplaced items]
  | .binary _ op left right => by
    simp only [unplaced, meaning, toOption_bind, left.meaning_unplaced, right.meaning_unplaced]

theorem ClassTree.allRanges_unplaced :
    ∀ ts : List ClassTree, (allRanges m (allUnplaced ts)).toOption = (allRanges m ts).toOption
  | [] => rfl
  | t :: ts => by
    simp only [allUnplaced, allRanges, toOption_bind, t.meaning_unplaced, allRanges_unplaced ts]

end

end

mutual

/-- **Places have no meaning.** -/
theorem Tree.meaning_unplaced : ∀ (t : Tree) (m : Modes), (t.unplaced.meaning m).toOption = (t.meaning m).toOption
  | .empty _, _ => rfl
  | .flags _ _, _ => rfl
  | .literal l, m => by
    simp only [unplaced, meaning, toOption_bind, l.meaning_unplaced]
  | .dot span, m => by
    simp only [unplaced, meaning, toOption_bind, m.dotForm_toOption .nowhere span]
  | .mark _ _, _ => rfl
  | .property span query negated, m => by
    simp only [unplaced, meaning, toOption_bind, propertyMeaning_toOption m .nowhere span]
  | .short span name negated, m => by
    simp only [unplaced, meaning, ShortClass.meaning, toOption_bind, m.negate_toOption .nowhere span]
  | .bracketed span negated body, m => by
    simp only [unplaced, meaning, toOption_bind, body.meaning_unplaced, m.negate_toOption .nowhere span]
  | .repetition _ _ _ _ body, m => by
    simp only [unplaced, meaning, toOption_bind, body.meaning_unplaced m]
  | .group _ (.capture _) body, m => by
    simp only [unplaced, meaning, toOption_bind, body.meaning_unplaced m]
  | .group _ (.scoped fs) body, m => by
    simp only [unplaced, meaning, toOption_bind, body.meaning_unplaced (m.setAll fs)]
  | .concat _ parts, m => by
    simp only [unplaced, meaning, toOption_bind, allMeanings_unplaced parts m]
  | .alternation _ branches, m => by
    simp only [unplaced, meaning, toOption_bind, allMeanings_unplaced branches m]

theorem Tree.allMeanings_unplaced :
    ∀ (ts : List Tree) (m : Modes), (allMeanings m (allUnplaced ts)).toOption = (allMeanings m ts).toOption
  | [], _ => rfl
  | t :: ts, m => by
    simp only [allUnplaced, allMeanings, toOption_bind, t.meaning_unplaced m]
    refine Option.bind_congr fun r _ => ?_
    rw [allMeanings_unplaced ts r.2]

end

theorem Tree.meaning_of_unplaced_eq {t u : Tree} (h : t.unplaced = u.unplaced) (m : Modes) :
    (t.meaning m).toOption = (u.meaning m).toOption := by
  rw [← t.meaning_unplaced, h, u.meaning_unplaced]

/-! ## nesting -/

mutual

/-- how many parts of a class are nested in one another -/
def ClassTree.height : ClassTree → Nat
  | .bracketed _ _ body => body.height + 1
  | .union _ items => ClassTree.greatestHeight items + 1
  | .binary _ _ left right => max left.height right.height + 1
  | _ => 0

/-- the greatest of the heights of parts of a class -/
def ClassTree.greatestHeight : List ClassTree → Nat
  | [] => 0
  | t :: ts => max t.height (ClassTree.greatestHeight ts)

end

mutual

/-- how many parts of an expression are nested in one another -/
def Tree.height : Tree → Nat
  | .bracketed _ _ body => body.height + 1
  | .repetition _ _ _ _ body => body.height + 1
  | .group _ _ body => body.height + 1
  | .alternation _ branches => Tree.greatestHeight branches + 1
  | .concat _ parts => Tree.greatestHeight parts + 1
  | _ => 0

/-- the greatest of the heights of expressions -/
def Tree.greatestHeight : List Tree → Nat
  | [] => 0
  | t :: ts => max t.height (Tree.greatestHeight ts)

end

mutual

theorem ClassTree.height_unplaced : ∀ t : ClassTree, t.unplaced.height = t.height
  | .empty _ | .literal _ | .range _ _ _ | .named _ _ _ | .property _ _ _ | .short _ _ _ => rfl
  | .bracketed _ _ body => congrArg (· + 1) body.height_unplaced
  | .union _ items => congrArg (· + 1) (greatestHeight_unplaced items)
  | .binary _ _ left right => by
    simp only [unplaced, height, left.height_unplaced, right.height_unplaced]

theorem ClassTree.greatestHeight_unplaced :
    ∀ ts : List ClassTree, greatestHeight (allUnplaced ts) = greatestHeight ts
  | [] => rfl
  | t :: ts => by simp only [allUnplaced, greatestHeight, t.height_unplaced, greatestHeight_unplaced ts]

end

mutual

theorem Tree.height_unplaced : ∀ t : Tree, t.unplaced.height = t.height
  | .empty _ | .flags _ _ | .literal _ | .dot _ | .mark _ _ | .property _ _ _ | .short _ _ _ => rfl
  | .bracketed _ _ body => congrArg (· + 1) body.height_unplaced
  | .repetition _ _ _ _ body => congrArg (· + 1) body.height_unplaced
  | .group _ _ body => congrArg (· + 1) body.height_unplaced
  | .alternation _ branches => congrArg (· + 1) (greatestHeight_unplaced branches)
  | .concat _ parts => congrArg (· + 1) (greatestHeight_unplaced parts)

theorem Tree.greatestHeight_unplaced : ∀ ts : List Tree, greatestHeight (allUnplaced ts) = greatestHeight ts
  | [] => rfl
  | t :: ts => by simp only [allUnplaced, greatestHeight, t.height_unplaced, greatestHeight_unplaced ts]

end

/-- what is nested one level deeper -/
theorem isSome_deeper {inner : Option Span} {span : Span} {depth height : Nat}
    (h : depth + 1 ≤ nestLimit → (inner.isSome = true ↔ nestLimit < depth + 1 + height)) :
    ((if nestLimit ≤ depth then some span else inner).isSome = true ↔ nestLimit < depth + (height + 1)) := by
  split_ifs with hlimit
  · simp only [Option.isSome_some, true_iff]
    omega
  · rw [h (by omega), Nat.add_right_comm, Nat.add_assoc]

mutual

theorem ClassTree.isSome_tooDeep? : ∀ (t : ClassTree) {depth : Nat}, depth ≤ nestLimit →
    ((t.tooDeep? depth).isSome = true ↔ nestLimit < depth + t.height)
  | .empty _, _, h | .literal _, _, h | .range _ _ _, _, h | .named _ _ _, _, h | .property _ _ _, _, h
  | .short _ _ _, _, h => by simpa [tooDeep?, height] using h
  | .bracketed _ _ body, _, _ => isSome_deeper body.isSome_tooDeep?
  | .union _ items, _, _ => isSome_deeper (isSome_anyTooDeep? items)
  | .binary _ _ left right, depth, h => by
    refine isSome_deeper fun hdepth => ?_
    rw [Option.orElse_eq_or, Option.isSome_or, Bool.or_eq_true, left.isSome_tooDeep? hdepth,
      right.isSome_tooDeep? hdepth]
    omega

theorem ClassTree.isSome_anyTooDeep? : ∀ (ts : List ClassTree) {depth : Nat}, depth ≤ nestLimit →
    ((anyTooDeep? depth ts).isSome = true ↔ nestLimit < depth + greatestHeight ts)
  | [], _, h => by simpa [anyTooDeep?, greatestHeight] using h
  | t :: ts, _, h => by
    simp only [anyTooDeep?, greatestHeight, Option.orElse_eq_or, Option.isSome_or, Bool.or_eq_true,
      t.isSome_tooDeep? h, isSome_anyTooDeep? ts h]
    omega

end

mutual

/-- **An expression is nested too deep by its height.** -/
theorem Tree.isSome_tooDeep? : ∀ (t : Tree) {depth : Nat}, depth ≤ nestLimit →
    ((t.tooDeep? depth).isSome = true ↔ nestLimit < depth + t.height)
  | .empty _, _, h | .flags _ _, _, h | .literal _, _, h | .dot _, _, h | .mark _ _, _, h | .property _ _ _, _, h
  | .short _ _ _, _, h => by simpa [tooDeep?, height] using h
  | .bracketed _ _ body, _, _ => isSome_deeper body.isSome_tooDeep?
  | .repetition _ _ _ _ body, _, _ => isSome_deeper body.isSome_tooDeep?
  | .group _ _ body, _, _ => isSome_deeper body.isSome_tooDeep?
  | .alternation _ branches, _, _ => isSome_deeper (isSome_anyTooDeep? branches)
  | .concat _ parts, _, _ => isSome_deeper (isSome_anyTooDeep? parts)

theorem Tree.isSome_anyTooDeep? : ∀ (ts : List Tree) {depth : Nat}, depth ≤ nestLimit →
    ((anyTooDeep? depth ts).isSome = true ↔ nestLimit < depth + greatestHeight ts)
  | [], _, h => by simpa [anyTooDeep?, greatestHeight] using h
  | t :: ts, _, h => by
    simp only [anyTooDeep?, greatestHeight, Option.orElse_eq_or, Option.isSome_or, Bool.or_eq_true,
      t.isSome_tooDeep? h, isSome_anyTooDeep? ts h]
    omega

end

end Lexicon.Expression
