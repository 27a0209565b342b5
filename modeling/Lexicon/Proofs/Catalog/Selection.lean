/-
Selections of a catalog. A selection keeps the items that pass a test, or those that do not; what it keeps stands in the
order of its source, copied, under dense keys and the validator of the source, whatever the keys of the source were
(`copied_filter_iff`). So the items of a source are merged from those that a test keeps and those that it leaves
(`interleaves_filter`), and selections one after the other, each with copies and keys of its own, come to a single
selection by all tests together (`Selected.copied`). That takes tests which give an item and its copy one verdict: a later
test sees copies only.

Results: `selections_partition_and_nest`.
-/
import Mathlib.Logic.Relation
import Lexicon.Proofs.Catalog.Rebuilding

namespace Lexicon

/-! ## merged lists -/

/-- two lists merged into a third, each in its order -/
inductive Interleaves {α : Type} : List α → List α → List α → Prop where
  | nil : Interleaves [] [] []
  | left {x : α} {xs ys zs : List α} (h : Interleaves xs ys zs) : Interleaves (x :: xs) ys (x :: zs)
  | right {y : α} {xs ys zs : List α} (h : Interleaves xs ys zs) : Interleaves xs (y :: ys) (y :: zs)

theorem Interleaves.length_eq {α : Type} {xs ys zs : List α} (h : Interleaves xs ys zs) :
    xs.length + ys.length = zs.length := by
  induction h with
  | nil => rfl
  | left _ ih =>
    simp only [List.length_cons]
    omega
  | right _ ih =>
    simp only [List.length_cons]
    omega

/-- A list is merged from what passes a test and what does not. -/
theorem interleaves_filter {α : Type} (p : α → Bool) (zs : List α) :
    Interleaves (zs.filter p) (zs.filter fun x => !p x) zs := by
  induction zs with
  | nil => exact .nil
  | cons z zs ih =>
    cases hz : p z with
    | true =>
      rw [List.filter_cons_of_pos hz, List.filter_cons_of_neg (by simp [hz])]
      exact .left ih
    | false =>
      rw [List.filter_cons_of_neg (by simp [hz]), List.filter_cons_of_pos (by simp [hz])]
      exact .right ih

/-! ## copies of copies -/

namespace Copying

variable {α : Type} [Typed α] {C : Copying α} {s t : Catalog α}

/-- copies made one of the other, at least once -/
def chain (C : Copying α) : Copying α where
  copies := Relation.TransGen C.copies
  sameTags h tag := by
    induction h with
    | single h => exact C.sameTags h tag
    | tail _ h ih => exact (C.sameTags h tag).trans ih

theorem forall₂_chain {xs ys zs : List α} (h : List.Forall₂ C.copies xs ys)
    (h' : List.Forall₂ C.chain.copies ys zs) : List.Forall₂ C.chain.copies xs zs := by
  induction h generalizing zs with
  | nil =>
    cases h'
    exact .nil
  | cons hxy _ ih =>
    cases h' with
    | cons hyz hrest => exact .cons (.head hxy hyz) (ih hrest)

/-- A value copied any number of times is the value. -/
theorem eq_of_chain_values {x y : α} (h : (values α).chain.copies x y) : y = x := by
  induction h with
  | single h => exact h
  | tail _ h ih => exact h.trans ih

theorem forall₂_entries {es fs : Entries Key α} :
    List.Forall₂ C.CopiesEntry es fs ↔ fs.keys = es.keys ∧ List.Forall₂ C.copies es.items fs.items := by
  constructor
  · intro h
    refine ⟨keys_eq_of_copies h, ?_⟩
    rw [Entries.items, Entries.items, List.forall₂_map_left_iff, List.forall₂_map_right_iff]
    exact h.imp fun _ _ he => he.2
  · rintro ⟨hkeys, hitems⟩
    induction es generalizing fs with
    | nil =>
      obtain rfl := List.map_eq_nil_iff.1 hkeys
      exact .nil
    | cons e es ih =>
      obtain ⟨f, fs, rfl, hkey, hrest⟩ := List.map_eq_cons_iff.1 hkeys
      cases hitems with
      | cons hitem hitems => exact .cons ⟨hkey, hitem⟩ (ih hrest hitems)

/-- A catalog is copied with its keys and its validator, item by item. -/
theorem copied_iff : C.Copied s t ↔
    t.validator = s.validator ∧ t.keys = s.keys ∧ List.Forall₂ C.copies s.items t.items :=
  and_congr_right fun _ => forall₂_entries

theorem size_eq (h : C.Copied s t) : t.size = s.size := by
  obtain ⟨-, -, hitems⟩ := copied_iff.1 h
  rw [← s.length_items, ← t.length_items, hitems.length_eq]

theorem eq_of_copied_values (h : (values α).chain.Copied s t) : t = s := by
  obtain ⟨hvalidator, hkeys, hitems⟩ := copied_iff.1 h
  have hitems : t.items = s.items := by
    have hsame := hitems.imp fun _ _ hxy => (eq_of_chain_values hxy).symm
    rw [List.forall₂_eq_eq_eq] at hsame
    exact hsame.symm
  have hentries : t.entries = s.entries :=
    calc t.entries = t.keys.zip t.items := List.zip_of_prod rfl rfl
      _ = s.keys.zip s.items := by rw [hkeys, hitems]
      _ = s.entries := (List.zip_of_prod rfl rfl).symm
  obtain ⟨es, v⟩ := s
  obtain ⟨fs, w⟩ := t
  exact congrArg₂ Catalog.mk hentries hvalidator

end Copying

namespace Catalog

variable {α : Type} {s t u : Catalog α} {p q : α → Bool}

/-! ## one selection -/

/-- A selection holds what passes the test, as far as keys can tell positions apart. -/
theorem items_filter (h : s.size ≤ positionLimit) (p : α → Bool) : (s.filter p).items = s.items.filter p := by
  have hlength : (s.items.filter p).length ≤ positionLimit := Nat.le_trans (s.length_filter_items_le p) h
  have hentries : (s.filter p).entries = numbered (s.items.filter p) := Entries.collect_eq (keys_numbered_nodup hlength)
  rw [items, hentries]
  exact items_numbered _

theorem size_filter_le (h : s.size ≤ positionLimit) (p : α → Bool) : (s.filter p).size ≤ s.size := by
  rw [← length_items (s.filter p), items_filter h]
  exact s.length_filter_items_le p

variable [Typed α] {C : Copying α}

/-- The copies of a selection are the catalogs with copies of what passes the test, under the validator and dense keys. -/
theorem copied_filter_iff (h : s.size ≤ maxItems) : C.Copied (s.filter p) t ↔
    t.validator = s.validator ∧ t.Dense ∧ List.Forall₂ C.copies (s.items.filter p) t.items := by
  rw [Copying.copied_iff, items_filter (Nat.le_trans h maxItems_le_positionLimit)]
  refine and_congr_right fun _ => and_congr_left fun hitems => ?_
  have hsize : (s.items.filter p).length = t.size := hitems.length_eq.trans (length_items t)
  have hle : t.size ≤ maxItems := Nat.le_trans (hsize ▸ s.length_filter_items_le p) h
  have hkeys : (s.filter p).keys = (List.range t.size).map Key.position := by
    rw [filter_eq h, ← hsize]
    exact keys_numbered _
  rw [hkeys, dense_iff hle, entries_eq_numbered_iff]

/-- t holds copies of the items of s that pass a test and u copies of the others; the items of s are merged from the two,
and each of them has dense keys and the validator of s -/
structure PartitionedInto (C : Copying α) (p : α → Bool) (s t u : Catalog α) : Prop where
  items : ∃ kept left, Interleaves kept left s.items ∧ (∀ x ∈ kept, p x = true) ∧ (∀ x ∈ left, p x = false) ∧
    List.Forall₂ C.copies kept t.items ∧ List.Forall₂ C.copies left u.items
  sizes : t.size + u.size = s.size
  dense : t.Dense ∧ u.Dense
  validators : t.validator = s.validator ∧ u.validator = s.validator

theorem partitionedInto (h : s.size ≤ maxItems) (ht : C.Copied (s.filter p) t) (hu : C.Copied (s.exclude p) u) :
    s.PartitionedInto C p t u := by
  obtain ⟨htvalidator, htdense, htitems⟩ := (copied_filter_iff h).1 ht
  obtain ⟨huvalidator, hudense, huitems⟩ := (copied_filter_iff h).1 hu
  have hmerged := interleaves_filter p s.items
  refine ⟨⟨_, _, hmerged, fun x hx => (List.mem_filter.1 hx).2, fun x hx => ?_, htitems, huitems⟩, ?_,
    ⟨htdense, hudense⟩, htvalidator, huvalidator⟩
  · simpa using (List.mem_filter.1 hx).2
  · rw [← length_items t, ← length_items u, ← length_items s, ← htitems.length_eq, ← huitems.length_eq,
      hmerged.length_eq]

/-! ## selections one after the other -/

/-- a way of selecting items: those that pass a test, or those that do not -/
inductive Selection (α : Type) where
  | keeping (p : α → Bool)
  | leaving (p : α → Bool)

/-- whether a selection takes an item -/
def Selection.admits : Selection α → α → Bool
  | .keeping p, x => p x
  | .leaving p, x => !p x

/-- whether all selections take an item -/
def admittedBy (fs : List (Selection α)) (x : α) : Bool := fs.all fun f => f.admits x

/-- the catalog of what a selection takes -/
def select (s : Catalog α) : Selection α → Catalog α
  | .keeping p => s.filter p
  | .leaving p => s.exclude p

/-- t is left of s after selections one after the other, each of them copying what it takes -/
inductive Selected (C : Copying α) : Catalog α → List (Selection α) → Catalog α → Prop where
  | nil (s : Catalog α) : Selected C s [] s
  | cons {s t u : Catalog α} {f : Selection α} {fs : List (Selection α)} (ht : C.Copied (s.select f) t)
      (hu : Selected C t fs u) : Selected C s (f :: fs) u

omit [Typed α] in
theorem select_eq (s : Catalog α) (f : Selection α) : s.select f = s.filter f.admits := by
  cases f <;> rfl

omit [Typed α] in
theorem filter_admittedBy_cons (f : Selection α) (fs : List (Selection α)) (xs : List α) :
    xs.filter (admittedBy (f :: fs)) = (xs.filter f.admits).filter (admittedBy fs) := by
  rw [List.filter_filter]
  refine List.filter_congr fun x _ => ?_
  rw [admittedBy, List.all_cons, Bool.and_comm]
  rfl

/-- a selection gives an item and its copy one verdict -/
def Selection.Faithful (C : Copying α) (f : Selection α) : Prop := (Validator.test f.admits).Faithful C

theorem Selection.faithful_keeping (hp : (Validator.test p).Faithful C) : (keeping p).Faithful C := hp

theorem Selection.faithful_leaving (hp : (Validator.test p).Faithful C) : (leaving p).Faithful C :=
  fun x y hxy => congrArg not (hp x y hxy)

/-- Faithful selections take the copies of what they take. -/
theorem forall₂_filter_admittedBy {fs : List (Selection α)} (hfs : ∀ f ∈ fs, f.Faithful C) {xs ys : List α}
    (h : List.Forall₂ C.copies xs ys) :
    List.Forall₂ C.copies (xs.filter (admittedBy fs)) (ys.filter (admittedBy fs)) := by
  refine List.rel_filter (fun x y hxy => ?_) h
  have hsame : admittedBy fs y = admittedBy fs x := by
    rw [admittedBy, admittedBy, Bool.eq_iff_iff, List.all_eq_true, List.all_eq_true]
    exact forall₂_congr fun f hf => by rw [hfs f hf x y hxy]
  change admittedBy fs x = true ↔ admittedBy fs y = true
  rw [hsame]

/-- **Selections one after the other are one selection**, by all their tests together. -/
theorem Selected.copied {fs : List (Selection α)} (h : Selected C s fs u) (hs : s.size ≤ maxItems) (hne : fs ≠ [])
    (hfs : ∀ f ∈ fs, f.Faithful C) : C.chain.Copied (s.filter (admittedBy fs)) u := by
  induction h with
  | nil s => exact absurd rfl hne
  | @cons s t u f fs ht hu ih =>
    rw [select_eq] at ht
    have htsize : t.size ≤ maxItems := by
      rw [Copying.size_eq ht]
      exact Nat.le_trans (size_filter_le (Nat.le_trans hs maxItems_le_positionLimit) _) hs
    obtain ⟨htvalidator, htdense, htitems⟩ := (copied_filter_iff hs).1 ht
    rw [copied_filter_iff hs, filter_admittedBy_cons]
    cases fs with
    | nil =>
      cases hu
      have hall : (s.items.filter f.admits).filter (admittedBy []) = s.items.filter f.admits :=
        List.filter_eq_self.2 fun _ _ => rfl
      rw [hall]
      exact ⟨htvalidator, htdense, htitems.imp fun _ _ hxy => .single hxy⟩
    | cons g gs =>
      have hlater := ih htsize (by simp) fun f hf => hfs f (List.mem_cons_of_mem _ hf)
      obtain ⟨huvalidator, hudense, huitems⟩ := (copied_filter_iff htsize).1 hlater
      have hkept := forall₂_filter_admittedBy (fun f hf => hfs f (List.mem_cons_of_mem _ hf)) htitems
      exact ⟨huvalidator.trans htvalidator, hudense, Copying.forall₂_chain hkept huitems⟩

theorem copied_twice (hs : s.size ≤ maxItems) {f g : Selection α} (hf : f.Faithful C) (hg : g.Faithful C)
    (hp : ∀ x, p x = (f.admits x && g.admits x)) (ht : C.Copied (s.select f) t) (hu : C.Copied (t.select g) u) :
    C.chain.Copied (s.filter p) u := by
  have hselected : Selected C s [f, g] u := .cons ht (.cons hu (.nil u))
  have hcopied := hselected.copied hs (by simp) (by simp [hf, hg])
  have hadmitted : admittedBy [f, g] = p := by
    funext x
    simp [admittedBy, hp]
  rwa [hadmitted] at hcopied

/-- selections by two tests, one after the other, against single selections -/
structure Composes (C : Copying α) (p q : α → Bool) (s : Catalog α) : Prop where
  both : ∀ t u, C.Copied (s.filter p) t → C.Copied (t.filter q) u → C.chain.Copied (s.filter fun x => p x && q x) u
  swapped : ∀ t u, C.Copied (s.filter q) t → C.Copied (t.filter p) u →
    C.chain.Copied (s.filter fun x => p x && q x) u
  negated : s.exclude p = s.filter fun x => !p x
  disjoint : ∀ t u, C.Copied (s.filter p) t → C.Copied (t.exclude p) u → u.entries = []
  neither : ∀ t u, C.Copied (s.exclude p) t → C.Copied (t.exclude q) u →
    C.chain.Copied (s.exclude fun x => p x || q x) u

theorem composes (hs : s.size ≤ maxItems) (hp : (Validator.test p).Faithful C) (hq : (Validator.test q).Faithful C) :
    s.Composes C p q where
  both t u ht hu :=
    copied_twice hs (Selection.faithful_keeping hp) (Selection.faithful_keeping hq) (fun _ => rfl) ht hu
  swapped t u ht hu :=
    copied_twice hs (Selection.faithful_keeping hq) (Selection.faithful_keeping hp) (fun _ => Bool.and_comm _ _) ht hu
  negated := rfl
  disjoint t u ht hu := by
    have hnothing : C.chain.Copied (s.filter fun _ => false) u :=
      copied_twice hs (Selection.faithful_keeping hp) (Selection.faithful_leaving hp)
        (fun x => (Bool.and_not_self (p x)).symm) ht hu
    obtain ⟨-, -, hitems⟩ := (copied_filter_iff hs).1 hnothing
    rw [List.filter_false, List.forall₂_nil_left_iff] at hitems
    exact List.map_eq_nil_iff.1 hitems
  neither t u ht hu :=
    copied_twice hs (Selection.faithful_leaving hp) (Selection.faithful_leaving hq) (fun _ => Bool.not_or _ _) ht hu

/-- the same for items that are their own copies, as equations -/
structure ComposesExactly (p q : α → Bool) (s : Catalog α) : Prop where
  both : (s.filter p).filter q = s.filter fun x => p x && q x
  swapped : (s.filter q).filter p = s.filter fun x => p x && q x
  negated : s.exclude p = s.filter fun x => !p x
  disjoint : (s.filter p).exclude p = ⟨[], s.validator⟩
  neither : (s.exclude p).exclude q = s.exclude fun x => p x || q x

theorem composesExactly (hs : s.size ≤ maxItems) (p q : α → Bool) : s.ComposesExactly p q := by
  have hcomposes : s.Composes (.values α) p q :=
    composes hs (Validator.faithful_values _) (Validator.faithful_values _)
  have hself (t : Catalog α) : (Copying.values α).Copied t t := Copying.copied_values t
  have hempty : ((s.filter p).exclude p).entries = [] := hcomposes.disjoint _ _ (hself _) (hself _)
  exact ⟨Copying.eq_of_copied_values (hcomposes.both _ _ (hself _) (hself _)),
    Copying.eq_of_copied_values (hcomposes.swapped _ _ (hself _) (hself _)), hcomposes.negated,
    congrArg (Catalog.mk · s.validator) hempty,
    Copying.eq_of_copied_values (hcomposes.neither _ _ (hself _) (hself _))⟩

/-- **Selections partition a catalog and nest as one.** The items of a catalog, whatever its keys, are merged from those
that a test keeps and those that it leaves, each in its order; both selections hold copies of theirs under the indices
from 0 on and the validator of the catalog. Selections one after the other, any number of them, come to one selection by
all their tests together: in either order, by a test and its negation to nothing, by two exclusions to the exclusion of
both. They do so up to copies for tests that give an item and its copy one verdict, and for values as equations. -/
theorem selections_partition_and_nest (C : Copying α) {s : Catalog α} (hs : s.size ≤ maxItems) :
    (∀ p t u, C.Copied (s.filter p) t → C.Copied (s.exclude p) u → s.PartitionedInto C p t u) ∧
      (∀ p q, (Validator.test p).Faithful C → (Validator.test q).Faithful C → s.Composes C p q) ∧
      (∀ fs u, fs ≠ [] → (∀ f ∈ fs, f.Faithful C) → Selected C s fs u →
        C.chain.Copied (s.filter (admittedBy fs)) u) ∧
      ∀ p q, s.ComposesExactly p q :=
  ⟨fun _ _ _ ht hu => partitionedInto hs ht hu, fun _ _ hp hq => composes hs hp hq,
    fun _ _ hne hfs hselected => hselected.copied hs hne hfs, fun p q => composesExactly hs p q⟩

/-- boxes under names and sparse indices -/
def scattered : Catalog (Handle Scalar) :=
  ⟨[(.name "b", box 1 0), (.index (-4), box 2 1), (.index 9, box 1 2), (.name "0", box 3 3)], .ofType ⟨"i32"⟩⟩

/-- tells boxes of small numbers, wherever they stand -/
def isSmall (h : Handle Scalar) : Bool :=
  match h.value with
  | .integer _ n => n < 3
  | _ => false

/-- tells boxes at their first places, and so an item from its copy -/
def isPlacedFirst (h : Handle Scalar) : Bool := h.place < 4

theorem scattered_selected :
    scattered.size ≤ maxItems ∧
      scattered.PartitionedInto (.handles Scalar) isSmall ⟨numbered [box 1 4, box 2 5, box 1 6], .ofType ⟨"i32"⟩⟩
        ⟨numbered [box 3 7], .ofType ⟨"i32"⟩⟩ ∧
      ((((scattered.filter isSmall).copyHandles 4).exclude isSmall).copyHandles 7).entries = [] ∧
      (((scattered.filter isPlacedFirst).copyHandles 4).exclude isPlacedFirst).size = 4 := by
  have hsize : scattered.size ≤ maxItems := by decide
  have hsmall : (Validator.test isSmall).Faithful (.handles Scalar) := by
    intro x y h
    change y.value = x.value at h
    simp only [isSmall, h]
  have hcopied (t : Catalog (Handle Scalar)) (n : Nat) : (Copying.handles Scalar).Copied t (t.copyHandles n) :=
    Copying.copied_copyHandles t n
  obtain ⟨hpartition, hcompose, -, -⟩ := selections_partition_and_nest (.handles Scalar) hsize
  have hdisjoint := (hcompose isSmall isSmall hsmall hsmall).disjoint _ _ (hcopied _ 4) (hcopied _ 7)
  exact ⟨hsize, hpartition isSmall _ _ (hcopied _ 4) (hcopied _ 7), hdisjoint, rfl⟩

end Catalog

end Lexicon
