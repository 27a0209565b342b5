/-
Identity under derivation. A catalog contains an item if it holds the very item: for values an equal one, for handles
one at the same place. Copying and selecting store copies under new keys, so they keep what is contained only if an item
and its copy are identical to the same items (`Lasting`). Values are their own copies, and a copy of a shared handle
stands at its place; boxes do not last. For items that last, copies and selections one after the other, any number of
them, contain exactly what the source contains and all their tests admit (`Derived.contains`).

What a place says about handles depends on how they came about. `Handle.InUse` lists the ways, each handle with the
creation that it goes back to: a handle is created at a place that nobody uses, copied, or given up, upon which its
place can be used again. Of the shared handles in use, those at one place are exactly those that go back to one creation
(`Handle.InUse.identical_iff`), whatever their values are.

Results: `identity_survives_derivation`.
-/
import Lexicon.Proofs.Catalog.Selection

namespace Lexicon

/-! ## items that last -/

/-- items are identical to those that they are equal to -/
def ByValue (α : Type) [BEq α] [Identical α] : Prop := ∀ x y : α, isIdentical x y = (x == y)

theorem byValue_scalar : ByValue Scalar := fun _ _ => rfl

theorem byValue_symbol : ByValue Symbol := fun _ _ => rfl

/-- identical items of a sort pass the test together -/
def OneVerdict {α : Type} [Identical α] (sort : α → Prop) (p : α → Bool) : Prop :=
  ∀ x y, sort x → sort y → isIdentical x y = true → p x = p y

theorem OneVerdict.negated {α : Type} [Identical α] {sort : α → Prop} {p : α → Bool} (h : OneVerdict sort p) :
    OneVerdict sort fun x => !p x :=
  fun x y hx hy hxy => congrArg not (h x y hx hy hxy)

/-- items of a sort are identical to themselves, and their copies are of the sort and identical to the same items -/
structure Lasting {α : Type} [Typed α] [Identical α] (C : Copying α) (sort : α → Prop) : Prop where
  refl : ∀ x, sort x → isIdentical x x = true
  copy : ∀ x y, sort x → C.copies x y → sort y ∧ ∀ z, isIdentical y z = isIdentical x z

/-- Among copies the same items are found. -/
theorem Lasting.any_copies {α : Type} [Typed α] [Identical α] {C : Copying α} {sort : α → Prop} (h : Lasting C sort)
    {xs ys : List α} (hxy : List.Forall₂ C.copies xs ys) (hxs : ∀ x ∈ xs, sort x) (z : α) :
    (ys.any fun y => isIdentical y z) = xs.any fun x => isIdentical x z := by
  induction hxy with
  | nil => rfl
  | cons hcopy _ ih =>
    obtain ⟨hx, hrest⟩ := List.forall_mem_cons.1 hxs
    rw [List.any_cons, List.any_cons, (h.copy _ _ hx hcopy).2 z, ih hrest]

theorem ByValue.lasting {α : Type} [Typed α] [Identical α] [BEq α] [ReflBEq α] (h : ByValue α) :
    Lasting (.values α) fun _ => True where
  refl x _ := (h x x).trans (BEq.refl x)
  copy x y _ hxy := by
    obtain rfl : y = x := hxy
    exact ⟨trivial, fun _ => rfl⟩

/-! ## handles that last -/

namespace Handle

variable {β : Type}

/-- copies of the handle stand at its place -/
def IsShared (h : Handle β) : Prop := h.sharing = .shared

theorem copy_shared {h : Handle β} (hs : h.IsShared) (fresh : Nat) : h.copy fresh = h := by
  rw [IsShared] at hs
  rw [copy, hs]

theorem copy_boxed {h : Handle β} (hs : ¬h.IsShared) (fresh : Nat) : h.copy fresh = { h with place := fresh } := by
  unfold IsShared at hs
  unfold copy
  cases hsharing : h.sharing with
  | shared => exact absurd hsharing hs
  | boxed => rfl

theorem isIdentical_iff {g h : Handle β} : isIdentical g h = true ↔ g.place = h.place := beq_iff_eq

/-- Handles in use, each with the number of its creation, after n creations: created at a place that nobody uses,
copied, for which a box needs such a place, or given up. -/
inductive InUse : Nat → List (Nat × Handle β) → Prop where
  | nothing : InUse 0 []
  | create {n : Nat} {hs : List (Nat × Handle β)} (h : InUse n hs) (x : Handle β)
      (hx : ∀ e ∈ hs, e.2.place ≠ x.place) : InUse (n + 1) ((n, x) :: hs)
  | copy {n fresh : Nat} {hs : List (Nat × Handle β)} (h : InUse n hs) {e : Nat × Handle β} (he : e ∈ hs)
      (hfresh : ∀ f ∈ hs, f.2.place ≠ fresh) : InUse n ((e.1, e.2.copy fresh) :: hs)
  | giveUp {n : Nat} {hs gs : List (Nat × Handle β)} (h : InUse n hs) (hgs : gs ⊆ hs) : InUse n gs

/-- handles at one place are the same, and so are shared ones that go back to one creation -/
structure Told (n : Nat) (hs : List (Nat × Handle β)) : Prop where
  created : ∀ e ∈ hs, e.1 < n
  atPlace : ∀ e ∈ hs, ∀ f ∈ hs, e.2.place = f.2.place → e = f
  ofCreation : ∀ e ∈ hs, ∀ f ∈ hs, e.2.IsShared → e.1 = f.1 → e = f

variable {n : Nat} {hs gs : List (Nat × Handle β)} {e f : Nat × Handle β}

theorem Told.subset (h : Told n hs) (hgs : gs ⊆ hs) : Told n gs where
  created e he := h.created e (hgs he)
  atPlace e he f hf := h.atPlace e (hgs he) f (hgs hf)
  ofCreation e he f hf := h.ofCreation e (hgs he) f (hgs hf)

/-- A handle at a place of its own can be told from the others if no shared one goes back to its creation. -/
theorem Told.cons (h : Told n hs) (he : e.1 < n) (hplace : ∀ f ∈ hs, f.2.place ≠ e.2.place)
    (hcreation : ∀ f ∈ hs, e.2.IsShared ∨ f.2.IsShared → f.1 ≠ e.1) : Told n (e :: hs) where
  created f hf := by
    rcases List.mem_cons.1 hf with rfl | hf
    · exact he
    · exact h.created f hf
  atPlace f hf g hg hfg := by
    rcases List.mem_cons.1 hf with rfl | hf' <;> rcases List.mem_cons.1 hg with rfl | hg'
    · rfl
    · exact absurd hfg.symm (hplace g hg')
    · exact absurd hfg (hplace f hf')
    · exact h.atPlace f hf' g hg' hfg
  ofCreation f hf g hg hshared hfg := by
    rcases List.mem_cons.1 hf with rfl | hf' <;> rcases List.mem_cons.1 hg with rfl | hg'
    · rfl
    · exact absurd hfg.symm (hcreation g hg' (.inl hshared))
    · exact absurd hfg (hcreation f hf' (.inr hshared))
    · exact h.ofCreation f hf' g hg' hshared hfg

theorem Told.create (h : Told n hs) {x : Handle β} (hx : ∀ e ∈ hs, e.2.place ≠ x.place) :
    Told (n + 1) ((n, x) :: hs) := by
  have hlater : Told (n + 1) hs := { h with created := fun e he => Nat.lt_succ_of_lt (h.created e he) }
  exact hlater.cons (Nat.lt_succ_self n) hx fun e he _ => Nat.ne_of_lt (h.created e he)

theorem Told.copy (h : Told n hs) {fresh : Nat} (he : e ∈ hs) (hfresh : ∀ f ∈ hs, f.2.place ≠ fresh) :
    Told n ((e.1, e.2.copy fresh) :: hs) := by
  by_cases hshared : e.2.IsShared
  · rw [copy_shared hshared]
    exact h.subset (List.cons_subset.2 ⟨he, List.Subset.refl hs⟩)
  · rw [copy_boxed hshared]
    refine h.cons (h.created e he) hfresh fun f hf hor hfe => ?_
    -- one that is shared and goes back to the creation of the box would be the box
    rcases hor with hbox | hother
    · exact hshared hbox
    · exact hshared (h.ofCreation f hf e he hother hfe ▸ hother)

/-- shared handles among those in use -/
def SharedIn (hs : List (Nat × Handle β)) (h : Handle β) : Prop := h.IsShared ∧ ∃ m, (m, h) ∈ hs

theorem InUse.told (h : InUse n hs) : Told n hs := by
  induction h with
  | nothing => exact ⟨by simp, by simp, by simp⟩
  | create _ _ hx ih => exact ih.create hx
  | copy _ he hfresh ih => exact ih.copy he hfresh
  | giveUp _ hgs ih => exact ih.subset hgs

/-- **Shared handles are identical exactly if they go back to one creation.** -/
theorem InUse.identical_iff (h : InUse n hs) (he : e ∈ hs) (hf : f ∈ hs) (hshared : e.2.IsShared) :
    isIdentical e.2 f.2 = true ↔ e.1 = f.1 := by
  rw [isIdentical_iff]
  exact ⟨fun hplace => congrArg Prod.fst (h.told.atPlace e he f hf hplace),
    fun hcreation => congrArg (fun g => g.2.place) (h.told.ofCreation e he f hf hshared hcreation)⟩

/-- Handles in use at one place are the same, so tests tell them apart as little as places do. -/
theorem InUse.oneVerdict (h : InUse n hs) (p : Handle β → Bool) : OneVerdict (SharedIn hs) p := by
  rintro x y ⟨-, m, hx⟩ ⟨-, m', hy⟩ hxy
  have hsame : x = y := congrArg Prod.snd (h.told.atPlace (m, x) hx (m', y) hy (isIdentical_iff.1 hxy))
  rw [hsame]

end Handle

namespace Copying

variable {β : Type} [Typed β]

/-- copies of handles as they are made, at whatever fresh places -/
def clones (β : Type) [Typed β] : Copying (Handle β) where
  copies x y := ∃ fresh, y = x.copy fresh
  sameTags h := by
    obtain ⟨fresh, rfl⟩ := h
    exact (handles β).sameTags (handles_copy _ fresh)

theorem clones_copy (h : Handle β) (fresh : Nat) : (clones β).copies h (h.copy fresh) := ⟨fresh, rfl⟩

theorem copied_clones (s : Catalog (Handle β)) (fresh : Nat) : (clones β).Copied s (s.copyHandles fresh) :=
  ⟨rfl, copied_numbered clones_copy s.entries fresh 0⟩

theorem lasting_sharedIn (hs : List (Nat × Handle β)) : Lasting (clones β) (Handle.SharedIn hs) where
  refl x _ := Handle.isIdentical_iff.2 rfl
  copy x y hx hxy := by
    obtain ⟨fresh, rfl⟩ := hxy
    rw [Handle.copy_shared hx.1]
    exact ⟨hx, fun _ => rfl⟩

end Copying

/-! ## catalogs derived from one another -/

namespace Catalog

section Derivation

variable {α : Type} [Typed α] [Identical α] {C : Copying α} {sort : α → Prop} {s t u : Catalog α} {p : α → Bool}

omit [Typed α] in
theorem contains_iff {x : α} : s.contains x = true ↔ ∃ y ∈ s.items, isIdentical y x = true := List.any_eq_true

omit [Typed α] in
theorem contains_eq_false {x : α} : s.contains x = false ↔ ∀ y ∈ s.items, isIdentical y x = false := by
  simp [contains]

/-- the keys can tell the positions apart, and the items are of a sort that lasts -/
structure Keeps (C : Copying α) (sort : α → Prop) (s : Catalog α) : Prop where
  lasting : Lasting C sort
  size : s.size ≤ positionLimit
  items : ∀ x ∈ s.items, sort x

/-- A copy contains what the source contains. -/
theorem Keeps.contains_copied (h : s.Keeps C sort) (ht : C.Copied s t) (z : α) : t.contains z = s.contains z :=
  h.lasting.any_copies (Copying.copied_iff.1 ht).2.2 h.items z

theorem Keeps.copied (h : s.Keeps C sort) (ht : C.Copied s t) : t.Keeps C sort where
  lasting := h.lasting
  size := by
    rw [Copying.size_eq ht]
    exact h.size
  items y hy := by
    obtain ⟨e, he, rfl⟩ := List.mem_map.1 hy
    obtain ⟨f, hf, -, hcopy⟩ := Copying.exists_original ht.2 he
    exact (h.lasting.copy _ _ (h.items _ (List.mem_map_of_mem hf)) hcopy).1

theorem Keeps.filter (h : s.Keeps C sort) (p : α → Bool) : (s.filter p).Keeps C sort where
  lasting := h.lasting
  size := Nat.le_trans (size_filter_le h.size p) h.size
  items x hx := by
    rw [items_filter h.size] at hx
    exact h.items x (List.mem_filter.1 hx).1

/-- A selection contains what the source contains and the test admits. -/
theorem Keeps.contains_filter (h : s.Keeps C sort) (hp : OneVerdict sort p) {z : α} (hz : sort z) :
    (s.filter p).contains z = (s.contains z && p z) := by
  rw [Bool.eq_iff_iff, Bool.and_eq_true, contains_iff, contains_iff, items_filter h.size]
  constructor
  · rintro ⟨y, hy, hyz⟩
    obtain ⟨hmem, hpy⟩ := List.mem_filter.1 hy
    exact ⟨⟨y, hmem, hyz⟩, hp y z (h.items y hmem) hz hyz ▸ hpy⟩
  · rintro ⟨⟨y, hy, hyz⟩, hpz⟩
    exact ⟨y, List.mem_filter.2 ⟨hy, (hp y z (h.items y hy) hz hyz).trans hpz⟩, hyz⟩

theorem Keeps.contains_filtered (h : s.Keeps C sort) (hp : OneVerdict sort p) (ht : C.Copied (s.filter p) t) {z : α}
    (hz : sort z) : t.contains z = (s.contains z && p z) :=
  ((h.filter p).contains_copied ht z).trans (h.contains_filter hp hz)

omit [Typed α] [Identical α] in
theorem mem_items_of_get {k : Key} {x : α} (hx : s.get k = .ok x) : x ∈ s.items :=
  List.mem_map.2 ⟨(k, x), Entries.mem_of_at? (get_eq_ok.1 hx), rfl⟩

theorem Keeps.contains_of_get (h : s.Keeps C sort) {k : Key} {x : α} (hx : s.get k = .ok x) : s.contains x = true :=
  have hmem := mem_items_of_get hx
  contains_iff.2 ⟨x, hmem, h.lasting.refl x (h.items x hmem)⟩

/-- u comes of s by copies and selections one after the other, which are these -/
inductive Derived (C : Copying α) : Catalog α → List (Selection α) → Catalog α → Prop where
  | refl (s : Catalog α) : Derived C s [] s
  | copy {s t u : Catalog α} {fs : List (Selection α)} (ht : C.Copied s t) (hu : Derived C t fs u) : Derived C s fs u
  | select {s t u : Catalog α} {f : Selection α} {fs : List (Selection α)} (ht : C.Copied (s.select f) t)
      (hu : Derived C t fs u) : Derived C s (f :: fs) u

theorem Derived.keeps {fs : List (Selection α)} (h : Derived C s fs u) (hs : s.Keeps C sort) : u.Keeps C sort := by
  induction h with
  | refl s => exact hs
  | copy ht _ ih => exact ih (hs.copied ht)
  | @select s t u f fs ht _ ih =>
    rw [select_eq] at ht
    exact ih ((hs.filter _).copied ht)

/-- **What comes of a catalog contains what the catalog contains and all tests admit.** -/
theorem Derived.contains {fs : List (Selection α)} (h : Derived C s fs u) (hs : s.Keeps C sort)
    (hfs : ∀ f ∈ fs, OneVerdict sort f.admits) {z : α} (hz : sort z) :
    u.contains z = (s.contains z && admittedBy fs z) := by
  induction h with
  | refl s => exact (Bool.and_true _).symm
  | copy ht _ ih => rw [ih (hs.copied ht) hfs, hs.contains_copied ht]
  | @select s t u f fs ht _ ih =>
    obtain ⟨hf, hlater⟩ := List.forall_mem_cons.1 hfs
    rw [select_eq] at ht
    rw [ih ((hs.filter _).copied ht) hlater, hs.contains_filtered hf ht hz, Bool.and_assoc]
    rfl

/-- the catalog decides which items of a sort its copies and selections contain, and contains what is got from any -/
structure KeepsIdentity (C : Copying α) (sort : α → Prop) (s : Catalog α) : Prop where
  copied : ∀ t, C.Copied s t → ∀ x, sort x → t.contains x = s.contains x
  filtered : ∀ p, OneVerdict sort p → ∀ t, C.Copied (s.filter p) t →
    ∀ x, sort x → t.contains x = (s.contains x && p x)
  excluded : ∀ p, OneVerdict sort p → ∀ t, C.Copied (s.exclude p) t →
    ∀ x, sort x → t.contains x = (s.contains x && !p x)
  derived : ∀ fs u, (∀ f ∈ fs, OneVerdict sort f.admits) → Derived C s fs u →
    ∀ x, sort x → u.contains x = (s.contains x && admittedBy fs x)
  got : ∀ k x, s.get k = .ok x → s.contains x = true
  gotLater : ∀ fs u, (∀ f ∈ fs, OneVerdict sort f.admits) → Derived C s fs u →
    ∀ k x, u.get k = .ok x → s.contains x = true ∧ ∀ f ∈ fs, f.admits x = true

theorem Keeps.identity (h : s.Keeps C sort) : s.KeepsIdentity C sort where
  copied _ ht x _ := h.contains_copied ht x
  filtered _ hp _ ht _ := h.contains_filtered hp ht
  excluded _ hp _ ht _ := h.contains_filtered hp.negated ht
  derived _ _ hfs hu _ := hu.contains h hfs
  got _ _ := h.contains_of_get
  gotLater fs u hfs hu k x hx := by
    have hlater := hu.keeps h
    have hsort : sort x := hlater.items x (mem_items_of_get hx)
    have hcontained := hlater.contains_of_get hx
    rwa [hu.contains h hfs hsort, Bool.and_eq_true, admittedBy, List.all_eq_true] at hcontained

end Derivation

/-! ## values and handles -/

section Handles

variable {β : Type} {s : Catalog (Handle β)}

/-- Contained is what goes back to the creation of a stored handle. -/
theorem contains_iff_created {n : Nat} {hs : List (Nat × Handle β)} (h : Handle.InUse n hs)
    (hitems : ∀ y ∈ s.items, Handle.SharedIn hs y) {e : Nat × Handle β} (he : e ∈ hs) :
    s.contains e.2 = true ↔ ∃ y ∈ s.items, (e.1, y) ∈ hs := by
  rw [contains_iff]
  refine exists_congr fun y => and_congr_right fun hy => ?_
  obtain ⟨hshared, m, hm⟩ := hitems y hy
  rw [h.identical_iff hm he hshared]
  constructor
  · rintro rfl
    exact hm
  · intro hcreated
    exact (h.identical_iff hm hcreated hshared).1 (Handle.isIdentical_iff.2 rfl)

end Handles

/-- **Identity survives derivation.** For values that are identical if they are equal, and for shared handles in use,
which are identical if they stand at one place: copies of a catalog contain what it contains, selections what it
contains and their test admits, as do copies and selections of these in any number; what is got by key is contained. The
tests are those with one verdict on identical items, which for handles in use are all tests. A value is contained if it
is equal to a stored one. A handle in use is contained exactly if it goes back to the creation of a stored one; one that
is created where nobody stands is not contained, even if an equal one is stored. -/
theorem identity_survives_derivation :
    (∀ (α : Type) [Typed α] [Identical α] [BEq α] [ReflBEq α], ByValue α → ∀ s : Catalog α, s.size ≤ positionLimit →
        s.KeepsIdentity (.values α) (fun _ => True) ∧ ∀ x, s.contains x = true ↔ ∃ y ∈ s.items, (y == x) = true) ∧
      ByValue Scalar ∧ ByValue Symbol ∧
      ∀ (β : Type) [Typed β] (n : Nat) (hs : List (Nat × Handle β)), Handle.InUse n hs →
        (∀ p, OneVerdict (Handle.SharedIn hs) p) ∧
          ∀ s : Catalog (Handle β), s.size ≤ positionLimit → (∀ y ∈ s.items, Handle.SharedIn hs y) →
            s.KeepsIdentity (.clones β) (Handle.SharedIn hs) ∧
              (∀ e ∈ hs, s.contains e.2 = true ↔ ∃ y ∈ s.items, (e.1, y) ∈ hs) ∧
              ∀ x, (∀ e ∈ hs, e.2.place ≠ x.place) → s.contains x = false := by
  refine ⟨fun α _ _ _ _ hα s hs => ⟨?_, fun x => ?_⟩, byValue_scalar, byValue_symbol,
    fun β _ n hs huse => ⟨huse.oneVerdict, fun s hsize hitems => ⟨?_, fun e he => ?_, fun x hx => ?_⟩⟩⟩
  · exact Keeps.identity ⟨hα.lasting, hs, fun _ _ => trivial⟩
  · rw [contains_iff]
    exact exists_congr fun y => and_congr_right fun _ => by rw [hα y x]
  · exact Keeps.identity ⟨Copying.lasting_sharedIn hs, hsize, hitems⟩
  · exact contains_iff_created huse hitems he
  · refine contains_eq_false.2 fun y hy => ?_
    obtain ⟨-, m, hm⟩ := hitems y hy
    exact beq_false_of_ne (hx _ hm)

/-- numbers under a name and sparse indices, one of them twice -/
def numbers : Catalog Scalar :=
  ⟨[(.name "b", .integer .i32 1), (.index (-4), .integer .i32 2), (.index 9, .integer .i32 1)], .ofType ⟨"i32"⟩⟩

/-- a shared handle of a terminal -/
def plus (place : Nat) : Handle Symbol := ⟨.shared, place, .plain .terminal "+" (.character '+')⟩

/-- a shared handle of the sentinel -/
def sentinel : Handle Symbol := ⟨.shared, 1, .endOfInput⟩

/-- the two stored, under a name and a sparse index -/
def sharedSymbols : Catalog (Handle Symbol) := ⟨[(.name "plus", plus 0), (.index 7, sentinel)], .free⟩

/-- the stored handles, a copy of the first, and another terminal that is equal to it -/
def symbolsInUse : List (Nat × Handle Symbol) := [(2, plus 2), (0, (plus 0).copy 2), (1, sentinel), (0, plus 0)]

theorem sharedSymbols_told :
    (numbers.exclude fun x => x == .integer .i32 2).contains (.integer .i32 1) = true ∧
      (numbers.exclude fun x => x == .integer .i32 2).contains (.integer .i32 2) = false ∧
      Handle.InUse 3 symbolsInUse ∧ sharedSymbols.contains (plus 0) = true ∧
      (plus 2 == plus 0) = true ∧ sharedSymbols.contains (plus 2) = false ∧
      (((sharedSymbols.copyHandles 3).exclude fun h => h.value.isEndOfInput).copyHandles 5).contains (plus 0) = true ∧
      ((ofItems [box 1 0]).copyHandles 1).contains (box 1 0) = false := by
  have huse : Handle.InUse 3 symbolsInUse :=
    (((Handle.InUse.nothing.create (plus 0) (by simp)).create sentinel (by decide)).copy (.tail _ (.head _))
      (by decide)).create (plus 2) (by decide)
  have hitems : ∀ y ∈ sharedSymbols.items, Handle.SharedIn symbolsInUse y := by
    simp [sharedSymbols, items, Entries.items, symbolsInUse, Handle.SharedIn, Handle.IsShared, plus, sentinel,
      Handle.copy]
  obtain ⟨hvalues, hscalar, -, hhandles⟩ := identity_survives_derivation
  have htwo : OneVerdict (fun _ => True) fun x : Scalar => x == .integer .i32 2 := by
    rintro x y - - hxy
    obtain rfl : x = y := of_decide_eq_true hxy
    rfl
  obtain ⟨hnumbers, hmember⟩ := hvalues Scalar hscalar numbers (by decide)
  have hexcluded (x : Scalar) := hnumbers.excluded _ htwo _ (Copying.copied_values _) x trivial
  obtain ⟨hverdict, hcatalogs⟩ := hhandles Symbol 3 symbolsInUse huse
  obtain ⟨hidentity, hcreated, -⟩ := hcatalogs sharedSymbols (by decide) hitems
  have hplus : (0, plus 0) ∈ symbolsInUse := by simp [symbolsInUse]
  have hfirst : sharedSymbols.contains (plus 0) = true :=
    (hcreated (0, plus 0) hplus).2 ⟨plus 0, List.mem_cons_self, hplus⟩
  have hderived := hidentity.derived [.leaving fun h => h.value.isEndOfInput] _ (fun _ _ => hverdict _)
    (.copy (Copying.copied_clones sharedSymbols 3) (.select (Copying.copied_clones _ 5) (.refl _))) (plus 0)
    ⟨rfl, 0, hplus⟩
  refine ⟨?_, ?_, huse, hfirst, rfl, ?_, ?_, rfl⟩
  · rw [hexcluded, (hmember _).2 ⟨.integer .i32 1, List.mem_cons_self, BEq.refl _⟩]
    rfl
  · rw [hexcluded, BEq.refl, Bool.not_true, Bool.and_false]
  · -- no stored handle goes back to the third creation
    rw [← Bool.not_eq_true, hcreated (2, plus 2) List.mem_cons_self]
    simp [sharedSymbols, items, Entries.items, symbolsInUse, plus, sentinel, Handle.copy]
  · exact hderived.trans (by rw [hfirst]; rfl)

end Catalog

end Lexicon
