/-
Reading bracketed classes with a closing parenthesis behind. Inside of a class the parenthesis is a character like
others; but it closes no class, so a class is read from both texts or from neither (`readBracketed_alike`). In the midst
of one the reading of the second text may go on with the parenthesis, and is then at the end or right before it.
-/
import Lexicon.Proofs.Expression.Trailing

namespace Lexicon.Expression

variable {x x' : List Char} {p p' : Position} {extended : Bool}

/-! ## what stands ahead -/

namespace Reader

/-- the parenthesis is solid, and behind nothing but blanks it is the first solid character -/
theorem firstSolid_trails (h : Trails x x') (marked : Bool) :
    firstSolid marked x' = firstSolid marked x ∨ firstSolid marked x = none ∧ firstSolid marked x' = some ')' := by
  induction h generalizing marked with
  | nil => exact Or.inl rfl
  | closing => cases marked <;> exact Or.inr ⟨rfl, rfl⟩
  | cons c h ih =>
    simp only [firstSolid]
    split_ifs
    · exact ih _
    · exact ih _
    · exact Or.inl rfl

theorem head?_of_firstSolid_eq_none {c : Char} (hblank : Unicode.isBlank c = false) (hmark : c ≠ '#')
    (h : firstSolid false x = none) : x.head? ≠ some c := by
  rintro hc
  obtain ⟨y, rfl⟩ := List.head?_eq_some_iff.1 hc
  simp [firstSolid, hblank, hmark] at h

theorem peek_trails (h : Trails x x') (p p' : Position) {c d : Char} (hblank : Unicode.isBlank d = false)
    (hmark : d ≠ '#') (hclosing : d ≠ ')') :
    (peek extended ⟨c :: x', p'⟩ == some d) = (peek extended ⟨c :: x, p⟩ == some d) := by
  cases extended with
  | false => exact h.head?_eq hclosing
  | true =>
    change ((firstSolid false x').orElse (fun _ => x'.head?) == some d) =
      ((firstSolid false x).orElse (fun _ => x.head?) == some d)
    obtain heq | ⟨hnone, hsome⟩ := firstSolid_trails h false
    · rw [heq]
      cases firstSolid false x with
      | some e => rfl
      | none => exact h.head?_eq hclosing
    · rw [hnone, hsome]
      have hhead := head?_of_firstSolid_eq_none hblank hmark hnone
      simpa [Ne.symm hclosing] using hhead

end Reader

/-- the text up to a character other than the parenthesis: either both texts have it, or nothing is left of them -/
theorem takeWhile_trails (h : Trails x x') (stop : Char) (hstop : stop ≠ ')') :
    (x'.takeWhile (· != stop) = x.takeWhile (· != stop) ∧
        Trails (x.drop (x.takeWhile (· != stop)).length) (x'.drop (x.takeWhile (· != stop)).length)) ∨
      x.drop (x.takeWhile (· != stop)).length = [] ∧ x'.drop (x'.takeWhile (· != stop)).length = [] := by
  induction h with
  | nil => exact Or.inr ⟨rfl, rfl⟩
  | closing => exact Or.inr ⟨rfl, by simp [Ne.symm hstop]⟩
  | cons c h ih =>
    by_cases hc : c = stop
    · exact Or.inl (by simpa [hc] using h.cons stop)
    · simpa [hc] using ih

/-! ## parts -/

/-- what may be read from two texts, the second of which trails the first: the same part, less than n characters being
left of the first text, or nothing -/
inductive MaybeAlike {α β : Type} (n : Nat) (same : α → β) : Option (α × Reader) → Option (α × Reader) → Prop where
  | both {a a' : α} {s s' : Reader} (ha : same a = same a') (hs : Trails s.rest s'.rest) (hn : s.rest.length < n) :
      MaybeAlike n same (some (a, s)) (some (a', s'))
  | neither : MaybeAlike n same none none

/-- the name of a class and the brackets behind it -/
theorem nameOfClass_alike {s s' : Reader} {n : Nat} (hs : Trails s.rest s'.rest) (hn : s.rest.length < n)
    (start start' : Position) (negated : Bool) :
    MaybeAlike n ClassTree.unplaced
      (do
        let name := s.rest.takeWhile (· != ':')
        let after ← (s.skip name.length).skip? [':', ']']
        let c ← namedClass? name
        return (.named ⟨start, after.pos⟩ c negated, after))
      (do
        let name := s'.rest.takeWhile (· != ':')
        let after ← (s'.skip name.length).skip? [':', ']']
        let c ← namedClass? name
        return (.named ⟨start', after.pos⟩ c negated, after)) := by
  dsimp only
  obtain ⟨hname, hbehind⟩ | ⟨hnil, hnil'⟩ := takeWhile_trails hs ':' (by decide)
  · rw [hname]
    generalize s.rest.takeWhile (· != ':') = name at hbehind ⊢
    have hle : (s.skip name.length).rest.length ≤ s.rest.length := by
      rw [Reader.rest_skip, List.length_drop]
      exact Nat.sub_le _ _
    rw [← Reader.rest_skip, ← Reader.rest_skip] at hbehind
    generalize s.skip name.length = u at hbehind hle ⊢
    generalize s'.skip name.length = u' at hbehind ⊢
    obtain ⟨t, t', ht, ht', hrest, hx⟩ | ⟨hnone, hnone'⟩ :=
      Reader.trails_skip? hbehind u.pos u'.pos [':', ']'] (by decide)
    · rw [ht, ht']
      cases namedClass? name with
      | none => exact .neither
      | some c =>
        refine .both rfl hrest ?_
        rw [← hx, List.length_append] at hle
        omega
    · rw [hnone, hnone']
      exact .neither
  · have hstop {r : Reader} (hr : r.rest = []) : r.skip? [':', ']'] = none := by simp [Reader.skip?, hr]
    rw [← Reader.rest_skip] at hnil hnil'
    rw [hstop hnil, hstop hnil']
    exact .neither

theorem readNamed?_alike (h : Trails x x') (p p' : Position) :
    MaybeAlike x.length ClassTree.unplaced (readNamed? ⟨x, p⟩) (readNamed? ⟨x', p'⟩) := by
  unfold readNamed?
  obtain ⟨s, s', hs, hs', hrest, rfl⟩ | ⟨hnone, hnone'⟩ := Reader.trails_skip? h p p' ['[', ':'] (by decide)
  · rw [hs, hs']
    simp only [Option.bind_eq_bind, Option.bind_some]
    rw [hrest.head?_eq (by decide)]
    refine nameOfClass_alike ?_ ?_ p p' (s.rest.head? == some '^')
    · split_ifs
      · exact Reader.trails_bump hrest
      · exact hrest
    · have hbump := Reader.length_bump_le s
      split_ifs <;> simp only [List.length_append, List.length_cons, List.length_nil] <;> omega
  · rw [hnone, hnone']
    exact .neither

theorem readClassAtom_alike (h : Trails x x') (p p' : Position) :
    Alike x.length Atom.unplaced (Leftover extended) (readClassAtom extended ⟨x, p⟩)
      (readClassAtom extended ⟨x', p'⟩) := by
  cases h with
  | nil => exact .refused
  | closing => exact .spent (Or.inl rfl)
  | @cons y y' c h =>
    simp only [readClassAtom]
    split_ifs
    · exact readEscape_alike h c
    · exact .both rfl h (Nat.lt_succ_self _)

/-- at most the parenthesis is left -/
def AlmostAtEnd {α : Type} (_ : α) (s : Reader) : Prop := s.rest = [] ∨ s.rest = [')']

theorem Atom.toClassTree_cases {a a' : Atom} (h : a.unplaced = a'.unplaced) :
    (∃ t t', a.toClassTree = .ok t ∧ a'.toClassTree = .ok t' ∧ t.unplaced = t'.unplaced) ∨
      ∃ d d', a.toClassTree = .error d ∧ a'.toClassTree = .error d' := by
  cases a <;> cases a' <;>
    simp only [unplaced, Atom.literal.injEq, Atom.property.injEq, Atom.short.injEq, reduceCtorEq] at h
  all_goals simp_all [toClassTree, ClassTree.unplaced]

theorem Atom.toRangeEnd_cases {a a' : Atom} (h : a.unplaced = a'.unplaced) :
    (∃ l l', a.toRangeEnd = .ok l ∧ a'.toRangeEnd = .ok l' ∧ l.unplaced = l'.unplaced) ∨
      ∃ d d', a.toRangeEnd = .error d ∧ a'.toRangeEnd = .error d' := by
  cases a <;> cases a' <;> simp only [unplaced, Atom.literal.injEq, reduceCtorEq] at h
  all_goals simp_all [toRangeEnd]

theorem Literal.char_eq_of_unplaced_eq {l l' : Literal} (h : l.unplaced = l'.unplaced) : l.char = l'.char :=
  show l.unplaced.char = l'.unplaced.char from congrArg Literal.char h

/-- an item that is no range -/
theorem singleItem_alike {low low' : Atom} {s s' : Reader} {n : Nat} (hlow : low.unplaced = low'.unplaced)
    (hs : Trails s.rest s'.rest) (hn : s.rest.length < n) :
    Alike n ClassTree.unplaced AlmostAtEnd (do let t ← low.toClassTree; return (t, s))
      (do let t ← low'.toClassTree; return (t, s')) := by
  obtain ⟨t, t', ht, ht', heq⟩ | ⟨d, d', hd, hd'⟩ := Atom.toClassTree_cases hlow
  · rw [ht, ht']
    exact .both heq hs hn
  · rw [hd, hd']
    exact .refused

/-- a range between two atoms -/
theorem range_alike {low low' high high' : Atom} {s s' : Reader} {n : Nat} (hlow : low.unplaced = low'.unplaced)
    (hhigh : high.unplaced = high'.unplaced) (hs : Trails s.rest s'.rest) (hn : s.rest.length < n)
    (span span' : Span) :
    Alike n ClassTree.unplaced AlmostAtEnd
      (do
        let a ← low.toRangeEnd
        let b ← high.toRangeEnd
        if b.char < a.char then throw (Fault.rangeReversed.on span)
        return (.range span a b, s))
      (do
        let a ← low'.toRangeEnd
        let b ← high'.toRangeEnd
        if b.char < a.char then throw (Fault.rangeReversed.on span')
        return (.range span' a b, s')) := by
  obtain ⟨a, a', ha, ha', hlow⟩ | ⟨d, d', hd, hd'⟩ := Atom.toRangeEnd_cases hlow
  · obtain ⟨b, b', hb, hb', hhigh⟩ | ⟨d, d', hd, hd'⟩ := Atom.toRangeEnd_cases hhigh
    · rw [ha, ha', hb, hb']
      simp only [Except.bind, bind]
      rw [Literal.char_eq_of_unplaced_eq hlow, Literal.char_eq_of_unplaced_eq hhigh]
      split_ifs
      · exact .refused
      · refine .both ?_ hs hn
        rw [ClassTree.unplaced, ClassTree.unplaced, hlow, hhigh]
    · rw [ha, ha', hd, hd']
      exact .refused
  · rw [hd, hd']
    exact .refused

/-- a range that ends with what is left over -/
theorem range_ends {low high : Atom} {s : Reader} (h : Leftover extended high s) (span : Span) :
    Alike.Ends AlmostAtEnd
      (do
        let a ← low.toRangeEnd
        let b ← high.toRangeEnd
        if b.char < a.char then throw (Fault.rangeReversed.on span)
        return (ClassTree.range span a b, s)) := by
  cases low.toRangeEnd with
  | error d => trivial
  | ok a =>
    obtain hnil | ⟨⟨_, _, rfl⟩, _⟩ := h
    · cases high.toRangeEnd with
      | error d => trivial
      | ok b =>
        simp only [bind, Except.bind]
        split_ifs
        · trivial
        · exact Or.inl hnil
    · trivial

theorem readClassItem_alike (h : Trails x x') (p p' : Position) (opening opening' : Span) :
    Alike x.length ClassTree.unplaced AlmostAtEnd (readClassItem extended opening ⟨x, p⟩)
      (readClassItem extended opening' ⟨x', p'⟩) := by
  refine (readClassAtom_alike h p p').bind ?_ ?_
  · intro low low' s s' hlow hs hlt
    have hahead := Reader.ahead_trim extended hs
    dsimp only
    generalize s.trim extended = t at hahead ⊢
    generalize s'.trim extended = t' at hahead ⊢
    cases hahead with
    | nil => exact .refused
    | closing =>
      -- the first reading has come to the end, the second goes on behind the item
      have hnotHyphen : (')' != '-') = true := rfl
      simp only [hnotHyphen, Bool.true_or, if_true]
      cases low'.toClassTree with
      | error d => exact .refused
      | ok t => exact .spent (Or.inr rfl)
    | @cons y y' q q' c hy hle =>
      have hinner := Reader.ahead_advance extended hy c q q'
      have hlength := Nat.lt_of_le_of_lt hle hlt
      dsimp only
      rw [Reader.peek_trails hy q q' rfl (by decide) (by decide),
        Reader.peek_trails hy q q' rfl (by decide) (by decide)]
      generalize Reader.advance extended ⟨c :: y, q⟩ = u at hinner ⊢
      generalize Reader.advance extended ⟨c :: y', q'⟩ = u' at hinner ⊢
      by_cases hsingle : (c != '-' || Reader.peek extended ⟨c :: y, q⟩ == some ']' ||
          Reader.peek extended ⟨c :: y, q⟩ == some '-') = true
      · rw [if_pos hsingle, if_pos hsingle]
        exact singleItem_alike hlow (hy.cons c) hlength
      · rw [if_neg hsingle, if_neg hsingle]
        cases hinner with
        | nil => exact .refused
        | @closing o o' =>
          have hend (high : Atom) : Leftover extended high ⟨[], o'.past ')'⟩ := Or.inl rfl
          exact .of_ends (range_ends (hend _) _)
        | @cons z z' o o' d hz hlt' =>
          have hle : (d :: z).length ≤ x.length := Nat.le_trans hlt' (Nat.le_of_lt (Nat.lt_of_succ_lt hlength))
          refine ((readClassAtom_alike (hz.cons d) o o').mono hle).bind ?_ ?_
          · intro high high' v v' hhigh hv hltv
            exact range_alike hlow hhigh hv hltv _ _
          · exact fun high v hleft => range_ends hleft _
  · rintro low ⟨_, q⟩ (rfl | ⟨⟨span, m, rfl⟩, y, rfl, -⟩)
    · have hstop : (Reader.trim extended ⟨[], q⟩).rest = [] := Reader.trim_of_rest_eq_nil rfl
      dsimp only
      rw [hstop]
      trivial
    · -- an assertion is no item
      have htrim : Reader.trim extended ⟨'{' :: y, q⟩ = ⟨'{' :: y, q⟩ := Reader.trim_of_solid rfl (by decide) y q
      dsimp only
      rw [htrim]
      trivial

/-! ## openings -/

/-- items without places, the latest first -/
def Items.unplaced (u : Items) : List ClassTree := u.latest.map ClassTree.unplaced

theorem Items.unplaced_add {u u' : Items} {t t' : ClassTree} (hu : u.unplaced = u'.unplaced)
    (ht : t.unplaced = t'.unplaced) : (u.add t).unplaced = (u'.add t').unplaced := by
  simp only [unplaced, add, List.map_cons, ht]
  exact congrArg _ hu

theorem Items.toTree_unplaced (u : Items) : u.toTree.unplaced =
    match u.unplaced with
    | [] => .empty .nowhere
    | [t] => t
    | ts => .union .nowhere ts.reverse := by
  obtain ⟨_, _ | ⟨t, _ | ⟨t', ts⟩⟩⟩ := u
  · rfl
  · rfl
  · simp only [toTree, unplaced, ClassTree.unplaced, ClassTree.allUnplaced_eq_map, List.map_reverse, List.map_cons]

/-- an opening without places: whether it means the others, and the items -/
def Opening.unplaced (o : Opening) : Bool × List ClassTree := (o.negated, o.items.unplaced)

theorem readHyphens_closing (start p : Position) (fuel : Nat) (u : Items) :
    readHyphens extended start fuel u ⟨[')'], p⟩ = .ok (u, ⟨[')'], p⟩) := by
  cases fuel <;> rfl

theorem readHyphens_alike (h : Trails x x') (p p' : Position) {fuel fuel' : Nat} (hfuel : x.length < fuel)
    (hfuel' : x'.length < fuel') (start start' : Position) (u u' : Items) (hu : u.unplaced = u'.unplaced) :
    Alike (x.length + 1) Items.unplaced AlmostAtEnd (readHyphens extended start fuel u ⟨x, p⟩)
      (readHyphens extended start' fuel' u' ⟨x', p'⟩) := by
  induction fuel generalizing x x' p p' fuel' u u' with
  | zero => cases hfuel
  | succ fuel ih =>
    obtain ⟨fuel', rfl⟩ := Nat.exists_eq_add_one.2 (Nat.zero_lt_of_lt hfuel')
    cases h with
    | nil => exact .both hu .nil (Nat.lt_succ_self _)
    | closing => exact .both hu .closing (Nat.lt_succ_self _)
    | @cons y y' c hy =>
      by_cases hc : c = '-'
      · subst hc
        have hinner := Reader.ahead_advance extended hy '-' p p'
        have hlt' := Nat.lt_of_lt_of_le (Reader.length_advance_lt extended '-' y' p') (Nat.le_of_lt_succ hfuel')
        have hitem : (u.add (.literal ⟨(⟨'-' :: y, p⟩ : Reader).next, '-', false⟩)).unplaced =
            (u'.add (.literal ⟨(⟨'-' :: y', p'⟩ : Reader).next, '-', false⟩)).unplaced := Items.unplaced_add hu rfl
        simp only [readHyphens]
        generalize Reader.advance extended ⟨'-' :: y, p⟩ = r at hinner ⊢
        generalize Reader.advance extended ⟨'-' :: y', p'⟩ = r' at hinner hlt' ⊢
        cases hinner with
        | nil => exact .refused
        | closing =>
          simp only [readHyphens_closing]
          exact .spent (Or.inr rfl)
        | @cons z z' q q' d hz hle =>
          have hlt := Nat.lt_of_le_of_lt hle (Nat.lt_of_succ_lt_succ hfuel)
          exact (ih (hz.cons d) q q' hlt hlt' _ _ hitem).mono (Nat.succ_le_succ (Nat.le_succ_of_le hle))
      · simp only [readHyphens, List.cons.injEq, hc, false_and, imp_self, implies_true]
        exact .both hu (hy.cons c) (Nat.lt_succ_self _)

/-- the opening of a class behind its caret, if it has one -/
theorem openingBody_alike {r r' : Reader} {n : Nat} (h : Trails r.rest r'.rest) (hn : r.rest.length < n)
    (start start' : Position) (negated : Bool) :
    Alike n Opening.unplaced AlmostAtEnd
      (do
        if r.rest.isEmpty then throw (Fault.classUnclosed.on ⟨start, r.pos⟩)
        let (items, r) ← readHyphens extended start (r.rest.length + 1) (Items.none r.pos) r
        match items.latest, r.rest with
        | [], ']' :: _ =>
          let items := items.add (.literal ⟨r.next, ']', false⟩)
          let r := r.advance extended
          if r.rest.isEmpty then throw (Fault.classUnclosed.on ⟨start, r.pos⟩)
          return (⟨⟨start, r.pos⟩, negated, items⟩, r)
        | _, _ => return (⟨⟨start, r.pos⟩, negated, items⟩, r))
      (do
        if r'.rest.isEmpty then throw (Fault.classUnclosed.on ⟨start', r'.pos⟩)
        let (items, r) ← readHyphens extended start' (r'.rest.length + 1) (Items.none r'.pos) r'
        match items.latest, r.rest with
        | [], ']' :: _ =>
          let items := items.add (.literal ⟨r.next, ']', false⟩)
          let r := r.advance extended
          if r.rest.isEmpty then throw (Fault.classUnclosed.on ⟨start', r.pos⟩)
          return (⟨⟨start', r.pos⟩, negated, items⟩, r)
        | _, _ => return (⟨⟨start', r.pos⟩, negated, items⟩, r)) := by
  obtain ⟨x, p⟩ := r
  obtain ⟨x', p'⟩ := r'
  cases h with
  | nil => exact .refused
  | closing => exact .spent (Or.inr rfl)
  | @cons x x' c hx =>
    dsimp only [List.isEmpty_cons]
    rw [if_neg Bool.false_ne_true, if_neg Bool.false_ne_true]
    refine (readHyphens_alike (hx.cons c) p p' (Nat.lt_add_one _) (Nat.lt_add_one _) start start'
      (Items.none p) (Items.none p') rfl).bind ?_ ?_
    · rintro ⟨span, items⟩ ⟨span', items'⟩ ⟨y, q⟩ ⟨y', q'⟩ hitems hy hlt
      have hle := Nat.lt_of_le_of_lt (Nat.le_of_lt_succ hlt) hn
      cases items with
      | cons t ts =>
        cases items' with
        | nil => cases hitems
        | cons t' ts' => exact .both (congrArg (negated, ·) hitems) hy hle
      | nil =>
        cases items' with
        | cons t' ts' => cases hitems
        | nil =>
          cases hy with
          | nil => exact .both rfl .nil hle
          | closing => exact .both rfl .closing hle
          | @cons y y' d hy =>
            by_cases hd : d = ']'
            · subst hd
              have hinner := Reader.ahead_advance extended hy ']' q q'
              dsimp only
              generalize Reader.advance extended ⟨']' :: y, q⟩ = u at hinner ⊢
              generalize Reader.advance extended ⟨']' :: y', q'⟩ = u' at hinner ⊢
              cases hinner with
              | nil => exact .refused
              | closing => exact .spent (Or.inr rfl)
              | cons e hz hlt' => exact .both rfl (hz.cons e) (Nat.lt_trans (Nat.succ_lt_succ hlt') hle)
            · simp only [List.cons.injEq, hd, false_and, imp_self, implies_true]
              exact .both rfl (hy.cons d) hle
    · rintro ⟨span, items⟩ ⟨y, q⟩ (rfl | rfl)
      · cases items <;> exact Or.inl rfl
      · cases items <;> exact Or.inr rfl

theorem readOpening_alike (h : Trails x x') (p p' : Position) (c : Char) :
    Alike (x.length + 1) Opening.unplaced AlmostAtEnd (readOpening extended ⟨c :: x, p⟩)
      (readOpening extended ⟨c :: x', p'⟩) := by
  have hahead := Reader.ahead_advance extended h c p p'
  simp only [readOpening]
  generalize Reader.advance extended ⟨c :: x, p⟩ = r at hahead ⊢
  generalize Reader.advance extended ⟨c :: x', p'⟩ = r' at hahead ⊢
  cases hahead with
  | nil => exact .refused
  | closing => exact .spent (Or.inr rfl)
  | @cons y y' q q' d hy hle =>
    have hy' : Trails (Reader.mk (d :: y) q).rest (Reader.mk (d :: y') q').rest := hy.cons d
    have hlt : (Reader.mk (d :: y) q).rest.length < x.length + 1 := Nat.lt_succ_of_le hle
    dsimp only [List.isEmpty_cons, List.head?_cons]
    rw [if_neg Bool.false_ne_true, if_neg Bool.false_ne_true]
    refine openingBody_alike ?_ ?_ p p' (some d == some '^')
    · by_cases hcaret : d = '^'
      · simpa [hcaret] using Reader.trails_advance extended hy'
      · simpa [hcaret] using hy.cons d
    · by_cases hcaret : d = '^'
      · simpa [hcaret] using Nat.lt_of_le_of_lt (Reader.length_advance_le extended _) hlt
      · simpa [hcaret] using hlt

/-! ## whole classes -/

/-- a waiting operation without places -/
def Waiting.unplaced (w : Waiting) : Waiting := w.map fun (op, left) => (op, left.unplaced)

theorem Waiting.complete_unplaced (w : Waiting) (right : ClassTree) : (w.complete right).unplaced =
    match w.unplaced with
    | none => right.unplaced
    | some (op, left) => .binary .nowhere op left right.unplaced := by
  cases w <;> rfl

/-- the class so far, completed -/
theorem completed_unplaced_eq {w w' : Waiting} {u u' : Items} (hw : w.unplaced = w'.unplaced)
    (hu : u.unplaced = u'.unplaced) : (w.complete u.toTree).unplaced = (w'.complete u'.toTree).unplaced := by
  rw [Waiting.complete_unplaced, Waiting.complete_unplaced, hw, Items.toTree_unplaced, Items.toTree_unplaced, hu]

theorem classOp?_trails (h : Trails x x') (p p' : Position) : classOp? ⟨x', p'⟩ = classOp? ⟨x, p⟩ := by
  cases h with
  | nil => rfl
  | closing => rfl
  | cons c h =>
    cases h with
    | nil => rfl
    | closing => simp [classOp?]
    | cons d h =>
      unfold classOp?
      dsimp only
      split <;> split <;> simp_all

theorem readClassItem_closing (extended : Bool) (opening : Span) (p : Position) :
    readClassItem extended opening ⟨[')'], p⟩ = .error (Fault.classUnclosed.on opening) := by
  cases extended <;> rfl

/-- the parenthesis closes no class -/
theorem readItems_end (extended : Bool) (opening : Opening) (fuel : Nat) (waiting : Waiting) (items : Items)
    {s : Reader} (h : s.rest = [] ∨ s.rest = [')']) :
    ∃ d, readItems extended opening fuel waiting items s = .error d := by
  cases fuel with
  | zero => exact ⟨_, rfl⟩
  | succ fuel =>
    obtain ⟨_, p⟩ := s
    obtain rfl | rfl := h
    · have hstop : (Reader.trim extended ⟨[], p⟩).rest = [] := Reader.trim_of_rest_eq_nil rfl
      simp only [readItems, hstop]
      exact ⟨_, rfl⟩
    · have htrim : Reader.trim extended ⟨[')'], p⟩ = ⟨[')'], p⟩ := Reader.trim_of_solid rfl (by decide) [] p
      have hclass : classOp? ⟨[')'], p⟩ = none := rfl
      have hitem := readClassItem_closing extended opening.span p
      simp only [readItems, htrim, hclass, hitem]
      exact ⟨_, rfl⟩

theorem readItems_alike (h : Trails x x') (p p' : Position) {fuel fuel' : Nat} (hfuel : x.length < fuel)
    (hfuel' : x.length + 1 < fuel') {opening opening' : Opening} (ho : opening.negated = opening'.negated)
    {waiting waiting' : Waiting} (hw : waiting.unplaced = waiting'.unplaced) {items items' : Items}
    (hu : items.unplaced = items'.unplaced) :
    Alike (x.length + 1) ClassTree.unplaced never (readItems extended opening fuel waiting items ⟨x, p⟩)
      (readItems extended opening' fuel' waiting' items' ⟨x', p'⟩) := by
  induction fuel generalizing x x' p p' fuel' opening opening' waiting waiting' items items' with
  | zero => cases hfuel
  | succ fuel ih =>
    obtain ⟨fuel', rfl⟩ := Nat.exists_eq_add_one.2 (Nat.zero_lt_of_lt hfuel')
    have htexts : Trails (Reader.mk x p).rest (Reader.mk x' p').rest := h
    have hahead : Reader.Ahead x.length (Reader.trim extended ⟨x, p⟩) (Reader.trim extended ⟨x', p'⟩) :=
      Reader.ahead_trim extended htexts
    simp only [readItems]
    generalize Reader.trim extended ⟨x, p⟩ = r at hahead ⊢
    generalize Reader.trim extended ⟨x', p'⟩ = r' at hahead ⊢
    cases hahead with
    | nil => exact .refused
    | @closing q q' =>
      have hclass : classOp? ⟨[')'], q'⟩ = none := rfl
      simp only [hclass, readClassItem_closing]
      exact .refused
    | @cons y y' q q' c hy hle =>
      by_cases hclose : c = ']'
      · subst hclose
        dsimp only
        refine .both ?_ hy ?_
        · simp only [ClassTree.unplaced, ho, completed_unplaced_eq hw hu]
        · exact Nat.lt_succ_of_le (Nat.le_of_succ_le hle)
      by_cases hopen : c = '['
      · subst hopen
        dsimp only
        have hnamed := readNamed?_alike (hy.cons '[') q q'
        generalize readNamed? ⟨'[' :: y, q⟩ = named at hnamed ⊢
        generalize readNamed? ⟨'[' :: y', q'⟩ = named' at hnamed ⊢
        cases hnamed with
        | both ht hs hlt =>
          change _ < y.length + 1 at hlt
          exact (ih hs _ _ (by omega) (by omega) ho hw (Items.unplaced_add hu ht)).mono (by omega)
        | neither =>
          refine (readOpening_alike hy q q' '[').bind ?_ ?_
          · rintro inner inner' s s' hinner hs hlt
            obtain ⟨hnegated, hitems⟩ := Prod.mk.inj hinner
            refine (ih hs _ _ (by omega) (by omega) hnegated rfl hitems).bind ?_ ?_
            · intro t t' u u' ht hu' hlt'
              exact (ih hu' _ _ (by omega) (by omega) ho hw (Items.unplaced_add hu ht)).mono (by omega)
            · exact fun _ _ h => h.elim
          · intro inner s hend
            obtain ⟨d, hd⟩ := readItems_end extended inner fuel' none inner.items hend
            dsimp only
            rw [hd]
            trivial
      · simp only [List.cons.injEq, hopen, hclose, false_and, imp_self, implies_true]
        rw [classOp?_trails (hy.cons c) q q']
        cases classOp? ⟨c :: y, q⟩ with
        | some op =>
          have hskip : Trails (Reader.skip ⟨c :: y, q⟩ 2).rest (Reader.skip ⟨c :: y', q'⟩ 2).rest :=
            Reader.trails_skip (hy.cons c) 2
          have hlt : (Reader.skip ⟨c :: y, q⟩ 2).rest.length ≤ y.length := Reader.length_bump_le ⟨y, _⟩
          have hwaiting : Waiting.unplaced (some (op, waiting.complete items.toTree)) =
              Waiting.unplaced (some (op, waiting'.complete items'.toTree)) :=
            congrArg (fun t => some (op, t)) (completed_unplaced_eq hw hu)
          have hitems : (Items.none (Reader.skip ⟨c :: y, q⟩ 2).pos).unplaced =
              (Items.none (Reader.skip ⟨c :: y', q'⟩ 2).pos).unplaced := rfl
          exact (ih hskip _ _ (by omega) (by omega) ho hwaiting hitems).mono (by omega)
        | none =>
          refine (readClassItem_alike (hy.cons c) q q' opening.span opening'.span).bind ?_ ?_
          · intro t t' s s' ht hs hlt
            change _ < y.length + 1 at hlt
            exact (ih hs _ _ (by omega) (by omega) ho hw (Items.unplaced_add hu ht)).mono (by omega)
          · intro t s hend
            obtain ⟨d, hd⟩ := readItems_end extended opening' fuel' waiting' (items'.add t) hend
            dsimp only
            rw [hd]
            trivial

theorem readBracketed_alike (h : Trails x x') (p p' : Position) (c : Char) :
    Alike (x.length + 1) ClassTree.unplaced never (readBracketed extended ⟨c :: x, p⟩)
      (readBracketed extended ⟨c :: x', p'⟩) := by
  have hle := h.length_le
  refine (readOpening_alike h p p' c).bind ?_ ?_
  · intro opening opening' s s' hopening hs hlt
    obtain ⟨hnegated, hitems⟩ := Prod.mk.inj hopening
    refine (readItems_alike hs _ _ ?_ ?_ hnegated rfl hitems).mono hlt
    · dsimp only [List.length_cons]
      omega
    · dsimp only [List.length_cons]
      omega
  · intro opening s hend
    obtain ⟨d, hd⟩ := readItems_end extended opening ((c :: x').length + 1) none opening.items hend
    dsimp only
    rw [hd]
    trivial

end Lexicon.Expression
