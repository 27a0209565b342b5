/-
Reading the pieces of an expression with a closing parenthesis behind. The parenthesis ends an escape or a setting of
flags that the first text leaves open; and a brace behind an assertion, which the first text leaves open too, is then
the start of a count without digits. Other pieces are read from both texts or from neither (`readToken_alike`).
-/
import Lexicon.Proofs.Expression.TrailingClass

namespace Lexicon.Expression

variable {x x' : List Char} {p p' : Position} {extended : Bool}

/-! ## pieces without places -/

/-- what a parenthesis starts, without its place -/
def GroupMark.unplaced : GroupMark → GroupMark
  | .plain => .plain
  | .named name _ => .named name .nowhere
  | .scoped fs => .scoped fs

/-- a piece without its place -/
def Token.unplaced : Token → Token
  | .part t => .part t.unplaced
  | .opening _ mark => .opening .nowhere mark.unplaced
  | .closing => .closing
  | .bar => .bar
  | .repetition min max greedy => .repetition min max greedy

/-- nothing is left behind a part; or the part is an assertion, and a brace with the parenthesis alone behind it is
left -/
def Stranded (extended : Bool) (t : Token) (s : Reader) : Prop :=
  (∃ tree, t = .part tree ∧ s.rest = []) ∨
    ∃ span m y, t = .part (.mark span m) ∧ s.rest = '{' :: y ∧ (s.advance extended).rest = [')']

/-! ## flags -/

/-- flags without places -/
def flagsOf (items : List FlagItem) : List (Option Flag) := items.map Prod.fst

theorem settingsOf_eq {items items' : List FlagItem} (h : flagsOf items = flagsOf items') (on : Bool) :
    settingsOf on items = settingsOf on items' := by
  induction items generalizing items' on with
  | nil =>
    cases items' with
    | nil => rfl
    | cons i items' => cases h
  | cons i items ih =>
    obtain _ | ⟨⟨flag', span'⟩, items'⟩ := items'
    · cases h
    · obtain ⟨flag, span⟩ := i
      obtain ⟨rfl, hrest⟩ := List.cons.inj h
      cases flag with
      | none => exact ih hrest false
      | some f => exact congrArg ((f, on) :: ·) (ih hrest on)

theorem isSome_find?_eq {items items' : List FlagItem} (h : flagsOf items = flagsOf items') (flag : Option Flag) :
    (items.find? fun i => i.1 == flag).isSome = (items'.find? fun i => i.1 == flag).isSome := by
  have hmap (items : List FlagItem) :
      (items.find? fun i => i.1 == flag).isSome = (flagsOf items).any (· == flag) := by
    rw [Bool.eq_iff_iff, List.find?_isSome, List.any_eq_true]
    simp only [flagsOf, List.mem_map, exists_exists_and_eq_and]
  rw [hmap, hmap, h]

/-- right before the parenthesis -/
def AtClosing {α : Type} (_ : α) (s : Reader) : Prop := s.rest = [')']

theorem flagsOf_reverse (items : List FlagItem) : flagsOf items.reverse = (flagsOf items).reverse :=
  List.map_reverse

theorem isEmpty_flagsOf (items : List FlagItem) : (flagsOf items).isEmpty = items.isEmpty := List.isEmpty_map

theorem readFlags_alike (h : Trails x x') (p p' : Position) {items items' : List FlagItem}
    (hitems : flagsOf items = flagsOf items') :
    Alike (x.length + 1) flagsOf AtClosing (readFlags items x p) (readFlags items' x' p') := by
  induction h generalizing items items' p p' with
  | nil => exact .refused
  | closing =>
    refine .of_ends ?_
    simp only [readFlags, or_true, if_true]
    obtain _ | ⟨⟨_ | f, span⟩, items'⟩ := items'
    · rfl
    · trivial
    · rfl
  | @cons x x' c h ih =>
    simp only [readFlags]
    generalize (if c = '-' then none else flagOf? c) = flag
    by_cases hend : c = ':' ∨ c = ')'
    · rw [if_pos hend, if_pos hend]
      have hread : flagsOf items.reverse = flagsOf items'.reverse := by rw [flagsOf_reverse, flagsOf_reverse, hitems]
      obtain _ | ⟨⟨f, span⟩, items⟩ := items
      · obtain _ | ⟨i', items'⟩ := items'
        · exact .both rfl (h.cons c) (Nat.lt_succ_self _)
        · cases hitems
      · obtain _ | ⟨⟨f', span'⟩, items'⟩ := items'
        · cases hitems
        · obtain ⟨rfl, -⟩ := List.cons.inj hitems
          cases f with
          | none => exact .refused
          | some f => exact .both hread (h.cons c) (Nat.lt_succ_self _)
    · rw [if_neg hend, if_neg hend]
      by_cases hunknown : c ≠ '-' ∧ flag = none
      · rw [if_pos hunknown, if_pos hunknown]
        exact .refused
      · rw [if_neg hunknown, if_neg hunknown]
        have hread : flagsOf items.reverse = flagsOf items'.reverse := by
          rw [flagsOf_reverse, flagsOf_reverse, hitems]
        have htwice := isSome_find?_eq hread flag
        cases hfind : items.reverse.find? fun i => i.1 == flag with
        | some i =>
          obtain ⟨i', hfind'⟩ := Option.isSome_iff_exists.1 (by rw [← htwice, hfind]; rfl)
          rw [hfind']
          exact .refused
        | none =>
          have hfind' := Option.isSome_eq_false_iff.1 (by rw [← htwice, hfind]; rfl)
          rw [Option.isNone_iff_eq_none.1 hfind']
          have hmore : flagsOf ((flag, p.over c) :: items) = flagsOf ((flag, p'.over c) :: items') :=
            congrArg (flag :: ·) hitems
          exact (ih _ _ hmore).mono (Nat.le_succ _)

/-- flags end with a colon or a parenthesis, which is left -/
theorem readFlags_rest {items read : List FlagItem} {s : Reader} (h : readFlags items x p = .ok (read, s)) :
    s.rest ≠ [] := by
  induction x generalizing items p with
  | nil => cases h
  | cons c x ih =>
    simp only [readFlags] at h
    generalize (if c = '-' then none else flagOf? c) = flag at h
    split at h
    · split at h
      · cases h
      · cases h
        exact List.cons_ne_nil _ _
    · split at h
      · cases h
      · split at h
        · cases h
        · exact ih h

/-! ## groups -/

theorem readCaptureName_cases (h : Trails x x') (p p' start start' : Position) (acc : List Char) :
    (∃ name span span' s s', readCaptureName start acc x p = .ok (name, span, s) ∧
      readCaptureName start' acc x' p' = .ok (name, span', s') ∧ Trails s.rest s'.rest ∧ s.rest.length < x.length) ∨
      ∃ d d', readCaptureName start acc x p = .error d ∧ readCaptureName start' acc x' p' = .error d' := by
  induction h generalizing acc p p' with
  | nil => exact Or.inr ⟨_, _, rfl, rfl⟩
  | closing =>
    have hclosing : ∃ d', readCaptureName start' acc [')'] p' = .error d' := by
      simp only [readCaptureName, Char.reduceEq, if_false]
      split_ifs <;> exact ⟨_, rfl⟩
    obtain ⟨d', hd'⟩ := hclosing
    exact Or.inr ⟨_, d', rfl, hd'⟩
  | @cons x x' c h ih =>
    simp only [readCaptureName]
    split_ifs
    · exact Or.inr ⟨_, _, rfl, rfl⟩
    · exact Or.inl ⟨_, _, _, _, _, rfl, rfl, h, Nat.lt_succ_self _⟩
    · obtain ⟨name, span, span', s, s', hs, hs', hrest, hlt⟩ | hnone := ih (p.past c) (p'.past c) (c :: acc)
      · exact Or.inl ⟨name, span, span', s, s', hs, hs', hrest, Nat.lt_succ_of_lt hlt⟩
      · exact Or.inr hnone
    · exact Or.inr ⟨_, _, rfl, rfl⟩

theorem isSome_findSome?_skip? (h : Trails x x') (p p' : Position) {texts : List (List Char)}
    (htexts : ∀ text ∈ texts, ')' ∉ text) :
    (texts.findSome? (Reader.skip? ⟨x', p'⟩)).isSome = (texts.findSome? (Reader.skip? ⟨x, p⟩)).isSome := by
  induction texts with
  | nil => rfl
  | cons text texts ih =>
    rw [List.forall_mem_cons] at htexts
    simp only [List.findSome?_cons]
    obtain ⟨s, s', hs, hs', -⟩ | ⟨hnone, hnone'⟩ := Reader.trails_skip? h p p' text htexts.1
    · rw [hs, hs']
      rfl
    · rw [hnone, hnone']
      exact ih htexts.2

/-- the mark of a capture with a name -/
theorem nameMark_cases (h : Trails x x') (p p' : Position) :
    (∃ s s', ((Reader.skip? ⟨x, p⟩ ['?', 'P', '<']).orElse fun _ => Reader.skip? ⟨x, p⟩ ['?', '<']) = some s ∧
        ((Reader.skip? ⟨x', p'⟩ ['?', 'P', '<']).orElse fun _ => Reader.skip? ⟨x', p'⟩ ['?', '<']) = some s' ∧
        Trails s.rest s'.rest ∧ s.rest.length ≤ x.length) ∨
      ((Reader.skip? ⟨x, p⟩ ['?', 'P', '<']).orElse fun _ => Reader.skip? ⟨x, p⟩ ['?', '<']) = none ∧
        ((Reader.skip? ⟨x', p'⟩ ['?', 'P', '<']).orElse fun _ => Reader.skip? ⟨x', p'⟩ ['?', '<']) = none := by
  obtain ⟨s, s', hs, hs', hrest, rfl⟩ | ⟨hnone, hnone'⟩ := Reader.trails_skip? h p p' ['?', 'P', '<'] (by decide)
  · rw [hs, hs']
    exact Or.inl ⟨s, s', rfl, rfl, hrest, (List.suffix_append _ _).length_le⟩
  · rw [hnone, hnone']
    obtain ⟨s, s', hs, hs', hrest, rfl⟩ | hneither := Reader.trails_skip? h p p' ['?', '<'] (by decide)
    · exact Or.inl ⟨s, s', hs, hs', hrest, (List.suffix_append _ _).length_le⟩
    · exact Or.inr hneither

/-- the setting of flags behind a question mark, or the opening of a group with flags -/
theorem flagSetting_alike {r r' : Reader} {n : Nat} (h : Trails r.rest r'.rest) (hn : r.rest.length < n)
    (mouth mouth' blamed blamed' : Span) :
    Alike n Token.unplaced (Stranded extended)
      (do
        if r.rest.isEmpty then throw (Fault.groupUnclosed.on mouth)
        let (items, r) ← readFlags [] r.rest r.pos
        let after := r.bump
        if r.rest.head? == some ')' then
          if items.isEmpty then throw (Fault.repetitionMissing.on blamed)
          return (.part (.flags ⟨mouth.start, after.pos⟩ (settingsOf true items)), after)
        else return (.opening mouth (.scoped (settingsOf true items)), after))
      (do
        if r'.rest.isEmpty then throw (Fault.groupUnclosed.on mouth')
        let (items, r) ← readFlags [] r'.rest r'.pos
        let after := r.bump
        if r.rest.head? == some ')' then
          if items.isEmpty then throw (Fault.repetitionMissing.on blamed')
          return (.part (.flags ⟨mouth'.start, after.pos⟩ (settingsOf true items)), after)
        else return (.opening mouth' (.scoped (settingsOf true items)), after)) := by
  obtain ⟨y, q⟩ := r
  obtain ⟨y', q'⟩ := r'
  cases h with
  | nil => exact .refused
  | closing => exact .refused
  | @cons y y' c hy =>
    have hflags := readFlags_alike (hy.cons c) q q' (rfl : flagsOf [] = flagsOf [])
    dsimp only [List.isEmpty_cons]
    rw [if_neg Bool.false_ne_true, if_neg Bool.false_ne_true]
    generalize hread : readFlags [] (c :: y) q = read at hflags ⊢
    generalize readFlags [] (c :: y') q' = read' at hflags ⊢
    cases hflags with
    | refused => exact .refused
    | @both items items' s s' hitems hs hlt =>
      obtain ⟨z, o⟩ := s
      obtain ⟨z', o'⟩ := s'
      cases hs with
      | nil => exact (readFlags_rest hread rfl).elim
      | closing => exact (readFlags_rest hread rfl).elim
      | @cons z z' d hz =>
        have hle := Nat.lt_of_lt_of_le (Nat.lt_of_succ_lt_succ hlt) (Nat.le_of_lt hn)
        have hempty : items.isEmpty = items'.isEmpty := by rw [← isEmpty_flagsOf, ← isEmpty_flagsOf, hitems]
        have hsettings := settingsOf_eq hitems true
        simp only [bind, Except.bind, List.head?_cons]
        rw [hempty, hsettings]
        by_cases hd : d = ')'
        · subst hd
          cases items' with
          | nil => exact .refused
          | cons i items' => exact .both rfl hz hle
        · simp only [Option.some_beq_some, beq_iff_eq, hd, if_false]
          exact .both rfl hz hle
    | @spent d items' s' hend =>
      obtain ⟨z', o'⟩ := s'
      obtain rfl : z' = [')'] := hend
      -- the parenthesis ends the setting
      refine .of_ends ?_
      cases items' with
      | nil => trivial
      | cons i items' => exact Or.inl ⟨_, rfl, rfl⟩

theorem readOpenGroup_alike (h : Trails x x') (p p' : Position) (c : Char) :
    Alike (x.length + 1) Token.unplaced (Stranded extended) (readOpenGroup extended ⟨c :: x, p⟩)
      (readOpenGroup extended ⟨c :: x', p'⟩) := by
  have hinner : Trails (Reader.advance extended ⟨c :: x, p⟩).rest (Reader.advance extended ⟨c :: x', p'⟩).rest :=
    Reader.trails_advance extended (h.cons c)
  have hlt : (Reader.advance extended ⟨c :: x, p⟩).rest.length < x.length + 1 :=
    Reader.length_advance_lt extended c x p
  simp only [readOpenGroup]
  generalize Reader.advance extended ⟨c :: x, p⟩ = r at hinner hlt ⊢
  generalize Reader.advance extended ⟨c :: x', p'⟩ = r' at hinner ⊢
  have hlook : (lookaround? r').isSome = (lookaround? r).isSome :=
    isSome_findSome?_skip? hinner r.pos r'.pos (by decide)
  cases hr : lookaround? r with
  | some after =>
    obtain ⟨after', hr'⟩ := Option.isSome_iff_exists.1 (by rw [hlook, hr]; rfl)
    rw [hr']
    exact .refused
  | none =>
    have hr' := Option.isSome_eq_false_iff.1 (by rw [hlook, hr]; rfl)
    rw [Option.isNone_iff_eq_none.1 hr']
    dsimp only
    obtain ⟨y, q⟩ := r
    obtain ⟨y', q'⟩ := r'
    have hname := nameMark_cases hinner q q'
    obtain ⟨s, s', hs, hs', hrest, hle⟩ | ⟨hnone, hnone'⟩ := hname
    · rw [hs, hs']
      obtain ⟨name, span, span', t, t', ht, ht', hrest', hlt'⟩ | ⟨d, d', hd, hd'⟩ :=
        readCaptureName_cases hrest s.pos s'.pos s.pos s'.pos []
      · dsimp only
        rw [ht, ht']
        exact .both rfl hrest' (Nat.lt_trans (Nat.lt_of_lt_of_le hlt' hle) hlt)
      · dsimp only
        rw [hd, hd']
        exact .refused
    · rw [hnone, hnone']
      obtain ⟨s, s', hs, hs', hrest, hy⟩ | ⟨hnone, hnone'⟩ := Reader.trails_skip? hinner q q' ['?'] (by decide)
      · rw [hs, hs']
        have hsuffix : s.rest <:+ y := ⟨['?'], hy⟩
        exact flagSetting_alike hrest (Nat.lt_of_le_of_lt hsuffix.length_le hlt) _ _ _ _
      · rw [hnone, hnone']
        exact .both rfl hinner hlt

/-! ## repetitions -/

theorem readDecimalDigits_trails (extended : Bool) (h : Trails x x') (p p' : Position) {fuel fuel' : Nat}
    (hfuel : x.length < fuel) (hfuel' : x'.length < fuel') (acc : List Char) :
    ∃ digits s s', readDecimalDigits extended fuel acc ⟨x, p⟩ = (digits, s) ∧
      readDecimalDigits extended fuel' acc ⟨x', p'⟩ = (digits, s') ∧ Trails s.rest s'.rest ∧
      s.rest.length ≤ x.length := by
  induction fuel generalizing acc x x' p p' fuel' with
  | zero => cases hfuel
  | succ fuel ih =>
    obtain ⟨fuel', rfl⟩ := Nat.exists_eq_add_one.2 (Nat.zero_lt_of_lt hfuel')
    cases h with
    | nil => exact ⟨_, _, _, rfl, rfl, .nil, Nat.le_refl _⟩
    | closing => exact ⟨_, _, _, rfl, rfl, .closing, Nat.le_refl _⟩
    | @cons y y' c h =>
      have hinner : Trails (Reader.advance extended ⟨c :: y, p⟩).rest (Reader.advance extended ⟨c :: y', p'⟩).rest :=
        Reader.trails_advance extended (h.cons c)
      simp only [readDecimalDigits]
      split_ifs
      · obtain ⟨digits, s, s', hs, hs', hrest, hlength⟩ := ih hinner _ _
          (Nat.lt_of_lt_of_le (Reader.length_advance_lt _ _ _ _) (Nat.le_of_lt_succ hfuel))
          (Nat.lt_of_lt_of_le (Reader.length_advance_lt _ _ _ _) (Nat.le_of_lt_succ hfuel')) (c :: acc)
        exact ⟨digits, s, s', hs, hs', hrest, Nat.le_trans hlength (Reader.length_advance_le extended _)⟩
      · exact ⟨_, _, _, rfl, rfl, h.cons c, Nat.le_refl _⟩

namespace Reader

theorem offset_past (p : Position) (c : Char) : (p.past c).offset = p.offset + 1 := by
  unfold Position.past
  split_ifs <;> rfl

theorem offset_le_pastSpaces (x : List Char) (p : Position) : p.offset ≤ (pastSpaces x p).pos.offset := by
  induction x generalizing p with
  | nil => exact Nat.le_refl _
  | cons c x ih =>
    simp only [pastSpaces]
    split_ifs
    · exact Nat.le_trans (by rw [offset_past]; exact Nat.le_succ _) (ih _)
    · exact Nat.le_refl _

/-- behind blanks the place is another one -/
theorem pastSpaces_pos_eq_iff (x : List Char) (p : Position) :
    (pastSpaces x p).pos = p ↔ x.head?.all (fun c => !Unicode.isBlank c) = true := by
  cases x with
  | nil => exact iff_of_true rfl rfl
  | cons c x =>
    cases hblank : Unicode.isBlank c with
    | false => simp [pastSpaces, hblank]
    | true =>
      have hpast := offset_le_pastSpaces x (p.past c)
      rw [offset_past] at hpast
      have hne : (pastSpaces x (p.past c)).pos ≠ p := fun h => by rw [h] at hpast; omega
      simpa [pastSpaces, hblank] using hne

theorem pastSpaces_pos_trails (h : Trails x x') (p p' : Position) :
    (pastSpaces x p).pos = p ↔ (pastSpaces x' p').pos = p' := by
  rw [pastSpaces_pos_eq_iff, pastSpaces_pos_eq_iff]
  cases h with
  | nil => rfl
  | closing => exact iff_of_true rfl rfl
  | cons c h => rfl

end Reader

/-- what is left behind the blanks after a count -/
theorem behindCount_trails (extended : Bool) {r r' : Reader} (h : Trails r.rest r'.rest) :
    ∃ s s' : Reader,
      (let behind := Reader.pastSpaces r.rest r.pos
        if behind.pos = r.pos then r else behind.trim extended) = s ∧
      (let behind := Reader.pastSpaces r'.rest r'.pos
        if behind.pos = r'.pos then r' else behind.trim extended) = s' ∧
      Trails s.rest s'.rest ∧ s.rest.length ≤ r.rest.length := by
  have hmoved := Reader.pastSpaces_pos_trails h r.pos r'.pos
  refine ⟨_, _, rfl, rfl, ?_⟩
  by_cases hsame : (Reader.pastSpaces r.rest r.pos).pos = r.pos
  · rw [if_pos hsame, if_pos (hmoved.1 hsame)]
    exact ⟨h, Nat.le_refl _⟩
  · rw [if_neg hsame, if_neg (mt hmoved.2 hsame)]
    exact ⟨Reader.trails_trim extended (Reader.trails_pastSpaces h _ _),
      Nat.le_trans (Reader.length_trim_le extended _) (Reader.length_pastSpaces_le _ _)⟩

theorem readDecimal_trails (extended : Bool) (h : Trails x x') (p p' : Position) :
    ∃ count count' s s', readDecimal extended ⟨x, p⟩ = (count, s) ∧ readDecimal extended ⟨x', p'⟩ = (count', s') ∧
      count.toOption = count'.toOption ∧ Trails s.rest s'.rest ∧ s.rest.length ≤ x.length := by
  have hspaces := Reader.trails_pastSpaces h p p'
  have hspacesLength := Reader.length_pastSpaces_le x p
  unfold readDecimal
  dsimp only
  generalize Reader.pastSpaces x p = r at hspaces hspacesLength ⊢
  generalize Reader.pastSpaces x' p' = r' at hspaces ⊢
  obtain ⟨digits, t, t', ht, ht', hdigits, hdigitsLength⟩ := readDecimalDigits_trails extended hspaces r.pos r'.pos
    (Nat.lt_succ_self _) (Nat.lt_succ_self _) []
  obtain ⟨s, s', hs, hs', hbehind, hbehindLength⟩ := behindCount_trails extended hdigits
  have hle := Nat.le_trans hbehindLength (Nat.le_trans hdigitsLength hspacesLength)
  dsimp only at hs hs'
  rw [ht, ht']
  dsimp only
  rw [hs, hs']
  split_ifs
  · exact ⟨_, _, s, s', rfl, rfl, rfl, hbehind, hle⟩
  · exact ⟨_, _, s, s', rfl, rfl, rfl, hbehind, hle⟩
  · exact ⟨_, _, s, s', rfl, rfl, rfl, hbehind, hle⟩

/-- results that are the same as far as there is one -/
theorem eq_of_toOption_eq {ε α : Type} {a b : Except ε α} (h : a.toOption = b.toOption) :
    (∃ n, a = .ok n ∧ b = .ok n) ∨ ∃ d d', a = .error d ∧ b = .error d' := by
  cases a with
  | error d =>
    cases b with
    | error d' => exact Or.inr ⟨d, d', rfl, rfl⟩
    | ok n => cases h
  | ok n =>
    cases b with
    | error d => cases h
    | ok m =>
      cases h
      exact Or.inl ⟨n, rfl, rfl⟩

/-- the parenthesis is no count -/
theorem readDecimal_closing (p : Position) :
    readDecimal extended ⟨[')'], p⟩ = (.error (Fault.decimalMissing.on p.point), ⟨[')'], p⟩) := by
  have hspaces (q : Position) : Reader.pastSpaces [')'] q = ⟨[')'], q⟩ := rfl
  have hdigits : readDecimalDigits extended 2 [] ⟨[')'], p⟩ = ([], ⟨[')'], p⟩) := rfl
  simp only [readDecimal, hspaces, List.length_cons, List.length_nil, hdigits, if_true, List.isEmpty_nil]
  rfl

/-- the closing brace of a count and what follows it -/
theorem countEnd_alike {r r' : Reader} {n : Nat} (h : Trails r.rest r'.rest) (hn : r.rest.length < n)
    (min : Nat) (max : Option Nat) (start start' : Position) :
    Alike n Token.unplaced never
      (do
        if r.rest.head? != some '}' then throw (Fault.countUnclosed.on ⟨start, r.pos⟩)
        let r := r.advance extended
        let lazy := r.rest.head? == some '?'
        let r := if lazy then r.bump else r
        if max.any (· < min) then throw (Fault.countReversed.on ⟨start, r.pos⟩)
        return (.repetition min max (!lazy), r))
      (do
        if r'.rest.head? != some '}' then throw (Fault.countUnclosed.on ⟨start', r'.pos⟩)
        let r := r'.advance extended
        let lazy := r.rest.head? == some '?'
        let r := if lazy then r.bump else r
        if max.any (· < min) then throw (Fault.countReversed.on ⟨start', r.pos⟩)
        return (.repetition min max (!lazy), r)) := by
  have hadvance := Reader.trails_advance extended h
  have hle := Nat.lt_of_le_of_lt (Reader.length_advance_le extended r) hn
  have hbrace : (r'.rest.head? != some '}') = (r.rest.head? != some '}') := by
    rw [bne, bne, h.head?_eq (by decide)]
  dsimp only
  rw [hbrace]
  generalize r.advance extended = s at hadvance hle ⊢
  generalize r'.advance extended = s' at hadvance ⊢
  have hlazy : (s'.rest.head? == some '?') = (s.rest.head? == some '?') := hadvance.head?_eq (by decide)
  rw [hlazy]
  by_cases hunclosed : (r.rest.head? != some '}') = true
  · rw [if_pos hunclosed, if_pos hunclosed]
    exact .refused
  · rw [if_neg hunclosed, if_neg hunclosed]
    by_cases hreversed : (max.any fun m => decide (m < min)) = true
    · rw [if_pos hreversed, if_pos hreversed]
      exact .refused
    · rw [if_neg hreversed, if_neg hreversed]
      refine .both rfl ?_ ?_
      · split_ifs
        · exact Reader.trails_bump hadvance
        · exact hadvance
      · split_ifs
        · exact Nat.lt_of_le_of_lt (Reader.length_bump_le s) hle
        · exact hle

/-- what follows the comma of a count -/
theorem countRange_alike {r r' : Reader} {n : Nat} (h : Trails r.rest r'.rest) (hn : r.rest.length < n)
    {least least' : Except Diagnosis Nat} (hleast : least.toOption = least'.toOption) (start start' : Position) :
    Alike n Token.unplaced never
      (do
        if r.rest.isEmpty then throw (Fault.countUnclosed.on ⟨start, r.pos⟩)
        let (min, max, r) ←
          if r.rest.head? == some '}' then
            let n ← least
            pure (n, none, r)
          else
            let n ← least
            let (most, r) := readDecimal extended r
            let m ← most
            pure (n, some m, r)
        if r.rest.head? != some '}' then throw (Fault.countUnclosed.on ⟨start, r.pos⟩)
        let r := r.advance extended
        let lazy := r.rest.head? == some '?'
        let r := if lazy then r.bump else r
        if max.any (· < min) then throw (Fault.countReversed.on ⟨start, r.pos⟩)
        return (.repetition min max (!lazy), r))
      (do
        if r'.rest.isEmpty then throw (Fault.countUnclosed.on ⟨start', r'.pos⟩)
        let (min, max, r) ←
          if r'.rest.head? == some '}' then
            let n ← least'
            pure (n, none, r')
          else
            let n ← least'
            let (most, r) := readDecimal extended r'
            let m ← most
            pure (n, some m, r)
        if r.rest.head? != some '}' then throw (Fault.countUnclosed.on ⟨start', r.pos⟩)
        let r := r.advance extended
        let lazy := r.rest.head? == some '?'
        let r := if lazy then r.bump else r
        if max.any (· < min) then throw (Fault.countReversed.on ⟨start', r.pos⟩)
        return (.repetition min max (!lazy), r)) := by
  have hbrace : (r'.rest.head? == some '}') = (r.rest.head? == some '}') := h.head?_eq (by decide)
  rw [hbrace]
  obtain ⟨k, rfl, rfl⟩ | ⟨d, d', rfl, rfl⟩ := eq_of_toOption_eq hleast
  · by_cases hopen : (r.rest.head? == some '}') = true
    · simp only [hopen, if_true]
      obtain ⟨y, q⟩ := r
      obtain ⟨y', q'⟩ := r'
      cases h with
      | nil => exact .refused
      | closing => exact .refused
      | cons c hy => exact countEnd_alike (hy.cons c) hn k none start start'
    · simp only [hopen]
      obtain ⟨most, most', s, s', hs, hs', hmost, hrest, hle⟩ := readDecimal_trails extended h r.pos r'.pos
      obtain ⟨y, q⟩ := r
      obtain ⟨y', q'⟩ := r'
      cases h with
      | nil => exact .refused
      | closing =>
        rw [readDecimal_closing]
        exact .refused
      | cons c hy =>
        rw [hs, hs']
        obtain ⟨m, rfl, rfl⟩ | ⟨d, d', rfl, rfl⟩ := eq_of_toOption_eq hmost
        · exact countEnd_alike hrest (Nat.lt_of_le_of_lt hle hn) k (some m) start start'
        · exact .refused
  · split_ifs
    all_goals exact .refused

theorem readCount_alike (h : Trails x x') (p p' : Position) (c : Char) :
    Alike (x.length + 1) Token.unplaced never (readCount extended ⟨c :: x, p⟩) (readCount extended ⟨c :: x', p'⟩) := by
  have hahead := Reader.ahead_advance extended h c p p'
  unfold readCount
  dsimp only
  generalize Reader.advance extended ⟨c :: x, p⟩ = r at hahead ⊢
  generalize Reader.advance extended ⟨c :: x', p'⟩ = r' at hahead ⊢
  cases hahead with
  | nil => exact .refused
  | closing =>
    rw [readDecimal_closing]
    exact .refused
  | @cons y y' q q' d hy hlt =>
    obtain ⟨least, least', s, s', hs, hs', hleast, hrest, hle⟩ := readDecimal_trails extended (hy.cons d) q q'
    rw [hs, hs']
    obtain ⟨z, o⟩ := s
    obtain ⟨z', o'⟩ := s'
    have hlength := Nat.lt_succ_of_le (Nat.le_trans hle hlt)
    cases hrest with
    | nil => exact .refused
    | closing =>
      cases least' with
      | error d' => exact .refused
      | ok n' => exact .refused
    | @cons z z' e hz =>
      simp only [List.isEmpty_cons, List.head?_cons, Bool.false_eq_true, if_false]
      have hinner : Trails (Reader.advance extended ⟨e :: z, o⟩).rest (Reader.advance extended ⟨e :: z', o'⟩).rest :=
        Reader.trails_advance extended (hz.cons e)
      have hlength' := Nat.lt_of_le_of_lt (Reader.length_advance_le extended ⟨e :: z, o⟩) hlength
      by_cases hcomma : (some e == some ',') = true
      · rw [if_pos hcomma, if_pos hcomma]
        exact countRange_alike hinner hlength' hleast p p'
      · rw [if_neg hcomma, if_neg hcomma]
        obtain ⟨n, rfl, rfl⟩ | ⟨d, d', rfl, rfl⟩ := eq_of_toOption_eq hleast
        · exact countEnd_alike (hz.cons e) hlength n (some n) p p'
        · exact .refused

theorem readCount_closing {r : Reader} (h : (r.advance extended).rest = [')']) :
    ∃ d, readCount extended r = .error d := by
  unfold readCount
  dsimp only
  generalize r.advance extended = s at h ⊢
  obtain ⟨_, q⟩ := s
  obtain rfl := h
  rw [readDecimal_closing]
  exact ⟨_, rfl⟩

theorem readRepetition_alike (h : Trails x x') (p p' : Position) (c : Char) (min : Nat) (max : Option Nat) :
    Alike (x.length + 1) Token.unplaced never (.ok (readRepetition min max ⟨c :: x, p⟩))
      (.ok (readRepetition min max ⟨c :: x', p'⟩)) := by
  have hbump : Trails (Reader.bump ⟨c :: x, p⟩).rest (Reader.bump ⟨c :: x', p'⟩).rest := h
  have hlt : (Reader.bump ⟨c :: x, p⟩).rest.length < x.length + 1 := Nat.lt_succ_self _
  unfold readRepetition
  dsimp only
  generalize Reader.bump ⟨c :: x, p⟩ = r at hbump hlt ⊢
  generalize Reader.bump ⟨c :: x', p'⟩ = r' at hbump ⊢
  rw [hbump.head?_eq (by decide)]
  split_ifs
  · exact .both rfl (Reader.trails_bump hbump) (Nat.lt_of_le_of_lt (Reader.length_bump_le r) hlt)
  · exact .both rfl hbump hlt

/-! ## all pieces -/

/-- a class as a part of an expression -/
def ClassTree.toPart : ClassTree → Tree
  | .bracketed span negated body => .bracketed span negated body
  | t => .bracketed t.span false t

theorem ClassTree.toPart_unplaced (t : ClassTree) : t.toPart.unplaced =
    match t.unplaced with
    | .bracketed _ negated body => .bracketed .nowhere negated body
    | u => .bracketed .nowhere false u := by
  cases t <;> rfl

theorem readToken_bracket (repeatable : Bool) (r : Reader) :
    readToken extended repeatable '[' r = do
      let (t, s) ← readBracketed extended r
      return (.part t.toPart, s) := by
  unfold readToken
  cases readBracketed extended r with
  | error d => rfl
  | ok u =>
    obtain ⟨t, s⟩ := u
    cases t <;> rfl

theorem Atom.toTree_unplaced (a : Atom) : a.toTree.unplaced = a.unplaced.toTree := by
  cases a <;> rfl

/-- a brace with nothing but the parenthesis behind it is no piece -/
theorem readToken_brace {r : Reader} (h : (r.advance extended).rest = [')']) (repeatable : Bool) :
    ∃ d, readToken extended repeatable '{' r = .error d := by
  cases repeatable with
  | false => exact ⟨_, rfl⟩
  | true => exact readCount_closing h

/-- **A closing parenthesis behind a text does not change the piece at its front**, unless the text ends in the midst
of it. -/
theorem readToken_alike (extended : Bool) (h : Trails x x') (p p' : Position) (repeatable : Bool) (c : Char) :
    Alike (x.length + 1) Token.unplaced (Stranded extended) (readToken extended repeatable c ⟨c :: x, p⟩)
      (readToken extended repeatable c ⟨c :: x', p'⟩) := by
  have hplain {t t' : Token} (ht : t.unplaced = t'.unplaced) :
      Alike (x.length + 1) Token.unplaced (Stranded extended) (.ok (t, Reader.bump ⟨c :: x, p⟩))
        (.ok (t', Reader.bump ⟨c :: x', p'⟩)) := .both ht h (Nat.lt_succ_self _)
  by_cases hclass : c = '['
  · subst hclass
    rw [readToken_bracket, readToken_bracket]
    refine (readBracketed_alike h p p' '[').bind ?_ ?_
    · intro t t' s s' ht hs hlt
      refine .both ?_ hs hlt
      rw [Token.unplaced, Token.unplaced, ClassTree.toPart_unplaced, ClassTree.toPart_unplaced, ht]
    · exact fun _ _ h => h.elim
  unfold readToken
  by_cases hopening : c = '('
  · rw [if_pos hopening, if_pos hopening]
    exact readOpenGroup_alike h p p' c
  rw [if_neg hopening, if_neg hopening]
  by_cases hclosing : c = ')'
  · rw [if_pos hclosing, if_pos hclosing]
    exact hplain rfl
  rw [if_neg hclosing, if_neg hclosing]
  by_cases hbar : c = '|'
  · rw [if_pos hbar, if_pos hbar]
    exact hplain rfl
  rw [if_neg hbar, if_neg hbar]
  rw [if_neg hclass, if_neg hclass]
  by_cases hrepetition : c = '?' ∨ c = '*' ∨ c = '+' ∨ c = '{'
  · rw [if_pos hrepetition, if_pos hrepetition]
    cases repeatable with
    | false => exact .refused
    | true =>
      have hnever {x y : Except Diagnosis (Token × Reader)} {n : Nat} (h : Alike n Token.unplaced never x y) :
          Alike n Token.unplaced (Stranded extended) x y := h.imp fun _ _ h => h.elim
      simp only [Bool.not_true, Bool.false_eq_true, if_false]
      by_cases hoption : c = '?'
      · rw [if_pos hoption, if_pos hoption]
        exact hnever (readRepetition_alike h p p' c 0 (some 1))
      rw [if_neg hoption, if_neg hoption]
      by_cases hstar : c = '*'
      · rw [if_pos hstar, if_pos hstar]
        exact hnever (readRepetition_alike h p p' c 0 none)
      rw [if_neg hstar, if_neg hstar]
      by_cases hplus : c = '+'
      · rw [if_pos hplus, if_pos hplus]
        exact hnever (readRepetition_alike h p p' c 1 none)
      rw [if_neg hplus, if_neg hplus]
      exact hnever (readCount_alike h p p' c)
  rw [if_neg hrepetition, if_neg hrepetition]
  by_cases hescape : c = '\\'
  · rw [if_pos hescape, if_pos hescape]
    refine (readEscape_alike h c).bind ?_ ?_
    · intro a a' s s' ha hs hlt
      refine .both ?_ hs hlt
      rw [Token.unplaced, Token.unplaced, Atom.toTree_unplaced, Atom.toTree_unplaced, ha]
    · rintro a s (hnil | ⟨⟨span, m, rfl⟩, y, hbrace, hbehind⟩)
      · exact Or.inl ⟨_, rfl, hnil⟩
      · exact Or.inr ⟨span, m, y, rfl, hbrace, hbehind⟩
  rw [if_neg hescape, if_neg hescape]
  by_cases hdot : c = '.'
  · rw [if_pos hdot, if_pos hdot]
    exact hplain rfl
  rw [if_neg hdot, if_neg hdot]
  by_cases hstart : c = '^'
  · rw [if_pos hstart, if_pos hstart]
    exact hplain rfl
  rw [if_neg hstart, if_neg hstart]
  by_cases hend : c = '$'
  · rw [if_pos hend, if_pos hend]
    exact hplain rfl
  rw [if_neg hend, if_neg hend]
  exact hplain rfl

end Lexicon.Expression
