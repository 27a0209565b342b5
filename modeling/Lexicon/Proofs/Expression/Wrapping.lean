/-
Reading an expression inside of something else. `Follows below b b'` says that b' holds what b holds, at other places,
and frames below it: while both take the same pieces, it stays so (`Follows.add`), until b meets a parenthesis that
closes no group.

A source is read with a parenthesis behind it, alone (below there is nothing) and anchored (below there is the group
that the parenthesis is to close). Where the source can be read and the parenthesis is left over, the group is closed
and holds the source; where a comment swallows the parenthesis, the group stays open.

Results: `pieces_wrap_cases` for sources that can be read, `pieces_wrap_of_malformed` for others; `anchored` says what
both forms of a source come to, for every source.
-/
import Lexicon.Proofs.Expression.Outermost
import Lexicon.Proofs.Expression.TrailingToken

namespace Lexicon.Expression

/-! ## what stands open, without places -/

/-- the parts of a run without places, the latest first -/
def Run.unplaced (u : Run) : List Tree := u.latest.map Tree.unplaced

theorem Run.unplaced_add {u u' : Run} {t t' : Tree} (hu : u.unplaced = u'.unplaced) (ht : t.unplaced = t'.unplaced) :
    (u.add t).unplaced = (u'.add t').unplaced := by
  simp only [unplaced, add, List.map_cons, ht]
  exact congrArg _ hu

theorem Run.toTree_unplaced (u : Run) (stop : Position) : (u.toTree stop).unplaced =
    match u.unplaced with
    | [] => .empty .nowhere
    | [t] => t
    | ts => .concat .nowhere ts.reverse := by
  obtain ⟨_, _ | ⟨t, _ | ⟨t', ts⟩⟩⟩ := u
  · rfl
  · rfl
  · simp only [toTree, unplaced, Tree.unplaced, Tree.allUnplaced_eq_map, List.map_reverse, List.map_cons]

theorem Run.toTree_unplaced_eq {u u' : Run} (h : u.unplaced = u'.unplaced) (stop stop' : Position) :
    (u.toTree stop).unplaced = (u'.toTree stop').unplaced := by
  rw [toTree_unplaced, toTree_unplaced, h]

theorem alternation_unplaced_eq {l l' : List Tree} {t t' : Tree} (hl : l.map Tree.unplaced = l'.map Tree.unplaced)
    (ht : t.unplaced = t'.unplaced) (s s' : Span) :
    (Tree.alternation s (t :: l).reverse).unplaced = (Tree.alternation s' (t' :: l').reverse).unplaced := by
  simp only [Tree.unplaced, Tree.allUnplaced_eq_map, List.map_reverse, List.map_cons, hl, ht]

/-- the second stack holds what the first one holds, and other frames below; in either, an alternation stands at the
bottom or in a group -/
inductive Over (below : List Frame) : List Frame → List Frame → Prop where
  | bottom : Over below [] below
  | branches {s s' : Position} {l l' : List Tree} (hl : l.map Tree.unplaced = l'.map Tree.unplaced) :
      Over below [.alternation s l] (.alternation s' l' :: below)
  | group {u u' : Run} {o o' : Span} {k : Group} {e : Bool} {rest rest' : List Frame}
      (hu : u.unplaced = u'.unplaced) (h : Over below rest rest') :
      Over below (.group u o k e :: rest) (.group u' o' k e :: rest')
  | branchesInGroup {s s' : Position} {l l' : List Tree} {u u' : Run} {o o' : Span} {k : Group} {e : Bool}
      {rest rest' : List Frame} (hl : l.map Tree.unplaced = l'.map Tree.unplaced) (hu : u.unplaced = u'.unplaced)
      (h : Over below rest rest') :
      Over below (.alternation s l :: .group u o k e :: rest) (.alternation s' l' :: .group u' o' k e :: rest')

/-- frames that something can be read above: no alternation is on top of them -/
def Closed (below : List Frame) : Prop := below = [] ∨ ∃ u o k e rest, below = .group u o k e :: rest

/-- the second builder holds what the first one holds, and frames below it -/
structure Follows (below : List Frame) (b b' : Builder) : Prop where
  stack : Over below b.stack b'.stack
  run : b.run.unplaced = b'.run.unplaced
  extended : b.extended = b'.extended
  captures : b.captures = b'.captures
  names : b.names.map Prod.fst = b'.names.map Prod.fst

namespace Follows

variable {below : List Frame} {b b' c : Builder}

theorem repeatable (h : Follows below b b') : b.repeatable = b'.repeatable := by
  have hlatest (b : Builder) : b.repeatable = (b.run.unplaced.head?.map Tree.isRepeatable).getD false := by
    unfold Builder.repeatable Run.unplaced
    cases b.run.latest with
    | nil => rfl
    | cons t ts => exact t.isRepeatable_unplaced.symm
  rw [hlatest, hlatest, h.run]

theorem addPart (h : Follows below b b') {t t' : Tree} (ht : t.unplaced = t'.unplaced) :
    Follows below (b.addPart t) (b'.addPart t') := by
  have hrun (b : Builder) (t : Tree) : (b.addPart t).run = b.run.add t := by cases t <;> rfl
  have hextended (b : Builder) (t : Tree) : (b.addPart t).extended = (b.addPart t.unplaced).extended := by
    cases t <;> rfl
  have hform {b b' : Builder} (heq : b.extended = b'.extended) (t : Tree) :
      (b.addPart t).extended = (b'.addPart t).extended := by
    cases t <;> simp only [Builder.addPart, heq]
  have hstack (b : Builder) (t : Tree) : (b.addPart t).stack = b.stack := by cases t <;> rfl
  have hcaptures (b : Builder) (t : Tree) : (b.addPart t).captures = b.captures := by cases t <;> rfl
  have hnames (b : Builder) (t : Tree) : (b.addPart t).names = b.names := by cases t <;> rfl
  refine ⟨?_, ?_, ?_, ?_, ?_⟩
  · rw [hstack, hstack]
    exact h.stack
  · rw [hrun, hrun]
    exact Run.unplaced_add h.run ht
  · rw [hextended, hextended b', ht]
    exact hform h.extended _
  · rw [hcaptures, hcaptures, h.captures]
  · rw [hnames, hnames, h.names]

theorem addRepetition (h : Follows below b b') (min : Nat) (max : Option Nat) (greedy : Bool) (stop stop' : Position) :
    Follows below (b.addRepetition min max greedy stop) (b'.addRepetition min max greedy stop') := by
  have hrun := h.run
  unfold Builder.addRepetition
  cases hb : b.run.latest with
  | nil =>
    cases hb' : b'.run.latest with
    | nil => exact h
    | cons t ts => simp [Run.unplaced, hb, hb'] at hrun
  | cons t ts =>
    cases hb' : b'.run.latest with
    | nil => simp [Run.unplaced, hb, hb'] at hrun
    | cons t' ts' =>
      simp only [Run.unplaced, hb, hb', List.map_cons, List.cons.injEq] at hrun
      refine ⟨h.stack, ?_, h.extended, h.captures, h.names⟩
      simp only [Run.unplaced, List.map_cons, Tree.unplaced, hrun.1, hrun.2]

theorem addBar (h : Follows below b b') (hbelow : Closed below) (p q p' q' : Position) :
    Follows below (b.addBar p q) (b'.addBar p' q') := by
  have hbranch := Run.toTree_unplaced_eq h.run p p'
  obtain ⟨stack, run, extended, captures, names⟩ := b
  obtain ⟨stack', run', extended', captures', names'⟩ := b'
  obtain ⟨hstack, hrun, hextended, hcaptures, hnames⟩ := h
  cases hstack with
  | bottom =>
    obtain rfl | ⟨u, o, k, e, rest, rfl⟩ := hbelow
    · exact ⟨.branches (congrArg (· :: []) hbranch), rfl, hextended, hcaptures, hnames⟩
    · exact ⟨.branches (congrArg (· :: []) hbranch), rfl, hextended, hcaptures, hnames⟩
  | branches hl => exact ⟨.branches (congrArg₂ List.cons hbranch hl), rfl, hextended, hcaptures, hnames⟩
  | group hu hrest =>
    exact ⟨.branchesInGroup (congrArg (· :: []) hbranch) hu hrest, rfl, hextended, hcaptures, hnames⟩
  | branchesInGroup hl hu hrest =>
    exact ⟨.branchesInGroup (congrArg₂ List.cons hbranch hl) hu hrest, rfl, hextended, hcaptures, hnames⟩

theorem openGroup (h : Follows below b b') {mark mark' : GroupMark} (hmark : mark.unplaced = mark'.unplaced)
    (o o' : Span) (p p' : Position) :
    (∃ c c', b.openGroup o mark p = .ok c ∧ b'.openGroup o' mark' p' = .ok c' ∧ Follows below c c') ∨
      ∃ d d', b.openGroup o mark p = .error d ∧ b'.openGroup o' mark' p' = .error d' := by
  have hcaptures := congrArg (· + 1) h.captures
  obtain ⟨stack, run, extended, captures, names⟩ := b
  obtain ⟨stack', run', extended', captures', names'⟩ := b'
  obtain ⟨hstack, hrun, rfl, rfl, hnames⟩ := h
  match mark, mark' with
  | .plain, .plain => exact Or.inl ⟨_, _, rfl, rfl, .group hrun hstack, rfl, rfl, rfl, hnames⟩
  | .scoped fs, .scoped fs' =>
    obtain rfl : fs = fs' := GroupMark.scoped.inj hmark
    exact Or.inl ⟨_, _, rfl, rfl, .group hrun hstack, rfl, rfl, rfl, hnames⟩
  | .named name _, .named name' _ =>
    obtain rfl : name = name' := (GroupMark.named.inj hmark).1
    have hcontains (names : List (List Char × Span)) : (names.find? fun n => n.1 == name).isSome =
        (names.map Prod.fst).contains name := by
      rw [Bool.eq_iff_iff, List.find?_isSome]
      simp
    have hsome := (hcontains names).trans ((congrArg (List.contains · name) hnames).trans (hcontains names').symm)
    simp only [Builder.openGroup]
    cases hfind : names.find? fun n => n.1 == name with
    | some n =>
      obtain ⟨n', hfind'⟩ := Option.isSome_iff_exists.1 (by rw [← hsome, hfind]; rfl)
      rw [hfind']
      exact Or.inr ⟨_, _, rfl, rfl⟩
    | none =>
      have hfind' := Option.isSome_eq_false_iff.1 (by rw [← hsome, hfind]; rfl)
      rw [Option.isNone_iff_eq_none.1 hfind']
      exact Or.inl ⟨_, _, rfl, rfl, .group hrun hstack, rfl, rfl, rfl, congrArg (name :: ·) hnames⟩

/-- a group around the run is closed in both; otherwise the first builder has none to close -/
theorem closeGroup (h : Follows below b b') (p q p' q' : Position) :
    (∃ c c', b.closeGroup p q = .ok c ∧ b'.closeGroup p' q' = .ok c' ∧ Follows below c c') ∨
      b.closeGroup p q = .error (Fault.groupUnopened.on ⟨p, q⟩) := by
  have hbody := Run.toTree_unplaced_eq h.run p p'
  obtain ⟨stack, run, extended, captures, names⟩ := b
  obtain ⟨stack', run', extended', captures', names'⟩ := b'
  obtain ⟨hstack, hrun, rfl, rfl, hnames⟩ := h
  cases hstack with
  | bottom => exact Or.inr rfl
  | branches hl => exact Or.inr rfl
  | group hu hrest =>
    refine Or.inl ⟨_, _, rfl, rfl, hrest, ?_, rfl, rfl, hnames⟩
    exact Run.unplaced_add hu (by simp only [Tree.unplaced, hbody])
  | branchesInGroup hl hu hrest =>
    refine Or.inl ⟨_, _, rfl, rfl, hrest, ?_, rfl, rfl, hnames⟩
    refine Run.unplaced_add hu ?_
    rw [Tree.unplaced, Tree.unplaced, alternation_unplaced_eq hl hbody]

/-- **Both builders take the same piece**, or neither does, or it closes a group that the first one does not hold. -/
theorem add (h : Follows below b b') (hbelow : Closed below) {t t' : Token} (ht : t.unplaced = t'.unplaced)
    (p q p' q' : Position) :
    (∃ c c', b.add t p q = .ok c ∧ b'.add t' p' q' = .ok c' ∧ Follows below c c') ∨
      (∃ d d', b.add t p q = .error d ∧ b'.add t' p' q' = .error d') ∨
      b.add t p q = .error (Fault.groupUnopened.on ⟨p, q⟩) := by
  cases t with
  | part t =>
    cases t' with
    | part t' => exact Or.inl ⟨_, _, rfl, rfl, h.addPart (Token.part.inj ht)⟩
    | _ => cases ht
  | opening o mark =>
    cases t' with
    | opening o' mark' =>
      obtain ⟨-, hmark⟩ := Token.opening.inj ht
      exact (h.openGroup hmark o o' q q').imp id Or.inl
    | _ => cases ht
  | closing =>
    cases t' with
    | closing => exact (h.closeGroup p q p' q').imp id Or.inr
    | _ => cases ht
  | bar =>
    cases t' with
    | bar => exact Or.inl ⟨_, _, rfl, rfl, h.addBar hbelow p q p' q'⟩
    | _ => cases ht
  | repetition min max greedy =>
    cases t' with
    | repetition min' max' greedy' =>
      cases ht
      exact Or.inl ⟨_, _, rfl, rfl, h.addRepetition min max greedy q q'⟩
    | _ => cases ht

theorem add_of_ok (h : Follows below b b') (hbelow : Closed below) {t t' : Token} (ht : t.unplaced = t'.unplaced)
    {p q : Position} (hc : b.add t p q = .ok c) (p' q' : Position) :
    ∃ c', b'.add t' p' q' = .ok c' ∧ Follows below c c' := by
  obtain ⟨_, c', hc₁, hc', hfollows⟩ | ⟨d, _, hd, -⟩ | hunopened := h.add hbelow ht p q p' q'
  · obtain rfl := Except.ok.inj (hc.symm.trans hc₁)
    exact ⟨c', hc', hfollows⟩
  · cases hc.symm.trans hd
  · cases hc.symm.trans hunopened

end Follows

/-! ## at the end -/

section

variable {b b' : Builder} {tree : Tree} {u : Run} {o : Span} {k : Group} {e : Bool}

/-- a group below stays open -/
theorem Over.finish {more stack : List Frame} (h : Over (.group u o k e :: more) stack b.stack) (stop : Position) :
    ∃ d, b.finish stop = .error d := by
  obtain ⟨stack', run', extended', captures', names'⟩ := b
  cases h <;> exact ⟨_, rfl⟩

/-- what ends above a group ends in it -/
theorem Follows.closeGroup_of_finish (h : Follows [.group u o k e] b b') {stop : Position}
    (hb : b.finish stop = .ok tree) (p q : Position) : ∃ c, b'.closeGroup p q = .ok c ∧ c.stack = [] ∧
      c.run.unplaced = .group .nowhere k tree.unplaced :: u.unplaced := by
  have hbody := Run.toTree_unplaced_eq h.run stop p
  obtain ⟨stack, run, extended, captures, names⟩ := b
  obtain ⟨stack', run', extended', captures', names'⟩ := b'
  obtain ⟨hstack, hrun, rfl, rfl, hnames⟩ := h
  cases hstack with
  | bottom =>
    obtain rfl := Except.ok.inj hb
    exact ⟨_, rfl, rfl, by simp only [Run.unplaced, Run.add, List.map_cons, Tree.unplaced, hbody]⟩
  | branches hl =>
    obtain rfl := Except.ok.inj hb
    refine ⟨_, rfl, rfl, ?_⟩
    simp only [Run.unplaced, Run.add, List.map_cons]
    rw [Tree.unplaced, alternation_unplaced_eq hl hbody]
  | group => cases hb
  | branchesInGroup => cases hb

/-- what ends alone ends at other places too, and has no group to close -/
theorem Follows.finish_alone (h : Follows [] b b') {stop : Position} (hb : b.finish stop = .ok tree) :
    (∀ stop', ∃ tree', b'.finish stop' = .ok tree' ∧ tree'.unplaced = tree.unplaced) ∧
      ∀ p q, ∃ d, b'.closeGroup p q = .error d := by
  have hbody (stop' : Position) := Run.toTree_unplaced_eq h.run.symm stop' stop
  obtain ⟨stack, run, extended, captures, names⟩ := b
  obtain ⟨stack', run', extended', captures', names'⟩ := b'
  obtain ⟨hstack, -⟩ := h
  cases hstack with
  | bottom =>
    obtain rfl := Except.ok.inj hb
    exact ⟨fun stop' => ⟨_, rfl, hbody stop'⟩, fun _ _ => ⟨_, rfl⟩⟩
  | branches hl =>
    obtain rfl := Except.ok.inj hb
    exact ⟨fun stop' => ⟨_, rfl, alternation_unplaced_eq hl.symm (hbody stop') _ _⟩, fun _ _ => ⟨_, rfl⟩⟩
  | group => cases hb
  | branchesInGroup => cases hb

/-- what does not end above a group does not end behind another parenthesis either -/
theorem Follows.finish_of_closeGroup {c : Builder} (h : Follows [.group u o k e] b b') {stop : Position} {d : Diagnosis}
    (hb : b.finish stop = .error d) {p q : Position} (hc : b'.closeGroup p q = .ok c) (stop' : Position) :
    ∃ d', c.finish stop' = .error d' := by
  obtain ⟨stack, run, extended, captures, names⟩ := b
  obtain ⟨stack', run', extended', captures', names'⟩ := b'
  obtain ⟨hstack, -⟩ := h
  cases hstack with
  | bottom => cases hb
  | branches => cases hb
  | group hu hrest =>
    obtain rfl := Except.ok.inj hc
    exact hrest.finish stop'
  | branchesInGroup hl hu hrest =>
    obtain rfl := Except.ok.inj hc
    exact hrest.finish stop'

end

/-! ## one text at two places -/

theorem Reader.rest_trim_eq {r r' : Reader} (h : r.rest = r'.rest) (extended : Bool) :
    (r.trim extended).rest = (r'.trim extended).rest :=
  (trails_trim extended (h ▸ Trails.refl r.rest)).antisymm (trails_trim extended (h ▸ Trails.refl r.rest))

/-- pieces that are read from one text at two places leave the same -/
theorem readToken_elsewhere {extended repeatable : Bool} {c : Char} {x : List Char} {p p' : Position} {t t' : Token}
    {s s' : Reader} (h : readToken extended repeatable c ⟨c :: x, p⟩ = .ok (t, s))
    (h' : readToken extended repeatable c ⟨c :: x, p'⟩ = .ok (t', s')) : s.rest = s'.rest := by
  have hthere := readToken_alike extended (Trails.refl x) p p' repeatable c
  have hback := readToken_alike extended (Trails.refl x) p' p repeatable c
  rw [h, h'] at hthere hback
  cases hthere with
  | both _ hs _ =>
    cases hback with
    | both _ hs' _ => exact hs.antisymm hs'

/-! ## the pieces of a text -/

section

variable {b : Builder} {r : Reader}

theorem readPieces_end (h : (r.trim b.extended).rest = []) (fuel : Nat) : ∃ p, readPieces fuel b r = b.finish p := by
  cases fuel with
  | zero => exact ⟨_, rfl⟩
  | succ fuel =>
    simp only [readPieces, h]
    exact ⟨_, rfl⟩

theorem readPieces_cons {c : Char} {x : List Char} {p : Position} (h : r.trim b.extended = ⟨c :: x, p⟩) (fuel : Nat) :
    readPieces (fuel + 1) b r = (do
      let (t, after) ← readToken b.extended b.repeatable c ⟨c :: x, p⟩
      let b ← b.add t p after.pos
      readPieces fuel b after) := by
  simp only [readPieces, h]

theorem readPieces_closing {p : Position} (h : r.trim b.extended = ⟨[')'], p⟩) (fuel : Nat) :
    readPieces (fuel + 1) b r = (do
      let b ← b.closeGroup p (p.past ')')
      readPieces fuel b ⟨[], p.past ')'⟩) :=
  readPieces_cons h fuel

/-- nothing good follows what was left over -/
theorem readPieces_stranded {u : Run} {o : Span} {k : Group} {e : Bool} {more stack : List Frame}
    (hopen : Over (.group u o k e :: more) stack b.stack) {t : Token} {s : Reader} (h : Stranded b.extended t s)
    (p q : Position) (fuel : Nat) :
    ∃ d, (do let b ← b.add t p q; readPieces fuel b s) = .error d := by
  obtain ⟨tree, rfl, hnil⟩ | ⟨span, m, y, rfl, hbrace, hbehind⟩ := h
  · have hstack : (b.addPart tree).stack = b.stack := by cases tree <;> rfl
    obtain ⟨stop, hstop⟩ := readPieces_end (b := b.addPart tree) (Reader.trim_of_rest_eq_nil hnil) fuel
    rw [← hstack] at hopen
    obtain ⟨d, hd⟩ := hopen.finish stop
    exact ⟨d, hstop.trans hd⟩
  · -- the brace is the start of a count without digits
    obtain ⟨_, o⟩ := s
    obtain rfl := hbrace
    change ∃ d, readPieces fuel (b.addPart (.mark span m)) ⟨'{' :: y, o⟩ = .error d
    cases fuel with
    | zero => exact Over.finish (b := b.addPart (.mark span m)) hopen o
    | succ fuel =>
      have htrim : Reader.trim b.extended ⟨'{' :: y, o⟩ = ⟨'{' :: y, o⟩ := Reader.trim_of_solid rfl (by decide) y o
      obtain ⟨d, hd⟩ := readToken_brace hbehind (b.addPart (.mark span m)).repeatable
      refine ⟨d, ?_⟩
      rw [readPieces_cons (b := b.addPart (.mark span m)) htrim]
      exact congrArg (· >>= _) hd

end

/-! ## a text above a group -/

section

variable {u : Run} {o : Span} {k : Group} {e : Bool} {b b' : Builder} {r r' : Reader}

/-- a text that cannot be read, but for a parenthesis that closes no group, cannot be read above a group either -/
theorem readPieces_malformed (hb : Follows [.group u o k e] b b') (hr : Trails r.rest r'.rest) {fuel fuel' : Nat}
    (hfuel : r.rest.length < fuel) (hfuel' : r.rest.length + 1 < fuel') {d : Diagnosis}
    (hread : readPieces fuel b r = .error d) (hd : d.fault ≠ .groupUnopened) :
    ∃ d', readPieces fuel' b' r' = .error d' := by
  induction fuel generalizing b b' r r' fuel' with
  | zero => cases hfuel
  | succ fuel ih =>
    obtain ⟨fuel', rfl⟩ := Nat.exists_eq_add_one.2 (Nat.zero_lt_of_lt hfuel')
    have hahead := Reader.ahead_trim b.extended hr
    generalize hrest : r.trim b.extended = s at hahead
    generalize hrest' : r'.trim b.extended = s' at hahead
    rw [hb.extended] at hrest'
    cases hahead with
    | nil =>
      obtain ⟨stop, hstop⟩ := readPieces_end (b := b') (r := r') (congrArg Reader.rest hrest') (fuel' + 1)
      exact hstop ▸ hb.stack.finish stop
    | @closing p p' =>
      obtain ⟨stop, hstop⟩ := readPieces_end (b := b) (r := r) (congrArg Reader.rest hrest) (fuel + 1)
      rw [readPieces_closing hrest']
      cases hclose : b'.closeGroup p' (p'.past ')') with
      | error d' => exact ⟨d', rfl⟩
      | ok c =>
        have hnil : (Reader.trim c.extended ⟨[], p'.past ')'⟩).rest = [] := Reader.trim_of_rest_eq_nil rfl
        obtain ⟨stop', hstop'⟩ := readPieces_end hnil fuel'
        obtain ⟨d', hd'⟩ := hb.finish_of_closeGroup (hstop ▸ hread) hclose stop'
        exact ⟨d', hstop'.trans hd'⟩
    | @cons y y' p p' c hy hle =>
      have htoken := readToken_alike b.extended hy p p' b.repeatable c
      rw [readPieces_cons hrest] at hread
      rw [readPieces_cons hrest', ← hb.extended, ← hb.repeatable]
      generalize readToken b.extended b.repeatable c ⟨c :: y, p⟩ = piece at htoken hread
      generalize readToken b.extended b.repeatable c ⟨c :: y', p'⟩ = piece' at htoken ⊢
      cases htoken with
      | refused => exact ⟨_, rfl⟩
      | spent hstranded =>
        rw [hb.extended] at hstranded
        exact readPieces_stranded hb.stack hstranded _ _ fuel'
      | @both t t' s s' ht hs hlt =>
        obtain ⟨c₁, c₂, hc₁, hc₂, hc⟩ | ⟨d₁, d₂, -, hd₂⟩ | hunopened :=
          hb.add (Or.inr ⟨_, _, _, _, _, rfl⟩) ht p s.pos p' s'.pos
        · simp only [bind, Except.bind, hc₁] at hread
          simp only [bind, Except.bind, hc₂]
          exact ih hc hs (by omega) (by omega) hread
        · simp only [bind, Except.bind, hd₂]
          exact ⟨_, rfl⟩
        · simp only [bind, Except.bind, hunopened, Except.error.injEq] at hread
          exact (hd (hread ▸ rfl)).elim

/-- **A text that can be read**, with a parenthesis behind it: either the parenthesis is swallowed, so that the text
with it can be read too and does not close a group below; or it is left over and closes the group -/
theorem readPieces_above {alone : Builder} {aside : Reader} (halone : Follows [] b alone)
    (hb : Follows [.group u o k e] b b') (haside : Trails r.rest aside.rest) (hr : aside.rest = r'.rest)
    {fuel fuel₁ fuel' : Nat} (hfuel : r.rest.length < fuel) (hfuel₁ : r.rest.length + 1 < fuel₁)
    (hfuel' : r.rest.length + 1 < fuel') {tree : Tree} (hread : readPieces fuel b r = .ok tree) :
    ((∃ t, readPieces fuel₁ alone aside = .ok t ∧ t.unplaced = tree.unplaced) ∧
        ∃ d, readPieces fuel' b' r' = .error d) ∨
      (∃ d, readPieces fuel₁ alone aside = .error d) ∧ ∃ v stop, readPieces fuel' b' r' = .ok (Run.toTree v stop) ∧
        v.unplaced = .group .nowhere k tree.unplaced :: u.unplaced := by
  induction fuel generalizing b b' alone r r' aside fuel₁ fuel' with
  | zero => cases hfuel
  | succ fuel ih =>
    obtain ⟨fuel₁, rfl⟩ := Nat.exists_eq_add_one.2 (Nat.zero_lt_of_lt hfuel₁)
    obtain ⟨fuel', rfl⟩ := Nat.exists_eq_add_one.2 (Nat.zero_lt_of_lt hfuel')
    have hahead := Reader.ahead_trim b.extended haside
    have hsame := Reader.rest_trim_eq hr b.extended
    generalize hrest : r.trim b.extended = s at hahead
    generalize hrest₁ : aside.trim b.extended = s₁ at hahead hsame
    generalize hrest' : r'.trim b.extended = s' at hsame
    rw [halone.extended] at hrest₁
    rw [hb.extended] at hrest'
    obtain ⟨x', p'⟩ := s'
    cases hahead with
    | nil =>
      obtain rfl : [] = x' := hsame
      obtain ⟨stop, hstop⟩ := readPieces_end (congrArg Reader.rest hrest) (fuel + 1)
      obtain ⟨stop₁, hstop₁⟩ := readPieces_end (congrArg Reader.rest hrest₁) (fuel₁ + 1)
      obtain ⟨stop', hstop'⟩ := readPieces_end (congrArg Reader.rest hrest') (fuel' + 1)
      rw [hstop₁, hstop']
      exact Or.inl ⟨(halone.finish_alone (hstop.symm.trans hread)).1 stop₁, hb.stack.finish stop'⟩
    | @closing p p₁ =>
      obtain rfl : [')'] = x' := hsame
      obtain ⟨stop, hstop⟩ := readPieces_end (congrArg Reader.rest hrest) (fuel + 1)
      have hfinish := hstop.symm.trans hread
      obtain ⟨d, hd⟩ := (halone.finish_alone hfinish).2 p₁ (p₁.past ')')
      obtain ⟨c, hclose, hstack, hrun⟩ := hb.closeGroup_of_finish hfinish p' (p'.past ')')
      obtain ⟨stop', hstop'⟩ := readPieces_end (b := c) (r := ⟨[], p'.past ')'⟩) (Reader.trim_of_rest_eq_nil rfl) fuel'
      rw [readPieces_closing hrest₁, readPieces_closing hrest', hd, hclose]
      refine Or.inr ⟨⟨_, rfl⟩, c.run, stop', ?_, hrun⟩
      refine hstop'.trans ?_
      unfold Builder.finish
      rw [hstack]
    | @cons y y₁ p p₁ c hy hle =>
      obtain rfl : c :: y₁ = x' := hsame
      rw [readPieces_cons hrest] at hread
      rw [readPieces_cons hrest₁, readPieces_cons hrest', ← halone.extended, ← halone.repeatable, ← hb.extended,
        ← hb.repeatable]
      obtain ⟨⟨t, s⟩, hpiece, hread⟩ := bind_eq_ok.1 hread
      obtain ⟨next, hnext, hread⟩ := bind_eq_ok.1 hread
      obtain ⟨t₁, s₁, hpiece₁, ht₁, hs₁, hlt⟩ :=
        (hpiece ▸ readToken_alike b.extended hy p p₁ b.repeatable c).exists_of_ok
      obtain ⟨t', s', hpiece', ht', hs', -⟩ :=
        (hpiece ▸ readToken_alike b.extended hy p p' b.repeatable c).exists_of_ok
      obtain ⟨next₁, hnext₁, halone⟩ := halone.add_of_ok (Or.inl rfl) ht₁ hnext p₁ s₁.pos
      obtain ⟨next', hnext', hb⟩ := hb.add_of_ok (Or.inr ⟨_, _, _, _, _, rfl⟩) ht' hnext p' s'.pos
      simp only [bind, Except.bind, hpiece₁, hpiece', hnext₁, hnext']
      exact ih halone hb hs₁ (readToken_elsewhere hpiece₁ hpiece') (by omega) (by omega) (by omega) hread

end

/-! ## anchored sources -/

/-- an expression in a group behind the assertion that the text starts -/
def Tree.inFront (t : Tree) : Tree :=
  .concat .nowhere [.mark .nowhere .textStart, .group .nowhere (.scoped []) t]

theorem Tree.height_inFront (t : Tree) : t.inFront.height = t.height + 2 := by
  simp [inFront, height, greatestHeight]

theorem follows_start : Follows [] Builder.start Builder.start := ⟨.bottom, rfl, rfl, rfl, rfl⟩

theorem follows_opened : Follows opened.stack Builder.start opened := ⟨.bottom, rfl, rfl, rfl, rfl⟩

/-- the pieces of a text -/
def pieces (text : List Char) : Except Diagnosis Tree := readPieces (text.length + 1) Builder.start (Reader.ofText text)

theorem read_eq (text : List Char) : Tree.read text = (do
    let tree ← pieces text
    match tree.tooDeep? 0 with
    | some span => throw (Fault.nestedTooDeep.on span)
    | none => return tree) := rfl

/-- a text can be read if its pieces fit together and are not nested too deep -/
theorem read_eq_ok {text : List Char} {tree : Tree} :
    Tree.read text = .ok tree ↔ pieces text = .ok tree ∧ tree.height ≤ nestLimit := by
  have hdeep := (tree.isSome_tooDeep? (Nat.zero_le nestLimit)).not
  rw [Nat.zero_add, Nat.not_lt, Bool.not_eq_true, Option.isSome_eq_false_iff, Option.isNone_iff_eq_none] at hdeep
  rw [read_eq, bind_eq_ok, ← hdeep]
  constructor
  · rintro ⟨a, ha, hread⟩
    split at hread
    · cases hread
    · rename_i hnone
      obtain rfl := Except.ok.inj hread
      exact ⟨ha, hnone⟩
  · rintro ⟨htree, hnone⟩
    exact ⟨tree, htree, by rw [hnone]; rfl⟩

theorem pieces_wrap (source : List Char) : pieces (Anchoring.start.wrap source) =
    readPieces (source.length + 5) opened ⟨source ++ [')'], ⟨5, 1, 6⟩⟩ := by
  have hlength : (Anchoring.start.wrap source).length + 1 = (source.length + 5) + 2 := by simp [Anchoring.wrap]
  rw [pieces, hlength, readPieces_wrap]

/-- the pieces of an anchored source, if those of the source fit together: either the source swallows a parenthesis
behind it, and the group stays open, or it stands in the group -/
theorem pieces_wrap_cases {source : List Char} {tree : Tree} (h : pieces source = .ok tree) :
    ((∃ t, pieces (source ++ [')']) = .ok t ∧ t.unplaced = tree.unplaced) ∧
        ∃ d, pieces (Anchoring.start.wrap source) = .error d) ∨
      (∃ d, pieces (source ++ [')']) = .error d) ∧
        ∃ t, pieces (Anchoring.start.wrap source) = .ok t ∧ t.unplaced = tree.inFront.unplaced := by
  have htrails : Trails (Reader.ofText source).rest (Reader.ofText (source ++ [')'])).rest := .append_closing source
  have hsame : (Reader.ofText (source ++ [')'])).rest = (Reader.mk (source ++ [')']) ⟨5, 1, 6⟩).rest := rfl
  have hfuel : source.length + 1 < (source ++ [')']).length + 1 := by
    rw [List.length_append]
    exact Nat.lt_succ_self _
  have hfuel' : source.length + 1 < source.length + 5 := by omega
  rw [pieces_wrap]
  obtain hswallowed | ⟨halone, v, stop, hv, hunplaced⟩ :=
    readPieces_above follows_start follows_opened htrails hsame (Nat.lt_succ_self _) hfuel hfuel' h
  · exact Or.inl hswallowed
  · refine Or.inr ⟨halone, _, hv, ?_⟩
    rw [Run.toTree_unplaced, hunplaced]
    rfl

/-- a source whose pieces do not fit together, but for a parenthesis that closes no group, has no anchored form -/
theorem pieces_wrap_of_malformed {source : List Char} {d : Diagnosis} (h : pieces source = .error d)
    (hd : d.fault ≠ .groupUnopened) : ∃ d', pieces (Anchoring.start.wrap source) = .error d' := by
  have htrails : Trails (Reader.ofText source).rest (Reader.mk (source ++ [')']) ⟨5, 1, 6⟩).rest :=
    .append_closing source
  have hfuel' : source.length + 1 < source.length + 5 := by omega
  rw [pieces_wrap]
  exact readPieces_malformed follows_opened htrails (Nat.lt_succ_self _) hfuel' h hd

/-! ## anchored forms -/

/-- a parenthesis behind the source is read as a part of it -/
def Swallows (source : List Char) : Prop := ∃ tree, Tree.read (source ++ [')']) = .ok tree

/-- what a source and the anchored source come to -/
inductive Anchored (source : List Char) : Prop where
  /-- the source closes a group that it does not open -/
  | unopened {d : Diagnosis} (h : Tree.read source = .error d) (hd : d.fault = .groupUnopened)
  /-- neither has a form -/
  | malformed {d d' : Diagnosis} (h : formOf source = .error d) (h' : formOf (Anchoring.start.wrap source) = .error d')
  /-- the source has a form; the anchored source has none, because the group stays open -/
  | swallowed {f : Form} {d' : Diagnosis} (h : formOf source = .ok f) (hs : Swallows source)
      (h' : formOf (Anchoring.start.wrap source) = .error d')
  /-- the source has a form; the anchored source has none, because it is nested too deep -/
  | deep {f : Form} {tree : Tree} {d' : Diagnosis} (h : formOf source = .ok f) (htree : Tree.read source = .ok tree)
      (hs : ¬ Swallows source) (hheight : nestLimit < tree.height + 2)
      (h' : formOf (Anchoring.start.wrap source) = .error d')
  /-- the source has a form, and the anchored source has that form at the front -/
  | inFront {f : Form} {tree : Tree} (h : formOf source = .ok f) (htree : Tree.read source = .ok tree)
      (hs : ¬ Swallows source) (hheight : tree.height + 2 ≤ nestLimit)
      (h' : formOf (Anchoring.start.wrap source) = .ok (.atFront [f]))

theorem Tree.height_eq_of_unplaced_eq {t u : Tree} (h : t.unplaced = u.unplaced) : t.height = u.height := by
  rw [← t.height_unplaced, h, u.height_unplaced]

theorem meaning_inFront (t : Tree) (m : Modes) :
    (t.inFront.meaning m).toOption = (t.meaning m).toOption.map fun r => (.atFront [r.1], m) := by
  have hscoped : m.setAll [] = m := rfl
  simp only [Tree.inFront, Tree.meaning, Tree.allMeanings, toOption_bind, toOption_ok, Option.bind_some, hscoped]
  cases t.meaning m <;> rfl

theorem formOf_toOption {source : List Char} {tree : Tree} (h : Tree.read source = .ok tree) :
    (formOf source).toOption = (tree.meaning Modes.initial).toOption.map Prod.fst := by
  rw [formOf, h]
  simp only [toOption_bind, toOption_ok, Option.bind_some]
  cases tree.meaning Modes.initial <;> rfl

theorem toOption_eq_none {ε α : Type} {a : Except ε α} : a.toOption = none ↔ ∃ e, a = .error e := by
  cases a <;> simp

theorem toOption_eq_some {ε α : Type} {a : Except ε α} {x : α} : a.toOption = some x ↔ a = .ok x := by
  cases a <;> simp

theorem formOf_of_read_error {text : List Char} {d : Diagnosis} (h : Tree.read text = .error d) :
    formOf text = .error d := by
  rw [formOf, h]
  rfl

theorem read_of_pieces_error {text : List Char} {d : Diagnosis} (h : pieces text = .error d) :
    Tree.read text = .error d := by
  rw [read_eq, h]
  rfl

theorem exists_read_error {text : List Char} {tree : Tree} (h : pieces text = .ok tree)
    (hdeep : nestLimit < tree.height) : ∃ d, Tree.read text = .error d := by
  cases hread : Tree.read text with
  | error d => exact ⟨d, rfl⟩
  | ok t =>
    obtain ⟨ht, hheight⟩ := read_eq_ok.1 hread
    obtain rfl := Except.ok.inj (h.symm.trans ht)
    exact absurd hheight (Nat.not_le.2 hdeep)

/-- **Where the anchor goes**: what the source and the anchored source come to, for every source. -/
theorem anchored (source : List Char) : Anchored source := by
  cases hpieces : pieces source with
  | error d =>
    have hread := read_of_pieces_error hpieces
    by_cases hd : d.fault = .groupUnopened
    · exact .unopened hread hd
    · obtain ⟨d', hd'⟩ := pieces_wrap_of_malformed hpieces hd
      exact .malformed (formOf_of_read_error hread) (formOf_of_read_error (read_of_pieces_error hd'))
  | ok tree =>
    obtain ⟨⟨t, halone, ht⟩, d', hwrap⟩ | ⟨⟨d, halone⟩, t, hwrap, ht⟩ := pieces_wrap_cases hpieces
    · -- the parenthesis is swallowed
      have hwrap := formOf_of_read_error (read_of_pieces_error hwrap)
      cases hform : formOf source with
      | error d => exact .malformed hform hwrap
      | ok f =>
        obtain ⟨tree', hread, -⟩ := bind_eq_ok.1 hform
        obtain ⟨htree', hheight⟩ := read_eq_ok.1 hread
        obtain rfl := Except.ok.inj (hpieces.symm.trans htree')
        rw [← Tree.height_eq_of_unplaced_eq ht] at hheight
        exact .swallowed hform ⟨t, read_eq_ok.2 ⟨halone, hheight⟩⟩ hwrap
    · have hs : ¬ Swallows source := by
        rintro ⟨t', ht'⟩
        cases halone.symm.trans (read_eq_ok.1 ht').1
      have hheight := Tree.height_eq_of_unplaced_eq ht
      rw [tree.height_inFront] at hheight
      by_cases hdeep : nestLimit < tree.height + 2
      · obtain ⟨d', hd'⟩ := exists_read_error hwrap (hheight ▸ hdeep)
        have hwrap := formOf_of_read_error hd'
        cases hform : formOf source with
        | error d => exact .malformed hform hwrap
        | ok f =>
          obtain ⟨tree', hread, -⟩ := bind_eq_ok.1 hform
          obtain rfl := Except.ok.inj (hpieces.symm.trans (read_eq_ok.1 hread).1)
          exact .deep hform hread hs hdeep hwrap
      · have hread : Tree.read source = .ok tree := read_eq_ok.2 ⟨hpieces, by omega⟩
        have hread' : Tree.read (Anchoring.start.wrap source) = .ok t := read_eq_ok.2 ⟨hwrap, by omega⟩
        have hform' := formOf_toOption hread'
        rw [Tree.meaning_of_unplaced_eq ht, meaning_inFront] at hform'
        cases hmeaning : tree.meaning Modes.initial with
        | error d =>
          rw [hmeaning] at hform'
          obtain ⟨d', hd'⟩ := toOption_eq_none.1 hform'
          obtain ⟨d, hd⟩ := toOption_eq_none.1 ((formOf_toOption hread).trans (by rw [hmeaning]; rfl))
          exact .malformed hd hd'
        | ok r =>
          rw [hmeaning] at hform'
          exact .inFront (toOption_eq_some.1 ((formOf_toOption hread).trans (by rw [hmeaning]; rfl))) hread hs
            (Nat.not_lt.1 hdeep) (toOption_eq_some.1 hform')

end Lexicon.Expression
