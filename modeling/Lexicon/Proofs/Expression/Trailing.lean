/-
Reading with a closing parenthesis behind. An anchored source is read with one character more than the source itself,
and at other places. `Trails x x'` says that x' is x, or x with the parenthesis behind it; it is kept by every move of the two
readers (`Ahead`). What reads x and what reads x' come to the same part, each leaving a rest that trails the other's; or
both fail; or only the reading of x fails, where x ends in the midst of a part and the parenthesis is taken for the rest
of it (`Alike`). What is then left is `spent`: nothing that could still be read to a good end.

Blanks and comments may swallow the parenthesis; then both readings are at the end.

Results: one lemma for each kind of piece, up to `readEscape_alike`.
-/
import Lexicon.Expression.Escape
import Lexicon.Proofs.Expression.Placement

namespace Lexicon.Expression

/-! ## texts -/

/-- the second text is the first one, or has a closing parenthesis behind it -/
inductive Trails : List Char → List Char → Prop where
  | nil : Trails [] []
  | closing : Trails [] [')']
  | cons {x x' : List Char} (c : Char) (h : Trails x x') : Trails (c :: x) (c :: x')

namespace Trails

variable {x x' : List Char}

theorem refl (x : List Char) : Trails x x := by
  induction x with
  | nil => exact nil
  | cons c x ih => exact ih.cons c

theorem append_closing (x : List Char) : Trails x (x ++ [')']) := by
  induction x with
  | nil => exact closing
  | cons c x ih => exact ih.cons c

theorem length_le (h : Trails x x') : x.length ≤ x'.length := by
  induction h with
  | nil => exact Nat.le_refl _
  | closing => exact Nat.zero_le _
  | cons c _ ih => exact Nat.succ_le_succ ih

theorem antisymm (h : Trails x x') (h' : Trails x' x) : x = x' := by
  induction h with
  | nil => rfl
  | closing => cases h'
  | cons c _ ih =>
    cases h' with
    | cons _ h' => rw [ih h']

theorem head?_eq (h : Trails x x') {c : Char} (hc : c ≠ ')') : (x'.head? == some c) = (x.head? == some c) := by
  cases h with
  | nil => rfl
  | closing => simp [Ne.symm hc]
  | cons d _ => rfl

/-- a text without parentheses is in front of both or of neither -/
theorem isPrefixOf_eq (h : Trails x x') {text : List Char} (htext : ')' ∉ text) :
    text.isPrefixOf x' = text.isPrefixOf x := by
  induction text generalizing x x' with
  | nil => rfl
  | cons c text ih =>
    simp only [List.mem_cons, not_or] at htext
    cases h with
    | nil => rfl
    | closing => simp [List.isPrefixOf, Ne.symm htext.1]
    | cons d h => simp [List.isPrefixOf, ih h htext.2]

end Trails

/-! ## readers -/

namespace Reader

variable {r r' : Reader} {extended : Bool}

theorem trails_bump (h : Trails r.rest r'.rest) : Trails r.bump.rest r'.bump.rest := by
  obtain ⟨x, p⟩ := r
  obtain ⟨x', p'⟩ := r'
  cases h with
  | nil => exact .nil
  | closing => exact .nil
  | cons c h => exact h

theorem trails_skip (h : Trails r.rest r'.rest) (n : Nat) : Trails (r.skip n).rest (r'.skip n).rest := by
  induction n generalizing r r' with
  | zero => exact h
  | succ n ih => exact ih (trails_bump h)

theorem rest_skip (r : Reader) (n : Nat) : (r.skip n).rest = r.rest.drop n := by
  induction n generalizing r with
  | zero => rfl
  | succ n ih =>
    obtain ⟨_ | ⟨c, y⟩, p⟩ := r
    · exact (ih _).trans List.drop_nil
    · exact ih _

theorem trails_pastBlanks {x x' : List Char} (h : Trails x x') (inComment : Bool) (p p' : Position) :
    Trails (pastBlanks inComment x p).rest (pastBlanks inComment x' p').rest := by
  induction h generalizing inComment p p' with
  | nil => exact .nil
  | closing =>
    cases inComment with
    | true => exact .nil
    | false =>
      have hblank : Unicode.isBlank ')' = false := rfl
      simpa [pastBlanks, hblank] using Trails.closing
  | cons c h ih =>
    simp only [pastBlanks]
    split_ifs
    · exact ih _ _ _
    · exact ih _ _ _
    · exact ih _ _ _
    · exact h.cons c

theorem trails_trim (extended : Bool) (h : Trails r.rest r'.rest) :
    Trails (r.trim extended).rest (r'.trim extended).rest := by
  unfold trim
  split_ifs
  · exact trails_pastBlanks h _ _ _
  · exact h

theorem trails_advance (extended : Bool) (h : Trails r.rest r'.rest) :
    Trails (r.advance extended).rest (r'.advance extended).rest :=
  trails_trim extended (trails_bump h)

theorem trails_pastSpaces {x x' : List Char} (h : Trails x x') (p p' : Position) :
    Trails (pastSpaces x p).rest (pastSpaces x' p').rest := by
  induction h generalizing p p' with
  | nil => exact .nil
  | closing => exact .closing
  | cons c h ih =>
    simp only [pastSpaces]
    split_ifs
    · exact ih _ _
    · exact h.cons c

/-- a solid character stays -/
theorem trim_of_solid {c : Char} (hblank : Unicode.isBlank c = false) (hmark : c ≠ '#') (x : List Char)
    (p : Position) : trim extended ⟨c :: x, p⟩ = ⟨c :: x, p⟩ := by
  cases extended <;> simp [trim, pastBlanks, hblank, hmark]

theorem length_pastBlanks_le (inComment : Bool) (x : List Char) (p : Position) :
    (pastBlanks inComment x p).rest.length ≤ x.length := by
  induction x generalizing inComment p with
  | nil => exact Nat.le_refl _
  | cons c x ih =>
    simp only [pastBlanks, List.length_cons]
    split_ifs
    · exact Nat.le_succ_of_le (ih _ _)
    · exact Nat.le_succ_of_le (ih _ _)
    · exact Nat.le_succ_of_le (ih _ _)
    · exact Nat.le_refl _

theorem length_trim_le (extended : Bool) (r : Reader) : (r.trim extended).rest.length ≤ r.rest.length := by
  unfold trim
  split_ifs
  · exact length_pastBlanks_le _ _ _
  · exact Nat.le_refl _

theorem trim_of_rest_eq_nil (h : r.rest = []) : (r.trim extended).rest = [] :=
  List.eq_nil_of_length_eq_zero (Nat.le_zero.1 (by simpa [h] using length_trim_le extended r))

theorem length_advance_lt (extended : Bool) (c : Char) (x : List Char) (p : Position) :
    (advance extended ⟨c :: x, p⟩).rest.length < (c :: x).length :=
  Nat.lt_succ_of_le (length_trim_le extended _)

theorem length_advance_le (extended : Bool) (r : Reader) : (r.advance extended).rest.length ≤ r.rest.length := by
  obtain ⟨_ | ⟨c, x⟩, p⟩ := r
  · exact length_trim_le extended _
  · exact Nat.le_of_lt (length_advance_lt extended c x p)

theorem length_bump_le (r : Reader) : r.bump.rest.length ≤ r.rest.length := by
  obtain ⟨_ | ⟨c, x⟩, p⟩ := r
  · exact Nat.le_refl _
  · exact Nat.le_succ _

theorem length_pastSpaces_le (x : List Char) (p : Position) : (pastSpaces x p).rest.length ≤ x.length := by
  induction x generalizing p with
  | nil => exact Nat.le_refl _
  | cons c x ih =>
    simp only [pastSpaces, List.length_cons]
    split_ifs
    · exact Nat.le_succ_of_le (ih _)
    · exact Nat.le_refl _

/-- a text without parentheses is skipped in both or in neither -/
theorem trails_skip? {x x' : List Char} (h : Trails x x') (p p' : Position) (text : List Char) (htext : ')' ∉ text) :
    (∃ s s', skip? ⟨x, p⟩ text = some s ∧ skip? ⟨x', p'⟩ text = some s' ∧ Trails s.rest s'.rest ∧ text ++ s.rest = x) ∨
      skip? ⟨x, p⟩ text = none ∧ skip? ⟨x', p'⟩ text = none := by
  unfold skip?
  dsimp only
  rw [h.isPrefixOf_eq htext]
  split_ifs with hstarts
  · refine Or.inl ⟨_, _, rfl, rfl, trails_skip h _, ?_⟩
    obtain ⟨y, rfl⟩ := List.isPrefixOf_iff_prefix.1 hstarts
    rw [rest_skip, List.drop_left]
  · exact Or.inr ⟨rfl, rfl⟩

/-- two readers, the text of the second trailing that of the first, of which at most n characters are left -/
inductive Ahead (n : Nat) : Reader → Reader → Prop where
  | nil {q q' : Position} : Ahead n ⟨[], q⟩ ⟨[], q'⟩
  | closing {q q' : Position} : Ahead n ⟨[], q⟩ ⟨[')'], q'⟩
  | cons {y y' : List Char} {q q' : Position} (c : Char) (h : Trails y y') (hn : y.length < n) :
      Ahead n ⟨c :: y, q⟩ ⟨c :: y', q'⟩

theorem ahead_of_trails {n : Nat} (h : Trails r.rest r'.rest) (hn : r.rest.length ≤ n) : Ahead n r r' := by
  obtain ⟨y, q⟩ := r
  obtain ⟨y', q'⟩ := r'
  cases h with
  | nil => exact .nil
  | closing => exact .closing
  | cons c h => exact .cons c h hn

theorem ahead_trim (extended : Bool) (h : Trails r.rest r'.rest) :
    Ahead r.rest.length (r.trim extended) (r'.trim extended) :=
  ahead_of_trails (trails_trim extended h) (length_trim_le extended r)

theorem ahead_advance {x x' : List Char} (extended : Bool) (h : Trails x x') (c : Char) (p p' : Position) :
    Ahead x.length (advance extended ⟨c :: x, p⟩) (advance extended ⟨c :: x', p'⟩) :=
  ahead_of_trails (trails_trim extended h) (length_trim_le extended _)

end Reader

/-! ## readings -/

/-- what the readings of two texts, the second of which trails the first, come to: both to the same part, less than n
characters being left of the first text; or both to a failure; or the second to what is spent -/
inductive Alike {α β : Type} (n : Nat) (same : α → β) (spent : α → Reader → Prop) :
    Except Diagnosis (α × Reader) → Except Diagnosis (α × Reader) → Prop where
  | both {a a' : α} {s s' : Reader} (ha : same a = same a') (hs : Trails s.rest s'.rest) (hn : s.rest.length < n) :
      Alike n same spent (.ok (a, s)) (.ok (a', s'))
  | refused {d d' : Diagnosis} : Alike n same spent (.error d) (.error d')
  | spent {d : Diagnosis} {a' : α} {s' : Reader} (h : spent a' s') : Alike n same spent (.error d) (.ok (a', s'))

namespace Alike

variable {α β γ δ : Type} {m n : Nat} {same : α → β} {spent : α → Reader → Prop} {same' : γ → δ}
  {spent' : γ → Reader → Prop} {x x' : Except Diagnosis (α × Reader)}

theorem mono (h : Alike m same spent x x') (hle : m ≤ n) : Alike n same spent x x' := by
  cases h with
  | both ha hs hn => exact .both ha hs (Nat.lt_of_lt_of_le hn hle)
  | refused => exact .refused
  | spent h => exact .spent h

theorem imp (h : Alike n same spent x x') {wider : α → Reader → Prop} (hspent : ∀ a s, spent a s → wider a s) :
    Alike n same wider x x' := by
  cases h with
  | both ha hs hn => exact .both ha hs hn
  | refused => exact .refused
  | spent h => exact .spent (hspent _ _ h)

/-- nothing is left, or nothing could be read -/
def Ends (spent : α → Reader → Prop) : Except Diagnosis (α × Reader) → Prop
  | .ok (a, s) => spent a s
  | .error _ => True

theorem of_ends {d : Diagnosis} (h : Ends spent x') : Alike n same spent (.error d) x' := by
  cases x' with
  | error e => exact .refused
  | ok r => exact .spent h

/-- what is read from the first text is read from the second one too -/
theorem exists_of_ok {a : α} {s : Reader} (h : Alike n same spent (.ok (a, s)) x') :
    ∃ a' s', x' = .ok (a', s') ∧ same a = same a' ∧ Trails s.rest s'.rest ∧ s.rest.length < n := by
  cases h with
  | both ha hs hn => exact ⟨_, _, rfl, ha, hs, hn⟩

/-- **Readings one after the other.** -/
theorem bind (h : Alike m same spent x x') {k k' : α × Reader → Except Diagnosis (γ × Reader)}
    (hk : ∀ a a' s s', same a = same a' → Trails s.rest s'.rest → s.rest.length < m →
      Alike n same' spent' (k (a, s)) (k' (a', s')))
    (hspent : ∀ a' s', spent a' s' → Ends spent' (k' (a', s'))) : Alike n same' spent' (x >>= k) (x' >>= k') := by
  cases h with
  | both ha hs hn => exact hk _ _ _ _ ha hs hn
  | refused => exact .refused
  | spent h => exact of_ends (hspent _ _ h)

end Alike

/-- what cannot be spent, because the second reading fails wherever the first does -/
def never {α : Type} (_ : α) (_ : Reader) : Prop := False

/-- nothing is left -/
def atEnd {α : Type} (_ : α) (s : Reader) : Prop := s.rest = []

/-! ## hexadecimal escapes -/

section

variable {x x' : List Char} {p p' : Position} {extended : Bool}

theorem readHexDigits_alike (h : Trails x x') (n : Nat) (acc : List Char) :
    Alike (x.length + 1) id never (readHexDigits extended n acc ⟨x, p⟩) (readHexDigits extended n acc ⟨x', p'⟩) := by
  induction n generalizing acc x x' p p' with
  | zero => exact .both rfl h (Nat.lt_succ_self _)
  | succ n ih =>
    cases h with
    | nil => exact .refused
    | closing => exact .refused
    | @cons y y' c h =>
      simp only [readHexDigits]
      split_ifs
      · have hle := Nat.succ_le_succ (Reader.length_advance_le extended ⟨c :: y, p⟩)
        exact (ih (Reader.trails_advance extended (h.cons c)) (c :: acc)).mono hle
      · exact .refused

theorem readHexBraced_alike (h : Trails x x') {fuel fuel' : Nat} (hfuel : x.length < fuel) (hfuel' : x'.length < fuel')
    (acc : List Char) (brace brace' : Position) :
    Alike (x.length + 1) id never (readHexBraced extended brace fuel acc ⟨x, p⟩)
      (readHexBraced extended brace' fuel' acc ⟨x', p'⟩) := by
  induction fuel generalizing acc x x' p p' fuel' with
  | zero => cases hfuel
  | succ fuel ih =>
    obtain ⟨fuel', rfl⟩ := Nat.exists_eq_add_one.2 (Nat.zero_lt_of_lt hfuel')
    cases h with
    | nil => exact .refused
    | closing => exact .refused
    | @cons y y' c h =>
      simp only [readHexBraced]
      split_ifs
      · exact .both rfl (h.cons c) (Nat.lt_succ_self _)
      · refine (ih (Reader.trails_advance extended (h.cons c)) ?_ ?_ (c :: acc)).mono ?_
        · exact Nat.lt_of_lt_of_le (Reader.length_advance_lt _ _ _ _) (Nat.le_of_lt_succ hfuel)
        · exact Nat.lt_of_lt_of_le (Reader.length_advance_lt _ _ _ _) (Nat.le_of_lt_succ hfuel')
        · exact Nat.succ_le_succ (Reader.length_advance_le extended _)
      · exact .refused

/-- the character that digits spell does not depend on the span that is blamed if they spell none -/
theorem hexChar_cases (digits : List Char) :
    (∃ c, ∀ blamed, hexChar digits blamed = .ok c) ∨
      ∀ blamed, hexChar digits blamed = .error (Fault.hexInvalid.on blamed) := by
  cases h : (Hex.value? digits).bind charOf? with
  | some c => exact Or.inl ⟨c, fun blamed => by simp [hexChar, h]⟩
  | none => exact Or.inr fun blamed => by simp [hexChar, h]

/-- an atom without its place -/
def Atom.unplaced : Atom → Atom
  | .literal l => .literal l.unplaced
  | .mark _ m => .mark .nowhere m
  | .property _ query negated => .property .nowhere query negated
  | .short _ name negated => .short .nowhere name negated

/-- the literal that digits spell -/
theorem hexLiteral_alike {s s' : Reader} {n : Nat} (hs : Trails s.rest s'.rest) (hn : s.rest.length < n)
    (digits : List Char) (blamed blamed' span span' : Span) (byteForm : Bool) :
    Alike n Atom.unplaced never
      (do let c ← hexChar digits blamed; return (.literal ⟨span, c, byteForm⟩, s))
      (do let c ← hexChar digits blamed'; return (.literal ⟨span', c, byteForm⟩, s')) := by
  obtain ⟨c, hc⟩ | hnone := hexChar_cases digits
  · rw [hc, hc]
    exact .both rfl hs hn
  · rw [hnone, hnone]
    exact .refused

theorem hexCount_pos (letter : Char) : 0 < hexCount letter := by
  unfold hexCount
  split_ifs <;> decide

theorem readHex_alike (h : Trails x x') (c letter : Char) (start start' : Position) :
    Alike (x.length + 1) Atom.unplaced never (readHex extended start letter ⟨c :: x, p⟩)
      (readHex extended start' letter ⟨c :: x', p'⟩) := by
  have hahead := Reader.ahead_advance extended h c p p'
  obtain ⟨n, hcount⟩ := Nat.exists_eq_add_one.2 (hexCount_pos letter)
  unfold readHex
  generalize Reader.advance extended ⟨c :: x, p⟩ = r at hahead ⊢
  generalize Reader.advance extended ⟨c :: x', p'⟩ = r' at hahead ⊢
  cases hahead with
  | nil => exact .refused
  | closing =>
    -- no digit is a parenthesis
    simp only [hcount]
    exact .refused
  | @cons y y' q q' d hy hle =>
    by_cases hd : d = '{'
    · subst hd
      have hinner : Trails (Reader.advance extended ⟨'{' :: y, q⟩).rest
          (Reader.advance extended ⟨'{' :: y', q'⟩).rest := Reader.trails_advance extended (hy.cons '{')
      dsimp only
      refine (readHexBraced_alike hinner (Nat.lt_succ_self _) (Nat.lt_succ_self _) [] q q').bind ?_ ?_
      · rintro digits _ s s' rfl hs hlt
        dsimp only [id]
        split_ifs
        · exact .refused
        · refine hexLiteral_alike (Reader.trails_advance extended hs) ?_ _ _ _ _ _ _
          calc (s.advance extended).rest.length ≤ s.rest.length := Reader.length_advance_le extended _
            _ ≤ (Reader.advance extended ⟨'{' :: y, q⟩).rest.length := Nat.le_of_lt_succ hlt
            _ < ('{' :: y).length := Reader.length_advance_lt _ _ _ _
            _ ≤ x.length + 1 := Nat.le_succ_of_le hle
      · exact fun _ _ h => h.elim
    · simp only [List.cons.injEq, hd, false_and, imp_self, implies_true]
      refine (readHexDigits_alike (hy.cons d) (hexCount letter) []).bind ?_ ?_
      · rintro digits _ s s' rfl hs hlt
        exact hexLiteral_alike hs (Nat.lt_of_lt_of_le hlt (Nat.succ_le_succ hle)) _ _ _ _ _ _
      · exact fun _ _ h => h.elim

/-! ## properties -/

theorem readName_alike (h : Trails x x') {fuel fuel' : Nat} (hfuel : x.length < fuel) (hfuel' : x'.length < fuel')
    (acc : List Char) :
    Alike (x.length + 1) id never (readName extended fuel acc ⟨x, p⟩) (readName extended fuel' acc ⟨x', p'⟩) := by
  induction fuel generalizing acc x x' p p' fuel' with
  | zero => cases hfuel
  | succ fuel ih =>
    obtain ⟨fuel', rfl⟩ := Nat.exists_eq_add_one.2 (Nat.zero_lt_of_lt hfuel')
    cases h with
    | nil => exact .refused
    | closing =>
      -- the parenthesis is read as part of the name, and the text ends
      have hstop : (Reader.advance extended ⟨[')'], p'⟩).rest = [] :=
        List.eq_nil_of_length_eq_zero (Nat.lt_one_iff.1 (Reader.length_advance_lt _ _ _ _))
      cases fuel' with
      | zero => exact .refused
      | succ fuel' =>
        simp only [readName, hstop]
        exact .refused
    | @cons y y' c h =>
      simp only [readName]
      split_ifs
      · exact .both rfl (h.cons c) (Nat.lt_succ_self _)
      · refine (ih (Reader.trails_advance extended (h.cons c)) ?_ ?_ (c :: acc)).mono ?_
        · exact Nat.lt_of_lt_of_le (Reader.length_advance_lt _ _ _ _) (Nat.le_of_lt_succ hfuel)
        · exact Nat.lt_of_lt_of_le (Reader.length_advance_lt _ _ _ _) (Nat.le_of_lt_succ hfuel')
        · exact Nat.succ_le_succ (Reader.length_advance_le extended _)

theorem readProperty_alike (h : Trails x x') (c letter : Char) (start start' : Position) :
    Alike (x.length + 1) Atom.unplaced atEnd (readProperty extended start letter ⟨c :: x, p⟩)
      (readProperty extended start' letter ⟨c :: x', p'⟩) := by
  have hahead := Reader.ahead_advance extended h c p p'
  unfold readProperty
  generalize Reader.advance extended ⟨c :: x, p⟩ = r at hahead ⊢
  generalize Reader.advance extended ⟨c :: x', p'⟩ = r' at hahead ⊢
  cases hahead with
  | nil => exact .refused
  | closing =>
    -- the parenthesis is taken for the letter of a property
    exact .spent (List.eq_nil_of_length_eq_zero (Nat.lt_one_iff.1 (Reader.length_advance_lt _ _ _ _)))
  | @cons y y' q q' d hy hle =>
    have hinner : Trails (Reader.advance extended ⟨d :: y, q⟩).rest (Reader.advance extended ⟨d :: y', q'⟩).rest :=
      Reader.trails_advance extended (hy.cons d)
    have hinnerLength : (Reader.advance extended ⟨d :: y, q⟩).rest.length < (d :: y).length :=
      Reader.length_advance_lt _ _ _ _
    dsimp only
    split_ifs
    · refine (readName_alike hinner (Nat.lt_succ_self _) (Nat.lt_succ_self _) []).bind ?_ ?_
      · rintro name _ s s' rfl hs hlt
        refine .both rfl (Reader.trails_bump hs) ?_
        calc s.bump.rest.length ≤ s.rest.length := Reader.length_bump_le s
          _ ≤ (Reader.advance extended ⟨d :: y, q⟩).rest.length := Nat.le_of_lt_succ hlt
          _ < (d :: y).length := hinnerLength
          _ ≤ x.length + 1 := Nat.le_succ_of_le hle
      · exact fun _ _ h => h.elim
    · exact .refused
    · exact .both rfl hinner (Nat.lt_of_lt_of_le hinnerLength (Nat.le_succ_of_le hle))

/-! ## word edges -/

theorem readEdgeName_trails (extended : Bool) (h : Trails x x') (p p' : Position) {fuel fuel' : Nat}
    (hfuel : x.length < fuel) (hfuel' : x'.length < fuel') (acc : List Char) :
    ∃ name s s', readEdgeName extended fuel acc ⟨x, p⟩ = (name, s) ∧
      readEdgeName extended fuel' acc ⟨x', p'⟩ = (name, s') ∧ Trails s.rest s'.rest ∧ s.rest.length ≤ x.length := by
  induction fuel generalizing acc x x' p p' fuel' with
  | zero => cases hfuel
  | succ fuel ih =>
    obtain ⟨fuel', rfl⟩ := Nat.exists_eq_add_one.2 (Nat.zero_lt_of_lt hfuel')
    cases h with
    | nil => exact ⟨_, _, _, rfl, rfl, .nil, Nat.le_refl _⟩
    | closing => exact ⟨_, _, _, rfl, rfl, .closing, Nat.le_refl _⟩
    | @cons y y' c h =>
      have hinner : Trails (Reader.advance extended ⟨c :: y, p⟩).rest (Reader.advance extended ⟨c :: y', p'⟩).rest :=
        Reader.trails_advance extended (h.cons c)
      simp only [readEdgeName]
      split_ifs
      · obtain ⟨name, s, s', hs, hs', hrest, hlength⟩ := ih hinner _ _
          (Nat.lt_of_lt_of_le (Reader.length_advance_lt _ _ _ _) (Nat.le_of_lt_succ hfuel))
          (Nat.lt_of_lt_of_le (Reader.length_advance_lt _ _ _ _) (Nat.le_of_lt_succ hfuel')) (c :: acc)
        exact ⟨name, s, s', hs, hs', hrest, Nat.le_trans hlength (Reader.length_advance_le extended _)⟩
      · exact ⟨_, _, _, rfl, rfl, h.cons c, Nat.le_refl _⟩

/-- nothing is left behind an atom; or it is an assertion, and a brace with the parenthesis alone behind it is left -/
def Leftover (extended : Bool) (a : Atom) (s : Reader) : Prop :=
  s.rest = [] ∨ (∃ span m, a = .mark span m) ∧ ∃ y, s.rest = '{' :: y ∧ (s.advance extended).rest = [')']

theorem readEdge_alike (h : Trails x x') (start start' : Position) :
    Alike (x.length + 1) Atom.unplaced (Leftover extended) (readEdge extended start ⟨x, p⟩)
      (readEdge extended start' ⟨x', p'⟩) := by
  unfold readEdge
  cases h with
  | nil => exact .both rfl .nil Nat.zero_lt_one
  | closing => exact .both rfl .closing Nat.zero_lt_one
  | @cons y y' d hy =>
    by_cases hd : d = '{'
    · subst hd
      have hahead := Reader.ahead_advance extended hy '{' p p'
      dsimp only
      generalize Reader.advance extended ⟨'{' :: y, p⟩ = r at hahead ⊢
      generalize hr' : Reader.advance extended ⟨'{' :: y', p'⟩ = r' at hahead ⊢
      cases hahead with
      | nil => exact .refused
      | closing =>
        -- the brace is then the start of a count
        exact .spent (Or.inr ⟨⟨_, _, rfl⟩, y', rfl, congrArg Reader.rest hr'⟩)
      | @cons z z' q q' c hz hlength =>
        dsimp only
        split_ifs
        · obtain ⟨name, s, s', hs, hs', hrest, hle⟩ := readEdgeName_trails extended (hz.cons c) q q'
            (Nat.lt_succ_self _) (Nat.lt_succ_self _) []
          rw [hs, hs']
          obtain ⟨w, _⟩ := s
          obtain ⟨w', _⟩ := s'
          cases hrest with
          | nil => exact .refused
          | closing => exact .refused
          | @cons w w' e hw =>
            by_cases he : e = '}'
            · subst he
              dsimp only
              cases edgeOf? name with
              | none => exact .refused
              | some m =>
                refine .both rfl hw ?_
                calc w.length ≤ ('}' :: w).length := Nat.le_succ _
                  _ ≤ (c :: z).length := hle
                  _ ≤ y.length := hlength
                  _ < ('{' :: y).length + 1 := Nat.lt_succ_of_lt (Nat.lt_succ_self _)
            · simp only [List.cons.injEq, he, false_and, imp_self, implies_true]
              exact .refused
        · exact .both rfl (hy.cons '{') (Nat.lt_succ_self _)
    · simp only [List.cons.injEq, hd, false_and, imp_self, implies_true]
      exact .both rfl (hy.cons d) (Nat.lt_succ_self _)

/-! ## all escapes -/

theorem readLetter_alike (h : Trails x x') (c : Char) (start start' : Position) :
    Alike (x.length + 1) Atom.unplaced (Leftover extended) (readLetter extended start c ⟨x, p⟩)
      (readLetter extended start' c ⟨x', p'⟩) := by
  unfold readLetter
  split_ifs
  · exact .both rfl h (Nat.lt_succ_self _)
  · exact readEdge_alike h start start'
  · cases controlChar? c with
    | some d => exact .both rfl h (Nat.lt_succ_self _)
    | none =>
      cases shortClass? c with
      | some k => exact .both rfl h (Nat.lt_succ_self _)
      | none =>
        cases mark? c with
        | some m => exact .both rfl h (Nat.lt_succ_self _)
        | none => exact .refused

theorem readEscape_alike (h : Trails x x') (c : Char) :
    Alike (x.length + 1) Atom.unplaced (Leftover extended) (readEscape extended ⟨c :: x, p⟩)
      (readEscape extended ⟨c :: x', p'⟩) := by
  cases h with
  | nil => exact .refused
  | closing =>
    -- an escaped parenthesis
    exact .spent (Or.inl rfl)
  | @cons y y' d hy =>
    simp only [readEscape, Reader.bump]
    split_ifs
    · exact .refused
    · exact ((readHex_alike hy d d p p').mono (Nat.le_succ _)).imp fun _ _ h => h.elim
    · exact ((readProperty_alike hy d d p p').mono (Nat.le_succ _)).imp fun _ _ => Or.inl
    · exact (readLetter_alike hy d p p').mono (Nat.le_succ _)

end

end Lexicon.Expression
