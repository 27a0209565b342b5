/-
Programs take what their forms take. `AcceptsIn code n i p q` follows n instructions from the instruction i at the
place p to the acceptance of a match that ends at q. A maker implements a relation between places (`Implements`) when
following what it makes comes to the instruction it goes on at exactly in the places so related; it touches nothing
that was made before, so what is made later may rely on that. The number of steps is kept because a loop leads back to
its own split: what is left to follow behind a round is shorter than what was left before it (`Implements.loop`).

Result: `accepts_program`, over all forms, by induction on the form with one lemma for each kind of maker.
-/
import Lexicon.Proofs.Expression.Takes

namespace Lexicon.Expression

open Place

/-! ## following instructions -/

/-- an instruction at a place leads to an instruction at a place -/
def Instr.Leads : Instr → Place → Nat → Place → Prop
  | .accept, _, _, _ => False
  | .char c next, p, j, q => j = next ∧ p.Reads c q
  | .set s next, p, j, q => j = next ∧ ∃ c, s.contains c = true ∧ p.Reads c q
  | .look l next, p, j, q => j = next ∧ l.holds p.before p.rest.head? = true ∧ q = p
  | .split first second, p, j, q => (j = first ∨ j = second) ∧ q = p

/-- n steps from the instruction i at p, a match that ends at q is accepted -/
def AcceptsIn (code : Array Instr) : Nat → Nat → Place → Place → Prop
  | 0, i, p, q => code[i]? = some .accept ∧ q = p
  | n + 1, i, p, q => ∃ ins j r, code[i]? = some ins ∧ ins.Leads p j r ∧ AcceptsIn code n j r q

/-- a match from p to q is accepted, started at the instruction i -/
def Accepts (code : Array Instr) (i : Nat) (p q : Place) : Prop := ∃ n, AcceptsIn code n i p q

theorem leads_prefer {greedy : Bool} {a b j : Nat} {p q : Place} :
    (Instr.prefer greedy a b).Leads p j q ↔ (j = a ∨ j = b) ∧ q = p := by
  cases greedy
  · exact and_congr_left fun _ => or_comm
  · rfl

/-- Any instruction that leads on is not the end. -/
theorem AcceptsIn.of_instr {code : Array Instr} {i n : Nat} {ins : Instr} {p q : Place} (hi : code[i]? = some ins)
    (hins : ins ≠ .accept) (h : AcceptsIn code n i p q) :
    ∃ k j r, n = k + 1 ∧ ins.Leads p j r ∧ AcceptsIn code k j r q := by
  cases n with
  | zero => exact absurd (Option.some.inj (hi.symm.trans h.1)) hins
  | succ k =>
    obtain ⟨ins', j, r, hi', hlead, hrest⟩ := h
    obtain rfl := Option.some.inj (hi.symm.trans hi')
    exact ⟨k, j, r, rfl, hlead, hrest⟩

theorem Accepts.step {code : Array Instr} {i j : Nat} {ins : Instr} {p r q : Place} (hi : code[i]? = some ins)
    (hlead : ins.Leads p j r) (h : Accepts code j r q) : Accepts code i p q := by
  obtain ⟨n, hn⟩ := h
  exact ⟨n + 1, ins, j, r, hi, hlead, hn⟩

theorem prefer_ne_accept (greedy : Bool) (a b : Nat) : Instr.prefer greedy a b ≠ .accept := by
  cases greedy <;> simp [Instr.prefer]

/-! ## makers -/

theorem Piece.getElem?_emit_of_lt {code : Array Instr} {ins : Instr} {i : Nat} (hi : i < code.size) :
    (Piece.emit code ins).code[i]? = code[i]? := by
  simp [Piece.emit, Array.getElem?_push, Nat.ne_of_lt hi]

/-- from an instruction on, a program holds what was made -/
def Holds (final made : Array Instr) (start : Nat) : Prop :=
  ∀ i, start ≤ i → i < made.size → final[i]? = made[i]?

namespace Holds

variable {final made : Array Instr} {start later : Nat} {ins : Instr}

theorem mono (h : Holds final made start) (hle : start ≤ later) : Holds final made later :=
  fun i hs hi => h i (Nat.le_trans hle hs) hi

/-- what was emitted last stands behind what was made before -/
theorem getElem?_emit (h : Holds final (Piece.emit made ins).code start) (hs : start ≤ made.size) :
    final[made.size]? = some ins := by
  rw [h made.size hs (by simp [Piece.emit])]
  simp [Piece.emit]

theorem of_emit (h : Holds final (Piece.emit made ins).code start) : Holds final made start := by
  intro i hs hi
  rw [h i hs (by simp [Piece.emit]; omega), Piece.getElem?_emit_of_lt hi]

end Holds

/-- a maker adds instructions that lead to the instruction it goes on at in the places related, and only there -/
structure Implements (m : Maker) (R : Place → Place → Prop) : Prop where
  grows : ∀ next code, code.size ≤ (m next code).code.size
  keeps : ∀ next code i, i < code.size → (m next code).code[i]? = code[i]?
  sound : ∀ {next code final}, Holds final (m next code).code code.size → ∀ {n p q},
    AcceptsIn final n (m next code).entry p q → ∃ r k, k ≤ n ∧ R p r ∧ AcceptsIn final k next r q
  complete : ∀ {next code final}, Holds final (m next code).code code.size → ∀ {p r q},
    R p r → Accepts final next r q → Accepts final (m next code).entry p q

namespace Implements

variable {m m₁ m₂ : Maker} {R R₁ R₂ : Place → Place → Prop}

theorem of_iff (h : Implements m R₁) (hR : ∀ p q, R₁ p q ↔ R₂ p q) : Implements m R₂ where
  grows := h.grows
  keeps := h.keeps
  sound hf _ _ _ ha := by
    obtain ⟨r, k, hk, hr, hrest⟩ := h.sound hf ha
    exact ⟨r, k, hk, (hR _ _).1 hr, hrest⟩
  complete hf _ _ _ hr := h.complete hf ((hR _ _).2 hr)

theorem done : Implements (fun next code => ⟨next, code⟩) fun p q => q = p where
  grows _ _ := Nat.le_refl _
  keeps _ _ _ _ := rfl
  sound _ n p _ ha := ⟨p, n, Nat.le_refl n, rfl, ha⟩
  complete _ _ _ _ hr ha := hr ▸ ha

theorem emit {ins : Nat → Instr} (hne : ∀ next, ins next ≠ .accept)
    (hlead : ∀ next p j q, (ins next).Leads p j q ↔ j = next ∧ R p q) :
    Implements (fun next code => Piece.emit code (ins next)) R where
  grows _ _ := by simp [Piece.emit]
  keeps _ _ _ hi := Piece.getElem?_emit_of_lt hi
  sound {next code final} hf n p q ha := by
    have hins := hf.getElem?_emit (Nat.le_refl _)
    obtain ⟨k, j, r, rfl, hstep, hrest⟩ := AcceptsIn.of_instr hins (hne next) ha
    obtain ⟨rfl, hr⟩ := (hlead next p j r).1 hstep
    exact ⟨r, k, Nat.le_succ k, hr, hrest⟩
  complete {next code final} hf p r q hr ha :=
    ha.step (hf.getElem?_emit (Nat.le_refl _)) ((hlead next p next r).2 ⟨rfl, hr⟩)

/-- what is made later leaves what was made before it in place -/
theorem holds_before (h : Implements m R) {next start : Nat} {code final : Array Instr}
    (hf : Holds final (m next code).code start) : Holds final code start := by
  intro i hs hi
  rw [hf i hs (Nat.lt_of_lt_of_le hi (h.grows next code)), h.keeps next code i hi]

/-- one maker after the other; the second is made first -/
theorem andThen (h₁ : Implements m₁ R₁) (h₂ : Implements m₂ R₂) :
    Implements (fun next code => m₁ (m₂ next code).entry (m₂ next code).code)
      (fun p q => ∃ r, R₁ p r ∧ R₂ r q) where
  grows next code := Nat.le_trans (h₂.grows next code) (h₁.grows _ _)
  keeps next code i hi := by
    rw [h₁.keeps _ _ i (Nat.lt_of_lt_of_le hi (h₂.grows next code)), h₂.keeps next code i hi]
  sound {next code final} hf n p q ha := by
    obtain ⟨r, k, hk, hr, hrest⟩ := h₁.sound (hf.mono (h₂.grows next code)) ha
    obtain ⟨s, l, hl, hs, hlast⟩ := h₂.sound (h₁.holds_before hf) hrest
    exact ⟨s, l, Nat.le_trans hl hk, ⟨r, hr, hs⟩, hlast⟩
  complete {next code final} hf p s q hs ha := by
    obtain ⟨r, hr, hrs⟩ := hs
    exact h₁.complete (hf.mono (h₂.grows next code)) hr (h₂.complete (h₁.holds_before hf) hrs ha)

/-- a split in front, which may also pass by -/
theorem optional (h : Implements m R) (greedy : Bool) :
    Implements (fun next code => Piece.emit (m next code).code (.prefer greedy (m next code).entry next))
      (fun p q => q = p ∨ R p q) where
  grows next code := Nat.le_trans (h.grows next code) (by simp [Piece.emit])
  keeps next code i hi := by
    rw [Piece.getElem?_emit_of_lt (Nat.lt_of_lt_of_le hi (h.grows next code)), h.keeps next code i hi]
  sound {next code final} hf n p q ha := by
    have hins := hf.getElem?_emit (h.grows next code)
    obtain ⟨k, j, r, rfl, hstep, hrest⟩ := AcceptsIn.of_instr hins (prefer_ne_accept _ _ _) ha
    obtain ⟨rfl | rfl, rfl⟩ := leads_prefer.1 hstep
    · obtain ⟨s, l, hl, hs, hlast⟩ := h.sound hf.of_emit hrest
      exact ⟨s, l, Nat.le_succ_of_le hl, Or.inr hs, hlast⟩
    · exact ⟨r, k, Nat.le_succ k, Or.inl rfl, hrest⟩
  complete {next code final} hf p r q hr ha := by
    have hins := hf.getElem?_emit (h.grows next code)
    rcases hr with rfl | hr
    · exact ha.step hins (leads_prefer.2 ⟨Or.inr rfl, rfl⟩)
    · exact (h.complete hf.of_emit hr ha).step hins (leads_prefer.2 ⟨Or.inl rfl, rfl⟩)

/-- a split between two makers, of which the second is made first -/
theorem choice (h₁ : Implements m₁ R₁) (h₂ : Implements m₂ R₂) :
    Implements
      (fun next code =>
        Piece.emit (m₁ next (m₂ next code).code).code
          (.split (m₁ next (m₂ next code).code).entry (m₂ next code).entry))
      (fun p q => R₁ p q ∨ R₂ p q) where
  grows next code := by
    have hboth := Nat.le_trans (h₂.grows next code) (h₁.grows next (m₂ next code).code)
    simpa [Piece.emit] using Nat.le_succ_of_le hboth
  keeps next code i hi := by
    have hi₂ := Nat.lt_of_lt_of_le hi (h₂.grows next code)
    rw [Piece.getElem?_emit_of_lt (Nat.lt_of_lt_of_le hi₂ (h₁.grows next _)), h₁.keeps next _ i hi₂,
      h₂.keeps next code i hi]
  sound {next code final} hf n p q ha := by
    have hins := hf.getElem?_emit (Nat.le_trans (h₂.grows next code) (h₁.grows next _))
    have hf₁ := hf.of_emit
    obtain ⟨k, j, r, rfl, ⟨hj, rfl⟩, hrest⟩ := AcceptsIn.of_instr hins (by simp) ha
    rcases hj with rfl | rfl
    · obtain ⟨s, l, hl, hs, hlast⟩ := h₁.sound (hf₁.mono (h₂.grows next code)) hrest
      exact ⟨s, l, Nat.le_succ_of_le hl, Or.inl hs, hlast⟩
    · obtain ⟨s, l, hl, hs, hlast⟩ := h₂.sound (h₁.holds_before hf₁) hrest
      exact ⟨s, l, Nat.le_succ_of_le hl, Or.inr hs, hlast⟩
  complete {next code final} hf p r q hr ha := by
    have hins := hf.getElem?_emit (Nat.le_trans (h₂.grows next code) (h₁.grows next _))
    have hf₁ := hf.of_emit
    rcases hr with hr | hr
    · exact (h₁.complete (hf₁.mono (h₂.grows next code)) hr ha).step hins ⟨Or.inl rfl, rfl⟩
    · exact (h₂.complete (h₁.holds_before hf₁) hr ha).step hins ⟨Or.inr rfl, rfl⟩

/-! ## loops -/

/-- the code of a loop, given a program that holds it: the split at its slot, and the rounds behind the slot -/
theorem holds_loop (h : Implements m R) {greedy : Bool} {next : Nat} {code final : Array Instr}
    (hf : Holds final (Maker.loop m greedy next code).code code.size) :
    final[code.size]? = some (.prefer greedy (m code.size (code.push .accept)).entry next) ∧
      Holds final (m code.size (code.push .accept)).code (code.push .accept).size := by
  have hgrows := h.grows code.size (code.push .accept)
  rw [Array.size_push] at hgrows
  refine ⟨?_, fun i hs hi => ?_⟩
  · rw [hf code.size (Nat.le_refl _) (by simpa [Maker.loop] using Nat.lt_of_succ_le hgrows)]
    simp only [Maker.loop]
    rw [Array.getElem?_setIfInBounds_self_of_lt hgrows]
  · rw [Array.size_push] at hs
    rw [hf i (by omega) (by simpa [Maker.loop] using hi)]
    exact Array.getElem?_setIfInBounds_ne (by omega)

theorem sound_slot (h : Implements m R) {greedy : Bool} {next : Nat} {code final : Array Instr}
    (hf : Holds final (Maker.loop m greedy next code).code code.size) {n : Nat} {p q : Place}
    (ha : AcceptsIn final n code.size p q) :
    ∃ k r l, l ≤ n ∧ Rounds R k p r ∧ AcceptsIn final l next r q := by
  obtain ⟨hslot, hround⟩ := h.holds_loop hf
  induction n using Nat.strongRecOn generalizing p with
  | ind n ih =>
    obtain ⟨n, j, r, rfl, hstep, hrest⟩ := AcceptsIn.of_instr hslot (prefer_ne_accept _ _ _) ha
    obtain ⟨rfl | rfl, rfl⟩ := leads_prefer.1 hstep
    · obtain ⟨s, l, hl, hs, hagain⟩ := h.sound hround hrest
      obtain ⟨k, t, l', hl', ht, hlast⟩ := ih l (Nat.lt_succ_of_le hl) hagain
      exact ⟨k + 1, t, l', by omega, ⟨s, hs, ht⟩, hlast⟩
    · exact ⟨0, r, n, Nat.le_succ n, rfl, hrest⟩

theorem complete_slot (h : Implements m R) {greedy : Bool} {next : Nat} {code final : Array Instr}
    (hf : Holds final (Maker.loop m greedy next code).code code.size) {k : Nat} {p r q : Place}
    (hr : Rounds R k p r) (ha : Accepts final next r q) : Accepts final code.size p q := by
  obtain ⟨hslot, hround⟩ := h.holds_loop hf
  induction k generalizing p with
  | zero =>
    obtain rfl := hr
    exact ha.step hslot (leads_prefer.2 ⟨Or.inr rfl, rfl⟩)
  | succ k ih =>
    obtain ⟨s, hs, hrest⟩ := hr
    exact (h.complete hround hs (ih hrest)).step hslot (leads_prefer.2 ⟨Or.inl rfl, rfl⟩)

theorem grows_loop (h : Implements m R) (greedy : Bool) (next : Nat) (code : Array Instr) :
    code.size ≤ (Maker.loop m greedy next code).code.size := by
  have hgrows := h.grows code.size (code.push .accept)
  rw [Array.size_push] at hgrows
  simp only [Maker.loop, Array.size_setIfInBounds]
  omega

theorem keeps_loop (h : Implements m R) (greedy : Bool) (next : Nat) (code : Array Instr) (i : Nat)
    (hi : i < code.size) : (Maker.loop m greedy next code).code[i]? = code[i]? := by
  simp only [Maker.loop]
  rw [Array.getElem?_setIfInBounds_ne (by omega), h.keeps _ _ i (by rw [Array.size_push]; omega)]
  simp [Array.getElem?_push, Nat.ne_of_lt hi]

/-- a round, and any number of rounds behind it -/
theorem loop (h : Implements m R) (greedy : Bool) :
    Implements (Maker.loop m greedy) fun p q => ∃ k, Rounds R (k + 1) p q where
  grows := h.grows_loop greedy
  keeps := h.keeps_loop greedy
  sound {next code final} hf n p q ha := by
    obtain ⟨s, l, hl, hs, hagain⟩ := h.sound (h.holds_loop hf).2 ha
    obtain ⟨k, t, l', hl', ht, hlast⟩ := h.sound_slot hf hagain
    exact ⟨t, l', Nat.le_trans hl' hl, ⟨k, s, hs, ht⟩, hlast⟩
  complete {next code final} hf p r q hr ha := by
    obtain ⟨k, s, hs, hrest⟩ := hr
    exact h.complete (h.holds_loop hf).2 hs (h.complete_slot hf hrest ha)

theorem anyConsuming (h : Implements m R) (greedy : Bool) :
    Implements (Maker.anyConsuming m greedy) fun p q => ∃ k, Rounds R k p q where
  grows := h.grows_loop greedy
  keeps := h.keeps_loop greedy
  sound {next code final} hf n p q ha := by
    obtain ⟨k, r, l, hl, hr, hrest⟩ := h.sound_slot hf ha
    exact ⟨r, l, hl, ⟨k, hr⟩, hrest⟩
  complete {next code final} hf p r q hr ha := by
    obtain ⟨k, hk⟩ := hr
    exact h.complete_slot hf hk ha

theorem anyOptional (h : Implements m R) (greedy : Bool) :
    Implements (Maker.anyOptional m greedy) fun p q => ∃ k, Rounds R k p q := by
  refine ((h.loop greedy).optional greedy).of_iff fun p q => ⟨?_, ?_⟩
  · rintro (rfl | ⟨k, hk⟩)
    · exact ⟨0, rfl⟩
    · exact ⟨k + 1, hk⟩
  · rintro ⟨_ | k, hk⟩
    · exact Or.inl hk
    · exact Or.inr ⟨k, hk⟩

/-! ## counted rounds and texts -/

theorem rounds (h : Implements m R) (n : Nat) : Implements (Maker.rounds m n) (Rounds R n) := by
  induction n with
  | zero => exact done
  | succ n ih => exact h.andThen ih

theorem upTo (h : Implements m R) (greedy : Bool) (n : Nat) :
    Implements (Maker.upTo m greedy n) fun p q => ∃ k ≤ n, Rounds R k p q := by
  induction n with
  | zero =>
    refine done.of_iff fun p q => ⟨fun hq => ⟨0, Nat.le_refl 0, hq⟩, ?_⟩
    rintro ⟨k, hk, hq⟩
    obtain rfl := Nat.le_zero.1 hk
    exact hq
  | succ n ih =>
    refine ((h.andThen ih).optional greedy).of_iff fun p q => ⟨?_, ?_⟩
    · rintro (rfl | ⟨r, hr, k, hk, hq⟩)
      · exact ⟨0, Nat.zero_le _, rfl⟩
      · exact ⟨k + 1, Nat.succ_le_succ hk, r, hr, hq⟩
    · rintro ⟨_ | k, hk, hq⟩
      · exact Or.inl hq
      · obtain ⟨r, hr, hq⟩ := hq
        exact Or.inr ⟨r, hr, k, Nat.le_of_succ_le_succ hk, hq⟩

theorem char (c : Char) : Implements (fun next code => Piece.emit code (.char c next)) fun p q => p.Reads c q :=
  emit (by simp) fun _ _ _ _ => Iff.rfl

theorem literal (cs : List Char) : Implements (Maker.literal cs) (ReadsText cs) := by
  induction cs with
  | nil => exact done
  | cons c cs ih => exact (char c).andThen ih

end Implements

/-! ## forms -/

mutual

/-- **Every form is made into instructions that take what it takes.** -/
theorem Form.make_implements : ∀ f : Form, Implements (fun next code => f.make next code) fun p q => f.Takes p q
  | .empty => Implements.done
  | .literal a => Implements.literal a
  | .set s => Implements.emit (by simp) fun _ _ _ _ => Iff.rfl
  | .look l => Implements.emit (by simp) fun _ _ _ _ => Iff.rfl
  | .capture _ a => Form.make_implements a
  | .concat as => Form.makeAll_implements as
  | .alternation as => Form.makeFirst_implements as
  | .repetition min (some n) greedy a => by
    have ha := Form.make_implements a
    refine ((ha.rounds min).andThen (ha.upTo greedy (n - min))).of_iff fun p q => ?_
    simp only [Form.Takes, Option.mem_def, Option.some.injEq, forall_eq', rounds_add]
    constructor
    · rintro ⟨r, hr, k, hk, hq⟩
      exact ⟨k, hk, r, hr, hq⟩
    · rintro ⟨k, hk, r, hr, hq⟩
      exact ⟨r, hr, k, hk, hq⟩
  | .repetition 0 none greedy a => by
    have ha := Form.make_implements a
    have hany : Implements (fun next code => (Form.repetition 0 none greedy a).make next code)
        fun p q => ∃ k, Rounds (fun r s => a.Takes r s) k p q := by
      cases hc : a.consumes
      · simpa [Form.make, hc] using ha.anyOptional greedy
      · simpa [Form.make, hc] using ha.anyConsuming greedy
    refine hany.of_iff fun p q => ?_
    simp [Form.Takes]
  | .repetition (min + 1) none greedy a => by
    have ha := Form.make_implements a
    refine ((ha.rounds min).andThen (ha.loop greedy)).of_iff fun p q => ?_
    have hcount (k : Nat) : min + 1 + k = min + (k + 1) := by omega
    simp only [Form.Takes, hcount, rounds_add]
    constructor
    · rintro ⟨r, hr, k, hq⟩
      exact ⟨k, by simp, r, hr, hq⟩
    · rintro ⟨k, -, r, hr, hq⟩
      exact ⟨r, hr, k, hq⟩

theorem Form.makeAll_implements :
    ∀ fs : List Form, Implements (fun next code => Form.makeAll fs next code) fun p q => Form.TakesAll fs p q
  | [] => Implements.done
  | a :: as => (Form.make_implements a).andThen (Form.makeAll_implements as)

theorem Form.makeFirst_implements :
    ∀ fs : List Form, Implements (fun next code => Form.makeFirst fs next code) fun p q => Form.TakesAny fs p q
  | [] => Implements.emit (by simp) fun _ _ _ _ => by simp [Instr.Leads, CharSet.contains, CharSet.empty, Form.TakesAny]
  | [a] => (Form.make_implements a).of_iff fun _ _ => by simp [Form.TakesAny]
  | a :: b :: bs => (Form.make_implements a).choice (Form.makeFirst_implements (b :: bs))

end

/-- **A program accepts exactly the matches of its form.** -/
theorem Form.accepts_program (f : Form) (p q : Place) : Accepts f.program.code f.program.entry p q ↔ f.Takes p q := by
  have hmake := Form.make_implements f
  have hholds : Holds f.program.code (f.make 0 #[.accept]).code 1 := fun _ _ _ => rfl
  have haccept : f.program.code[0]? = some .accept := hmake.keeps 0 #[.accept] 0 (by simp)
  constructor
  · rintro ⟨n, hn⟩
    obtain ⟨r, k, -, hr, hend⟩ := hmake.sound hholds hn
    cases k with
    | zero =>
      obtain ⟨-, rfl⟩ := hend
      exact hr
    | succ k =>
      obtain ⟨ins, j, s, hi, hlead, -⟩ := hend
      obtain rfl := Option.some.inj (haccept.symm.trans hi)
      exact hlead.elim
  · intro h
    exact hmake.complete hholds h ⟨0, haccept, rfl⟩

end Lexicon.Expression
