/-
An expression behind an assertion that the input starts. Keeping forms simple does not change what is made of them
(`make_sequence`), so the program of such a form is that of the expression with one instruction more, at which it
starts (`program_atFront`). The instruction changes neither which places are reached at the front of an input nor in
which order: two sweeps that differ in it keep `Aside`, and a sweep has fuel to spare (`sweep_of_le`). So a run from
the front is the run of the expression, preferences included (`matchAt?_atFront`), and behind the front there is none.

Results: `search?_atFront`, the matches found behind the assertion are those that the expression finds at the front.
-/
import Lexicon.Proofs.Expression.Searching

namespace Lexicon.Expression

/-! ## what is made of a sequence -/

section

variable {next : Nat} {code : Array Instr}

theorem Maker.literal_append (as bs : List Char) :
    literal (as ++ bs) next code = literal as (literal bs next code).entry (literal bs next code).code := by
  induction as with
  | nil => rfl
  | cons a as ih => rw [List.cons_append, literal, ih, literal]

namespace Form

theorem makeAll_append (as bs : List Form) :
    makeAll (as ++ bs) next code = makeAll as (makeAll bs next code).entry (makeAll bs next code).code := by
  induction as with
  | nil => rfl
  | cons a as ih => rw [List.cons_append, makeAll, ih, makeAll]

theorem makeAll_spliceConcats (fs : List Form) : makeAll (spliceConcats fs) next code = makeAll fs next code := by
  induction fs with
  | nil => rfl
  | cons f fs ih =>
    cases f with
    | concat ps => rw [spliceConcats, makeAll_append, ih, makeAll, make]
    | _ => simp only [spliceConcats, makeAll, ih]

theorem makeAll_joinLiterals (fs : List Form) : makeAll (joinLiterals fs) next code = makeAll fs next code := by
  induction fs with
  | nil => rfl
  | cons f fs ih =>
    cases f with
    | empty => rw [joinLiterals, ih, makeAll, make]
    | literal a =>
      rw [joinLiterals, makeAll, make, ← ih]
      split
      · rename_i b more hjoin
        rw [hjoin, makeAll, make, makeAll, make, Maker.literal_append]
      · rw [makeAll, make]
    | _ => simp only [joinLiterals, makeAll, ih]

/-- Keeping a sequence simple does not change what is made of it. -/
theorem make_sequence (fs : List Form) : (sequence fs).make next code = makeAll fs next code := by
  rw [← makeAll_spliceConcats, ← makeAll_joinLiterals, sequence]
  split <;> rename_i hparts
  · rw [hparts, make, makeAll]
  · rw [hparts, makeAll, makeAll]
  · rw [make]

end Form

end

namespace Program

/-- the program with the assertion that the input starts in front of it -/
def atFront (p : Program) : Program := ⟨p.code.push (.look .textStart p.entry), p.code.size⟩

theorem program_atFront (f : Form) : (Form.atFront [f]).program = f.program.atFront := by
  simp only [Form.program, Form.atFront, Form.make_sequence, Form.makeAll, Form.make, Piece.emit, atFront]

theorem code_atFront (p : Program) : p.atFront.code.getD p.code.size .accept = .look .textStart p.entry := by
  simp [atFront, Array.getD_eq_getD_getElem?]

/-! ## fuel to spare -/

variable {p : Program} {before after : Option Char} {stack : List Nat} {s t : Sweep}

/-- More fuel than a sweep may need does not change it. -/
theorem sweep_of_le {fuel more : Nat} (hfuel : pending stack s < fuel) (hmore : fuel ≤ more) :
    p.sweep before after more stack s = p.sweep before after fuel stack s := by
  induction fuel generalizing stack s more with
  | zero => omega
  | succ fuel ih =>
    obtain ⟨more, rfl⟩ := Nat.exists_eq_add_one.2 (Nat.zero_lt_of_lt hmore)
    have hmore : fuel ≤ more := Nat.le_of_succ_le_succ hmore
    cases stack with
    | nil => rfl
    | cons i stack =>
      cases hi : s.seen.getD i true with
      | true =>
        have hpending : pending stack s < fuel := by
          simp only [pending, List.length_cons] at hfuel ⊢
          omega
        rw [sweep_drop hi, sweep_drop hi, ih hpending hmore]
      | false =>
        by_cases hins : p.code.getD i .accept = .accept
        · rw [sweep_accept hi hins, sweep_accept hi hins]
        · rw [sweep_meet hi rfl hins, sweep_meet hi rfl hins]
          exact ih (Nat.lt_of_lt_of_le (pending_meet _ hi) (Nat.le_of_lt_succ hfuel)) hmore

/-! ## the instruction in front -/

/-- two sweeps that differ at most in having met the instruction at `slot`, which the first counts as met -/
structure Aside (slot : Nat) (s t : Sweep) : Prop where
  waiting : t.waiting = s.waiting
  pending : s.accepted = false ∧ t.accepted = false
  elsewhere : ∀ i, i ≠ slot → t.seen.getD i true = s.seen.getD i true
  met : s.seen.getD slot true = true

theorem Aside.meet {slot i : Nat} (h : Aside slot s t) (ins : Instr) :
    Aside slot (meet i ins s) (meet i ins t) where
  waiting := congrArg (ins.kept ++ ·) h.waiting
  pending := ⟨rfl, rfl⟩
  elsewhere j hj := by simp only [Program.meet, getD_setIfInBounds, h.elsewhere j hj]
  met := by simp only [Program.meet, getD_setIfInBounds, h.met, ite_self]

theorem Aside.meet_slot {slot : Nat} (h : Aside slot s t) (l : Look) (next : Nat) :
    Aside slot s (Program.meet slot (.look l next) t) where
  waiting := h.waiting
  pending := ⟨h.pending.1, rfl⟩
  elsewhere j hj := by simp only [Program.meet, getD_setIfInBounds, if_neg hj, h.elsewhere j hj]
  met := h.met

/-- Met behind the front the instruction leads nowhere; at the front it was met before. -/
theorem sweep_atFront {fuel : Nat} (h : Aside p.code.size s t) (hsize : s.seen.size = p.code.size)
    (hfront : before = none → t.seen.getD p.code.size true = true) :
    (p.atFront.sweep before after fuel stack t).waiting = (p.sweep before after fuel stack s).waiting ∧
      (p.atFront.sweep before after fuel stack t).accepted = (p.sweep before after fuel stack s).accepted := by
  induction fuel generalizing stack s t with
  | zero => exact ⟨h.waiting, h.pending.2.trans h.pending.1.symm⟩
  | succ fuel ih =>
    cases stack with
    | nil => exact ⟨h.waiting, h.pending.2.trans h.pending.1.symm⟩
    | cons i stack =>
      by_cases hslot : i = p.code.size
      · subst hslot
        rw [sweep_drop h.met]
        cases ht : t.seen.getD p.code.size true with
        | true =>
          rw [sweep_drop ht]
          exact ih h hsize hfront
        | false =>
          have hbefore : before ≠ none := fun hnone => by cases ht.symm.trans (hfront hnone)
          have honward : (Instr.look .textStart p.entry).onward before after = [] := by
            simp [Instr.onward, Look.holds, hbefore]
          rw [sweep_meet ht p.code_atFront (by simp), honward]
          exact ih (h.meet_slot _ _) hsize fun hnone => absurd hnone hbefore
      · cases hi : s.seen.getD i true with
        | true =>
          rw [sweep_drop hi, sweep_drop ((h.elsewhere i hslot).trans hi)]
          exact ih h hsize hfront
        | false =>
          have ht := (h.elsewhere i hslot).trans hi
          have hlt : i < p.code.size := by
            by_contra hge
            simp [Array.getD, hsize, hge] at hi
          have hcode : p.atFront.code.getD i .accept = p.code.getD i .accept := by
            simp [atFront, Array.getD_eq_getD_getElem?, Array.getElem?_push_lt, hlt]
          by_cases hins : p.code.getD i .accept = .accept
          · rw [sweep_accept hi hins, sweep_accept ht (hcode.trans hins)]
            exact ⟨h.waiting, rfl⟩
          · rw [sweep_meet hi rfl hins, sweep_meet ht hcode hins]
            refine ih (h.meet _) (by simpa [Program.meet] using hsize) fun hnone => ?_
            simp only [Program.meet, getD_setIfInBounds, hfront hnone, ite_self]

theorem getD_seen_noSweep (p : Program) (i : Nat) : p.noSweep.seen.getD i true = decide (p.code.size ≤ i) := by
  by_cases hi : p.code.size ≤ i
  · simp [noSweep, Array.getD, hi]
  · simp [noSweep, Array.getD, hi, Nat.lt_of_not_le hi]

theorem pending_noSweep (p : Program) (reached : List Nat) :
    pending reached p.noSweep < p.sweepBound reached.length := by
  simp [pending, noSweep, sweepBound]

theorem size_atFront (p : Program) : p.atFront.code.size = p.code.size + 1 := Array.size_push _

theorem aside_noSweep (p : Program) : Aside p.code.size p.noSweep p.atFront.noSweep where
  waiting := rfl
  pending := ⟨rfl, rfl⟩
  elsewhere i hi := by
    simp only [getD_seen_noSweep, size_atFront, decide_eq_decide]
    omega
  met := by simp only [getD_seen_noSweep, Nat.le_refl, decide_true]

theorem sweepBound_atFront (p : Program) (n : Nat) : p.atFront.sweepBound n = (p.sweepBound n + 1) + 1 := by
  simp only [sweepBound, size_atFront]
  omega

/-- A sweep further in is the sweep of the program without the instruction in front. -/
theorem sweep_atFront_start (p : Program) {before : Option Char} (hbefore : before ≠ none) (after : Option Char)
    (reached : List Nat) :
    let s := p.sweep before after (p.sweepBound reached.length) reached p.noSweep
    let t := p.atFront.sweep before after (p.atFront.sweepBound reached.length) reached p.atFront.noSweep
    t.waiting = s.waiting ∧ t.accepted = s.accepted := by
  have hbound : p.sweepBound reached.length ≤ p.atFront.sweepBound reached.length := by
    rw [sweepBound_atFront]
    omega
  simp only [← sweep_of_le (p.pending_noSweep reached) hbound]
  exact sweep_atFront p.aside_noSweep (by simp [noSweep]) fun hnone => absurd hnone hbefore

/-- The first sweep at the front goes on from the assertion to the program behind it. -/
theorem sweep_atFront_entry (p : Program) (after : Option Char) :
    let s := p.sweep none after (p.sweepBound 1) [p.entry] p.noSweep
    let t := p.atFront.sweep none after (p.atFront.sweepBound 1) [p.atFront.entry] p.atFront.noSweep
    t.waiting = s.waiting ∧ t.accepted = s.accepted := by
  have hnot : p.atFront.noSweep.seen.getD p.code.size true = false := by
    rw [getD_seen_noSweep, size_atFront, decide_eq_false_iff_not]
    omega
  have hmeet : p.atFront.sweep none after (p.atFront.sweepBound 1) [p.atFront.entry] p.atFront.noSweep =
      p.atFront.sweep none after (p.sweepBound 1 + 1) [p.entry]
        (meet p.code.size (.look .textStart p.entry) p.atFront.noSweep) :=
    p.sweepBound_atFront 1 ▸ sweep_meet hnot p.code_atFront (by simp)
  have hpending : pending [p.entry] p.noSweep < p.sweepBound 1 := p.pending_noSweep [p.entry]
  simp only [hmeet, ← sweep_of_le hpending (Nat.le_succ _)]
  refine sweep_atFront (p.aside_noSweep.meet_slot _ _) (by simp [noSweep]) fun _ => ?_
  simp only [meet, getD_setIfInBounds, if_pos]

/-! ## runs and searches -/

theorem run_atFront (p : Program) {before : Option Char} (hbefore : before ≠ none) (text : List Char)
    (reached : List Nat) (taken : Nat) (best : Option Nat) :
    p.atFront.run before text reached taken best = p.run before text reached taken best := by
  induction text generalizing before reached taken best with
  | nil =>
    obtain ⟨-, haccepted⟩ := p.sweep_atFront_start hbefore none reached
    simp only [run, haccepted]
  | cons c cs ih =>
    cases reached with
    | nil => rfl
    | cons i reached =>
      obtain ⟨hwaiting, haccepted⟩ := p.sweep_atFront_start hbefore (some c) (i :: reached)
      simp only [run, Sweep.after, hwaiting, haccepted, ih (Option.some_ne_none c)]

/-- **At the front of an input** the same match is preferred with the assertion as without it. -/
theorem matchAt?_atFront (p : Program) (text : List Char) :
    p.atFront.matchAt? none text = p.matchAt? none text := by
  cases text with
  | nil =>
    obtain ⟨-, haccepted⟩ := p.sweep_atFront_entry none
    simp only [matchAt?, run, List.length_singleton, haccepted]
  | cons c cs =>
    obtain ⟨hwaiting, haccepted⟩ := p.sweep_atFront_entry (some c)
    simp only [matchAt?, run, List.length_singleton, Sweep.after, hwaiting, haccepted,
      p.run_atFront (Option.some_ne_none c)]

/-- Behind the front there is no match. -/
theorem matchAt?_atFront_behind (f : Form) (c : Char) (text : List Char) :
    f.program.atFront.matchAt? (some c) text = none := by
  rw [← program_atFront]
  by_contra hsome
  obtain ⟨q, hq⟩ := ((Form.atFront [f]).program.isSome_matchAt? ⟨some c, text⟩).1 (Option.isSome_iff_ne_none.2 hsome)
  cases Form.before_of_takes_atFront ((Form.accepts_program _ _ _).1 hq)

theorem searchFrom?_atFront_behind (f : Form) (c : Char) (start : Nat) (text : List Char) :
    f.program.atFront.searchFrom? (some c) start text = none := by
  induction text generalizing c start with
  | nil => rw [searchFrom?, matchAt?_atFront_behind, Option.map_none]
  | cons d text ih =>
    rw [searchFrom?, matchAt?_atFront_behind]
    exact ih d (start + 1)

theorem search?_program_atFront (f : Form) (text : List Char) :
    (Form.atFront [f]).program.search? text = (f.program.matchAt? none text).map fun n => (0, n) := by
  rw [program_atFront, ← matchAt?_atFront]
  cases text with
  | nil => rfl
  | cons c text =>
    rw [search?, searchFrom?]
    cases f.program.atFront.matchAt? none (c :: text) with
    | none => exact searchFrom?_atFront_behind f c 1 text
    | some n => rfl

/-- A search that has a match at the front answers with it. -/
theorem search?_eq_front {input : List Char} {n : Nat} :
    p.search? input = some (0, n) ↔ p.matchAt? none input = some n := by
  cases input with
  | nil => simp [search?, searchFrom?]
  | cons c cs =>
    cases hmatch : p.matchAt? none (c :: cs) with
    | some m => simp [search?, searchFrom?, hmatch]
    | none =>
      have hspec := p.searchFrom?_spec [c] cs
      simp only [search?, searchFrom?, hmatch]
      refine iff_of_false (fun hlater => ?_) (by simp)
      rw [List.getLast?_singleton, List.length_singleton, hlater] at hspec
      exact absurd hspec.1 (Nat.not_succ_le_zero 0)

/-- **Behind the assertion** those matches are found that the expression finds at the front, with the same length. -/
theorem search?_atFront {f : Form} {input : List Char} {k n : Nat} :
    (Form.atFront [f]).program.search? input = some (k, n) ↔ k = 0 ∧ f.program.search? input = some (0, n) := by
  rw [search?_program_atFront, search?_eq_front, Option.map_eq_some_iff]
  constructor
  · rintro ⟨m, hm, hpair⟩
    cases hpair
    exact ⟨rfl, hm⟩
  · rintro ⟨rfl, hn⟩
    exact ⟨n, hn, rfl⟩

end Program

end Lexicon.Expression
