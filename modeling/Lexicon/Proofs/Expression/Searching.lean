/-
A search finds the first place from which a match is accepted, and what it finds is such a match. A sweep meets every
instruction at most once, so where it turns away from one it has met, the match that starts there has to be found
another way. `Covered` says so with the number of steps to the end: from whatever was met, a match is accepted in
fewer steps from what is still listed or waiting. The list and the instructions not met shrink together, so the fuel
suffices (`pending`).

Each step of a sweep keeps the invariant and the matches that are still to come (`lives_drop`, `lives_meet`); a whole
sweep loses some only when it accepts a match itself (`sweep_lives`). So a run over a text has an answer exactly if a
match is to come (`isSome_run`), and its answer is the length of one (`run_eq_some`).

Results: `search?_eq_some`, `search?_eq_none`, `search?_at_front`.
-/
import Lexicon.Proofs.Expression.Making

namespace Lexicon.Expression

/-! ## matches to come -/

/-- behind the character that an instruction waits for, a match that ends at q is accepted n steps on -/
def WaitsIn (code : Array Instr) (n : Nat) (w : Instr) (p q : Place) : Prop :=
  ∃ c j r, w.after? c = some j ∧ p.Reads c r ∧ AcceptsIn code n j r q

/-- so it is from an instruction of a list or behind one that waits -/
def LivesIn (code : Array Instr) (p q : Place) (n : Nat) (stack : List Nat) (waiting : List Instr) : Prop :=
  (∃ i ∈ stack, AcceptsIn code n i p q) ∨ ∃ w ∈ waiting, WaitsIn code n w p q

/-- any number of steps on -/
def Lives (code : Array Instr) (p q : Place) (stack : List Nat) (waiting : List Instr) : Prop :=
  ∃ n, LivesIn code p q n stack waiting

section

variable {code : Array Instr} {p q : Place} {n i : Nat}

theorem livesIn_append {s t : List Nat} {v w : List Instr} :
    LivesIn code p q n (s ++ t) (v ++ w) ↔ LivesIn code p q n s v ∨ LivesIn code p q n t w := by
  simp only [LivesIn, List.mem_append, or_and_right, exists_or]
  exact or_or_or_comm

theorem livesIn_cons {s : List Nat} {w : List Instr} :
    LivesIn code p q n (i :: s) w ↔ AcceptsIn code n i p q ∨ LivesIn code p q n s w := by
  simp [LivesIn, or_assoc]

/-- where an instruction leads at once -/
def Instr.onward (before after : Option Char) : Instr → List Nat
  | .look l next => if l.holds before after then [next] else []
  | .split first second => [first, second]
  | _ => []

/-- the instruction itself, if it waits for a character -/
def Instr.kept : Instr → List Instr
  | .char c next => [.char c next]
  | .set s next => [.set s next]
  | _ => []

/-- What an instruction leads to is listed or waits. -/
theorem acceptsIn_succ {ins : Instr} (hi : code[i]? = some ins) :
    AcceptsIn code (n + 1) i p q ↔ LivesIn code p q n (ins.onward p.before p.rest.head?) ins.kept := by
  have hunfold : AcceptsIn code (n + 1) i p q ↔ ∃ j r, ins.Leads p j r ∧ AcceptsIn code n j r q := by
    constructor
    · rintro ⟨ins', j, r, hi', hlead, hq⟩
      obtain rfl := Option.some.inj (hi.symm.trans hi')
      exact ⟨j, r, hlead, hq⟩
    · rintro ⟨j, r, hlead, hq⟩
      exact ⟨ins, j, r, hi, hlead, hq⟩
  rw [hunfold]
  cases ins with
  | accept => simp [Instr.Leads, LivesIn, Instr.onward, Instr.kept]
  | char c next => simp [Instr.Leads, LivesIn, Instr.onward, Instr.kept, WaitsIn, Instr.after?]
  | set s next =>
    simp only [Instr.Leads, LivesIn, Instr.onward, Instr.kept, WaitsIn, Instr.after?]
    simp only [List.not_mem_nil, false_and, exists_false, false_or, List.mem_singleton, exists_eq_left,
      Option.ite_none_right_eq_some, Option.some.injEq]
    constructor
    · rintro ⟨j, r, ⟨hj, c, hc, hr⟩, hq⟩
      exact ⟨c, j, r, ⟨hc, hj.symm⟩, hr, hq⟩
    · rintro ⟨c, j, r, ⟨hc, hj⟩, hr, hq⟩
      exact ⟨j, r, ⟨hj.symm, c, hc, hr⟩, hq⟩
  | look l next =>
    by_cases hl : l.holds p.before p.rest.head? = true <;>
      simp [Instr.Leads, LivesIn, Instr.onward, Instr.kept, hl]
  | split first second => simp [Instr.Leads, LivesIn, Instr.onward, Instr.kept, or_and_right, exists_or]

theorem acceptsIn_pos {ins : Instr} (hi : code[i]? = some ins) (hins : ins ≠ .accept) (h : AcceptsIn code n i p q) :
    ∃ m, n = m + 1 := by
  obtain ⟨m, -, -, rfl, -, -⟩ := AcceptsIn.of_instr hi hins h
  exact ⟨m, rfl⟩

end

/-! ## one sweep -/

namespace Program

variable {p : Program} {place q : Place} {i : Nat} {ins : Instr} {stack : List Nat} {s : Sweep}

/-- what was met at a place is found from what is listed or waiting, in fewer steps; what is no instruction at all
counts as met -/
def Covered (p : Program) (place q : Place) (stack : List Nat) (s : Sweep) : Prop :=
  ∀ i n, s.seen.getD i true = true → AcceptsIn p.code n i place q → ∃ m < n, LivesIn p.code place q m stack s.waiting

/-- what bounds the steps left: the instructions listed, and two for every one not met -/
def pending (stack : List Nat) (s : Sweep) : Nat := stack.length + 2 * s.seen.count false

/-- a sweep that meets the instruction ins at i -/
def meet (i : Nat) (ins : Instr) (s : Sweep) : Sweep := ⟨s.seen.setIfInBounds i true, ins.kept ++ s.waiting, false⟩

theorem getD_setIfInBounds (seen : Array Bool) (i j : Nat) :
    (seen.setIfInBounds i true).getD j true = if j = i then true else seen.getD j true := by
  simp only [Array.getD_eq_getD_getElem?, Array.getElem?_setIfInBounds]
  split_ifs <;> simp_all

/-- an instruction that was met before is dropped -/
theorem Covered.drop (h : Covered p place q (i :: stack) s) (hi : s.seen.getD i true = true) :
    Covered p place q stack s := by
  intro j n hj haccepts
  -- the match may be left only from i again, but then in fewer steps
  induction n using Nat.strongRecOn generalizing j with
  | ind n ih =>
    obtain ⟨m, hm, hlives⟩ := h j n hj haccepts
    rcases livesIn_cons.1 hlives with hlast | hlives
    · obtain ⟨l, hl, hfound⟩ := ih m hm i hi hlast
      exact ⟨l, Nat.lt_trans hl hm, hfound⟩
    · exact ⟨m, hm, hlives⟩

theorem Covered.meet (h : Covered p place q (i :: stack) s) (hi : p.code[i]? = some ins) (hins : ins ≠ .accept) :
    Covered p place q (ins.onward place.before place.rest.head? ++ stack) (meet i ins s) := by
  have hthrough {n : Nat} (haccepts : AcceptsIn p.code n i place q) :
      ∃ m < n,
        LivesIn p.code place q m (ins.onward place.before place.rest.head? ++ stack) (ins.kept ++ s.waiting) := by
    obtain ⟨m, rfl⟩ := acceptsIn_pos hi hins haccepts
    exact ⟨m, Nat.lt_succ_self m, livesIn_append.2 (Or.inl ((acceptsIn_succ hi).1 haccepts))⟩
  intro j n hj haccepts
  simp only [Program.meet, getD_setIfInBounds] at hj
  split_ifs at hj with hji
  · subst hji
    exact hthrough haccepts
  · obtain ⟨m, hm, hlives⟩ := h j n hj haccepts
    rcases livesIn_cons.1 hlives with hlast | hlives
    · obtain ⟨l, hl, hfound⟩ := hthrough hlast
      exact ⟨l, Nat.lt_trans hl hm, hfound⟩
    · exact ⟨m, hm, livesIn_append.2 (Or.inr hlives)⟩

theorem lives_drop (h : Covered p place q (i :: stack) s) (hi : s.seen.getD i true = true) :
    Lives p.code place q (i :: stack) s.waiting ↔ Lives p.code place q stack s.waiting := by
  constructor
  · rintro ⟨n, hn⟩
    rcases livesIn_cons.1 hn with haccepts | hlives
    · obtain ⟨m, -, hlives⟩ := h.drop hi i n hi haccepts
      exact ⟨m, hlives⟩
    · exact ⟨n, hlives⟩
  · rintro ⟨n, hn⟩
    exact ⟨n, livesIn_cons.2 (Or.inr hn)⟩

theorem lives_meet (hi : p.code[i]? = some ins) (hins : ins ≠ .accept) :
    Lives p.code place q (i :: stack) s.waiting ↔
      Lives p.code place q (ins.onward place.before place.rest.head? ++ stack) (meet i ins s).waiting := by
  constructor
  · rintro ⟨n, hn⟩
    rcases livesIn_cons.1 hn with haccepts | hlives
    · obtain ⟨m, rfl⟩ := acceptsIn_pos hi hins haccepts
      exact ⟨m, livesIn_append.2 (Or.inl ((acceptsIn_succ hi).1 haccepts))⟩
    · exact ⟨n, livesIn_append.2 (Or.inr hlives)⟩
  · rintro ⟨n, hn⟩
    rcases livesIn_append.1 hn with hlives | hlives
    · exact ⟨n + 1, livesIn_cons.2 (Or.inl ((acceptsIn_succ hi).2 hlives))⟩
    · exact ⟨n, livesIn_cons.2 (Or.inr hlives)⟩

/-- an instruction met for the first time costs one step and lists at most two others -/
theorem pending_meet {before after : Option Char} (ins : Instr) (hi : s.seen.getD i true = false) :
    pending (ins.onward before after ++ stack) (meet i ins s) < pending (i :: stack) s := by
  have hlt : i < s.seen.size := by
    by_contra hge
    simp [Array.getD, hge] at hi
  have hfalse : s.seen[i] = false := by simpa [Array.getD, hlt] using hi
  have hcount : 0 < s.seen.count false := Array.count_pos_iff.2 (hfalse ▸ Array.getElem_mem hlt)
  have hlist : (ins.onward before after).length ≤ 2 := by
    cases ins with
    | look l next => simp only [Instr.onward]; split_ifs <;> simp
    | _ => simp [Instr.onward]
  simp only [pending, meet, List.length_append, List.length_cons, Array.setIfInBounds, hlt, dif_pos, Array.count_set,
    hfalse]
  simp
  omega

section

variable {before after : Option Char} {fuel : Nat}

theorem sweep_drop (hi : s.seen.getD i true = true) :
    p.sweep before after (fuel + 1) (i :: stack) s = p.sweep before after fuel stack s := by
  simp [sweep, hi]

theorem sweep_accept (hi : s.seen.getD i true = false) (hins : p.code.getD i .accept = .accept) :
    p.sweep before after (fuel + 1) (i :: stack) s = ⟨s.seen.setIfInBounds i true, s.waiting, true⟩ := by
  simp [sweep, hi, hins]

theorem sweep_meet (hi : s.seen.getD i true = false) (hins : p.code.getD i .accept = ins) (hne : ins ≠ .accept) :
    p.sweep before after (fuel + 1) (i :: stack) s =
      p.sweep before after fuel (ins.onward before after ++ stack) (meet i ins s) := by
  cases ins with
  | accept => exact absurd rfl hne
  | look l next =>
    by_cases hl : l.holds before after = true <;> simp [sweep, hi, hins, hl, Instr.onward, Instr.kept, meet]
  | _ => simp [sweep, hi, hins, Instr.onward, Instr.kept, meet]

end

/-- what becomes of the matches to come from a list: a sweep that accepts has one that ends where it stands; what waits
in the end leads to no others, and to all of them if nothing was accepted -/
structure Keeps (p : Program) (place : Place) (stack : List Nat) (waiting : List Instr) (t : Sweep) : Prop where
  accepts : t.accepted = true → Lives p.code place place stack waiting
  sound : ∀ q, Lives p.code place q [] t.waiting → Lives p.code place q stack waiting
  complete : t.accepted = false → ∀ q, Lives p.code place q stack waiting → Lives p.code place q [] t.waiting

theorem Keeps.of_iff {stack' : List Nat} {waiting waiting' : List Instr} {t : Sweep}
    (h : Keeps p place stack' waiting' t)
    (hiff : ∀ q, Lives p.code place q stack waiting ↔ Lives p.code place q stack' waiting') :
    Keeps p place stack waiting t where
  accepts ht := (hiff place).2 (h.accepts ht)
  sound q hq := (hiff q).2 (h.sound q hq)
  complete ht q hq := h.complete ht q ((hiff q).1 hq)

/-- **A sweep keeps the matches to come.** -/
theorem sweep_lives {fuel : Nat} (hsize : s.seen.size = p.code.size) (hcovered : ∀ q, Covered p place q stack s)
    (hnot : s.accepted = false) (hfuel : pending stack s < fuel) :
    Keeps p place stack s.waiting (p.sweep place.before place.rest.head? fuel stack s) := by
  induction fuel generalizing stack s with
  | zero => omega
  | succ fuel ih =>
    cases stack with
    | nil =>
      refine ⟨fun h => ?_, fun q hq => hq, fun _ q hq => hq⟩
      exact absurd (hnot.symm.trans h) (by simp)
    | cons i stack =>
      cases hi : s.seen.getD i true with
      | true =>
        have hpending : pending stack s < fuel := by
          simp only [pending, List.length_cons] at hfuel ⊢
          omega
        rw [sweep_drop hi]
        exact (ih hsize (fun q => (hcovered q).drop hi) hnot hpending).of_iff fun q => lives_drop (hcovered q) hi
      | false =>
        have hlt : i < p.code.size := by
          by_contra hge
          simp [Array.getD, hsize, hge] at hi
        have hcode : p.code[i]? = some (p.code.getD i .accept) := by simp [Array.getD, hlt]
        cases hins : p.code.getD i .accept with
        | accept =>
          rw [hins] at hcode
          rw [sweep_accept hi hins]
          refine ⟨fun _ => ⟨0, livesIn_cons.2 (Or.inl ⟨hcode, rfl⟩)⟩, ?_, fun h => by cases h⟩
          rintro q ⟨n, ⟨j, hj, -⟩ | hwaits⟩
          · cases hj
          · exact ⟨n, Or.inr hwaits⟩
        | _ =>
          rw [hins] at hcode
          rw [sweep_meet hi hins (by simp)]
          refine (ih ?_ (fun q => (hcovered q).meet hcode (by simp)) rfl ?_).of_iff
            fun q => lives_meet hcode (by simp)
          · simpa [meet] using hsize
          · exact Nat.lt_of_lt_of_le (pending_meet _ hi) (Nat.le_of_lt_succ hfuel)

/-- a sweep as a run starts it -/
theorem sweep_lives_start (p : Program) (place : Place) (reached : List Nat) :
    Keeps p place reached []
      (p.sweep place.before place.rest.head? (p.sweepBound reached.length) reached p.noSweep) := by
  have hcovered (q : Place) : Covered p place q reached p.noSweep := by
    intro i n hi hq
    -- nothing was met, so the instruction is none
    have hnone : p.code[i]? = none := by
      by_contra hsome
      have hlt : i < p.code.size := by simpa using hsome
      simp [noSweep, Array.getD, hlt] at hi
    cases n with
    | zero => exact absurd (hnone.symm.trans hq.1) (by simp)
    | succ n =>
      obtain ⟨ins, -, -, hins, -⟩ := hq
      exact absurd (hnone.symm.trans hins) (by simp)
  refine sweep_lives (by simp [noSweep]) hcovered rfl ?_
  simp [pending, noSweep, sweepBound]

/-! ## runs -/

theorem lives_end (before : Option Char) (waiting : List Instr) : ¬ Lives p.code ⟨before, []⟩ q [] waiting := by
  rintro ⟨n, ⟨i, hi, -⟩ | ⟨w, -, c, j, r, -, hreads, -⟩⟩
  · cases hi
  · cases hreads.1

/-- What waits goes on behind the next character. -/
theorem lives_after (before : Option Char) (c : Char) (cs : List Char) (s : Sweep) :
    Lives p.code ⟨before, c :: cs⟩ q [] s.waiting ↔ Lives p.code ⟨some c, cs⟩ q (s.after c) [] := by
  simp only [Lives, LivesIn, Sweep.after, List.not_mem_nil, false_and, exists_false, false_or, or_false, WaitsIn,
    List.mem_filterMap, List.mem_reverse]
  refine exists_congr fun n => ?_
  constructor
  · rintro ⟨w, hw, d, j, r, hafter, ⟨hrest, hbefore⟩, hq⟩
    obtain ⟨rfl, rfl⟩ := List.cons.inj hrest
    exact ⟨j, ⟨w, hw, hafter⟩, hbefore ▸ hq⟩
  · rintro ⟨j, ⟨w, hw, hafter⟩, hq⟩
    exact ⟨w, hw, c, j, ⟨some c, cs⟩, hafter, ⟨rfl, rfl⟩, hq⟩

/-- A run has an answer if it had one before or a match is to come. -/
theorem isSome_run (before : Option Char) (text : List Char) (reached : List Nat) (taken : Nat) (best : Option Nat) :
    (p.run before text reached taken best).isSome = true ↔
      best.isSome = true ∨ ∃ q, Lives p.code ⟨before, text⟩ q reached [] := by
  induction text generalizing before reached taken best with
  | nil =>
    have hkeeps := p.sweep_lives_start ⟨before, []⟩ reached
    simp only [run]
    split_ifs with h
    · simp only [Option.isSome_some, true_iff]
      exact Or.inr ⟨_, hkeeps.accepts h⟩
    · have hnone (q : Place) : ¬ Lives p.code ⟨before, []⟩ q reached [] :=
        fun hq => lives_end before _ (hkeeps.complete (Bool.not_eq_true _ ▸ h) q hq)
      simp [hnone]
  | cons c cs ih =>
    cases reached with
    | nil => simp [run, Lives, LivesIn]
    | cons i reached =>
      have hkeeps := p.sweep_lives_start ⟨before, c :: cs⟩ (i :: reached)
      simp only [run, ih, ← lives_after before]
      split_ifs with h
      · simp only [Option.isSome_some, true_or, true_iff]
        exact Or.inr ⟨_, hkeeps.accepts h⟩
      · refine or_congr_right (exists_congr fun q => ⟨hkeeps.sound q, ?_⟩)
        exact hkeeps.complete (Bool.not_eq_true _ ▸ h) q

/-- The answer of a run is the one it had before or the length of a match to come. -/
theorem run_eq_some {before : Option Char} {text : List Char} {reached : List Nat} {taken n : Nat} {best : Option Nat}
    (h : p.run before text reached taken best = some n) :
    best = some n ∨
      ∃ m ≤ text.length, n = taken + m ∧ ∃ q, q.rest = text.drop m ∧ Lives p.code ⟨before, text⟩ q reached [] := by
  induction text generalizing before reached taken best with
  | nil =>
    have hkeeps := p.sweep_lives_start ⟨before, []⟩ reached
    simp only [run] at h
    split_ifs at h with hsweep
    · exact Or.inr ⟨0, Nat.le_refl 0, (Option.some.inj h).symm, _, rfl, hkeeps.accepts hsweep⟩
    · exact Or.inl h
  | cons c cs ih =>
    cases reached with
    | nil => exact Or.inl h
    | cons i reached =>
      have hkeeps := p.sweep_lives_start ⟨before, c :: cs⟩ (i :: reached)
      rcases ih h with hbest | ⟨m, hm, rfl, q, hq, hlives⟩
      · split_ifs at hbest with hsweep
        · exact Or.inr ⟨0, Nat.zero_le _, (Option.some.inj hbest).symm, _, rfl, hkeeps.accepts hsweep⟩
        · exact Or.inl hbest
      · refine Or.inr ⟨m + 1, Nat.succ_le_succ hm, by omega, q, hq, hkeeps.sound q ?_⟩
        exact (lives_after before c cs _).2 hlives

/-- whether a match starts at a place -/
def MatchesAt (p : Program) (place : Place) : Prop := ∃ q, Accepts p.code p.entry place q

theorem lives_entry (place q : Place) : Lives p.code place q [p.entry] [] ↔ Accepts p.code p.entry place q := by
  simp [Lives, LivesIn, Accepts]

/-- **A match is found at a place exactly if one is accepted from it.** -/
theorem isSome_matchAt? (p : Program) (place : Place) :
    (p.matchAt? place.before place.rest).isSome = true ↔ p.MatchesAt place := by
  rw [matchAt?, isSome_run]
  simp only [Option.isSome_none, Bool.false_eq_true, false_or, lives_entry]
  rfl

theorem matchAt?_eq_some {n : Nat} (h : p.matchAt? place.before place.rest = some n) :
    n ≤ place.rest.length ∧ ∃ q, q.rest = place.rest.drop n ∧ Accepts p.code p.entry place q := by
  rcases run_eq_some h with hbest | ⟨m, hm, rfl, q, hq, hlives⟩
  · cases hbest
  · rw [Nat.zero_add]
    exact ⟨hm, q, hq, (lives_entry place q).1 hlives⟩

/-! ## searches -/

/-- A search that is some way into an input answers with the first place that is left and has a match, or with none. -/
theorem searchFrom?_spec (front text : List Char) :
    match p.searchFrom? front.getLast? front.length text with
    | some (k, n) =>
      front.length ≤ k ∧ k ≤ (front ++ text).length ∧
        (let place := Place.inside (front ++ text) k; p.matchAt? place.before place.rest = some n) ∧
        ∀ j, front.length ≤ j → j < k → ¬ p.MatchesAt (.inside (front ++ text) j)
    | none => ∀ j, front.length ≤ j → j ≤ (front ++ text).length → ¬ p.MatchesAt (.inside (front ++ text) j) := by
  induction text generalizing front with
  | nil =>
    have hmatch := p.isSome_matchAt? (.inside (front ++ []) front.length)
    rw [Place.inside_append] at hmatch
    simp only [searchFrom?]
    cases h : p.matchAt? front.getLast? [] with
    | some n =>
      refine ⟨Nat.le_refl _, by simp, by rw [Place.inside_append]; exact h, fun j hj hlt => ?_⟩
      omega
    | none =>
      intro j hj hle
      obtain rfl : j = front.length := by simp at hle; omega
      rw [Place.inside_append]
      exact fun hm => by simpa [h] using hmatch.2 hm
  | cons c cs ih =>
    have hmatch := p.isSome_matchAt? (.inside (front ++ c :: cs) front.length)
    have hrest := ih (front ++ [c])
    simp only [searchFrom?]
    cases h : p.matchAt? front.getLast? (c :: cs) with
    | some n =>
      refine ⟨Nat.le_refl _, by simp, by rw [Place.inside_append]; exact h, fun j hj hlt => ?_⟩
      omega
    | none =>
      have hfail : ¬ p.MatchesAt (.inside (front ++ c :: cs) front.length) := fun hm => by
        have hsome := hmatch.2 hm
        rw [Place.inside_append, h] at hsome
        cases hsome
      have hfirst {j : Nat} (hj : front.length ≤ j) : j = front.length ∨ front.length + 1 ≤ j := by omega
      simp only [List.getLast?_concat, List.length_append, List.length_singleton, List.append_assoc,
        List.singleton_append] at hrest
      cases hlater : p.searchFrom? (some c) (front.length + 1) cs with
      | some r =>
        obtain ⟨k, n⟩ := r
        rw [hlater] at hrest
        obtain ⟨hk, hle, hm, hbefore⟩ := hrest
        refine ⟨Nat.le_of_succ_le hk, by simpa using hle, hm, fun j hj hlt => ?_⟩
        rcases hfirst hj with rfl | hj
        · exact hfail
        · exact hbefore j hj hlt
      | none =>
        rw [hlater] at hrest
        intro j hj hle
        rcases hfirst hj with rfl | hj
        · exact hfail
        · exact hrest j hj (by simpa using hle)

/-- **A search answers with a match at the first place that has one.** -/
theorem search?_eq_some {input : List Char} {k n : Nat} (h : p.search? input = some (k, n)) :
    k + n ≤ input.length ∧ (∃ q, q.rest = input.drop (k + n) ∧ Accepts p.code p.entry (.inside input k) q) ∧
      ∀ j < k, ¬ p.MatchesAt (.inside input j) := by
  have hspec := p.searchFrom?_spec [] input
  change match p.search? input with | some (k, n) => _ | none => _ at hspec
  rw [h] at hspec
  obtain ⟨-, hle, hm, hbefore⟩ := hspec
  obtain ⟨hn, q, hq, haccepts⟩ := matchAt?_eq_some hm
  simp only [Place.inside, List.nil_append, List.length_drop, List.drop_drop] at hn hle hq
  exact ⟨by omega, ⟨q, hq, haccepts⟩, fun j hj => hbefore j (Nat.zero_le j) hj⟩

/-- It has no answer only if there is none. -/
theorem search?_eq_none {input : List Char} (h : p.search? input = none) {j : Nat} (hj : j ≤ input.length) :
    ¬ p.MatchesAt (.inside input j) := by
  have hspec := p.searchFrom?_spec [] input
  change match p.search? input with | some (k, n) => _ | none => _ at hspec
  rw [h] at hspec
  exact hspec j (Nat.zero_le j) hj

/-- All matches found in an input start at its front exactly if there is a match there whenever there is one at all. -/
theorem search?_at_front (p : Program) (input : List Char) :
    (∀ k n, p.search? input = some (k, n) → k = 0) ↔
      ∀ j, 0 < j → j ≤ input.length → p.MatchesAt (.inside input j) → p.MatchesAt (.inside input 0) := by
  constructor
  · intro hfront j hpos hle hm
    cases h : p.search? input with
    | none => exact absurd hm (search?_eq_none h hle)
    | some r =>
      obtain ⟨k, n⟩ := r
      obtain rfl := hfront k n h
      obtain ⟨-, ⟨q, -, hq⟩, -⟩ := search?_eq_some h
      exact ⟨q, hq⟩
  · intro hm k n h
    obtain ⟨hle, ⟨q, -, hq⟩, hbefore⟩ := search?_eq_some h
    by_contra hne
    have hpos := Nat.pos_of_ne_zero hne
    exact hbefore 0 hpos (hm k hpos (by omega) ⟨q, hq⟩)

end Program

end Lexicon.Expression
