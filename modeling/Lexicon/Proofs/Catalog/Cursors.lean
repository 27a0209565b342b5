/-
Cursors moved in any order. A cursor on its own leaves a record, each move with its answer; among others it has a share
in what was asked and answered. A move concerns the cursor it names, so a share is the record of the same moves made
alone (`share_runAll`). Along a record nothing is lost and nothing comes twice: what came out at the front, what is
left, and what came out at the back in reverse are the entries in order, wherever the two ends meet (`handed_record`).

Results: `cursors_lossless`, for any number of cursors over one catalog and any order of moves.
-/
import Lexicon.Proofs.Catalog.Views
import Lexicon.Scalar

namespace Lexicon.Cursor

variable {α : Type}

/-! ## one cursor -/

/-- moves of a cursor, each with its answer -/
def record (c : Cursor α) : List Move → List (Move × Answer α)
  | [] => []
  | m :: ms => (m, (c.step m).1) :: record (c.step m).2 ms

/-- the cursor that moves leave behind -/
def after (c : Cursor α) (ms : List Move) : Cursor α := ms.foldl (fun c m => (c.step m).2) c

/-- the entry that came out by one kind of move -/
def out? (kind : Move) : Move × Answer α → Option (Key × α)
  | (m, .entry e) => if m = kind then e else none
  | _ => none

/-- the entries that came out by one kind of move, in order -/
def handed (kind : Move) (told : List (Move × Answer α)) : List (Key × α) := told.filterMap (out? kind)

/-- A move hands out an entry at one of the ends, or hands out nothing and leaves the cursor as it is. -/
theorem step_cases (c : Cursor α) (m : Move) :
    (∃ e rest, m = .next ∧ c.left = e :: rest ∧ c.step m = (.entry (some e), ⟨rest⟩)) ∨
      (∃ e rest, m = .nextBack ∧ c.left = rest ++ [e] ∧ c.step m = (.entry (some e), ⟨rest⟩)) ∨
      (c.step m).2 = c ∧ ∀ kind, out? kind (m, (c.step m).1) = none := by
  obtain ⟨left⟩ := c
  cases m with
  | next =>
    cases left with
    | nil => exact Or.inr (Or.inr ⟨rfl, fun kind => by simp [step, next, out?]⟩)
    | cons e rest => exact Or.inl ⟨e, rest, rfl, rfl, rfl⟩
  | nextBack =>
    rcases List.eq_nil_or_concat left with rfl | ⟨rest, e, rfl⟩
    · exact Or.inr (Or.inr ⟨rfl, fun kind => by simp [step, nextBack, out?]⟩)
    · exact Or.inr (Or.inl ⟨e, rest, rfl, by simp, by simp [step, nextBack]⟩)
  | size => exact Or.inr (Or.inr ⟨rfl, fun kind => rfl⟩)
  | sizeHint => exact Or.inr (Or.inr ⟨rfl, fun kind => rfl⟩)

theorem handed_cons (kind : Move) (a : Move × Answer α) (told : List (Move × Answer α)) :
    handed kind (a :: told) = (out? kind a).toList ++ handed kind told := by
  unfold handed
  rw [List.filterMap_cons]
  cases out? kind a <;> rfl

/-- **Nothing is lost, nothing comes twice**, however many entries came out at either end. -/
theorem handed_record (c : Cursor α) (ms : List Move) :
    handed .next (c.record ms) ++ (c.after ms).left ++ (handed .nextBack (c.record ms)).reverse = c.left := by
  induction ms generalizing c with
  | nil => simp [record, after, handed]
  | cons m ms ih =>
    have hlater := ih (c.step m).2
    have hafter : c.after (m :: ms) = (c.step m).2.after ms := rfl
    rw [record, handed_cons, handed_cons, hafter]
    rcases step_cases c m with ⟨e, rest, rfl, hleft, hstep⟩ | ⟨e, rest, rfl, hleft, hstep⟩ | ⟨hsame, hout⟩
    · -- the entry joins those that came out at the front
      rw [hstep] at hlater ⊢
      simp only [out?, if_true, reduceCtorEq, if_false, Option.toList_some, Option.toList_none, List.nil_append,
        List.cons_append, hlater, hleft]
    · -- the entry is the last of those to be reversed
      rw [hstep] at hlater ⊢
      simp only [out?, if_true, reduceCtorEq, if_false, Option.toList_some, Option.toList_none, List.nil_append,
        List.singleton_append, List.reverse_cons, ← List.append_assoc, hlater, hleft]
    · rw [hsame] at hlater
      simpa only [hout, hsame, Option.toList_none, List.nil_append] using hlater

theorem step_of_exhausted {c : Cursor α} (h : c.left = []) (m : Move) :
    (c.step m).2 = c ∧ (m = .next ∨ m = .nextBack → (c.step m).1 = .entry none) := by
  obtain ⟨left⟩ := c
  obtain rfl : left = [] := h
  cases m <;> simp [step, next, nextBack]

/-- A cursor with nothing left hands out nothing any more. -/
theorem record_of_exhausted {c : Cursor α} (h : c.left = []) (ms : List Move) :
    ∀ told ∈ c.record ms, told.1 = .next ∨ told.1 = .nextBack → told.2 = .entry none := by
  induction ms with
  | nil => simp [record]
  | cons m ms ih =>
    obtain ⟨hsame, hnone⟩ := step_of_exhausted h m
    intro told htold
    rw [record, hsame, List.mem_cons] at htold
    rcases htold with rfl | htold
    · exact hnone
    · exact ih told htold

/-! ## cursors among others -/

/-- what the cursor with a number was asked -/
def asked (i : Nat) (moves : List (Nat × Move)) : List Move := (moves.filter fun q => q.1 = i).map Prod.snd

/-- what the cursor with a number was asked, each move with its answer -/
def share (i : Nat) (moves : List (Nat × Move)) (answers : List (Option (Answer α))) : List (Move × Answer α) :=
  (moves.zip answers).filterMap fun (q, a) => if q.1 = i then a.map fun a => (q.2, a) else none

theorem stepAt_self {cs : List (Cursor α)} {i : Nat} {c : Cursor α} (h : cs[i]? = some c) (m : Move) :
    stepAt cs i m = (some (c.step m).1, cs.set i (c.step m).2) := by
  simp [stepAt, h]

theorem stepAt_other {i j : Nat} (hj : j ≠ i) (cs : List (Cursor α)) (m : Move) :
    (stepAt cs j m).2[i]? = cs[i]? := by
  unfold stepAt
  cases cs[j]? with
  | none => rfl
  | some c => exact List.getElem?_set_ne hj

/-- A move that leaves its cursor as it is leaves all of them as they are. -/
theorem stepAt_same {cs : List (Cursor α)} {i : Nat} {c : Cursor α} (h : cs[i]? = some c) {m : Move}
    (hm : (c.step m).2 = c) : stepAt cs i m = (some (c.step m).1, cs) := by
  obtain ⟨hi, rfl⟩ := List.getElem?_eq_some_iff.1 h
  rw [stepAt_self h, hm, List.set_getElem_self]

/-- **A cursor among others answers as if it were alone.** -/
theorem share_runAll {cs : List (Cursor α)} {i : Nat} {c : Cursor α} (h : cs[i]? = some c)
    (moves : List (Nat × Move)) :
    share i moves (runAll cs moves).1 = c.record (asked i moves) ∧
      (runAll cs moves).2[i]? = some (c.after (asked i moves)) := by
  induction moves generalizing cs c with
  | nil => exact ⟨rfl, h⟩
  | cons q moves ih =>
    obtain ⟨j, m⟩ := q
    by_cases hj : j = i
    · subst hj
      obtain ⟨hi, -⟩ := List.getElem?_eq_some_iff.1 h
      have hset : (stepAt cs j m).2[j]? = some (c.step m).2 := by
        rw [stepAt_self h]
        exact List.getElem?_set_self hi
      obtain ⟨hshare, hcursor⟩ := ih hset
      have hanswer : (stepAt cs j m).1 = some (c.step m).1 := by rw [stepAt_self h]
      refine ⟨?_, ?_⟩
      · simpa [runAll, share, asked, record, hanswer] using hshare
      · simpa [runAll, asked, after] using hcursor
    · obtain ⟨hshare, hcursor⟩ := ih ((stepAt_other hj cs m).trans h)
      refine ⟨?_, ?_⟩
      · simpa [runAll, share, asked, hj] using hshare
      · simpa [runAll, asked, hj] using hcursor

theorem runAll_append (cs : List (Cursor α)) (before later : List (Nat × Move)) :
    runAll cs (before ++ later) =
      ((runAll cs before).1 ++ (runAll (runAll cs before).2 later).1, (runAll (runAll cs before).2 later).2) := by
  induction before generalizing cs with
  | nil => rfl
  | cons q before ih => simp [runAll, ih]

/-! ## cursors over one catalog -/

/-- cursors opened over a catalog -/
def opened (s : Catalog α) (n : Nat) : List (Cursor α) := List.replicate n (.of s)

/-- **Cursors neither lose, repeat nor interfere.** Of any number of cursors over a catalog, moved in any order, each
one answers what it would answer alone. What it handed out at the front, what it would still hand out, and what it
handed out at the back in reverse are the entries of the catalog in order; its size and both bounds are the number of
entries still to come; and when none are, both ways of moving it answer that there is nothing, whatever follows. -/
theorem cursors_lossless (s : Catalog α) {n i : Nat} (hi : i < n) (moves : List (Nat × Move)) :
    let run := runAll (opened s n) moves
    let told := share i moves run.1
    told = (Cursor.of s).record (asked i moves) ∧
      (∀ later, runAll (opened s n) (moves ++ later) = (run.1 ++ (runAll run.2 later).1, (runAll run.2 later).2)) ∧
      ∃ c left, run.2[i]? = some c ∧ Yields next c left ∧
        handed .next told ++ left ++ (handed .nextBack told).reverse = s.entries ∧
        stepAt run.2 i .size = (some (.size left.length), run.2) ∧
        stepAt run.2 i .sizeHint = (some (.sizeHint left.length (some left.length)), run.2) ∧
        (left = [] → ∀ later, ∀ a ∈ share i later (runAll run.2 later).1,
          a.1 = .next ∨ a.1 = .nextBack → a.2 = .entry none) := by
  intro run told
  have hopened : (opened s n)[i]? = some (Cursor.of s) := by simp [opened, hi]
  obtain ⟨htold, hcursor⟩ := share_runAll hopened moves
  set c := (Cursor.of s).after (asked i moves)
  refine ⟨htold, runAll_append _ moves, c, c.left, hcursor, yields_next c.left, ?_, ?_, ?_, fun hleft later => ?_⟩
  · have hentries := handed_record (.of s) (asked i moves)
    rwa [← htold] at hentries
  · exact stepAt_same hcursor rfl
  · exact stepAt_same hcursor rfl
  · rw [(share_runAll hcursor later).1]
    exact record_of_exhausted hleft _

/-- three characters -/
def letters : Catalog Scalar := .ofItems [.char 'a', .char 'b', .char 'c']

/-- moves of two cursors; the ends of the first one meet at the second letter -/
def crossing : List (Nat × Move) :=
  [(0, .next), (1, .nextBack), (0, .nextBack), (1, .next), (0, .size), (0, .nextBack), (0, .next)]

theorem crossing_lossless :
    let run := runAll (opened letters 2) crossing
    share 0 crossing run.1 =
        [(.next, .entry (some (.index 0, .char 'a'))), (.nextBack, .entry (some (.index 2, .char 'c'))),
          (.size, .size 1), (.nextBack, .entry (some (.index 1, .char 'b'))), (.next, .entry none)] ∧
      (∀ later, ∀ a ∈ share 0 later (runAll run.2 later).1, a.1 = .next ∨ a.1 = .nextBack → a.2 = .entry none) ∧
      handed .next (share 1 crossing run.1) ++ [(.index 1, .char 'b')] ++
        (handed .nextBack (share 1 crossing run.1)).reverse = letters.entries := by
  intro run
  obtain ⟨-, -, c, left, hc, hleft, -, -, -, hnothing⟩ := cursors_lossless letters (show 0 < 2 by decide) crossing
  obtain ⟨-, -, d, rest, hd, hrest, hentries, -⟩ := cursors_lossless letters (show 1 < 2 by decide) crossing
  obtain rfl : (⟨[]⟩ : Cursor Scalar) = c := Option.some.inj hc
  obtain rfl : (⟨[(.index 1, .char 'b')]⟩ : Cursor Scalar) = d := Option.some.inj hd
  refine ⟨rfl, hnothing (hleft.unique (yields_next _)), ?_⟩
  rwa [hrest.unique (yields_next _)] at hentries

end Lexicon.Cursor
