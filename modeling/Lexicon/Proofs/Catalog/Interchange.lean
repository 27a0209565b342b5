/-
One validator in the place of another. Two runs of the same operations start from the same entries, one under a
validator v, the other under w. A catalog of the first and its partner in the second are `Paired` when they hold the
same entries and have the same validator, or v here and w there. An operation consults the validator in force about the
item it is offered, and nothing else in a catalog depends on it; so each operation keeps the pairing and answers the
same, unless v refuses an item that w accepts (`perform_paired`).

Copies and selections hold copies of items. In a run each operation therefore comes with the way in which it copies,
which may depend on the position of an item; where items are their own copies this is the plain run (`runTasks_values`).

Results: `validators_interchangeable`. Validators with the same verdicts give the same run; so does a looser validator,
as long as the stricter one rejects nothing.
-/
import Mathlib.Data.List.Forall2
import Lexicon.Catalog.Workspace
import Lexicon.Proofs.Catalog.Changes
import Lexicon.Scalar

namespace Lexicon

/-- related options are both empty or hold related values -/
theorem rel_cases {β γ : Type} {r : β → γ → Prop} {a : Option β} {b : Option γ} (h : Option.Rel r a b) :
    a = none ∧ b = none ∨ ∃ x y, a = some x ∧ b = some y ∧ r x y := by
  cases h with
  | none => exact Or.inl ⟨rfl, rfl⟩
  | some hxy => exact Or.inr ⟨_, _, rfl, rfl, hxy⟩

/-! ## entries side by side -/

namespace Entries

variable {κ α : Type} [DecidableEq κ] {r : α → α → Prop} {es fs : Entries κ α}

/-- the same keys in the same order, with related items -/
def Paired (r : α → α → Prop) (es fs : Entries κ α) : Prop := List.Forall₂ (fun e f => f.1 = e.1 ∧ r e.2 f.2) es fs

theorem Paired.at? (h : Paired r es fs) (k : κ) : Option.Rel r (es.at? k) (fs.at? k) := by
  induction h with
  | nil => exact .none
  | @cons e f es fs hef _ ih =>
    obtain ⟨j, x⟩ := e
    obtain ⟨_, y⟩ := f
    obtain ⟨rfl, hxy⟩ := hef
    simp only [Entries.at?]
    split_ifs
    · exact .some hxy
    · exact ih

theorem Paired.put (h : Paired r es fs) (k : κ) {x y : α} (hxy : r x y) : Paired r (es.put k x) (fs.put k y) := by
  induction h with
  | nil => exact .cons ⟨rfl, hxy⟩ .nil
  | @cons e f es fs hef hrest ih =>
    obtain ⟨j, x'⟩ := e
    obtain ⟨_, y'⟩ := f
    obtain ⟨rfl, hxy'⟩ := hef
    simp only [Entries.put]
    split_ifs
    · exact .cons ⟨rfl, hxy⟩ hrest
    · exact .cons ⟨rfl, hxy'⟩ ih

theorem Paired.erase (h : Paired r es fs) (k : κ) : Paired r (es.erase k) (fs.erase k) := by
  induction h with
  | nil => exact .nil
  | @cons e f es fs hef hrest ih =>
    obtain ⟨j, x⟩ := e
    obtain ⟨_, y⟩ := f
    obtain ⟨rfl, hxy⟩ := hef
    simp only [Entries.erase]
    split_ifs
    · exact hrest
    · exact .cons ⟨rfl, hxy⟩ ih

/-- storing what is stored already changes nothing -/
theorem put_of_at? {k : κ} {x : α} (h : at? k es = some x) : put k x es = es := by
  induction es with
  | nil => cases h
  | cons e rest ih =>
    obtain ⟨j, y⟩ := e
    by_cases hj : j = k
    · have hxy : y = x := by simpa [at?, hj] using h
      simp [put, hj, hxy]
    · have hrest : at? k rest = some x := by simpa [at?, hj] using h
      simp [put, hj, ih hrest]

end Entries

/-! ## validators -/

namespace Validator

variable {α : Type} [Typed α]

/-- the verdicts are the same on every item -/
def Alike (v w : Validator α) : Prop := ∀ x, v.accepts x = w.accepts x

/-- the second accepts whatever the first accepts -/
def Within (v w : Validator α) : Prop := ∀ x, v.accepts x = true → w.accepts x = true

theorem Alike.within {v w : Validator α} (h : v.Alike w) : v.Within w := fun x hx => (h x).symm.trans hx

theorem alike_ofType (tag : TypeTag) : Alike (α := α) (.ofType tag) (.test fun x => isA x tag.text) := fun _ => rfl

theorem alike_free : Alike (α := α) .free (.test fun _ => true) := fun _ => rfl

theorem within_free (v : Validator α) : v.Within .free := fun _ _ => rfl

end Validator

/-- the failure is that of an item not accepted -/
def Failure.isRejection (f : Failure) : Bool :=
  match f.cause with
  | .invalidItem _ => true
  | _ => false

/-- the attempt fails because an item is not accepted -/
def Attempt.rejects {β : Type} (a : Attempt β) : Bool :=
  match a.result with
  | .error f => f.isRejection
  | .ok _ => false

theorem Attempt.rejects_andThen {β γ : Type} {a : Attempt β} (h : a.rejects = true) (next : β → Attempt γ) :
    (a.andThen next).rejects = true := by
  cases hr : a.result with
  | error f => simpa [rejects, andThen_of_error hr, hr] using h
  | ok b => simp [rejects, hr] at h

/-! ## catalogs side by side -/

namespace Catalog

variable {α : Type} [Typed α] {v w : Validator α} {s t : Catalog α}

/-- the same entries, and the same validator or w in the place of v -/
structure Paired (v w : Validator α) (s t : Catalog α) : Prop where
  entries : t.entries = s.entries
  validator : t.validator = s.validator ∨ s.validator = v ∧ t.validator = w

/-- the same outcome, and paired catalogs -/
structure PairedChange {β : Type} (v w : Validator α) (c d : Change α β) : Prop where
  outcome : d.outcome = c.outcome
  catalog : Paired v w c.catalog d.catalog

omit [Typed α] in
theorem Paired.refl (s : Catalog α) : Paired v w s s := ⟨rfl, Or.inl rfl⟩

/-- The verdicts in force agree on an item, unless v refuses it. -/
theorem Paired.accepts (h : Paired v w s t) (hvw : v.Within w) {x : α}
    (hx : s.validator = v → v.accepts x = false → v.Alike w) : t.validator.accepts x = s.validator.accepts x := by
  rcases h.validator with heq | ⟨hs, ht⟩
  · rw [heq]
  · rw [hs, ht]
    cases hv : v.accepts x with
    | true => exact hvw x hv
    | false => exact (hx hs hv x).symm.trans hv

theorem Paired.insert (h : Paired v w s t) (hvw : v.Within w) {k : Key} {x : α}
    (hx : s.validator = v → (s.insert k x).outcome.rejects = true → v.Alike w) :
    PairedChange v w (s.insert k x) (t.insert k x) := by
  have haccepts : t.validator.accepts x = s.validator.accepts x := by
    refine h.accepts hvw fun hs hv => hx hs ?_
    rw [insert_eq, hs, hv]
    rfl
  rw [insert_eq, insert_eq, haccepts, h.entries]
  split_ifs
  · exact ⟨rfl, rfl, h.validator⟩
  · exact ⟨rfl, h⟩

theorem Paired.push (h : Paired v w s t) (hvw : v.Within w) {x : α}
    (hx : s.validator = v → (s.push x).outcome.rejects = true → v.Alike w) :
    PairedChange v w (s.push x) (t.push x) := by
  have hnext : t.nextIndex = s.nextIndex := by simp only [nextIndex, keys, h.entries]
  rw [push_eq] at hx
  rw [push_eq, push_eq, hnext]
  cases hi : s.nextIndex with
  | error f => exact ⟨rfl, h⟩
  | ok i =>
    have haccepts : t.validator.accepts x = s.validator.accepts x := by
      refine h.accepts hvw fun hs hv => hx hs ?_
      rw [hi, hs, hv]
      rfl
    simp only [haccepts, h.entries]
    split_ifs
    · exact ⟨rfl, rfl, h.validator⟩
    · exact ⟨rfl, h⟩

omit [Typed α] in
theorem Paired.remove (h : Paired v w s t) (k : Key) : PairedChange v w (s.remove k) (t.remove k) := by
  unfold Catalog.remove
  rw [h.entries]
  exact ⟨rfl, rfl, h.validator⟩

theorem Paired.setValidator (h : Paired v w s t) (u : Validator α) :
    PairedChange v w (s.setValidator u) (t.setValidator u) := by
  rw [setValidator_eq, setValidator_eq, h.entries]
  cases u.offender? s.entries with
  | none => exact ⟨rfl, rfl, Or.inl rfl⟩
  | some e => exact ⟨rfl, h⟩

omit [Typed α] in
theorem Paired.filter (h : Paired v w s t) (p : α → Bool) : Paired v w (s.filter p) (t.filter p) := by
  refine ⟨?_, h.validator⟩
  simp only [Catalog.filter, h.entries]

end Catalog

/-! ## runs with copies -/

namespace Workspace

variable {α : Type}

/-- the slot that receives copies of items -/
def Op.copiesInto? : Op α → Option String
  | .copy _ into => some into
  | .filter _ into _ => some into
  | .exclude _ into _ => some into
  | _ => none

/-- copies in the place of the items in a slot; a copy may depend on its position -/
def recopy (copy : Nat → α → α) (ws : Workspace α) (into : String) : Workspace α :=
  match ws.at? into with
  | none => ws
  | some s => ws.put into ⟨s.keys.zip (s.itemCopies copy), s.validator⟩

/-- an operation, and how it copies items -/
abbrev Task (α : Type) := Op α × (Nat → α → α)

variable [Typed α]

/-- performs an operation and copies what it has to -/
def perform (ws : Workspace α) (task : Task α) : Workspace α × Option (Attempt (Answer α)) :=
  match ws.step task.1 with
  | none => (ws, none)
  | some (after, a) =>
    match task.1.copiesInto? with
    | none => (after, some a)
    | some into => (after.recopy task.2 into, some a)

/-- performs tasks in order, with what each of them answered and told the log -/
def runTasks (ws : Workspace α) : List (Task α) → Workspace α × List (Option (Attempt (Answer α)))
  | [] => (ws, [])
  | task :: tasks =>
    let later := runTasks (ws.perform task).1 tasks
    (later.1, (ws.perform task).2 :: later.2)

omit [Typed α] in
/-- values that are their own copies stay as they are -/
theorem recopy_values (ws : Workspace α) (into : String) : ws.recopy (fun _ x => x) into = ws := by
  unfold recopy
  cases hs : ws.at? into with
  | none => rfl
  | some s =>
    have hcopies : s.itemCopies (fun _ x => x) = s.items := List.zipIdx_map_fst 0 s.items
    have hentries : s.entries = s.keys.zip s.items := List.zip_of_prod rfl rfl
    simp only [hcopies, ← hentries]
    exact Entries.put_of_at? hs

/-- Where items are their own copies, tasks are a plain run. -/
theorem runTasks_values (ws : Workspace α) (ops : List (Op α)) :
    ws.runTasks (ops.map fun op => (op, fun _ x => x)) = ws.run ops := by
  induction ops generalizing ws with
  | nil => rfl
  | cons op ops ih =>
    have hperform : ws.perform (op, fun _ x => x) =
        match ws.step op with
        | none => (ws, none)
        | some (after, a) => (after, some a) := by
      unfold perform
      cases ws.step op with
      | none => rfl
      | some r => cases op.copiesInto? <;> simp only [recopy_values]
    rw [List.map_cons, runTasks, run, hperform]
    cases ws.step op with
    | none => simp only [ih]
    | some r => simp only [ih]

/-! ## workspaces side by side -/

variable {v w : Validator α} {ws ws' : Workspace α}

/-- the same slots, with paired catalogs -/
def Paired (v w : Validator α) (ws ws' : Workspace α) : Prop := Entries.Paired (Catalog.Paired v w) ws ws'

/-- the same answer, and paired workspaces -/
structure PairedStep (v w : Validator α) (r r' : Workspace α × Attempt (Answer α)) : Prop where
  answer : r'.2 = r.2
  workspace : Paired v w r.1 r'.1

omit [Typed α] in
theorem Paired.make (h : Paired v w ws ws') (into : String) {s t : Catalog α} (hst : s.Paired v w t) :
    PairedStep v w (ws.make into (.done s)) (ws'.make into (.done t)) :=
  ⟨rfl, h.put into hst⟩

omit [Typed α] in
theorem Paired.makeSame (h : Paired v w ws ws') (into : String) (a : Attempt (Catalog α)) :
    PairedStep v w (ws.make into a) (ws'.make into a) := by
  unfold Workspace.make
  cases a.result with
  | error f => exact ⟨rfl, h⟩
  | ok s => exact ⟨rfl, h.put into (.refl s)⟩

omit [Typed α] in
theorem Paired.change {β : Type} (h : Paired v w ws ws') (on : String) {c d : Change α β}
    (hcd : Catalog.PairedChange v w c d) (answer : β → Answer α) :
    PairedStep v w (ws.change on c answer) (ws'.change on d answer) := by
  refine ⟨?_, h.put on hcd.catalog⟩
  simp only [Workspace.change, hcd.outcome]

omit [Typed α] in
theorem Paired.onSlot (h : Paired v w ws ws') (on : String) {g g' : Catalog α → Workspace α × Attempt (Answer α)}
    (hg : ∀ s t, ws.at? on = some s → s.Paired v w t → PairedStep v w (g s) (g' t)) :
    Option.Rel (PairedStep v w) ((ws.at? on).map g) ((ws'.at? on).map g') := by
  rcases rel_cases (h.at? on) with ⟨hs, ht⟩ | ⟨s, t, hs, ht, hst⟩ <;> rw [hs, ht]
  · exact .none
  · exact .some (hg s t hs hst)

/-- the slot whose validator an operation consults -/
def Op.consults? : Op α → Option String
  | .insert on _ _ => some on
  | .push on _ => some on
  | _ => none

/-- an operation fails because v, in force in its slot, does not accept the item offered -/
def RejectsUnder (v : Validator α) (ws : Workspace α) (op : Op α) : Prop :=
  ∃ on s r, op.consults? = some on ∧ ws.at? on = some s ∧ s.validator = v ∧ ws.step op = some r ∧ r.2.rejects = true

theorem step_paired (hvw : v.Within w) (h : Paired v w ws ws') (op : Op α)
    (hop : RejectsUnder v ws op → v.Alike w) : Option.Rel (PairedStep v w) (ws.step op) (ws'.step op) := by
  cases op with
  | empty into => exact .some (h.makeSame into _)
  | ofItems into xs => exact .some (h.makeSame into _)
  | withValidator into xs u => exact .some (h.makeSame into _)
  | ofEntries into es u => exact .some (h.makeSame into _)
  | copy on into => exact h.onSlot on fun s t _ hst => h.make into hst
  | filter on into p => exact h.onSlot on fun s t _ hst => h.make into (hst.filter p)
  | exclude on into p => exact h.onSlot on fun s t _ hst => h.make into (hst.filter _)
  | insert on k x =>
    refine h.onSlot on fun s t hs hst => h.change on (hst.insert hvw fun hv hrejects => hop ?_) _
    exact ⟨on, s, _, rfl, hs, hv, congrArg (Option.map _) hs, Attempt.rejects_andThen hrejects _⟩
  | push on x =>
    refine h.onSlot on fun s t hs hst => h.change on (hst.push hvw fun hv hrejects => hop ?_) _
    exact ⟨on, s, _, rfl, hs, hv, congrArg (Option.map _) hs, Attempt.rejects_andThen hrejects _⟩
  | remove on k => exact h.onSlot on fun s t _ hst => h.change on (hst.remove k) _
  | setValidator on u =>
    refine h.onSlot on fun s t _ hst => ?_
    have hsize : t.size = s.size := congrArg List.length hst.entries
    rw [hsize]
    exact h.change on (hst.setValidator u) _
  | consume on =>
    refine h.onSlot on fun s t _ hst => ⟨?_, h.erase on⟩
    simp only [hst.entries]
  | get on k =>
    refine h.onSlot on fun s t _ hst => ⟨?_, h⟩
    simp only [Catalog.get, hst.entries]
  | containsKey on k =>
    refine h.onSlot on fun s t _ hst => ⟨?_, h⟩
    simp only [Catalog.containsKey, hst.entries]

omit [Typed α] in
theorem Paired.recopy (h : Paired v w ws ws') (copy : Nat → α → α) (into : String) :
    Paired v w (ws.recopy copy into) (ws'.recopy copy into) := by
  unfold Workspace.recopy
  rcases rel_cases (h.at? into) with ⟨hs, ht⟩ | ⟨s, t, hs, ht, hst⟩ <;> rw [hs, ht]
  · exact h
  · refine h.put into ⟨?_, hst.validator⟩
    simp only [Catalog.keys, Catalog.itemCopies, Catalog.items, hst.entries]

theorem perform_paired (hvw : v.Within w) (h : Paired v w ws ws') (task : Task α)
    (htask : RejectsUnder v ws task.1 → v.Alike w) :
    (ws'.perform task).2 = (ws.perform task).2 ∧ Paired v w (ws.perform task).1 (ws'.perform task).1 := by
  unfold perform
  rcases rel_cases (step_paired hvw h task.1 htask) with ⟨hs, ht⟩ | ⟨r, r', hs, ht, hr⟩ <;> rw [hs, ht]
  · exact ⟨rfl, h⟩
  · obtain ⟨after, a⟩ := r
    obtain ⟨after', a'⟩ := r'
    obtain rfl : a' = a := hr.answer
    cases task.1.copiesInto? with
    | none => exact ⟨rfl, hr.workspace⟩
    | some into => exact ⟨rfl, hr.workspace.recopy task.2 into⟩

/-- **A run in two places.** Paired workspaces stay paired and answer the same, where no task has an item refused by v
that w might accept. -/
theorem runTasks_paired (hvw : v.Within w) (h : Paired v w ws ws') (tasks : List (Task α))
    (htasks : ∀ n task, tasks[n]? = some task → RejectsUnder v (ws.runTasks (tasks.take n)).1 task.1 → v.Alike w) :
    (ws'.runTasks tasks).2 = (ws.runTasks tasks).2 ∧ Paired v w (ws.runTasks tasks).1 (ws'.runTasks tasks).1 := by
  induction tasks generalizing ws ws' with
  | nil => exact ⟨rfl, h⟩
  | cons task tasks ih =>
    obtain ⟨hanswer, hnext⟩ := perform_paired hvw h task (htasks 0 task rfl)
    obtain ⟨hanswers, hlast⟩ := ih hnext fun n later hlater => htasks (n + 1) later hlater
    simp only [runTasks, hanswer, hanswers, true_and]
    exact hlast

/-- the same answers, and after each step the same entries in the same slots, under the same validators or w in the
place of v -/
def SameRun (v w : Validator α) (ws ws' : Workspace α) (tasks : List (Task α)) : Prop :=
  (ws'.runTasks tasks).2 = (ws.runTasks tasks).2 ∧
    ∀ n, Paired v w (ws.runTasks (tasks.take n)).1 (ws'.runTasks (tasks.take n)).1

theorem Paired.sameRun (hvw : v.Within w) (h : Paired v w ws ws') (tasks : List (Task α))
    (htasks : ∀ n task, tasks[n]? = some task → RejectsUnder v (ws.runTasks (tasks.take n)).1 task.1 → v.Alike w) :
    SameRun v w ws ws' tasks := by
  refine ⟨(runTasks_paired hvw h tasks htasks).1, fun n => ?_⟩
  refine (runTasks_paired hvw h (tasks.take n) fun m task hm hrejects => ?_).2
  rw [List.getElem?_take] at hm
  split_ifs at hm with hlt
  rw [List.take_take, Nat.min_eq_left (Nat.le_of_lt hlt)] at hrejects
  exact htasks m task hm hrejects

/-! ## interchange -/

/-- **Validators that accept the same items are interchangeable, and loosening one never breaks a run.** Any operations,
with any copies made on the way, give the same answers, failures and records from the same entries under v and under w,
and the same entries in every slot after each step: if v and w accept the same items; and also if w accepts what v
accepts, as long as no task has an item rejected by v. -/
theorem validators_interchangeable (v w : Validator α) (es : Entries Key α) (on : String) (tasks : List (Task α)) :
    (v.Alike w → SameRun v w [(on, ⟨es, v⟩)] [(on, ⟨es, w⟩)] tasks) ∧
      (v.Within w →
        (∀ n task, tasks[n]? = some task → ¬ RejectsUnder v (runTasks [(on, ⟨es, v⟩)] (tasks.take n)).1 task.1) →
        SameRun v w [(on, ⟨es, v⟩)] [(on, ⟨es, w⟩)] tasks) := by
  have hstart : Paired v w [(on, ⟨es, v⟩)] [(on, ⟨es, w⟩)] := .cons ⟨rfl, rfl, Or.inr ⟨rfl, rfl⟩⟩ .nil
  refine ⟨fun halike => ?_, fun hwithin htasks => ?_⟩
  · exact hstart.sameRun halike.within tasks fun n task _ _ => halike
  · exact hstart.sameRun hwithin tasks fun n task htask hrejects => absurd hrejects (htasks n task htask)

/-- a number under a name -/
def one : Entries Key Scalar := [(.name "a", .integer .i32 1)]

/-- accepts numbers by their type tag -/
def tagged : Validator Scalar := .ofType ⟨"i32"⟩

/-- accepts numbers by a test of the tag -/
def tested : Validator Scalar := .test fun x => isA x "i32"

/-- a refused insertion, a selection and a push onto it, a validator refused, and a key looked for in vain -/
def errands : List (Task Scalar) :=
  [.insert "s" (.name "b") (.bool true), .exclude "s" "t" (fun x => x == .bool true), .push "t" (.integer .i32 2),
    .setValidator "t" (.test fun x => x == .integer .i32 1), .get "t" (.name "b")].map fun op => (op, fun _ x => x)

theorem errands_same :
    SameRun tagged tested [("s", ⟨one, tagged⟩)] [("s", ⟨one, tested⟩)] errands ∧
      SameRun .free (.test fun _ => true) [("s", ⟨one, .free⟩)] [("s", ⟨one, .test fun _ => true⟩)] errands ∧
      SameRun tagged .free [("s", ⟨one, tagged⟩)] [("s", ⟨one, .free⟩)] errands.tail ∧
      ((runTasks [("s", ⟨one, tagged⟩)] errands).2.map fun a => a.any Attempt.rejects) =
        [true, false, false, true, false] := by
  refine ⟨?_, ?_, ?_, rfl⟩
  · exact (validators_interchangeable tagged tested one "s" errands).1 (Validator.alike_ofType ⟨"i32"⟩)
  · exact (validators_interchangeable .free (.test fun _ => true) one "s" errands).1 Validator.alike_free
  · refine (validators_interchangeable tagged .free one "s" errands.tail).2 tagged.within_free fun n task htask => ?_
    rintro ⟨on, s, r, hconsults, -, -, hr, hrejects⟩
    rcases n with _ | _ | _ | _ | n
    · obtain rfl := Option.some.inj htask
      cases hconsults
    · obtain rfl := Option.some.inj htask
      obtain rfl := Option.some.inj hr
      cases hrejects
    · obtain rfl := Option.some.inj htask
      cases hconsults
    · obtain rfl := Option.some.inj htask
      cases hconsults
    · cases htask

end Workspace

end Lexicon
