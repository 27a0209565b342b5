/-
What the log tells of refusals. Records are written where an item is checked and where a new validator is given up, the
failure is returned some calls further out; `Accounts` says what the result of an operation leaves to be told. An answer
leaves nothing, nor does a key that is not there or an index that has no next one. An item refused on its way into a
catalog leaves one line, with its type and its key; a validator refused for a stored item leaves this line and another
one with the wording of the failure.

Each operation tells what its result leaves to be told, and can fail in no other way (`step_accounts`). In a run the
lines of all operations stand one behind the other, so that they are determined by the results (`Tells.unique`).

Results: `debug_lines_account`.
-/
import Lexicon.Proofs.Catalog.Interchange
import Lexicon.Proofs.Catalog.Pushing
import Lexicon.Proofs.Catalog.Validity

namespace Lexicon

/-- the wording of what a log tells at the level of debugging -/
def debugLines (log : List Record) : List String := (log.filter fun r => r.level = .debug).map Record.text

theorem debugLines_append (log later : List Record) :
    debugLines (log ++ later) = debugLines log ++ debugLines later := by
  rw [debugLines, List.filter_append, List.map_append]
  rfl

namespace Workspace

open Validator

variable {α : Type}

/-! ## accounts of results -/

/-- the operation has items checked on their way into a catalog -/
def Op.stores : Op α → Bool
  | .withValidator _ _ _ => true
  | .ofEntries _ _ _ => true
  | .insert _ _ _ => true
  | .push _ _ => true
  | _ => false

/-- the lines that an operation tells if this is its result -/
inductive Accounts : Op α → Except Failure (Answer α) → List String → Prop where
  | answered (op : Op α) (answer : Answer α) : Accounts op (.ok answer) []
  | keyNotFound (on : String) (k : Key) : Accounts (.get on k) (.error ⟨.keyNotFound k, none⟩) []
  | indexOverflow (on : String) (x : α) : Accounts (.push on x) (.error ⟨.indexOverflow Int64.maxValue, none⟩) []
  | rejected {op : Op α} (h : op.stores = true) (type : String) (k : Key) :
      Accounts op (.error ⟨.invalidItem type, some k⟩) ["rejected item of type " ++ type ++ " at key " ++ k.text]
  | refused (on : String) (v : Validator α) (type : String) (k : Key) {f : Failure}
      (hf : f = ⟨.invalidItem type, some k⟩) :
      Accounts (.setValidator on v) (.error f)
        ["rejected item of type " ++ type ++ " at key " ++ k.text, "validator replacement refused: " ++ f.message]

theorem Accounts.unique {op : Op α} {r : Except Failure (Answer α)} {lines lines' : List String}
    (h : Accounts op r lines) (h' : Accounts op r lines') : lines = lines' := by
  cases h with
  | answered => cases h'; rfl
  | keyNotFound => cases h'; rfl
  | indexOverflow => cases h'; rfl
  | rejected hstores =>
    cases h' with
    | rejected => rfl
    | refused => cases hstores
  | refused _ _ _ _ hf =>
    subst hf
    cases h' with
    | rejected hstores => cases hstores
    | refused _ _ _ _ hf =>
      cases hf
      rfl

/-- the records of an attempt are what its result leaves to be told -/
def Op.AccountsFor (op : Op α) (a : Attempt (Answer α)) : Prop := Accounts op a.result (debugLines a.log)

/-! ## one operation -/

theorem accountsFor_done (op : Op α) (answer : Answer α) : op.AccountsFor (.done answer) := .answered op answer

theorem accountsFor_rejection [Typed α] {op : Op α} (h : op.stores = true) (k : Key) (x : α) :
    op.AccountsFor (rejection k x) := .rejected h (typeName x) k

theorem snd_make (w : Workspace α) (into : String) (a : Attempt (Catalog α)) :
    (w.make into a).2 = a.andThen fun _ => .done .done := by
  unfold make
  cases hr : a.result with
  | error f => rw [Attempt.andThen_of_error hr]
  | ok s => simp [Attempt.andThen, hr, Attempt.done]

section Steps

variable [Typed α]

theorem accountsFor_ofEntries {op : Op α} (h : op.stores = true) (w : Workspace α) (into : String)
    (es : List (Key × α)) (v : Validator α) : op.AccountsFor (w.make into (Catalog.ofEntries es v)).2 := by
  rw [snd_make, Catalog.ofEntries_eq]
  cases v.offender? es with
  | none => exact accountsFor_done op _
  | some e => exact accountsFor_rejection h e.1 e.2

theorem accountsFor_insert (w : Workspace α) (on : String) (s : Catalog α) (k : Key) (x : α) :
    (Op.insert on k x).AccountsFor (w.change on (s.insert k x) .former).2 := by
  rw [change, Catalog.insert_eq]
  split_ifs
  · exact accountsFor_done _ _
  · exact accountsFor_rejection rfl k x

theorem accountsFor_push (w : Workspace α) (on : String) (s : Catalog α) (x : α) :
    (Op.push on x).AccountsFor (w.change on (s.push x) .key).2 := by
  rw [change, Catalog.push_eq]
  rcases s.nextIndex_cases with ⟨-, hfull⟩ | ⟨-, i, hnext, -⟩
  · rw [hfull]
    exact .indexOverflow on x
  · rw [hnext]
    dsimp only
    split_ifs
    · exact accountsFor_done _ _
    · exact accountsFor_rejection rfl (.index i) x

theorem accountsFor_setValidator (w : Workspace α) (on : String) (s : Catalog α) (v : Validator α)
    (answer : Unit → Answer α) : (Op.setValidator on v).AccountsFor (w.change on (s.setValidator v) answer).2 := by
  rw [change, Catalog.setValidator_eq]
  cases v.offender? s.entries with
  | none => exact accountsFor_done _ _
  | some e => exact .refused on v (typeName e.2) e.1 rfl

omit [Typed α] in
theorem accountsFor_get (on : String) (s : Catalog α) (k : Key) :
    (Op.get on k).AccountsFor ⟨(s.get k).map .item, []⟩ := by
  unfold Catalog.get
  cases s.entries.at? k with
  | none => exact .keyNotFound on k
  | some x => exact .answered _ _

/-- **An operation tells what its result leaves to be told.** -/
theorem step_accounts {w w' : Workspace α} {op : Op α} {a : Attempt (Answer α)} (h : w.step op = some (w', a)) :
    op.AccountsFor a := by
  have hmade {r : Workspace α × Attempt (Answer α)} (hr : some r = some (w', a)) : r.2 = a :=
    congrArg Prod.snd (Option.some.inj hr)
  cases op with
  | empty into => exact hmade h ▸ accountsFor_done _ _
  | ofItems into xs => exact hmade h ▸ accountsFor_done _ _
  | withValidator into xs v => exact hmade h ▸ accountsFor_ofEntries rfl w into _ v
  | ofEntries into es v => exact hmade h ▸ accountsFor_ofEntries rfl w into es v
  | insert on k x =>
    obtain ⟨s, -, -, rfl⟩ := of_slot h
    exact accountsFor_insert w on s k x
  | push on x =>
    obtain ⟨s, -, -, rfl⟩ := of_slot h
    exact accountsFor_push w on s x
  | setValidator on v =>
    obtain ⟨s, -, -, rfl⟩ := of_slot h
    exact accountsFor_setValidator w on s v _
  | get on k =>
    obtain ⟨s, -, -, rfl⟩ := of_slot h
    exact accountsFor_get on s k
  | copy on into | filter on into p | exclude on into p | remove on k | consume on | containsKey on k =>
    obtain ⟨s, -, -, rfl⟩ := of_slot h
    exact accountsFor_done _ _

/-- How items are copied makes no difference to an answer. -/
theorem snd_perform (w : Workspace α) (task : Task α) : (w.perform task).2 = (w.step task.1).map Prod.snd := by
  unfold perform
  cases w.step task.1 with
  | none => rfl
  | some r => cases task.1.copiesInto? <;> rfl

theorem perform_accounts {w : Workspace α} {task : Task α} {a : Attempt (Answer α)}
    (h : (w.perform task).2 = some a) : task.1.AccountsFor a := by
  rw [snd_perform] at h
  obtain ⟨r, hr, rfl⟩ := Option.map_eq_some_iff.1 h
  exact step_accounts hr

end Steps

/-! ## runs -/

/-- what a run wrote to the log -/
def logOf (answers : List (Option (Attempt (Answer α)))) : List Record :=
  answers.flatMap fun a => (a.map Attempt.log).getD []

/-- what the operations of a run answered, or how they failed -/
def resultsOf (answers : List (Option (Attempt (Answer α)))) : List (Option (Except Failure (Answer α))) :=
  answers.map fun a => a.map Attempt.result

/-- the lines that operations tell one after the other if these are their results; an operation on an empty slot tells
nothing -/
inductive Tells : List (Op α) → List (Option (Except Failure (Answer α))) → List String → Prop where
  | nil : Tells [] [] []
  | idle {op : Op α} {ops : List (Op α)} {rs : List (Option (Except Failure (Answer α)))} {later : List String}
      (h : Tells ops rs later) : Tells (op :: ops) (none :: rs) later
  | step {op : Op α} {ops : List (Op α)} {r : Except Failure (Answer α)}
      {rs : List (Option (Except Failure (Answer α)))} {lines later : List String} (hr : Accounts op r lines)
      (h : Tells ops rs later) : Tells (op :: ops) (some r :: rs) (lines ++ later)

theorem Tells.unique {ops : List (Op α)} {rs : List (Option (Except Failure (Answer α)))} {lines lines' : List String}
    (h : Tells ops rs lines) (h' : Tells ops rs lines') : lines = lines' := by
  induction h generalizing lines' with
  | nil =>
    cases h'
    rfl
  | idle _ ih =>
    cases h' with
    | idle hlater => exact ih hlater
  | step hr _ ih =>
    cases h' with
    | step hr' hlater => rw [hr.unique hr', ih hlater]

/-- the operations, each by itself, tell what their results leave to be told -/
def EachAccounts (ops : List (Op α)) (answers : List (Option (Attempt (Answer α)))) : Prop :=
  List.Forall₂ (fun op a? => ∀ a, a? = some a → op.AccountsFor a) ops answers

theorem EachAccounts.tells {ops : List (Op α)} {answers : List (Option (Attempt (Answer α)))}
    (h : EachAccounts ops answers) : Tells ops (resultsOf answers) (debugLines (logOf answers)) := by
  induction h with
  | nil => exact .nil
  | @cons op a? ops answers ha _ ih =>
    rw [resultsOf, List.map_cons, logOf, List.flatMap_cons, debugLines_append]
    cases a? with
    | none => exact .idle ih
    | some a => exact .step (ha a rfl) ih

/-- The log of a run is the only account of its results. -/
theorem EachAccounts.tells_iff {ops : List (Op α)} {answers : List (Option (Attempt (Answer α)))}
    (h : EachAccounts ops answers) (lines : List String) :
    Tells ops (resultsOf answers) lines ↔ lines = debugLines (logOf answers) := by
  constructor
  · intro hlines
    exact hlines.unique h.tells
  · rintro rfl
    exact h.tells

variable [Typed α]

theorem runTasks_eachAccounts (w : Workspace α) (tasks : List (Task α)) :
    EachAccounts (tasks.map Prod.fst) (w.runTasks tasks).2 := by
  induction tasks generalizing w with
  | nil => exact .nil
  | cons task tasks ih => exact .cons (fun _ ha => perform_accounts ha) (ih _)

theorem run_eachAccounts (w : Workspace α) (ops : List (Op α)) : EachAccounts ops (w.run ops).2 := by
  have htasks := runTasks_eachAccounts w (ops.map fun op => (op, fun _ x => x))
  rwa [runTasks_values, List.map_map, List.map_id''] at htasks
  exact fun _ => rfl

/-- **The lines told at the level of debugging account for what was refused.** In every run, with any copies made on the
way, each operation tells what its result leaves to be told, and the whole log tells these lines one behind the other
and no others: nothing for an answer, a key that is not there or a missing next index, which are all the failures but
those of items refused; for an item refused on its way in, its type and the key in the failure returned; for a validator
that could not be replaced, the same and then the wording of that failure. -/
theorem debug_lines_account :
    (∀ (w : Workspace α) (tasks : List (Task α)), EachAccounts (tasks.map Prod.fst) (w.runTasks tasks).2 ∧
        ∀ lines, Tells (tasks.map Prod.fst) (resultsOf (w.runTasks tasks).2) lines ↔
          lines = debugLines (logOf (w.runTasks tasks).2)) ∧
      ∀ (w : Workspace α) (ops : List (Op α)), EachAccounts ops (w.run ops).2 ∧
        ∀ lines, Tells ops (resultsOf (w.run ops).2) lines ↔ lines = debugLines (logOf (w.run ops).2) := by
  refine ⟨fun w tasks => ?_, fun w ops => ?_⟩
  · have heach := runTasks_eachAccounts w tasks
    exact ⟨heach, heach.tells_iff⟩
  · have heach := run_eachAccounts w ops
    exact ⟨heach, heach.tells_iff⟩

/-- an item refused, a key looked for, a validator refused, a push behind the last index, one on an empty slot, one
refused, and items of which one is refused -/
def refusals : List (Op Scalar) := [
  .withValidator "s" [.integer .i32 1] (.ofType ⟨"i32"⟩), .insert "s" (.name "b") (.bool true), .get "s" (.name "b"),
  .setValidator "s" (.ofType ⟨"bool"⟩), .ofEntries "t" [(.index Int64.maxValue, .char 'x')] .free,
  .push "t" (.bool true), .push "u" (.bool true), .push "s" (.bool false),
  .withValidator "u" [.bool true, .char 'x'] (.ofType ⟨"bool"⟩)]

/-- what they tell -/
def toldRefusals : List String := [
  "rejected item of type bool at key b", "rejected item of type i32 at key 0",
  "validator replacement refused: item of type i32 is not valid for set (at key 0)",
  "rejected item of type bool at key 1", "rejected item of type char at key 1"]

theorem refusals_told :
    debugLines (logOf (run [] refusals).2) = toldRefusals ∧
      Tells refusals (resultsOf (run [] refusals).2) toldRefusals ∧
      EachAccounts refusals (run [] refusals).2 := by
  obtain ⟨-, hruns⟩ := debug_lines_account (α := Scalar)
  obtain ⟨heach, htells⟩ := hruns [] refusals
  have hlines : debugLines (logOf (run [] refusals).2) = toldRefusals := by decide +kernel
  exact ⟨hlines, (htells _).2 hlines.symm, heach⟩

end Workspace

end Lexicon
