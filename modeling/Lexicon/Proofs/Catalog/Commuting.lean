/-
Updates at different keys. An update is an insertion or a removal. It looks at nothing but the validator and its own key:
that decides its answer (`update_outcome`). With distinct keys it revises the entries one by one, each where it stands,
and appends at most one (`update_eq`): the entry of an accepted item at a new key. Revisions for different keys commute
(`revise_comm`), so a run of updates at different keys leaves the same of the former entries in any order, and behind
them the new ones in the order of the run (`updateAll_eq`).

Results: `updates_commute`.
-/
import Lexicon.Proofs.Catalog.Views

namespace Lexicon

/-! ## revised entries -/

namespace Entries

variable {κ α : Type} [DecidableEq κ] {j k : κ} {a b : Option α} {es : Entries κ α}

/-- what becomes of an entry when an item, or none, is left at a key -/
def revise (k : κ) (held : Option α) (e : κ × α) : Option (κ × α) :=
  if e.1 = k then held.map (Prod.mk k) else some e

theorem revise_of_ne {e : κ × α} (h : e.1 ≠ k) : revise k a e = some e := if_neg h

theorem filterMap_revise_of_not_mem (h : k ∉ keys es) (a : Option α) : es.filterMap (revise k a) = es := by
  induction es with
  | nil => rfl
  | cons e rest ih =>
    simp only [keys, List.map_cons, List.mem_cons, not_or] at h
    rw [List.filterMap_cons_some (revise_of_ne (Ne.symm h.1)), ih h.2]

theorem put_eq (h : (keys es).Nodup) (k : κ) (x : α) :
    put k x es = es.filterMap (revise k (some x)) ++ if k ∈ keys es then [] else [(k, x)] := by
  induction es with
  | nil => rfl
  | cons e rest ih =>
    obtain ⟨j, y⟩ := e
    obtain ⟨hj, hrest⟩ := List.nodup_cons.1 h
    by_cases hjk : j = k
    · subst hjk
      have hkept := filterMap_revise_of_not_mem hj (some x)
      simp [put, revise, keys, hkept]
    · have hkey : k ∈ keys ((j, y) :: rest) ↔ k ∈ keys rest := by simp [keys, Ne.symm hjk]
      rw [put, if_neg hjk, ih hrest, List.filterMap_cons_some (revise_of_ne hjk)]
      simp only [hkey, List.cons_append]

theorem erase_eq (h : (keys es).Nodup) (k : κ) : erase k es = es.filterMap (revise k none) := by
  induction es with
  | nil => rfl
  | cons e rest ih =>
    obtain ⟨j, y⟩ := e
    obtain ⟨hj, hrest⟩ := List.nodup_cons.1 h
    by_cases hjk : j = k
    · subst hjk
      have hkept := filterMap_revise_of_not_mem hj none
      simp [erase, revise, hkept]
    · rw [erase, if_neg hjk, ih hrest, List.filterMap_cons_some (revise_of_ne hjk)]

/-- Revisions for different keys commute. -/
theorem revise_comm (h : j ≠ k) (a b : Option α) (e : κ × α) :
    (revise j a e).bind (revise k b) = (revise k b e).bind (revise j a) := by
  obtain ⟨i, x⟩ := e
  by_cases hj : i = j
  · subst hj
    rw [revise_of_ne (k := k) h]
    cases a <;> simp [revise, h]
  · rw [revise_of_ne hj]
    by_cases hk : i = k
    · subst hk
      cases b <;> simp [revise, hj]
    · simp [revise, hj, hk]

theorem revise_key {e f : κ × α} (h : revise k a e = some f) : f.1 = e.1 := by
  unfold revise at h
  split_ifs at h with hk
  · obtain ⟨x, -, rfl⟩ := Option.map_eq_some_iff.1 h
    exact hk.symm
  · rw [Option.some.inj h]

omit [DecidableEq κ] in
/-- Entries revised under their keys keep their order. -/
theorem keys_filterMap_sublist {g : κ × α → Option (κ × α)} (hg : ∀ e f, g e = some f → f.1 = e.1) (es : Entries κ α) :
    (keys (es.filterMap g)).Sublist (keys es) := by
  induction es with
  | nil => exact List.Sublist.refl _
  | cons e rest ih =>
    cases he : g e with
    | none =>
      rw [List.filterMap_cons_none he]
      exact ih.cons e.1
    | some f =>
      rw [List.filterMap_cons_some he, keys, List.map_cons, hg e f he]
      exact ih.cons_cons e.1

/-- Entries with distinct keys are the same map in any order. -/
theorem at?_of_perm {es fs : Entries κ α} (hes : (keys es).Nodup) (h : es.Perm fs) (k : κ) : at? k es = at? k fs := by
  have hfs : (keys fs).Nodup := (h.map Prod.fst).nodup_iff.1 hes
  refine Option.ext fun x => ?_
  rw [at?_eq_some hes, at?_eq_some hfs, h.mem_iff]

end Entries

namespace Catalog

open Validator

variable {α : Type}

/-! ## one update -/

/-- an insertion or a removal -/
inductive Update (α : Type) where
  | insert (k : Key) (x : α)
  | remove (k : Key)

namespace Update

/-- the key of an update -/
def key : Update α → Key
  | insert k _ => k
  | remove k => k

/-- what an update leaves at its key, unless it is refused: an item, or none after a removal -/
def leaves? [Typed α] (v : Validator α) : Update α → Option (Option α)
  | insert _ x => if v.accepts x then some (some x) else none
  | remove _ => some none

/-- the answer to an update at a key that holds this -/
def answer [Typed α] (v : Validator α) (held : Option α) : Update α → Attempt (Option α)
  | insert k x => if v.accepts x then .done held else rejection k x
  | remove _ => .done held

/-- what becomes of an entry -/
def revise [Typed α] (v : Validator α) (u : Update α) (e : Key × α) : Option (Key × α) :=
  match u.leaves? v with
  | none => some e
  | some held => Entries.revise u.key held e

end Update

/-- the catalog after an update, and its answer -/
def update [Typed α] (s : Catalog α) : Update α → Change α (Option α)
  | .insert k x => s.insert k x
  | .remove k => s.remove k

/-- the entry that an update appends: an accepted item at a new key -/
def appended? [Typed α] (s : Catalog α) (u : Update α) : Option (Key × α) :=
  if u.key ∈ s.keys then none else (u.leaves? s.validator).join.map (Prod.mk u.key)

variable [Typed α] {s : Catalog α} {u w : Update α}

theorem Update.revise_refused {v : Validator α} (h : u.leaves? v = none) : u.revise v = some := by
  funext e
  simp [Update.revise, h]

theorem Update.revise_eq {v : Validator α} {held : Option α} (h : u.leaves? v = some held) :
    u.revise v = Entries.revise u.key held := by
  funext e
  simp [Update.revise, h]

theorem Update.revise_of_ne {v : Validator α} {e : Key × α} (h : e.1 ≠ u.key) : u.revise v e = some e := by
  cases hu : u.leaves? v with
  | none => rw [Update.revise_refused hu]
  | some held => rw [Update.revise_eq hu, Entries.revise_of_ne h]

theorem Update.revise_key {v : Validator α} {e f : Key × α} (h : u.revise v e = some f) : f.1 = e.1 := by
  cases hu : u.leaves? v with
  | none =>
    rw [Update.revise_refused hu] at h
    rw [Option.some.inj h]
  | some held =>
    rw [Update.revise_eq hu] at h
    exact Entries.revise_key h

theorem Update.revise_comm (h : u.key ≠ w.key) (v : Validator α) (e : Key × α) :
    (u.revise v e).bind (w.revise v) = (w.revise v e).bind (u.revise v) := by
  cases hu : u.leaves? v with
  | none => simp [Update.revise_refused hu]
  | some a =>
    cases hw : w.leaves? v with
    | none => simp [Update.revise_refused hw]
    | some b =>
      rw [Update.revise_eq hu, Update.revise_eq hw]
      exact Entries.revise_comm h a b e

/-- The answer depends on the validator and on what the key holds. -/
theorem update_outcome (s : Catalog α) (u : Update α) :
    (s.update u).outcome = u.answer s.validator (s.entries.at? u.key) := by
  cases u with
  | insert k x =>
    rw [update, insert_eq, Update.answer]
    split_ifs <;> rfl
  | remove k => rfl

/-- An update is refused, or stores an item, or takes out what is there. -/
theorem update_catalog (s : Catalog α) (u : Update α) :
    (s.update u).catalog =
      match u.leaves? s.validator with
      | none => s
      | some (some x) => ⟨s.entries.put u.key x, s.validator⟩
      | some none => ⟨s.entries.erase u.key, s.validator⟩ := by
  cases u with
  | insert k x => cases hx : s.validator.accepts x <;> simp [update, insert_eq, Update.leaves?, Update.key, hx]
  | remove k => rfl

/-- What an update does to the entries, one by one and behind them. -/
theorem update_entries (h : s.keys.Nodup) (u : Update α) :
    (s.update u).catalog.entries = s.entries.filterMap (u.revise s.validator) ++ (s.appended? u).toList := by
  rw [update_catalog, appended?]
  rcases hu : u.leaves? s.validator with _ | _ | x
  · simp [Update.revise_refused hu]
  · simp [Update.revise_eq hu, Entries.erase_eq h]
  · rw [Update.revise_eq hu]
    refine (Entries.put_eq h u.key x).trans (congrArg (s.entries.filterMap _ ++ ·) ?_)
    by_cases hk : u.key ∈ s.keys
    · rw [if_pos hk]
      exact if_pos hk
    · rw [if_neg hk]
      exact if_neg hk

theorem nodup_update (h : s.keys.Nodup) (u : Update α) : (s.update u).catalog.keys.Nodup := by
  rw [update_catalog]
  rcases u.leaves? s.validator with _ | _ | x
  · exact h
  · exact Entries.nodup_erase h u.key
  · exact Entries.nodup_put h u.key x

theorem update_validator (s : Catalog α) (u : Update α) : (s.update u).catalog.validator = s.validator := by
  rw [update_catalog]
  rcases u.leaves? s.validator with _ | _ | x <;> rfl

/-- An update leaves every other key as it was. -/
theorem at?_update_of_ne (h : s.keys.Nodup) {k : Key} (hk : u.key ≠ k) :
    (s.update u).catalog.entries.at? k = s.entries.at? k := by
  rw [update_catalog]
  rcases u.leaves? s.validator with _ | _ | x
  · rfl
  · exact (Entries.at?_erase u.key k h).trans (if_neg hk)
  · exact (Entries.at?_put u.key k x s.entries).trans (if_neg hk)

/-- So an update at another key has the same answer afterwards, -/
theorem update_outcome_of_ne (h : s.keys.Nodup) (hkey : u.key ≠ w.key) :
    ((s.update u).catalog.update w).outcome = (s.update w).outcome := by
  rw [update_outcome, update_outcome, update_validator, at?_update_of_ne h hkey]

/-- and appends the same. -/
theorem appended?_of_ne (h : s.keys.Nodup) (hkey : u.key ≠ w.key) :
    (s.update u).catalog.appended? w = s.appended? w := by
  have hmem : w.key ∈ (s.update u).catalog.keys ↔ w.key ∈ s.keys := by
    rw [keys, keys, Entries.mem_keys, Entries.mem_keys, at?_update_of_ne h hkey]
  simp only [appended?, hmem, update_validator]

theorem appended?_eq_some {e : Key × α} :
    s.appended? u = some e ↔ u = .insert e.1 e.2 ∧ e.1 ∉ s.keys ∧ s.validator.accepts e.2 = true := by
  obtain ⟨k, x⟩ := e
  cases u with
  | remove j => simp [appended?, Update.leaves?]
  | insert j y =>
    have hboth : s.appended? (.insert j y) = some (k, x) ↔
        (j ∉ s.keys ∧ s.validator.accepts y = true) ∧ j = k ∧ y = x := by
      cases hy : s.validator.accepts y <;> simp [appended?, Update.leaves?, Update.key, hy]
    rw [hboth, Update.insert.injEq]
    constructor
    · rintro ⟨⟨hk, hx⟩, rfl, rfl⟩
      exact ⟨⟨rfl, rfl⟩, hk, hx⟩
    · rintro ⟨⟨rfl, rfl⟩, hk, hx⟩
      exact ⟨⟨hk, hx⟩, rfl, rfl⟩

/-- an insertion of this entry that succeeds, at a key where nothing is -/
structure Appends (s : Catalog α) (u : Update α) (e : Key × α) : Prop where
  insertion : u = .insert e.1 e.2
  absent : e.1 ∉ s.keys
  success : (s.update u).outcome.result = .ok none

theorem appends_iff {e : Key × α} : s.Appends u e ↔ s.appended? u = some e := by
  rw [appended?_eq_some]
  constructor
  · rintro ⟨rfl, hk, hsuccess⟩
    refine ⟨rfl, hk, ?_⟩
    by_contra hrefused
    rw [update_outcome, Update.answer, if_neg hrefused] at hsuccess
    cases hsuccess
  · rintro ⟨rfl, hk, hx⟩
    refine ⟨rfl, hk, ?_⟩
    rw [update_outcome, Update.answer, if_pos hx]
    exact congrArg Except.ok (Entries.at?_eq_none.2 hk)

/-! ## runs -/

/-- the catalog after updates in order, and their answers -/
def updateAll (s : Catalog α) : List (Update α) → Catalog α × List (Attempt (Option α))
  | [] => (s, [])
  | u :: us =>
    let later := updateAll (s.update u).catalog us
    (later.1, (s.update u).outcome :: later.2)

/-- what becomes of an entry in a run of updates -/
def reviseAll (v : Validator α) : List (Update α) → Key × α → Option (Key × α)
  | [], e => some e
  | u :: us, e => (u.revise v e).bind (reviseAll v us)

theorem reviseAll_of_not_mem {v : Validator α} {us : List (Update α)} {e : Key × α} (h : e.1 ∉ us.map Update.key) :
    reviseAll v us e = some e := by
  induction us with
  | nil => rfl
  | cons u us ih =>
    simp only [List.map_cons, List.mem_cons, not_or] at h
    rw [reviseAll, Update.revise_of_ne h.1]
    exact ih h.2

theorem reviseAll_key {v : Validator α} {us : List (Update α)} {e f : Key × α} (h : reviseAll v us e = some f) :
    f.1 = e.1 := by
  induction us generalizing e with
  | nil => rw [Option.some.inj h]
  | cons u us ih =>
    obtain ⟨g, hg, hf⟩ := Option.bind_eq_some_iff.1 h
    exact (ih hf).trans (Update.revise_key hg)

/-- Updates at different keys revise an entry alike in any order. -/
theorem reviseAll_perm {us ws : List (Update α)} (h : us.Perm ws) (hkeys : (us.map Update.key).Nodup)
    (v : Validator α) (e : Key × α) : reviseAll v us e = reviseAll v ws e := by
  induction h generalizing e with
  | nil => rfl
  | cons u _ ih =>
    have hrest := (List.nodup_cons.1 hkeys).2
    simp only [reviseAll, funext fun f => ih hrest f]
  | swap u w us =>
    -- only here do two updates change places; those behind them revise what both leave
    have hne : w.key ≠ u.key := fun heq => (List.nodup_cons.1 hkeys).1 (heq ▸ List.mem_cons_self)
    simp only [reviseAll, ← Option.bind_assoc, Update.revise_comm hne v e]
  | trans hfirst _ ih ih' => exact (ih hkeys e).trans (ih' ((hfirst.map Update.key).nodup_iff.1 hkeys) e)

/-- **A run of updates at different keys.** It answers as each update does on the catalog before the run; it revises the
entries where they stand, and puts the new ones behind them in its own order. -/
theorem updateAll_eq (h : s.keys.Nodup) {us : List (Update α)} (hkeys : (us.map Update.key).Nodup) :
    s.updateAll us = (⟨s.entries.filterMap (reviseAll s.validator us) ++ us.filterMap s.appended?, s.validator⟩,
      us.map fun u => (s.update u).outcome) := by
  induction us generalizing s with
  | nil => simp [updateAll, reviseAll]
  | cons u us ih =>
    obtain ⟨hu, hus⟩ := List.nodup_cons.1 hkeys
    have hne : ∀ w ∈ us, u.key ≠ w.key := fun w hw heq => hu (heq ▸ List.mem_map_of_mem hw)
    have hanswers : (us.map fun w => ((s.update u).catalog.update w).outcome) = us.map fun w => (s.update w).outcome :=
      List.map_congr_left fun w hw => update_outcome_of_ne h (hne w hw)
    have hnew : us.filterMap (s.update u).catalog.appended? = us.filterMap s.appended? :=
      List.filterMap_congr fun w hw => appended?_of_ne h (hne w hw)
    -- the entry appended by u is at its key, which no later update concerns
    have hown : (s.appended? u).toList.filterMap (reviseAll s.validator us) = (s.appended? u).toList := by
      cases he : s.appended? u with
      | none => rfl
      | some e =>
        obtain ⟨rfl, -, -⟩ := appended?_eq_some.1 he
        have hrevised : reviseAll s.validator us e = some e := reviseAll_of_not_mem hu
        simp [hrevised]
    have hentries : (s.entries.filterMap (u.revise s.validator)).filterMap (reviseAll s.validator us) =
        s.entries.filterMap (reviseAll s.validator (u :: us)) := List.filterMap_filterMap
    have htail : (s.appended? u).toList ++ us.filterMap s.appended? = (u :: us).filterMap s.appended? := by
      cases he : s.appended? u <;> simp [he]
    simp only [updateAll]
    rw [ih (nodup_update h u) hus, hanswers, hnew, update_validator, update_entries h u, List.filterMap_append, hown,
      hentries, List.append_assoc, htail, List.map_cons]

/-! ## orders of updates -/

/-- two runs of updates with the same answers to each, after which the same items are at the same keys, and the entries
differ at most in the order of the new ones behind the old ones -/
structure Reordered (s : Catalog α) (us ws : List (Update α)) : Prop where
  answers : (s.updateAll us).2 = us.map fun u => (s.update u).outcome
  answers' : (s.updateAll ws).2 = ws.map fun u => (s.update u).outcome
  validator : (s.updateAll us).1.validator = (s.updateAll ws).1.validator
  get : ∀ k, (s.updateAll us).1.get k = (s.updateAll ws).1.get k
  containsKey : ∀ k, (s.updateAll us).1.containsKey k = (s.updateAll ws).1.containsKey k
  entries : ∃ kept : Entries Key α, kept.keys.Sublist s.keys ∧
    (s.updateAll us).1.entries = kept ++ us.filterMap s.appended? ∧
      (s.updateAll ws).1.entries = kept ++ ws.filterMap s.appended?

theorem nodup_updateAll (h : s.keys.Nodup) (us : List (Update α)) : (s.updateAll us).1.keys.Nodup := by
  induction us generalizing s with
  | nil => exact h
  | cons u us ih => exact ih (nodup_update h u)

theorem updateAll_perm (h : s.keys.Nodup) {us ws : List (Update α)} (hperm : us.Perm ws)
    (hkeys : (us.map Update.key).Nodup) : s.Reordered us ws := by
  have hus := updateAll_eq h hkeys
  have hws := updateAll_eq h ((hperm.map Update.key).nodup_iff.1 hkeys)
  rw [← funext (reviseAll_perm hperm hkeys s.validator)] at hws
  have hentries : (s.updateAll us).1.entries.Perm (s.updateAll ws).1.entries := by
    rw [hus, hws]
    exact (hperm.filterMap s.appended?).append_left _
  have hlookup := Entries.at?_of_perm (nodup_updateAll h us) hentries
  refine ⟨by rw [hus], by rw [hws], by rw [hus, hws], fun k => ?_, fun k => ?_, ?_⟩
  · simp only [Catalog.get, hlookup k]
  · simp only [Catalog.containsKey, hlookup k]
  · refine ⟨s.entries.filterMap (reviseAll s.validator us), ?_, by rw [hus], by rw [hws]⟩
    exact Entries.keys_filterMap_sublist (fun _ _ => reviseAll_key) s.entries

/-- two updates with the same answers in either order, after which the same items are at the same keys; the catalogs are
the same, unless both updates appended an entry: then those two are the last ones, in either order -/
structure Commute (s : Catalog α) (u w : Update α) : Prop where
  first : ((s.update w).catalog.update u).outcome = (s.update u).outcome
  second : ((s.update u).catalog.update w).outcome = (s.update w).outcome
  validator : ((s.update u).catalog.update w).catalog.validator = ((s.update w).catalog.update u).catalog.validator
  get : ∀ k, ((s.update u).catalog.update w).catalog.get k = ((s.update w).catalog.update u).catalog.get k
  containsKey : ∀ k,
    ((s.update u).catalog.update w).catalog.containsKey k = ((s.update w).catalog.update u).catalog.containsKey k
  both : ∀ a b, s.Appends u a → s.Appends w b →
    ((s.update u).catalog.update w).catalog.entries = s.entries ++ [a, b] ∧
      ((s.update w).catalog.update u).catalog.entries = s.entries ++ [b, a]
  otherwise : (¬ ∃ a b, s.Appends u a ∧ s.Appends w b) →
    ((s.update u).catalog.update w).catalog = ((s.update w).catalog.update u).catalog

theorem Appends.entries {e : Key × α} (h : s.Appends u e) : (s.update u).catalog.entries = s.entries ++ [e] := by
  obtain ⟨rfl, hk, hx⟩ := appended?_eq_some.1 (appends_iff.1 h)
  rw [update, insert_eq, if_pos hx, Entries.put_of_not_mem hk]

/-- What two updates append stands behind all other entries, in their order. -/
theorem Appends.entries_update (h : s.keys.Nodup) (hkey : u.key ≠ w.key) {a b : Key × α} (hu : s.Appends u a)
    (hw : s.Appends w b) : ((s.update u).catalog.update w).catalog.entries = s.entries ++ [a, b] := by
  have hlater : (s.update u).catalog.Appends w b :=
    appends_iff.2 ((appended?_of_ne h hkey).trans (appends_iff.1 hw))
  rw [hlater.entries, hu.entries, List.append_assoc]
  rfl

theorem commute (h : s.keys.Nodup) (hkey : u.key ≠ w.key) : s.Commute u w := by
  have hkeys : ([u, w].map Update.key).Nodup := by simpa using hkey
  have hreordered : s.Reordered [u, w] [w, u] := updateAll_perm h (List.Perm.swap w u []) hkeys
  have hanswer := update_outcome_of_ne h hkey
  have hanswer' := update_outcome_of_ne h hkey.symm
  refine ⟨hanswer', hanswer, hreordered.validator, hreordered.get, hreordered.containsKey, fun a b hu hw => ?_,
    fun hnot => ?_⟩
  · exact ⟨hu.entries_update h hkey hw, hw.entries_update h hkey.symm hu⟩
  · obtain ⟨kept, -, hentries, hentries'⟩ := hreordered.entries
    -- with one new entry at most there is only one order
    have horder : [u, w].filterMap s.appended? = [w, u].filterMap s.appended? := by
      cases hu : s.appended? u with
      | none => cases hw : s.appended? w <;> simp [hu, hw]
      | some a =>
        cases hw : s.appended? w with
        | none => simp [hu, hw]
        | some b => exact absurd ⟨a, b, appends_iff.2 hu, appends_iff.2 hw⟩ hnot
    exact congrArg₂ Catalog.mk (hentries.trans (horder ▸ hentries'.symm)) hreordered.validator

/-- **Updates at different keys commute.** On every catalog that can be made, whatever the validators, an insertion or a
removal and another one at a different key give each the same answer in either order, records included, with the same
validator and the same item at every key afterwards; the catalogs are the same, unless both inserted at a new key, when
their entries are the last two. So a run of updates at different keys may be put in any order: each update answers as if
it were alone, the former entries end up the same, and the new ones stand behind them in the order of the run. -/
theorem updates_commute {C : Copying α} {s : Catalog α} (h : Made C s) :
    (∀ u w : Update α, u.key ≠ w.key → s.Commute u w) ∧
      ∀ us ws : List (Update α), us.Perm ws → (us.map Update.key).Nodup → s.Reordered us ws :=
  ⟨fun _ _ => commute h.distinct, fun _ _ => updateAll_perm h.distinct⟩

/-- numbers under a name and an index -/
def stock : Catalog Scalar := ⟨[(.name "a", .integer .i32 1), (.index 3, .integer .i32 2)], .ofType ⟨"i32"⟩⟩

/-- a number inserted, one taken out, one overwritten, one refused, one more inserted, and nothing taken out -/
def restocking : List (Update Scalar) :=
  [.insert (.name "b") (.integer .i32 3), .remove (.name "a"), .insert (.index 3) (.integer .i32 4),
    .insert (.name "c") (.bool true), .insert (.name "d") (.integer .i32 5), .remove (.name "e")]

theorem restocking_reordered :
    stock.Made (.values Scalar) ∧ stock.Reordered restocking restocking.reverse ∧
      (stock.updateAll restocking).1.keys = [.index 3, .name "b", .name "d"] ∧
      (stock.updateAll restocking.reverse).1.keys = [.index 3, .name "d", .name "b"] ∧
      stock.Commute (.insert (.name "b") (.integer .i32 3)) (.insert (.name "d") (.integer .i32 5)) ∧
      (∃ a b, stock.Appends (.insert (.name "b") (.integer .i32 3)) a ∧
        stock.Appends (.insert (.name "d") (.integer .i32 5)) b) ∧
      stock.Commute (.remove (.name "a")) (.insert (.name "b") (.integer .i32 3)) ∧
      ¬ ∃ a b, stock.Appends (.remove (.name "a")) a ∧ stock.Appends (.insert (.name "b") (.integer .i32 3)) b := by
  have hmade : (ofEntries stock.entries stock.validator).result = .ok stock := rfl
  have hstock : stock.Made (.values Scalar) := .ofEntries hmade
  obtain ⟨htwo, hruns⟩ := updates_commute hstock
  have hnew : stock.Appends (.insert (.name "b") (.integer .i32 3)) (.name "b", .integer .i32 3) :=
    ⟨rfl, by decide, rfl⟩
  have hnew' : stock.Appends (.insert (.name "d") (.integer .i32 5)) (.name "d", .integer .i32 5) :=
    ⟨rfl, by decide, rfl⟩
  refine ⟨hstock, ?_, rfl, rfl, htwo _ _ (by decide), ⟨_, _, hnew, hnew'⟩, htwo _ _ (by decide), ?_⟩
  · exact hruns _ _ (List.reverse_perm _).symm (by decide)
  · rintro ⟨a, -, ⟨hremove, -, -⟩, -⟩
    cases hremove

end Catalog

end Lexicon
