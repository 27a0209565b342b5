/-
Catalogs made under validators of any kind. `Reachable` admits faithful tests only, because a test that tells an item
from its copy may refuse the items of a copied catalog. Keys do not depend on verdicts: `Made` admits every validator.
Its changes are the edits of a history, refused ones included.

Results:
- `Made.distinct`: no key is there twice;
- `Reachable.made`: every way to a reachable catalog is one of these.
-/
import Lexicon.Proofs.Catalog.History
import Lexicon.Proofs.Catalog.Validity

namespace Lexicon.Catalog

variable {α : Type} [Typed α] {C : Copying α} {s : Catalog α}

/-- what the operations make from nothing, whatever the validators: items, entries, copies, selections and edits -/
inductive Made (C : Copying α) : Catalog α → Prop where
  | ofItems (xs : List α) : Made C (ofItems xs)
  | ofEntries {es : List (Key × α)} {v : Validator α} {s : Catalog α} (hs : (ofEntries es v).result = .ok s) : Made C s
  | copy {s t : Catalog α} (hs : Made C s) (ht : C.Copied s t) : Made C t
  | filter {s t : Catalog α} (hs : Made C s) (p : α → Bool) (ht : C.Copied (s.filter p) t) : Made C t
  | perform {s : Catalog α} (hs : Made C s) (e : Edit α) : Made C (s.perform e).1

omit [Typed α] in
theorem nodup_filter (s : Catalog α) (p : α → Bool) : (s.filter p).keys.Nodup := Entries.nodup_collect _

theorem nodup_perform (h : s.keys.Nodup) (e : Edit α) : (s.perform e).1.keys.Nodup := by
  unfold keys
  rcases perform_cases s e with ⟨k, x, hs, -⟩ | ⟨k, hs, -⟩ | ⟨hs, -⟩ <;> rw [hs]
  · exact Entries.nodup_put h k x
  · exact Entries.nodup_erase h k
  · exact h

theorem nodup_copied {t : Catalog α} (h : s.keys.Nodup) (ht : C.Copied s t) : t.keys.Nodup := by
  have hkeys : t.keys = s.keys := Copying.keys_eq_of_copies ht.2
  rwa [hkeys]

theorem Made.distinct (h : Made C s) : s.keys.Nodup := by
  induction h with
  | ofItems xs => exact Entries.nodup_collect _
  | ofEntries hs => exact (valid_ofEntries hs).distinct
  | copy _ ht ih => exact nodup_copied ih ht
  | filter _ p ht => exact nodup_copied (nodup_filter _ p) ht
  | perform _ e ih => exact nodup_perform ih e

theorem Reachable.made (h : Reachable C s) : Made C s := by
  induction h with
  | empty => exact .ofItems []
  | ofItems xs => exact .ofItems xs
  | withValidator _ hs => exact .ofEntries hs
  | ofEntries _ hs => exact .ofEntries hs
  | copy _ ht ih => exact ih.copy ht
  | filter _ p ht ih => exact ih.filter p ht
  | exclude _ p ht ih => exact ih.filter (fun x => !p x) ht
  | insert _ k x ih => exact ih.perform (.insert k x)
  | push _ x ih => exact ih.perform (.push x)
  | remove _ k ih => exact ih.perform (.remove k)
  | setValidator _ _ ih => exact ih.perform (.setValidator _)

end Lexicon.Catalog
