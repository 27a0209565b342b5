/-
Which item is blamed. An operation that checks several items takes them in an order of its own: the entries it is given,
items by position, or the entries that are stored. It succeeds if all of them are accepted, and otherwise fails for the
first that is refused, with the type of that item and the key it has in that order (`Judges`). Entries that a later one
would overwrite are judged like all others; and where keys are reordered, neither the least key nor the latest item
counts, but the place in the order (`IsFirst`).

Results: `first_refused_is_blamed`.
-/
import Lexicon.Proofs.Catalog.Construction

namespace Lexicon.Catalog

variable {α β : Type} [Typed α]

/-! ## verdicts on entries -/

/-- the failure that blames an item at a key -/
def blame (k : Key) (x : α) : Failure := ⟨.invalidItem (typeName x), some k⟩

/-- an outcome by the verdicts on entries in order: success if all items are accepted, blame for the first one refused -/
structure Judges (v : Validator α) (es : List (Key × α)) (r : Except Failure β) : Prop where
  succeeds : (∃ b, r = .ok b) ↔ ∀ e ∈ es, v.accepts e.2 = true
  fails : ∀ f, r = .error f ↔
    ∃ n k x, IsFirst (fun e : Key × α => v.accepts e.2 = false) es n (k, x) ∧ f = blame k x

/-- an outcome by the verdicts on items, with positions for keys -/
structure JudgesInPlace (v : Validator α) (xs : List α) (r : Except Failure β) : Prop where
  succeeds : (∃ b, r = .ok b) ↔ ∀ x ∈ xs, v.accepts x = true
  fails : ∀ f, r = .error f ↔ ∃ n x, IsFirst (fun x => v.accepts x = false) xs n x ∧ f = blame (.position n) x

/-- What fails for the offender, and only then, goes by the verdicts. -/
theorem judges_of_offender? {v : Validator α} {es : List (Key × α)} {r : Except Failure β}
    (hnone : v.offender? es = none → ∃ b, r = .ok b)
    (hsome : ∀ e, v.offender? es = some e → r = .error (blame e.1 e.2)) : Judges v es r := by
  cases ho : v.offender? es with
  | none =>
    obtain ⟨b, rfl⟩ := hnone ho
    refine ⟨iff_of_true ⟨b, rfl⟩ (Validator.offender?_eq_none.1 ho), fun f => iff_of_false nofun ?_⟩
    rintro ⟨n, k, x, hfirst, -⟩
    cases ho.symm.trans (Validator.offender?_eq_some.2 ⟨n, hfirst⟩)
  | some e =>
    obtain rfl := hsome e ho
    refine ⟨iff_of_false nofun fun hall => ?_, fun f => ?_⟩
    · cases ho.symm.trans (Validator.offender?_eq_none.2 hall)
    · constructor
      · intro hf
        obtain rfl := Except.error.inj hf
        obtain ⟨n, hfirst⟩ := Validator.offender?_eq_some.1 ho
        exact ⟨n, e.1, e.2, hfirst, rfl⟩
      · rintro ⟨n, k, x, hfirst, rfl⟩
        obtain rfl := Option.some.inj (ho.symm.trans (Validator.offender?_eq_some.2 ⟨n, hfirst⟩))
        rfl

theorem judges_ofEntries (v : Validator α) (es : List (Key × α)) : Judges v es (ofEntries es v).result := by
  refine judges_of_offender? (fun ho => ?_) fun e ho => ?_ <;> rw [ofEntries_eq, ho]
  · exact ⟨_, rfl⟩
  · rfl

theorem judges_setValidator (v : Validator α) (s : Catalog α) :
    Judges v s.entries (s.setValidator v).outcome.result := by
  refine judges_of_offender? (fun ho => ?_) fun e ho => ?_ <;> rw [setValidator_eq, ho]
  · exact ⟨_, rfl⟩
  · rfl

theorem judgesInPlace_withValidator (v : Validator α) (xs : List α) :
    JudgesInPlace v xs (withValidator xs v).result := by
  obtain ⟨hsucceeds, hfails⟩ := judges_ofEntries v (numbered xs)
  refine ⟨hsucceeds.trans (forall_mem_numbered (r := fun x => v.accepts x = true)), fun f => (hfails f).trans ?_⟩
  simp only [isFirst_numbered (r := fun x => v.accepts x = false)]
  constructor
  · rintro ⟨n, _, x, ⟨rfl, hfirst⟩, rfl⟩
    exact ⟨n, x, hfirst, rfl⟩
  · rintro ⟨n, x, hfirst, rfl⟩
    exact ⟨n, _, x, ⟨rfl, hfirst⟩, rfl⟩

/-- **Validation accepts exactly what is valid and blames the first offender.** Gathering entries succeeds if the
validator accepts the item of every one of them, overwritten ones included; storing items succeeds if it accepts them
all, and so does setting the validator of a catalog for what is stored there. Otherwise the failure names the type of
the first item refused, with its key among the entries given, its position, or its key in the catalog; the position of
an item in a list is the index of the same value. -/
theorem first_refused_is_blamed (v : Validator α) :
    (∀ es, Judges v es (ofEntries es v).result) ∧ (∀ xs, JudgesInPlace v xs (withValidator xs v).result) ∧
      (∀ s : Catalog α, Judges v s.entries (s.setValidator v).outcome.result) ∧
      ∀ n, n ≤ maxItems → (Key.position n).IsIndex n :=
  ⟨judges_ofEntries v, judgesInPlace_withValidator v, judges_setValidator v, fun _ hn => isIndex_iff.2 ⟨hn, rfl⟩⟩

/-- entries of which the second is refused by the type of numbers, and overwritten before the last, refused as well -/
def misfits : List (Key × Scalar) :=
  [(.name "b", .integer .i32 1), (.index 5, .bool true), (.index 5, .integer .i32 2), (.index (-1), .char 'x')]

/-- the same items stored freely, the last one at a lower key than the one before it -/
def stored : Catalog Scalar := ⟨[(.index 9, .integer .i32 1), (.index 7, .char 'x'), (.index 2, .bool true)], .free⟩

theorem misfits_blamed :
    1 ≤ maxItems ∧ (Key.position 1).IsIndex 1 ∧
      (ofEntries misfits (.ofType ⟨"i32"⟩)).result = .error ⟨.invalidItem "bool", some (.index 5)⟩ ∧
      (withValidator (misfits.map Prod.snd) (.ofType ⟨"i32"⟩)).result =
        .error ⟨.invalidItem "bool", some (.index 1)⟩ ∧
      (stored.setValidator (.ofType ⟨"i32"⟩)).outcome.result = .error ⟨.invalidItem "char", some (.index 7)⟩ := by
  obtain ⟨hentries, hitems, hset, hindex⟩ := first_refused_is_blamed (α := Scalar) (.ofType ⟨"i32"⟩)
  have hsecond {β : Type} {r : β → Prop} {x y : β} {ys : List β} (hx : ¬ r x) (hy : r y) :
      IsFirst r (x :: y :: ys) 1 y :=
    isFirst_cons.2 (Or.inr ⟨0, rfl, hx, isFirst_cons.2 (Or.inl ⟨rfl, rfl, hy⟩)⟩)
  have hone : 1 ≤ maxItems := by decide
  refine ⟨hone, hindex 1 hone, ?_, ?_, ?_⟩
  · exact ((hentries misfits).fails _).2 ⟨1, _, _, hsecond (by decide) rfl, rfl⟩
  · exact ((hitems (misfits.map Prod.snd)).fails _).2 ⟨1, _, hsecond (by decide) rfl, rfl⟩
  · exact ((hset stored).fails _).2 ⟨1, _, _, hsecond (by decide) rfl, rfl⟩

end Lexicon.Catalog
