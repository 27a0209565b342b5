/-
Scans lose nothing and end. `Scans` is the loop without a bound: one constructor for each way to end, and one for a
token behind which the loop goes on. Bytes can be dropped from a text exactly when they are those of some characters at
its front (`dropBytes?_eq_some`), so a token that is not empty leaves a shorter rest and the loop ends for every set of
symbols and every input (`scans_ofChars`), in one way only (`Scans.ofChars_eq`).

What the tokens say of the input (`Lossless`) needs more: symbols must take prefixes. Characters, texts and the
sentinel do, so it is asked of the expressions only (`Symbol.take?_prefix`); an expression that finds a match further in
makes a scan lose text, as the example at the end shows.

Results: `scan_lossless`.
-/
import Lexicon.Proofs.Pattern.Anchored
import Lexicon.Scan

namespace Lexicon

/-! ## dropping bytes -/

@[simp] theorem byteLength_cons (c : Char) (cs : List Char) : byteLength (c :: cs) = c.utf8Size + byteLength cs := rfl

theorem dropBytes?_byteLength (front rest : List Char) : dropBytes? (byteLength front) (front ++ rest) = some rest := by
  induction front with
  | nil => simp [byteLength, dropBytes?]
  | cons c cs ih =>
    obtain ⟨n, hn⟩ : ∃ n, byteLength (c :: cs) = n + 1 := Nat.exists_eq_add_one.2 (Nat.add_pos_left c.utf8Size_pos _)
    have hle : c.utf8Size ≤ n + 1 := hn ▸ Nat.le_add_right _ _
    have hleft : n + 1 - c.utf8Size = byteLength cs := by
      rw [← hn, byteLength_cons, Nat.add_sub_cancel_left]
    rw [hn, List.cons_append, dropBytes?, if_pos hle, hleft, ih]

/-- Bytes are dropped exactly where they are the bytes of some characters at the front. -/
theorem dropBytes?_eq_some {n : Nat} {text rest : List Char} :
    dropBytes? n text = some rest ↔ ∃ front, front ++ rest = text ∧ byteLength front = n := by
  constructor
  · intro h
    fun_induction dropBytes? n text with
    | case1 text => exact ⟨[], Option.some.inj h.symm, rfl⟩
    | case2 n => cases h
    | case3 n c cs hle ih =>
      obtain ⟨front, rfl, hfront⟩ := ih h
      refine ⟨c :: front, rfl, ?_⟩
      rw [byteLength_cons, hfront, Nat.add_sub_cancel' hle]
    | case4 n c cs hle => cases h
  · rintro ⟨front, rfl, rfl⟩
    exact dropBytes?_byteLength front rest

theorem length_of_dropBytes? {n : Nat} {text rest : List Char} (h : dropBytes? n text = some rest) (hn : n ≠ 0) :
    rest.length < text.length := by
  obtain ⟨front, rfl, rfl⟩ := dropBytes?_eq_some.1 h
  have hfront : front ≠ [] := fun e => hn (by rw [e]; rfl)
  have hpos := List.length_pos_of_ne_nil hfront
  rw [List.length_append]
  exact Nat.lt_add_of_pos_left hpos

theorem byteLength_ne_zero {text : List Char} (h : text ≠ []) : byteLength text ≠ 0 := by
  obtain ⟨c, cs, rfl⟩ := List.exists_cons_of_ne_nil h
  exact Nat.ne_of_gt (Nat.add_pos_left c.utf8Size_pos _)

/-! ## what symbols take -/

/-- what is found in an input is a prefix of it -/
def Regexp.FindsPrefixes (r : Regexp) : Prop := ∀ input m, r.find? input = some m → m <+: input

theorem Symbol.take?_prefix {x : Symbol} (h : ∀ role id r, x = .plain role id (.regexp r) → r.FindsPrefixes)
    {input m : List Char} (hm : x.take? input = some m) : m <+: input := by
  cases x with
  | endOfInput =>
    simp only [take?, Option.ite_none_right_eq_some, Option.some.injEq] at hm
    rw [← hm.2]
    exact List.nil_prefix
  | plain role id p =>
    cases p with
    | character c =>
      simp only [take?, Pattern.take?, Option.ite_none_right_eq_some, Option.some.injEq] at hm
      obtain ⟨rest, rfl⟩ := List.head?_eq_some_iff.1 hm.1
      exact hm.2 ▸ ⟨rest, rfl⟩
    | string s =>
      simp only [take?, Pattern.take?, Option.ite_none_right_eq_some, Option.some.injEq] at hm
      exact hm.2 ▸ List.isPrefixOf_iff_prefix.1 hm.1
    | regexp r => exact h role id r rfl input m hm

theorem Symbol.take?_of_isEndOfInput {x : Symbol} (hx : x.isEndOfInput = true) {input m : List Char}
    (hm : x.take? input = some m) : m = [] ∧ input = [] := by
  cases x with
  | endOfInput =>
    simp only [take?, Option.ite_none_right_eq_some, Option.some.injEq, List.isEmpty_iff] at hm
    exact ⟨hm.2.symm, hm.1⟩
  | plain role id p => cases role <;> cases hx

/-! ## the first symbol that matches -/

namespace Catalog

/-- x is the first symbol in order that matches the input, and takes m -/
def Earliest (symbols : Catalog Symbol) (input : List Char) (x : Symbol) (m : List Char) : Prop :=
  ∃ before after, symbols.items = before ++ x :: after ∧ (∀ y ∈ before, y.take? input = none) ∧
    x.take? input = some m

section

variable {symbols : Catalog Symbol} {input m : List Char} {x : Symbol}

theorem firstTake?_eq_some : symbols.firstTake? input = some (x, m) ↔ symbols.Earliest input x m := by
  simp only [firstTake?, List.findSome?_eq_some_iff, Option.map_eq_some_iff, Option.map_eq_none_iff, Prod.mk.injEq,
    Earliest]
  constructor
  · rintro ⟨before, y, after, hitems, ⟨m', hy, rfl, rfl⟩, hnone⟩
    exact ⟨before, after, hitems, hnone, hy⟩
  · rintro ⟨before, after, hitems, hnone, hx⟩
    exact ⟨before, x, after, hitems, ⟨m, hx, rfl, rfl⟩, hnone⟩

theorem Earliest.mem (h : symbols.Earliest input x m) : x ∈ symbols.items := by
  obtain ⟨before, after, hitems, -, -⟩ := h
  simp [hitems]

theorem Earliest.take? (h : symbols.Earliest input x m) : x.take? input = some m := by
  obtain ⟨before, after, -, -, hx⟩ := h
  exact hx

end

end Catalog

/-! ## the loop -/

/-- what the loop makes of an input -/
inductive Scans (symbols : Catalog Symbol) : List Char → Scan → Prop where
  | noMatch {input : List Char} (h : symbols.firstTake? input = none) : Scans symbols input ⟨[], input, .noMatch⟩
  | sentinel {input m : List Char} {x : Symbol} (h : symbols.firstTake? input = some (x, m))
      (hx : x.isEndOfInput = true) : Scans symbols input ⟨[(x, m)], input, .sentinel⟩
  | emptyMatch {input : List Char} {x : Symbol} (h : symbols.firstTake? input = some (x, []))
      (hx : x.isEndOfInput = false) : Scans symbols input ⟨[(x, [])], input, .emptyMatch⟩
  | uncuttable {input m : List Char} {x : Symbol} (h : symbols.firstTake? input = some (x, m))
      (hx : x.isEndOfInput = false) (hm : m ≠ []) (hcut : dropBytes? (byteLength m) input = none) :
      Scans symbols input ⟨[(x, m)], input, .uncuttable⟩
  | token {input m rest : List Char} {x : Symbol} {s : Scan} (h : symbols.firstTake? input = some (x, m))
      (hx : x.isEndOfInput = false) (hm : m ≠ []) (hcut : dropBytes? (byteLength m) input = some rest)
      (later : Scans symbols rest s) : Scans symbols input (s.cons (x, m))

/-- **Scans end**, whatever the symbols take: every token that is not empty leaves a shorter rest. -/
theorem scans_ofChars (symbols : Catalog Symbol) {fuel : Nat} {input : List Char} (hfuel : input.length < fuel) :
    Scans symbols input (Scan.ofChars symbols fuel input) := by
  induction fuel generalizing input with
  | zero => cases hfuel
  | succ fuel ih =>
    rw [Scan.ofChars]
    cases h : symbols.firstTake? input with
    | none => exact .noMatch h
    | some token =>
      obtain ⟨x, m⟩ := token
      cases hx : x.isEndOfInput with
      | true => simpa [hx] using Scans.sentinel h hx
      | false =>
        by_cases hm : m = []
        · subst hm
          simpa [hx] using Scans.emptyMatch h hx
        · cases hcut : dropBytes? (byteLength m) input with
          | none => simpa [hx, hm, hcut] using Scans.uncuttable h hx hm hcut
          | some rest =>
            have hshorter := length_of_dropBytes? hcut (byteLength_ne_zero hm)
            have hlater := ih (Nat.lt_of_lt_of_le hshorter (Nat.le_of_lt_succ hfuel))
            simpa [hx, hm, hcut] using Scans.token h hx hm hcut hlater

/-- **Scans are determined**: the bounded loop gives what the loop makes of an input. -/
theorem Scans.ofChars_eq {symbols : Catalog Symbol} {input : List Char} {s : Scan} (h : Scans symbols input s)
    {fuel : Nat} (hfuel : input.length < fuel) : Scan.ofChars symbols fuel input = s := by
  induction h generalizing fuel with
  | noMatch h =>
    obtain ⟨n, rfl⟩ := Nat.exists_eq_add_one.2 (Nat.zero_lt_of_lt hfuel)
    simp [Scan.ofChars, h]
  | sentinel h hx =>
    obtain ⟨n, rfl⟩ := Nat.exists_eq_add_one.2 (Nat.zero_lt_of_lt hfuel)
    simp [Scan.ofChars, h, hx]
  | emptyMatch h hx =>
    obtain ⟨n, rfl⟩ := Nat.exists_eq_add_one.2 (Nat.zero_lt_of_lt hfuel)
    simp [Scan.ofChars, h, hx]
  | uncuttable h hx hm hcut =>
    obtain ⟨n, rfl⟩ := Nat.exists_eq_add_one.2 (Nat.zero_lt_of_lt hfuel)
    simp [Scan.ofChars, h, hx, hm, hcut]
  | token h hx hm hcut later ih =>
    obtain ⟨n, rfl⟩ := Nat.exists_eq_add_one.2 (Nat.zero_lt_of_lt hfuel)
    have hshorter := length_of_dropBytes? hcut (byteLength_ne_zero hm)
    have hlater := ih (Nat.lt_of_lt_of_le hshorter (Nat.le_of_lt_succ hfuel))
    simp [Scan.ofChars, h, hx, hm, hcut, hlater]

/-! ## what the tokens say of the input -/

/-- the texts of tokens, one after the other -/
def taken (tokens : List (Symbol × List Char)) : List Char := tokens.flatMap Prod.snd

/-- no text is lost or cut, and every token is the one that the symbols call for -/
structure Lossless (symbols : Catalog Symbol) (input : List Char) (s : Scan) : Prop where
  cuttable : s.stop ≠ .uncuttable
  text : taken s.tokens ++ s.rest = input
  earliest : ∀ before x m after, s.tokens = before ++ (x, m) :: after →
    ∃ remaining, taken before ++ remaining = input ∧ symbols.Earliest remaining x m
  nonempty : ∀ token ∈ s.tokens.dropLast, token.2 ≠ []
  sentinel : s.stop = .sentinel → s.rest = []

section

variable {symbols : Catalog Symbol} {input m : List Char} {x : Symbol}

/-- a scan that records one token and drops nothing -/
theorem Lossless.single {stop : Stop} (h : symbols.Earliest input x m) (hm : m = [])
    (hcut : stop ≠ .uncuttable) (hsentinel : stop = .sentinel → input = []) :
    Lossless symbols input ⟨[(x, m)], input, stop⟩ where
  cuttable := hcut
  text := by simp [taken, hm]
  earliest before y n after he := by
    cases before with
    | nil =>
      obtain ⟨⟨rfl, rfl⟩, -⟩ := List.cons.inj he
      exact ⟨input, rfl, h⟩
    | cons token before => simp at he
  nonempty := by simp
  sentinel := hsentinel

theorem Lossless.cons {rest : List Char} {s : Scan} (h : symbols.Earliest input x m) (hm : m ≠ [])
    (hinput : m ++ rest = input) (hs : Lossless symbols rest s) : Lossless symbols input (s.cons (x, m)) where
  cuttable := hs.cuttable
  text := by
    change m ++ taken s.tokens ++ s.rest = input
    rw [List.append_assoc, hs.text, hinput]
  earliest before y n after he := by
    cases before with
    | nil =>
      obtain ⟨⟨rfl, rfl⟩, -⟩ := List.cons.inj he
      exact ⟨input, rfl, h⟩
    | cons token before =>
      obtain ⟨rfl, htokens⟩ := List.cons.inj he
      obtain ⟨remaining, hremaining, hy⟩ := hs.earliest before y n after htokens
      refine ⟨remaining, ?_, hy⟩
      change m ++ taken before ++ remaining = input
      rw [List.append_assoc, hremaining, hinput]
  nonempty token htoken := by
    change token ∈ ((x, m) :: s.tokens).dropLast at htoken
    cases htokens : s.tokens with
    | nil => simp [htokens] at htoken
    | cons t ts =>
      rw [htokens, List.dropLast_cons_cons, ← htokens] at htoken
      rcases List.mem_cons.1 htoken with rfl | htoken
      · exact hm
      · exact hs.nonempty token htoken
  sentinel := hs.sentinel

end

/-- Along the loop: what is dropped is what was taken, because it was a prefix. -/
theorem Scans.lossless {symbols : Catalog Symbol}
    (hfront : ∀ x ∈ symbols.items, ∀ input m, x.take? input = some m → m <+: input) {input : List Char} {s : Scan}
    (h : Scans symbols input s) : Lossless symbols input s := by
  induction h with
  | noMatch h => exact ⟨by simp, rfl, by simp, by simp, by simp⟩
  | sentinel h hx =>
    have he := Catalog.firstTake?_eq_some.1 h
    obtain ⟨hm, hinput⟩ := Symbol.take?_of_isEndOfInput hx he.take?
    exact .single he hm (by simp) fun _ => hinput
  | emptyMatch h hx => exact .single (Catalog.firstTake?_eq_some.1 h) rfl (by simp) (by simp)
  | uncuttable h hx hm hcut =>
    have he := Catalog.firstTake?_eq_some.1 h
    obtain ⟨rest, rfl⟩ := hfront _ he.mem _ _ he.take?
    rw [dropBytes?_byteLength] at hcut
    cases hcut
  | token h hx hm hcut later ih =>
    have he := Catalog.firstTake?_eq_some.1 h
    obtain ⟨rest, rfl⟩ := hfront _ he.mem _ _ he.take?
    rw [dropBytes?_byteLength] at hcut
    obtain rfl := Option.some.inj hcut
    exact .cons he hm rfl ih

/-- **Scanning is lossless and ends.** Where expressions find prefixes only, the loop over any input ends in exactly one
way, which the scan computes: never by a cut inside of a character or behind the end; the texts of the tokens and the
rest make up the input; each token is that of the earliest symbol to match the input left at its place; only the last
token can be empty; and behind the sentinel nothing is left. -/
theorem scan_lossless {symbols : Catalog Symbol}
    (h : ∀ role id r, Symbol.plain role id (.regexp r) ∈ symbols.items → r.FindsPrefixes) (input : String) :
    (∀ s, Scans symbols input.toList s ↔ s = Scan.of symbols input) ∧
      Lossless symbols input.toList (Scan.of symbols input) := by
  have hfuel : input.toList.length < input.length + 1 := by
    rw [String.length_toList]
    exact Nat.lt_succ_self _
  have hscans : Scans symbols input.toList (Scan.of symbols input) := scans_ofChars symbols hfuel
  have hfront : ∀ x ∈ symbols.items, ∀ input m, x.take? input = some m → m <+: input := by
    intro x hx input m hm
    refine Symbol.take?_prefix (fun role id r he => ?_) hm
    exact h role id r (he ▸ hx)
  refine ⟨fun s => ⟨fun hs => (hs.ofChars_eq hfuel).symm, ?_⟩, hscans.lossless hfront⟩
  rintro rfl
  exact hscans

/-- digits at the front -/
def numbers : Regexp := ⟨"[0-9]+", .start, _, rfl⟩

/-- numbers, blanks, a letter of two bytes, and the end -/
def symbolsOfNumbers : Catalog Symbol := Catalog.ofItems [
  .plain .terminal "number" (.regexp numbers), .plain .terminal "space" (.string " "),
  .plain .terminal "e" (.character 'é'), .endOfInput]

theorem numbers_scanned :
    numbers.FindsPrefixes ∧ (Scan.of symbolsOfNumbers "42 é").stop = .sentinel ∧
      Lossless symbolsOfNumbers "42 é".toList (Scan.of symbolsOfNumbers "42 é") := by
  have hnumbers : numbers.FindsPrefixes := by
    intro input m
    exact Regexp.find?_prefix (Regexp.findsAtFront_of_no_branches rfl rfl input)
  refine ⟨hnumbers, by decide +kernel, (scan_lossless ?_ "42 é").2⟩
  intro role id r hr
  have hitems : symbolsOfNumbers.items = [.plain .terminal "number" (.regexp numbers),
    .plain .terminal "space" (.string " "), .plain .terminal "e" (.character 'é'), .endOfInput] := rfl
  rw [hitems] at hr
  simp only [List.mem_cons, Symbol.plain.injEq, Pattern.regexp.injEq, reduceCtorEq, and_false, List.not_mem_nil,
    or_false] at hr
  rw [hr.2.2]
  exact hnumbers

/-- without the anchor the letter in front is dropped for the digit behind it, which is found twice -/
example :
    let scan := Scan.of (Catalog.ofItems [.plain .terminal "number" (.regexp ⟨"[0-9]", .anywhere, _, rfl⟩)]) "x1"
    scan.tokens.map Prod.snd = [['1'], ['1']] ∧ scan.rest = [] := by
  decide +kernel

end Lexicon
