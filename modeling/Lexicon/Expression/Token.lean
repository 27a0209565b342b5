/-
The pieces that an expression is read in: whole parts without inner structure, brackets of groups, bars, and
repetitions of the part before. `readToken` reads the piece at hand; it is told whether the extended form is in
force and whether there is a part to repeat.
-/
import Lexicon.Expression.Bracket

namespace Lexicon.Expression

/-- what an opening parenthesis starts -/
inductive GroupMark where
  /-- a capture -/
  | plain
  /-- a capture with a name, which stands at the span -/
  | named (name : List Char) (span : Span)
  /-- a group that sets flags for its content -/
  | scoped (flags : FlagSettings)

/-- a piece of an expression -/
inductive Token where
  | part (t : Tree)
  | opening (span : Span) (mark : GroupMark)
  | closing
  | bar
  | repetition (min : Nat) (max : Option Nat) (greedy : Bool)

/-! ## flags -/

/-- the flag with a letter -/
def flagOf? (c : Char) : Option Flag :=
  if c = 'i' then some .caseInsensitive
  else if c = 'm' then some .multiLine
  else if c = 's' then some .dotAll
  else if c = 'U' then some .swapGreed
  else if c = 'u' then some .unicode
  else if c = 'R' then some .crlf
  else if c = 'x' then some .extended
  else none

/-- a flag, or the hyphen that switches the following ones off (none), and where it stands -/
abbrev FlagItem := Option Flag × Span

/-- reads flags up to a colon or a closing parenthesis; `items` are those read, the latest first -/
def readFlags (items : List FlagItem) : List Char → Position → Except Diagnosis (List FlagItem × Reader)
  | [], p => .error (Fault.flagUnfinished.on p.point)
  | c :: cs, p =>
    if c = ':' ∨ c = ')' then
      match items with
      | (none, s) :: _ => .error (Fault.flagDangling.on s)
      | _ => .ok (items.reverse, ⟨c :: cs, p⟩)
    else
      let here := p.over c
      let flag := if c = '-' then none else flagOf? c
      if c ≠ '-' ∧ flag = none then .error (Fault.flagUnknown.on here)
      else
        match items.reverse.find? fun i => i.1 == flag with
        | some (_, first) =>
          .error ⟨if flag = none then .flagNegatedTwice else .flagDuplicate, here, some first⟩
        | none => readFlags ((flag, here) :: items) cs (p.past c)

/-- the settings that flags in the order written make -/
def settingsOf (on : Bool) : List FlagItem → FlagSettings
  | [] => []
  | (none, _) :: rest => settingsOf false rest
  | (some f, _) :: rest => (f, on) :: settingsOf on rest

/-! ## groups -/

/-- whether c may stand in the name of a capture -/
def isNameChar (first : Bool) (c : Char) : Bool :=
  c == '_' || Unicode.alphabeticSet.contains c ||
    (!first && (c == '.' || c == '[' || c == ']' || Unicode.numberSet.contains c))

/-- reads the name of a capture up to its closing angle; `acc` is what was read of it, in reverse -/
def readCaptureName (start : Position) (acc : List Char) :
    List Char → Position → Except Diagnosis (List Char × Span × Reader)
  | [], p => .error (Fault.nameUnfinished.on p.point)
  | c :: cs, p =>
    if c = '>' then
      if acc.isEmpty then .error (Fault.nameEmpty.on start.point)
      else .ok (acc.reverse, ⟨start, p⟩, ⟨cs, p.past c⟩)
    else if isNameChar acc.isEmpty c then readCaptureName start (c :: acc) cs (p.past c)
    else .error (Fault.nameInvalid.on (p.over c))

/-- past a mark of an assertion about the surroundings, if one comes next -/
def lookaround? (r : Reader) : Option Reader :=
  [['?', '='], ['?', '!'], ['?', '<', '='], ['?', '<', '!']].findSome? r.skip?

/-- reads what an opening parenthesis starts -/
def readOpenGroup (extended : Bool) (r : Reader) : Except Diagnosis (Token × Reader) := do
  let mouth := r.next
  let inner := r.advance extended
  if let some after := lookaround? inner then throw (Fault.lookaround.on ⟨mouth.start, after.pos⟩)
  match (inner.skip? ['?', 'P', '<']).orElse fun _ => inner.skip? ['?', '<'] with
  | some r =>
    let (name, span, r) ← readCaptureName r.pos [] r.rest r.pos
    return (.opening mouth (.named name span), r)
  | none =>
    match inner.skip? ['?'] with
    | none => return (.opening mouth .plain, inner)
    | some r =>
      if r.rest.isEmpty then throw (Fault.groupUnclosed.on mouth)
      let (items, r) ← readFlags [] r.rest r.pos
      let after := r.bump
      if r.rest.head? == some ')' then
        if items.isEmpty then throw (Fault.repetitionMissing.on inner.here)
        return (.part (.flags ⟨mouth.start, after.pos⟩ (settingsOf true items)), after)
      else return (.opening mouth (.scoped (settingsOf true items)), after)

/-! ## repetitions -/

/-- the greatest count -/
def countLimit : Nat := 4294967295

/-- reads decimal digits as far as they go -/
def readDecimalDigits (extended : Bool) : Nat → List Char → Reader → List Char × Reader
  | 0, acc, r => (acc.reverse, r)
  | fuel + 1, acc, r =>
    match r.rest with
    | [] => (acc.reverse, r)
    | c :: _ =>
      if c.isDigit then readDecimalDigits extended fuel (c :: acc) (r.advance extended) else (acc.reverse, r)

/-- the number that decimal digits spell -/
def decimalValue (digits : List Char) : Nat := digits.foldl (fun n c => 10 * n + (c.toNat - 48)) 0

/-- reads a count with the blanks around it: the count or what is wrong with it, and the reader behind it -/
def readDecimal (extended : Bool) (r : Reader) : Except Diagnosis Nat × Reader :=
  let r := Reader.pastSpaces r.rest r.pos
  let (digits, after) := readDecimalDigits extended (r.rest.length + 1) [] r
  let span : Span := ⟨r.pos, after.pos⟩
  let behind := Reader.pastSpaces after.rest after.pos
  let behind := if behind.pos = after.pos then after else behind.trim extended
  if digits.isEmpty then (.error (Fault.decimalMissing.on span), behind)
  else if countLimit < decimalValue digits then (.error (Fault.decimalInvalid.on span), behind)
  else (.ok (decimalValue digits), behind)

/-- reads a count in braces from its opening brace on -/
def readCount (extended : Bool) (r : Reader) : Except Diagnosis (Token × Reader) := do
  let start := r.pos
  let unclosed (r : Reader) : Diagnosis := Fault.countUnclosed.on ⟨start, r.pos⟩
  let r := r.advance extended
  if r.rest.isEmpty then throw (unclosed r)
  let (least, r) := readDecimal extended r
  if r.rest.isEmpty then throw (unclosed r)
  let (min, max, r) ←
    if r.rest.head? == some ',' then do
      let r := r.advance extended
      if r.rest.isEmpty then throw (unclosed r)
      if r.rest.head? == some '}' then
        let n ← least
        pure (n, none, r)
      else
        let n ← least
        let (most, r) := readDecimal extended r
        let m ← most
        pure (n, some m, r)
    else do
      let n ← least
      pure (n, some n, r)
  if r.rest.head? != some '}' then throw (unclosed r)
  let r := r.advance extended
  let lazy := r.rest.head? == some '?'
  let r := if lazy then r.bump else r
  if max.any (· < min) then throw (Fault.countReversed.on ⟨start, r.pos⟩)
  return (.repetition min max (!lazy), r)

/-- reads a one-character repetition -/
def readRepetition (min : Nat) (max : Option Nat) (r : Reader) : Token × Reader :=
  let r := r.bump
  if r.rest.head? == some '?' then (.repetition min max false, r.bump) else (.repetition min max true, r)

/-! ## all pieces -/

/-- reads the piece at hand, which starts with c -/
def readToken (extended repeatable : Bool) (c : Char) (r : Reader) : Except Diagnosis (Token × Reader) :=
  if c = '(' then readOpenGroup extended r
  else if c = ')' then .ok (.closing, r.bump)
  else if c = '|' then .ok (.bar, r.bump)
  else if c = '[' then do
    let (t, r) ← readBracketed extended r
    match t with
    | .bracketed s n b => return (.part (.bracketed s n b), r)
    | t => return (.part (.bracketed t.span false t), r)
  else if c = '?' ∨ c = '*' ∨ c = '+' ∨ c = '{' then
    if !repeatable then .error (Fault.repetitionMissing.on r.here)
    else if c = '?' then .ok (readRepetition 0 (some 1) r)
    else if c = '*' then .ok (readRepetition 0 none r)
    else if c = '+' then .ok (readRepetition 1 none r)
    else readCount extended r
  else if c = '\\' then do
    let (a, r) ← readEscape extended r
    return (.part a.toTree, r)
  else if c = '.' then .ok (.part (.dot r.next), r.bump)
  else if c = '^' then .ok (.part (.mark r.next .lineStart), r.bump)
  else if c = '$' then .ok (.part (.mark r.next .lineEnd), r.bump)
  else .ok (.part (.literal ⟨r.next, c, false⟩), r.bump)

end Lexicon.Expression
