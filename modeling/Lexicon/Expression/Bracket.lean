/-
Bracketed classes. Between brackets stand characters, ranges, escapes, named classes such as `[:alpha:]`, and
brackets again; `&&`, `--` and `~~` combine what stands before with what follows, from left to right. A hyphen or a
closing bracket right at the start stands for itself.
-/
import Lexicon.Expression.Escape

namespace Lexicon.Expression

/-- the items read since the last operation, the latest first -/
structure Items where
  span : Span
  latest : List ClassTree

namespace Items

/-- no items, at a place -/
def none (p : Position) : Items := ⟨p.point, []⟩

/-- one more item -/
def add (u : Items) (t : ClassTree) : Items :=
  ⟨⟨if u.latest.isEmpty then t.span.start else u.span.start, t.span.stop⟩, t :: u.latest⟩

/-- the items as one part of a class -/
def toTree (u : Items) : ClassTree :=
  match u.latest with
  | [] => .empty u.span
  | [t] => t
  | ts => .union u.span ts.reverse

end Items

/-- the operation that waits for its right side -/
abbrev Waiting := Option (ClassOp × ClassTree)

/-- completes the waiting operation -/
def Waiting.complete (w : Waiting) (right : ClassTree) : ClassTree :=
  match w with
  | none => right
  | some (op, left) => .binary ⟨left.span.start, right.span.stop⟩ op left right

/-- the class with a bracketed name -/
def namedClass? (name : List Char) : Option NamedClass :=
  let names : List (String × NamedClass) := [
    ("alnum", .alnum), ("alpha", .alpha), ("ascii", .ascii), ("blank", .blank), ("cntrl", .cntrl),
    ("digit", .digit), ("graph", .graph), ("lower", .lower), ("print", .print), ("punct", .punct),
    ("space", .space), ("upper", .upper), ("word", .word), ("xdigit", .xdigit)]
  (names.find? fun p => p.1.toList == name).map Prod.snd

/-- reads a named class such as `[:alpha:]`, if one stands here -/
def readNamed? (r : Reader) : Option (ClassTree × Reader) := do
  let inner ← r.skip? ['[', ':']
  let negated := inner.rest.head? == some '^'
  let inner := if negated then inner.bump else inner
  let name := inner.rest.takeWhile (· != ':')
  let after ← (inner.skip name.length).skip? [':', ']']
  let c ← namedClass? name
  return (.named ⟨r.pos, after.pos⟩ c negated, after)

/-- reads one character or escape of a class -/
def readClassAtom (extended : Bool) (r : Reader) : Except Diagnosis (Atom × Reader) :=
  match r.rest with
  | [] => .error (Fault.classUnclosed.on r.here)
  | c :: _ => if c = '\\' then readEscape extended r else .ok (.literal ⟨r.next, c, false⟩, r.bump)

/-- reads a character, an escape or a range; `opening` is blamed if the class ends here -/
def readClassItem (extended : Bool) (opening : Span) (r : Reader) : Except Diagnosis (ClassTree × Reader) := do
  let (low, r) ← readClassAtom extended r
  let r := r.trim extended
  match r.rest with
  | [] => throw (Fault.classUnclosed.on opening)
  | c :: _ =>
    let ahead := r.peek extended
    if c != '-' || ahead == some ']' || ahead == some '-' then
      let t ← low.toClassTree
      return (t, r)
    else
      let r := r.advance extended
      if r.rest.isEmpty then throw (Fault.classUnclosed.on opening)
      let (high, r) ← readClassAtom extended r
      let span : Span := ⟨low.span.start, high.span.stop⟩
      let a ← low.toRangeEnd
      let b ← high.toRangeEnd
      if b.char < a.char then throw (Fault.rangeReversed.on span)
      return (.range span a b, r)

/-- reads hyphens that stand for themselves at the start of a class -/
def readHyphens (extended : Bool) (start : Position) : Nat → Items → Reader → Except Diagnosis (Items × Reader)
  | 0, u, r => .ok (u, r)
  | fuel + 1, u, r =>
    match r.rest with
    | '-' :: _ =>
      let u := u.add (.literal ⟨r.next, '-', false⟩)
      let r := r.advance extended
      if r.rest.isEmpty then .error (Fault.classUnclosed.on start.point) else readHyphens extended start fuel u r
    | _ => .ok (u, r)

/-- the opening of a class: its span, whether it means the others, and the items already read -/
structure Opening where
  span : Span
  negated : Bool
  items : Items

/-- reads the opening of a class from its bracket on -/
def readOpening (extended : Bool) (r : Reader) : Except Diagnosis (Opening × Reader) := do
  let start := r.pos
  let r := r.advance extended
  if r.rest.isEmpty then throw (Fault.classUnclosed.on ⟨start, r.pos⟩)
  let negated := r.rest.head? == some '^'
  let r := if negated then r.advance extended else r
  if r.rest.isEmpty then throw (Fault.classUnclosed.on ⟨start, r.pos⟩)
  let (items, r) ← readHyphens extended start (r.rest.length + 1) (Items.none r.pos) r
  match items.latest, r.rest with
  | [], ']' :: _ =>
    let items := items.add (.literal ⟨r.next, ']', false⟩)
    let r := r.advance extended
    if r.rest.isEmpty then throw (Fault.classUnclosed.on ⟨start, r.pos⟩)
    return (⟨⟨start, r.pos⟩, negated, items⟩, r)
  | _, _ => return (⟨⟨start, r.pos⟩, negated, items⟩, r)

/-- the operation that stands here, if one does -/
def classOp? (r : Reader) : Option ClassOp :=
  match r.rest with
  | '&' :: '&' :: _ => some .inter
  | '-' :: '-' :: _ => some .difference
  | '~' :: '~' :: _ => some .symmetricDifference
  | _ => none

/-- reads a class up to its closing bracket; `opening` is the opening of the class -/
def readItems (extended : Bool) (opening : Opening) :
    Nat → Waiting → Items → Reader → Except Diagnosis (ClassTree × Reader)
  | 0, _, _, _ => .error (Fault.classUnclosed.on opening.span)
  | fuel + 1, waiting, items, r => do
    let r := r.trim extended
    match r.rest with
    | [] => throw (Fault.classUnclosed.on opening.span)
    | ']' :: _ =>
      let r := r.bump
      return (.bracketed ⟨opening.span.start, r.pos⟩ opening.negated (waiting.complete items.toTree), r)
    | '[' :: _ =>
      match readNamed? r with
      | some (t, r) => readItems extended opening fuel waiting (items.add t) r
      | none =>
        let (nested, r) ← readOpening extended r
        let (t, r) ← readItems extended nested fuel none nested.items r
        readItems extended opening fuel waiting (items.add t) r
    | _ =>
      match classOp? r with
      | some op =>
        let r := r.skip 2
        readItems extended opening fuel (some (op, waiting.complete items.toTree)) (Items.none r.pos) r
      | none =>
        let (t, r) ← readClassItem extended opening.span r
        readItems extended opening fuel waiting (items.add t) r

/-- reads a bracketed class from its opening bracket on -/
def readBracketed (extended : Bool) (r : Reader) : Except Diagnosis (ClassTree × Reader) := do
  let (opening, inner) ← readOpening extended r
  readItems extended opening (r.rest.length + 1) none opening.items inner

end Lexicon.Expression
