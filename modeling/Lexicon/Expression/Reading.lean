/-
Reading a whole expression. `Builder` is what stands open while the pieces come in: the parts of the current run,
and below them the groups and alternations it is in. `Tree.read` feeds it one piece after the other and closes it at
the end; then it checks how deep the parts are nested.
-/
import Lexicon.Expression.Token

namespace Lexicon.Expression

/-- parts that follow one another, the latest first, and where they start -/
structure Run where
  start : Position
  latest : List Tree

namespace Run

/-- no parts, at a place -/
def none (p : Position) : Run := ⟨p, []⟩

/-- one more part -/
def add (u : Run) (t : Tree) : Run := ⟨u.start, t :: u.latest⟩

/-- the parts as one, ending at a place -/
def toTree (u : Run) (stop : Position) : Tree :=
  match u.latest with
  | [] => .empty ⟨u.start, stop⟩
  | [t] => t
  | ts => .concat ⟨u.start, stop⟩ ts.reverse

end Run

/-- what a run stands in -/
inductive Frame where
  /-- a group: the run around it, its opening, its kind, and whether the extended form was in force before it -/
  | group (outer : Run) (opening : Span) (kind : Group) (extended : Bool)
  /-- an alternation: where it starts and its branches, the latest first -/
  | alternation (start : Position) (latest : List Tree)

/-- what stands open while an expression is read -/
structure Builder where
  stack : List Frame
  run : Run
  extended : Bool
  captures : Nat
  names : List (List Char × Span)

namespace Builder

/-- nothing read yet -/
def start : Builder := ⟨[], Run.none Position.start, false, 0, []⟩

/-- whether there is a part to repeat -/
def repeatable (b : Builder) : Bool :=
  match b.run.latest with
  | [] => false
  | t :: _ => t.isRepeatable

/-- adds a part; a flag setting may change the form in force -/
def addPart (b : Builder) (t : Tree) : Builder :=
  match t with
  | .flags _ fs => { b with run := b.run.add t, extended := (fs.setting? .extended).getD b.extended }
  | _ => { b with run := b.run.add t }

/-- repeats the latest part, the repetition ending at a place -/
def addRepetition (b : Builder) (min : Nat) (max : Option Nat) (greedy : Bool) (stop : Position) : Builder :=
  match b.run.latest with
  | [] => b
  | t :: rest => { b with run := ⟨b.run.start, .repetition ⟨t.span.start, stop⟩ min max greedy t :: rest⟩ }

/-- opens a group, whose content starts at a place -/
def openGroup (b : Builder) (opening : Span) (mark : GroupMark) (inner : Position) : Except Diagnosis Builder :=
  let enter (kind : Group) (extended : Bool) (captures : Nat) (names : List (List Char × Span)) : Builder :=
    ⟨.group b.run opening kind b.extended :: b.stack, Run.none inner, extended, captures, names⟩
  match mark with
  | .plain => .ok (enter (.capture (b.captures + 1)) b.extended (b.captures + 1) b.names)
  | .named name span =>
    match b.names.find? fun n => n.1 == name with
    | some (_, first) => .error ⟨.nameDuplicate, span, some first⟩
    | none => .ok (enter (.capture (b.captures + 1)) b.extended (b.captures + 1) ((name, span) :: b.names))
  | .scoped fs => .ok (enter (.scoped fs) ((fs.setting? .extended).getD b.extended) b.captures b.names)

/-- starts another branch; the bar stands between two places -/
def addBar (b : Builder) (before after : Position) : Builder :=
  let branch := b.run.toTree before
  match b.stack with
  | .alternation start latest :: rest =>
    { b with stack := .alternation start (branch :: latest) :: rest, run := Run.none after }
  | stack => { b with stack := .alternation b.run.start [branch] :: stack, run := Run.none after }

/-- closes a group; the parenthesis stands between two places -/
def closeGroup (b : Builder) (before after : Position) : Except Diagnosis Builder :=
  let body := b.run.toTree before
  let leave (body : Tree) (outer : Run) (opening : Span) (kind : Group) (extended : Bool) (rest : List Frame) :
      Builder :=
    { b with stack := rest, run := outer.add (.group ⟨opening.start, after⟩ kind body), extended := extended }
  match b.stack with
  | .group outer opening kind extended :: rest => .ok (leave body outer opening kind extended rest)
  | .alternation start latest :: .group outer opening kind extended :: rest =>
    .ok (leave (.alternation ⟨start, before⟩ (body :: latest).reverse) outer opening kind extended rest)
  | _ => .error (Fault.groupUnopened.on ⟨before, after⟩)

/-- closes the expression at a place -/
def finish (b : Builder) (stop : Position) : Except Diagnosis Tree :=
  let body := b.run.toTree stop
  match b.stack with
  | [] => .ok body
  | .group _ opening _ _ :: _ => .error (Fault.groupUnclosed.on opening)
  | .alternation start latest :: rest =>
    match rest with
    | .group _ opening _ _ :: _ => .error (Fault.groupUnclosed.on opening)
    | _ => .ok (.alternation ⟨start, stop⟩ (body :: latest).reverse)

/-- takes a piece that stands between two places -/
def add (b : Builder) (t : Token) (before after : Position) : Except Diagnosis Builder :=
  match t with
  | .part t => .ok (b.addPart t)
  | .opening span mark => b.openGroup span mark after
  | .closing => b.closeGroup before after
  | .bar => .ok (b.addBar before after)
  | .repetition min max greedy => .ok (b.addRepetition min max greedy after)

end Builder

/-- reads pieces to the end of the text -/
def readPieces : Nat → Builder → Reader → Except Diagnosis Tree
  | 0, b, r => b.finish r.pos
  | fuel + 1, b, r =>
    let r := r.trim b.extended
    match r.rest with
    | [] => b.finish r.pos
    | c :: _ => do
      let (t, after) ← readToken b.extended b.repeatable c r
      let b ← b.add t r.pos after.pos
      readPieces fuel b after

/-! ## nesting -/

mutual

/-- the first part of a class that is nested too deep, the class being that deep -/
def ClassTree.tooDeep? (depth : Nat) : ClassTree → Option Span
  | .bracketed s _ body => if nestLimit ≤ depth then some s else body.tooDeep? (depth + 1)
  | .union s items => if nestLimit ≤ depth then some s else ClassTree.anyTooDeep? (depth + 1) items
  | .binary s _ left right =>
    if nestLimit ≤ depth then some s
    else (left.tooDeep? (depth + 1)).orElse fun _ => right.tooDeep? (depth + 1)
  | _ => none

/-- the first part of several that is nested too deep -/
def ClassTree.anyTooDeep? (depth : Nat) : List ClassTree → Option Span
  | [] => none
  | t :: ts => (t.tooDeep? depth).orElse fun _ => ClassTree.anyTooDeep? depth ts

end

mutual

/-- the first part that is nested too deep, the expression being that deep -/
def Tree.tooDeep? (depth : Nat) : Tree → Option Span
  | .bracketed s _ body => if nestLimit ≤ depth then some s else body.tooDeep? (depth + 1)
  | .repetition s _ _ _ body => if nestLimit ≤ depth then some s else body.tooDeep? (depth + 1)
  | .group s _ body => if nestLimit ≤ depth then some s else body.tooDeep? (depth + 1)
  | .alternation s branches => if nestLimit ≤ depth then some s else Tree.anyTooDeep? (depth + 1) branches
  | .concat s parts => if nestLimit ≤ depth then some s else Tree.anyTooDeep? (depth + 1) parts
  | _ => none

/-- the first part of several that is nested too deep -/
def Tree.anyTooDeep? (depth : Nat) : List Tree → Option Span
  | [] => none
  | t :: ts => (t.tooDeep? depth).orElse fun _ => Tree.anyTooDeep? depth ts

end

/-- reads an expression -/
def Tree.read (text : List Char) : Except Diagnosis Tree := do
  let tree ← readPieces (text.length + 1) Builder.start (Reader.ofText text)
  match tree.tooDeep? 0 with
  | some span => throw (Fault.nestedTooDeep.on span)
  | none => return tree

end Lexicon.Expression
