/-
How large the program of a form becomes, in bytes. A form is made into two programs, one that reads forward and one
that reads backward, and neither may be larger than `sizeLimit`. Every state takes 32 bytes, a branch of a choice 4 more and a
further range of bytes 8 more. A character outside ASCII takes a state per byte of its encoding.

A set of such characters takes the states of a tree of its byte ranges, in which equal ends stand once. How many ends
are found equal depends on the numbers of the states, because a state made before is recalled by a hash of these
numbers (`Recall`); so the states are counted in the order in which they are made. `Plan` says what is made in which
order, and `Plan.count` counts it, up to the limit. No program is built for it.
-/
import Lexicon.Expression.Encoding
import Lexicon.Expression.Fault
import Lexicon.Expression.Form
import Lexicon.Expression.Recall

namespace Lexicon.Expression

open Encoding (ByteRange)

/-! ## counting -/

/-- the bytes of one state -/
def stateSize : Nat := 32

/-- the bytes of a branch of a choice -/
def branchSize : Nat := 4

/-- the bytes of a range of bytes, where a state has several -/
def rangeSize : Nat := 8

/-- how many states were made, and the bytes they take -/
structure Tally where
  states : Nat
  bytes : Nat
  deriving DecidableEq

/-- makes states that take some bytes more, if the limit allows it -/
def Tally.add? (t : Tally) (states more : Nat) : Option Tally :=
  let bytes := t.bytes + stateSize * states + more
  if bytes ≤ sizeLimit then some ⟨t.states + states, bytes⟩ else none

/-! ## sets, read forward -/

/-- what was made, and what of it is recalled -/
structure Made where
  tally : Tally
  memory : Recall

/-- the number of a state with the given ranges and followers; it is made unless it is recalled -/
def Made.state? (m : Made) (key : List Nat) (more : Nat) : Option (Nat × Made) :=
  match m.memory.get? key with
  | some n => some (n, m)
  | none => (m.tally.add? 1 more).map fun t => (m.tally.states, ⟨t, m.memory.keep key m.tally.states⟩)

/-- a state that is still open: the ranges with their followers so far, and the range that is last yet -/
structure OpenState where
  edges : List Nat
  last : ByteRange

/-- the edges of an open state whose last range leads to the state n -/
def OpenState.close (s : OpenState) (n : Nat) : List Nat := s.edges ++ [s.last.1, s.last.2, n]

/-- makes a state with the given edges -/
def edgesState? (edges : List Nat) (m : Made) : Option (Nat × Made) :=
  m.state? edges (rangeSize * (edges.length / 3))

/-- makes the open states, the last one first: the number of the first of them, or of the end -/
def closeAll? (stop : Nat) : List OpenState → Made → Option (Nat × Made)
  | [], m => some (stop, m)
  | s :: deeper, m => do
    let (n, m) ← closeAll? stop deeper m
    edgesState? (s.close n) m

/-- adds a sequence to the open states; those below the place where it branches off are made -/
def branchOff? (stop : Nat) : List OpenState → List ByteRange → Made → Option (List OpenState × Made)
  | [], rs, m => some (rs.map fun r => ⟨[], r⟩, m)
  | _ :: _, [], m => some ([], m)
  | s :: deeper, r :: rs, m =>
    if s.last = r then do
      let (open', m) ← branchOff? stop deeper rs m
      return (s :: open', m)
    else do
      let (n, m) ← closeAll? stop deeper m
      return (⟨s.close n, r⟩ :: rs.map fun r => ⟨[], r⟩, m)

/-- adds sequences in increasing order, and makes what is open at the end -/
def treeStates? (stop : Nat) : List OpenState → List (List ByteRange) → Made → Option (Nat × Made)
  | path, [], m => closeAll? stop path m
  | path, s :: rest, m => do
    let (path, m) ← branchOff? stop path s m
    treeStates? stop path rest m

/-- counts the states of a set that is read forward: the end, and a tree in which equal ends stand once -/
def countForward? (sequences : List (List ByteRange)) (t : Tally) : Option Tally := do
  let m ← t.add? 1 0
  let (_, m) ← treeStates? t.states [] sequences ⟨m, Recall.empty 10000⟩
  return m.tally

/-! ## sets, read backward -/

/-- makes the states of a sequence, each leading to the one before it -/
def chainStates? : List ByteRange → Nat → Made → Option Made
  | [], _, m => some m
  | r :: rs, n, m => do
    let (n, m) ← m.state? [n, r.1, r.2] 0
    chainStates? rs n m

/-- makes the states of sequences, each a branch of one choice -/
def chainsStates? (stop : Nat) : List (List ByteRange) → Made → Option Made
  | [], m => some m
  | s :: rest, m => do
    let m ← chainStates? s stop m
    let t ← m.tally.add? 0 branchSize
    chainsStates? stop rest ⟨t, m.memory⟩

/-- counts the states of a set that is read backward: a choice, the end, and the chains of bytes -/
def countBackward? (sequences : List (List ByteRange)) (t : Tally) : Option Tally := do
  let m ← t.add? 2 0
  let m ← chainsStates? (t.states + 1) sequences ⟨m, Recall.empty 1000⟩
  return m.tally

/-! ## alternatives of literals -/

/-- the first elements, each once -/
def heads (tails : List (List Nat)) : List Nat := (tails.filterMap List.head?).eraseDups

/-- what follows the first element b -/
def behind (b : Nat) (tails : List (List Nat)) : List (List Nat) :=
  tails.filterMap fun t => if t.head? = some b then some t.tail else none

/-- the states of the tree of literals, and the bytes that they take more. A state is a choice between runs of
literals that no end of a literal parts; a leaf needs none. `fuel` bounds the length of the literals. -/
def treeSize : Nat → List (List Nat) → Nat × Nat
  | 0, _ => (0, 0)
  | fuel + 1, tails =>
    let runs := (tails.splitOn []).filter fun run => !run.isEmpty
    if runs.isEmpty then (0, 0)
    else
      let ends := ((tails.dropWhile List.isEmpty).filter List.isEmpty).length + if [] ∈ tails.head? then 1 else 0
      let sizes := runs.map fun run =>
        let bs := heads run
        let below := bs.map fun b => treeSize fuel (behind b run)
        (1 + (below.map Prod.fst).sum, (if bs.length = 1 then 0 else rangeSize * bs.length) + (below.map Prod.snd).sum)
      (1 + (sizes.map Prod.fst).sum, branchSize * (runs.length + ends) + (sizes.map Prod.snd).sum)

/-- the texts of forms, if all of them are literals -/
def literals? : List Form → Option (List (List Char))
  | [] => some []
  | .literal a :: rest => (literals? rest).map (a :: ·)
  | _ => none

/-! ## plans -/

/-- the ways to read a text -/
inductive Direction where
  | forward
  | backward
  deriving DecidableEq

/-- what is made, in order -/
inductive Plan where
  /-- states that take some bytes more -/
  | states (count more : Nat)
  /-- the states of a set -/
  | set (sequences : List (List ByteRange))
  /-- one after the other -/
  | both (first second : Plan)
  /-- the same over and over -/
  | copies (count : Nat) (body : Plan)

/-- does something over and over, as long as there is a result -/
def repeatedly (f : Tally → Option Tally) : Nat → Tally → Option Tally
  | 0, t => some t
  | n + 1, t =>
    match f t with
    | none => none
    | some t => repeatedly f n t

/-- counts what is made, up to the limit -/
def Plan.count? (d : Direction) : Plan → Tally → Option Tally
  | .states n more, t => t.add? n more
  | .set sequences, t =>
    match d with
    | .forward => countForward? sequences t
    | .backward => countBackward? sequences t
  | .both p q, t => (p.count? d t).bind (q.count? d)
  | .copies n p, t => repeatedly (p.count? d) n t

/-- plans one after the other -/
def Plan.all (ps : List Plan) : Plan := ps.foldr .both (.states 0 0)

/-- the plan of a set -/
def setPlan (s : CharSet) : Plan :=
  if s.isAscii then .states 2 (rangeSize * s.ranges.length) else .set (Encoding.ofSet s)

/-- the plan of alternatives of literals: the end, and a tree of their bytes -/
def literalsPlan (d : Direction) (texts : List (List Char)) : Plan :=
  let texts := texts.map fun t =>
    match d with
    | .forward => Encoding.textBytes t
    | .backward => (Encoding.textBytes t).reverse
  let (states, more) := treeSize ((texts.map List.length).foldl max 0 + 1) texts
  .states (states + 1) more

/-- the plan of alternatives: the choice stands behind the first two of them -/
def choicePlan (ps : List Plan) : Plan :=
  let choice := Plan.states 2 (branchSize * ps.length)
  match ps with
  | p :: q :: rest => .all (p :: q :: choice :: rest)
  | _ => .all (ps ++ [choice])

/-- the plan of a repetition without an upper bound; `consumes` tells whether the body takes a character -/
def anyPlan (consumes : Bool) (min : Nat) (body : Plan) : Plan :=
  let choice := Plan.states 1 (2 * branchSize)
  if min = 0 then
    if consumes then .both choice body else .all [body, choice, choice, .states 1 0]
  else .both (.copies min body) choice

/-- the plan of a repetition with an upper bound -/
def boundedPlan (min max : Nat) (body : Plan) : Plan :=
  let choice := Plan.states 1 (2 * branchSize)
  let front := if min = 0 then .states 1 0 else .copies min body
  if min = 0 ∧ max = 1 then .all [choice, body, .states 1 0]
  else if min = max then front
  else .all [front, .states 1 0, .copies (max - min) (.both choice body)]

/-! ## forms -/

mutual

/-- whether no set in a form is empty -/
def Form.isFilled : Form → Bool
  | .set s => !s.isEmpty
  | .repetition _ _ _ a => a.isFilled
  | .capture _ a => a.isFilled
  | .concat as => Form.allFilled as
  | .alternation as => Form.allFilled as
  | _ => true

/-- whether no set in the forms is empty -/
def Form.allFilled : List Form → Bool
  | [] => true
  | a :: as => a.isFilled && Form.allFilled as

end

mutual

/-- whether a match can be at one place only, which `l` tells, and where reading starts -/
def Form.isHeldBy (d : Direction) (l : Look) : Form → Bool
  | .look k => k == l
  | .repetition min _ _ a => decide (0 < min) && a.isHeldBy d l
  | .capture _ a => a.isHeldBy d l
  | .concat as =>
    match d with
    | .forward => Form.startHeldBy d l as
    | .backward => (Form.endHeldBy d l as).1
  | .alternation as => !as.isEmpty && Form.allHeldBy d l as
  | _ => false

/-- the same of forms one after the other, of which the first that takes a character is the last that counts -/
def Form.startHeldBy (d : Direction) (l : Look) : List Form → Bool
  | [] => false
  | a :: as => a.isHeldBy d l || (a.isBlank && Form.startHeldBy d l as)

/-- the same from the end, and whether all of the forms take no character -/
def Form.endHeldBy (d : Direction) (l : Look) : List Form → Bool × Bool
  | [] => (false, true)
  | a :: as =>
    let (held, blank) := Form.endHeldBy d l as
    (held || (blank && a.isHeldBy d l), blank && a.isBlank)

/-- the same of each form -/
def Form.allHeldBy (d : Direction) (l : Look) : List Form → Bool
  | [] => true
  | a :: as => a.isHeldBy d l && Form.allHeldBy d l as

end

mutual

/-- the plan of a form -/
def Form.plan (d : Direction) : Form → Plan
  | .empty => .states 1 0
  | .literal a => .states (Encoding.textBytes a).length 0
  | .set s => setPlan s
  | .look _ => .states 1 0
  | .capture _ a =>
    match d with
    | .forward => .all [.states 1 0, a.plan d, .states 1 0]
    | .backward => a.plan d
  | .concat as =>
    match d with
    | .forward => .all (Form.plans d as)
    | .backward => .all (Form.plans d as).reverse
  | .alternation as =>
    match literals? as with
    | some texts => literalsPlan d texts
    | none => choicePlan (Form.plans d as)
  | .repetition min max _ a =>
    match max with
    | none => anyPlan (a.isFilled && a.consumes) min (a.plan d)
    | some n => boundedPlan min n (a.plan d)

/-- the plans of forms -/
def Form.plans (d : Direction) : List Form → List Plan
  | [] => []
  | a :: as => a.plan d :: Form.plans d as

end

/-- the plan of what stands in front of a form, so that a match can be anywhere unless the form holds it -/
def searchPlan (d : Direction) (f : Form) : Plan :=
  let l := match d with
    | .forward => Look.textStart
    | .backward => Look.textEnd
  if f.isHeldBy d l then .states 1 0 else .states 3 (2 * branchSize + rangeSize)

/-- the plan of the program of a form; on the way forward it also notes where the match is -/
def Form.programPlan (d : Direction) (f : Form) : Plan :=
  match d with
  | .forward => .all [searchPlan d f, .states 1 0, f.plan d, .states 2 0]
  | .backward => .all [searchPlan d f, f.plan d, .states 1 0]

/-- whether a form is so many literals that no program is made for it -/
def Form.isWordList : Form → Bool
  | .alternation as => decide (3000 ≤ as.length) && (literals? as).isSome
  | _ => false

/-- whether the programs of a form keep to the limit -/
def Form.fits (f : Form) : Bool :=
  f.isWordList ||
    (((f.programPlan .forward).count? .forward ⟨0, 0⟩).isSome && ((f.programPlan .backward).count? .backward ⟨0, 0⟩).isSome)

end Lexicon.Expression
