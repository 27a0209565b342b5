/-
Expressions free of spelling: flags are applied, classes are sets, groups that do not capture are gone. Forms are
built with `ofSet`, `concat`, `alternation` and `repetition`, which keep them simple: neighbouring literals are
joined, sequences and alternations are flat, alternatives of one character each are a set, and a beginning common to
all alternatives stands once in front of them.
-/
import Lexicon.Unicode.CharSet

namespace Lexicon.Expression

/-- kinds of word edges -/
inductive WordEdge where
  | edge
  | notEdge
  | start
  | stop
  | startHalf
  | stopHalf
  deriving DecidableEq

/-- what can be asked of a place in the input -/
inductive Look where
  | textStart
  | textEnd
  | lineStart
  | lineEnd
  /-- the same, a carriage return ending lines too -/
  | lineStartCrlf
  | lineEndCrlf
  /-- a word edge, words being made of ASCII characters only or of all word characters -/
  | word (side : WordEdge) (ascii : Bool)
  deriving DecidableEq

/-- an expression without its spelling -/
inductive Form where
  | empty
  | literal (text : List Char)
  | set (s : CharSet)
  | look (l : Look)
  | repetition (min : Nat) (max : Option Nat) (greedy : Bool) (body : Form)
  | capture (index : Nat) (body : Form)
  | concat (parts : List Form)
  | alternation (branches : List Form)

namespace Form

mutual

/-- whether two forms are the same -/
def same : Form → Form → Bool
  | .empty, .empty => true
  | .literal a, .literal b => a == b
  | .set s, .set t => s == t
  | .look k, .look l => k == l
  | .repetition m n g a, .repetition m' n' g' b => m == m' && n == n' && g == g' && a.same b
  | .capture i a, .capture j b => i == j && a.same b
  | .concat as, .concat bs => allSame as bs
  | .alternation as, .alternation bs => allSame as bs
  | _, _ => false

/-- whether two lists of forms are the same -/
def allSame : List Form → List Form → Bool
  | [], [] => true
  | a :: as, b :: bs => a.same b && allSame as bs
  | _, _ => false

end

mutual

/-- whether every match is empty -/
def isBlank : Form → Bool
  | .empty => true
  | .literal a => a.isEmpty
  | .set _ => false
  | .look _ => true
  | .repetition _ _ _ a => a.isBlank
  | .capture _ a => a.isBlank
  | .concat as => allBlank as
  | .alternation as => allBlank as

/-- whether every match of every form is empty -/
def allBlank : List Form → Bool
  | [] => true
  | a :: as => a.isBlank && allBlank as

end

mutual

/-- whether every match takes a character -/
def consumes : Form → Bool
  | .empty => false
  | .literal a => !a.isEmpty
  | .set _ => true
  | .look _ => false
  | .repetition m _ _ a => decide (0 < m) && a.consumes
  | .capture _ a => a.consumes
  | .concat as => someConsumes as
  | .alternation as => allConsume as

/-- whether every match of one of the forms takes a character -/
def someConsumes : List Form → Bool
  | [] => false
  | a :: as => a.consumes || someConsumes as

/-- whether every match of each form takes a character -/
def allConsume : List Form → Bool
  | [] => true
  | a :: as => a.consumes && allConsume as

end

/-- the form that matches one character of a set -/
def ofSet (s : CharSet) : Form :=
  match s.onlyChar? with
  | some c => .literal [c]
  | none => .set s

/-- the form that matches nothing at all -/
def never : Form := .set CharSet.empty

/-- repeats a form; what only matches empty is not repeated more than once -/
def repeated (min : Nat) (max : Option Nat) (greedy : Bool) (body : Form) : Form :=
  let (min, max) :=
    if body.isBlank then (Nat.min min 1, some ((max.map (Nat.min · 1)).getD 1)) else (min, max)
  if min = 0 ∧ max = some 0 then .empty
  else if min = 1 ∧ max = some 1 then body
  else .repetition min max greedy body

/-- the parts of sequences among the forms, in place of the sequences -/
def spliceConcats : List Form → List Form
  | [] => []
  | .concat ps :: rest => ps ++ spliceConcats rest
  | f :: rest => f :: spliceConcats rest

/-- joins neighbouring literals and leaves out what matches nothing but the empty text -/
def joinLiterals : List Form → List Form
  | [] => []
  | .empty :: rest => joinLiterals rest
  | .literal a :: rest =>
    match joinLiterals rest with
    | .literal b :: more => .literal (a ++ b) :: more
    | more => .literal a :: more
  | f :: rest => f :: joinLiterals rest

/-- one form after the other -/
def sequence (fs : List Form) : Form :=
  match joinLiterals (spliceConcats fs) with
  | [] => .empty
  | [f] => f
  | fs => .concat fs

/-- the branches of alternations among the forms, in place of the alternations -/
def spliceAlternations : List Form → List Form
  | [] => []
  | .alternation bs :: rest => bs ++ spliceAlternations rest
  | f :: rest => f :: spliceAlternations rest

/-- the characters of forms that are single characters -/
def singleChars? : List Form → Option (List Char)
  | [] => some []
  | .literal [c] :: rest => (singleChars? rest).map (c :: ·)
  | _ => none

/-- the ranges of forms that are sets -/
def setRanges? : List Form → Option (List (Nat × Nat))
  | [] => some []
  | .set s :: rest => (setRanges? rest).map (s.ranges ++ ·)
  | _ => none

/-- an alternative of flat branches, as a set where the branches are characters or sets -/
def choice (branches : List Form) (otherwise : List Form → Form) : Form :=
  match branches with
  | [] => never
  | [f] => f
  | fs =>
    match singleChars? fs with
    | some cs => ofSet (CharSet.ofRanges (cs.map fun c => (c.toNat, c.toNat)))
    | none =>
      match setRanges? fs with
      | some rs => ofSet (CharSet.ofRanges rs)
      | none => otherwise fs

/-- the beginning common to two lists of forms -/
def commonStart : List Form → List Form → List Form
  | a :: as, b :: bs => if a.same b then a :: commonStart as bs else []
  | _, _ => []

/-- the parts of a sequence -/
def parts? : Form → Option (List Form)
  | .concat ps => some ps
  | _ => none

/-- the parts of each form, if all are sequences -/
def allParts? : List Form → Option (List (List Form))
  | [] => some []
  | f :: fs => f.parts?.bind fun ps => (allParts? fs).map (ps :: ·)

/-- puts a beginning common to all branches in front of them -/
def factored (branches : List Form) : Form :=
  match allParts? branches with
  | some (ps :: rest) =>
    let front := rest.foldl commonStart ps
    if front.isEmpty then .alternation branches
    else
      let ends := (ps :: rest).map fun qs => sequence (qs.drop front.length)
      sequence (front ++ [choice (spliceAlternations ends) .alternation])
  | _ => .alternation branches

/-- the first of the forms that matches -/
def oneOf (fs : List Form) : Form := choice (spliceAlternations fs) factored

end Form

end Lexicon.Expression
