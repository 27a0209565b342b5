/-
Patterns: what a symbol matches at the front of the rest of an input. A pattern is a character, a text, or a regular
expression, which matches either at the front only or at the first place it can. An expression is kept with its
program, and that the program is the one of its text is part of the type; so patterns with one source and one
anchoring are equal.
-/
import Lexicon.Expression.Compile
import Lexicon.Expression.Search
import Lexicon.Record

namespace Lexicon

/-- where an expression may match -/
inductive Anchoring where
  /-- at the front of the input only -/
  | start
  /-- at the first place where it can -/
  | anywhere
  deriving DecidableEq

namespace Anchoring

/-- the text compiled for a source; an anchored source stands in a group behind an assertion -/
def wrap : Anchoring → List Char → List Char
  | .start, source => ['\\', 'A', '(', '?', ':'] ++ source ++ [')']
  | .anywhere, source => source

/-- the name of an anchoring -/
def name : Anchoring → String
  | .start => "Start"
  | .anywhere => "Anywhere"

end Anchoring

/-- a regular expression with its program -/
structure Regexp where
  source : String
  anchoring : Anchoring
  program : Expression.Program
  compiled : Expression.compile (anchoring.wrap source.toList) = .ok program

namespace Regexp

/-- Source and anchoring determine an expression. -/
theorem eq_of_source {a b : Regexp} (hs : a.source = b.source) (ha : a.anchoring = b.anchoring) : a = b := by
  obtain ⟨s, k, p, hp⟩ := a
  obtain ⟨t, l, q, hq⟩ := b
  subst hs
  subst ha
  have h : p = q := by
    rw [hp] at hq
    exact Except.ok.inj hq
  subst h
  rfl

instance : DecidableEq Regexp := fun a b =>
  if h : a.source = b.source ∧ a.anchoring = b.anchoring then isTrue (eq_of_source h.1 h.2)
  else isFalse fun e => h ⟨e ▸ rfl, e ▸ rfl⟩

/-- the text that was compiled -/
def compiledText (r : Regexp) : String := String.ofList (r.anchoring.wrap r.source.toList)

/-- compiles a source, telling the log before -/
def ofSource (source : String) (anchoring : Anchoring) : Attempt Regexp :=
  let text := anchoring.wrap source.toList
  Attempt.noting (.compiling (String.ofList text)) <|
    match h : Expression.compile text with
    | .ok program => .done ⟨source, anchoring, program, h⟩
    | .error refusal => .fail (.of (.invalidPattern source (refusal.report (String.ofList text))))

/-- the first match in a text -/
def find? (r : Regexp) (text : List Char) : Option (List Char) := r.program.find? text

/-- the shape of an expression -/
def dump (r : Regexp) : Dump :=
  .record "RegexPattern" [
    ("source", .atom (Quoted.text r.source)),
    ("anchoring", .atom r.anchoring.name),
    ("regex", .tuple "Regex" [.atom (Quoted.text r.compiledText)])]

end Regexp

/-- the ways of matching -/
inductive MatchKind where
  | character
  | string
  | regexp
  deriving DecidableEq

/-- the name of a way of matching -/
def MatchKind.name : MatchKind → String
  | .character => "Character"
  | .string => "String"
  | .regexp => "Regexp"

/-- what a symbol matches -/
inductive Pattern where
  | character (c : Char)
  | string (s : String)
  | regexp (r : Regexp)
  deriving DecidableEq

namespace Pattern

/-- the way in which a pattern matches -/
def kind : Pattern → MatchKind
  | .character _ => .character
  | .string _ => .string
  | .regexp _ => .regexp

/-- the characters of an input that the pattern takes -/
def take? (p : Pattern) (input : List Char) : Option (List Char) :=
  match p with
  | .character c => if input.head? = some c then some [c] else none
  | .string s => if s.toList.isPrefixOf input then some s.toList else none
  | .regexp r => r.find? input

/-- the text of an input that the pattern takes -/
def find? (p : Pattern) (input : String) : Option String := (p.take? input.toList).map String.ofList

/-- the pattern as text -/
def display : Pattern → String
  | .character c => Quoted.char c
  | .string s => Quoted.text s
  | .regexp r => "/" ++ r.source ++ "/"

/-- the shape of a pattern -/
def dump (p : Pattern) : Dump :=
  match p with
  | .character c => .tuple p.kind.name [.atom (Quoted.char c)]
  | .string s => .tuple p.kind.name [.atom (Quoted.text s)]
  | .regexp r => .tuple p.kind.name [r.dump]

/-- the pattern of an expression that matches at the front -/
def anchored (source : String) : Attempt Pattern := (Regexp.ofSource source .start).andThen fun r => .done (.regexp r)

/-- the pattern of an expression that matches at the first place it can -/
def unanchored (source : String) : Attempt Pattern :=
  (Regexp.ofSource source .anywhere).andThen fun r => .done (.regexp r)

end Pattern

end Lexicon
