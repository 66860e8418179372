import Playback.Text.Blank
import Playback.Text.Word
import Playback.Text.Digit

/-!
This module contains patterns of text and the logic to match them. A match prefers the first
alternative and the longest repetition, and gives way step by step if the rest of the pattern does
not match.
-/

namespace Playback

inductive Pattern where
  | empty
  | char (accepts : Char → Bool)
  | seq (p q : Pattern)
  /-- The first pattern or, failing that, the second one. -/
  | alt (p q : Pattern)
  /-- As many repetitions as possible. -/
  | star (p : Pattern)
  | capture (name : String) (p : Pattern)
  /-- A test of the place between the character before and the text that follows. -/
  | look (holds : Option Char → List Char → Bool)

namespace Pattern

/--
A place in a text with what has been remembered up to it, the last capture first.
-/
structure Place where
  before : Option Char
  rest : List Char
  captures : List (String × List Char)

def Place.captured? (place : Place) (name : String) : Option (List Char) :=
  place.captures.lookup name

def Place.captured (place : Place) (name : String) : List Char :=
  (place.captured? name).getD []

/--
Repeat a step as often as possible before going on. The text at the start of the repetition bounds
the number of repetitions, each of which takes a character of it.
-/
def repeatThen (step : (Place → Option Place) → Place → Option Place)
    (next : Place → Option Place) : List Char → Place → Option Place
  | [], place => next place
  | _ :: bound, place => (step (repeatThen step next bound) place).or (next place)

/--
Match a pattern at a place and go on with `next`. The result is the first one that `next` accepts.
-/
def run : Pattern → (Place → Option Place) → Place → Option Place
  | .empty, next, place => next place
  | .char accepts, next, place =>
    match place.rest with
    | [] => none
    | c :: rest => if accepts c then next { place with before := some c, rest } else none
  | .seq p q, next, place => p.run (q.run next) place
  | .alt p q, next, place => (p.run next place).or (q.run next place)
  | .star p, next, place => repeatThen p.run next place.rest place
  | .capture name p, next, place =>
    p.run (fun reached =>
      let text := place.rest.take (place.rest.length - reached.rest.length)
      next { reached with captures := (name, text) :: reached.captures }) place
  | .look holds, next, place => if holds place.before place.rest then next place else none

def matchAt? (p : Pattern) (text : List Char) : Option Place :=
  p.run some ⟨none, text, []⟩

def startsText (p : Pattern) (text : List Char) : Bool :=
  (p.matchAt? text).isSome

/--
The first place where a pattern matches, with the count of characters in front of it.
-/
def search? (p : Pattern) (text : List Char) : Option (Nat × Place) :=
  go none 0 text
where
  go (before : Option Char) (skipped : Nat) (text : List Char) : Option (Nat × Place) :=
    match p.run some ⟨before, text, []⟩ with
    | some place => some (skipped, place)
    | none =>
      match text with
      | [] => none
      | c :: rest => go (some c) (skipped + 1) rest

def occursIn (p : Pattern) (text : List Char) : Bool :=
  (p.search? text).isSome

instance : Append Pattern := ⟨seq⟩

instance : OrElse Pattern := ⟨fun p q => alt p (q ())⟩

def text (s : String) : Pattern :=
  s.toList.foldr (fun c p => .seq (.char (· == c)) p) .empty

def oneOf : List String → Pattern
  | [] => .look fun _ _ => false
  | [s] => text s
  | s :: rest => .alt (text s) (oneOf rest)

def plus (p : Pattern) : Pattern := .seq p (.star p)

def opt (p : Pattern) : Pattern := .alt p .empty

def among (s : String) : Pattern :=
  let cs := s.toList
  .char fun c => cs.contains c

def except (s : String) : Pattern :=
  let cs := s.toList
  .char fun c => !cs.contains c

def blank : Pattern := .char Text.isBlank

def blanks : Pattern := .star blank

def wordChar : Pattern := .char Text.isWordChar

def digit : Pattern := .char Text.isDecimal

def lineChar : Pattern := .char (· != '\n')

def identifier : Pattern := .char Text.isIdentStart ++ .star wordChar

/--
A place with a word character on one side only.
-/
def wordBoundary : Pattern :=
  .look fun before rest => before.any Text.isWordChar != rest.head?.any Text.isWordChar

def lineStart : Pattern := .look fun before _ => before.all (· == '\n')

/--
The end of a text, or the place before a newline that ends it.
-/
def textEnd : Pattern := .look fun _ rest => rest == [] || rest == ['\n']

def notBefore (c : Char) : Pattern := .look fun _ rest => rest.head? != some c

def notAfter (s : String) : Pattern :=
  let cs := s.toList
  .look fun before _ => !before.any cs.contains

def after (c : Char) : Pattern := .look fun before _ => before == some c

end Pattern

end Playback
