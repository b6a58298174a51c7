/-!
# Patterns of texts

A pattern is built from classes of characters by alternatives, sequences and repetition, and a text
fits it as a whole or not at all. It is tried one character at a time: what may follow the first
character of a fitting text is a pattern again, so no place of the text is ever visited twice.
-/

namespace ClusterTriage
namespace Text

/-- What a text may look like. -/
inductive Pattern where
  | never
  | empty
  | one (p : Char → Bool)
  | either (p q : Pattern)
  /-- A text of the first pattern and then one of the second. -/
  | seq (p q : Pattern)
  /-- Any number of texts on end. -/
  | many (p : Pattern)

namespace Pattern

/-- A text of the pattern, or nothing. -/
def optional (p : Pattern) : Pattern := .either p .empty

/-- `either`, without an alternative that is never taken. -/
def orElse : Pattern → Pattern → Pattern
  | .never, q => q
  | p, .never => p
  | p, q => .either p q

/-- `seq`, without a first part that settles the matter or adds nothing. -/
def andThen : Pattern → Pattern → Pattern
  | .never, _ => .never
  | .empty, q => q
  | p, q => .seq p q

def fitsEmpty : Pattern → Bool
  | .never | .one _ => false
  | .empty | .many _ => true
  | .either p q => p.fitsEmpty || q.fitsEmpty
  | .seq p q => p.fitsEmpty && q.fitsEmpty

/-- What has to follow a first character. -/
def after (c : Char) : Pattern → Pattern
  | .never | .empty => .never
  | .one p => if p c then .empty else .never
  | .either p q => (p.after c).orElse (q.after c)
  | .seq p q =>
    let further := (p.after c).andThen q
    if p.fitsEmpty then further.orElse (q.after c) else further
  | .many p => (p.after c).andThen (.many p)

def fits (p : Pattern) : List Char → Bool
  | [] => p.fitsEmpty
  | c :: cs => (p.after c).fits cs

end Pattern
end Text
end ClusterTriage
