import ConfigSchema.Pattern.Error

namespace ConfigSchema.Pattern

inductive Flag
  /-- Letter case does not matter. -/
  | anyCase
  /-- Line starts and ends are those of every line. -/
  | multiLine
  /-- The dot also matches a line feed. -/
  | dotAll
  /-- Repetitions prefer few rounds. -/
  | swapGreed
  /-- Classes are those of all characters, not of ASCII. -/
  | unicode
  /-- Carriage returns end lines too. -/
  | carriageReturn
  /-- Blank space and comments are no part of the pattern. -/
  | verbose
deriving DecidableEq, Repr

/-- The flags that a text turns on or off, in its order. -/
abbrev FlagChanges := List (Flag × Bool)

def FlagChanges.state? (changes : FlagChanges) (flag : Flag) : Option Bool :=
  (changes.find? fun change => change.1 = flag).map Prod.snd

/-- A single character. One that is written as a byte, with two hexadecimal digits, need not be a
character where classes are those of ASCII. -/
structure Literal where
  char : Char
  byte : Bool := false
deriving DecidableEq, Repr

inductive LetterClass
  | digit | space | word
deriving DecidableEq, Repr

inductive NamedClass
  | alnum | alpha | ascii | blank | cntrl | digit | graph | lower | print | punct | space | upper
  | word | xdigit
deriving DecidableEq, Repr

/-- A property: a single name, or the name of a property and of its value. -/
inductive PropertyName
  | single (name : String)
  | withValue (property value : String)
deriving DecidableEq, Repr

inductive SetOperator
  | intersection | difference | symmetricDifference
deriving DecidableEq, Repr

inductive ClassPart
  | literal (literal : Literal)
  | range (first last : Literal)
  | letter (kind : LetterClass) (negated : Bool)
  | named (kind : NamedClass) (negated : Bool)
  | property (name : PropertyName) (negated : Bool)
  | bracketed (negated : Bool) (body : ClassPart)
  | union (parts : List ClassPart)
  | combined (operator : SetOperator) (left right : ClassPart)

/-- Places at the edges of words. A half boundary only asks that no word goes on there. -/
inductive WordPlace
  | boundary | noBoundary
  | start | finish
  | startHalf | finishHalf
deriving DecidableEq, Repr

inductive Place
  | lineStart | lineEnd
  | textStart | textEnd
  | word (place : WordPlace)
deriving DecidableEq, Repr

/-- A pattern as it is written, its parts in the order of the text. What they match depends on
flags, which are part of the text too. -/
inductive Written
  | empty
  | flags (changes : FlagChanges)
  | literal (literal : Literal)
  | dot
  | place (place : Place)
  | letter (kind : LetterClass) (negated : Bool)
  | property (name : PropertyName) (negated : Bool)
  | bracketed (negated : Bool) (body : ClassPart)
  | repetition (body : Written) (least : Nat) (most : Option Nat)
  | group (captured : Bool) (changes : FlagChanges) (body : Written)
  | alternatives (bodies : List Written)
  | sequence (parts : List Written)

/-! ## Joining parts -/

/-- The union of some parts, which is the part itself if there is only one. -/
def ClassPart.ofList : List ClassPart → ClassPart
  | [part] => part
  | parts => .union parts

def Written.ofSequence : List Written → Written
  | [] => .empty
  | [part] => part
  | parts => .sequence parts

def Written.ofAlternatives : List Written → Written
  | [body] => body
  | bodies => .alternatives bodies

/-! ## Nesting -/

mutual

def ClassPart.depth : ClassPart → Nat
  | .bracketed _ body => body.depth + 1
  | .union [] => 0
  | .union parts => ClassPart.greatestDepth parts + 1
  | .combined _ left right => max left.depth right.depth + 1
  | _ => 0

def ClassPart.greatestDepth : List ClassPart → Nat
  | [] => 0
  | part :: parts => max part.depth (ClassPart.greatestDepth parts)

end

mutual

/-- How deep a pattern nests. -/
def Written.depth : Written → Nat
  | .bracketed _ body => body.depth + 1
  | .repetition body _ _ => body.depth + 1
  | .group _ _ body => body.depth + 1
  | .alternatives bodies => Written.greatestDepth bodies + 1
  | .sequence parts => Written.greatestDepth parts + 1
  | _ => 0

def Written.greatestDepth : List Written → Nat
  | [] => 0
  | part :: parts => max part.depth (Written.greatestDepth parts)

end

end ConfigSchema.Pattern
