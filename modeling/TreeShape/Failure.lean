import TreeShape.Name
import TreeShape.Text.Clipped
import TreeShape.Text.Numeral
import TreeShape.Text.Quoted

/-!
# Failures

Everything that can end a step of a match before its time.  A failure is kept as its cause; `kind`,
`text`, `path` and `reason` say how it looks from outside.

Two families matter most.  A *mismatch* says that the tree is not what the script expects, and is
located: it carries the path from the root of the match to the node where it was found.  A *misuse*
says that the script itself is wrong.  What scripts raise of their own accord is `raised`; if that is
an assertion without a location, the innermost block around it turns it into a mismatch.
-/

namespace TreeShape

/-- The kinds of failures that scripts can tell apart. -/
inductive FailureKind where
  | assertion
  | specialAssertion
  | mismatch
  | misuse
  | general
  | value
  | state
  | type
  | index
  | name
  | attr
  | frozen
  deriving DecidableEq, Repr

/-- Whether failures of the kind say that something asserted does not hold. -/
def FailureKind.isAssertion : FailureKind → Bool
  | assertion | specialAssertion | mismatch => true
  | _ => false

/-- A failure as another one remembers it: its kind and its text. -/
structure Cause where
  kind : FailureKind
  text : String
  deriving DecidableEq, Repr

/-- What a match calls the node it is looking at: the root, or the child at some position.  A child
that its parent does not list has no position. -/
inductive Label where
  | root
  | child (position : Option Nat)
  deriving DecidableEq, Repr

/-- The label in a message; a child without position is number `-1`. -/
def Label.text : Label → String
  | root => "root"
  | child (some i) => "child #" ++ toString i
  | child none => "child #-1"

/-- Why a node does not have the expected shape. -/
inductive Mismatch where
  | wrongType (label : Label) (expected actual : String)
  | wrongParent (label : Label) (expected : Name) (actual : Option Name)
  | missingChild (position : Nat)
  | childCount (expected actual : Nat)
  | explained (assertion : Cause)
  deriving DecidableEq, Repr

namespace Mismatch

/-- What stands for an explanation where the script gave none. -/
def unexplained : String := "No explanation provided"

def text : Mismatch → String
  | wrongType label expected actual =>
    "Expected " ++ label.text ++ " to have type " ++ expected ++ ", actual " ++ actual
  | wrongParent label expected actual =>
    "Expected " ++ label.text ++ " to have parent " ++ expected.spoken ++ ", actual "
      ++ ((actual.map Name.spoken).getD "None")
  | missingChild position =>
    "Node has fewer children than expected, child #" ++ toString position ++ " doesn't exist"
  | childCount expected actual =>
    "Wrong number of children, expected " ++ toString expected ++ ", actual " ++ toString actual
  | explained assertion => if assertion.text.isEmpty then unexplained else assertion.text

end Mismatch

/-- How a script can misuse a cursor. -/
inductive Misuse where
  | afterBlock
  | insideChild (name : Name)
  | childrenIgnored
  deriving DecidableEq, Repr

def Misuse.text : Misuse → String
  | afterBlock => "Cursor used after the block of its node returned"
  | insideChild name => "Cursor used inside the block of its child " ++ name.spoken
  | childrenIgnored => "Calling child when ignore_children=True is forbidden"

/-- A place in a tree as it was seen when a failure was located there: the nodes from the root of the
match down, their names, and the dump of the last one if dumps are wanted. -/
structure Location where
  nodes : List Node
  names : List Name
  dump : Option String
  deriving DecidableEq, Repr

namespace Location

/-- The path written with slashes; the empty path is the root's. -/
def pathText : List Name → String
  | [] => "<root>"
  | names => "/" ++ "/".intercalate (names.map (·.text))

/-- The line that announces a dump. -/
def banner : String := "The error occurred in this subtree:"

/-- A message with its path in front and the dump, if there is one, behind. -/
def message (place : Location) (text : String) : String :=
  let located := "At " ++ pathText place.names ++ ": " ++ text
  match place.dump with
  | none => located
  | some dump => located ++ "\n\n" ++ banner ++ "\n\n" ++ dump

end Location

/-- What can go wrong in a step. -/
inductive Failure where
  /-- A match was started on an empty place. -/
  | absentRoot (expected : String)
  | mismatch (place : Location) (reason : Mismatch)
  | misuse (place : Location) (reason : Misuse)
  /-- A block was entered again. -/
  | reentered
  | negativeSkip (count : Int)
  /-- A block was left that had never been entered. -/
  | unopened
  /-- Raised by a script or by the caller's own code. -/
  | raised (kind : FailureKind) (text : String) (path : Option (List String)) (cause : Option Cause)
  | unregistered (typeName : String)
  | notAnAdapter (typeName : String)
  | repeatedOption (option : String)
  | frozenField (field : String)
  | unboundName (name : String)
  /-- An empty place stood where a name was needed. -/
  | noName
  | unknownKind (name : String)
  | noAttribute (typeName attr : String)
  /-- A type itself lacks an attribute. -/
  | noTypeAttribute (typeName attr : String)
  /-- Something else stood where there should be a script. -/
  | notCallable (typeName : String)
  /-- The items of a value were asked for that has none. -/
  | notIterable (typeName : String)
  /-- Entries were to be set in a value that has none. -/
  | notAssignable (typeName : String)
  /-- A list was to be changed at something that is no position. -/
  | notAPosition (typeName : String)
  /-- The name of an attribute is no text. -/
  | notAName (typeName : String)
  | notWhole (numeral : String)
  /-- The numeral of a whole number has too many digits. -/
  | tooManyDigits (count : Nat)
  | notDecimal (numeral : String)
  /-- A text of hexadecimal digits is out of order at a position. -/
  | notBytes (position : Nat)
  | noSuchItem
  /-- A position was given that no list can have. -/
  | hugePosition
  /-- The first few items of a walk were asked for, by a number that no list can have. -/
  | badCount
  | unreadable
  deriving DecidableEq, Repr, Inhabited

namespace Failure

/-- A type as messages about attributes mention it: between single quotes, as it is, but no more than so
many bytes of it. -/
def mention (room : Nat) (typeName : String) : String := "'" ++ Text.clipped room typeName ++ "'"

/-- The bytes that are shown of a type that lacks an attribute. -/
def ownerRoom : Nat := 50

/-- The bytes that are shown of the type of a value that is not of use. -/
def valueRoom : Nat := 200

/-- The characters that are shown of a quoted numeral that means no whole number. -/
def numeralRoom : Nat := 200

def kind : Failure → FailureKind
  | absentRoot _ => .mismatch
  | mismatch _ _ => .mismatch
  | misuse _ _ => .misuse
  | reentered => .misuse
  | negativeSkip _ => .value
  | unopened => .attr
  | raised kind _ _ _ => kind
  | unregistered _ => .value
  | notAnAdapter _ => .type
  | repeatedOption _ => .type
  | frozenField _ => .frozen
  | unboundName _ => .name
  | noName => .name
  | unknownKind _ => .attr
  | noAttribute _ _ => .attr
  | noTypeAttribute _ _ => .attr
  | notCallable _ => .type
  | notIterable _ => .type
  | notAssignable _ => .type
  | notAPosition _ => .type
  | notAName _ => .type
  | notWhole _ => .value
  | tooManyDigits _ => .value
  | notDecimal _ => .value
  | notBytes _ => .value
  | noSuchItem => .index
  | hugePosition => .index
  | badCount => .value
  | unreadable => .value

def text : Failure → String
  | absentRoot expected => "Expected node of type " ++ expected ++ ", but was None"
  | mismatch place reason => place.message reason.text
  | misuse place reason => place.message reason.text
  | reentered => "A match block can only be entered once"
  | negativeSkip count => "Cannot skip a negative number of children: " ++ toString count
  | unopened => "'NoneType' object has no attribute '_closed'"
  | raised _ text _ _ => text
  | unregistered typeName => typeName ++ " tree is not registered"
  | notAnAdapter typeName => "adapter must be a TreeLikeAdapter, got " ++ typeName
  | repeatedOption option =>
    "treematchers.config.MatchingConfig() got multiple values for keyword argument "
      ++ Text.quoted option
  | frozenField field => "cannot assign to field " ++ Text.quoted field
  | unboundName name => Text.quoted name
  | noName => "None"
  | unknownKind name => "module 'ast' has no attribute '" ++ name ++ "'"
  | noAttribute typeName attr =>
    mention ownerRoom typeName ++ " object has no attribute '" ++ attr ++ "'"
  | noTypeAttribute typeName attr =>
    "type object " ++ mention ownerRoom typeName ++ " has no attribute '" ++ attr ++ "'"
  | notCallable typeName => mention valueRoom typeName ++ " object is not callable"
  | notIterable typeName => mention valueRoom typeName ++ " object is not iterable"
  | notAssignable typeName =>
    mention valueRoom typeName ++ " object does not support item assignment"
  | notAPosition typeName => "list indices must be integers or slices, not " ++ typeName
  | notAName typeName => "attribute name must be string, not " ++ mention valueRoom typeName
  | notWhole numeral =>
    "invalid literal for int() with base 10: "
      ++ String.ofList ((Text.quoted numeral).toList.take numeralRoom)
  | tooManyDigits count =>
    "Exceeds the limit (" ++ toString Text.digitLimit
      ++ " digits) for integer string conversion: value has " ++ toString count
      ++ " digits; use sys.set_int_max_str_digits() to increase the limit"
  | notDecimal numeral => "could not convert string to float: " ++ Text.quoted numeral
  | notBytes position =>
    "non-hexadecimal number found in fromhex() arg at position " ++ toString position
  | noSuchItem => "list index out of range"
  | hugePosition => "cannot fit 'int' into an index-sized integer"
  | badCount =>
    "Stop argument for islice() must be None or an integer: 0 <= x <= sys.maxsize."
  | unreadable => "invalid syntax"

/-- The names on the path of a located mismatch.  A mismatch that a script raised may lack one. -/
def path : Failure → Option (List String)
  | absentRoot _ => some []
  | mismatch place _ => some (place.names.map (·.text))
  | raised .mismatch _ path _ => path
  | _ => none

/-- The failure that this one stands for, where it replaced one. -/
def cause : Failure → Option Cause
  | mismatch _ (.explained assertion) => some assertion
  | raised _ _ _ cause => cause
  | _ => none

def isLocated (f : Failure) : Bool := f.path.isSome

/-- Whether the innermost block around the failure has to locate it. -/
def wantsLocation (f : Failure) : Bool := f.kind.isAssertion && !f.isLocated

def asCause (f : Failure) : Cause := ⟨f.kind, f.text⟩

/-- A mismatch made from an assertion, at a place. -/
def located (f : Failure) (place : Location) : Failure := mismatch place (.explained f.asCause)

@[simp] theorem wantsLocation_located (f : Failure) (place : Location) :
    (f.located place).wantsLocation = false := by
  simp [located, wantsLocation, isLocated, path]

end Failure

end TreeShape
