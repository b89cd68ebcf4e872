import Arbor.Value

/-!
# Failures

An operation that cannot be done fails for a `Reason`, a value that says what was wrong and with
which part of the input.  The reason fixes the kind of the failure, by which a caller tells errors
apart, and its message.  A `Failure` adds to the reason where it came from: the failures it was
raised from, and the failure that was being dealt with when it was raised.
-/

namespace Arbor

/-- The kinds of failures.  `interruption` is a request to stop at once: nothing in this library
catches it, so it is the only kind that is not recoverable. -/
inductive Kind where
  | tree
  | configuration
  | bracket
  | scene
  | runtime
  | value
  | type
  | index
  | overflow
  | attribute
  | frozen
  | stale
  | exhausted
  | interruption
  deriving DecidableEq, Repr

namespace Kind

/-- The kinds a kind belongs to, its own first.  The failures of this library are failures of
values or of the run besides, so that a caller who knows only these can deal with them. -/
def families : Kind → List Kind
  | configuration => [configuration, tree, value]
  | bracket => [bracket, tree, value]
  | scene => [scene, tree, runtime]
  | exhausted => [exhausted, runtime]
  | kind => [kind]

/-- Whether failures of one kind count as failures of another. -/
def isA (kind family : Kind) : Bool := kind.families.contains family

/-- Whether a failure of this kind may be dealt with and the work go on. -/
def recoverable (kind : Kind) : Bool := kind != interruption

end Kind

/-- What a generator asks of a scene. -/
inductive SceneAction where
  | instantiate
  | transform
  | reparent
  | destroy
  deriving DecidableEq, Repr

namespace SceneAction

/-- The verb by which messages name an action. -/
def verb : SceneAction → String
  | instantiate => "instantiate"
  | transform => "transform"
  | reparent => "reparent"
  | destroy => "destroy"

end SceneAction

/-- What is done to two vectors of one size. -/
inductive VectorOperation where
  | addition
  | subtraction
  deriving DecidableEq, Repr

/-- Why an operation failed. -/
inductive Reason where
  /-- The start word of a tree is not a text. -/
  | startNotText (found : Value)
  /-- A count of iterations is not a whole number. -/
  | iterationsNotWhole (found : Value)
  /-- A loose count of iterations is not a number at all. -/
  | iterationsNotNumber (found : Value)
  /-- A count of iterations is below zero or above the greatest one allowed. -/
  | iterationsOutOfRange (found : Int) (greatest : Nat)
  /-- Settings were given under names that no setting has. -/
  | unknownSettings (names : List String)
  /-- A setting was given under a name that no setting has. -/
  | unexpectedSetting (name : String)
  /-- A setting was given under the name that the settings as a whole go by. -/
  | reservedSetting (name : String)
  /-- What follows from the settings was to be set. -/
  | derivedSetting (name : String)
  /-- The first part of a rule is not one symbol. -/
  | ruleKey (found : Value)
  /-- The second part of a rule is not a text. -/
  | ruleReplacement (key : Char)
  /-- An earlier rule has the same symbol. -/
  | duplicateRule (key : Char)
  /-- A rule item has fewer than two parts. -/
  | tooFewParts (found : Nat)
  /-- A rule item has more than two parts. -/
  | tooManyParts
  /-- A rule item is no collection of parts. -/
  | noParts (typeName : String)
  /-- A value of this type has no hash. -/
  | unhashable (typeName : String)
  /-- A word cannot be rewritten a negative number of times. -/
  | negativePasses (found : Value)
  /-- Two values of these types have no order. -/
  | uncomparable (comparison left right : String)
  /-- A value of this type does not count passes. -/
  | uncountable (typeName : String)
  /-- A number that is not a number has no whole part. -/
  | wholePartOfNan
  /-- An infinite number has no whole part. -/
  | wholePartOfInfinity
  /-- A whole number is beyond the doubles. -/
  | tooLargeForReal
  /-- A constant sway is not within the allowed angles. -/
  | swayOutOfRange (found : Value) (least greatest : Int)
  /-- A sway is of a type that cannot be added to an angle. -/
  | swayNotNumber (typeName : String)
  /-- A list of sways has been used up. -/
  | swaysExhausted
  /-- A closing bracket has no opening one before it. -/
  | unmatched (symbol : String) (index : Int)
  /-- A vector has two components or more. -/
  | vectorTooShort (size : Nat)
  /-- A triple of angles has three components. -/
  | notThreeAngles (size : Nat)
  /-- Three axes have no order with these letters. -/
  | unknownOrder (letters : String)
  /-- An axis of rotation has another name than these. -/
  | unknownAxis
  /-- The vectors of a sum or difference have different sizes. -/
  | differentSizes (operation : VectorOperation)
  /-- A rotation of space was applied to a vector of another size than three. -/
  | notSpatial
  /-- A vector has no component at this place. -/
  | noComponent
  /-- A component beyond the last one of a vector was to be replaced. -/
  | componentBeyond (letter : String) (size : Nat)
  /-- A component of a branch's vector cannot be replaced. -/
  | frozenVector
  /-- A field of a branch cannot be replaced. -/
  | frozenField (name : String)
  /-- A collection has no entry at this place. -/
  | noEntry
  /-- A branch has been destroyed before. -/
  | alreadyDestroyed (index : Nat)
  /-- A handle is not that of a live branch of this scene. -/
  | unknownHandle (shown : String)
  /-- A call on the scene failed; the text is the message of its failure. -/
  | callFailed (action : SceneAction) (text : String)
  /-- Some of the branches to be taken back are still in the scene. -/
  | leftBehind (failed total : Nat)
  /-- An object of a document refused an action. -/
  | refused (action : SceneAction) (shown : String)
  /-- An object of a document has been removed. -/
  | removedObject
  /-- A thing of this type has no part of this name. -/
  | lacks (typeName name : String)
  /-- A text was given where the parent of an object was wanted. -/
  | textAsParent
  /-- An object was made its own parent. -/
  | ownParent
  /-- A text was given where the object to remove was wanted. -/
  | textToRemove
  /-- A location or scale of an object was given with another number of components than three. -/
  | notThreeItems (size : Nat)
  /-- A failure raised outside this library. -/
  | foreign (kind : Kind) (text : String)

namespace Reason

/-- The kind of failure a reason makes. -/
def kind : Reason → Kind
  | startNotText _ | iterationsNotWhole _ | iterationsNotNumber _ | iterationsOutOfRange _ _
  | unknownSettings _ | ruleKey _ | ruleReplacement _ | duplicateRule _ | negativePasses _ =>
    .configuration
  | unmatched _ _ => .bracket
  | alreadyDestroyed _ | unknownHandle _ | callFailed _ _ | leftBehind _ _ | refused _ _ => .scene
  | tooFewParts _ | tooManyParts | wholePartOfNan | swayOutOfRange _ _ _ | vectorTooShort _
  | notThreeAngles _ | unknownOrder _ | unknownAxis | notSpatial | notThreeItems _ => .value
  | unexpectedSetting _ | reservedSetting _ | noParts _ | unhashable _ | uncomparable _ _ _
  | uncountable _ | swayNotNumber _ | frozenVector | textAsParent | ownParent | textToRemove =>
    .type
  | wholePartOfInfinity | tooLargeForReal => .overflow
  | swaysExhausted => .exhausted
  | derivedSetting _ | differentSizes _ | componentBeyond _ _ | lacks _ _ => .attribute
  | noComponent | noEntry => .index
  | frozenField _ => .frozen
  | removedObject => .stale
  | foreign kind _ => kind

/-- The message that says a reason to a reader. -/
def message : Reason → String
  | startNotText found => "axiom must be a string, got " ++ found.written
  | iterationsNotWhole found => "iterations must be an integer, got " ++ found.written
  | iterationsNotNumber found => "iterations must be a number, got " ++ found.written
  | iterationsOutOfRange found greatest =>
    "iterations must lie in [0, " ++ toString greatest ++ "], got " ++ toString found
  | unknownSettings names => "unknown tree settings: " ++ ", ".intercalate names
  | unexpectedSetting name =>
    "TreeConfig.__init__() got an unexpected keyword argument '" ++ name ++ "'"
  | reservedSetting name =>
    "TreeConfig.__init__() got multiple values for argument '" ++ name ++ "'"
  | derivedSetting name => "property '" ++ name ++ "' of 'TreeConfig' object has no setter"
  | ruleKey found => "rule key must be a single symbol, got " ++ found.written
  | ruleReplacement key => "replacement for '" ++ key.toString ++ "' must be a string"
  | duplicateRule key => "duplicate rule for '" ++ key.toString ++ "'"
  | tooFewParts found => "not enough values to unpack (expected 2, got " ++ toString found ++ ")"
  | tooManyParts => "too many values to unpack (expected 2)"
  | noParts typeName => "cannot unpack non-iterable " ++ typeName ++ " object"
  | unhashable typeName => "unhashable type: '" ++ typeName ++ "'"
  | negativePasses found => "iteration count must be >= 0, got " ++ found.written
  | uncomparable comparison left right =>
    "'" ++ comparison ++ "' not supported between instances of '" ++ left ++ "' and '" ++ right
      ++ "'"
  | uncountable typeName => "'" ++ typeName ++ "' object cannot be interpreted as an integer"
  | wholePartOfNan => "cannot convert float NaN to integer"
  | wholePartOfInfinity => "cannot convert float infinity to integer"
  | tooLargeForReal => "int too large to convert to float"
  | swayOutOfRange found least greatest =>
    "jitter must lie in [" ++ toString least ++ ", " ++ toString greatest ++ "], got "
      ++ found.written
  | swayNotNumber typeName =>
    "unsupported operand type(s) for +: 'float' and '" ++ typeName ++ "'"
  | swaysExhausted => "jitter list exhausted"
  | unmatched symbol index =>
    "'" ++ symbol ++ "' at index " ++ toString index ++ " has no matching '['"
  | vectorTooShort size =>
    "mathutils.Vector(): sequence size is " ++ toString size ++ ", expected >= 2"
  | notThreeAngles size =>
    "mathutils.Euler(): sequence length is " ++ toString size ++ ", expected 3"
  | unknownOrder letters => "mathutils.Euler(): invalid euler order '" ++ letters ++ "'"
  | unknownAxis =>
    "Matrix.Rotation(): 3rd argument axis value must be a 3D vector or a string in 'X', 'Y', 'Z'"
  | differentSizes .addition =>
    "Vector addition: vectors must have the same dimensions for this operation"
  | differentSizes .subtraction =>
    "Vector subtraction: vectors must have the same dimensions for this operation"
  | notSpatial =>
    "matrix * vector: len(matrix.col) and len(vector) must be the same, "
      ++ "except for 4x4 matrix * 3D vector."
  | noComponent => "vector[index]: out of range"
  | componentBeyond letter size =>
    "Vector." ++ letter ++ " = x: unavailable on " ++ toString size ++ "d vector"
  | frozenVector => "Vector is frozen (immutable)"
  | frozenField name => "cannot assign to field '" ++ name ++ "'"
  | noEntry => "tuple index out of range"
  | alreadyDestroyed index => "branch " ++ toString index ++ " was already destroyed"
  | unknownHandle shown => "unknown branch handle " ++ shown
  | callFailed action text => "failed to " ++ action.verb ++ " branch: " ++ text
  | leftBehind failed total =>
    toString failed ++ " of " ++ toString total ++ " branch(es) could not be removed"
  | refused .destroy shown => "could not remove " ++ shown
  | refused action shown => "could not " ++ action.verb ++ " " ++ shown
  | removedObject => "StructRNA of type Object has been removed"
  | lacks typeName name => "'" ++ typeName ++ "' object has no attribute '" ++ name ++ "'"
  | textAsParent =>
    "bpy_struct: item.attr = val: Object.parent expected a Object type, not str"
  | ownParent =>
    "bpy_struct: item.attr = val: Object.parent ID type does not support assignment to itself"
  | textToRemove =>
    "BlendDataObjects.remove(): error with argument 1, \"object\" -  "
      ++ "Function.object expected a Object type, not str"
  | notThreeItems size =>
    "bpy_struct: item.attr = val: sequences of dimension 0 should contain 3 items, not "
      ++ toString size
  | foreign _ text => text

end Reason

/-- A reason together with where it came from.  `causes` leads from the failure this one was raised
from to that one's own cause and so on.  `context` is the failure that was being dealt with when
this one was raised, followed by its causes. -/
structure Failure where
  reason : Reason
  causes : List Reason := []
  context : List Reason := []

namespace Failure

/-- The kind of a failure is that of its reason. -/
def kind (failure : Failure) : Kind := failure.reason.kind

/-- The message of a failure is that of its reason. -/
def message (failure : Failure) : String := failure.reason.message

/-- A failure followed by the failures it was raised from. -/
def chain (failure : Failure) : List Reason := failure.reason :: failure.causes

/-- Whether the work may go on after this failure. -/
def recoverable (failure : Failure) : Bool := failure.kind.recoverable

/-- A new failure raised from an old one while that was being dealt with. -/
def raisedFrom (cause : Failure) (reason : Reason) : Failure :=
  ⟨reason, cause.chain, cause.chain⟩

/-- The same failure, raised again while another was being dealt with. -/
def during (failure other : Failure) : Failure := { failure with context := other.chain }

end Failure

/-- Fail for a reason, with nothing behind it. -/
def refuse {α : Type} (reason : Reason) : Except Failure α := .error ⟨reason, [], []⟩

end Arbor
