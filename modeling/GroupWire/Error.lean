import GroupWire.Error.Family
import GroupWire.GroupId
import GroupWire.Text.Quoted
import GroupWire.Value.Shape

/-! Everything that can go wrong with what a caller hands in, and the words for it. -/
namespace GroupWire

inductive Error
  | shape (field : Text) (expected got : Shape)
  | notItems (field : Text) (expected got : Shape)
  | notIterable (got : Shape)
  | notSpreadable (got : Shape)
  | notKind (got : Shape)
  | unordered (operator : Text) (left right : Shape)
  | changeable (got : Shape)
  | missingField (record field : Text)
  | tooManyFields (record : Text) (most given : Nat)
  | unknownField (record field : Text)
  | repeatedArgument (function argument : Text)
  | kindCode
  | notAscending (table : Text) (first second : Int)
  | notWord (shown : Text) (vocabulary : Vocabulary)
  | publicKey
  | eventId
  | url (cause : UrlError)
  | id (cause : IdError)
  | identifier (cause : IdentifierError)
  | privacy (token : Text)
  | access (token : Text)
  | jsonKey (got : Shape)
  | tooFewArguments
  | tooManyArguments
  | notNumber (got : Shape)
  | nanWhole
  | infiniteWhole
  | unknownExport (name : Text)
  | lacks (got : Shape) (part : Text)
  | notText (got : Shape)

def IdError.detail : IdError → Text
  | empty => "Group ID cannot be empty"
  | badCharacter => "Group ID must contain only: a-z, 0-9, -, _"

def IdError.message (e : IdError) : Text := Family.groupId.message e.detail

namespace IdentifierError

def family : IdentifierError → Family
  | id _ => .groupId
  | _ => .identifier

def detail : IdentifierError → Text
  | delimiters => "Expected format: relay-url'group-id"
  | relay e => "Invalid relay URL: " ++ e.message
  | id e => e.detail

def message (e : IdentifierError) : Text := e.family.message e.detail

end IdentifierError

namespace Error

def choice (first second token : Text) : Text :=
  "Expected " ++ first.quoted ++ " or " ++ second.quoted ++ ", got: " ++ token

def privacyMessage (token : Text) : Text :=
  Family.privacy.message (choice Privacy.anyone.token Privacy.membersOnly.token token)

def accessMessage (token : Text) : Text :=
  Family.access.message (choice Access.opened.token Access.closed.token token)

def message : Error → Text
  | shape field expected got => field ++ " must be " ++ expected.withArticle ++ ", got " ++ got.name
  | notItems field expected got =>
    field ++ " must be an iterable of " ++ expected.name ++ ", got " ++ got.name
  | notIterable got => got.name.quoted ++ " object is not iterable"
  | notSpreadable got => "Value after * must be an iterable, not " ++ got.name
  | notKind got => "kind must be an int or Kind, got " ++ got.name
  | unordered operator left right =>
    operator.quoted ++ " not supported between instances of " ++ left.name.quoted ++ " and " ++
      right.name.quoted
  | changeable got => "unhashable type: " ++ got.name.quoted
  | missingField record field =>
    record ++ ".__init__() missing 1 required positional argument: " ++ field.quoted
  | tooManyFields record most given =>
    record ++ ".__init__() takes from " ++ Text.ofNat (most - 1) ++ " to " ++ Text.ofNat most ++
      " positional arguments but " ++ Text.ofNat given ++ " were given"
  | unknownField record field =>
    record ++ ".__init__() got an unexpected keyword argument " ++ field.quoted
  | repeatedArgument function argument =>
    function ++ "() got multiple values for argument " ++ argument.quoted
  | kindCode => "u16 requires 0 <= value < 65536"
  | notAscending table first second =>
    table ++ " must be strictly ascending: " ++ Text.ofInt first ++ " >= " ++ Text.ofInt second
  | notWord shown vocabulary => shown ++ " is not a valid " ++ vocabulary.name
  | publicKey => "Invalid public key"
  | eventId => "Invalid event ID"
  | url cause => cause.message
  | id cause => cause.message
  | identifier cause => cause.message
  | privacy token => privacyMessage token
  | access token => accessMessage token
  | jsonKey got => "keys must be str, int, float, bool or None, not " ++ got.name
  | tooFewArguments => "not enough arguments for format string"
  | tooManyArguments => "not all arguments converted during string formatting"
  | notNumber got => "%d format: a real number is required, not " ++ got.name
  | nanWhole => "cannot convert float NaN to integer"
  | infiniteWhole => "cannot convert float infinity to integer"
  | unknownExport name => "module 'relaygroups' has no attribute " ++ name.quoted
  | lacks got part => got.name.quoted ++ " object has no attribute " ++ part.quoted
  | notText got => "argument must be str, not " ++ got.name

end Error

end GroupWire
