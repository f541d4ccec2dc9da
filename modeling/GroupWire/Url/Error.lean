import GroupWire.Uri

/-! Why a text is no URL, and what is said about it. -/
namespace GroupWire

inductive UrlError
  | nullCharacter
  | relative (raw : Text)
  | authority (raw : Text)
  | parts (raw : Text) (uri : Uri) (faults : List Uri.Part)
  | noHost (raw : Text)
  deriving DecidableEq

namespace UrlError

def listed (items : List Text) : Text := '[' :: Text.join ", " (items.map Text.quoted) ++ [']']

def partsMessage (uri : Uri) (faults : List Uri.Part) : Text :=
  let names := faults.map Uri.Part.name
  let verb : Text := if names.length > 1 then "were" else "was"
  let summary := Text.join ", " names ++ " " ++ verb ++ " found to be invalid"
  "(" ++ Text.join ", " [summary.quoted, uri.toReference.shown, listed names] ++ ")"

def invalid (raw reason : Text) : Text := "Invalid URL '" ++ raw ++ "': " ++ reason

def message : UrlError → Text
  | nullCharacter => "URL contains null bytes"
  | relative raw => invalid raw "relative URL without a scheme"
  | authority raw => invalid raw "invalid authority"
  | parts raw uri faults => invalid raw (partsMessage uri faults)
  | noHost raw => invalid raw "missing host"

end UrlError

end GroupWire
