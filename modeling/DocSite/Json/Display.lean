/-
Values inside messages.

A message shows a value on one line: texts quoted, missing values and truth values by name,
containers in their brackets.
-/
import DocSite.Json.Writer
import DocSite.Text.Quoted

namespace DocSite

namespace Json

def displayKey : JsonKey → Text
  | .text text => Quoted.encode text
  | .unpaired codes => Quoted.encodeCodes codes

mutual

def display : Json → Text
  | .null => "None".toList
  | .bool true => "True".toList
  | .bool false => "False".toList
  | .int value => Text.ofInt value
  | .real value => value.text
  | .string text => Quoted.encode text
  | .unpaired codes => Quoted.encodeCodes codes
  | .array items => '[' :: displayItems items ++ [']']
  | .object fields => '\x7b' :: displayFields fields ++ ['\x7d']

def displayItems : List Json → Text
  | [] => []
  | [item] => display item
  | item :: rest => display item ++ ',' :: ' ' :: displayItems rest

def displayFields : List (JsonKey × Json) → Text
  | [] => []
  | [(key, value)] => displayKey key ++ ':' :: ' ' :: display value
  | (key, value) :: rest =>
      displayKey key ++ ':' :: ' ' :: display value ++ ',' :: ' ' :: displayFields rest

end

end Json

end DocSite
