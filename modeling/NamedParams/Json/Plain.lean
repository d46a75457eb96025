import NamedParams.Json.Value

namespace NamedParams.Json

mutual

/-- The text of a value on its own: a list joins its elements with commas and leaves out null. -/
def plainText : Json → String
  | .null => "null"
  | .bool true => "true"
  | .bool false => "false"
  | .number n => String.ofList n.text
  | .string text => text
  | .array elements => ",".intercalate (elementTexts elements)
  | .object _ => "[object Object]"

def elementTexts : List Json → List String
  | [] => []
  | .null :: rest => "" :: elementTexts rest
  | element :: rest => plainText element :: elementTexts rest

end

end NamedParams.Json
