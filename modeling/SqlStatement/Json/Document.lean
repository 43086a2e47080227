import SqlStatement.Json.Token
/-!
# JSON texts as written

A document is a JSON text cut along the grammar, with its numbers and strings as they were
written: a text that is ignored needs the right form only.  `Document.ofText?` reads a text
token by token with the open arrays and objects on a stack.
-/
namespace SqlStatement.Json

inductive Document where
  | null
  | bool (b : Bool)
  | number (n : NumberText)
  | string (raw : List Char)
  | array (items : List Document)
  | object (fields : List (List Char × Document))

namespace Document

/-- An open array or object with what it holds so far, the latest first. -/
inductive Frame where
  | array (items : List Document)
  | object (fields : List (List Char × Document)) (name : List Char)

inductive Expected where
  | value
  | firstItem
  | firstName
  | name (fields : List (List Char × Document))
  | colon (fields : List (List Char × Document)) (name : List Char)
  | after (value : Document)

/-- Reads tokens with the containers around the next one on a stack. -/
def read? : List Frame → Expected → List Token → Option Document
  | [], .after value, [] => some value
  | stack, .value, .openArray :: ts => read? stack .firstItem ts
  | stack, .value, .openObject :: ts => read? stack .firstName ts
  | stack, .value, .null :: ts => read? stack (.after .null) ts
  | stack, .value, .bool b :: ts => read? stack (.after (.bool b)) ts
  | stack, .value, .number n :: ts => read? stack (.after (.number n)) ts
  | stack, .value, .string raw :: ts => read? stack (.after (.string raw)) ts
  | stack, .firstItem, .closeArray :: ts => read? stack (.after (.array [])) ts
  | stack, .firstItem, .openArray :: ts => read? (.array [] :: stack) .firstItem ts
  | stack, .firstItem, .openObject :: ts => read? (.array [] :: stack) .firstName ts
  | stack, .firstItem, .null :: ts => read? (.array [] :: stack) (.after .null) ts
  | stack, .firstItem, .bool b :: ts => read? (.array [] :: stack) (.after (.bool b)) ts
  | stack, .firstItem, .number n :: ts => read? (.array [] :: stack) (.after (.number n)) ts
  | stack, .firstItem, .string raw :: ts => read? (.array [] :: stack) (.after (.string raw)) ts
  | stack, .firstName, .closeObject :: ts => read? stack (.after (.object [])) ts
  | stack, .firstName, .string name :: ts => read? stack (.colon [] name) ts
  | stack, .name fields, .string name :: ts => read? stack (.colon fields name) ts
  | stack, .colon fields name, .colon :: ts => read? (.object fields name :: stack) .value ts
  | .array items :: stack, .after value, .comma :: ts =>
    read? (.array (value :: items) :: stack) .value ts
  | .array items :: stack, .after value, .closeArray :: ts =>
    read? stack (.after (.array (value :: items).reverse)) ts
  | .object fields name :: stack, .after value, .comma :: ts =>
    read? stack (.name ((name, value) :: fields)) ts
  | .object fields name :: stack, .after value, .closeObject :: ts =>
    read? stack (.after (.object ((name, value) :: fields).reverse)) ts
  | _, _, _ => none

def ofText? (text : String) : Option Document :=
  (Token.ofText? text.toList).bind (read? [] .value)

end Document
end SqlStatement.Json
