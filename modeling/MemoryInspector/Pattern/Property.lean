import MemoryInspector.Pattern.Property.Age
import MemoryInspector.Pattern.Property.Break
import MemoryInspector.Pattern.Property.Script

/-!
# Properties of characters

The sets of characters that patterns name: general categories, scripts, properties with two values,
and the values of properties with more. Names are compared without case, spaces, hyphens and
underscores, and `is` in front of a name says nothing.
-/

namespace MemoryInspector.Pattern.Property

/-- The form in which names are compared. The name of a property without a known set begins with
`is`, and so it cannot be taken for that of a category. -/
def normalName (name : List Char) : String :=
  let (leading, rest) := match name with
    | first :: second :: rest =>
      if first.toLower == 'i' && second.toLower == 's' then (true, rest) else (false, name)
    | _ => (false, name)
  let kept := rest.filter fun c ↦ c.toNat < 128 && c != ' ' && c != '_' && c != '-'
  match leading, kept.map Char.toLower with
  | true, ['c'] => "isc"
  | _, normal => String.ofList normal

/-- The set that a name alone stands for: a property with two values, a category or a script. -/
def named? (name : List Char) : Option CodePoints :=
  let name := normalName name
  binary? name <|> category? name <|> (scriptCode? name).map ofScript

/-- The set of the characters for which a property has a value. -/
def valued? (property value : List Char) : Option CodePoints :=
  let value := normalName value
  let among (values : List (List String × Rule)) : Option CodePoints :=
    (values.find? (·.1.contains value)).map (·.2.members)
  match normalName property with
  | "gc" | "generalcategory" => category? value
  | "sc" | "script" => (scriptCode? value).map ofScript
  | "scx" | "scriptextensions" => (scriptCode? value).map ofScriptExtension
  | "age" => age? value
  | "gcb" | "graphemeclusterbreak" => among graphemeBreaks
  | "wb" | "wordbreak" => among wordBreaks
  | "sb" | "sentencebreak" => among sentenceBreaks
  | _ => none

end MemoryInspector.Pattern.Property
