import PatternLint.CharSet.Category
import PatternLint.CharSet.Script
import PatternLint.CharSet.Binary
import PatternLint.CharSet.Age
import PatternLint.CharSet.Break
import PatternLint.CharSet.Class
/-!
# Properties by name

A class such as `\p` followed by a name in braces stands for the characters with a property. Names are
compared without regard to case, blanks, dashes and underscores, and a leading "is" is dropped.
-/
namespace PatternLint.CharSet

/-- A name as the tables write it. -/
def looseName (name : String) : String :=
  let keep (c : Char) : Bool := c.toNat < 128 && c != ' ' && c != '_' && c != '-'
  let bare (cs : List Char) : List Char := (cs.filter keep).map Char.toLower
  match name.toList with
  | i :: s :: cs =>
    if i.toLower = 'i' ∧ s.toLower = 's' then
      if bare cs = ['c'] then "isc" else String.ofList (bare cs)
    else String.ofList (bare (i :: s :: cs))
  | cs => String.ofList (bare cs)

/-- The union of several general categories. -/
def anyCategory (names : List String) : CharSet :=
  names.foldl (fun s n => s.union ((categories.find? n).getD empty)) empty

/-- The characters that some general category lists. -/
def assigned : CharSet := categories.foldl (fun s e => s.union (ofText e.2)) empty

/-- The characters of a general category or of a group of them. -/
def category? (name : String) : Option CharSet :=
  if name = "any" then some (range 0 top)
  else if name = "ascii" then some (range 0 0x7F)
  else if name = "assigned" then some assigned
  else if ["cn", "unassigned"].contains name then some assigned.compl
  else if ["l", "letter"].contains name then some (anyCategory ["lu", "ll", "lt", "lm", "lo"])
  else if ["lc", "casedletter"].contains name then some (anyCategory ["lu", "ll", "lt"])
  else if ["m", "mark", "combiningmark"].contains name then some (anyCategory ["mn", "mc", "me"])
  else if ["n", "number"].contains name then some (anyCategory ["nd", "nl", "no"])
  else if ["p", "punctuation", "punct"].contains name then
    some (anyCategory ["pc", "pd", "pe", "pf", "pi", "po", "ps"])
  else if ["s", "symbol"].contains name then some (anyCategory ["sc", "sk", "sm", "so"])
  else if ["z", "separator"].contains name then some (anyCategory ["zl", "zp", "zs"])
  else if ["c", "other"].contains name then
    some (((anyCategory ["cc", "cf", "co"]).union assigned.compl).insert 0xD800 0xDFFF)
  else categories.find? name

/-- The characters introduced up to the named version. -/
def age? (name : String) : Option CharSet := go empty ages
where
  go (seen : CharSet) : Table → Option CharSet
    | [] => none
    | (names, ranges) :: t =>
      let seen := seen.union (ofText ranges)
      if names.contains name then some seen else go seen t

/-- The characters used with a script. -/
def extendedScript? (name : String) : Option CharSet :=
  (scriptExtensions.find? name).orElse fun _ => scripts.find? name

/-- The set that a single name stands for: a yes-or-no property, else a category, else a script. -/
def property? (name : String) : Option CharSet :=
  let name := looseName name
  if ["whitespace", "wspace", "space"].contains name then some blank
  else (binaryProperties.find? name).orElse fun _ => (category? name).orElse fun _ => scripts.find? name

/-- The characters for which the named property has the named value. -/
def propertyValue? (property value : String) : Option CharSet :=
  let property := looseName property
  let value := looseName value
  if ["gc", "generalcategory", "category"].contains property then category? value
  else if ["sc", "script"].contains property then scripts.find? value
  else if ["scx", "scriptextensions"].contains property then extendedScript? value
  else if property = "age" then age? value
  else if ["gcb", "graphemeclusterbreak"].contains property then graphemeBreaks.find? value
  else if ["wb", "wordbreak"].contains property then wordBreaks.find? value
  else if ["sb", "sentencebreak"].contains property then sentenceBreaks.find? value
  else none

end PatternLint.CharSet
