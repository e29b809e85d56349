import PropCalc.Pattern.CharSet
import PropCalc.Unicode.Category
import PropCalc.Unicode.Script
import PropCalc.Unicode.ScriptExtension
import PropCalc.Unicode.Binary
import PropCalc.Unicode.PropertyName
import PropCalc.Unicode.Age
import PropCalc.Unicode.Segmentation
import PropCalc.Unicode.Classes

namespace PropCalc.Pattern

namespace Property

def normalize (s : String) : String :=
  let cs := s.toList
  let (prefixed, body) := match cs with
    | a :: b :: rest => if (a = 'i' ∨ a = 'I') ∧ (b = 's' ∨ b = 'S') then (true, rest) else (false, cs)
    | _ => (false, cs)
  let kept := body.filterMap fun c =>
    if c = ' ' ∨ c = '_' ∨ c = '-' ∨ c.toNat > 0x7F then none else some c.toLower
  if prefixed ∧ kept = ['c'] then "isc" else String.ofList kept

def tableSet (data : List (String × String)) (name : String) : Option CharSet :=
  (data.lookup name).map fun s => CharSet.ofTable (Unicode.Ranges.decode s)

def category? (canon : String) : Option CharSet :=
  if canon = "Any" then some (CharSet.range 0 maxCode)
  else if canon = "ASCII" then some (CharSet.range 0 0x7F)
  else if canon = "Assigned" then (tableSet Unicode.categoryData "Unassigned").map CharSet.complement
  else if canon = "Decimal_Number" then some (CharSet.ofTable Unicode.digitRanges)
  else tableSet Unicode.categoryData canon

def canonicalCategory? (v : String) : Option String :=
  if v = "any" then some "Any"
  else if v = "assigned" then some "Assigned"
  else if v = "ascii" then some "ASCII"
  else Unicode.categoryAliases.lookup v

def age? (canon : String) : Option CharSet :=
  match Unicode.ageData.findIdx? (·.1 = canon) with
  | some i => some (CharSet.unionAll ((Unicode.ageData.take (i + 1)).map fun p =>
      CharSet.ofTable (Unicode.Ranges.decode p.2)))
  | none => none

def binary? (canon : String) : Option CharSet :=
  if canon = "White_Space" then some (CharSet.ofTable Unicode.spaceRanges)
  else tableSet Unicode.binaryData canon

/-- The class of a bare name: a binary property, else a general category, else a script. A
name that resolves to a property or category without a table selects nothing, without trying
the later readings. -/
def named? (name : String) : Option CharSet :=
  let n := normalize name
  let asProperty := if n = "cf" ∨ n = "sc" ∨ n = "lc" then none else Unicode.propertyNames.lookup n
  match asProperty with
  | some canon => binary? canon
  | none =>
    match canonicalCategory? n with
    | some canon => category? canon
    | none => (Unicode.scriptAliases.lookup n).bind (tableSet Unicode.scriptData)

/-- The class of a property with a value: the value is resolved among the values of the named
property, then its table is looked up. -/
def valued? (prop value : String) : Option CharSet :=
  let v := normalize value
  match Unicode.propertyNames.lookup (normalize prop) with
  | some "General_Category" => (canonicalCategory? v).bind category?
  | some "Script" => (Unicode.scriptAliases.lookup v).bind (tableSet Unicode.scriptData)
  | some "Script_Extensions" =>
    (Unicode.scriptAliases.lookup v).bind (tableSet Unicode.scriptExtensionData)
  | some "Age" => (Unicode.ageAliases.lookup v).bind age?
  | some "Grapheme_Cluster_Break" =>
    (Unicode.graphemeBreakAliases.lookup v).bind (tableSet Unicode.graphemeBreakData)
  | some "Word_Break" => (Unicode.wordBreakAliases.lookup v).bind (tableSet Unicode.wordBreakData)
  | some "Sentence_Break" =>
    (Unicode.sentenceBreakAliases.lookup v).bind (tableSet Unicode.sentenceBreakData)
  | _ => none

end Property

end PropCalc.Pattern
