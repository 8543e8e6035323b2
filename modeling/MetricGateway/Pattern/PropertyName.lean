import MetricGateway.Text.Unicode.Category
import MetricGateway.Text.Unicode.Property
import MetricGateway.Text.Unicode.Script

/-!
# Character classes by property name

A pattern may name a Unicode property. Names are compared loosely: case, blanks, hyphens and
underscores make no difference, nor does a leading `is`. A name alone is looked up among the yes-or-no
properties, the general categories and the scripts, in this order.
-/

namespace MetricGateway.Pattern

open MetricGateway.Text (CharSet)
open MetricGateway.Text.Unicode (Category)

/-- A property name in the form in which names are compared. -/
def looseName (name : List Char) : List Char :=
  let (start, hadIs) := match name with
    | i :: s :: rest =>
      if (i = 'i' ∨ i = 'I') ∧ (s = 's' ∨ s = 'S') then (rest, true) else (name, false)
    | _ => (name, false)
  let kept := start.filterMap fun c =>
    if c = ' ' ∨ c = '_' ∨ c = '-' ∨ 0x80 ≤ c.toNat then none else some c.toLower
  if hadIs ∧ kept = ['c'] then "isc".toList else kept

/-- Whether one of the spellings is the name, loosely. -/
def isNamed (names : List String) (name : List Char) : Bool :=
  names.any fun spelling => looseName spelling.toList = name

/-- The characters of several categories. -/
def ofCategories (cs : List Category) : CharSet :=
  cs.foldl (fun set c => set.union c.chars) .empty

/-- The general categories and their groups under their names. -/
def categoryNames : List (List String × (Unit → CharSet)) :=
  let one (c : Category) : Unit → CharSet := fun _ => c.chars
  let many (cs : List Category) : Unit → CharSet := fun _ => ofCategories cs
  [(["Lu", "Uppercase_Letter"], one .uppercaseLetter),
   (["Ll", "Lowercase_Letter"], one .lowercaseLetter),
   (["Lt", "Titlecase_Letter"], one .titlecaseLetter),
   (["LC", "Cased_Letter"], many [.uppercaseLetter, .lowercaseLetter, .titlecaseLetter]),
   (["Lm", "Modifier_Letter"], one .modifierLetter),
   (["Lo", "Other_Letter"], one .otherLetter),
   (["L", "Letter"], many [.uppercaseLetter, .lowercaseLetter, .titlecaseLetter, .modifierLetter,
     .otherLetter]),
   (["Mn", "Nonspacing_Mark"], one .nonspacingMark),
   (["Mc", "Spacing_Mark"], one .spacingMark),
   (["Me", "Enclosing_Mark"], one .enclosingMark),
   (["M", "Mark", "Combining_Mark"], many [.nonspacingMark, .spacingMark, .enclosingMark]),
   (["Nd", "Decimal_Number", "digit"], one .decimalNumber),
   (["Nl", "Letter_Number"], one .letterNumber),
   (["No", "Other_Number"], one .otherNumber),
   (["N", "Number"], many [.decimalNumber, .letterNumber, .otherNumber]),
   (["Pc", "Connector_Punctuation"], one .connectorPunctuation),
   (["Pd", "Dash_Punctuation"], one .dashPunctuation),
   (["Ps", "Open_Punctuation"], one .openPunctuation),
   (["Pe", "Close_Punctuation"], one .closePunctuation),
   (["Pi", "Initial_Punctuation"], one .initialPunctuation),
   (["Pf", "Final_Punctuation"], one .finalPunctuation),
   (["Po", "Other_Punctuation"], one .otherPunctuation),
   (["P", "Punctuation", "punct"], many [.connectorPunctuation, .dashPunctuation, .openPunctuation,
     .closePunctuation, .initialPunctuation, .finalPunctuation, .otherPunctuation]),
   (["Sm", "Math_Symbol"], one .mathSymbol),
   (["Sc", "Currency_Symbol"], one .currencySymbol),
   (["Sk", "Modifier_Symbol"], one .modifierSymbol),
   (["So", "Other_Symbol"], one .otherSymbol),
   (["S", "Symbol"], many [.mathSymbol, .currencySymbol, .modifierSymbol, .otherSymbol]),
   (["Zs", "Space_Separator"], one .spaceSeparator),
   (["Zl", "Line_Separator"], one .lineSeparator),
   (["Zp", "Paragraph_Separator"], one .paragraphSeparator),
   (["Z", "Separator"], many [.spaceSeparator, .lineSeparator, .paragraphSeparator]),
   (["Cc", "Control", "cntrl"], one .control),
   (["Cf", "Format"], one .format),
   (["Co", "Private_Use"], one .privateUse),
   (["Cn", "Unassigned"], fun _ => Text.Unicode.unassigned),
   (["C", "Other"], fun _ =>
     (ofCategories [.control, .format, .privateUse]).union Text.Unicode.unassigned),
   (["Any"], fun _ => .full),
   (["Assigned"], fun _ => Text.Unicode.unassigned.complement),
   (["ASCII"], fun _ => CharSet.range '\x00' '\x7f')]

/-- The characters of a general category or a group of them. -/
def categoryNamed? (name : List Char) : Option CharSet :=
  (categoryNames.find? fun (names, _) => isNamed names name).map fun (_, set) => set ()

/-- The characters of a script. -/
def scriptNamed? (name : List Char) : Option CharSet :=
  (Text.Unicode.scripts.find? fun s => isNamed s.names name).map (·.chars)

/-- The characters with a yes-or-no property. The abbreviations of three other properties stay
free for categories. -/
def propertyNamed? (name : List Char) : Option CharSet :=
  if name = "cf".toList ∨ name = "sc".toList ∨ name = "lc".toList then none
  else (Text.Unicode.properties.find? fun p => isNamed p.names name).map (·.chars)

/-- The class that a name alone stands for. -/
def classNamed? (name : List Char) : Option CharSet :=
  let name := looseName name
  ((propertyNamed? name).or (categoryNamed? name)).or (scriptNamed? name)

/-- The class of the characters for which a property has a value. -/
def classWithValue? (property value : List Char) : Option CharSet :=
  let property := looseName property
  let value := looseName value
  if isNamed ["gc", "General_Category"] property then categoryNamed? value
  else if isNamed ["sc", "Script"] property then scriptNamed? value
  else none

end MetricGateway.Pattern
