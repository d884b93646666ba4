import TenantStore.Pattern

/-!
# Character properties

Sets of characters by the names of their general categories, short or long. Case, blanks, hyphens,
underscores and a leading `is` make no difference to a name.
-/

namespace TenantStore.CharSet

open Text Text.Category

def ofCategories (ks : List Category) : CharSet :=
  ks.foldr (fun k s => .union (.category k) s) nothing

def unassigned : CharSet := .complement (ofCategories assigned)

def simpleName (name : String) : String :=
  let kept := (name.toList.filter fun c => c != ' ' && c != '-' && c != '_').map lowerAscii
  String.ofList (match kept with
    | 'i' :: 's' :: rest => rest
    | kept => kept)

def categories? : String → Option (List Category)
  | "l" | "letter" => some letters
  | "lc" | "casedletter" => some [uppercaseLetter, lowercaseLetter, titlecaseLetter]
  | "lu" | "uppercaseletter" => some [uppercaseLetter]
  | "ll" | "lowercaseletter" => some [lowercaseLetter]
  | "lt" | "titlecaseletter" => some [titlecaseLetter]
  | "lm" | "modifierletter" => some [modifierLetter]
  | "lo" | "otherletter" => some [otherLetter]
  | "m" | "mark" | "combiningmark" => some marks
  | "mn" | "nonspacingmark" => some [nonspacingMark]
  | "mc" | "spacingmark" => some [spacingMark]
  | "me" | "enclosingmark" => some [enclosingMark]
  | "n" | "number" => some numbers
  | "nd" | "decimalnumber" | "digit" => some [decimalNumber]
  | "nl" | "letternumber" => some [letterNumber]
  | "no" | "othernumber" => some [otherNumber]
  | "p" | "punctuation" | "punct" => some punctuation
  | "pc" | "connectorpunctuation" => some [connector]
  | "pd" | "dashpunctuation" => some [dash]
  | "ps" | "openpunctuation" => some [openPunctuation]
  | "pe" | "closepunctuation" => some [closePunctuation]
  | "pi" | "initialpunctuation" => some [initialQuote]
  | "pf" | "finalpunctuation" => some [finalQuote]
  | "po" | "otherpunctuation" => some [otherPunctuation]
  | "s" | "symbol" => some symbols
  | "sm" | "mathsymbol" => some [mathSymbol]
  | "sc" | "currencysymbol" => some [currencySymbol]
  | "sk" | "modifiersymbol" => some [modifierSymbol]
  | "so" | "othersymbol" => some [otherSymbol]
  | "z" | "separator" => some separators
  | "zs" | "spaceseparator" => some [spaceSeparator]
  | "zl" | "lineseparator" => some [lineSeparator]
  | "zp" | "paragraphseparator" => some [paragraphSeparator]
  | "cc" | "control" | "cntrl" => some [control]
  | "cf" | "format" => some [format]
  | "co" | "privateuse" => some [privateUse]
  | _ => none

def category? (name : String) : Option CharSet :=
  match simpleName name with
  | "any" => some anything
  | "ascii" => some (.range '\x00' '\x7f')
  | "assigned" => some (.complement unassigned)
  | "cn" | "unassigned" => some unassigned
  | "c" | "other" => some (.union unassigned (ofCategories [control, format, privateUse]))
  | name => (categories? name).map ofCategories

/-- The set of a property, whose name may say that it is a category. -/
def property? (name : String) : Option CharSet :=
  let lead := String.ofList (name.toList.takeWhile fun c => c != '=' && c != ':')
  match name.toList.drop lead.length with
  | _ :: rest =>
    if ["gc", "generalcategory"].contains (simpleName lead) then category? (String.ofList rest)
    else none
  | [] =>
    if ["whitespace", "wspace", "space"].contains (simpleName name) then some .blank
    else category? name

end TenantStore.CharSet
