import ApiAtlas.Pattern.CharSet

/-! # Names of properties

A pattern names a property of characters by a general category, by a script, or by a name of its own.
Letter case, blanks, hyphens, low lines and a leading `is` make no difference to a name.
-/

namespace ApiAtlas

namespace CharProperty

/-- The letters of a name that tell it from others. -/
def plainName (name : String) : String :=
  let letters := name.toList.map Char.toLower
  let bare := if "is".toList.isPrefixOf letters then letters.drop 2 else letters
  let kept := bare.filter fun c => c != ' ' && c != '_' && c != '-' && Letter.isAscii c
  if kept = ['c'] && bare.length < letters.length then "isc" else String.ofList kept

/-- The long names of the general categories and of the classes of categories, with their codes. -/
def categoryNames : List (String × String) :=
  [("uppercaseletter", "Lu"), ("lowercaseletter", "Ll"), ("titlecaseletter", "Lt"),
   ("casedletter", "LC"), ("modifierletter", "Lm"), ("otherletter", "Lo"), ("letter", "L"),
   ("nonspacingmark", "Mn"), ("spacingmark", "Mc"), ("enclosingmark", "Me"), ("mark", "M"),
   ("combiningmark", "M"), ("decimalnumber", "Nd"), ("digit", "Nd"), ("letternumber", "Nl"),
   ("othernumber", "No"), ("number", "N"), ("connectorpunctuation", "Pc"), ("dashpunctuation", "Pd"),
   ("openpunctuation", "Ps"), ("closepunctuation", "Pe"), ("initialpunctuation", "Pi"),
   ("finalpunctuation", "Pf"), ("otherpunctuation", "Po"), ("punctuation", "P"), ("punct", "P"),
   ("mathsymbol", "Sm"), ("currencysymbol", "Sc"), ("modifiersymbol", "Sk"), ("othersymbol", "So"),
   ("symbol", "S"), ("spaceseparator", "Zs"), ("lineseparator", "Zl"), ("paragraphseparator", "Zp"),
   ("separator", "Z"), ("control", "Cc"), ("cntrl", "Cc"), ("format", "Cf"), ("surrogate", "Cs"),
   ("privateuse", "Co"), ("unassigned", "Cn"), ("other", "C")]

/-- The categories that a code of one or two letters stands for. -/
def categoriesOf? (code : String) : Option (List Letter.Category) :=
  match code.toList.map Char.toUpper with
  | ['L', 'C'] => some [.uppercaseLetter, .lowercaseLetter, .titlecaseLetter]
  | [letter] =>
    let categories := Letter.Category.inClass letter
    if categories.isEmpty then none else some categories
  | [first, second] => (Letter.Category.ofCode? (String.ofList [first, second.toLower])).map ([·])
  | _ => none

/-- The characters of a general category, given by its plain name. -/
def ofCategory? (plain : String) : Option CharSet :=
  match plain with
  | "any" => some .all
  | "ascii" => some (.range '\x00' '\x7f')
  | "assigned" => some (.complement (.having (.category [.unassigned])))
  | plain =>
    (categoriesOf? ((categoryNames.lookup plain).getD plain)).map fun categories =>
      .having (.category categories)

/-- The code of a script, given by its plain name. -/
def scriptCode? (plain : String) : Option String :=
  match Letter.Script.names.find? fun names => (names.map plainName).contains plain with
  | some (code :: _) => some code
  | _ => none

/-- The characters of a script, given by its plain name. -/
def ofScript? (plain : String) : Option CharSet :=
  (scriptCode? plain).map fun code => .having (.script code)

def withTrait (name : String) : CharSet := .having (.trait name)

/-- Small letters and what is like them. -/
def small : CharSet := .having .lower

/-- Capital letters and what is like them. -/
def capital : CharSet := .having .upper

def inCategory (categories : List Letter.Category) : CharSet := .having (.category categories)

def cased : CharSet := CharSet.unionOf [small, capital, inCategory [.titlecaseLetter]]

/-- What does not separate letters where case depends on the letters around. -/
def caseIgnorable : CharSet :=
  .union
    (inCategory [.nonspacingMark, .enclosingMark, .format, .modifierLetter, .modifierSymbol])
    (CharSet.unionOf
      (['\'', '.', ':', '\u00b7', '\u0387', '\u055f', '\u05f4', '\u2018', '\u2019', '\u2024', '\u2027',
        '\ufe13', '\ufe52', '\ufe55', '\uff07', '\uff0e', '\uff1a'].map CharSet.single))

/-- What has another form at the start of a title. -/
def titleChanges : CharSet :=
  .union
    (.difference (.having .hasCapitalForm)
      (CharSet.unionOf
        [inCategory [.titlecaseLetter], .range '\u10d0' '\u10fa', .range '\u10fd' '\u10ff']))
    (CharSet.unionOf [.single '\u01c4', .single '\u01c7', .single '\u01ca', .single '\u01f1'])

/-- What has another form where letter case is ignored. -/
def foldChanges : CharSet :=
  .union (.difference (.having .hasSmallForm) (.range '\u13a0' '\u13f5'))
    (CharSet.unionOf
      [.single '\u00b5', .single '\u00df', .single '\u0149', .single '\u017f', .single '\u0345',
       .single '\u03c2', .range '\u03d0' '\u03d1', .range '\u03d5' '\u03d6', .range '\u03f0' '\u03f1',
       .single '\u03f5', .single '\u0587', .range '\u13f8' '\u13fd', .range '\u1c80' '\u1c88',
       .range '\u1e9a' '\u1e9b', .range '\u1f80' '\u1f87', .range '\u1f90' '\u1f97',
       .range '\u1fa0' '\u1fa7', .range '\u1fb2' '\u1fb4', .single '\u1fb7', .range '\u1fc2' '\u1fc4',
       .single '\u1fc7', .range '\u1ff2' '\u1ff4', .single '\u1ff7', .range '\uab70' '\uabbf',
       .range '\ufb00' '\ufb06', .range '\ufb13' '\ufb17'])

/-- What goes on a cluster of characters that are read as one. -/
def graphemeExtend : CharSet :=
  .union (inCategory [.nonspacingMark, .enclosingMark]) (withTrait "othergraphemeextend")

/-- What starts a cluster of characters that are read as one. -/
def graphemeBase : CharSet :=
  .complement
    (.union graphemeExtend
      (inCategory
        [.control, .format, .surrogate, .privateUse, .unassigned, .lineSeparator,
         .paragraphSeparator]))

def identifierStart : CharSet :=
  .difference
    (.union (inCategory (.letterNumber :: Letter.Category.inClass 'L'))
      (CharSet.unionOf
        [.range '\u1885' '\u1886', .single '\u2118', .single '\u212e', .range '\u309b' '\u309c']))
    (.single '\u2e2f')

def identifierPart : CharSet :=
  .union (.union identifierStart
      (inCategory [.nonspacingMark, .spacingMark, .decimalNumber, .connectorPunctuation]))
    (CharSet.unionOf
      [.single '\u00b7', .single '\u0387', .range '\u1369' '\u1371', .single '\u19da',
       .range '\u200c' '\u200d', .single '\u30fb', .single '\uff65'])

/-- The characters of identifiers that stay such when text is brought to its compatible form. -/
def stable (set : CharSet) : CharSet :=
  .difference set
    (CharSet.unionOf
      [.single '\u037a', .range '\u309b' '\u309c', .range '\ufc5e' '\ufc63', .range '\ufdfa' '\ufdfb',
       .single '\ufe70', .single '\ufe72', .single '\ufe74', .single '\ufe76', .single '\ufe78',
       .single '\ufe7a', .single '\ufe7c', .single '\ufe7e'])

/-- The characters that start identifiers and stay such. -/
def stableStart : CharSet :=
  .difference (stable identifierStart)
    (CharSet.unionOf [.single '\u0e33', .single '\u0eb3', .range '\uff9e' '\uff9f'])

/-- The digits of hexadecimal numerals in both widths. -/
def fullHexDigit : CharSet :=
  CharSet.unionOf
    [.hexDigit, .range '\uff10' '\uff19', .range '\uff21' '\uff26', .range '\uff41' '\uff46']

/-- The sets that have names of their own, with these plain names. -/
def ownSets : List (List String × CharSet) :=
  [(["alphabetic", "alpha"], .having .alphabetic),
   (["lowercase", "lower"], small),
   (["uppercase", "upper"], capital),
   (["cased"], cased),
   (["caseignorable", "ci"], caseIgnorable),
   (["changeswhenlowercased", "cwl"], .having .hasSmallForm),
   (["changeswhenuppercased", "cwu"], .having .hasCapitalForm),
   (["changeswhencasemapped", "cwcm"], .union (.having .hasSmallForm) (.having .hasCapitalForm)),
   (["changeswhentitlecased", "cwt"], titleChanges),
   (["changeswhencasefolded", "cwcf"], foldChanges),
   (["whitespace", "wspace", "space"], .blank),
   (["asciihexdigit", "ahex"], .hexDigit),
   (["hexdigit", "hex"], fullHexDigit),
   (["joincontrol", "joinc"], .range '\u200c' '\u200d'),
   (["graphemeextend", "grext"], graphemeExtend),
   (["graphemebase", "grbase"], graphemeBase),
   (["idstart", "ids"], identifierStart),
   (["idcontinue", "idc"], identifierPart),
   (["xidstart", "xids"], stableStart),
   (["xidcontinue", "xidc"], stable identifierPart)]

/-- The characters of a property of its own name, given by its plain name. -/
def ofOwnName? (plain : String) : Option CharSet :=
  match ownSets.find? (·.1.contains plain) with
  | some (_, set) => some set
  | none => (Letter.Trait.named? plain).map fun _ => withTrait plain

/-- The characters of a property that is named alone. -/
def ofName? (name : String) : Option CharSet :=
  let plain := plainName name
  ((ofOwnName? plain).or (ofCategory? plain)).or (ofScript? plain)

/-- The characters whose property of a name has a value. -/
def ofValue? (name value : String) : Option CharSet :=
  let plain := plainName name
  if plain = "gc" || plain = "generalcategory" then ofCategory? (plainName value)
  else if plain = "sc" || plain = "script" then ofScript? (plainName value)
  else if plain = "scx" || plain = "scriptextensions" then
    (scriptCode? (plainName value)).map fun code => .having (.usedIn code)
  else none

/-- The parts of a text around the first occurrence of a mark. -/
def cutAround? (mark : List Char) : List Char → Option (List Char × List Char)
  | [] => none
  | c :: rest =>
    if mark.isPrefixOf (c :: rest) then some ([], (c :: rest).drop mark.length)
    else (cutAround? mark rest).map fun (before, after) => (c :: before, after)

/-- The characters that the text in the braces of a property class names: a name, or a name and a value
with `=`, `:` or, for the other characters, `!=` between. -/
def ofText? (text : List Char) : Option CharSet :=
  let value? (parts : List Char × List Char) :=
    ofValue? (String.ofList parts.1) (String.ofList parts.2)
  match cutAround? ['!', '='] text, cutAround? [':'] text, cutAround? ['='] text with
  | some parts, _, _ => (value? parts).map .complement
  | none, some parts, _ => value? parts
  | none, none, some parts => value? parts
  | none, none, none => ofName? (String.ofList text)

end CharProperty

end ApiAtlas
