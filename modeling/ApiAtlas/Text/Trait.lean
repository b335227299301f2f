import ApiAtlas.Text.Category
import ApiAtlas.Text.Partition

/-! # Traits

A trait is a property that a character has or has not and that does not follow from its category. Each
has a long name and may have a short one, written here without capitals and low lines.
-/

namespace ApiAtlas

namespace Letter

/-- A trait: its names, and the runs of code points with it and without it. -/
structure Trait where
  names : List String
  runs : Partition Bool

namespace Trait

/-- What a letter in the lines of a table stands for. -/
def mark? : String → Option Bool
  | "y" => some true
  | "n" => some false
  | _ => none

/-- A trait from the lines of its table. -/
def ofLines (names : List String) (lines : List String) : Trait := ⟨names, .ofLines mark? lines⟩

def holds (trait : Trait) (c : Char) : Bool := trait.runs.at? c.toNat == some true

def bidiControl : Trait :=
  ofLines ["bidicontrol", "bidic"]
    ["1564n1y6641n2y26n5y55n4y1105814n"]

def bidiMirrored : Trait :=
  ofLines ["bidimirrored", "bidim"]
    ["40n2y18n1y1n1y28n1y1n1y29n1y1n1y45n1y15n1y3710n4y1885n2y2460n2y10n2y54n2y14n2y177n1y192n4y3n",
     "6y3n1y3n2y3n4y1n4y1n1y1n1y4n9y5n1y1n18y5n4y9n2y1n1y1n8y1n32y2n4y5n1y9n2y2n19y5n2y9n5y2n2y4n",
     "24y2n16y8n4y20n2y7n2y1085n14y74n1y2n4y1n2y1n3y5n4y5n3y3n14y403n22y2n6y1n14y8n1y7n6y3n1y4n5y",
     "1n2y2n5y4n1y1n3y2n2y10n6y2n2y12n19y1n4y2n1y1n1y2n1y1n4y5n2y6n3y24n2y11n2y4n4y1n2y2n2y4n43y2n",
     "8y1n40y5n1y1n1y3n5y5n3y4n1y3n5y1n1y256n1y515n4y3n2y1n2y14n2y2n10y43n8y427n10y2n8y52797n6y5n",
     "2y162n2y18n1y1n1y28n1y1n1y29n1y1n1y1n2y1n2y55159n1y57n1y57n1y57n1y57n1y993340n"]

def dash : Trait :=
  ofLines ["dash"]
    ["45n1y1372n1y51n1y3649n1y1029n1y2057n6y61n1y39n1y15n1y390n1y3076n1y2n1y31n2y4n1y28n1y446n1y",
     "19n1y111n1y52624n2y37n1y10n1y169n1y3680n1y318n1y1044818n"]

def defaultIgnorableCodePoint : Trait :=
  ofLines ["defaultignorablecodepoint", "di"]
    ["173n1y673n1y716n1y2882n2y1619n2y85n5y2043n5y26n5y49n16y4340n1y52379n16y239n1y160n1y79n9y",
     "48295n4y5327n8y798341n4096y192512n"]

def deprecated : Trait :=
  ofLines ["deprecated", "dep"]
    ["329n1y1321n1y2307n1y1n1y2089n2y2245n6y697n2y908502n1y196606n"]

def diacritic : Trait :=
  ofLines ["diacritic", "dia"]
    ["94n1y1n1y71n1y6n1y4n1y2n2y503n159y1n8y5n6y17n2y4n1y9n2y253n5y209n1y55n45y1n1y1n2y1n2y1n1y",
     "131n8y4n2y134n2y4n2y3n3y67n27y91n11y58n11y34n2y126n8y41n10y16n28y61n1y16n1y3n4y28n1y74n1y16n",
     "1y110n1y16n1y110n1y16n1y47n3y60n1y16n1y7n1y119n1y110n1y16n1y110n1y16n1y109n2y16n1y124n1y111n",
     "1y12n6y1n1y107n1y13n5y75n2y27n1y1n1y1n1y4n2y66n3y1n2y62n1y112n1y1n2y40n2y4n5y25n7y1n1y10n2y",
     "705n3y948n2y30n1y148n11y9n1y347n3y292n1y20n8y2n1y48n15y2n11y104n1y15n1y38n9y54n2y58n1y11n2y",
     "66n2y64n6y82n25y4n1y6n1y2n3y50n63y48n36y5n12y37n11y445n1y1n3y11n3y13n3y13n3y13n2y3312n3y317n",
     "1y506n6y105n4y95n1y30066n1y12n2y1n1y28n2y82n2y14n34y102n3y109n2y12n1y37n1y151n1y27n18y57n4y",
     "36n1y95n1y12n1y36n1y149n3y65n4y51n1y100n5y9n3y128n2y20272n1y769n16y270n1y1n1y47n1y45n2y67n1y",
     "764n1y1183n6y1n42y1n9y637n3y4n1y165n2y571n6y38n1y26n5y399n3y70n11y49n4y192n1y41n1y72n2y120n",
     "2y62n1y76n1y9n3y104n2y178n2y80n2y16n1y24n7y3n5y89n3y1n2y13n2y95n1y3n1y123n2y251n2y126n1y118n",
     "2y115n1y269n2y258n2y4n1y156n1y83n1y18n1y81n1y421n1y258n1y1n2y81n1y425n2y23n1y5356n15y11481n",
     "1y2496n5y59n7y564n2y546n17y80n2y16382n4y1n7y1n2y7937n46y2n23y544n3y3n6y8n8y2n7y30n4y3714n62y",
     "194n7y375n1y61n4y766n2y736n7y109n3y1n3y988853n"]

def emoji : Trait :=
  ofLines ["emoji"]
    ["35n1y6n1y5n10y111n1y4n1y8077n1y12n1y216n1y22n1y90n6y15n2y367n2y12n1y166n1y25n11y4n3y199n1y",
     "231n2y10n1y9n1y58n4y1n5y9n1y2n1y2n2y2n1y4n1y2n1y1n2y2n1y3n1y3n2y8n3y5n1y1n1y5n12y11n2y2n1y1n",
     "2y1n1y18n1y2n2y18n6y1n1y1n2y3n2y5n1y2n2y4n2y11n2y5n2y2n1y5n2y1n1y1n2y20n2y5n6y1n4y2n1y4n1y2n",
     "1y2n6y1n1y2n1y1n1y1n1y6n1y3n1y6n1y10n2y15n1y2n1y4n1y1n1y4n3y1n1y11n2y48n3y9n1y14n1y14n1y372n",
     "2y463n3y19n2y51n1y4n1y1242n1y12n1y601n1y1n1y114026n1y202n1y160n2y12n2y14n1y2n10y75n26y1n2y",
     "23n1y20n1y2n9y21n2y174n34y2n112y2n2y1n3y2n83y2n3y1n263y1n63y11n6y1n24y7n2y2n8y12n1y2n4y2n1y",
     "4n2y13n2y2n1y8n2y9n1y5n3y12n3y8n3y2n1y1n1y4n1y6n1y3n1y6n86y48n70y5n8y2n3y4n10y3n1y1n2y3n1y2n",
     "10y227n12y4n1y283n47y1n10y1n185y112n13y3n10y5n56y7n15y2n11y6n9y984327n"]

def emojiComponent : Trait :=
  ofLines ["emojicomponent", "ecomp"]
    ["35n1y6n1y5n10y8147n1y213n1y56619n1y62422n26y507n5y1456n4y788076n96y196480n"]

def emojiModifier : Trait :=
  ofLines ["emojimodifier", "emod"]
    ["127995n5y986112n"]

def emojiModifierBase : Trait :=
  ofLines ["emojimodifierbase", "ebase"]
    ["9757n1y219n1y16n4y117879n1y60n3y2n1y2n3y117n2y2n11y21n19y3n1y4n3y1n3y7n1y1n1y24n1y201n2y4n1y",
     "21n1y4n2y174n3y3n5y83n1y16n3y9n1y11n1y575n1y2n1y8n8y6n1y9n10y2n3y56n1y61n2y1n2y1n1y17n3y1n",
     "13y229n3y42n9y984327n"]

def emojiPresentation : Trait :=
  ofLines ["emojipresentation", "epres"]
    ["8986n2y205n4y3n1y2n1y521n2y21n2y50n12y43n1y19n1y13n1y8n2y17n2y5n2y8n1y5n1y21n1y7n2y1n1y4n1y",
     "2n1y7n1y4n2y28n1y35n1y1n1y4n3y1n1y61n3y24n1y14n1y859n2y51n1y4n1y115886n1y202n1y190n1y2n10y",
     "75n26y1n1y24n1y20n1y2n5y1n3y21n2y174n33y12n9y1n70y1n22y12n43y4n5y12n17y3n1y3n71y1n1y1n187y2n",
     "63y13n4y1n24y18n1y26n2y13n1y86n85y48n70y6n1y3n3y2n3y4n4y11n2y7n9y227n12y4n1y283n47y1n10y1n",
     "185y112n13y3n10y5n56y7n15y2n11y6n9y984327n"]

def extendedPictographic : Trait :=
  ofLines ["extendedpictographic", "extpict"]
    ["169n1y4n1y8077n1y12n1y216n1y22n1y90n6y15n2y367n2y12n1y95n1y70n1y25n11y4n3y199n1y231n2y10n1y",
     "9n1y58n4y1n6y1n12y1n114y10n118y2n11y1n1y1n1y6n1y3n1y6n1y10n2y15n1y2n1y4n1y1n1y4n3y1n1y11n5y",
     "45n3y9n1y14n1y14n1y372n2y463n3y19n2y51n1y4n1y1242n1y12n1y601n1y1n1y114022n256y13n3y31n1y60n",
     "6y12n2y14n1y2n10y18n57y27n15y10n1y20n1y2n9y1n4y9n434y5n318y8n266y48n128y116n12y85n43y12n4y",
     "56n8y10n6y40n8y30n82y12n47y1n10y1n441y256n1022y983042n"]

def extender : Trait :=
  ofLines ["extender", "ext"]
    ["183n1y536n2y878n1y441n1y630n1y137n1y89n1y752n1y127n1y2371n1y56n1y611n1y398n1y68n1y5001n1y43n",
     "5y103n2y93n3y28438n1y1526n1y962n1y22n1y137n1y108n1y21n2y21627n1y2064n2y1483n1y27n1y4n1y1223n",
     "1y293n1y116n2y498n3y1231n1y20649n2y1180n2y1n1y29016n2y1201n1y852n3y988857n"]

def hyphen : Trait :=
  ofLines ["hyphen"]
    ["45n1y127n1y1244n1y4731n1y2057n2y3589n1y739n1y52583n1y169n1y87n1y1048730n"]

def idsBinaryOperator : Trait :=
  ofLines ["idsbinaryoperator", "idsb"]
    ["12272n2y2n10y497n1y1101328n"]

def idsTrinaryOperator : Trait :=
  ofLines ["idstrinaryoperator", "idst"]
    ["12274n2y1101836n"]

def idsUnaryOperator : Trait :=
  ofLines ["idsunaryoperator", "idsu"]
    ["12286n2y1101824n"]

def idCompatMathContinue : Trait :=
  ofLines ["idcompatmathcontinue"]
    ["178n2y5n1y8118n1y3n11y1n15y371n1y4n1y22n1y111778n1y25n1y31n1y25n1y31n1y25n1y31n1y25n1y31n1y",
     "25n1y993340n"]

def idCompatMathStart : Trait :=
  ofLines ["idcompatmathstart"]
    ["8706n1y4n1y22n1y111778n1y25n1y31n1y25n1y31n1y25n1y31n1y25n1y31n1y25n1y993340n"]

def ideographic : Trait :=
  ofLines ["ideographic", "ideo"]
    ["12294n2y25n9y14n3y965n6592y64n20992y22784n366y2n106y29962n1y27n6136y8n1238y41n10y9319n396y",
     "19716n42720y32n4154y6n222y2n5762y14n7473y15n622y2466n542y1506n4939y5n4192y908368n"]

def logicalOrderException : Trait :=
  ofLines ["logicalorderexception", "loe"]
    ["3648n5y123n5y2800n3y2n1y37114n2y2n1y1n2y1070403n"]

def math : Trait :=
  ofLines ["math"]
    ["43n1y16n3y31n1y29n1y1n1y45n1y4n1y37n1y31n1y728n3y2n1y26n2y2n3y527n3y6669n1y27n3y11n1y3n1y13n",
     "1y14n4y21n5y11n5y65n13y4n1y3n2y4n5y18n1y4n1y2n10y1n1y2n6y6n1y3n2y2n2y1n3y1n6y3n14y1n1y68n24y",
     "1n6y1n2y4n2y4n32y1n1y6n2y14n268y8n4y20n2y90n1y30n27y1n1y24n1y11n7y445n2y12n10y4n6y4n2y2n2y3n",
     "5y14n1y1n1y2n6y11n8y5n2y57n1y1n1y29n4y9n3y336n64y256n512y48n21y2n6y53212n1y823n6y1n1y162n1y",
     "16n3y29n1y1n1y29n1y1n1y131n1y6n4y3489n2y50800n85y1n71y1n2y2n1y2n2y2n4y1n12y1n1y1n7y1n65y1n4y",
     "2n8y1n7y1n28y1n4y1n5y1n1y3n7y1n340y2n292y2n50y5632n4y1n27y1n2y1n1y2n1y1n10y1n4y1n1y1n1y6n1y",
     "4n1y1n1y1n1y1n3y1n2y1n1y2n1y1n1y1n1y1n1y1n1y1n2y1n1y2n4y1n7y1n4y1n4y1n1y1n10y1n17y5n3y1n5y1n",
     "17y52n2y987406n"]

def modifierCombiningMark : Trait :=
  ofLines ["modifiercombiningmark", "mcm"]
    ["1620n2y2n1y131n1y6n1y3n2y481n2y1n3y3n1y31n1y1111820n"]

def noncharacterCodePoint : Trait :=
  ofLines ["noncharactercodepoint", "nchar"]
    ["64976n32y526n2y65534n2y65534n2y65534n2y65534n2y65534n2y65534n2y65534n2y65534n2y65534n2y",
     "65534n2y65534n2y65534n2y65534n2y65534n2y65534n2y65534n2y"]

def otherGraphemeExtend : Trait :=
  ofLines ["othergraphemeextend", "ogrext"]
    ["2494n1y24n1y358n1y24n1y102n1y24n1y232n1y1n1y4n2y1n2y9n2y103n1y24n1y119n1y15n1y2357n1y30n1y",
     "1024n1y5n1y1n1y5n2y101n1y71n2y1048n1y4129n2y31011n1y108n1y21981n2y4640n1y116n1y264n1y14n1y9n",
     "1y96n1y9n1y2n1y1n3y5n1y224n1y12n1y241n1y262n1y633n1y12n1y1539n1y20654n2y24947n2y6n6y798381n",
     "96y196480n"]

def patternSyntax : Trait :=
  ofLines ["patternsyntax", "patsyn"]
    ["33n15y10n7y26n4y1n1y26n4y34n7y1n1y1n2y1n1y1n2y4n1y4n1y3n1y23n1y31n1y7960n24y8n15y2n19y1n10y",
     "305n720y160n630y30n1132y512n128y385n3y4n25y15n1y52493n2y261n2y1049017n"]

def patternWhiteSpace : Trait :=
  ofLines ["patternwhitespace", "patws"]
    ["9n5y18n1y100n1y8072n2y24n2y1105878n"]

def prependedConcatenationMark : Trait :=
  ofLines ["prependedconcatenationmark", "pcm"]
    ["1536n6y215n1y49n1y384n2y80n1y67546n1y15n1y1044274n"]

def quotationMark : Trait :=
  ofLines ["quotationmark", "qmark"]
    ["34n1y4n1y131n1y15n1y8028n8y25n2y3591n1y457n4y13n3y52769n4y189n1y4n1y90n2y1048732n"]

def radical : Trait :=
  ofLines ["radical"]
    ["11904n26y1n89y12n214y1101866n"]

def regionalIndicator : Trait :=
  ofLines ["regionalindicator", "ri"]
    ["127462n26y986624n"]

def sentenceTerminal : Trait :=
  ofLines ["sentenceterminal", "sterm"]
    ["33n1y12n1y16n1y1353n1y147n3y180n1y43n3y246n1y61n1y1n1y3n2y293n2y1764n2y790n1y4n2y773n1y198n",
     "2y157n2y45n1y5n1y314n2y354n4y162n2y10n2y2n2y29n3y187n2y65n2y932n1y23n2y9n3y3247n3y306n1y13n",
     "1y22n2y429n1y29948n1y270n2y227n1y3n1y382n2y86n2y95n1y152n2y147n3y144n2y249n1y21030n1y2n2y59n",
     "1y3n2y169n1y12n1y16n1y65n1y2804n2y1277n5y44n4y189n2y117n4y127n3y129n2y6n1y16n2y88n2y1n2y108n",
     "1y298n2y117n2y373n2y5n15y105n2y249n3y517n1y1n1y251n2y87n2y420n2y692n2y74n2y19241n2y133n1y65n",
     "2y11n1y553n2y296n1y19974n1y7656n1y992631n"]

def softDotted : Trait :=
  ofLines ["softdotted", "sd"]
    ["105n2y196n1y281n1y30n1y52n1y20n1y320n1y98n1y1n1y6409n1y51n1y13n1y3n1y132n1y157n1y421n1y214n",
     "2y2866n1y108453n2y50n2y50n2y50n2y50n2y50n2y50n2y50n2y50n2y50n2y50n2y50n2y50n2y2182n1y305n2y",
     "26n1y991127n"]

def terminalPunctuation : Trait :=
  ofLines ["terminalpunctuation", "term"]
    ["33n1y10n1y1n1y11n2y3n1y830n1y8n1y513n1y57n1y72n1y14n1y1n3y180n1y43n11y1n1y235n2y54n6y1n8y31n",
     "1y261n2y1268n2y172n1y4n6y311n2y789n8y773n1y124n3y71n2y157n3y3n1y39n4y2n2y314n2y354n4y162n2y",
     "10n2y1n3y29n3y187n5y62n2y932n1y23n2y9n3y3247n3y306n1y13n1y4n1y10n1y1n2y3n2y428n2y29947n2y",
     "269n3y227n5y382n2y86n2y95n1y151n3y147n3y127n1y16n2y249n1y21030n1y2n2y57n3y1n4y169n1y10n1y1n",
     "1y11n2y3n1y65n1y2n1y1082n1y48n1y1158n1y199n1y310n2y152n6y68n6y89n4y952n5y44n4y189n7y112n4y",
     "127n3y129n2y6n1y16n2y88n5y108n1y298n2y117n3y12n2y358n4y3n15y105n2y249n3y517n1y1n1y251n2y87n",
     "2y4n2y414n3y45n1y645n2y74n2y1323n5y17913n2y133n1y65n3y10n1y553n2y295n2y19974n1y7655n4y",
     "992629n"]

def unifiedIdeograph : Trait :=
  ofLines ["unifiedideograph", "uideo"]
    ["13312n6592y64n20992y23054n2y1n1y1n2y10n1y1n1y1n2y2n3y67030n42720y32n4154y6n222y2n5762y14n",
     "7473y15n622y4514n4939y5n4192y908368n"]

def variationSelector : Trait :=
  ofLines ["variationselector", "vs"]
    ["6155n3y1n1y58864n16y852720n240y196112n"]

def all : List Trait :=
  [bidiControl, bidiMirrored, dash, defaultIgnorableCodePoint, deprecated, diacritic, emoji,
   emojiComponent, emojiModifier, emojiModifierBase, emojiPresentation, extendedPictographic,
   extender, hyphen, idsBinaryOperator, idsTrinaryOperator, idsUnaryOperator,
   idCompatMathContinue, idCompatMathStart, ideographic, logicalOrderException, math,
   modifierCombiningMark, noncharacterCodePoint, otherGraphemeExtend, patternSyntax,
   patternWhiteSpace, prependedConcatenationMark, quotationMark, radical, regionalIndicator,
   sentenceTerminal, softDotted, terminalPunctuation, unifiedIdeograph, variationSelector]

def named? (name : String) : Option Trait := all.find? (·.names.contains name)

end Trait

end Letter

end ApiAtlas
