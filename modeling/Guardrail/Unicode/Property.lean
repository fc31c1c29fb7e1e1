import Guardrail.Unicode.Emoji
import Guardrail.Unicode.Identifier
import Guardrail.Unicode.Ideograph
import Guardrail.Unicode.Invisible
import Guardrail.Unicode.Letter
import Guardrail.Unicode.Mark
import Guardrail.Unicode.Punctuation
import Guardrail.Unicode.Symbol

/-!
# Binary properties

The properties that a code point has or has not, by their long and short names.
-/

namespace Guardrail.Unicode

/-- The binary properties with their long and short names. -/
def binaryProperties : List (List String × List (Nat × Nat)) :=
  [(["Alphabetic", "Alpha"], alphabetic),
    (["ASCII_Hex_Digit", "AHex"], asciiHexDigit),
    (["Bidi_Control", "Bidi_C"], bidiControl),
    (["Bidi_Mirrored", "Bidi_M"], bidiMirrored),
    (["Case_Ignorable", "CI"], caseIgnorable),
    (["Cased"], cased),
    (["Changes_When_Casefolded", "CWCF"], changesWhenCasefolded),
    (["Changes_When_Casemapped", "CWCM"], changesWhenCasemapped),
    (["Changes_When_Lowercased", "CWL"], changesWhenLowercased),
    (["Changes_When_Titlecased", "CWT"], changesWhenTitlecased),
    (["Changes_When_Uppercased", "CWU"], changesWhenUppercased),
    (["Dash"], dash),
    (["Default_Ignorable_Code_Point", "DI"], defaultIgnorable),
    (["Deprecated", "Dep"], deprecated),
    (["Diacritic", "Dia"], diacritic),
    (["Emoji"], emoji),
    (["Emoji_Component", "EComp"], emojiComponent),
    (["Emoji_Modifier", "EMod"], emojiModifier),
    (["Emoji_Modifier_Base", "EBase"], emojiModifierBase),
    (["Emoji_Presentation", "EPres"], emojiPresentation),
    (["Extended_Pictographic", "ExtPict"], extendedPictographic),
    (["Extender", "Ext"], extender),
    (["Grapheme_Base", "Gr_Base"], graphemeBase),
    (["Grapheme_Extend", "Gr_Ext"], graphemeExtend),
    (["Grapheme_Link", "Gr_Link"], graphemeLink),
    (["Hex_Digit", "Hex"], hexDigit),
    (["Hyphen"], hyphen),
    (["IDS_Binary_Operator", "IDSB"], idsBinaryOperator),
    (["IDS_Trinary_Operator", "IDST"], idsTrinaryOperator),
    (["IDS_Unary_Operator", "IDSU"], idsUnaryOperator),
    (["ID_Compat_Math_Continue"], idCompatMathContinue),
    (["ID_Compat_Math_Start"], idCompatMathStart),
    (["ID_Continue", "IDC"], idContinue),
    (["ID_Start", "IDS"], idStart),
    (["Ideographic", "Ideo"], ideographic),
    (["Join_Control", "Join_C"], joinControl),
    (["Logical_Order_Exception", "LOE"], logicalOrderException),
    (["Lowercase", "Lower"], lowercase),
    (["Math"], math),
    (["Modifier_Combining_Mark", "MCM"], modifierCombiningMark),
    (["Noncharacter_Code_Point", "NChar"], noncharacterCodePoint),
    (["Other_Alphabetic", "OAlpha"], otherAlphabetic),
    (["Other_Default_Ignorable_Code_Point", "ODI"], otherDefaultIgnorable),
    (["Other_Grapheme_Extend", "OGr_Ext"], otherGraphemeExtend),
    (["Other_ID_Continue", "OIDC"], otherIdContinue),
    (["Other_ID_Start", "OIDS"], otherIdStart),
    (["Other_Lowercase", "OLower"], otherLowercase),
    (["Other_Math", "OMath"], otherMath),
    (["Other_Uppercase", "OUpper"], otherUppercase),
    (["Pattern_Syntax", "Pat_Syn"], patternSyntax),
    (["Pattern_White_Space", "Pat_WS"], patternWhiteSpace),
    (["Prepended_Concatenation_Mark", "PCM"], prependedConcatenationMark),
    (["Quotation_Mark", "QMark"], quotationMark),
    (["Radical"], radical),
    (["Regional_Indicator", "RI"], regionalIndicator),
    (["Sentence_Terminal", "STerm"], sentenceTerminal),
    (["Soft_Dotted", "SD"], softDotted),
    (["Terminal_Punctuation", "Term"], terminalPunctuation),
    (["Unified_Ideograph", "UIdeo"], unifiedIdeograph),
    (["Uppercase", "Upper"], uppercase),
    (["Variation_Selector", "VS"], variationSelector),
    (["White_Space", "WSpace", "space"], whiteSpace),
    (["XID_Continue", "XIDC"], xidContinue),
    (["XID_Start", "XIDS"], xidStart)]

/-- The code points of the entry of a table that has a name. -/
def rangesOfName (table : List (List String × List (Nat × Nat))) (name : String) :
    List (Nat × Nat) :=
  ((table.find? fun (names, _) => name ∈ names).map Prod.snd).getD []

end Guardrail.Unicode
