import SyntaxOutline.Unicode.Age
import SyntaxOutline.Unicode.Break

/-!
# Sets of characters by name

Categories, scripts and properties are looked up by their names. Names are compared without regard
to case, blanks, hyphens, underscores and a leading `is`.

* `Unicode.named` : the set of a name such as `Lu`, `Greek` or `Alphabetic`.
* `Unicode.valued` : the set of a name and a value such as `Script` and `Greek`.
* `Unicode.word` : the characters of words.
-/

namespace SyntaxOutline.Unicode

/-- Why no set is found: the name is unknown, or no value of that name has a set. -/
inductive Missing where
  | name
  | value
deriving DecidableEq, Repr

/-- The form in which names are compared. The name `isc` keeps its beginning, as `c` alone means
something else. -/
def plainName (name : String) : String :=
  let cs := name.toList
  let named := (cs.take 2).map Char.toLower == ['i', 's']
  let kept := ((if named then cs.drop 2 else cs).filter fun c =>
    c.toNat < 0x80 && c != ' ' && c != '_' && c != '-').map Char.toLower
  if named && kept == ['c'] then "isc" else String.ofList kept

/-- The set with a name in compared form. -/
def find? (sets : List NamedSet) (name : String) : Option NamedSet :=
  sets.find? fun s => s.names.any fun n => plainName n == name

/-- Categories and scripts without characters. -/
def emptyNames : List String := ["cs", "surrogate", "hrkt", "katakanaorhiragana", "zzzz", "unknown"]

/-- Names of what characters have besides the properties with a set. -/
def otherNames : List String :=
  Text.words "Age bc Bidi_Class bmg Bidi_Mirroring_Glyph bpb Bidi_Paired_Bracket bpt
    Bidi_Paired_Bracket_Type blk Block ccc Canonical_Combining_Class cf Case_Folding CE
    Composition_Exclusion Comp_Ex Full_Composition_Exclusion CWKCF Changes_When_NFKC_Casefolded
    cjkAccountingNumeric kAccountingNumeric cjkCompatibilityVariant kCompatibilityVariant
    cjkIICore kIICore cjkIRG_GSource kIRG_GSource cjkIRG_HSource kIRG_HSource cjkIRG_JSource
    kIRG_JSource cjkIRG_KPSource kIRG_KPSource cjkIRG_KSource kIRG_KSource cjkIRG_MSource
    kIRG_MSource cjkIRG_SSource kIRG_SSource cjkIRG_TSource kIRG_TSource cjkIRG_UKSource
    kIRG_UKSource cjkIRG_USource kIRG_USource cjkIRG_VSource kIRG_VSource cjkOtherNumeric
    kOtherNumeric cjkPrimaryNumeric kPrimaryNumeric cjkRSUnicode kRSUnicode
    Unicode_Radical_Stroke URS dm Decomposition_Mapping dt Decomposition_Type ea
    East_Asian_Width EqUIdeo Equivalent_Unified_Ideograph FC_NFKC FC_NFKC_Closure gc
    General_Category GCB Grapheme_Cluster_Break hst Hangul_Syllable_Type InCB
    Indic_Conjunct_Break InPC Indic_Positional_Category InSC Indic_Syllabic_Category isc
    ISO_Comment jg Joining_Group JSN Jamo_Short_Name jt Joining_Type kEH_Cat kEH_Desc kEH_HG
    kEH_IFAO kEH_JSesh kEH_NoMirror kEH_NoRotate lb Line_Break lc Lowercase_Mapping na Name na1
    Unicode_1_Name Name_Alias NFC_QC NFC_Quick_Check NFD_QC NFD_Quick_Check NFKC_CF
    NFKC_Casefold NFKC_QC NFKC_Quick_Check NFKC_SCF NFKC_Simple_Casefold NFKD_QC
    NFKD_Quick_Check nt Numeric_Type nv Numeric_Value SB Sentence_Break sc Script scf
    Simple_Case_Folding sfc scx Script_Extensions slc Simple_Lowercase_Mapping stc
    Simple_Titlecase_Mapping suc Simple_Uppercase_Mapping tc Titlecase_Mapping uc
    Uppercase_Mapping vo Vertical_Orientation WB Word_Break XO_NFC Expands_On_NFC XO_NFD
    Expands_On_NFD XO_NFKC Expands_On_NFKC XO_NFKD Expands_On_NFKD"

/-- Whether a name in compared form is one of those. -/
def isOtherName (name : String) : Bool := otherNames.any fun n => plainName n == name

/-- Names of categories that are also names of something else. -/
def sharedNames : List String := ["cf", "sc", "lc"]

/-- The set of a name: a property, a category or a script. -/
def named (name : String) : Except Missing CharSet :=
  let name := plainName name
  let property := if sharedNames.contains name then none else find? Property.all name
  match property with
  | some s => .ok s.chars
  | none =>
    if isOtherName name ∧ ¬ sharedNames.contains name then .error .name
    else
      match find? Category.all name <|> find? Script.all name with
      | some s => .ok s.chars
      | none => .error (if emptyNames.contains name then .value else .name)

/-- What has values with a set for each, by its names. A character that was assigned in a version
has the ages of all later versions too. -/
def valueSets : List (List String × (String → Option CharSet)) := [
  (["gc", "generalcategory"], fun value => (find? Category.all value).map NamedSet.chars),
  (["sc", "script"], fun value => (find? Script.all value).map NamedSet.chars),
  (["scx", "scriptextensions"], fun value => (find? Script.all value).map Script.extended),
  (["age"], Age.upTo?),
  (["gcb", "graphemeclusterbreak"], fun value => (find? Break.clusters value).map NamedSet.chars),
  (["wb", "wordbreak"], fun value => (find? Break.words value).map NamedSet.chars),
  (["sb", "sentencebreak"], fun value => (find? Break.sentences value).map NamedSet.chars)]

/-- The set of the characters that have a value of something with values. -/
def valued (name value : String) : Except Missing CharSet :=
  let name := plainName name
  let value := plainName value
  let set := (valueSets.find? fun (names, _) => names.contains name).bind fun (_, sets) =>
    sets value
  match set with
  | some s => .ok s
  | none =>
    if isOtherName name ∨ (find? Property.all name).isSome then .error .value
    else .error .name

/-- The characters of words: letters, marks, decimal digits, numbers and symbols made of letters,
connecting punctuation and the two joiners. -/
def word : CharSet :=
  CharSet.unions (Category.letters ++ Category.marks ++ [Category.decimalNumber,
    Category.letterNumber, Category.connectorPunctuation,
    .ofText "200c-200d 24b6-24e9 1f130-1f149 1f150-1f169 1f170-1f189"])

/-- The letters as of version 17 of the standard. -/
def letter : CharSet :=
  Property.alphabetic.union (.ofText "88f c5c cdc a7ce-a7cf a7d2 a7d4 a7f1 10940-10959 10ec5-10ec7
    10efa-10efb 11b60-11b67 11db0-11ddb 16ea0-16eb8 16ebb-16ed3 16ff2-16ff6 187f8-187ff
    18d09-18d1e 18d80-18df2 1e6c0-1e6de 1e6e0-1e6f5 1e6fe-1e6ff 2b73a-2b73f 2cea2-2cead
    323b0-33479")

/-- The numbers as of version 17 of the standard. -/
def number : CharSet :=
  CharSet.unions (Category.numbers ++ [.ofText "11de0-11de9 16ff4-16ff6"])

def digit : CharSet := Category.decimalNumber

def blank : CharSet := ⟨Text.blankRanges⟩

end SyntaxOutline.Unicode
