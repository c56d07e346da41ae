import ConfigSchema.Text.Age
import ConfigSchema.Text.BinaryProperty
import ConfigSchema.Text.Script

/-! # Properties by their written names

Names may be written in any case, with blanks, dashes and low lines anywhere, and with `is` in
front. -/
namespace ConfigSchema.Text

inductive PropertyError
  | noProperty
  | noValue
deriving DecidableEq, Repr

/-- A written name as tables have it. -/
def plainName (written : String) : String :=
  let chars := written.toList
  let named := (chars.take 2).map Char.toLower == ['i', 's']
  let kept := (if named then chars.drop 2 else chars).filter fun c =>
    c.toNat < 0x80 && c ≠ ' ' && c ≠ '_' && c ≠ '-'
  let name := String.ofList (kept.map Char.toLower)
  if named && name == "c" then "isc" else name

/-- A general category, or one of the sets that are named like categories. -/
def categoryOrAny? (name : String) : Option CharSet :=
  match name with
  | "any" => some CharSet.all
  | "assigned" => some (categoryChars "cn").complement
  | "ascii" => some (CharSet.ofRange 0 0x7F)
  | name => category? name

def script? (name : String) : Option CharSet :=
  (CharTable.find? scripts name).map CharTable.chars

/-- The characters that a script uses. Characters with extensions belong to the scripts of these
alone. -/
def scriptWithExtensions? (name : String) : Option CharSet := do
  let table ← CharTable.find? scripts name
  if table.names.contains "common" || table.names.contains "inherited" then
    some (table.chars.diff (CharSet.unions (scriptExtensions.map CharTable.chars)))
  else
    let extensions := scriptExtensions.find? fun added => added.names.any table.names.contains
    some (table.chars.union ((extensions.map CharTable.chars).getD CharSet.empty))

/-- Names of categories and scripts that have no characters to match. -/
def unmatchedNames : List String :=
  ["cs", "surrogate", "zzzz", "unknown", "hrkt", "katakanaorhiragana"]

def otherProperties : List String :=
  ["cjkaccountingnumeric kaccountingnumeric cjkothernumeric kothernumeric cjkprimarynumeric",
   "kprimarynumeric nv numericvalue bmg bidimirroringglyph bpb bidipairedbracket cf casefolding",
   "cjkcompatibilityvariant kcompatibilityvariant dm decompositionmapping equideo",
   "equivalentunifiedideograph fcnfkc fcnfkcclosure lc lowercasemapping nfkccf nfkccasefold",
   "nfkcscf nfkcsimplecasefold scf simplecasefolding sfc slc simplelowercasemapping stc",
   "simpletitlecasemapping suc simpleuppercasemapping tc titlecasemapping uc uppercasemapping",
   "cjkiicore kiicore cjkirggsource kirggsource cjkirghsource kirghsource cjkirgjsource",
   "kirgjsource cjkirgkpsource kirgkpsource cjkirgksource kirgksource cjkirgmsource kirgmsource",
   "cjkirgssource kirgssource cjkirgtsource kirgtsource cjkirguksource kirguksource",
   "cjkirgusource kirgusource cjkirgvsource kirgvsource cjkrsunicode krsunicode",
   "unicoderadicalstroke urs isc isocomment jsn jamoshortname na name na1 unicode1name namealias",
   "blk block bc bidiclass bpt bidipairedbrackettype ccc canonicalcombiningclass dt",
   "decompositiontype ea eastasianwidth hst hangulsyllabletype incb indicconjunctbreak inpc",
   "indicpositionalcategory insc indicsyllabiccategory jg joininggroup jt joiningtype lb",
   "linebreak nfcqc nfcquickcheck nfdqc nfdquickcheck nfkcqc nfkcquickcheck nfkdqc",
   "nfkdquickcheck nt numerictype vo verticalorientation bidim bidimirrored ce",
   "compositionexclusion compex fullcompositionexclusion cwkcf changeswhennfkccasefolded",
   "kehnomirror kehnorotate xonfc expandsonnfc xonfd expandsonnfd xonfkc expandsonnfkc xonfkd",
   "expandsonnfkd kehcat kehdesc kehhg kehifao kehjsesh kehfval kehunik kehalteq kehcore"].flatMap
    fun line => line.splitOn " "

/-- The characters that a single name stands for. -/
def namedClass (written : String) : Except PropertyError CharSet :=
  let name := plainName written
  match property? name <|> categoryOrAny? name <|> script? name with
  | some set => .ok set
  | none => .error (if unmatchedNames.contains name then .noValue else .noProperty)

def valueClass (writtenProperty writtenValue : String) : Except PropertyError CharSet :=
  let value := plainName writtenValue
  let found (set : Option CharSet) : Except PropertyError CharSet :=
    match set with
    | some set => .ok set
    | none => .error .noValue
  match plainName writtenProperty with
  | "generalcategory" | "gc" => found (categoryOrAny? value)
  | "script" | "sc" => found (script? value)
  | "scriptextensions" | "scx" => found (scriptWithExtensions? value)
  | "age" => found (assignedIn? value)
  | name => .error <|
    if (property? name).isSome || otherProperties.contains name then .noValue else .noProperty

end ConfigSchema.Text
