/-
Names of properties that have no table here. A query for one of them is told apart from a query for no property.
-/

namespace Lexicon.Unicode

/-- names of the properties without a table, in the loose spelling -/
def otherPropertyNames : String :=
  "bc bidiclass bidimirroringglyph bidipairedbracket bidipairedbrackettype blk block bmg bpb bpt
    canonicalcombiningclass casefolding ccc ce cf changeswhennfkccasefolded cjkaccountingnumeric
    cjkcompatibilityvariant cjkiicore cjkirggsource cjkirghsource cjkirgjsource cjkirgkpsource
    cjkirgksource cjkirgmsource cjkirgssource cjkirgtsource cjkirguksource cjkirgusource
    cjkirgvsource cjkothernumeric cjkprimarynumeric cjkrsunicode compex compositionexclusion cwkcf
    decompositionmapping decompositiontype dm dt ea eastasianwidth equideo
    equivalentunifiedideograph expandsonnfc expandsonnfd expandsonnfkc expandsonnfkd fcnfkc
    fcnfkcclosure fullcompositionexclusion hangulsyllabletype hst incb indicconjunctbreak
    indicpositionalcategory indicsyllabiccategory inpc insc isc jamoshortname jg joininggroup
    joiningtype jsn jt kaccountingnumeric kcompatibilityvariant kiicore kirggsource kirghsource
    kirgjsource kirgkpsource kirgksource kirgmsource kirgssource kirgtsource kirguksource
    kirgusource kirgvsource kothernumeric kprimarynumeric krsunicode lb lc linebreak
    lowercasemapping na na1 name namealias nfcqc nfcquickcheck nfdqc nfdquickcheck nfkccasefold
    nfkccf nfkcqc nfkcquickcheck nfkcscf nfkcsimplecasefold nfkdqc nfkdquickcheck nt numerictype
    numericvalue nv ocomment scf sfc simplecasefolding simplelowercasemapping
    simpletitlecasemapping simpleuppercasemapping slc stc suc tc titlecasemapping uc unicode1name
    unicoderadicalstroke uppercasemapping urs verticalorientation vo xonfc xonfd xonfkc xonfkd"

end Lexicon.Unicode
