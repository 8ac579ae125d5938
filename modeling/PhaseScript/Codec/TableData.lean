/-
The characters of the octets in the codecs of one octet to a character, packed as the tables of characters are: for each
run of characters with consecutive numbers its length less one and the distance of its first from the one that was due.
FFFE stands where there is no character.
-/
set_option autoImplicit false

namespace PhaseScript.Codec.Data

/-- The packed tables by the names of their codecs. -/
def tables : List (String × String) :=
  [("cp037",
    "DAAwJAnJA4HAPAuBBVInIAyIAxBA7HA8HB-GAwHAHDnHEgGA1HAYAGE4GCvIBwIA3HD4HAlJDmJBvIAwIApIAKA+HAiEACBJACAC" ++
    "ACASA-EApHAaApBAEAgFAtFCkMAHCIAHAbA9LAEAKADAiBAgHA-HACAkJACBJACACACASA3CA1HAPAyDBjCAwLC-CAHCIAHA5GAt" ++
    "CAvBA4BAzBAqBA3BAqLIvHAiEAeAoDBYA7EADItEAuDAeA2CA9CAaAlCAgBAvDHXAsCA6BAgBBYAhDAhFAoEACAiBAdAFAcCKAnG" ++
    "ACAiFAPAWAkCA5FI1DAmGAsEACBJACAxHInDAsGBiEBHAIAnKA0JHpKAuFAiCACBJACJrKAyHBuCBHA3D"),
  ("cp1006",
    "gFAJ+kDA7OAcA92CAi3CAim8DBWBBACA3zBACA0zBACACAjzBACAgzBACACACAryBACAoyBACACACACAryBAsyBACAjyBAkyBAry" ++
    "BAsyBACACACACACACACACAGIGACACACACACAz0BACAw0BCCACAr0BAs0BACAlGAuGAv0BCCAqtBCQCqGAn0BAFB6sB"),
  ("cp1026",
    "DAAwJAnJA4HAPAuBBVInIAyIAxBA7HA8HB-GAwHAHDnHEgGA1HAYAGE4GCvIBwIA3HD4HAlJDmJBvIAwIApIAKA+HAiEACBJACAC" ++
    "A1GAqHA1CAzJAaApBAEAVAICkMAHCIAHAbA8DAiBAtQADAiBAkCAjDACAkJACBJACACA1GAqHA6IAnTAPAyDBjCAwLC-CAHCIAHA" ++
    "oGAvPA2JAuIAvTAqBA8JAJIvHAiEAeA9DA7BAqEAUADItEAuDAeA2CA9CAaAlCAgBAgEHnIAsCA6BAlGAzDA2BA6GBZACAiBAdAF" ++
    "AcCKAlBAhDAkDAPAWAkCAeItKAmGAsEAtHBmHACAyCIrNAsGAiEA-JB4JAIAHALHpKAuFAiCAjLB8KACJrKAyHAuCAzLBsLA3D"),
  ("cp1125",
    "-DAvBg5BCi1QAjJAiCB4DAZADAaAlBAKAKADADA3EAGA+BARAhBA5BA2DBiCALANAoBAHANAhBA2BBLBJAZADBNAuBADAlFAZA2H" ++
    "AJAOAGAhBPh0QA9EA+EB8DA7IA+EA9EA+EA-EA+EAh6BAk2QApQAlnQA2vSAhwS"),
  ("cp1140",
    "DAAwJAnJA4HAPAuBBVInIAyIAxBA7HA8HB-GAwHAHDnHEgGA1HAYAGE4GCvIBwIA3HD4HAlJDmJBvIAwIApIAKA+HAiEACBJACAC" ++
    "ACASA-EApHAaApBAEAgFAtFCkMAHCIAHAbA9LAEAKADAiBAgHA-HACAkJACBJACACACASA3CA1HAPAyDBjCAwLC-CAHCIAHA5GAt" ++
    "CAvBA4BAzBAqBA3BAqLIvHAiEAeAoDBYA7EADItEAuDAeA2CA9CAaAq+PAv-PAvDHXAsCA6BAgBBYAhDAhFAoEACAiBAdAFAcCKA" ++
    "nGACAiFAPAWAkCA5FI1DAmGAsEACBJACAxHInDAsGBiEBHAIAnKA0JHpKAuFAiCACBJACJrKAyHBuCBHA3D"),
  ("cp1250",
    "-DAA4iQAi1vDAp+vDAm+vDAh+vDAOBNA49vDA98vDAhtPAwtPA-tPASAwBAJAoo-DBt+vDBEAIBfAy+vDA5tvDAj8PAwtPA-tPAS" ++
    "AwBAJA1NAsiBAgBAvZA7JA+FD9FAoLDnLA4MB3MAyiBAzZE9IA4EAyFApKAiIA+ZA-ZA6DAxCBnJA+DA9DAoHAnDA-DAoEAnEA8E" ++
    "A7EA8EB7EA+DACAkDAGBpHA2HB1HAgIAqBApJAqJBpJAoIAnIAqHBpHAgCA-BAqFAnDAhCAqCApCA+CA9CA+CB9CAgCACAkDAGBr" ++
    "FA4FB3FAiGAqBArHAsHBrHAqGAqX"),
  ("cp1251",
    "-DABk4BAshOAv8NA08NAOBNA0IA5HAviOA+iOA-iOACADAGAkEBq8NBEAIBfAy+vDA5tvDAzsOAg+NAh+NACADAGA-7BA62BA+EA" ++
    "tFAp2BA2+BB1+BAy1BAx1BA01BDz1BAw1BBv1BAo1BA+EA0DC59BAy5BAosOAlsOAz5BA45BAnFA+EAC-BvE"),
  ("cp1252",
    "-DAA4iQAi1vDAp+vDAxoPA2oPAOBNA31OAy2OAhtPAwtPAvuPA2q-DAjo-DAgo-DABBt+vDBEAIBfAxzOAqkPAj8PAwtPAvuPA0q" ++
    "-DAho-DAN-CxN"),
  ("cp1253",
    "-DAA4iQAi1vDAp+vDAxoPA2oPAOBNA49vDA98vDA68vDAr8vDAo8vDABABABABBt+vDBEAIBfAy+vDA5tvDA2tvDAp8vDAm8vDAB" ++
    "ABABA91-DBouBGnuBAo1-DDn1-DAs2PDr2PAgtBC-sBCgtBA-sBAgtBA-sBTgtBA4l+DrB3l+DA+i+D"),
  ("cp1254",
    "-DAA4iQAi1vDAp+vDAxoPA2oPAOBNA31OAy2OAhtPAwtPAvuPA2q-DABABABBt+vDBEAIBfAxzOAqkPAj8PAwtPAvuPA0q-DABAt" ++
    "o-DvBxNA8EL7EAmFA6CQ-HA+CL9CAoDA6CAhG"),
  ("cp1255",
    "-DAA4iQAi1vDAp+vDAxoPA2oPAOBNA31OAy2OA68vDAr8vDAo8vDABABABABBt+vDBEAIBfAxzOAqkPA2tvDAp8vDAm8vDABABAB" ++
    "D91-DAsgQErgQA6CO5CA6DE5DJgvCAok9DInk9DE4CAyg9DABABABABABABa9i9DAmh9DABBh-vDA8+vD"),
  ("cp1256",
    "-DAA4iQA9iNA25MAxoPA2oPAOBNA31OAy2OAv7MA+7MAvuPAmzCAiBAhBAsCBw2MBEAIBfA32MAwnNAjpNAw6MAvuPBwrPAn1MA1" ++
    "hDA22CH12CAohDOnhDAi2CDh2CAg2CAiKVhKA-1CD+1CDKAn2CAm2CAl2CDk2CEj2CB61CB51CD21CA11CB01CAz1CAy1CAx1CAw" ++
    "1CBv1CBixPA7zM"),
  ("cp1257",
    "-DAA4iQAi1vDAp+vDAm+vDAh+vDAOBNA49vDA98vDA68vDAr8vDAo8vDAt1-DA8hBA-gBAq0-DBt+vDBEAIBfAy+vDA5tvDA2tvD" ++
    "Ap8vDAm8vDA-0-DA2iBAky+DA91-DA61-DC51-DAy1-DBx1-DAgDA-CA4KD3KAuBHtBAgEA-DA6JD5JAuCA6BAyCA9CAKBlEAkFA" ++
    "NANAnEA+KAnGAWAmBAZAgBAoCA7BACAlHAwHCvHA0JAjDAwBAeA9IA8JACA9JAqCAyCA9CAKBnCAmDANANApCAgJAnGAWAmBAZAg" ++
    "BAoCA7BACAnFAyFCxFA2HAjDAwBAeA-GA+HACA0V"),
  ("cp1258",
    "-DAA4iQAi1vDAp+vDAxoPA2oPAOBNA31OAy2OA68vDAr8vDAvuPA2q-DABABABBt+vDBEAIBfAxzOAqkPA2tvDAp8vDAvuPA0q-D" ++
    "ABAto-DiBxNA+DH9DAojBCnjBAgEA-DAujBBtjBA2MG1MAkNAmVDpiBAgCH-BAqhBCphBAiCAhCAijBBhjBA4KG3KAmLA0vPA56P"),
  ("cp273",
    "DAAwJAnJA4HAPAuBBVInIAyIAxBA7HA8HB-GAwHAHDnHEgGA1HAYAGE4GCvIBwIA3HD4HAlJDmJBvIAwIApIAKA+HAiEAvGBoGAC" ++
    "ACACASA7CAtJAaApBAEAVAICkMAHCIAHA9GA6FAxLAKADAiBAkCAjDACAkJAvGBoGACACACASAoCA1MAPAyDBjCAwLC-CAHCIAHA" ++
    "5GAtCAvBAmIAhIAqBA3BAqLIvHAiEAeAoDBYA7EADItEAuDAeA2CA9CAaAlCAgBAyCH5GAsCA6BAgBBYAhDBZACAiBAdAzGAqHCK" ++
    "AlBAhDAi8PAt5PAWAkCAYInKAmGAsEA9EB2EACAMIlLAsGAiEA9HB2HAIAzCAgCHpKAuFAiCAxHBqHACJrKAyHAuCA9HB2HA3D"),
  ("cp424",
    "DAAwJAnJA4HAPAuBBVInIAyIAxBA7HA8HB-GAwHAHDnHEgGA1HAYAGE4GCvIBwIA3HD4HAlJDmJBvIAwIApIAKI+6CAtzCApHAaA" ++
    "pBAEAgFAtFIk7CAh8CAEAKADAiBAgHA-HACHk7CAn0CA1HAPAyDBjCA87-DAph9DAmh9DABA91-DA61-DABABAv+vDAv7PAtCAvB" ++
    "A4BAzBAqBA3BA29-DI75-DAiEAeAk0-DABABA70-DADItEA24-DABABAt0-DAq0-DA11-DAgBAvDHXAm4-DABABABABAh1-DAhFA" ++
    "oEACAiBAdAFAcCKAnGACAiFAPAWAkCA5FI1DAmGAg1-DABABABABAj4-DInDAsGAo0-DABABABABAl6-DA0JHpKAuFA20-DABABA" ++
    "BABJ98-DAyHA00-DABABABA-1-D"),
  ("cp437",
    "-DAAuEAoDAnBAPACAJAIACBEAHAMADAFBxCAGA4BAhCA6CACAJAQAFAKAzCAKB1DACAigQArxPAjLAWAKAMATAhCAvCAeAIAglRA" ++
    "pmRAgBADA3BASAeCqtSAjJAiCB4DAZADAaAlBAKAKADADA3EAGA+BARAhBA5BA2DBiCALANAoBAHANAhBA2BBLBJAZADBNAuBADA" ++
    "lFAZA2HAJAOAGAhBA-8QAltBAmrBA4CA7BA+BA9wBA8wBA9BAdAgBAUAymPAxlPAjBAmnPAuDAh7QAm7QADB2LA1iRAg1QAx5QAw" ++
    "2QAl2QAk2QA3ZA78PA6uSAhwS"),
  ("cp500",
    "DAAwJAnJA4HAPAuBBVInIAyIAxBA7HA8HB-GAwHAHDnHEgGA1HAYAGE4GCvIBwIA3HD4HAlJDmJBvIAwIApIAKA+HAiEACBJACAC" ++
    "ACASAtJA7CAaApBAEAVAICkMAHCIAHAbAlIAzDAKADAiBAkCAjDACAkJACBJACACACASA3CA1HAPAyDBjCAwLC-CAHCIAHA5GAtC" ++
    "AvBA4BAzBAqBA3BAqLIvHAiEAeAoDBYA7EADItEAuDAeA2CA9CAaAlCAgBAvDHXAsCA6BAgBBYAhDBZACAiBAdAFAcCKAlBAhDAk" ++
    "DAPAWAkCA5FI1DAmGAsEACBJACAxHInDAsGBiEBHAIAnKA0JHpKAuFAiCACBJACJrKAyHBuCBHA3D"),
  ("cp720",
    "hEAAuGAPA9FA2FA1FAgGBEAHAMADDjGBg8CA91CAhFA25CAr0CAFDuyCAj4CQi4CA14CAeCqtSAjJAiCB4DAZADAaAlBAKAKADAD" ++
    "A3EAGA+BARAhBA5BA2DBiCALANAoBAHANAhBA2BBLBJAZADBNAuBADAlFAZA2HAJAOAGAhBE10PAMA54CI44CAshOFthOAu-NAx5" ++
    "QAw2QAl2QAk2QA3ZA78PA6uSAhwS"),
  ("cp737",
    "-DAQixBGCQOACADECCw8QAjJAiCB4DAZADAaAlBAKAKADADA3EAGA+BARAhBA5BA2DBiCALANAoBAHANAhBA2BBLBJAZADBNAuBA" ++
    "DAlFAZA2HAJAOAGAhBAv7QC7BA2BA3BB4BAFAEAxECCACBCA9tBAm7QADB1rPAprBAg1QAx5QAw2QAl2QAk2QA3ZA78PA6uSAhwS"),
  ("cp775",
    "-DAAsIAVAnBAuBA7BA8DA9DAiCA0DA-CBkEA5CA6EBrLAGA4BAhCAsIAvFA2CAhIBuLArIAKA2BArFAoDADAnDA2FAyCAvDBuIAF" ++
    "AkqPAv3PAEAIAFAgBADAoIAtJAeCqtSAjJAiCAhiSAOAWAFA4kSAlBAKAKA-iSAiDA+6RAGA+BARAhBA5BA2DA18RARA++RANAoB" ++
    "AHANAhBA2BA-+RAxHAOAWAFAuBAiDAiBARAkBAy5RAZA2HAJAOAGAhBA7qSAWA4GATA9EAhCAhCA8IBdBGASApDAkDAmtPA52PAG" ++
    "A02PA91PARAfA+EAsyPA92PAw2QAl2QACANADA6uSAhwS"),
  ("cp850",
    "-DAAuEAoDAnBAPACAJAIACBEAHAMADAFBxCAGA4BAhCA6CACAJAQAFAKAzCAKA2BArFAoDADA0LAjLAWAKAMATAhCAvCAeAIAjBA" ++
    "FAgBADA3BASAeCqtSAjJAiCBnmSAFAvBAyrSAlBAKAKA3rSAEA0mSAGA+BARAhBA5BA2DAzlSAhCAspSANAoBAHANAhBA2BAxsSA" ++
    "2EAhCBNAHAwGCpGAwkSAZA2HAJA9tSAqCAmrSA7qSAWAXAFAkCAhCAhCAwEAhCBJAFAmCAhCA9CAIAPAGAq2PAz1PARAfA+EA-DA" ++
    "RARAcACANADA6uSAhwS"),
  ("cp852",
    "-DAAuEAoDAnBAPACA0IAxGAhCA0FAvFBoGAnGA0IArLAiEA7DB+GAtEACBsEB2BArIAKBuIApCA1GAqDA5CAWAKAMBSBuHBtGA7G" ++
    "A6MA9GAkFApLAeCqtSAjJAiCBnmSAuFAmEAogSAlBAKAKBl+RAm5RAGA+BARAhBA5BA2DB1jSAslSANAoBAHANAhBA2BAxsSA4GA" ++
    "DAFAnEAmEAuDB1HA4EA4-RAZA2HAJAliSAWAihSA7qSAWAXB8GAGBuBAbA1HA0HA0BAnHAhCAqIA-KAPA+iBAFApBAgBAjjBA+EA" ++
    "-DARARAgjBAxWBzBAskSAhwS"),
  ("cp855",
    "-DAAk9BAhFAgFAhFA6EAhFAkFAhFAgFAhFAgFAhFAgFAhFAgFAhFAgFAhFAgFAhFAgFAhFAgFAhFAiFAhFAgFAhFA8DAhCA2BAhC" ++
    "AKAhCAgCAhCAoDAhCAaAhCAgCAhCA8CAhCAcAhCAx2BAeCqtSAjJAiCA-tQAhCAkBAhCA00QAlBAKAKApyQAhCAsvQAGA+BARAhB" ++
    "A5BA2DAlwQAhCA+zQANAoBAHANAhBA2BAxsSAs5BAhCAgCAhCAgCAhCAgCAhCAgCAwtQAZA2HAJAr2QA+CAgzQAj1QAgBAhCAgCA" ++
    "hCAgCAhCAgCAhCAkBAhCA2BAhCAyDAhCAyuOAzmQA65BAhCAWAhCAgDAhCAoCAhCA2BAhCA6BAhCAh4BAwvSAhwS"),
  ("cp856",
    "-DAag1CAmh9DA31-DA01-DAvy-DAsy-DABABABABABABABABABAh1-DAFAgBADAi0-DAn1-DAeCqtSAjJAiCAyttDABABAr1-DAy" ++
    "rSAlBAKAKA3rSAEA0mSAGA+BARAhBA5BA2DAistDABApqtDANAoBAHANAhBA2BAxsSAy1-DABABABABABABABABAtutDAZA2HAJA" ++
    "9tSAu1-DA9ntDA6ntDABABABABABAz0-DAw0-DABABABABABABA-0-DAIAPAGAq2PAz1PARAfA+EA-DARARAcACANADA6uSAhwS"),
  ("cp857",
    "-DAAuEAoDAnBAPACAJAIACBEAHAMADAkEB7GAGA4BAhCA6CACAJAQAFAsDA1FAKA2BArFAoDBqIA9HAWAKAMATAhCB4EAhGAjBAF" ++
    "AgBADA3BASAeCqtSAjJAiCBnmSAFAvBAyrSAlBAKAKA3rSAEA0mSAGA+BARAhBA5BA2DAzlSAhCAspSANAoBAHANAhBA2BAxsSAq" ++
    "BAhBB+BAHAqz-DCjz-DAwkSAZA2HAJA9tSAqCAmrSA7qSAWAXAFAkCAhCAhCAw0-DAvy-DBEAFAkBAkBAhFAIAPAGA40-DAh0-DA" ++
    "RAfA+EA-DARARAcACANADA6uSAhwS"),
  ("cp858",
    "-DAAuEAoDAnBAPACAJAIACBEAHAMADAFBxCAGA4BAhCA6CACAJAQAFAKAzCAKA2BArFAoDADA0LAjLAWAKAMATAhCAvCAeAIAjBA" ++
    "FAgBADA3BASAeCqtSAjJAiCBnmSAFAvBAyrSAlBAKAKA3rSAEA0mSAGA+BARAhBA5BA2DAzlSAhCAspSANAoBAHANAhBA2BAxsSA" ++
    "2EAhCBNAHAm+PC-9PAwkSAZA2HAJA9tSAqCAmrSA7qSAWAXAFAkCAhCAhCAwEAhCBJAFAmCAhCA9CAIAPAGAq2PAz1PARAfA+EA-" ++
    "DARARAcACANADA6uSAhwS"),
  ("cp860",
    "-DAAuEAoDAnBBPAHA-BAqCAEAhCA6BA3BAMAuBAzCADAMATAOB2CAHAxBA8BA7CAQAMB1DAqDA68PAp9PAaAWAKAMATAhCAvCAeA" ++
    "IAkBAtCAgBADA3BASAeCqtSAjJAiCB4DAZADAaAlBAKAKADADA3EAGA+BARAhBA5BA2DBiCALANAoBAHANAhBA2BBLBJAZADBNAu" ++
    "BADAlFAZA2HAJAOAGAhBA-8QAltBAmrBA4CA7BA+BA9wBA8wBA9BAdAgBAUAymPAxlPAjBAmnPAuDAh7QAm7QADB2LA1iRAg1QAx" ++
    "5QAw2QAl2QAk2QA3ZA78PA6uSAhwS"),
  ("cp861",
    "-DAAuEAoDAnBAPACAJAIACBEAHAxBA+BAlBB1BAGA4BAhCA6CACAOAHA9BA+BAvCAKA2BArFAoDA88PArxPAjLAWAKAMAzDAWAKA" ++
    "MA3BAglRApmRAgBADA3BASAeCqtSAjJAiCB4DAZADAaAlBAKAKADADA3EAGA+BARAhBA5BA2DBiCALANAoBAHANAhBA2BBLBJAZA" ++
    "DBNAuBADAlFAZA2HAJAOAGAhBA-8QAltBAmrBA4CA7BA+BA9wBA8wBA9BAdAgBAUAymPAxlPAjBAmnPAuDAh7QAm7QADB2LA1iRA" ++
    "g1QAx5QAw2QAl2QAk2QA3ZA78PA6uSAhwS"),
  ("cp862",
    "-DAag1CBx0CACAigQArxPAjLAWAKAMATAhCAvCAeAIAglRApmRAgBADA3BASAeCqtSAjJAiCB4DAZADAaAlBAKAKADADA3EAGA+B" ++
    "ARAhBA5BA2DBiCALANAoBAHANAhBA2BBLBJAZADBNAuBADAlFAZA2HAJAOAGAhBA-8QAltBAmrBA4CA7BA+BA9wBA8wBA9BAdAgB" ++
    "AUAymPAxlPAjBAmnPAuDAh7QAm7QADB2LA1iRAg1QAx5QAw2QAl2QAk2QA3ZA78PA6uSAhwS"),
  ("cp863",
    "-DAAuEAoDAnBAPAhCA6BA1CAgDBEAHAMADAwyPAv1PAzBAiCADACAyCAzCAGA2CAFArFA+CAOB1DAqDACAsLA5OAaA8DAMAlFAeA" ++
    "LAJA8BAikRApmRAgBADACAnBAeCqtSAjJAiCB4DAZADAaAlBAKAKADADA3EAGA+BARAhBA5BA2DBiCALANAoBAHANAhBA2BBLBJA" ++
    "ZADBNAuBADAlFAZA2HAJAOAGAhBA-8QAltBAmrBA4CA7BA+BA9wBA8wBA9BAdAgBAUAymPAxlPAjBAmnPAuDAh7QAm7QADB2LA1i" ++
    "RAg1QAx5QAw2QAl2QAk2QA3ZA78PA6uSAhwS"),
  ("cp864",
    "kBAAqkD5CpkDAgDAMBi2QAu3BAlJACAyDAxBAOAhBAuBApCAJAOAGAt2QA2mPAxlPArxBAWADA24QA75QAeB2j-DAqQABBnQAiQA" ++
    "91-DAYAo9+DB-9+DA+9+DAyXABBhXAKAGA7o8DAgp8DAGAGJrk8DAum8DAtr8DAqp8DAGAGA1p8DA73CB69+DACACAoEA-DACAGA" ++
    "CAGAGAGAGAGACACACACAGAGAGAGACAGAKAGAzi-DAKA0EAhCAi-+DAzo8DAkp8DAGAGAGAGAGAGACACAGAtDAcACADAmBApGA5i8" ++
    "DAmp8DAGAEAGACAlCAIB+BAzBAJAuBAj1sDA6ltD"),
  ("cp865",
    "-DAAuEAoDAnBAPACAJAIACBEAHAMADAFBxCAGA4BAhCA6CACAJAQAFAKAzCAKA2BArFAoDA88PArxPAjLAWAKAMATAhCAvCAeAIA" ++
    "glRApmRAgBADA3BASAPC4uSAjJAiCB4DAZADAaAlBAKAKADADA3EAGA+BARAhBA5BA2DBiCALANAoBAHANAhBA2BBLBJAZADBNAu" ++
    "BADAlFAZA2HAJAOAGAhBA-8QAltBAmrBA4CA7BA+BA9wBA8wBA9BAdAgBAUAymPAxlPAjBAmnPAuDAh7QAm7QADB2LA1iRAg1QAx" ++
    "5QAw2QAl2QAk2QA3ZA78PA6uSAhwS"),
  ("cp866",
    "-DAvBg5BCi1QAjJAiCB4DAZADAaAlBAKAKADADA3EAGA+BARAhBA5BA2DBiCALANAoBAHANAhBA2BBLBJAZADBNAuBADAlFAZA2H" ++
    "AJAOAGAhBPh0QA9EA+EA7EA+EA7EA+EAzEA+EA96BAw2QAl2QAk2QApQAlnQA2vSAhwS"),
  ("cp869",
    "-DAA83-DABABABABABAxn+DAun+DAv0-DAXANBi3PAjpOA4oOB5oOA+BA9BAin+DABAhn+DA4BAlwBAquBB7tBAwvBAzwBCywBA0" ++
    "BA1DB2DG5DA1tBB0tBA9uBAeCqtSAjJAiCD14QAq8QAlBAKAKB-7QAg3QAGA+BARAhBA5BA2DB55QAw7QANAoBAHANAhBA2BGz8Q" ++
    "COAo2QAZA2HAJBh9QA08QL18QACADACAhEAvtBAGCmxBAhyBAgyBAnEArtBARAgyBACA3BA6BAi9QAhwS"),
  ("cp874",
    "-DAA4iQAi1vDABABABAx9vDAu9vDABABABABABABABABABABBt+vDBEAIBfAy+vDABABABABABABABA91-D5Bg2GAm84DABABABc" ++
    "-74DAk64DABABAB"),
  ("cp875",
    "DAAwJAnJA4HAPAuBBVInIAyIAxBA7HA8HB-GAwHAHDnHEgGA1HAYAGE4GCvIBwIA3HD4HAlJDmJBvIAwIApIAKIg3BA9zBA7CAaA" ++
    "pBAEAVAIHm3BACAt0BAzDAKADAiBAkCAjDACHo3BA-yBAhFAPAyDBjCAwGA6tBBCAzuBAyuBACBCA-yBAtCAvBA4BAzBAqBA3BAk" ++
    "2BIpyBFu0BAtwBItEFo0BAxwBAtDHXEk0BACAhyBCwwBA2BA3BB4BAFAEAZECA70BI1DAmGA2xBAzDA+BAumOAHAx5PInDA8FAWA" ++
    "nKA42BAipOAn3PA1EAlEHwDAuFAXA7IABBgJJ5HAyHAVA-IABAgKA5B"),
  ("hp_roman8",
    "gFAA+BACAKBCBEA3BAshBALA9hBAmjBAngBACAw8PAr-PA6CA+BA7EAsBA+BAtBA+BAhFA6BA3BADACACA0OAhPA+DAOASAMA1BA" ++
    "OASAMA1BAOASAMArBAMAUAKAvDAwCAtBAlBA8BAOAUAlBAlCAuCAtBAKAnBAqCAhBAXAnBACA+BAnBA+BAnCADAMADAEA+BB0GAv" ++
    "IA6JAzHAjCA+BAvEBFAOAq1PBx1PAnBAeAfAovSAruSAVA40-D"),
  ("iso8859_1",
    "-HA"),
  ("iso8859_10",
    "gFAAmGAaAeAOAFAaA-IAmJA3CA+EAKAsBAhNA4LAhCA1JAoFAaAeAOAFAaAhIAoIA3CA+EAKAsBAspPA1qPAhCA3EF-DAuGAlCAn" ++
    "EA8EA7EA0EDzEAoHAMDzHAiJAhJAyJFxJAiCFhCAwEAlCApCA+CA9CA2CD1CAqFAMD1FAkHAjHA0HEzHAyD"),
  ("iso8859_11",
    "gFA5Bg2GAm84DABABABc-74DAk64DABABAB"),
  ("iso8859_13",
    "gFAA43PC33PAy3PBx3PAgDA-CA4KD3KAuBDtBAw2PCv2PAgEA-DA6JD5JAuCA6BAyCA9CAKBlEAkFANANAnEA+KAnGAWAmBAZAgB" ++
    "AoCA7BACAlHAwHCvHA0JAjDAwBAeA9IA8JACA9JAqCAyCA9CAKBnCAmDANANApCAgJAnGAWAmBAZAgBAoCA7BACAnFAyFCxFA2HA" ++
    "jDAwBAeA-GA+HACA0pP"),
  ("iso8859_14",
    "gFABi2OAh2OBsGA8vOAn2OAw9OAv9OAw9OAvHAsOBrkPAyMBqqOB-vOB8xOA34OA+5OA0CA1CA2CAnCAkJB-GApCPj6OAoKFnKAm" ++
    "5OFl5OAwJQvJAqIFpIAo3OFn3OAyHAxH"),
  ("iso8859_15",
    "jFAAwgQAvgQA0LAzLAyLKxLAyMCxMAsMCrMBsJAoCgCzL"),
  ("iso8859_16",
    "gFABmGA2DA02PA9IA9rPAzLAyLAxLA8WA7WA6MA5MB4MB3MA0FAqDA0DA+pPBv2PAsMAjHA2QA9VBsJAoCAGC5LA+DA9DAiEJhEA" ++
    "gEAkDCjHA2HA1HAmIAqBDvJA2DAiQD3TAgCA-BAkCJjCAiCAkDClFA4FA3FAoGAqBDxHA4BAiQA5R"),
  ("iso8859_2",
    "gFAAmGAmdAvZA7JAwJA4BBnLAuLAFAKAoBA5MA+MAFA3MAoFAqdAzZA9IAyIA4BA2WA-gBAwKAFAKAoBAkWA-VAFAxCBnJA+DA9D" ++
    "AoHAnDA-DAoEAnEA8EA7EA8EB7EA+DACAkDAGBpHA2HB1HAgIAqBApJAqJBpJAoIAnIAqHBpHAgCA-BAqFAnDAhCAqCApCA+CA9C" ++
    "A+CB9CAgCACAkDAGBrFA4FB3FAiGAqBArHAsHBrHAqGAqX"),
  ("iso8859_3",
    "gFAAqIAibBrjBAy1-DA1t-DB7HAuIA6CAhEAqBAvIAg1-DAno-DA3MAsHDrHA+GB9GAwHA6CAhEAqBAxHAg0-DAlo-DC5LA2z-DA" ++
    "1z-DAqEAFIjEA8y-DD7y-DA2EB1EAoEDnEA+IAhBD7HA2x-DA1x-DAsCAFIlCA8w-DD7w-DA4CB3CAqCDpCAgHAhBA2X"),
  ("iso8859_4",
    "gFAAmGAmDA6BAlLAmIAkBBpJAuLA9EAeAmEAzLA+MB9MAoFAqdApYAnKAoHAkBA0YA-gBAwKA9EAeAmEA7BAmDAnDA3EF-DAuGAl" ++
    "CAnEA8EA7EA0EBzEA2FA1BAoDAMAtBElGAyJCxJA2IACA3IAiCFhCAwEAlCApCA+CA9CA2CB1CA4DA1BAoDAMAtBEnEA0HCzHA4G" ++
    "ACA6W"),
  ("iso8859_5",
    "gFALg2BA-1BhCg2BAssOLrsOAr7BBs7B"),
  ("iso8859_6",
    "gFAA61-DABABA11-DAy1-DABABABABABABAl-8DA-1CAg1-DABABABABABABABABABABABABAn+8DAk+8DABABA-98DA898DZ798" ++
    "DAm88DABABABABS978DA268DABABABABABABABABABABABAB"),
  ("iso8859_7",
    "gFABu3PAt3PAwgQAEDzgQAgtBC-sBAg1-DAz+vDDr2PCgtBA-sBCgtBA-sBAgtBA-sBTgtBA4l+DrB3l+DA+i+D"),
  ("iso8859_8",
    "gFAA61-DH51-DA6CO5CA6DD5DA+z-DABABABABABABABABABABABABABABABABABABABABABABABABABABABABABABABAv+vDavk" ++
    "NAmh9DABBh-vDA8+vD"),
  ("iso8859_9",
    "vGAA8EL7EAmFA6CQ-HA+CL9CAoDA6CAhG"),
  ("koi8_r",
    "-DAAgoSACASAGAGAGAGAOAOAOAOAmEAGAGAGDGAnnBA+nBBv4BA6CB2BAr8QAgoRAjnRACAIA+DCwlSAjwQOiwQAh2QKg2QAnsSA" ++
    "o6BB9BAoBBlBAcAjBAiBHbAeDfAbAJAyBADApBAgBAIAJAFAEA5BB9BAoBBlBAcAjBAiBHbAeDfAbAJAyBADApBAgBAIAJAFAE"),
  ("koi8_t",
    "-DAA2hCARAs4NAx4NA24NAOBNA49vDA98vDA73NAq4NAv4NAIADAu09DAp29DB63NBEAIBfAy+vDA5tvDA2tvDAp8vDAm8vDABAB" ++
    "ABABA-w9DADA7JA76BA8jCB7jCAs1-DABABDn1-DA+0-DC90-DA80BA4-9DA5x9DB5iCAs0-DAxuvDAuuvDAn0-DAk0-DABABAr1" ++
    "-DAo6BB9BAoBBlBAcAjBAiBHbAeDfAbAJAyBADApBAgBAIAJAFAEA5BB9BAoBBlBAcAjBAiBHbAeDfAbAJAyBADApBAgBAIAJAFA" ++
    "E"),
  ("koi8_u",
    "-DAAgoSACASAGAGAGAGAOAOAOAOAmEAGAGAGDGAnnBA+nBBv4BA6CB2BAr8QAgoRAjnRACAIA+DCwlSAjwQAEA+vQB9vQE+vQA1s" ++
    "QE2sQAh2QAEA81QB71QE81QA1tQA2tQAnsSAo6BB9BAoBBlBAcAjBAiBHbAeDfAbAJAyBADApBAgBAIAJAFAEA5BB9BAoBBlBAcA" ++
    "jBAiBHbAeDfAbAJAyBADApBAgBAIAJAFAE"),
  ("kz1048",
    "-DABk4BAshOAv8NA08NAOBNA0IA5HAviOA+iOA-iOA+IA+BA3KAkEBq8NBEAIBfAy+vDA5tvDAzsOAg+NAh+NAgEA+BA5FA-7BB+" ++
    "gCAsCApjCAmkCBlkCAy1BAx1BAw+BDv+BA+-BB9-BAo1BA+EAkJCpjCAy5BAosOAnoOAx9BA6hCBvDAW-B-J"),
  ("mac_arabic",
    "-DAAoEApCAsCACAOAIAKAIADACACAq9CA-gDA2DACADBCACAwzPBxzPACACAxDAwDBCAEADBCE5NAqkDFpkDAg+CC-9CJgjDA-iD" ++
    "Ag+CC-9CAg+CA0yQZzyQE-9CSg+CA2CALAYA8EAjDAUAvCAQCthDA0hDAyD"),
  ("mac_croatian",
    "-DABoEACACAOAIAKAIADACACADACACACADBCACADBCACACADACACADAIADBCAmyPAh3PBdAGA03PA52PAwCAjDAiLAi8PA9mQAZA" ++
    "u7QAnuQArKAq0QA72QBk7QA-FAj1QA40QAcAFA9qQAysQAj4QAeA8uBA3iBAtIAzDA9BAUA62QAxoQAqrQAl0QA3FAgGAyxPAt4P" ++
    "A+BAEAiBB4HAnEAmwPBOBLAlyPAktSAozpDAtl8DA05PAuGBnHAp3PAXAu1PA51PAk2PAGAiBA92PAoEAtEA2EArECIAHBMA4DA-" ++
    "DBOAFAuFAoZAqBA7iBAgxBArvBA8gBAliBAiBA2BAge"),
  ("mac_cyrillic",
    "-DAfg5BAg-NAh3PA+9BA7+BAGA03PA52PA+0BAx1BALAwnQAhyOA+EA6gPA7lPA+EA08OA72QBk7QA-gPAj6BA29BAzIAJA+EA7E" ++
    "A+EA9EA+EA-EA+EAFAnFAz1BA62QAxoQAqrQAlEA31QAeA02PAt4PA02BA+EA-EA+EAPB67NBOBLAlyPAsyPAhhOA+EA-EA+EAsr" ++
    "OArxOA+EAFe-BA6lO"),
  ("mac_farsi",
    "-DAAoEApCAsCACAOAIAKAIADACACAq9CA-gDA2DACADBCACAwzPBxzPACACAxDAwDBCAEADBCE5NAqkDFpkDAg+CC-9CJgsDA-rD" ++
    "Ag+CC-9CAg+CA0yQZzyQE-9CSg+CA2CALAYA8EAjDAUAvCAQCthDA0hDAyD"),
  ("mac_greek",
    "-DAAoEAXAPAsBAtBAkCAKAwqBArqBACACA+pBA5tBA8DACADBCAxEA8nQBpjQAkzPAr2PAk3PA5zPACAhFAqgQAn7PBCAmyPB7oO" ++
    "AGAEAEACAjsBAjDALAyvBAMAnwBAw7QAh7QAMAytBAhuBBk7QAh8QA4uBCEBCACASAIBHAEAfAjvBAkvBACAsqPApqPAzvBAeA02" ++
    "PAt4PAowBACAjCACArjBA+rPACBMBLAlyPBipBACACC8BA4BA7DA6DB5BAqBBpBAgBAnBAGACAIDJBCAaAbBCAZAgBAPAIAFAfBm" ++
    "BA3DA+BAnwB"),
  ("mac_iceland",
    "-DABoEACACAOAIAKAIADACACADACACACADBCACADBCACACADACACADAIADBCA-BA7CBdAGA03PA52PAwCAjDALAwnQA9mQAZAu7Q" ++
    "A15QAiBAq0QA72QBk7QAh8QAeA40QAcAFA-kPA0mPAj4QAeA8uBAnsBAiBAzDA9BAUA62QAxoQAqrQAlEA31QAeA02PAt4PA+BAE" ++
    "AiBB4HB+rPBOBLAlyPAktSA3sSAwHA2sPAuGA59PA+BAlBA+BADAtEAk2PAGAiBA92PAOATASAHCIAHBMA0i8DA7i8DBOAFAuFAo" ++
    "ZAqBA7iBCwiBAliBAoiBAFApB"),
  ("mac_latin2",
    "-DAAoEB2DAxDA0DA9CAKAIAmCAMAxCAwCBPA9BB+IA5GAjCAiCBEAEAnCAmCAnCACADAIB+BA-BAmyPAh3PAuGArHAGA03PA52PA" ++
    "wCAjDALAwnQAzgQAjHAu7QA7zQBUALByzQA1zQAUA2sQAcA-sQDPBLBUAHAvJA62QAttQAEA8rQA31QAeA02PAt4PAuKAOA3HA2H" ++
    "ALBssPBOBLAlyPAktSA7nSBMAEBguPAjuPBHAQAyrPAGA7rPBPA1JBkKAxJB+KApBBvJAsJAEApJEoJAtJA+BAyDAmEA1DA0DA1F" ++
    "Aoa"),
  ("mac_roman",
    "-DABoEACACAOAIAKAIADACACADACACACADBCACADBCACACADACACADAIADBCAmyPAh3PBdAGA03PA52PAwCAjDALAwnQA9mQAZAu" ++
    "7QA15QAiBAq0QA72QBk7QAh8QAeA40QAcAFA-kPA0mPAj4QAeA8uBAnsBAiBAzDA9BAUA62QAxoQAqrQAlEA31QAeA02PAt4PA+B" ++
    "AEAiBB4HB+rPBOBLAlyPAktSA3sSAwHA2sPAuGBnHBsstDAjutDA12PAk2PAGAiBA92PAOATASAHCIAHBMA0i8DA7i8DBOAFAuFA" ++
    "oZAqBA7iBCwiBAliBAoiBAFApB"),
  ("mac_romanian",
    "-DABoEACACAOAIAKAIADACACADACACACADBCACADBCACACADACACADAIADBCAmyPAh3PBdAGA03PA52PAwCAjDALAwnQA9mQAZAu" ++
    "7QA91QAqRAqgQA72QBk7QAh8QAeA40QAcAFA-kPA0mPAj4QAeA8uBAtqBAqRA1VA9BAUA62QAxoQAqrQAlEA31QAeA02PAt4PA+B" ++
    "AEAiBB4HB+rPBOBLAlyPAktSA3sSAwHA2sPAuGBnHBhiPAqgPA12PAk2PAGAiBA92PAOATASAHCIAHBMA0i8DA7i8DBOAFAuFAoZ" ++
    "AqBA7iBCwiBAliBAoiBAFApB"),
  ("mac_turkish",
    "-DABoEACACAOAIAKAIADACACADACACACADBCACADBCACACADACACADAIADBCAmyPAh3PBdAGA03PA52PAwCAjDALAwnQA9mQAZAu" ++
    "7QA15QAiBAq0QA72QBk7QAh8QAeA40QAcAFA-kPA0mPAj4QAeA8uBAnsBAiBAzDA9BAUA62QAxoQAqrQAlEA31QAeA02PAt4PA+B" ++
    "AEAiBB4HB+rPBOBLAlyPAktSA3sSAwHB1FBgBB4CAisPA12PAk2PAGAiBA92PAOATASAHCIAHBMA0i8DA7i8DBOAFAs87DA196DA" ++
    "qBA7iBCwiBAliBAoiBAFApB"),
  ("palmos",
    "-DAA4iQA3iQAw5PAxoPA2oPAOBNA31OAy2OAhtPAwtPAvuPAmxSAHACALBxkDBEAIBfAxzOAqkPAj8PAtMAuLBtLAyN-CxN"),
  ("ptcp154",
    "-DAAshCAJA2FA3FA04NAOAh3NARAGAHAfAiEAhEARA+BAFAjCBg4NBEAIBfAj2NAGAtBAiEAhEARA+BAFAzhCA62BA+EAtFA+NAh" ++
    "FAuBAzgCAy1BAx1BA8iCB7iCAkkCAjkCA6+BA5+BAggCA3KA+EAkEA+EBnjCAy5BAosOA7jOA9hCA45BBiFAd-B7I"),
  ("tis_620",
    "-EAA81-D5B7-4DAm84DABABABc-74DAk64DABABAB")]

end PhaseScript.Codec.Data
