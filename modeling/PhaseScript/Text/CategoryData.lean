/-
The Unicode character data (version 14) that the library's rules ask for, in a packed form: numbers in base
thirty-two, lowest digit first, where the second half of the alphabet means that more digits follow.
A table of runs gives the distance to each next boundary; a table of cases gives, for each point, its distance
from the one before, the length of its form and the form's points relative to it.
-/
set_option autoImplicit false

namespace PhaseScript.Category.Data

/-- Packed table: the points that a quoted text shows as they are. -/
def printableRuns : String :=
  "gB-CiBMBqWCGEHBBBUBtMBmBCyBCDB3BIbEGRWBgGBwBC7BClDO7BCxBCPBcCBBLFfJqCBhFBICCCWBHBBDECJCCCEIBECBFCZCD" ++
    "BGECCWBHBCBCBCCBBFECCDDBHEBBHRKDBJBDBWBHBCBFCKBDBDCBPECMHHBDBICCCWBHBCBFCJCCCDHDECBFCSKCBGDDBEDCBBBC" ++
    "DCDDDMEFDDBECBGBOVFNBDBXBQCJBDBEHCBDCBCECKHWBDBXBKBFCJBDBEHCGCBECKBCNNBDBzBBDBGEQCaBDBSDYBJBBCHDBEGB" ++
    "BBIGKCDM6BEdlBCBBBFBYBBBXCFBBBGCKCEgBoCBkBEnBBkBBPBNlBmGBBFBC5LBECHBBBECpBBEChBBECHBBBECPB5BBECjCCgB" ++
    "DaG2CCGCgUBcD5CHWJYJUMNBDBCM+CCKGKGOBLG5CHrBFmCKfBMEMEBDqBCFLsBEaGLD+BChCBdCLGKGOCfxBtCDvBB0DI8BDPD8" ++
    "BHrBCLIrBF2QCGCmBCGCIBBBBBBBfC1BBPBOCGBTCDBJRYIvBRCCbBNDhBPhBPsEE3UZLV04BCgBB9KFtBBBFBC4BHCOYJHBHBHB" ++
    "HBHBHBHBHB+DiBaB5CM2GaMF-BB2CCnDFrBB+CB0CMvBBtzcD3BJ8KU4FIrGFCBBBFY7BDKG4BImCIMG0DLeDuCBLEhBB3BJOCKC" ++
    "nDYcKGCGCGJHBHB8BE+DCKGk9KMXExBkoIuLCqDmBHMFFaBFBBBCBCB9DQ9NC2BHBgBqBGzBBTBEEFBnEE+FDGCGCGCDDHBHNCCM" ++
    "BaBTBCBPCOiB7DFDEtBD4CBNDBvBuBiEdDxBPcEkBJeFrBFeBlBEOqB+ECKGkBEkBEoBI0BLMBPBHBCBLBPBHBCjC3JJWKIYGBqB" ++
    "BJlCGCBBsBBCDBCXBoCIJwBTBCFhBDbFBgC4BEUCyBBCFIBDBdCDEKHJHgCgBnBEMJ2BDdCbFaHEMHwCpC3BzBNzBHuBIKmJfBqB" ++
    "BDCCuCoBIqBWamBcUXJuCEkBJ+BBFNZHKG1BBSInBJgDBULSBsBhCHBBBEBPBLG7BFKGEBICCCWBHBCBFBKCCCDCBGBFHCHDFrE8" ++
    "CBFeoCIKmF2BCmBiBlCLKGNT6BGK2BbCPEX5F8BkDzCMICBCIBCBeBCCMJKmCICuBCLboCIzCNpCnIJBtBBOKdDgBCWBOpCHBCBs" ++
    "BDBBCBJIKGGBCBlBBCBGHK2JZ3FBPyBN7cmDvDBFLkGsyCjDNvhBx+DnS5tI5RHfBKExCBKGeCGKmCKKBHBVFTwV7ClDrCE5BHRg" ++
    "CFLCO4-FI2mBqBJn3IEBHBCBjJtBDREIsMkoCrDFNDJHKCEgzEuBCXJ0D8B2HKnBCqCIwDVmC6EUM3CJZnE1CBnCBCCBCCCEBMBB" ++
    "BHBhCBECIBHBcBEBFBBDHB0KCkJC+VPFBPwiBfhHHBRCHBCBF1GtBDOCKECgKfR6BFBgnBHBEBCBPBlGCQpBsCEKECxYkCsC9BiG" ++
    "EBbBCBBCBBKBEBBBBGBEBBBBBBDBCBBCBBBBBBBBBBCBBCEBHBEBEBBBKBRFDBFBR0BCuIsBEkDMPCPBPBlBKuF4BdNsBEJHCOG6" ++
    "E4eFQDND0DM5CHMEBPME4BIKGoBIeCCuC0KMOCFDFDHJdDLFGKKGIIHJzEB3BlBKmgBg3pBgB5hEH+GCi0FOxpH-gD+QivBr6E1t" ++
    "7VwH"

/-- Packed table: the letters. -/
def alphaRuns : String :=
  "hCaGavBBKBEBFXBfBqOEMOFHBBBhEFBCCEBBGBBDBBBUBzCBrEImFBmBCBGpBnCbEEtBrBjBCBjDBBPCHCKDCBQBBed5CLBYhBJC" ++
    "EBFWEBJBDBXZHLFYBGRqB6B2BDBSBHKPQEICCCWBHBBDEDBQBNCBDOCKBIGECCWBHBCBCBCfEBBTDQJBDBWBHBCBFDBSBPCXBLIC" ++
    "CCWBHBCBFDBeCBDPBRBBGDDBEDCBBBCDCDDDMWB0BIBDBXBQDBaDCBCCeBEIBDBXBKBFDBfCBCPCRJBDBpBCBQBFDIDYGFSDYBJB" ++
    "BCH6BwBBCMH6BCBBBFBYBBBKBCJBCFBBVEgBB-BIBkBbFzDrBUBQGEEDBDCHDENMBRmBBBFBCrBBtKBECHBBBECpBBEChBBECHBB" ++
    "BECPB5BBECjClBQQ2CCGDsTCRBaFrCGIHSNTOSONBDP0BjBBEBjC5CHFCiBBBFmCKfxBeCFLsBEa2BXJ1ByCB9CvBRI2BeNCKsBa" ++
    "kBpBDKkBCJHrBCDpBEBGBCDBFgGgC2ICGCmBCGCIBBBBBBBfC1BBHBBDDBHDECGENFDBH0DBNBQNlDBEBCKBBDFGBBBBBBEBLCEF" ++
    "FEB0BC7zClHGEDCMmBBBFBC4BHBQXJHBHBHBHBHBHBHBHwCB1OCqBFFCE2CGDB6CBEFrBB+CRgBwBQgQguGgCt0VjCuBCtIDQKCU" ++
    "vBQfCmCxBJCnDCgCFCBBBFYQBDBEBXd0BOyB+BGDBBCLcKXZdHvBcBQFBKKFBpBXDBIUXDBDyBBBDCCFCBBBYDCLHDMGCGCGJHBH" ++
    "BrBBOGzDdk9KMXExBkoIuLCqDmBHMFFBBKBNBFBBBCBCBsDhBrLSgCC2BoBM0DFBnEkBaGaL5CDGCGCGCDjBMBaBTBCBPCOiB7Dl" ++
    "MdDxBvBgBNUBIGmBKeCkBEIwB+ESkBEkBEoBI0BMLBPBHBCBLBPBHBCjC3JJWKIYGBqBBJlCGCBBsBBCDBCXKXJfhCTBCKWKamC4" ++
    "BGCgCBPEBDBdqBdDdjBIBcb2BKWKTNSuDpC3BzBNzBNkB8KqBGCuCdKBIWqBSuBVbXM1B5BCCBNtBgBZakBdBCBIjBDBMwBOEVBB" ++
    "BjBSBZ0CHBBBEBPBKHvBmBICCCWBHBCBFDBSBMF+E1BSEUDewBUCBB4FvBpBEkBwBUB7BrBNBnCblBH5FsB0DgCfICBCIBCBYPBB" ++
    "B+CICnBQBBBcBKoBHBVBLuBTBSpCnIJBlBRBxBewDHBCBmBVBZGBCBgBOBnKT9FBvC6cmHkGsyChDPvhBx+DnS5tI5RHfRvCReSw" ++
    "BQEfVFTwVgCgErCFBiCNgCCBBc4-FI2mBqBJn3IEBHBCBjJtBDREIsMkoCrDFNDJHKm7F1CBnCBCCBCCCEBMBBBHBhCBECIBHBcB" ++
    "EBFBBDHB0KCZBZBfBZBfBZBfBZBfBZBI05BfhPtBKHQBhKeSsB0nBHBEBCBPBlG7BkCHB0lBEBbBCBBCBBKBEBBBBGBEBBBBBBDB" ++
    "CBBCBBBBBBBBBBCBBCEBHBEBEBBBKBRFDBFBRkqEg3pBgB5hEH+GCi0FOxpH-gD+QivBr6E"

/-- Packed table: the digits, superscripts and circled digits included. -/
def digitRuns : String :=
  "wBK4DCFBmtBKmEKmGK8MK2DK2DK2DK2DK2DK2DK2DK2DK2DKgDK2DKmCK2IKmCKvWJujBKmBKsJKgELlFKGK2FK2CKmEKGK2gBBD" ++
    "GGK2eJLJLJ5CBKJBB2TJBJBJt0fKmVKmBKmGKWK2CK2MK24UKmsBK2sBEsXKmJJpPJLKgEK8BKwEK2IK2KK2DK2LKmDKmDKmNKmD" ++
    "K2XK2HKmCK2lTK2CKmEK0jbyBgqCKmNK2yBKm9BLl3CK"

/-- Packed table: the numeric characters, fractions and number letters included. -/
def numericRuns : String :=
  "wBK4DCFBCDhtBKmEKmGK8MK2DKEGsDK2DK2DKCGuDNzDKIHnDKoDHHTtDKgDK2DKmCUsIKmCKvWUxbDvHKGKWKsJKgELlFKGK2FK" ++
    "2CKmEKGK2gBBDGGKmGzBCF2W8BuCW2TeprBBpYBZJOD3KEqEKeIBPgBKnBPlKB9DBmdBiZBy1EBCBDBBBzCBuBBHBBBoBCeBIBkB" ++
    "BiDBzMBhCBiBBBBBBzOBBDGB0DE2YB1QBHBgsBBjECMDBBtfBtCBlkBBz5BBvkBBnXBnwCBldBhkCBEB8DBwnCBkBBFBrBB9DBp5" ++
    "DK8FKgKG6EKmBKmGKWK2CK2MKxrTBHBEB5BBeBBBpBByoBKtPtBM5BRC1KbkBEdBIBmEFqGKudIZHnBJrCFWGgFCCQCuBgCJ0BCe" ++
    "DrCFoDIYIpBHqKGwBKmJf+EKqBEwDHmEegEK8BKwEKHU7HK2KK2DK2LKmDKmDMkNT9CK2XdjHKmCK2QVrhBvDxvRK2CKmEKBH+YX" ++
    "piZUsDZ1iByBgqCKmNKtuBJgEK3Y7BBDBEsCtBBPieNj3CKngBBiDB9DB+BBogCB4CBIBPBtKBSBbB2jGBnwBBisEBx6JBixlBB"

/-- Packed table: the zero of each set of ten decimal digits. -/
def decimalZeros : String :=
  "wBBvxBBvEBvGBlNB-DB-DB-DB-DB-DB-DB-DB-DB-DBpDB-DBvCB-IBvCBv6BBvBB1JBpEBvFBPB-FB-CBvEBPBvuiBBvVBvBBvG" ++
    "BfB-CB-MB-4UBvsBBvkCB1ZBpEBlCB5EB-IB-KB-DB-LBvDBvDBvNBvDB-XB-HBvCB-lTB-CBvEB9jbBJBJBJBJBpqCBvNB-yBB-" ++
    "0EB"

/-- Packed table: the small letters. -/
def lowerRuns : String :=
  "hDavBBKBEBkBYBIBBBBBBBBBBBBBBBBBBBBBBBBBBBBBBBBBBBBBBBBBBBBBBBBBBBBBBBCBBBBBBBBBBBBBBBCBBBBBBBBBBBBB" ++
    "BBBBBBBBBBBBBBBBBBBBBBBBBBBBBBBBBCBBBBDCBBBCBDCEBCBDDCBCBBBBBCBBCBBCBDBBBCCCDGBCBCBBBBBBBBBBBBBBBBCB" ++
    "BBBBBBBBBBBBBBBBCCBBBDBBBBBBBBBBBBBBBBBBBBBBBBBBBBBBBBBBBBBBBBBBBBBBBBBBBBBBBBBBHCBCCBBEBBBBBBBBlCBk" ++
    "BHCeFgDBrBBBBDBCESBbjBBCDDBBBBBBBBBBBBBBBBBBBBBBBFBBCBCCzBwBBBBBBBBBBBBBBBBBBBBBBBBBBBBBBBBBBBJBBBBB" ++
    "BBBBBBBBBBBBBBBBBBBBBBBBBBBBBBBBBBBBBBBBBBBBBBBBCBBBBBBBBBBBBCBBBBBBBBBBBBBBBBBBBBBBBBBBBBBBBBBBBBBB" ++
    "BBBBBBBBBBBBBBBBBBBBBBBBBBBBBBBBBBBBBBBBBBBBBBBBBBBBBBBBBBwBpBn6CrBCD4XGikCJ3DgGhCBBBBBBBBBBBBBBBBBB" ++
    "BBBBBBBBBBBBBBBBBBBBBBBBBBBBBBBBBBBBBBBBBBBBBBBBBBBBBBBBBBBBBBBBBBBBBBBBBBBBBBBBBBBBBBBBBBBBBBBBBBBB" ++
    "BBBBBBBBBBBBBBBBBBBBBBBBBBBBBBJBBBBBBBBBBBBBBBBBBBBBBBBBBBBBBBBBBBBBBBBBBBBBBBBBBBBBBBBBBBBBBBBBBBBB" ++
    "BBBBBBBBBBBBBBBBBBBBBBBBBBBBJIGKIIIIGKIIIIOCIIIIIIFBCGBDDBCIECCIIKDBC5DBNBQNtDBDCDBbBEBEBCCIEEBhBQEB" ++
    "raam6BwBBBDCBBBBBBEBBCBIDBBBBBBBBBBBBBBBBBBBBBBBBBBBBBBBBBBBBBBBBBBBBBBBBBBBBBBBBBBBBBBBBBBBBBBBBBBB" ++
    "BBBBBBBBBBBBBBBBBBBBBBBCHBBBEBMmBBBFBzoeBBBBBBBBBBBBBBBBBBBBBBBBBBBBBBBBBBBBBBBBBBBBBTBBBBBBBBBBBBBB" ++
    "BBBBBBBBBBBBDlEBBBBBBBBBBBBDBBBBBBBBBBBBBBBBBBBBBBBBBBBBBBBBBBBBBBBBBBBBBBBBBBBBBBBBBBBBBKBBBBCBBBBB" ++
    "BBBBEBBBCBBDBBBBBBBBBBBBBBBBBBBBFBFBBBBBBBBBBBBBBBEBBBGBBBBBBBBBcBBD1ZrBBNHwCg6THMFphBatmBoBoEkB7ELB" ++
    "PBHBCjOBCDBqBBJloBzBt+CgBgsVgB6sZaaHBSaaaEBBBHBLaaaaaaaaaaaaaaaaaccZBGaZBGaZBGaZBGaZBGBB05BKBUjwCiB"

/-- Packed table: the capital letters. -/
def upperRuns : String :=
  "hCalDXBHhBBBBBBBBBBBBBBBBBBBBBBBBBBBBBBBBBBBBBBBBBBBBBBBBBBBBBBBBCBBBBBBBBBBBBBBBCBBBBBBBBBBBBBBBBBB" ++
    "BBBBBBBBBBBBBBBBBBBBBBBBBBBBCBBBBDCBBBCBDCEBCBDDCBCBBBBBCBBCBBCBDBBBCDBHBCBCBCBBBBBBBBBBBBBBBCBBBBBB" ++
    "BBBBBBBBBBBCBCBBDBBBBBBBBBBBBBBBBBBBBBBBBBBBBBBBBBBBBBBBBBBBBBBBBBBBBBBBBBBHCBCCBBEBBBBBBBBhJBBBDBIB" ++
    "GBBDBBBCBRBJjBBCDDBBBBBBBBBBBBBBBBBBBBBBBFBCBBCCzBwBBBBBBBBBBBBBBBBBBBBBBBBBBBBBBBBBBJBBBBBBBBBBBBBB" ++
    "BBBBBBBBBBBBBBBBBBBBBBBBBBBBBBBBBBBBBBBBCBBBBBBBBBBBBCBBBBBBBBBBBBBBBBBBBBBBBBBBBBBBBBBBBBBBBBBBBBBB" ++
    "BBBBBBBBBBBBBBBBBBBBBBBBBBBBBBBBBBBBBBBBBBBBBBBBBCmBp6CmBBBFByW2C6kCrBCDgKBBBBBBBBBBBBBBBBBBBBBBBBBB" ++
    "BBBBBBBBBBBBBBBBBBBBBBBBBBBBBBBBBBBBBBBBBBBBBBBBBBBBBBBBBBBBBBBBBBBBBBBBBBBBBBBBBBBBBBBBBBBBBBBBBBBB" ++
    "BBBBBBBBBBBBBBBBBBBBBBBJBBBBBBBBBBBBBBBBBBBBBBBBBBBBBBBBBBBBBBBBBBBBBBBBBBBBBBBBBBBBBBBBBBBBBBBBBBBB" ++
    "BBBBBBBBBBBBBBBBBBBBBJIIGKIIIIGLBBBBBBBIIoCEMEMEMFLEmIBEBDDCDCBDFGBBBBBBECEKCFBaQTByZaw5BwBwBBBDCBBB" ++
    "BBBEBBCBIDBBBBBBBBBBBBBBBBBBBBBBBBBBBBBBBBBBBBBBBBBBBBBBBBBBBBBBBBBBBBBBBBBBBBBBBBBBBBBBBBBBBBBBBBBB" ++
    "BBBBBBBBIBBBEBtqeBBBBBBBBBBBBBBBBBBBBBBBBBBBBBBBBBBBBBBBBBBBBBTBBBBBBBBBBBBBBBBBBBBBBBBBBBnEBBBBBBBB" ++
    "BBBBBDBBBBBBBBBBBBBBBBBBBBBBBBBBBBBBBBBBBBBBBBBBBBBBBBBBBBBBBBBBBBBKBBBBCBBBBBBBBEBBBCBBBDBBBBBBBBBB" ++
    "BBBBBBBBBBFBFBBBBBBBBBBBBBBBEBBGBFBBBcBr5ValmBoBoEkB8ELBPBHBCq3BzBt-CgBgsVgBgtZaaaaaaBBCCBCCCEBIaaaC" ++
    "BECIBHbCBEBFBBDHbaaaaaaaaaaaeZhBZhBZhBZhBZhBB1pEiBugCaGaGa"

/-- Packed table: the letters in title case. -/
def titleRuns : String :=
  "lOBCBCBmBB1sHIIIIIMBPBvBB"

/-- Packed table: the points that do not end a cased word. -/
def ignorableRuns : String :=
  "nBBGBLBjBBBBnCBEBBBEBCC3PgGECEBJCBB7HHvGBFBxBtBBBBCBCBBsBBLGKLBBjBBKVQBlDIBKBEhBBBBeb7CL6BLEBCBYYrBD" ++
    "sBBHCGIpB6B3BBBBEIEBDHKCNBPB6BBEEIBUCaBCC5BBECECCDDBeCDBLC5BBEFBCEBUCWGBB6BBCBBEIBHCLCeB9BBMByBBDB3B" ++
    "BBDFDBEHCLCdB6BBCBGBFCUCcC5BCEEIBUCdBoCBHDBB6CBCHLJiDBCJJBBGqCCbBBBBB3BOBFBCFLBkBJBmDEBGBCCCZCEDQENB" ++
    "CCGBPB+CBgTDydDdCeCeCgCCBHIBCLDBFBtBFzBBhCCiBB2DDECJBGD7GCCB6BBBHBBBBCIGKCBnBBIfxBEwBBBFBBFBoBJMCgBE" ++
    "CCBD4BBBCDBBD6BICCgCGyCDBNBHEBGBDCyB-BNBiBlD9NBBDLDNDNDNCMFICKBCBCFxBFBKBBNBQNzBhBr8CCxDD9DBPBgDgBvB" ++
    "B1OBkBEDFFB9CG9CD24bBinBGuIBiDEBKBBcEwCCOiBuCBXDnDDDCIBDBEBZCFB3ECaSNBmBIZLuBDwBBCECCRBVCiCGCCCCMBIB" ++
    "jBBLBzBBBDCCFCBBbBOCFCBBkDFJD5DBCBEBw5TBzER9RQDBMQiBBCBpFBHBGBLBjBBBBvBBtBCjCBVDhQBiHB1EFlgBGBqBBJmS" ++
    "DBCFEoBDEBlFC9REjMC5ELxBE7DB2BPpBBCCKDxBECCCBEBKByBDkBFBI+BBMC0BJKECB-CDCBBCGBgFBDIVC5BCDBlBHDFjGICD" ++
    "BBXB0CGBBECBCuHEGCBCbC1CICBBCqDBBBCGBBlDDCEBFjIJBCgICBBEBwEECCEBgBKoBGCEIBJGCDuBNBC2MHBGBByCWCHBCBC6" ++
    "DGDBBCBHBBoCCDBBB7KC7pFJ31NF7BHJErgBB-BRgCCBCrgQEBHBC+kDCBE8yEuBCXgRDJQCHeE0ED79B3BEyBIBOBWFBPwqBHBR" ++
    "CHBCBFlIOwLB9BEgvBHtDIv1CFhgjYBegDgEwH"

/-- Packed table: the points that may begin a name. -/
def nameStartRuns : String :=
  "hCaEBBavBBKBEBFXBfBqOEMOFHBBBhEFBCDDBBGBBDBBBUBzCBrEImFBmBCBGpBnCbEEtBrBjBCBjDBBPCHCKDCBQBBed5CLBYhB" ++
    "JCEBFWEBJBDBXZHLFYBGRqB6B2BDBSBHKPQEICCCWBHBBDEDBQBNCBDOCKBIGECCWBHBCBCBCfEBBTDQJBDBWBHBCBFDBSBPCXBL" ++
    "ICCCWBHBCBFDBeCBDPBRBBGDDBEDCBBBCDCDDDMWB0BIBDBXBQDBaDCBCCeBEIBDBXBKBFDBfCBCPCRJBDBpBCBQBFDIDYGFSDYB" ++
    "JBBCH6BwBBBNH6BCBBBFBYBBBKBBKBCFBBVEgBB-BIBkBbFzDrBUBQGEEDBDCHDENMBRmBBBFBCrBBtKBECHBBBECpBBEChBBECH" ++
    "BBBECPB5BBECjClBQQ2CCGDsTCRBaFrCDLHSNTOSONBDP0BjBBEBjC5CHpBBBFmCKfxBeCFLsBEa2BXJ1ByCB9CvBRI2BeNCKsBa" ++
    "kBpBDKkBCJHrBCDpBEBGBCDBFgGgC2ICGCmBCGCIBBBBBBBfC1BBHBBDDBHDECGENFDBH0DBNBQNlDBEBCKBBCGGBBBBBBQCEFFE" ++
    "BRpB3zClHGEDCMmBBBFBC4BHBQXJHBHBHBHBHBHBHBHmRDZJHFCFE2CGDB6CBEFrBB+CRgBwBQgQguGgCt0VjCuBCtIDQKCUvBQf" ++
    "CwCnBJCnDCgCFCBBBFYQBDBEBXd0BOyB+BGDBBCLcKXZdHvBcBQFBKKFBpBXDBIUXDBDyBBBDCCFCBBBYDCLHDMGCGCGJHBHBrBB" ++
    "OGzDdk9KMXExBkoIuLCqDmBHMFFBBKBNBFBBBCBCBsDhBrEG6GSgCC2BoBK3DBBBDBBBBBBBB+DkBaGaL4BCfDGCGCGCDjBMBaBT" ++
    "BCBPCOiB7DlC1BrIdDxBvBgBNeFmBKeCkBEIBFqB+ESkBEkBEoBI0BMLBPBHBCBLBPBHBCjC3JJWKIYGBqBBJlCGCBBsBBCDBCXK" ++
    "XJfhCTBCKWKamC4BGCgCBPEBDBdqBdDdjBIBcb2BKWKTNSuDpC3BzBNzBNkB8KqBGCuCdKBIWqBSuBVbXM1B5BCCBNtBgBZakBdB" ++
    "CBIjBDBMwBOEVBBBjBSBZ0CHBBBEBPBKHvBmBICCCWBHBCBFDBSBMF+E1BSEUDewBUCBB4FvBpBEkBwBUB7BrBNBnCblBH5FsB0D" ++
    "gCfICBCIBCBYPBBB+CICnBQBBBcBKoBHBVBLuBTBSpCnIJBlBRBxBewDHBCBmBVBZGBCBgBOBnKT9FBvC6cmDvDRkGsyChDPvhBx" ++
    "+DnS5tI5RHfRvCReSwBQEfVFTwVgCgErCFBiCNgCCBBc4-FI2mBqBJn3IEBHBCBjJtBDREIsMkoCrDFNDJHKm7F1CBnCBCCBCCCE" ++
    "BMBBBHBhCBECIBHBcBEBFBBDHB0KCZBZBfBZBfBZBfBZBfBZBI05BfhPtBKHQBhKeSsB0nBHBEBCBPBlG7BkCHB0lBEBbBCBBCBB" ++
    "KBEBBBBGBEBBBBBBDBCBBCBBBBBBBBBBCBBCEBHBEBEBBBKBRFDBFBRkqEg3pBgB5hEH+GCi0FOxpH-gD+QivBr6E"

/-- Packed table: the points that may continue a name. -/
def nameRuns : String :=
  "wBKHaEBBavBBKBBBCBFXBfBqOEMOFHBBBR1DBCDDBBGFBBBUBzCBrEBFCmFBmBCBGpBItBBBBCBCBBIbEEdLFqCEmDBICKBTCBQ7" ++
    "BClDO2BEBCBCuBScELFYBGJqCBhECKBTBICCCWBHBBDECJCCCEIBECBFCMKBBBCDBGECCWBHBCBCBCCBBFECCDDBHEBBHQLDBJBD" ++
    "BWBHBCBFCKBDBDCBPECKJHBDBICCCWBHBCBFCJCCCDHDECBFCKBBQCBGDDBEDCBBBCDCDDDMEFDDBECBGBOKQNBDBXBQCJBDBEHC" ++
    "BDCBCECKQEBIBDBXBKBFCJBDBEHCGCBECKBCNNBDBzBBDBFFEHFCKKGBDBSDYBJBBCHDBEGBBBIGKCCN6BFPBKnBCBBBFBYBBBXC" ++
    "FBBBGCKCEgBBXCGKLBBBBBEKBkBEUBSBkBJB5BqCGuCCmBBBFBCrBBtKBECHBBBECpBBEChBBECHBBBECPB5BBECjCCDJJOQQ2CC" ++
    "GDsTCRBaFrCDLHWJWLUMNBDBCM0CDBECCKhBDBLG5CHrBFmCKfBMEMKoBCFLsBEaGLlBcE-BBdCLGKNBIOBQxBtCDKRJM0DM4BIK" ++
    "DxBCJHrBCDQDBnBF2QCGCmBCGCIBBBBBBBfC1BBHBBDDBHDECGENFDBHiCCTBcBNBQNzBNEBDMRBEBCKBBCGGBBBBBBQCEFFEBRp" ++
    "B3zClHGJMmBBBFBC4BHBPYJHBHBHBHBHBHBHBHBgBlQDZPBFCFE2CCCCDB6CBEFrBB+CRgBwBQgQguGgCt0VjCuBCtIDcUwBEKBz" ++
    "DlBJCnDCgCFCBBBFY2BEBT0BMmCKKGYDBBxBCkBMdDhCOLGfB3BJOCKGXDpCYDCQCFKGCGCGJHBHBrBBOG7DBCCKGk9KMXExBkoI" ++
    "uLCqDmBHMFFMBNBFBBBCBCBsDhBrEG6GSgCC2BoBKGQQQDCYDhBBBBDBBBBBBBB+DTKHaEBBaL5CDGCGCGCDjBMBaBTBCBPCOiB7" ++
    "DlC1BoEBiEdDxBPBfgBNeFrBFeCkBEIBFqB+ECKGkBEkBEoBI0BMLBPBHBCBLBPBHBCjC3JJWKIYGBqBBJlCGCBBsBBCDBCXKXJf" ++
    "hCTBCKWKamC4BGCgCEBCFIBDBdCDEBgBdDdjBIBeZ2BKWKTNSuDpC3BzBNzBNoBIKmKqBBCDCuCdKBIhBfWqBVbXJnCfQJ8BHBNZ" ++
    "HKG1BBKEEIkBCBJlCEEBNBBjBSBlBGBhCHBBBEBPBKH7BFKGEBICCCWBHBCBFBKCCCDCBGBFHCHDFrErCFKEEemCBBIKmF2BCJXG" ++
    "iBhCDBLKmB5BHK2BbCPEKGH5F7BlDqCVICBCIBCBeBCCJMKmCICuBCIBCb-BIBIqCDBSpCnIJBtBBJPKYeCWBOpCHBCBsBDBBCBJ" ++
    "IKGGBCBlBBCBGHK2JX5FBvC6cmDvDRkGsyChDPvhBx+DnS5tI5RHfBKGvCBKGeCFL3BJEMKJVFTwVgCgErCE5BHRgCCBCLCO4-FI" ++
    "2mBqBJn3IEBHBCBjJtBDREIsMkoCrDFNDJHKDChzEuBCX+QFDGIICHeE0ED7N1CBnCBCCBCCCEBMBBBHBhCBECIBHBcBEBFBBDHB" ++
    "0KCZBZBfBZBfBZBfBZBfBZBICyBgQ3BEyBIBOBWFBPwiBfhHHBRCHBCBF1GtBDOCKEBhKfR6BmnBHBEBCBPBlGLHpBsCEKmlBEBb" ++
    "BCBBCBBKBEBBBBGBEBBBBBBDBCBBCBBBBBBBBBBCBBCEBHBEBEBBBKBRFDBFBR0pDKmgBg3pBgB5hEH+GCi0FOxpH-gD+QivBr6E" ++
    "1t7VwH"

/-- Packed table: the capital form of each point that has one. -/
def upperCases : String :=
  "hDB-BBB-BBB-BBB-BBB-BBB-BBB-BBB-BBB-BBB-BBB-BBB-BBB-BBB-BBB-BBB-BBB-BBB-BBB-BBB-BBB-BBB-BBB-BBB-BBB-" ++
    "BBB-B7BBuuBqBC3I3IBB-BBB-BBB-BBB-BBB-BBB-BBB-BBB-BBB-BBB-BBB-BBB-BBB-BBB-BBB-BBB-BBB-BBB-BBB-BBB-BBB" ++
    "-BBB-BBB-BCB-BBB-BBB-BBB-BBB-BBB-BBB-BBByHCBBCBBCBBCBBCBBCBBCBBCBBCBBCBBCBBCBBCBBCBBCBBCBBCBBCBBCBBC" ++
    "BBCBBCBBCBBCBBCBvOCBBCBBCBBDBBCBBCBBCBBCBBCBBCBBCBBBCmX1PCBBCBBCBBCBBCBBCBBCBBCBBCBBCBBCBBCBBCBBCBBC" ++
    "BBCBBCBBCBBCBBCBBCBBCBBCBBDBBCBBCBBBB3SBBmMDBBCBBDBBEBBGBBDBiGEBBBBmKEBkIDBBCBBCBBDBBFBBDBBEBBCBBDBB" ++
    "EBBCBwDGBBBBDCBBBBDCBBBBDCBBCBBCBBCBBCBBCBBCBBCBBBB9ECBBCBBCBBCBBCBBCBBCBBCBBCBBBCra4RCBBBBDCBBEBBCB" ++
    "BCBBCBBCBBCBBCBBCBBCBBCBBCBBCBBCBBCBBCBBCBBCBBCBBCBBCBBEBBCBBCBBCBBCBBCBBCBBCBBCBBJBBDB+jVBB+jVCBBFB" ++
    "BCBBCBBCBBCBBBB+hVBB4hVBB8hVBBjNBB7MCB5MBB5MCBzMCB1MBB+0yCEB5MBB20yCCB9MCBwyyCBBo0yCCBhNBBlNBBo0yCBB" ++
    "u-UBBi0yCDBlNCB6-UBBpNDBrNIBu+UDBzNCBm0yCBBzNEB0yyCBBzNBBpEBBxNBBxNBBtEGB1NLBqxyCBBkxyCnFBoFsBBBCBBE" ++
    "BBEBkIBBkIBBkITDSvI9IcBrCBBpCBBpCBBpCBDVvK9KBB-BBB-BBB-BBB-BBB-BBB-BBB-BBB-BBB-BBB-BBB-BBB-BBB-BBB-B" ++
    "BB-BBB-BBB-BBB9BBB-BBB-BBB-BBB-BBB-BBB-BBB-BBB-BBB-BBB-DBB9DBB9DCB7DBBxDEB9CBBrDBBPCBBCBBCBBCBBCBBCB" ++
    "BCBBCBBCBBCBBCBBCBBBBrFBB-EBBOBBnHCB-FDBBDBB1BB-BBB-BBB-BBB-BBB-BBB-BBB-BBB-BBB-BBB-BBB-BBB-BBB-BBB-" ++
    "BBB-BBB-BBB-BBB-BBB-BBB-BBB-BBB-BBB-BBB-BBB-BBB-BBB-BBB-BBB-BBB-BBB-BBB-BBB-EBB-EBB-EBB-EBB-EBB-EBB-" ++
    "EBB-EBB-EBB-EBB-EBB-EBB-EBB-EBB-EBB-ECBBCBBCBBCBBCBBCBBCBBCBBCBBCBBCBBCBBCBBCBBCBBCBBCBBKBBCBBCBBCBB" ++
    "CBBCBBCBBCBBCBBCBBCBBCBBCBBCBBCBBCBBCBBCBBCBBCBBCBBCBBCBBCBBCBBCBBCBBDBBCBBCBBCBBCBBCBBCBBBBdCBBCBBC" ++
    "BBCBBCBBCBBCBBCBBCBBCBBCBBCBBCBBCBBCBBCBBCBBCBBCBBCBBCBBCBBCBBCBBCBBCBBCBBCBBCBBCBBCBBCBBCBBCBBCBBCB" ++
    "BCBBCBBCBBCBBCBBCBBCBBCBBCBBCBBCBBCBByBB-CBB-CBB-CBB-CBB-CBB-CBB-CBB-CBB-CBB-CBB-CBB-CBB-CBB-CBB-CBB" ++
    "-CBB-CBB-CBB-CBB-CBB-CBB-CBB-CBB-CBB-CBB-CBB-CBB-CBB-CBB-CBB-CBB-CBB-CBB-CBB-CBB-CBB-CBB-CBCjFpDp6CB" ++
    "g8FBBg8FBBg8FBBg8FBBg8FBBg8FBBg8FBBg8FBBg8FBBg8FBBg8FBBg8FBBg8FBBg8FBBg8FBBg8FBBg8FBBg8FBBg8FBBg8FBB" ++
    "g8FBBg8FBBg8FBBg8FBBg8FBBg8FBBg8FBBg8FBBg8FBBg8FBBg8FBBg8FBBg8FBBg8FBBg8FBBg8FBBg8FBBg8FBBg8FBBg8FBB" ++
    "g8FBBg8FBBg8FDBg8FBBg8FBBg8F5XBPBBPBBPBBPBBPBBPjkCB7mMBB5mMBBnmMBBjmMBBjmMBBlmMBB3lMBBpiMBBk8kCxHBog" ++
    "lCEBsuHRBwjlCzDBBCBBCBBCBBCBBCBBCBBCBBCBBCBBCBBCBBCBBCBBCBBCBBCBBCBBCBBCBBCBBCBBCBBCBBCBBCBBCBBCBBCB" ++
    "BCBBCBBCBBCBBCBBCBBCBBCBBCBBCBBCBBCBBCBBCBBCBBCBBCBBCBBCBBCBBCBBCBBCBBCBBCBBCBBCBBCBBCBBCBBCBBCBBCBB" ++
    "CBBCBBCBBCBBCBBCBBCBBCBBCBBCBBCBBCBBCBBBC7kPp2NBClkP94NBChkP74NBC-jP94NBCxlP39NBB1DGBBCBBCBBCBBCBBCB" ++
    "BCBBCBBCBBCBBCBBCBBCBBCBBCBBCBBCBBCBBCBBCBBCBBCBBCBBCBBCBBCBBCBBCBBCBBCBBCBBCBBCBBCBBCBBCBBCBBCBBCBB" ++
    "CBBCBBCBBCBBCBBCBBCBBCBBCBBBBQBBQBBQBBQBBQBBQBBQBBQJBQBBQBBQBBQBBQBBQLBQBBQBBQBBQBBQBBQBBQBBQJBQBBQB" ++
    "BQBBQBBQBBQBBQBBQJBQBBQBBQBBQBBQBBQLC16N5jOBBQBD56N9jOjlOBBQBD96NhkOllOBBQBDh7NlkOnhOBBQJBQBBQBBQBBQ" ++
    "BBQBBQBBQBBQJB0EBB0EBBsFBBsFBBsFBBsFBBoGBBoGBBgIBBgIBBgHBBgHBB8HBB8HDCvHt+NBCvHv+NBCvHx+NBCvHz+NBCvH" ++
    "1+NBCvH3+NBCvH5+NBCvH7+NBC-H9+NBC-H-+NBC-Hh-NBC-Hj-NBC-Hl-NBC-Hn-NBC-Hp-NBC-Hr-NBCvGt-NBCvGv-NBCvGx-" ++
    "NBCvGz-NBCvG1-NBCvG3-NBCvG5-NBCvG7-NBC-G9-NBC-G--NBC-GhgOBC-GjgOBC-GlgOBC-GngOBC-GpgOBC-GrgOBCvDtgOB" ++
    "CvDvgOBCvDxgOBCvDzgOBCvD1gOBCvD3gOBCvD5gOBCvD7gOBC-D9gOBC-D-gOBC-DhhOBC-DjhOBC-DlhOBC-DnhOBC-DphOBC-" ++
    "DrhOBBQBBQBCQxhOBCjiOzhOBC7iO1hOCCpiOnnOBDriOpnO7hOFC1iOliOCBpiOECQxiOBC3iOziOBC1jO1iOCC9iOnoOBD-iOp" ++
    "oO7iOFCpjOljOEBQBBQBDxjOzsOjtOBDzjO1sOjtODC5jOnpOBD7jO9sOppOJBQBBQBD5jOztOjuOBD7jO1tOjuOBClkOhtOBBOB" ++
    "ChkOnqOBDjkO9tOpqOLCQxlOBCzkOzlOBCpmO1lOCC5kOnrOBD7kOprO7lOFCllOlmOyKB3BiBBfBBfBBfBBfBBfBBfBBfBBfBBf" ++
    "BBfBBfBBfBBfBBfBBfBBfFBBsaBzBBBzBBBzBBBzBBBzBBBzBBBzBBBzBBBzBBBzBBBzBBBzBBBzBBBzBBBzBBBzBBBzBBBzBBBz" ++
    "BBBzBBBzBBBzBBBzBBBzBBBzBBBzBn6BB-CBB-CBB-CBB-CBB-CBB-CBB-CBB-CBB-CBB-CBB-CBB-CBB-CBB-CBB-CBB-CBB-CB" ++
    "B-CBB-CBB-CBB-CBB-CBB-CBB-CBB-CBB-CBB-CBB-CBB-CBB-CBB-CBB-CBB-CBB-CBB-CBB-CBB-CBB-CBB-CBB-CBB-CBB-CB" ++
    "B-CBB-CBB-CBB-CBB-CBB-CCBBEB1iVBBviVCBBCBBCBBHBBDBBLBBCBBCBBCBBCBBCBBCBBCBBCBBCBBCBBCBBCBBCBBCBBCBBC" ++
    "BBCBBCBBCBBCBBCBBCBBCBBCBBCBBCBBCBBCBBCBBCBBCBBCBBCBBCBBCBBCBBCBBCBBCBBCBBCBBCBBCBBCBBCBBCBBCBBCBBCB" ++
    "BJBBCBBFBBNB-lOBB-lOBB-lOBB-lOBB-lOBB-lOBB-lOBB-lOBB-lOBB-lOBB-lOBB-lOBB-lOBB-lOBB-lOBB-lOBB-lOBB-lO" ++
    "BB-lOBB-lOBB-lOBB-lOBB-lOBB-lOBB-lOBB-lOBB-lOBB-lOBB-lOBB-lOBB-lOBB-lOBB-lOBB-lOBB-lOBB-lOBB-lOBB-lO" ++
    "CB-lOGB-lO0oeBBCBBCBBCBBCBBCBBCBBCBBCBBCBBCBBCBBCBBCBBCBBCBBCBBCBBCBBCBBCBBCBBCBBUBBCBBCBBCBBCBBCBBC" ++
    "BBCBBCBBCBBCBBCBBCBBCBBoEBBCBBCBBCBBCBBCBBCBBEBBCBBCBBCBBCBBCBBCBBCBBCBBCBBCBBCBBCBBCBBCBBCBBCBBCBBC" ++
    "BBCBBCBBCBBCBBCBBCBBCBBCBBCBBCBBCBBCBBLBBCBBDBBCBBCBBCBBCBBFBBFBBCBBBBgDDBBCBBCBBCBBCBBCBBCBBCBBCBBC" ++
    "BBMBBCBBCBBCBBCBBCBBCBBCBBFBBCBBHBBGBBCBBdBB9aB-5BdB-8rCBB-8rCBB-8rCBB-8rCBB-8rCBB-8rCBB-8rCBB-8rCBB" ++
    "-8rCBB-8rCBB-8rCBB-8rCBB-8rCBB-8rCBB-8rCBB-8rCBB-8rCBB-8rCBB-8rCBB-8rCBB-8rCBB-8rCBB-8rCBB-8rCBB-8rC" ++
    "BB-8rCBB-8rCBB-8rCBB-8rCBB-8rCBB-8rCBB-8rCBB-8rCBB-8rCBB-8rCBB-8rCBB-8rCBB-8rCBB-8rCBB-8rCBB-8rCBB-8" ++
    "rCBB-8rCBB-8rCBB-8rCBB-8rCBB-8rCBB-8rCBB-8rCBB-8rCBB-8rCBB-8rCBB-8rCBB-8rCBB-8rCBB-8rCBB-8rCBB-8rCBB" ++
    "-8rCBB-8rCBB-8rCBB-8rCBB-8rCBB-8rCBB-8rCBB-8rCBB-8rCBB-8rCBB-8rCBB-8rCBB-8rCBB-8rCBB-8rCBB-8rCBB-8rC" ++
    "BB-8rCBB-8rCBB-8rCBB-8rCBB-8rCh6TCzr9Dzr9DBC1r9Dvr9DBC3r9Drr9DBD5r9D5r9Dzr9DBD7r9D7r9Dvr9DBCjr9Dhr9D" ++
    "BClr9Djr9DNC986D586DBC-86D996DBCh96Dz96DBCv86D-86DBCl96Dz96DqhBB-BBB-BBB-BBB-BBB-BBB-BBB-BBB-BBB-BBB" ++
    "-BBB-BBB-BBB-BBB-BBB-BBB-BBB-BBB-BBB-BBB-BBB-BBB-BBB-BBB-BBB-BBB-BumBBvCBBvCBBvCBBvCBBvCBBvCBBvCBBvC" ++
    "BBvCBBvCBBvCBBvCBBvCBBvCBBvCBBvCBBvCBBvCBBvCBBvCBBvCBBvCBBvCBBvCBBvCBBvCBBvCBBvCBBvCBBvCBBvCBBvCBBvC" ++
    "BBvCBBvCBBvCBBvCBBvCBBvCBBvCpEBvCBBvCBBvCBBvCBBvCBBvCBBvCBBvCBBvCBBvCBBvCBBvCBBvCBBvCBBvCBBvCBBvCBBv" ++
    "CBBvCBBvCBBvCBBvCBBvCBBvCBBvCBBvCBBvCBBvCBBvCBBvCBBvCBBvCBBvCBBvCBBvCBBvC8EBtCBBtCBBtCBBtCBBtCBBtCBB" ++
    "tCBBtCBBtCBBtCBBtCCBtCBBtCBBtCBBtCBBtCBBtCBBtCBBtCBBtCBBtCBBtCBBtCBBtCBBtCBBtCCBtCBBtCBBtCBBtCBBtCBB" ++
    "tCBBtCCBtCBBtCk4BB-DBB-DBB-DBB-DBB-DBB-DBB-DBB-DBB-DBB-DBB-DBB-DBB-DBB-DBB-DBB-DBB-DBB-DBB-DBB-DBB-D" ++
    "BB-DBB-DBB-DBB-DBB-DBB-DBB-DBB-DBB-DBB-DBB-DBB-DBB-DBB-DBB-DBB-DBB-DBB-DBB-DBB-DBB-DBB-DBB-DBB-DBB-D" ++
    "BB-DBB-DBB-DBB-DBB-Du+CB-BBB-BBB-BBB-BBB-BBB-BBB-BBB-BBB-BBB-BBB-BBB-BBB-BBB-BBB-BBB-BBB-BBB-BBB-BBB" ++
    "-BBB-BBB-BBB-BBB-BBB-BBB-BBB-BBB-BBB-BBB-BBB-BBB-BhsVB-BBB-BBB-BBB-BBB-BBB-BBB-BBB-BBB-BBB-BBB-BBB-B" ++
    "BB-BBB-BBB-BBB-BBB-BBB-BBB-BBB-BBB-BBB-BBB-BBB-BBB-BBB-BBB-BBB-BBB-BBB-BBB-BBB-Bj1eBjCBBjCBBjCBBjCBB" ++
    "jCBBjCBBjCBBjCBBjCBBjCBBjCBBjCBBjCBBjCBBjCBBjCBBjCBBjCBBjCBBjCBBjCBBjCBBjCBBjCBBjCBBjCBBjCBBjCBBjCBB" ++
    "jCBBjCBBjCBBjCBBjC"

/-- Packed table: the title form of each point where it is not the capital form. -/
def titleCases : String :=
  "-GC3I3GlHBCBBABBBBBCBBABBBBBCBBABBBlBBCBBABBB0cCjFJp6CBABBABBABBABBABBABBABBABBABBABBABBABBABBABBABB" ++
    "ABBABBABBABBABBABBABBABBABBABBABBABBABBABBABBABBABBABBABBABBABBABBABBABBABBABBABBADBABBABBAh0DBQBBQB" ++
    "BQBBQBBQBBQBBQBBQBBABBABBABBABBABBABBABBABBQBBQBBQBBQBBQBBQBBQBBQBBABBABBABBABBABBABBABBABBQBBQBBQBB" ++
    "QBBQBBQBBQBBQBBABBABBABBABBABBABBABBADCQ5mOBBSBC7iO9mODDriOpnOjnOFBAGCQ5nOBBSBC1jO9nODD-iOpoOjoOFBAm" ++
    "BCQ5qOBBSBCpmO9qODD7kOprOjrOFBAk42BCzr9Dzp9DBC1r9Dvp9DBC3r9Drp9DBD5r9D5p9Dzp9DBD7r9D7p9Dvp9DBCjr9Dhp" ++
    "9DBClr9Djp9DNC986D556DBC-86D966DBCh96Dz66DBCv86D-56DBCl96Dz66D"

/-- Packed table: the small form of each point that has one. -/
def lowerCases : String :=
  "hCBgCBBgCBBgCBBgCBBgCBBgCBBgCBBgCBBgCBBgCBBgCBBgCBBgCBBgCBBgCBBgCBBgCBBgCBBgCBBgCBBgCBBgCBBgCBBgCBBg" ++
    "CBBgCmDBgCBBgCBBgCBBgCBBgCBBgCBBgCBBgCBBgCBBgCBBgCBBgCBBgCBBgCBBgCBBgCBBgCBBgCBBgCBBgCBBgCBBgCBBgCCB" ++
    "gCBBgCBBgCBBgCBBgCBBgCBBgCiBBCCBCCBCCBCCBCCBCCBCCBCCBCCBCCBCCBCCBCCBCCBCCBCCBCCBCCBCCBCCBCCBCCBCCBCC" ++
    "CtMudCBCCBCCBCDBCCBCCBCCBCCBCCBCCBCCBCDBCCBCCBCCBCCBCCBCCBCCBCCBCCBCCBCCBCCBCCBCCBCCBCCBCCBCCBCCBCCB" ++
    "CCBCCBCCBxHBBCCBCCBCEBkNBBCCBCCB8MBBCCB6MBB6MBBCDB+EBB0MBB2MBBCCB6MBB+MCBmNBBiNBBCEBmNBBqNCBsNBBCCBC" ++
    "CBCCB0NBBCCB0NDBCCB0NBBCCByNBByNBBCCBCCB2NBBCEBCIBEBBCCBEBBCCBEBBCCBCCBCCBCCBCCBCCBCCBCCBCDBCCBCCBCC" ++
    "BCCBCCBCCBCCBCCBCDBEBBCCBCCBhGBBvDBBCCBCCBCCBCCBCCBCCBCCBCCBCCBCCBCCBCCBCCBCCBCCBCCBCCBCCBCCBCCBjICB" ++
    "CCBCCBCCBCCBCCBCCBCCBCCBCIB2iVBBCCBlKBBwiVDBCCBlMBBqEBBuEBBCCBCCBCCBCCBCiJBCCBCEBCJBoHHBsCCBqCBBqCBB" ++
    "qCCBgECB+DBB+DCBgCBBgCBBgCBBgCBBgCBBgCBBgCBBgCBBgCBBgCBBgCBBgCBBgCBBgCBBgCBBgCBBgCCBgCBBgCBBgCBBgCBB" ++
    "gCBBgCBBgCBBgCBBgCkBBQJBCCBCCBCCBCCBCCBCCBCCBCCBCCBCCBCCBCGB3DDBCCBNBBCDBjIBBjIBBjIBBgFBBgFBBgFBBgFB" ++
    "BgFBBgFBBgFBBgFBBgFBBgFBBgFBBgFBBgFBBgFBBgFBBgFBBgCBBgCBBgCBBgCBBgCBBgCBBgCBBgCBBgCBBgCBBgCBBgCBBgCB" ++
    "BgCBBgCBBgCBBgCBBgCBBgCBBgCBBgCBBgCBBgCBBgCBBgCBBgCBBgCBBgCBBgCBBgCBBgCBBgCxBBCCBCCBCCBCCBCCBCCBCCBC" ++
    "CBCCBCCBCCBCCBCCBCCBCCBCCBCKBCCBCCBCCBCCBCCBCCBCCBCCBCCBCCBCCBCCBCCBCCBCCBCCBCCBCCBCCBCCBCCBCCBCCBCC" ++
    "BCCBCCBCCBeBBCCBCCBCCBCCBCCBCCBCDBCCBCCBCCBCCBCCBCCBCCBCCBCCBCCBCCBCCBCCBCCBCCBCCBCCBCCBCCBCCBCCBCCB" ++
    "CCBCCBCCBCCBCCBCCBCCBCCBCCBCCBCCBCCBCCBCCBCCBCCBCCBCCBCCBCCBCCBCCBCCBCCBCCBCDBgDBBgDBBgDBBgDBBgDBBgD" ++
    "BBgDBBgDBBgDBBgDBBgDBBgDBBgDBBgDBBgDBBgDBBgDBBgDBBgDBBgDBBgDBBgDBBgDBBgDBBgDBBgDBBgDBBgDBBgDBBgDBBgD" ++
    "BBgDBBgDBBgDBBgDBBgDBBgDBBgDq6CBgmOBBgmOBBgmOBBgmOBBgmOBBgmOBBgmOBBgmOBBgmOBBgmOBBgmOBBgmOBBgmOBBgmO" ++
    "BBgmOBBgmOBBgmOBBgmOBBgmOBBgmOBBgmOBBgmOBBgmOBBgmOBBgmOBBgmOBBgmOBBgmOBBgmOBBgmOBBgmOBBgmOBBgmOBBgmO" ++
    "BBgmOBBgmOBBgmOBBgmOCBgmOGBgmOzWBg9rCBBg9rCBBg9rCBBg9rCBBg9rCBBg9rCBBg9rCBBg9rCBBg9rCBBg9rCBBg9rCBBg" ++
    "9rCBBg9rCBBg9rCBBg9rCBBg9rCBBg9rCBBg9rCBBg9rCBBg9rCBBg9rCBBg9rCBBg9rCBBg9rCBBg9rCBBg9rCBBg9rCBBg9rCB" ++
    "Bg9rCBBg9rCBBg9rCBBg9rCBBg9rCBBg9rCBBg9rCBBg9rCBBg9rCBBg9rCBBg9rCBBg9rCBBg9rCBBg9rCBBg9rCBBg9rCBBg9r" ++
    "CBBg9rCBBg9rCBBg9rCBBg9rCBBg9rCBBg9rCBBg9rCBBg9rCBBg9rCBBg9rCBBg9rCBBg9rCBBg9rCBBg9rCBBg9rCBBg9rCBBg" ++
    "9rCBBg9rCBBg9rCBBg9rCBBg9rCBBg9rCBBg9rCBBg9rCBBg9rCBBg9rCBBg9rCBBg9rCBBg9rCBBg9rCBBg9rCBBg9rCBBg9rCB" ++
    "Bg9rCBBg9rCBBQBBQBBQBBQBBQBBQ7kCB-7FBB-7FBB-7FBB-7FBB-7FBB-7FBB-7FBB-7FBB-7FBB-7FBB-7FBB-7FBB-7FBB-7" ++
    "FBB-7FBB-7FBB-7FBB-7FBB-7FBB-7FBB-7FBB-7FBB-7FBB-7FBB-7FBB-7FBB-7FBB-7FBB-7FBB-7FBB-7FBB-7FBB-7FBB-7" ++
    "FBB-7FBB-7FBB-7FBB-7FBB-7FBB-7FBB-7FBB-7FBB-7FDB-7FBB-7FBB-7FhKBCCBCCBCCBCCBCCBCCBCCBCCBCCBCCBCCBCCB" ++
    "CCBCCBCCBCCBCCBCCBCCBCCBCCBCCBCCBCCBCCBCCBCCBCCBCCBCCBCCBCCBCCBCCBCCBCCBCCBCCBCCBCCBCCBCCBCCBCCBCCBC" ++
    "CBCCBCCBCCBCCBCCBCCBCCBCCBCCBCCBCCBCCBCCBCCBCCBCCBCCBCCBCCBCCBCCBCCBCCBCCBCCBCCBCCBCCBCKB97OCBCCBCCB" ++
    "CCBCCBCCBCCBCCBCCBCCBCCBCCBCCBCCBCCBCCBCCBCCBCCBCCBCCBCCBCCBCCBCCBCCBCCBCCBCCBCCBCCBCCBCCBCCBCCBCCBC" ++
    "CBCCBCCBCCBCCBCCBCCBCCBCCBCCBCCBCCBCKBPBBPBBPBBPBBPBBPBBPBBPJBPBBPBBPBBPBBPBBPLBPBBPBBPBBPBBPBBPBBPB" ++
    "BPJBPBBPBBPBBPBBPBBPBBPBBPJBPBBPBBPBBPBBPBBPMBPCBPCBPCBPJBPBBPBBPBBPBBPBBPBBPBBPZBPBBPBBPBBPBBPBBPBB" ++
    "PBBPJBPBBPBBPBBPBBPBBPBBPBBPJBPBBPBBPBBPBBPBBPBBPBBPJBPBBPBBzEBBzEBBRMBrFBBrFBBrFBBrFBBRMBPBBPBBnGBB" ++
    "nGNBPBBPBB-GBB-GBBNMB-HBB-HBB7HBB7HBBRqJB51OEB9rQBBrkQHB4BuBBgBBBgBBBgBBBgBBBgBBBgBBBgBBBgBBBgBBBgBB" ++
    "BgBBBgBBBgBBBgBBBgBBBgBUBCzZB0BBB0BBB0BBB0BBB0BBB0BBB0BBB0BBB0BBB0BBB0BBB0BBB0BBB0BBB0BBB0BBB0BBB0BB" ++
    "B0BBB0BBB0BBB0BBB0BBB0BBB0BBB0Bx5BBgDBBgDBBgDBBgDBBgDBBgDBBgDBBgDBBgDBBgDBBgDBBgDBBgDBBgDBBgDBBgDBBg" ++
    "DBBgDBBgDBBgDBBgDBBgDBBgDBBgDBBgDBBgDBBgDBBgDBBgDBBgDBBgDBBgDBBgDBBgDBBgDBBgDBBgDBBgDBBgDBBgDBBgDBBg" ++
    "DBBgDBBgDBBgDBBgDBBgDBBgDxBBCCBt-UBBruHBBt+UDBCCBCCBCCB3hVBB5-UBB9hVBB7hVCBCDBCJB9jVBB9jVBBCCBCCBCCB" ++
    "CCBCCBCCBCCBCCBCCBCCBCCBCCBCCBCCBCCBCCBCCBCCBCCBCCBCCBCCBCCBCCBCCBCCBCCBCCBCCBCCBCCBCCBCCBCCBCCBCCBC" ++
    "CBCCBCCBCCBCCBCCBCCBCCBCCBCCBCCBCCBCCBCJBCCBCFBCuqeBCCBCCBCCBCCBCCBCCBCCBCCBCCBCCBCCBCCBCCBCCBCCBCCB" ++
    "CCBCCBCCBCCBCCBCCBCUBCCBCCBCCBCCBCCBCCBCCBCCBCCBCCBCCBCCBCCBCoEBCCBCCBCCBCCBCCBCCBCEBCCBCCBCCBCCBCCB" ++
    "CCBCCBCCBCCBCCBCCBCCBCCBCCBCCBCCBCCBCCBCCBCCBCCBCCBCCBCCBCCBCCBCCBCCBCCBCCBCLBCCBCCBnglCBBCCBCCBCCBC" ++
    "CBCFBCCBvyyCDBCCBCEBCCBCCBCCBCCBCCBCCBCCBCCBCCBCCBn0yCBB90yCBB10yCBBh0yCBBn0yCCBjxyCBBzyyCBBpxyCBBg6" ++
    "BBBCCBCCBCCBCCBCCBCCBCCBCCB-CBBl0yCBBvjlCBBCCBCHBCGBCCBCdBCs5VBgCBBgCBBgCBBgCBBgCBBgCBBgCBBgCBBgCBBg" ++
    "CBBgCBBgCBBgCBBgCBBgCBBgCBBgCBBgCBBgCBBgCBBgCBBgCBBgCBBgCBBgCBBgCmmBBwCBBwCBBwCBBwCBBwCBBwCBBwCBBwCB" ++
    "BwCBBwCBBwCBBwCBBwCBBwCBBwCBBwCBBwCBBwCBBwCBBwCBBwCBBwCBBwCBBwCBBwCBBwCBBwCBBwCBBwCBBwCBBwCBBwCBBwCB" ++
    "BwCBBwCBBwCBBwCBBwCBBwCBBwCpEBwCBBwCBBwCBBwCBBwCBBwCBBwCBBwCBBwCBBwCBBwCBBwCBBwCBBwCBBwCBBwCBBwCBBwC" ++
    "BBwCBBwCBBwCBBwCBBwCBBwCBBwCBBwCBBwCBBwCBBwCBBwCBBwCBBwCBBwCBBwCBBwCBBwC9EBuCBBuCBBuCBBuCBBuCBBuCBBu" ++
    "CBBuCBBuCBBuCBBuCCBuCBBuCBBuCBBuCBBuCBBuCBBuCBBuCBBuCBBuCBBuCBBuCBBuCBBuCBBuCCBuCBBuCBBuCBBuCBBuCBBu" ++
    "CBBuCCBuCBBuCr3BBgEBBgEBBgEBBgEBBgEBBgEBBgEBBgEBBgEBBgEBBgEBBgEBBgEBBgEBBgEBBgEBBgEBBgEBBgEBBgEBBgEB" ++
    "BgEBBgEBBgEBBgEBBgEBBgEBBgEBBgEBBgEBBgEBBgEBBgEBBgEBBgEBBgEBBgEBBgEBBgEBBgEBBgEBBgEBBgEBBgEBBgEBBgEB" ++
    "BgEBBgEBBgEBBgEBBgEu-CBgCBBgCBBgCBBgCBBgCBBgCBBgCBBgCBBgCBBgCBBgCBBgCBBgCBBgCBBgCBBgCBBgCBBgCBBgCBBg" ++
    "CBBgCBBgCBBgCBBgCBBgCBBgCBBgCBBgCBBgCBBgCBBgCBBgChsVBgCBBgCBBgCBBgCBBgCBBgCBBgCBBgCBBgCBBgCBBgCBBgCB" ++
    "BgCBBgCBBgCBBgCBBgCBBgCBBgCBBgCBBgCBBgCBBgCBBgCBBgCBBgCBBgCBBgCBBgCBBgCBBgCBBgCh1eBkCBBkCBBkCBBkCBBk" ++
    "CBBkCBBkCBBkCBBkCBBkCBBkCBBkCBBkCBBkCBBkCBBkCBBkCBBkCBBkCBBkCBBkCBBkCBBkCBBkCBBkCBBkCBBkCBBkCBBkCBBk" ++
    "CBBkCBBkCBBkCBBkC"

/-- Packed table: the folded form of each point where it is not the small form. -/
def foldCases : String :=
  "1FBuwBqBC3G3GqDCmX1N2BB3QxDCrY4R1KBoHrCDyCvI9IgBDqBvK9KSBCOB7BBBxBEBdBBrBaBrDBB-CEB-DyMCjCJ5wDBABBAB" ++
    "BABBABBABBABBABBABBABBABBABBABBABBABBABBABBABBABBABBABBABBABBABBABBABBABBABBABBABBABBABBABBABBABBABB" ++
    "ABBABBABBABBABBABBABBABBABBABBABBABBABBABBABBABBABBABBABBABBABBABBABBABBABBABBABBABBABBABBABBABBABBA" ++
    "BBABBABBABBABBABBABBABBABBABBABBABBABBABBABBABBABBADBPBBPBBPBBPBBPBBPjkCB7kMBB5kMBBnkMBBjkMBBjkMBBlk" ++
    "MBB3jMBBniMBBm8kCuQC7iPp2NBCliP94NBChiP74NBC-hP94NBCxjP39NBBzDDC1iP1iPyFC14N5jOCD54N9jOjlOCD94NhkOll" ++
    "OCDh5NlkOnhOqBC-Ht8NBC-Hv8NBC-Hx8NBC-Hz8NBC-H18NBC-H38NBC-H58NBC-H78NBCvI98NBCvI-8NBCvIh9NBCvIj9NBCv" ++
    "Il9NBCvIn9NBCvIp9NBCvIr9NBC-Gt9NBC-Gv9NBC-Gx9NBC-Gz9NBC-G19NBC-G39NBC-G59NBC-G79NBCvH99NBCvH-9NBCvHh" ++
    "+NBCvHj+NBCvHl+NBCvHn+NBCvHp+NBCvHr+NBC-Dt+NBC-Dv+NBC-Dx+NBC-Dz+NBC-D1+NBC-D3+NBC-D5+NBC-D7+NBCvE9+N" ++
    "BCvE-+NBCvEh-NBCvEj-NBCvEl-NBCvEn-NBCvEp-NBCvEr-NDCjEx-NBCjgOz-NBCvgO1-NCCpgOnnOBDrgOpnO7-NFC1gOlgOC" ++
    "BpgOEC7ExgOBC3gOzgOBCrhO1gOCC9gOnoOBD-gOpoO7gOFCphOlhOGDxhOzsOjtOBDzhO1sOjtODC5hOnpOBD7hO9sOppOLD5hO" ++
    "ztOjuOBD7hO1tOjuOBCliOhtOCChiOnqOBDjiO9tOpqOLCrHxjOBCziOzjOBCriO1jOCC5iOnrOBD7iOprO7jOFCljOlkO07iBB-" ++
    "8rCBB-8rCBB-8rCBB-8rCBB-8rCBB-8rCBB-8rCBB-8rCBB-8rCBB-8rCBB-8rCBB-8rCBB-8rCBB-8rCBB-8rCBB-8rCBB-8rCB" ++
    "B-8rCBB-8rCBB-8rCBB-8rCBB-8rCBB-8rCBB-8rCBB-8rCBB-8rCBB-8rCBB-8rCBB-8rCBB-8rCBB-8rCBB-8rCBB-8rCBB-8r" ++
    "CBB-8rCBB-8rCBB-8rCBB-8rCBB-8rCBB-8rCBB-8rCBB-8rCBB-8rCBB-8rCBB-8rCBB-8rCBB-8rCBB-8rCBB-8rCBB-8rCBB-" ++
    "8rCBB-8rCBB-8rCBB-8rCBB-8rCBB-8rCBB-8rCBB-8rCBB-8rCBB-8rCBB-8rCBB-8rCBB-8rCBB-8rCBB-8rCBB-8rCBB-8rCB" ++
    "B-8rCBB-8rCBB-8rCBB-8rCBB-8rCBB-8rCBB-8rCBB-8rCBB-8rCBB-8rCBB-8rCBB-8rCBB-8rCh6TCzp9Dzp9DBC1p9Dvp9DB" ++
    "C3p9Drp9DBD5p9D5p9Dzp9DBD7p9D7p9Dvp9DBCjp9Dhp9DBClp9Djp9DNC956D556DBC-56D966DBCh66Dz66DBCv56D-56DBCl" ++
    "66Dz66D"

end PhaseScript.Category.Data
