import PhaseScript.Text.NameTable
import PhaseScript.Text.NameWords
/-
The names of characters (Unicode version 14), packed as the other tables of characters are. For each name the number of
words that it shares with the one before it, and sixteen times the number of its other words but one; then those words,
by their places among all words. The second half, and the characters that have the names.
-/
set_option autoImplicit false

namespace PhaseScript.CharacterName.Data

/-- Packed names, a part. -/
def names7 : String :=
  "BiTaDTSDTiBDTnDDiBzDaDTSDTiBDTnDDiBkDaDTSDTiBDTnDDiBwFaDTSDTiBDTnDDiBmQaDTSDiBycaDTSDiB1IaDTSDiBgQaD" ++
    "TSDiB6JaDTSDTiBDTnDDiB+MaDTSDTiBDTnDDiBkLaDTSDTiBDTnDDiB1MaDTSDTiBDTnDDiBwJaDTSDTiBDTnDDiBkUaDTSDTiB" ++
    "DTnDDiBgIaDTSDTiBDTnDDiB8NaDTSDTiBDTnDDiBiLaDTSDTiBDTnDDiBhKaDTSDTiBDTnDDiB4IaDTSDTiBDTnDDiBxHaDTSDT" ++
    "iBDTnDDiBuBaDTSDTiBDTnDDiBoHaDTSDTiBDTnDDiBjJaDTSDTiBDTnDDiBuHaDTSDyBqC3EaDUSDiBhCaDTSDTiBDTnDDhEkIx" ++
    "HAqCA8WJaDYSD2BzHJaDYSDnBQaDYSDVaDVSDwBoDmmBt6B1LgB40C9JVR8IVR5EFRzaFRykBFB0XB5VRK0GRI0GBmGRwBFB-EB9" ++
    "pBR5FoEB6KRyCoDCPCOCXCdChBCqBCyBCrBC3BBqIB9SRiFFR4HFRlFFRnJVR6hBwKxB3FEBME4DErDEjDEREwEE2CE9CEUEiEE5" ++
    "CEtBEpCE-BENEwDEkFEmBEoBE6CELE7CE6DE3DElDEtDhBK7B4BRwL6KhBI7B4BR5DlHR-CkERxElHxB3FCBME4DErDEjDEREwEE" ++
    "2CE9CEUEiEE5CEtBEpCE-BENEwDEkFEmBEoBE6CELE7CE6DE3DElDEtDhBK7J4BRnBkEhBI7J4BBxChBKc0GhBIc0GwB52CvP5Fo" ++
    "EhBKrI4BhBIrI4BRvP-EhBzTlBWSB9KTCMEUELERENEnCEyHEuIEuKxBkjBvnDnOVhBzTBMDUDLDRDND5BDgMDnMD-LDpKDvCDmL" ++
    "DjMDyLDsKDwCD3NDuKD1HDYDmCDlIDsID7ID8GD2BDsJDsQD7GD+JDlCDkJDqHD5IDuLDnCDyHDuIDgCDkODxLDzND5JDtED-BiB" ++
    "yVnOViB49BnOVR5UrWSB2YD6uBDr3BDgZD+rBD-rBDiaD9uBDwZD1tBD2tBD3tBD4tBDl9BDk9BD0tBD8YDuZD7uBD5sBD3ZD8uB" ++
    "D0WDgWD5uBD8XD1YD+ZDsZDuYDMDnIDnCDpmBDpiBDRD2iCDjPDNDtEDgiCDjHDuIDLDliCDmKD6LDyHDoWDoJDUgB40C1tCFRgt" ++
    "BFRjFFB2ERtdvBRrmBFRqiCFwB52C4nHtCnBRxBHRiDHRjBHR1CHRZ7BRc9BgBviIppCmpCCtICgwDgBk8J+oDuOQ+oDuOgC28C4" ++
    "DoO2qCMTu2ERTl2EUTl3ENTz1ELTvqC0CT12EpLT1qC2MT31EmMT72EvOTh3EsET22EvSTs2EyTTp3ElbT13E5BT02E-LTr3EgMT" ++
    "u3EpKT53EnMT43ElCT21E5ITx3EkJT41EuLTg2EqHT0qCmCTh2E7ITn2ElIT82E8GT-2EsITxqC8BTw3ElGTv2E1GT01EyNT62Eu" ++
    "RT51ErMT23EmtBT+1E5kBTp2EntBTk3EgCTk2EzNT92EkOTwqC5JTj2ExLTo2EvCT3qCyLTx2EmLT11EsKTi3EjMTj3EwCTyqC1H" ++
    "Tt2E3NTzqCYTt3EuKT+2EtETz3EmKTw2E6LTy2E9KT61EjGTy3E7LT91EmTTi2E3wBTz2E2-DT83EjETv3Eo0BTg4Et8GT42EmsB" ++
    "Tm2E1nDTm3ExoKT03E2tKTq2E3tKTs3EryKTq3E50LT+3E6lBTh4EOSgB71ED81ED-1EDr2ED32ED52EDg3EDn3EDo3ED33ED63E" ++
    "D73ED93ED-3EiB9iBi4EhMTj4EoaTk4EyzBTl4EzgHTm4Eo-ITn4E4tLTo4EwzCTp4EstBTq4EtlLTr4Eo0HTs4EirLTt4ErsCTu" ++
    "4E7hBTv4EiiFTw4EmiCTx4E+8ETy4EskDTz4EzrLT04EtpGiBwf14E1nIT24EwnIiB9iB34ErsBT44EowBD54EiBwf64E8yET74E" ++
    "uhJiB9iB84E0hFT94EspBD+4ET-4Ew0DDg5EDh5ETi5E8HDj5EDk5EDl5EiBwfn5E8-LS9iBo5EDp5ETq5EzyBDr5EDs5ETt5Ezr" ++
    "HTu5EkzEDv5EDw5EDx5EDy5EDz5ED05ED15ED25ED35ET45Eo5BD55ET65EvVD75ED85ED95ED+5ED-5EDg6EDh6EDi6EDj6EDk6" ++
    "EDl6ETm6E4pBT76EwnHT+6E-qCTj7EktDTk7EHDl7ETm7ErxLDn7EDo7EjBp7Ew3M0hBTq7E0hBjBr7E0hBz0CTs7EnwBDt7EDu7" ++
    "EiBwfv7ExxGS9iBw7EDx7EDz7ED07ED17ET27ErtGD37ED47ED57ED67ED77ETuqMm5EEn6EEo6EEp6EEq6EEr6EEs6EEt6EEu6E" ++
    "Ev6EEw6EEx6EEy6EEz6EE06EE16EE26EE36EE46EE56EE66EE86EE96EE-6EEg7EEh7EEi7EEy7EE87EwBtuE8PtIkEDWRkSVR5E" ++
    "PCOCXCdChBCqBCyBCrBC3BC2DC+GC2LCnNCjIClOC9HCrPCrHSP1BSO1BSX1BSd1BShB1BSqB1BSyB1BSrB1BS3B1BSPjCSOjCSX" ++
    "jCSdjCShBjCSqBjCSyBjCSrBjCS3BjCS2DjCS+GjCS2LjCSnNjCSjIjCSlOjCS9HjCSrPjCSrHjChBn0DmnB+lBSsW7ZS-b7ZS2R" ++
    "7ZSkpB7ZxBl0BvfsW7ZxB58CvfsW7ZhBvf-b7ZS2R7ZgCoK8tE40EPmIE0BEk0BDhBDjIThB1BEjCTjIjCThBscT2DscTjIscjBP" ++
    "1BscjBhB1BscjBPjCscjBhBjCscE5ZT2D5ZTjI5ZjBP1B5ZjBhB1B5ZjBPjC5ZjB2DjC5ZjBjIjC5ZT2Dm5BiB60HP6lKSygBPS8" ++
    "1BPSv0BOSygBOiBxpGOwxCiBv0BOwxCSjhChBD2DU+KDS81B2DS0hJ2DSygB2DD2LSjhCjIU+KDS81BjISygBjITP1BTX1BiBv0B" ++
    "hB1BiBjhChB1BiBygBhB1BiBolFhB1BiBkrJhB1BiBygBPjCThBjCiBovGhBm5BiB2uLjIm5BhBP0BFU+KDhBOsXFhBX3PFRk1DF" ++
    "Ru1LFRk0BFRo8JFhBOpsBFhBXpsBFhBdpsBFhBhBpsBFR5hJFhBpvImnBFRr1IFRu+JFRg6MFRyzEFRozEFRjwHFhBm+LmnBFRoD" ++
    "FhBPmIFR0oLFR8hIFQzzJFgBhlB3iLFRkkMFRiiLFRirDFhBoxGirDFRpoLFRqvGFRxrKFRuiLFR87GFRhQFRwmFFQ7zEgBwBoKg" ++
    "B2N4JwByjKjoBF0lDThmK5MTg2L5MD8kFDuyBDoaD4pBD3rHD05LDHDrdDg+BD1yBDz+ID9-IDx9BDz8CDxsCTqtC7mDD4yGDquF" ++
    "D6pLDpuFDu+EDh+BD8HD71HTkiFiODjSDstBDnyCDvxCD0-LDndT7mDvVDwXD-gKDr9BD00ITvsB+RDm0CDowHD1uLTCnxBTzV08" ++
    "EjBmH0PfgBv3IBMCRC4DC-+EC2CCjDCUC6DCtDC9ZCiEC5CCkFCtBCpCC-BCyrBCkkBCLCwDCxqBCmBCoBC6CCphCCiIC+FC9CC3" ++
    "DgBglFBMCl-JCjDCtBCnlMCmBC1yIC3wBCkFC4DCpCCNCwsGC6CChcC6kLCoBChjFCLCkkBC3DC-BC1+LCwDC4uBCUCRCqlMC5CC" ++
    "umIClsJCqEC2CCirHC+uBCztLC9MC8DCijFCphCColMCkHC34BCkgJClgJCmgJC2yICniBCplMwBnKugHhaVSyCPDODXDdDhBDqB" ++
    "DyBDrBD3BS5E2DD+GD2LDnNDjIDlOD9HDrPDrHTP1BTO1BTX1BTd1BThB1BTqB1BTyB1BTrB1BT3B1BwBxFxTBMDlPD-LDpLDRDi" ++
    "PD7LD7GDtHDUD5BDqLDlND+FDmNDNDlGD+HDnMDtPDtTD1HDLDj-GD37BDn3BDyUD3gHDxKD8DDqEDihHSjVPDhBD2DDjISBjPTm" ++
    "jD2QT-sD2QgB8vHBnvECu8ECtuHC5sGCqvECjqKCpjIC1yHCx4LC-+GCxuICvwIC5+ICirJC8jIC8kMC1-JCrHCiuKCy4KC92LC-" ++
    "3MC5kHC7gICm4CCm+JS3B1BwBxF9lDBiIDsUDnrHDpxCDRDriNDy8GDywBDz8GDUDzsIDkzIDrhJDgiDDhsMDqiKDuvKDslBDrXD" ++
    "LD7nFDlmLDslLD9+MDjUDNDiGDyUD2BDw+LD5oMDsmBDswBDxXD-NDyHDnCD+pBgCmHxF9lDBiIEpxCEywBEgiDEslBgBxjMBtwE" ++
    "CyMCtrHC1EClMC+JC9KC5RCq7HCxcC1VC4IC9ICtQC8MCiwGCkGCnTC+3KCgICuRCnqDCmrKCruKC+3LC8NCYCUCLCm-BR8P8dwB" ++
    "xF+lDFMDUDLD5BDnMD8CDyOD9PDuEDsEDyYDwCDuKD0CD2MDvODgFD8BDmDD6GDmCDsIDlCDkJDqHDnCDyFDvXDgCDxLDkCDvCDj" ++
    "GDmED9GD2BD90ED+0ED-0ED06MD7sGD8sGDl8ED3iFS8P8dS5EPDOD2DD+GD1BgC2vGEB1DUEREME6RENEiGT6FUEREME6RENEiG" ++
    "D8RDukBDiUDghBD9CDiXDndDwgBD3dDznBDgfDj3BDl1CDyUDnaDnYDzlBDtTDumBDmND0wBDtPDqLDlND+FDoSDpkBDy0BxBCB1" ++
    "DUEREME6RENEiGT6FUEREME6RENEiGD8RDukBDiUDghBD9CDiXDndDwgBD3dDznBDgfDj3BDl1CDyUDnaDnYDzlBDtTDumBDmND0" ++
    "wBDtPDqLDlND+FDoSDpkBDy0BgBolLBtiKCgxDC3qIC3aCr4LCsKC8wLCnuCCg9MC97HCo-EC0uGCmrHCksMCo4LCm2DCvfCulIC" ++
    "s4MCuyHC+1ICukJC5gICtyCCpGCouEC6ECw0DC4OC6RCtyKCkGCroBC9uECvYCpBCg8JCu9JCrsBCr1EC7yECvDC6wBC0oBCrzEC" ++
    "geCt4CC09MgBk+JBqCCmDCwCCsEC9PC1EC9uGCgCCvCC7lLCgGCwtCC8CC6GC28BC55CChwIClkJCo3JCuHC2BCnCCMCRCUCNCLC" ++
    "pDCzGCiGRyCoDCPCOCXCdChBCqBCyBCrBC3BwBi+JEBMD7DDgID6RD2sCDyEDvyCDRD1yCD2BDq4CDUD5BDwyCD23BDkCDlCDmCD" ++
    "NDnkDD8BDxyCDvCDmEDwCDyyCD+IDzyCD7PDgGDLDtED1ED-FDjGD8LhBCBMD7DDgID6RD2sCDyEDvyCDRD1yCD2BDq4CDUD5BDw" ++
    "yCD23BDkCDlCDmCDNDnkDD8BDxyCDvCDmEDwCDyyCD+IDzyCD7PDgGDLDtED1ED-FDjGD8LgBm-GBMClPC8VCxKCpLC6rBChiBCk" ++
    "WCRCqSC4UCy1BC7GCUCvSC-LCyPCw1IC5IC7ICmCCjZCNClGCmtBCzNC8pDCyLC+HC1HCtHCLCiPC+gBClDC7LCkPCqNC5tHCn3B" ++
    "wBslFgwEBvwEDpdDx1BD7vCDq0BDzhNDzzCDqiND91LDyED3+MD8LD8iIDmED77CD3iIDh6MDu8GD6XDlkID3nIDz3IDi1HDpqKD" ++
    "+xED8oFDyKDqpGDm-CD4kBDi0JD08GD8kLD6jID6ED1gMD-kHDx8GD8tCD8fDluHDttBD1kLD2qMDv6LDxrDDrjIDppGDwtCD+8M" ++
    "D+7BDurIS+pFVwBxrMEBMDthBDlPD8VDxKDpLDhiBDkWDRDqSD8CD2BDyWDUD54CDvSD5BDkCDuJD5ID7IDjZDNDlGDrMDzNDyLD" ++
    "+HD1HDtHDLDiPD+gBDlDD7LhBCBMDthBDlPD8VDxKDpLDhiBDkWDRDqSD8CD2BDyWDUD54CDvSD5BDkCDuJD5ID7IDjZDNDlGDrM" ++
    "DzNDyLD+HD1HDtHDLDiPD+gBDlDD7LwB28CMFgrEDhrEDirEDjrEDkrEDlrEDmrEDnrEDorEDprEDqrEDrrEDsrEDtrEDurEDvrE" ++
    "DwrEDxrEDyrEDzrED0rED1rED2rED3rED4rED5rED6rEDl3DD7rED8rED9rED+rED-rEDgsEDhsEDisEDjsEDksEDlsEDmsEDnsE" ++
    "DosEDpsEDqsEDrsEDssEDtsEDusEDvsEDwsEDxsEDysEDzsED0sED1sED2sED3sED4sED5sED6sED7sED8sED9sED+sED-sEDgtE" ++
    "DhtEDitEDjtEDktEDltEDx4DDmtEDntED05DDotEDptEDqtEDrtEDh6DDstEDttEDutEDvtEDwtEDulCDvlCDwlCDxlCDylCDzlC" ++
    "D0lCD1lCD2lCD5-DD6-DD3lCD4lCD5lCD8-DD9-DD+-DD6lCD7lCD8lCD9lCD+lCD-lCDgmCDhmCDimCDjmCDkmCDlmCDmmCDnmC" ++
    "DomCDpmCDqmCDrmCDggEDsmCDtmCDumCDvmCDwmCDxmCDymCDzmCD0mCD1mCD2mCD3mCD4mCD5mCD6mCD7mCD8mCD9mCD+mCD-mC" ++
    "DgnCDhnCDinCDjnCDknCDlnCDmnCDnnCDonCDpnCDqnCDrnCDsnCDtnCDunCDvnCDwnCDxnCDynCDrhEDthEDvhEDxhEDzhED1hE" ++
    "D3hED5hED7hED9hED-hEDiiEDkiEDmiEDoiEDqiEDsiEDuiEDwiEDznCD0nCD1nCD2nCD3nCD4nCD5nCD6nCD7nCD8nCD9nCD+nC" ++
    "D-nCDgoCDhoCDioCDjoCDkoCDloCDmoCDnoCDooCDpoCDqoCDolEDplEDqlEDrlEDslEDtlEDulEDvlEDwlEDxlEDylEDzlED0lE" ++
    "D1lED2lED3lED4lED5lED6lED7lED8lED9lED+lED-lEDgmEDhmEDimEDjmEDkmEDlmEDmmEDnmEDomEDpmEDqmEDrmEDsmEDtmE" ++
    "DumEDvmEDwmEDxmEDymEDzmED0mED1mED2mED3mED4mED5mED6mED7mED8mED9mED+mED-mEDgnEDhnEDinEDjnEDknEDlnEDmnE" ++
    "DnnEDonEDpnEDqnEDrnEDsnEDtnEDunEDvnEDwnEDxnEDynEDznED0nED1nED2nED3nED4nED5nED6nED7nED8nED9nED+nED-nE" ++
    "DgoEDhoEDioEDjoEDkoEDloEDmoEDnoEDooEDpoEDqoEDroEDsoEDtoEDuoEDvoEDwoEDxoEDyoEDzoET0oEMT1oE4DT2oEjDT3o" ++
    "ERT4oEwET5oE9CT6oEiET7oE5CT8oEtBT9oE7vIT+oE8vIT-oE9vITgpE+vIThpE6DTipE3DTjpElDTkpEsHTlpEztETmpEp9ETn" ++
    "pE3tGTopEpiHTppEvSDqpEDrpEDspEDtpEDupEDvpEDwpEDxpEgC6IBCEpDiB1R3LqIjB0B3LqISCnITE4DjB4DAeTkYqJlBA2Ge" ++
    "GoLTioBqJjBjDAuFFeWGuFTgERzB3HgEuDRT40BqJT0oD8HTE2CjB2CAezBE2CAejB9CAfTE9CjB3iBAezCpQiEAfGeTm9CqJTx9" ++
    "CqJjBtBAoTzBEtBAoTzCtBA2GeGoTDi4BkBA2GeT0DlDVAoTjBNAfTEjHT3HsHDkFjC0DmBA1DiOoBG2GejBmBAuFF4aTEmBzB3v" ++
    "DqJAoLTmhCqJlBA2GeTqvBqJzB6CA2GezB7CAIeTElDyBrJoEAfiCgErJoEAfS1xBqTS0zBqTSh8CqTSkpCqTiC2GqTA2GeyBCoB" ++
    "AoLgBupGoOMCRCUCNCLCsECyTC5BC-LCgMCpKCnMCkCCyPCuNCpMC1KClCC5ICkJCuLCqHCmCC7IClIC8GCsIC8BClGC1GCyNCuR" ++
    "CgCCzNCkOC5JCxLCvCCyLCmLCsKCjMCwCC1HC3NCYCuKCtECmKC6LC9KC9PC+gBCjGCmTwBwhI5yEB5ND6NDwODvUD7GDuHD5QDu" ++
    "PDqVD-PD1ODxPD8MDkGD8OD9RDlGD5PDvZDwRD9IDgPS4KFS5EPDODXD2DD+GTP1BEjCT2DjCgB+-JB5NC6NCwOCvUC7GCuHC5QC" ++
    "uPCqVC-PC1OCxPC8MSSkGCkGC8OC9RClGC5PCvZCwRC9ICgPRoM80BR2K80BR5EPCOCXCdChBC2DC+GwBuqJBS5NC5NSS6NC6NCw" ++
    "OCvUSS7GC7GCuHC5QCuPCqVSS-PC-PSS1OC1OSSxPCxPSS8MC8MSSkGCkGC8OC9RClGC5PCvZCwRSS9IC9ICgPR5EPCOCXCdhBzo" ++
    "G5EdR5EhBC2DC+GSP1BgB3zHB5NC6NCwOChtGC7GCuHC-1DCuPCqVC-PC1OCxPC8MCkGC8OCtqCClGC5PCvZC9ICgPR5EPChBC2D" ++
    "C+GSP1BgBkkKBjwECpdCsrHCpvGC7GCjiCCqhNCp3CCxcC1VC4ICiyIC8MCkGChiLCgIClGCnqDC38BC7yKC9IC2NR5EPC2DC+GS" ++
    "P1BCOCXR8PtIgBw3IBMC4DC2CCjDCRC7CCUClDC5CCtBCpCC-BCNCmBC4uBC6CCLCwECkFCoBCphCCiIC+FCu4BCkkBCrDR3LVwB" ++
    "xhJ+1HBMDRDUDNDnCDtEDmDD97ED8BDlCDmCDrhDD7ID8hDDgCDsoDDkCD1EDyWDvCDmqDDyLD5BDrMDwCDpvDD1HD6vDDYD0CSg" ++
    "B7qMD8qMhBipGBMDRDUDNDnCDtEDmDD8BDlCDmCD7IDgCDkCD1EDyWDvCTvMvCDyLD5BDrMDwCD1HDYD0CiB3MnSwVTP0BSxjBky" ++
    "KDthIS5EPDODXDdDhBDqBDyBDrBD3BD2DD+GD2LDnNDjIDlOD9HTP1BTO1BTX1BTd1BThB1BTqB1BTyB1BTrB1BT3B1BTPjCTOjC" ++
    "TXjCTdjCThBjCTqBjCTyBjCTrBjCT3BjCT2DjCT+GjCT2LjCTnNjCTjIjCTlOjCT9HjCTrPjCTrHjCjBP1BjCjBO1BjCjBX1BjCj" ++
    "Bd1BjCjBhB1BjCjBqB1BjCjByB1BjCjBrB1BjCjB3B1BjCiB3MPmgMTOwVTXwVTdwVThBwVTqBwVTyBwVTrBwVT3BwVT2DwVgB3p" ++
    "IBMhBuCFUDLTnFmBDRDNSzPVxBFTzCQC7FC2HRB5BC1EC8CC-FCuECyECsECzEC8FC5GC9FCgHCsGCwCCgFC0CCgGCmCC8BCtFCm" ++
    "DCtGClCCnCCgCCkCCyFCmEC9GCvCCjGC2BCs3BCi-LChyDC4qMhBFvBJCtlFSWQB-GRyCPCOCXCdR5E2DC+GSP1BDjChB3MP0BRw" ++
    "GWSC9BC9BS0dvBC2+ICorBC3IST3IC38CgCxFxG3pCB7GExPEuPE8MEvZEuHE9IEwRE6NEgPEw9BE1OEkGE6pIE5PE8OEqSEqCEt" ++
    "qCEhwGEwOEvUE8tHEqVE-1DEkwGE-PEg4LEn4LT5EPEjITxjDxYxBhG3pCBjJExHEkDEuBEhKEuHE5gHE1IEkMEtME4gHE4IEoHE" ++
    "wFEkLE6gHEiLEqCEgIE1MEosHEmQE8NEwJEgQEycEhCEiTEkUT5EPE2DE+GgB4+IB5NC6NCzrCCwOCnuHCvUC7GCuHRFgNRB5QCm" ++
    "iNC5jICjkICuPCqVC-PC1OC85MCx6CCxPClwGC93LC8MCkGC8OC9RC+qEClGCqSC5PCvZCw6MC0qKCwRC9ICgtLCgPhBhNVJDQR5" ++
    "EPChBC2DC+GSP1BRwGmFC80ByBTW8cWiBW8cWCWSO+BSkErWgBo1EBMCpDC5mBC5qECiICsoCCnIC1oCCRCzGCNCiGCUC8DCLCqE" ++
    "C-LC+gBC50DC46MC4UCu1BCqNC8VCvSC1HCtHCpLChiBC3lBClGCqSClPConBCpiDC4vJC3vJC7IC36BCgzJC5ICz3HC5-MCjPCi" ++
    "PCzNCyPCyLC7LC+HCkPCynLC-sLC7GRhNVgD0lBO+BiCPWwGgDCO+BiCPWwGgDvEO+BiCPWwGxCPWiCO+BwGxCOvpDiCPzCwGxCP" ++
    "zCiCOvpDwGwBpiInhKB5ND6NDwODvUD7GDuHD5QDuPDqVD-PD1ODxPD8MDkGD8OD9RDlGD5PDvZDwRD9IDgPS5EPDODXDdD2DD+G" ++
    "TP1BEjChBglDB5ND6NDwODvUD7GDg0DD5QDuPDqVD-PD1ODxPD5-CDkGD8ODlGD5PD9IDgPS5EPDODXDdD2DD+GTP1BEjCwBsoKg" ++
    "lDB5ND6NDwODvUD7GDg0DD5QDuPD-PD1ODxPD5-CDkGD8ODlGD5PD9IDgPS4KViB0D4KVyBd+BAnGFWS5EPDODXDdD2DD+GTP1Bg" ++
    "CxF6-LBlJMTzJMEnITlJUTzJUERTlJNEjHTzJjHTlJ3VTzJ3VTlJzoCTzJzoCTlJ0mBTzJ0mBTlJ2oCTzJ2oCTlJ-cTzJ-cTlJru" ++
    "EEqiBTzJqiBTlJ8RTzJ8RTlJ6oCTzJ6oCTlJ3oCTzJ3oCTlJmkDTzJmkDTlJ4VTzJ4VTlJuuEEv-GElNEiIEgdTzJgdTlJyoBTzJ" ++
    "yoBTlJxoBTzJxoBTlJjeTzJjeE7RTlJoSTzJvuETlJzoBE96BEn2BEoiBTzJoiBTlJohBTzJohBTlJy2BTzJy2BTlJg7BTzJg7BT" ++
    "lJjxBTzJjxBTlJwuEEhQEyuEEpGTzJpGTlJmNTzJmNTlJwKTzJwKTlJ5oCTzJ5oCTlJusBEi9ExB+7HEBMEpDEq0BElpCEoiBExo" ++
    "BEqyCEryCEGERUyyBREzGEyUEsyCEuyCEzUEUE8DE2yCEieE1mBEhzDEqLE5yCElNE+FEjeENEiGUhsBjHU9tBjHElkDEzoBE8yC" ++
    "EtPU6FtPEtTErzCE-QEyoBEtzCEheELEqEUhsBnLU9tBnLEx0BEqiBE0zCUizCFE4gBiBCBMEpDEq0BElpCEoiBExoBEqyCEryCE" ++
    "GERUyyBREzGEyUEsyCEuyCEzUEUE8DE2yCEieE1mBEhzDEqLE5yCElNE+FEjeENEiGUhsBjHU9tBjHElkDEzoBE8yCEtPU6FtPEt" ++
    "TErzCE-QEyoBEtzCEheELEqEUhsBnLU9tBnLEx0BEqiBE0zCUizCFE4gBS5EPDhBD2DDjITP1BEjCwBqzH1pDBMDmDD8BDwCD8FD" ++
    "sEDuED2BD1ED6GD0CD9FDgCDsMDjGDvCDmED5BD8CDkCDlCDmCDtET16CtEDnCT16CnCDlEDzEDyFSuCMDUDLDRDNSVy3KTmChqI" ++
    "SFvzHDm1LDx1LD-1LSyCoDDPDODXDdDhBDqBDyBDrBD3BgBo0KyCPCOCXCdChBCqBCyBCrBC3BR5E2DC+GC2LCnNCjIClOC9HCrP" ++
    "CrHSP1BSO1BSX1BSd1BShB1BSqB1BSyB1BSrB1BS3B1BhB3MP0BDmID2RSOsXgB29MBt-GClPClGC37BCtHCyLC2hBCnoFCgoFCy" ++
    "WC9PCmQCxwBCgCCkXCjGCsECwuBC9ICkLC1MCwCC7LCzzCCj6MC6GCyFT+KDChKC4ICypICueCxHCwrBCkGC8lBCuHCukBCy0BC7" ++
    "zHCtmBC-QhBmHzHVS8WVRr4CVhCBxHAWJyBtmBA5DJwBxF7+BB5NTS5ND6NTS6NDwOD7GTS7GDuHD5QDuPD-PD1ODxPD8MDkGTSk" ++
    "GlBAnBuFD8OD9RT+K9RDlGD5PTS5PlBAnBuFDhwKD9IDgPTSgPlBAnBuFS5EPDODXDdDhBD2DD+GD2LTP1BiB3MP0BSkIw1EgB7+" ++
    "BB5NC6NCwOC7GCuHC5QCuPC-PC1OCxPC8MCkGC8OC9RClGC5PCgwKC9ICgPC3lHCt8CRwY9IhBmHWQiBO+BQSWJiBO+BJSkNJDQS" ++
    "eJDQiB1DeQSwRQSfQR5EPC2DC+GSP1BxBwGOnBlnBVA+BiB9BAWyBO6QA+ByB0B9BAWwBxFvlMB5ND6ND2uHDuHD5QTSuPD-PD1O" ++
    "DxPD8MDkGD8ODlGD5PDwRD9IDgPDt8CiBmHWJEQjBO+BJFQSwGvBTOlnBE+BTd+BgB5oFB5NSC5NC6NCwOCvUC7GCuHS-oGuHC5Q" ++
    "CuPC-PC1OCxPC8MCkGC8OC9RClGCwRC9ICgPR5EPCOCXCdC2DC+GSP1BgBw-GB5NC6NCwOCvUC7GCuHC5QCuPCqVC-PC1OCxPC8M"

/-- Packed names, a part. -/
def names8 : String :=
  "CkGC8OC9RClGC5PCvZCwRC9ICgPRkI4hNgBlhFFvIC7FC2HChfC3gBRBMCpDCUC8DCLCqESnFmBDkHDtBD5HCRC7DCNCjEC5BC1E" ++
    "C8CC-FClECuECyECsEC0HCzEC8FC5GC9FCgHCsGCwCCgFC0CCgGCmCC8BCtFCmDCtGClCCnCCgCCkCCyFCmEC9GCvCC2BCuJiBxF" ++
    "ucsbEsMElkBhBuCFpDTj-EpDDUD8DDLDqETnFmBEkHEtBE5HDRD7DDNDjEB-GB3IRT3IRwGWSTWCkES0dvBCorBR5EPCOCXCdChB" ++
    "CqBCyBCrBC3BC2DC+GC2LCnNCjIClOC9HCrPCrHSP1BDjCRyCoDCPCOCXCdChBCqBCyBCrBC3BxBFxFuc-GhCBxFuc6FRFNxCuCF" ++
    "xFuc6FRGNxBBxFucuJR5EkbgBpnIFvIC7FC2HRBMCpDCUC8DCLCqECRC7DCNCjEC5BC1EC8CC-FClECuECyECsEC0HCzEC8FC5GC" ++
    "9FCkwCCgHCkXCsGCwCCgFC0CCgGCmCC8BCtFCmDCtGClCCnCCgCCkCCyFCmEC9GCvCC2BhBuCFpDDUD8DDLDqEDRD7DDNDjERF-G" ++
    "CqKRhNFRkgHFR5EFR4KVhBT4KVB3IRT3IxBuCFnFmBhB5EFJwB+qL3qLBpqDDwJDq8EDnkFD6sGDg1CDi-CD4tJDwwID35BDqzDD" ++
    "y-JDrwBD9tKDkDD+5CDxjIDs3JD6RD1+GDp2BDzhCDokBDzUD-+CSyCoDDPDODXDdDhBDqBDyBDrBD3BgBgnFFvIC7FC2HRBpDCU" ++
    "CLCRCpqBCu6CCuiBC41CC8rBClyBC5tCCm5CChkIC7jDC7xDCrhCChwCCmwCC+yJCrcCylBCtvCC-vGCyfCwsBCjmDC-mBCg-ECv" ++
    "4BC4-MC-gBC7kBCvjBCjmBC-tBCwWhBuCFMDUD8DDLDqEDRD7DDNDjEDpkBRNVRjEVB-GBx9IRyCoDCPCOCXCdChBCqBCyBCrBC3" ++
    "BR4KVB3IRT3IRnJVRBw8ChBuCFpDDkWRBpzDgBi+IBMCUCLCRCNC5BC1EC8CC-FCuECyECsEC0HCzEC8FC5GC9FCgHCsGCwCCgFC" ++
    "0CCgGCmCC8BCtFCmDCtGClCCgCCkCCyFCvCC2BCsMRFqKRhNFR4KVRkIyrDgBllLFvIC7FC2HRBMCpDCUC8DCLCqESnFmBDkHDtB" ++
    "D5HCRC7DCNCjEC5BC1EC8CC-FClECuECyECsEC0HCzEC8FC5GC9FCgHCsGCwCCgFC0CCgGCmCC8BCtFCmDCtGClCCnCCgCCkCCuJ" ++
    "CyFCmEC9GCvCC2BhBuCFpDDUD8DDLDqETnFmBEkHEtBE5HDRD7DDNDjERF-GCtOChfC3gBBpRB3IRT3IRhNFBtIRmlBVRFqKhBuC" ++
    "6IVxBiiH6FuCVRixLVxBuCFt8BRhBF0EvIRyCoDCPCOCXCdChBCqBCyBCrBC3BBh-GRFlcB71BRlnGFR4K1jBC2jBwBhsDvMyCPD" ++
    "ODXDdDhBDqBDyBDrBD3BS5E2DD+GD2LDnNDjIDlOD9HDrPDrHTP1BEjCgB+pIBMCpDCUCLCRC7DCNCjEC5BC1EC8CCweC-FClECu" ++
    "ECyECsEChjBCzEC8FC5GC9FCgHCsGCwCCgFC0CC-nBCgGCmCC8BCtFCmDCvaCtGClCCnCCgCCkCCyFCvCC2BCuJhBuCFpDDUD8DD" ++
    "LDRD7DDNDjERF7FC-GCqKCkgBB3IRT3IR8PtIR4KVhBT4KVRhNFRFqcgBunJBMCUCLCRC5BC1EC8CC-FCuECyECsEChjBCzEC8FC" ++
    "5GC9FC-nBCgHCsGCwCCgFC0CCgGCmCC8BCtFCmDCtGClCCnCCgCCkCCyFCvCC2BCsMCkXR4KVgBnqIBMCpDCUC8DCLCqECRC7DCN" ++
    "CjEC5BC1EC8CCweC-FClECuECyECsEChjBC0HCzEC8FC5GC9FC-nBCsMCgHCsGCwCCgFC0CCgGCmCC8BCtFCmDCvaCtGClCCnCCg" ++
    "CCkCCyFCmECvCC2BRF7FhBuCFpDDUD8DDLDqEDRD7DDNDjERFqKC-GRyCoDCPCOCXCdChBCqBCyBCrBC3BgC11BFmH7FJCvIC7FC" ++
    "2HRBMCpDCUC8DCLCqESnFmBDtBCzGC7DCiGCjEC5BC1EC8CC-FClECuECyECsEC0HCzEC8FC5GC9FCgHCsGCwCCgFC0CCgGCmCC8" ++
    "BCtFCmDCtGClCCnCCgCCkCCuJCyFCmEC9GCvCC2BgBmH2xBQgB11BFqKCtOhBuCFpDDUD8DDLDqETnFmBEkHDzGD7DDiGDjERF-G" ++
    "BpRhBjEzPVRF+mDhBBhmB7FTT7FSnFkHD5HxBuCFnFtBE5HwBmH11ByCoDDPDODXDdDhBDqBSBMD5BDmCDvXD8BgB0tJBMCpDCUC" ++
    "8DCLCqESnFmBDkHDtBD5HCRC7DCNCjEC5BC1EC8CC-FClECviDCuECyECsEC0HCzEC+jDC8FC5GC9FCgHCsGCwCCgFC0CCgGCmCC" ++
    "3fC8BCtFCmDCtGClCCigDCnCCgCCkXCkCC3YCtECmEC9GCvCC2BhBuCFpDDUD8DDLDqETnFmBEkHEtBE5HDRD7DDNDjERF-GCvIC" ++
    "7FC2HCqKCtOSS7FBpRBhoLB3IRT3IB-ERviBrWRhNFRyCoDCPCOCXCdChBCqBCyBCrBC3BRT-ER-7BVRv2BFRmlBVhBBhmB7FRFh" ++
    "fC3gBQq6LhxBRBMCpDCUC8DCLCqESnFmBDkHDtBD5HCRC7DCNCjEC5BC1EC8CC-FClECuECyECsEC0HCzEC8FC5GC9FCgHCsGCwC" ++
    "CgFC0CCgGCmCC8BCtFCmDCtGClCCnCCgCCkCCyFCmEC9GCvCC2BhBuCFpDDUD8DDLDqETnFmBEkHEtBE5HDRT6FRD7DDNT6FNDjE" ++
    "RFvIC7FC2HC-GCqKCtOBrxHRhNFBpRRyCoDCPCOCXCdChBCqBCyBCrBC3BgBlcBMCpDCUC8DCLCqESnFmBDkHDtBD5HCRC7DCNCj" ++
    "EC5BC1EC8CC-FClECuECyECsEC0HCzEC8FC5GC9FCgHCsGCwCCgFC0CCgGCmCC8BCtFCmDCtGClCCnCCgCCkCCyFCmEC9GCvCC2B" ++
    "hBuCFpDDUD8DDLDqETnFmBEkHDRD7DDNDjERFvIC7FC2HC-GCqKClcB3IRT3IRtIWCvBRh9B1jBC2jBCo-CxBwHbrVVhD4KVA4vB" ++
    "G7lB+9JWpH-X0B-fGpH-XXT-XXoG-XTTzCVA-fjBAT-XUoG-XU4T-XUpiL-XkB6QG-fWO-yCWd-yCxBB24L+KUiBvyD+KUE8DS+K" ++
    "LxBuCF+KLEqEgBtlJBMCpDCUC8DCLCqESnFmBDkHDtBD5HCRC7DCNCjEC5BC1EC8CC-FClECuECyECsEC0HCzEC8FC5GC9FCgHCs" ++
    "GCwCCgFC0CCgGCmCC8BCtFCmDCtGClCCnCCgCCkCCyFCmEC9GCvCC2BCuJhBuCFpDDUD8DDLDqETnFmBEkHEtBE5HDRD7DDNDjER" ++
    "F7FC2HC-GC6yEB3IRT3IRhNFRFn8HRyCoDCPCOCXCdChBCqBCyBCrBC3BwB1gDrUA4FR8ErUxBTrUA4FxBoGrUA4FxBrUAT4FxB8" ++
    "ErUA4FUT4FR0ErUjBAT4FR5-BrUTA4FUT4FxC0D5-BrUAT4FgBt1LBMCpDCUC8DCLCqECRC7DCNCjEC5BC1EC8CC-FClECuECyEC" ++
    "sEC0HCzEC8FC5GC9FCgHCsGCwCCgFC0CCgGCmCC8BCtFCmDCtGClCCnCCgCCkCCyFCmECvCC2BCsMRF7FC2HhBuCFpDDUD8DDLDq" ++
    "EDRD7DDNDjERF-GCqKhBBvM1ERhNFRyCoDCPCOCXCdChBCqBCyBCrBC3BgBmvEB5BC1EClECmCCwCS+KwCC8BCtFCmDClCCsECyE" ++
    "CgFCgCCkCCvCCzEC2BCMC0CCgGC8CS+K8CC-FCtGC0HS+KmDxB-KFnDkCEgCUv0IgChBuCFMDpDDUD8DDLDqEDRDmxBDND7DDmUR" ++
    "FhrIRyCoDCPCOCXCdChBCqBCyBCrBC3BR5E2DC+GhBFC4KC4KCl0KRgBvXRBuEC8FC5GC9FCgHCsGCuJgB0yGBMCpDCUC8DCLCqE" ++
    "CRC7DCNCjEC5BC1EC8CC-FClECuECyECsEC0HCzEC8FC5GC9FCgHCsGCwCCgFC0CCgGCmCC8BCtFCmDCtGClCCnCCgCCkCCyFCmE" ++
    "C9GCvCC2BCsMhBuCFpDDUD8DDLDqETnFmBEkHDRD7DDNDjERF7FC2HC-GCqKRhNFgC02M-pFEB8rBEME6LEyHEnCEuIE8DEqEERE" ++
    "NE7RE8CEpKEjeEy1DE-vBEt0BE1bE3lBE06BE0CEwKEmUEzMEuRE13CE83CEg4CE1eExtDEslBE2zDiBCB8rBEME6LEyHEnCEuIE" ++
    "8DEqEERENE7RE8CEpKEjeEy1DE-vBEt0BE1bE3lBE06BE0CEwKEmUEzMEuRE13CE83CEg4CE1eExtDEslBE2zDSyCoDDPDODXDdD" ++
    "hBDqBDyBDrBD3BS5E2DD+GD2LDnNDjIDlOD9HDrPDrHCpRwBgyG2vEBMDpDDUD8DDLDqEDRDND5BD1ED8CD-FDlEDuEDyEDsEDzE" ++
    "D8FD9FDgHDsGDwCDgFD0CDgGDmCD8BDtFDmDDtGDlCDnCDwwBDgCDkCDyFDmED9GDvCD2BDuJDjGiBuCFpDEUE8DELEqEERE7DEN" ++
    "SF7FDvID61BC-GiBpnD0hDFSnDnCSiBgCSnDgCSFqKST3ISviBrWyBwHbrVVSyCoDDPDODXDdDhBDqBDyBDrBD3BgB2qJBMCpDCU" ++
    "C8DCLCqESnFmBDkHCRC7DCNCjEC5BC1EC8CC-FClECuECyECsEC0HCzEC8FC5GC9FCgHCsGCwCCgFC0CCgGCmCC8BCtFCmDCtGCl" ++
    "CCnCCgCCkCCyFCmEC9GCvCC2BCuJCsMhBuCFpDDUD8DDLDqETnFmBEkHDRD7DDNDjERF7FC2HC-GCtOClcB71BxBuCFt8BRwBuhN" ++
    "7BBMiBuCFUEnLELEREjHENE7DEjEUgEUTzPVSB5BD1ED8CD-FDlEDuEDyEDsEDzED8FD5GD9FDgHDsGDwCDgFD0CDgGDmCD8BDtF" ++
    "DmDDtGDlCD+ID7PD+QDmiBD8LDjGD+cDnCDgCDkCDyFDmED9GDvCD2BDtjBiBS-KVSF-GDvIUA4FjBpPA4FD7FD2HiBuuCBgCiB5" ++
    "qFBnCEgCEkCEyFiBiB5MViB5hB5MVSV+TD9OTT9OT1D+TyBiBuxC5MVyB5hBuxC5MVC9tDgBmrLBMhBuCFUDnLDLDRDNDjHD7DDj" ++
    "ETnFmBEtBSzPVRB5BC1EC8CC-FClECuECyECsEC0HCzEC8FC5GC9FCgHCsGCwCCgFC0CCgGCmCC8BCtFCmDCtGClCC+IC7PC+QC8" ++
    "LCjGC+cCnCCgCCkCCyFCmEC9GCvCC2BCtjBRFhfC3gBhBuuCBgCDkCDmEDvCxBS-KF2CE5CE9MEjDE-BE4DEpCEmBEtBEhcEoBE+" ++
    "cRF7FC2HRxiBVB9tDRV+TC9OST9OC+mDhE5MVAgKG+SGoGh0CIh0CG+SRq3L1jBC2jBwBqyB6-B9qJsJDw3CD+JD6iBD2BDwWDyr" ++
    "DD7mLD9mLD+mLD5mLD6mLCsrLCyrLC6rLChtDgC6hK4pF-2CB8BE5BEkCElCE0CEjGEyFElEE2BE8CE1EEvCEmDEuEEwCEgFEmCE" ++
    "tFEgCE6GEyEEMEREUENELE1gBE+pBUSwDF5CF6CFpCF-BFtBF6DF9MFlDjBxRyD1DEyDjBmlBrJoEzBxRyD1DSFSzBmlBrJoESUy" ++
    "D1DEyDV1DSFSTkgDyDjBrJoE4LzBkgDyD1DSFSjBk9CyD1DEyDTrJoEzBk9CyD1DSFSjBrJoESgBh-EBMCpDCUC8DCLCqESnFmBD" ++
    "kHDtBCRC7DCNCjEC5BC1EC8CC-FClECuECyECsEC0HCzEC8FC5GC9FCgHCsGCwCCgFC0CCgGCmCC8BCtFCmDCtGClCCnCCgCCkCC" ++
    "yFCmEC9GCvCC2BhBuCFpDDUD8DDLDqETnFmBEkHEtBDRD7DDNDjERFvIC7FC2HC-GCtOB3IRT3IR8PtIRviBjmHCkmHRyCoDCPCO" ++
    "CXCdChBCqBCyBCrBC3BR5EPCOCXCdChBCqBCyBCrBC3BC2DC+GC2LCnNCjIClOC9HCrPCrHhBk2B+lBVgBn-I5MVRV9ORB5BC1EC" ++
    "8CClECuECyECsECzECwCCgFC0CCmCC8BCtFCmDClCC+IC7PC+QCtEC8LCjGC+cCnCCgCCkCCmECvCC2BCMhBrgBB5BD1ED8CDlED" ++
    "uEDyEDsEDzEDwCDgFD0CDmCD8BDtFDmDDlCD+ID7PD+QDtED8LDjGDnCDgCDkCDmEDvCD2BDMhBuCFpDDUDLDRDNRF7FCvIwBy-I" ++
    "g2CBMDpDDUD8DDLDqEDRD7DDNDjED5BD1ED8CD-FDlEDuEDyEDsED0HDzED8FD5GD9FDgHDsGDwCDgFD0CDgGDmCD8BDtFDmDDtG" ++
    "DlCDnCDgCDkCDyFDmED9GDvCD2BDuJDtjBDz5CDghCiBuCFpDEUE8DELEqEUnFmBERE7DENEjESF7FD2HDqKDpPD61BC-GC9vKC1" ++
    "tKSyCoDDPDODXDdDhBDqBDyBDrBD3BwB9wHg2CBMDpDDUD8DDLDqEDzGD7DDiGDjEDnCDyFDmDDtGDlCD5BD1EDwCDgFDkCD8CD-" ++
    "FD0CDgGDmCDuEDyED8FD5GDuJDsED0HD9FDgHDlED8BDtFD2BDgCDvCiBuCFpDEUE8DELEqEEzGE7DEiGEjESF7FD2HC-GCpRSyC" ++
    "oDDPDODXDdDhBDqBDyBDrBD3BgBu+IB5BC8CClEC8BCmDClCCwCC0CCmCCuECsECzECnCCgCCkCCyFCvCCMBkxEhBuCFUDLDRDNB" ++
    "whKhBwHb4KgB78CB49MwBuc3MP54LDvkDD++GDy+BDv0CDogCSX0yCDopLSPnyDDmpLDnpLDkgCD1JSXoyDDxuBSP50BDmID8yHD" ++
    "9yHSX3PiBl7G20B-qIRF-hDC6mFC-qECylMCmoJCuuIC3hKCsnJC9mICngKCj8BCqoMCo-JC1uIC4oMhBr3MgvCFhBl0BgvCFRjy" ++
    "IFhBlVq7BFhBk8LhzBFS5EFRlzBFhBG1bFRwrLFRhxDFhBsFlnDFhBguLxIFRFkoJCkoMxBwGwHbrVgBivCFMTsBMExMUpN3GE2B" ++
    "E-JUqb2FE-YE+bC3wBC3VTsBoUUooB2FE7aUpN3GE2BU-J2FEq2BEySE-9BkCLwBLwBLD2FCjhBTsBinBUpN3GkB5IwB+FEluBE-" ++
    "OC-cC1mBTsBlekBi+BwBxOC4VTsB4VE6zBExOE2BEqqBEgME+HEmaC6vEC5NC-wBTsB+HCiITiCiITXsBzCwB4rBlZiIwB4rBF7H" ++
    "CixBCjyECyyETsBhOChzEC4zECpGTi2D3GT75C3GjEiCpGjaiCjajaiCja5OViCpG3CwIpGiCpGiCpGCoUClxBCmDCxMCk8ECsxB" ++
    "ChnBTiChnBCinBCvBC78ECmPTsBME2JU-J2FCzMjBiCzM3VFlaTwIzMChyBTiChyBCsUCuiFC0CC9nBjCpjBsBMwBubF-wBFinBF" ++
    "mPF8CWwBubFsLFxeFhRF2BFhqBWwB1KF0YFkCF1KWwBq-CF7WF7IlB5OwB5OFmLF-OlB3RwBxeFmaCitGC3vCC4vCCptGC2MC4wC" ++
    "CiiBTsB+HC6zBC7zBzBwSL2FhLChLCvOTiCvOD2FD2ZCliBTsBnWCw7GC-dCz7GC07GCm0BCooBD2FE2FC37GC+7GCRTsB5OjCiC" ++
    "RkGiCkGCniBzCsBMwB2BwB0CE2JEkJExZE+HELCy+GC6+GCqLC+FTsBpNF3GE5ITwI+FTlZ+FD7HCpzCCleCnWC10BTsBMVwB9UX" ++
    "sB9UEiIExMUooB2FG2FE2BF2FU-J2FEwSF7HEqfEkCkB9UsB9UEuNE1KE3REgNC8CD2FCmpBzCsBMwB0CwB2BG2BG-J0BjhB3GwB" ++
    "qXEiIEpGkBoUwB7aExMkBvBwBgCEsUVwBgCE0CE2MkBiiBsB+HEliBEqLVwBkCE+FlBsBpN3GUpN3GE2JEsLEqpBVwBMkBxewBjM" ++
    "kC2BwB1KwBnWE1iBVwBkCkBsJwBuNEi2BU-J2FkC02BwBsQwBpGE0YEwSEo3BVwB9UkBqfwBiIEkCkB5IwB+FEkJEkGViCkGE8BE" ++
    "xZEigBE+HVwB4lBEpuBEtgBE-OELEgNVwBvOTiCmpBCo1BTwIo1BCuWjCiCuW2JiC2JC7azCuWiCuW2JiC2JCorHCprHC9aCpND3" ++
    "GTiCpNTwIpNC2JCwrHC1rHCx1CTsBhOCsLTsBRELTwIsLCqpBTiCqpBTwIqpBCuuHCxeD2FC5uHzBsBMwB-JUpN3GE-JkB1KwB-J" ++
    "E8BC+uHCxOTwIxOTsBxME-OD3GCyOTwIyOCp2CTsB0YlBsB-J2FEkGkBxZwBjaD2FChRzBsBMwBhOEhOjBiChRprBCt2CCu2CTsB" ++
    "+HCvpBCv2CCmxHCnxHC2BD3GD2FC1iBCsJTsBpGEoUExMEhLEuWEp3BEkGE+HELCsQCi2BTsBiIE1iBEwSEm4BEgNC87HCUDMCm2" ++
    "BC04CjBiC04CsUF7HC34CC-JD4wCDkOzDiC-JruBiCruBgNiCgND2FC+gIjBsBpN3GC-gIC1WTsB-OTwI1WTlZ1WD7HCq2BCsFCh" ++
    "qBC02BC5BTsBME-cVwBqfEoUExMEinBEvBEmPEleEnWE8CE7aUpN3GE2J1BwBluBwBMEsLExekBxOwBigBVwIxOEyOEv2CE-JE1W" ++
    "E0YEgMEo3BEuNE1KE5IVwBvOGsLG1HEkJVwByjDE7IEkGE1GExLEvCEigBEmEE+HEpuBExQE8rDEhuDEvcELE3REgNkB9yDsB8BE" ++
    "maE2VC45CTwI45CC65CC85CCqqBClnIC95CTiC95CC0YjBsB-J2FC92BTsBxMTwI92BCtnICunICwSjDySsBLiCySsBLjEiCwSyS" ++
    "sBLiCySsBLCp6CCgMTsBxMELEgNCo3BCp3BCqrICrrICpjBTiCpjBCnMjEiCsJsBoUnMiCsJsBoUCqfC6tIT4LDC7tICq7CD2FCr" ++
    "7CChOTlZhOCujBC7uICkCCySTsBM1BwB0CwB2BG2JG9UE4VEiIkBpGi2D3GExMEmPE3vCE+FE8CE2JEhRVwBhRE2BE1iBkBsJsBk" ++
    "GU-J2FE1WVwB2BG1KEgMEp3BEqfEq7C1BwBsJwBMEySEm4BE1KEs4BE5IVwB+FE-YE7IkB+HwBtgBkCi+BwBxOwBleH3GEkcVwBk" ++
    "cEtgBEwlBE-OkD1HwBMwBjMwBmCELVwBMmBLwBLkB3RwBpGEgNEmaD7HCqbTsB+HVwBtgBD2F0BiCqb2F+HCxwIC9UTsB9UCxHTs" ++
    "BhOVwBxLCuNCy0IC80ICm4BC1KTsBxMCyjBTsB4VExMEnWF3GUpN3GkBsJsBxME1WE85CEqqBVwBpGEgMkBkCwBpGEySkB5IwB+F" ++
    "E7IEsIkBmLwBpGkB-rDwBzMEjaD3GTwIyjBTlZyjBD7HD2ZCsfCprBTiCprBTlZprBD2ZCr4BCs4BC7WTiC7WlB2JiC2JClCTsB-" ++
    "OD2FCv9ICi-CCn-CCubCq-CC5ICg5BCkJCxrBCqHTiCqHCt5BD2FC1nJC-nJC-YTsBMEhOEjGTiC-Y1BsBMwBmCTwI-YCjhDTsBM" ++
    "VwB2ME2MD2FCmCCshDC4rBD0EjBsBxQ3GTlZ4rBCvqJSwhD0jDCwhDCxhDC7ITsBMEgND2ZClITsBRClwJC1wJjBsBpN3G0B2JwB" ++
    "pN3GCq6BTsBiIEpGVwBpGEhR0B5IwBpN3GE7IEkGE+HlBwBMiIGpGXwBpGkB3RwBpGEmaC9wJCsIClsBCkGjBqbsB2JFubFxZmCi" ++
    "CkGqbsBxZFmaD3GTiCkGTwIkGlBqbiCqbCyjDjBjhBsBlxBFmPF-dFhRV-J2FFqqBFkCF7IFgsDF3RjBpjBsBmPGLC8BC6fCq7BC" ++
    "5OCgmDC1GTsBME3VEmPEzMEREUEm2BELE3RTwI1GC2mDTsB92BEgNEjGTlZ2mDCgCC5tKCkOCxLCvCS+b0jDC+bTsBMEvOEliBE2" ++
    "BE0YEhOE7WEkJEkGExZEpuBEqXE3RE3yDE8lBE5cEmaTiC+bD2FCxZjBySsBoUCl4KCigBCmECluBTsBMExMExOE7IEkcE4lBELV" ++
    "wBMCkrDC7kLCnVC+HDsQzDiC+HuWiCuW2JiC2J1CqXiCqX2JiC2JCvlLCwlLC-9BCzlLC0lLCpuBTsBME1WCtrDTsBMEhnBEhyBE" ++
    "7zBE2JE-JF2FEujBEs4BEt5BExZC9lLCruBD3GjCiCruBsUiCsUCi+BCxQjBiC0ExQCkcChnLCmLD2FC8rDCq+BjBiCq+BkcC-rD" ++
    "CgsDCjMTiCjMCrwLCswLChuDCtgBCuwLCivBC7wLCwCDmGTsBsJEkJD2FCqXzDiCqXlIiClIhLiChLD7HCwlBTsBmPEhRE+HExQE" ++
    "jaEgNC-OCvcC1HD2FC3ND3GCygCC1gCTsB-OTiC1gC1CuWiCuW2JiC2JCuKCjaCjyDC9vBC4lBjCiC4lBjGiCjGCLDhRTLLzDiCL" ++
    "8BiC8B2JiC2JlBivBiCivBlCLgEiCLgEC3RC3yDCgNDujBTsBxMEkJkCLwBLwBLJ2FD2FD2ZUsBxMCpjMC8lBTsBySkB5IwB0CEl" ++
    "uBELC9jMC9yDTsBwSE8BClaD2FC5cTwI5cD2ZC4hCzBsBMwB2BGmCE4VE2BEkGE3RVwBpGGmPC2kMC4kMC5kMCmzDTsBMElxBEvB" ++
    "Em0BE8CE7aUpN3GE2JEyOE2BE-JE1WE02BEgME7WExrBE8BE+HEq+BEuKkBLwBhREgNE-lBC-lBTsBLCmaTsBMEnMEhOE-OCjlMC" ++
    "glMCilMCmlMCxlMTsBwSCzlMCjGD3GjB7HsBhOCphNCthNC5hNC2VTiC2VC-iNCgjNT75C3GCkjNCj2DCnTCo2DTsBMC3jNC4jNS" ++
    "g6C3yCiB3VsBkGiBjhBsBMiB-wBsBiuIyC9nBpjBsB3RwBubC1sGiBhLwBxQiBliBsB+HiB10BsBhRE+HiDmpBsBiIwB0YwBMEoU" ++
    "CjsHC0uHCk8HiB5BsBixBE8zEExOEhRkBsJsBoUE7WE8BElnLEuKE4hCiBySsBsLyByjB2ZsBxMzBsBnWwB9UExQC8-CiBjhDsBj" ++
    "GCrqJCp6BC2wJiBq6BsBhnBEsLyBlsB8ErH1FSgmDmGCplKyB+bsB-J2FCz5LiB8lBsB5ISLLxBxjDFOpGTXpGTdpGThBpGTqBpG" ++
    "TyBpGTrBpGT3BpGTXhLTdhLThBhLTqBhLTyBhLTrBhLT3BhLTdLThBLTqBLTyBLTrBLT3BLTPvWTOvWTXvWTdvWThBvWTqBvWTyB" ++
    "vWTrBvWT3BvWTPziBTOziBTXziBTdziBThBziBTOnVTXnVV4LDTdnVThBnVTqBnVTyBnVTrBnVT3BnVTPqlBTOqlBTXqlBV4LDTd" ++
    "qlBThBqlBjCnVsB7awBhLHxrBTPyhBTOyhBTXyhBV4LDTdyhBThByhBzBX4LD-gHGghHzBd4LD18CG90IW18CMH4DzBqB4LD9zEz" ++
    "ByB4LDrhIWq2BMH4DzBrB4LDklMGllMzB3B4LD64CGghIGhhIW64CMjBOpG3GjBXpG3GjBdpG3GjBhBpG3GjBqBpG3GTPrhBTOrh" ++
    "BTXrhBTdrhBV4LDThBrhBV4LDDwwJDvwJTPqzCTOqzCjBP2RhLjBOsXhLjBhBpsDhLjCP2R4LDMjCOsX4LDMjBP1JpGUmIpGzBxF" ++
    "iqCPx+BGmIjBPmIvpBU0BvpBjB3yCP2RUOsXEnNEjIzBdL4LDzBhBL4LDzBqBL4LDzByBL4LDzBrBL4LDzB3BL4LDxCwGFxFiqC8" ++
    "P8dTnBqITrGqIEsxDEprKhCF3VsBkG3GEkciB-csBnWyBxMsBhL3GiBsxBsBjhBElIEjGiCzMiCzMsBshDiB0CsB-OiB9nBsBhOi"

/-- Packed names, a part. -/
def names9 : String :=
  "BiiBsB-JkBLLLiB6zBsBgNiB-dsBixBEpGVwKKE7zBEm0BEleE8CEsLUxe2FExOE2BEsJU-J2FEwSEhOEujBVwBwSE0wIExHVsBh" ++
    "OkBr4BwBxOEubEg5BEkJElIE1GE+HUmL2FiBniBsBhOE5OSle3DiBnWwInWyB10B2ZsBpGFsJV-J2FFkCF9UF5IFg5BFjMTsBjMi" ++
    "BmpBsBsxBUiiB2F0B-dsB-J2FGwSEpzCE8CkB2JwB2MG7IkB2BwBMkBujBwBwSExHVsBhOEr4BE-YE7IVwBniBGsLEtrDEj2DyBo" ++
    "1B8ErH1FiBx1CsBLiCxOsBxOwIxOyBp2CsB-J2FiChRwBxOsB-OiB2B3G2FiDsJsBpGiCsJsBpGiB5BsBzME5BkBLLLE5ciCySsB" ++
    "nTiCnTCzwIC1wIC2wIC3wIC17CC4wIC5wIyB27CiC27C2FC6wIiB37CiC37CC7wIC8wIC9wIC+wIC-wICgxIChxICixICjxICkxI" ++
    "ClxICmxICnxICoxICpxICqxICrxICsxICtxITsByOE-JkB5OwBsfmB5OwBsfkB3RwBmDCuxICvxICwxICxxICyxICzxIC0xIC1xI" ++
    "C2xIC3xIC4xITsBpGExMkBooB2F2FEqfEkCEvcE1HE3REgNE-lBC5xIC6xITsBliBE8CE-JF2FElIkC5OwB5OwBsfkB-9BwBgMEg" ++
    "NE-lBC8xIC9xIyByjB2FsBpGTsBhLE1iBE5O1BwB5OwBsfE-OiBkJwB81DiC-YiC-YsB8CG0YyBq6BsBiiB2FExOEt2CEsJEp6CE" ++
    "17CEubkB5OwB5OELVwBLE-lByB+b2FsB2BTsB+FkB+HwKKE-OSkrD3GiB+HiC+HTwBi2BExhDEigBiCkcwB-dsBlIkBniBsBiIiB" ++
    "mLsB-OiB-OwB+byB9vBsBpN3GUXhLS4hC0ETsBgNiBmzDsB4vCE7xIEsfC81DiCnTiCnTwBigBiCo2DsBXhL3GgBvpGF6qFC7qFC" ++
    "8qFC9qFC+qFC-qFCgrFChrFCirFCjrFCkrFClrFCmrFCnrFCorFCprFCqrFCrrFCsrFCtrFCurFCvrFCwrFCxrFCyrFCzrFC0rFC" ++
    "1rFC2rFC3rFC4rFC5rFC6rFC7rFC8rFC9rFC+rFC-rFCgsFChsFCisFCjsFCksFClsFCmsFCnsFCosFCpsFCqsFCrsFCssFCtsFC" ++
    "usFCvsFCwsFCxsFCysFCzsFC0sFC1sFC2sFC3sFC4sFC5sFC6sFC7sFC8sFC9sFC+sFC-sFCgtFChtFCitFCjtFCktFCltFCmtFC" ++
    "ntFCotFCptFCqtFCrtFCstFCttFCutFCvtFCwtFCxtFCytFCztFC0tFC1tFC2tFC3tFC4tFC5tFC6tFC7tFC8tFgB7+Gu3CnjCCo" ++
    "jCCpjCCqjCCrjCC+2DCsjCC-2DCg3DCtjCCujCCvjCCwjCCxjCCyjCCzjCC0jCCi3DC1jCC2jCC3jCCj3DC4jCC5jCC6jCC7jCC8" ++
    "jCC9jCC+jCC-jCCgkCChkCCikCCjkCCkkCClkCCmkCCm3DCnkCCokCCpkCCqkCCrkCCskCCtkCCukCCo3DCvkCCwkCCq3DCxkCCr" ++
    "3DCykCCzkCC0kCC1kCC2kCC3kCC4kCC5kCC6kCC7kCC8kCC9kCC+kCC-kCCglCChlCCilCCjlCCklCCllCCmlCCnlCColCCplCCq" ++
    "lCCrlCCslCCtlCCvqCCwqCCxqCCyqCCzqCCy1EC0qCC1qCC2qCC3qCCjjFCkjFCljFCmjFCnjFCojFCpjFCqjFCrjFCsjFCtjFCu" ++
    "jFCvjFCwjFCxjFCyjFCzjFC0jFC1jFC2jFC3jFC4jFC5jFC6jFC7jFC8jFC9jFC+jFC0pGC1pGC2pGC3pGC4pGC5pGC6pGC7pGC8" ++
    "pGC9pGC+pGC-pGCgqGChqGCiqGCjqGCkqGClqGCmqGCnqGCoqGCpqGCqqGCrqGCsqGCtqGCuqGCvqGCwqGCxqGCyqGCzqGC0qGC1" ++
    "qGC2qGC3qGC4qGC5qGC6qGC7qGC8qGC9qGC+qGC-qGCgrGChrGCirGCjrGCkrGClrGCmrGCnrGCorGCprGCqrGCrrGCsrGCtrGCu" ++
    "rGCvrGCwrGCxrGCyrGCzrGC0rGC1rGC2rGC3rGC4rGC5rGC6rGC7rGC8rGC9rGC+rGC-rGCgsGChsGCisGCjsGCksGClsGCmsGCn" ++
    "sGCosGCpsGCqsGCrsGCssGCtsGCusGCvsGC+8GC-8GCg9GCh9GCi9GCj9GCk9GCl9GCm9GCn9GCo9GCp9GCq9GCr9GCs9GCt9GCu" ++
    "9GCv9GCw9GCx9GCy9GCz9GC09GC19GC29GC39GC49GC59GC69GC79GC89GC99GC+9GC-9GCg+GCh+GCi+GCj+GCk+GCl+GCm+GCn" ++
    "+GCo+GCp+GCqiHCriHCsiHCtiHCuiHCviHCwiHCxiHCyiHCziHC0iHC1iHC2iHC3iHC4iHC5iHC6iHC7iHC8iHC9iHC+iHC-iHCg" ++
    "jHChjHCijHCjjHCkjHCljHCmjHCnjHCojHCpjHCqjHCrjHCsjHCtjHCujHCvjHCwjHCxjHCyjHCzjHC0jHC1jHC2jHC3jHC4jHC5" ++
    "jHC6jHC7jHC8jHC9jHC+jHC-jHCgkHChkHCikHCjkHCkkHClkHCmkHCnkHCokHCpkHCqkHCipHCjpHCkpHClpHCmpHCnpHCopHCp" ++
    "pHCqpHCrpHCspHCtpHCupHCvpHCwpHCxpHCypHCzpHC0pHC1pHC2pHC3pHC4pHC5pHC6pHC7pHC8pHC9pHC+pHC-pHCgqHChqHCi" ++
    "qHCjqHCkqHClqHCmqHCnqHCoqHCpqHCqqHCrqHCsqHCtqHCuqHCvqHCwqHCxqHCyqHCzqHC0qHC1qHC2qHC3qHC4qHC5qHC6qHC7" ++
    "qHC8qHC9qHC+qHC-qHCgrHChrHC6xHC7xHC8xHC9xHC+xHC-xHCgyHChyHCiyHCi+HCj+HCk+HCl+HCm+HCn+HCo+HCp+HCq+HCr" ++
    "+HCs+HCt+HCu+HCv+HCw+HCx+HCy+HCz+HC0+HCmmICnmIComICpmICqmICrmICsmICtmICxvICyvICzvIC0vIC1vIC2vIC3vIC4" ++
    "vIC5vIC6vICy9CC53IC63ICz9CC09CC73IC19CC29CC39CC49CC59CC69CC79CC83IC89CC99CC93IC+3IC-3ICg4ICh4ICi4ICj" ++
    "4ICk4IC+9CC-9CCg+CCl4ICh+CCm4ICi+CCn4ICj+CCk+CCl+CCm+CCn+CCo4ICo+CCp+CCp4ICq+CCr+CCs+CCt+CCq4ICu+CCv" ++
    "+CCw+CCr4ICx+CCy+CCs4ICt4ICz+CC0+CC1+CC2+CC3+CC4+CC5+CCu4IC6+CC7+CC8+CC9+CCyoJCzoJC0oJC1oJC2oJC3oJC4" ++
    "oJC5oJC6oJC7oJC8oJC9oJC+oJC-oJCgpJChpJCipJCjpJCkpJClpJCmpJCnpJCopJCppJCqpJCrpJCspJCtpJCupJCvpJCwpJCx" ++
    "pJCypJCzpJC0pJC1pJC2pJC3pJC4pJC5pJC6pJC7pJC8pJC9pJC+pJC-pJCgqJChqJCiqJCmyJCnyJCoyJCpyJCqyJCryJCsyJCt" ++
    "yJCuyJCvyJCwyJCxyJCyyJCzyJC0yJC1yJC2yJC3yJC4yJC5yJC6yJC7yJCg2JCh2JCi2JCj2JCk2JCl2JCm2JCn2JCo2JCp2JCq" ++
    "2JCr2JCs2JCt2JCu2JCv2JCw2JCx2JCy2JCz2JC02JC12JC22JC32JC42JC52JC05JC15JC25JC35JC45JC55JC65JC75JC85JC9" ++
    "5JC+5JC-5JCg6JCh6JCi6JCj6JCk6JCl6JCm6JCn6JCo6JCp6JCq6JCr6JCs6JCt6JCu6JCv6JCw6JCx6JCy6JCz6JC06JC16JC2" ++
    "6JC36JC46JC56JC66JC76JC86JC96JC+6JC-6JCg7JCh7JCi7JCj7JCk7JCl7JCm7JCn7JCo7JCp7JCq7JCr7JCs7JCt7JCu7JCv" ++
    "7JCw7JCx7JCy7JCz7JC07JC17JC27JC37JC47JC57JC67JC77JC87JC97JC+7JC4+JC5+JC6+JC7+JC8+JC9+JC++JC-+JCg-JCh" ++
    "-JCi-JCj-JCk-JC5pKC6pKC7pKC8pKC9pKC+pKC-pKCwsKCxsKCysKCzsKC0sKC1sKC2sKC3sKC4sKC5sKC6sKC7sKC8sKC9sKC+" ++
    "sKC-sKCgtKChtKCitKCjtKCktKCltKCmtKCntKCotKCptKCqtKCrtKCstKCttKCutKCvtKCwtKCxtKCo1KCp1KCq1KCr1KCs1KCt" ++
    "1KCu1KCv1KCw1KCx1KCy1KCz1KC01KC11KC21KC31KC41KC51KC61KC71KC81KC91KC+1KC-1KCg2KCh2KCi2KCj2KCk2KCl2KCm" ++
    "2KCn2KCo2KCp2KCq2KCr2KCs2KCt2KCu2KCv2KCw2KCx2KCy2KCz2KC02KC12KC22KC32KC42KC52KC62KC72KC82KC92KCqzLCr" ++
    "zLCszLCtzLCuzLCvzLCwzLCxzLCyzLCzzLC0zLC1zLC2zLC3zLC4zLC5zLC6zLC7zLC8zLC9zLC+zLC-zLCg0LCh0LCi0LCj0LCk" ++
    "0LCl0LCm0LCn0LCo0LCp0LCq0LCr0LCs0LCt0LCu0LCv0LCw0LCx0LCy0LCz0LC00LC10LCzhMC0hMC1hMC2hMC3hMC4hMC5hMC6" ++
    "hMC7hMC8hMC9hMC+hMC-hMCgiMChiMCiiMCjiMCkiMCliMCmiMCniMCoiMCpiMCqiMCriMCsiMCtiMCuiMCviMCwiMCxiMCyiMCz" ++
    "iMC0iMC1iMC2iMC3iMC4iMC5iMC6iMC7iMC8iMC9iMC+iMC-iMCgjMChjMC0lMC1lMC2lMC3lMC4lMC5lMC6lMC7lMC8lMC9lMC+" ++
    "lMC-lMCgmMChmMCimMCjmMCkmMClmMCmmMCnmMComMCpmMCqmMCrmMCsmMCtmMCumMCvmMCwmMCxmMCymMCzmMC0mMC1mMC2mMC3" ++
    "mMC4mMC5mMC6mMC7mMC8mMC9mMC+mMC-mMCgnMChnMCinMCjnMCknMClnMCmnMCnnMConMCpnMCqnMCrnMCsnMCtnMCunMCvnMCw" ++
    "nMCxnMCynMCznMC0nMC1nMC2nMC3nMC4nMC5nMC6nMC7nMC8nMC9nMC+nMC-nMCgoMC90MC+0MC-0MCg1MCh1MCi1MCj1MCk1MCl" ++
    "1MCm1MCn1MCo1MCp1MCq1MCr1MCs1MCt1MCu1MCv1MCw1MCx1MCy1MCz1MC01MC11MC21MC31MC41MC51MC61MC71MC81MCv5MCw" ++
    "5MCx5MCy5MCz5MC05MC15MC25MC35MC45MC55MC65MCs7MCt7MCu7MCv7MCw7MCx7MCy7MCz7MC07MC--MCggNChgNCigNCjgNCk" ++
    "gNClgNCmgNCngNCogNCpgNCqgNCrgNCsgNCtgNCugNCvgNCwgNCxgNCygNCzgNC0gNC1gNC2gNC3gNC4gNC5gNC6gNC7gNC8gNC9" ++
    "gNC+gNC-gNCghNChhNCihNCjhNCkhNClhNCmhNCnhNCypECzpEC0pEC1pEC2pEC3pEC4pEC5pEC6pEC7pEC8pEC9pEC+pEC-pECg" ++
    "qEChqECiqECjqECkqEClqECmqECnqECoqECpqECqqECrqECsqECtqECuqECvqECwqECxqECyqECzqESnBkbSsCkbyBriIwK4GnXU" ++
    "oInXU4GwHUoIwHSjLlBS3X19BSwH19BgB+wEu3CnjCCojCCpjCCqjCCrjCCsjCCtjCCujCCvjCCwjCCh3DCxjCCyjCCzjCC0jCC1" ++
    "jCC2jCC3jCC4jCC5jCC6jCC7jCC8jCC9jCC+jCC-jCCgkCCk3DChkCCikCCjkCCkkCClkCCmkCCnkCCokCCpkCCqkCCrkCCskCCt" ++
    "kCCn3DCukCCvkCCp3DCwkCCxkCCykCCzkCC0kCC1kCCs3DCt3DC2kCC3kCC4kCC5kCC6kCC7kCC8kCC9kCC+kCC-kCCglCChlCCi" ++
    "lCCjlCCklCCllCCmlCCnlCColCCplCCu3DCv3DCw3DCqlCCrlCCslCCtlCCx3DCy3DCz3DC03DC13DC23DC33DC43DC53DC63DC7" ++
    "3DC83DC93DC+3DC-3DCg4DCh4DCi4DCj4DCk4DCl4DCm4DCn4DCo4DCp4DCq4DCr4DCs4DCt4DCu4DCv4DCw4DCy4DCz4DC04DC1" ++
    "4DC24DC34DC44DC54DC64DC74DC84DC94DC+4DC-4DCg5DCh5DCi5DCj5DCk5DCl5DCm5DCn5DCo5DCp5DCq5DCr5DCs5DCt5DCu" ++
    "5DCv5DCw5DCx5DCy5DCz5DC15DC25DC35DC45DC55DC65DC75DC85DC95DC+5DC-5DCg6DCi6DCj6DCk6DCl6DCm6DCn6DCo6DCp" ++
    "6DCq6DCr6DCs6DCt6DCu6DCv6DCw6DCx6DCy6DCz6DC06DC16DC26DC36DC46DC56DC66DC76DC86DC96DC+6DC-6DCg7DCh7DCi" ++
    "7DCj7DCk7DCl7DCm7DCn7DCo7DCp7DCq7DCr7DCs7DCt7DCu7DCv7DCw7DCx7DCy7DCz7DC07DC17DC27DC37DC47DC57DC67DC7" ++
    "7DC87DC97DC+7DC-7DCg8DCh8DCi8DCj8DCk8DCl8DCm8DCn8DCo8DCp8DCq8DCr8DCs8DCt8DCu8DCv8DCw8DCx8DCy8DCz8DC0" ++
    "8DC18DC28DC38DC48DC58DC68DC78DC88DC98DC+8DC-8DCg9DCh9DCi9DCj9DCk9DCl9DCm9DCn9DCo9DCp9DCq9DCr9DCs9DCt" ++
    "9DCu9DCv9DCw9DCx9DCy9DCz9DC09DC19DC29DC39DC49DC59DC69DC79DC89DC99DC+9DC-9DCg+DCh+DCi+DCj+DCk+DCl+DCm" ++
    "+DCn+DCo+DCp+DCq+DCr+DCs+DCt+DCu+DCv+DCw+DCx+DCy+DCz+DC0+DC1+DC2+DC3+DC4+DC5+DC6+DC7+DC8+DC9+DC++DC-" ++
    "+DCg-DCh-DCi-DCj-DCk-DCl-DCm-DCn-DCo-DCp-DCq-DCr-DCs-DCt-DCu-DCv-DCw-DCx-DCy-DCz-DC0-DC1-DC3-DCulCCv" ++
    "lCCwlCCxlCCylCCzlCC0lCC1lCC4-DC2lCC3lCC4lCC5lCC7-DC6lCC7lCC8lCC9lCC+lCC-lCCgmCChmCCimCCjmCCkmCClmCCm" ++
    "mCCnmCComCCpmCC--DCqmCCrmCChgECigECjgECsmCCtmCCumCCvmCCkgEClgECmgECwmCCxmCCymCCzmCC0mCC1mCC2mCC3mCC4" ++
    "mCC5mCC6mCC7mCC8mCC9mCC+mCC-mCCgnCChnCCinCCjnCCknCClnCCmnCCngECnnCConCCpnCCqnCCrnCCogECsnCCtnCCunCCv" ++
    "nCCpgECwnCCxnCCynCCqgECrgECsgECtgECugECvgECwgECxgECygECzgEC0gEC1gEC2gEyB3gEgCvDkOC4gEC5gEC6gEC7gEC8g" ++
    "EC9gEC+gEC-gECghEChhECihESjhErBCkhEClhECmhECnhECohECphECqhECshECuhECwhECyhEC0hEC2hEC4hEC6hEC8hEyB+hE" ++
    "3XxjBVyBgiEwHxjBVChiECjiECliECniECpiECriECtiECviECxiECyiECziEC0iEC1iEC2iEC3iEC4iEC5iEC6iEC7iEC8iEC9i" ++
    "EC+iEC-iECgjEChjECijECjjECkjECljECmjECnjECojECpjECqjECrjECsjECtjECujECvjECwjECxjECyjECzjEC0jEC1jEC2j" ++
    "EC3jEC4jEC5jEC6jEC7jEC8jEC9jEC+jEC-jECgkEChkECikECjkECkkEClkECmkECnkECokECpkECqkECrkECskECtkECukECvk" ++
    "ECwkECxkECykECzkEC0kEC1kEC2kEC3kEC4kEC5kEC6kEC7kEC8kEC9kEC+kEC-kECglEChlECznCC0nCC1nCC2nCC3nCC4nCCil" ++
    "EC5nCC6nCC7nCC8nCC9nCC+nCCjlEC-nCCgoCCklECllECmlEChoCCioCCnlECjoCCkoCCloCCmoCCnoCCooCCpoCCqoCgC7qCB1" ++
    "jKxiDvbT-rHp0CjBj8Bvb1mDF0mDTyfvbDinLT3wDvbT66BvbjB8lL8BjkBzBj8B8BjkB1mDG0mDD59ITuKy4BD7tJD89ID8+IDo" ++
    "oJDxiLD11JDopIDiyJDjvBDlvJDmyITg4B4qBTjsBhiJD39IDshKDguHDkgKTybtiDT74Jh5BjBL9iCuhDD-tHTjsBrjDD-oLDti" ++
    "JD9hJDlmJDmnIT8B+3BT1f+3BDljKD79IDywJD3nDDr-LD92ID6qLDz3LD+9IDnbDmsJDnuIDkmJDmnLDh2IDsmHD1yKDotID9qL" ++
    "T0jBxkKD-lLDjsBjBl+Bx6Bz1DTgkD9lJDn-JDkjDDtkMDi6BDg-CD+iDDt-CD46BDlwDD8+BD+kDDpjDDx4BDvQD2nIDw6BDnaD" ++
    "1KD-5BDzhDDpgJS2jKo1JTuK69IDjoLT6TuKTh9CksBT3jB49ID5qIDy9MDogJDsnIDuiKTo8M+3BjBxHx6BnsBT01J4lLT7rBhx" ++
    "JDiuHD4mDTuKqjDTrrDjxJD3lLTvbmwDT54BngJTvQksBDrpIDhuHDupIDiwIDphKDzqMTkvJlhDTquJ84BDh5MDw3KD90LD+hJD" ++
    "0uJEvEDmiJDguDDsgJDjmJDr3JD+oKTh5BpuJD5lHDzgJD3aDkpITlCmxJE2xJDg4BDriDDj1JDlCDlrIDm6BiB3jKxiDy4BD66B" ++
    "Dz1DDy2MDi6BDqsJD+uJD7tHDqgJD7rHjB53J8kJggDT41J54BDv-CDrlKD2sJTufhkFDtpID6tHDnpITyH3nJDv4JDxgJDk1JD5" ++
    "4BDx9MDltIDpqBD69BDvsJD-0LDjjDT3wDr-MD-vLTuuJnsBD0qMD5qJTlClpIDrjDDzuJD53BDugJDuiJDy1JD03LDxuJD30CDr" ++
    "sJDi1JDl1JDniFDyqMDrgJDxLDr6BDxHDt6LTv1Jm6BDkxJDnbDl6BDg-CDwgJD1KD4qBD+iDDm6BDo5MDwuJDs1JDx1JTy3BkjD" ++
    "Du1JD5hDTlCqjDD-gBD65BDjnLDviLD44BDy4BDt-CDspIDtgJDq6CTufukKD11DD-iDDmgDDghDDurDTljBk8CEnlHD9tJDzhDD" ++
    "n1IDymDD8fDxcS4jKygJD8zDDjkBDvbDpxJDp0IDnxJDm1JDmuJDnsBDg5MDnvJDnuBD9uJDmpIDy3LD1lLDixJDguDDnbDm8MDm" ++
    "uIDwqDDkiJDssJDw+IDh5BDwiLDrmBDlxJTppIvgJDhvJDuKD41CDpvJD4lHD75BD2iJD2zID3sJD+lJDyiJDtpKD0iJDniJD7WD" ++
    "q1JDufD3uID46BDlwDD8+BD11DDq6CD8tKD52LDgvJDiiJDr1JDqpIDzmDDrjKDh4JDg4BDriDDliJD3uJDw-MD5OD01DD5hDDks" ++
    "BD9vLDr7CDsuJDjvJDkyDDggDDruIDt1JDx3LD99IDnuJD3zIDyuJDx6BDjjDD61CDnMTxtBxFD9-BD+wDDvQD8tBDn8CD+4BDpC" ++
    "DjvBDqHDquBDsrDD8qBDsIDxQDy6BDiXDlIDl+BDipKDlhDDnrBTxtBs5BD3NDtjDTufyBDr4KD6oBS5jK65BDx7LDv-CD53BD-r" ++
    "MDq2IDwsBD7sDDquKDp1JD7sJDv8BDtcDwiDDntID00DDgcDtiDD+kDD0gBDy3BDh9CDpjDD1iDDx4BDivJDrvJDn1JD0xKD-iDD" ++
    "siKD-tBD2uJDhgDDkuHD-uJD9iDD0jBDi9CDouJDzsJTj1LksBD6TD6oKT5rBzqLTvuJnsBD69MDjuHDq-LDu9MDyNDx-LDjpID+" ++
    "vLDmwDDxqMDs3MD33BDuRD+0LD2tHDiuJD2lLDxiJDrrBDr4JDkyJD9rHD9vBDguID+0DTvQqqFD6iCDjiJDusJDwkKDs-MD1zID" ++
    "30CD+rHDovJDnbD-+CD8uJD+tHD6GD61JDqjKDw9MDruJTvQ7ND+4JD1mKDmgDDuoHDuhDDghDD61CTtWUDpoJD1oKDmvJD4qBDz" ++
    "kKDjsBDv9MD1uJT8B5lDTtWoyBDg1BDikBDMD+wDDNDUDnyIT8BjmKDrcD51LjB5rBqhD8iBDurDDz9MDvvJDo-MT8iCpxLE-yBD" ++
    "9iCDu-MDr6CD27BTikBwgHD2nDDtiCD3aDnaD1KDkJDi9BD+fDwvJDlED8TDl+BTtW2vKDmCD1GDnrBDpKD9WDlCDm-CDw3LDgMD" ++
    "ybD2DDjlHDouHS6jK5BDLDnMDzGD8kBD9-BDvQDkCD8tBDlpDD+4BDrcD5rBDr6BDpCDjvBDquBDmLD69BD8qBDnbDujDDsIDijD" ++
    "D8iCDxQDnCDw6BD27BDy6BDtiCDiXDxLDlIDi9BDljBDyiDDhkBD8TDv8BDg1BDtEDuNDnrBDpKDu-CDxtBDlCDuLDufDxcDsjBD" ++
    "uqDDs0MgB+mJBwCC9rBCuICwrBCmDC0CCMCrKCv6CCszHC9sGC2nBC0oICpkDCx4BCp6BC8BCiGCNC5JCmgBCh4LCp0BCtECRCpK" ++
    "C77CCkCC3yHCkOC+2LRyCoDCPCOCXCdChBCqBCyBCrBC3BB3IRT3IgB11LB3+JCr8JCg7BCvsBCuqCCwmBCohBCrqCC70MC0oMCn" ++
    "sMC10MCqiBCoiBCxgHC3oBCtjICn2BCy2BCk5CCwlMC-vBC1kMCtlMCt1ECq1ECs1ECqqCC7jMCzjMC1jMC6jMSS9MS1D5yDS6F6" ++
    "yDDqqCCrjMC6yDCvjMC5yDC5jMC2jMC3jMC4jMCvoJCw-CC5mJCroJC5BC1EC8CClECvCCnCCtEC8BCzECtFCmDClCCmCC2BCkCC" ++
    "j4CCwCC0CCgCC3fCmECuEC+IC-FCz7HCgFC9PC6GCgGCyECjGRyCoDCPCOCXCdChBCqBCyBCrBC3BwBshBqzDB9-GD5BDyLD6GDq" ++
    "rBDp1DDg1CDwwGDjtIDyTDp8HDtEDmTDt1BDmMD8VDslMDYDmDD7cDi9MD8BDo2MDMDNDiGDLDzGDRDUiBmH+DyDT-CyDTwbyDT2" ++
    "2IyDTm2HyDS5FoEwBz-J43CuC2oID5oID2qIDtrIDioIDloID-tIDzuID1oIDvpIDnnIDqnID2sID5sIDnoIDpoID9tID+tIDusI" ++
    "DgtID0qID1qID65CDmoID5uID8uID7mIDinIS-KxoMD31JDtyID-2CD8yJDwuKDhyJDvqKD58MDx2HD+-IDrnFDksJDu4HD7lKDz" ++
    "1JD+qJDjED95MDrlFiBV2hBs-LEsKEipIE4pIEgwLEv5HEh2LiBFimB04LUs+LpmFT2hBvnFTimBp4LEulHTh7M81JE4JE97LE4k" ++
    "HTimB75KT1-C8vLTimB10JTm2B80DD+5MjB2hBx+Lq9BSyCoDDPDODXDdDhBDqBDyBDrBD3BS5EhgCDk2BT2DhaDxbT1BxbT2D1-" ++
    "ED88LiBFimB+2IDk7MD-1BTu4L-1BTr2D83LD+4HDo0JDk6MD51JDkdTygMqmFT1-Cq+LD2NDv2IDhoJjC2hB5yHq3IsjDsjDU4o" ++
    "Gu+LEzgMFppFU2oKvtGUu0J47LiBsuCFt+LEh9MEo1IEvyIEl7MErjBE5zHEmnJEz4LEp+LEwjKExpIEgzHEjoME8kHExiCE0+LE" ++
    "6uIE00MwBz-CEBpCDoBD7CD6DDmqCDtDDj7CDwDD6CD2CDwEDUD5CDMDiEDRD4DDrDDLDyHDtBDkFD7pBD6jDD3DDjDDjHD-BDmB" ++
    "DND7DDlDhBCBpCDoBD7CD6DDmqCDtDDj7CDwDD6CD2CDwEDUD5CDMDiEDRD4DDrDDLDyHDtBDkFD7pBD6jDD3DDjDDjHD-BDmBDN" ++
    "D7DDlDRyCoDCPCOCXCdChBCqBCyBCrBC3BR5E2DCnSC3QC-ZCrYCvTCoVC0ZClWChZxByCP+KDiBO+KDiBX+KDB-ER5FoERgBvvE"

/-- Packed names, a part. -/
def names10 : String :=
  "R9JokBgBzjJB8BCmDSoJ8BC7sBClCCigDSvMlCC6GCyFC3qMCwCC0CSoJ8FDwCC8FC9FCmCC3fSoJsGSvMmCCsGCozJCkCCu3IC3" ++
    "YCk0IC4gCCqyGC26LCryGC5BC8CSoJ5BCrMCsqKClECviDSvMlEC2BC9PC-FCv1BCy+LC28GCzEC+jDC7PCmiBSoJ7PDmiBS-8B7" ++
    "PCmEC9GC8LC2jNC+IC+QSoJ+ICvCCjGC1jNC1wBC5kNSvM1wBCglNC6kNCtEC6RCyWCuhFCxxLC18GC1HC2QC3zKxBF-K6IvBRB4" ++
    "5BRFhqCS-8B3zDDhqChBuCFMDpDDlvEDiID7RDNDiGD9KD6DDRD+FDoSD18JDUD+pBDt4CD1+HDx2BD-ND8DD-iBDt2BDLD1gBDi" ++
    "jMDjjMDqEDtjMDokMDlDDoJDnID1oCD0oBTkV0oBDtPTkVtPD7DDkWDjEDmZD-BD9MDvkMDt-MD48JD08JDy0MD34CDp0BD5iIDh" ++
    "wBRyDIS4GICJCQRBtVCtXC1cCuVCyvBC+gCCzvBS-8B1lBDtVD1cDuVDyvBDzvBgBxvD8UVgBn3J8UVwBxFjuCeVS8UVwB8pIC3K" ++
    "rWgC-qM+K7uKVuEE6vJQxvD2uFB3uFB4uFB5uFB6uFB7uFB8uFB9uFB+uFB-uFBgvFBhvFBivFBjvFBkvFBlvFBmvFBnvFBovFBp" ++
    "vFBqvFBrvFBsvFBtvFBuvFBvvFBwvFBxvFByvFBzvFB0vFB1vFB2vFB3vFB4vFB5vFB6vFB7vFB8vFB9vFB+vFB-vFBgwFBhwFBi" ++
    "wFBjwFBkwFBlwFBmwFBnwFBowFBpwFBqwFBrwFBswFBtwFBuwFBvwFBwwFBxwFBywFBzwFB0wFB1wFB2wFB3wFB4wFB5wFB6wFB7" ++
    "wFB8wFB9wFB+wFB-wFBgxFBhxFBixFBjxFBkxFBlxFBmxFBnxFBoxFBpxFBqxFBrxFBsxFBtxFBuxFBvxFBwxFBxxFByxFBzxFB0" ++
    "xFB1xFB2xFB3xFB4xFB5xFB6xFB7xFB8xFB9xFB+xFB-xFBgyFBhyFBiyFBjyFBkyFBlyFBmyFBnyFBoyFBpyFBqyFBryFBsyFBt" ++
    "yFBuyFBvyFBwyFBxyFByyFBzyFB0yFB1yFB2yFB3yFB4yFB5yFB6yFB7yFB8yFB9yFB+yFB-yFBgzFBhzFBizFBjzFBkzFBlzFBm" ++
    "zFBnzFBozFBpzFBqzFBrzFBszFBtzFBuzFBvzFBwzFBxzFByzFBzzFB0zFB1zFB2zFB3zFB4zFB5zFB6zFB7zFB8zFB9zFB+zFB-" ++
    "zFBg0FBh0FBi0FBj0FBk0FBl0FBm0FBn0FBo0FBp0FBq0FBr0FBs0FBt0FBu0FBv0FBw0FBx0FBy0FBz0FB00FB10FB20FB30FB4" ++
    "0FB50FB60FB70FB80FB90FB+0FB-0FBg1FBh1FBi1FBj1FBk1FBl1FBm1FBn1FBo1FBp1FBq1FBr1FBs1FBt1FBu1FBv1FBw1FBx" ++
    "1FBy1FBz1FB01FB11FB21FB31FB41FB51FB61FB71FB81FB91FB+1FB-1FBg2FBh2FBi2FBj2FBk2FBl2FBm2FBn2FBo2FBp2FBq" ++
    "2FBr2FBs2FBt2FBu2FBv2FBw2FBx2FBy2FBz2FB02FB12FB22FB32FB42FB52FB62FB72FB82FB92FB+2FB-2FBg3FBh3FBi3FBj" ++
    "3FBk3FBl3FBm3FBn3FBo3FBp3FBq3FBr3FBs3FBt3FBu3FBv3FBw3FBx3FBy3FBz3FB03FB13FB23FB33FB43FB53FB63FB73FB8" ++
    "3FB93FB+3FB-3FBg4FBh4FBi4FBj4FBk4FBl4FBm4FBn4FBo4FBp4FBq4FBr4FBs4FBt4FBu4FBv4FBw4FBx4FBy4FBz4FB04FB1" ++
    "4FB24FB34FB44FB54FB64FB74FB84FB94FB+4FB-4FBg5FBh5FBi5FBj5FBk5FBl5FBm5FBn5FBo5FBp5FBq5FBr5FBs5FBt5FBu" ++
    "5FBv5FBw5FBx5FBy5FBz5FB05FB15FB25FB35FB45FB55FB65FB75FB85FB95FB+5FB-5FBg6FBh6FBi6FBj6FBk6FBl6FBm6FBn" ++
    "6FBo6FBp6FBq6FBr6FBs6FBt6FBu6FBv6FBw6FBx6FBy6FBz6FB06FB16FB26FB36FB46FB56FB66FB76FB86FB96FB+6FB-6FBg" ++
    "7FBh7FBi7FBj7FBk7FBl7FBm7FBn7FBo7FBp7FBq7FBr7FBs7FBt7FBu7FBv7FBw7FBx7FBy7FBz7FB07FB17FB27FB37FB47FB5" ++
    "7FB67FB77FB87FB97FB+7FB-7FBg8FBh8FBi8FBj8FBk8FBl8FBm8FBn8FBo8FBp8FBq8FBr8FBs8FBt8FBu8FBv8FBw8FBx8FBy" ++
    "8FBz8FB08FB18FB28FB38FB48FB58FB68FB78FB88FB98FB+8FB-8FBg9FBh9FBi9FBj9FBk9FBl9FBm9FBn9FBo9FBp9FBq9FBr" ++
    "9FBs9FBt9FBu9FBv9FBw9FBx9FBy9FBz9FB09FB19FB29FB39FB49FB59FB69FB79FB89FB99FB+9FB-9FBg+FBh+FBi+FBj+FBk" ++
    "+FBl+FBm+FBn+FBo+FBp+FBq+FBr+FBs+FBt+FBu+FBv+FBw+FBx+FBy+FBz+FB0+FB1+FB2+FB3+FB4+FB5+FB6+FB7+FB8+FB9" ++
    "+FB++FB-+FBg-FBh-FBi-FBj-FBk-FBl-FBm-FBn-FBo-FBp-FBq-FBr-FBs-FBt-FBu-FBv-FBw-FBx-FBy-FBz-FB0-FB1-FB2" ++
    "-FB3-FB4-FB5-FB6-FB7-FB8-FB9-FB+-FB--FBggGBhgGBigGBjgGBkgGBlgGBmgGBngGBogGBpgGBqgGBrgGBsgGBtgGBugGBv" ++
    "gGBwgGBxgGBygGBzgGB0gGB1gGB2gGB3gGB4gGB5gGB6gGB7gGB8gGB9gGB+gGB-gGBghGBhhGBihGBjhGBkhGBlhGBmhGBnhGBo" ++
    "hGBphGBqhGBrhGBshGBthGBuhGBvhGBwhGBxhGByhGBzhGB0hGB1hGB2hGB3hGB4hGB5hGB6hGB7hGB8hGB9hGB+hGB-hGBgiGBh" ++
    "iGBiiGBjiGBkiGBliGBmiGBniGBoiGBpiGBqiGBriGBsiGBtiGBuiGBviGBwiGBxiGByiGBziGB0iGB1iGB2iGB3iGB4iGB5iGB6" ++
    "iGB7iGB8iGB9iGB+iGB-iGBgjGBhjGBijGBjjGBkjGBljGBmjGBnjGBojGBpjGBqjGBrjGBsjGBtjGBujGBvjGBwjGBxjGByjGBz" ++
    "jGB0jGB1jGB2jGB3jGB4jGB5jGB6jGB7jGB8jGB9jGB+jGB-jGBgkGBhkGBikGBjkGBkkGBlkGBmkGBnkGBokGBpkGBqkGBrkGBs" ++
    "kGBtkGBukGBvkGBwkGBxkGBykGBzkGB0kGB1kGB2kGB3kGB4kGB5kGB6kGB7kGB8kGB9kGB+kGB-kGBglGBhlGBilGBjlGBklGBl" ++
    "lGBmlGBnlGBolGBplGBqlGBrlGBslGBtlGBulGBvlGBwlGBxlGBylGBzlGB0lGB1lGB2lGB3lGB4lGB5lGB6lGB7lGB8lGB9lGB+" ++
    "lGB-lGBgmGBhmGBimGBjmGBkmGBlmGBmmGBnmGBomGBpmGBqmGBrmGBsmGBtmGBumGBvmGBwmGBxmGBymGBzmGB0mGB1mGwBzTBz" ++
    "kJtVDtXD1cDuVD+gCDzvBT8qJ1lBEtVEtXE1cEuVE+gCEzvBSvMRwB2eBvMjPgBn3CB32DC42DC52DC92DCv9HCw9HCx9HCy9HCn" ++
    "hMCohMCphMCqhMCrhMC48GC58GC68GC78GC88GCo5JCp5JCq5JCvmICymICzmIC0mIC1mIC2mIC3mIC4mIC5mICwmICxmIC6mICs" ++
    "qICtqICuqICvqICwqICxqICyqICzqICztIC0tIC1tIC2tIC3tIC4tIC5tICuoICvoICwoICxoICyoICzoICosICpsICqsICrsIC+" ++
    "2KCmqDC-2KCg3KCh3KCi3KCj3KCk3KC4nLC5nLC6nLC7nLC8nLC9nLC0vLC1vLC2vLC3vLC4vLC5vLC6vLC7vLCu5KCv5KCw5KCx" ++
    "5KCy5KCoqLCpqLCqqLCrqLCsqLCtqLCuqLC20LCpvDC30LC40LCs5LCt5LCu5LCv5LCw5LCx5LCy5LCl-LCm-LCn-LCo-LCp-LCo" ++
    "2LC6vDCp2LCq2LCr2LCs2LCt2LCu2LCv2LC46LC56LC66LC76LC86LC96LC+6LCjqJCrhDCkqJClqJCmqJCnqJCoqJCpqJCqqJC9" ++
    "vJC+vJC-vJCgwJChwJCiwJCjwJCkwJC91JC+1JC-1JChtJC8hDCitJCjtJCktJCltJCmtJCrzJCszJCtzJCuzJCvzJCjyHCmyHCn" ++
    "yHCoyHCpyHCqyHCryHCsyHCtyHCkyHClyHCy1HCz1HC01HC11HC21HC31HC41HC07HC17HC27HCh0HCi0HCj0HCk0HCl0HCm0HCn" ++
    "0HCi5HCj5HCk5HCl5HCm5HCn5HCo5HCp5HCo9ICp9ICq9ICr9ICs9ICt9ICu9ICsjJCtjJCujJCvjJCwjJCxjJCyjJChnJCinJCj" ++
    "nJCknJC2gJC3gJC4gJCglJChlJCilJCjlJCklJCllJC17MC27MC37MC47MC57MC60DC++MC-+MCg-MCh-MCk+MCl+MCm+MCn+MCo" ++
    "+MCp+MCytKCsoDCztKC0tKCzwKC0wKC1wKC2wKC3wKC4wKC5wKC5zKC6zKC7zKC8zKC9zKC+zKC3uKC4uKC5uKC6uKClyKCmyKCn" ++
    "yKCoyKCpyKCqyKC91MC+1MC-1MCg2MCh2MCy3MCz3MC03MC13MC23MC+2MC-2MCg3MCh3MCk4MCl4MCm4MCn4MCo4MCp4MCq4MCw" ++
    "oJCxoJwB2eBvMiUwBzTBvMoJDjPDiUwB2eBC6LDmKD9KwBzTBC6LDmKD9KD-BgB77GB9CC3DCwDC6CCwEC5CCtBC4DCjDC7CC2CC" ++
    "mBSwD-BSjDoBSwE-BS5CpCSmBoBC9ZSnc2wCC2wCCxqBSnciECu2HCj4BCwwKCpCC-BCiECoBSpC-BS-BpCSiEpCSoBiEiBpCAWi" ++
    "B-BAWiBiEAW0B+B6MGJiBoBAWFQSpCoBS-BoBSiEoBSoBoBiBpC-BoBiB-BpCoBiBiEpCoBiBoBiEoByBiEoBAWD-BEoBSoB6CEm" ++
    "BDwDEmBS6CoBTmBoBC6DCv3MS6DmBSoB-BDpCiB5CmBoBiB2CmBoBSoB5CEmBCMSncukBCnkBCNC-xECUCRC-NS6FUChwBCzGSnc" ++
    "zUS4pDUSnczGS1DUCjPCLCoWCviCSL-BS1DLS4pDLCzhCSncLCq9JCukBCmZCtEC9KC6LCm0DC44MS0hDLDNDUDMS-iKiIDmUSnc" ++
    "+FDiID6ESnFpCxB1uEKsCzZiBwbsCzZiBIsCzZiB-CnBzZiBwbnBzZiB+DnBzZSjdzZTwjBzZDwvDDuFTReTUeTwvDeS+DgDTxgC" ++
    "gDDxET1DxEDWD9BDkED5LDnBS-CgDTxgCgDDxET1DxEDWD9BDkED5LDnBDHxBFNAnGhBq4LB39BRTVxBwGqoF5FoEwBzmL2nHBl7" ++
    "BSmnGl7BSzBn-BSpBn-BgEujNmHV0iBiZoBxS6EKjCiZoBxS6EKjBohC6EKzB0iBiZ6EKjBiZ6EKjBttD6EKzBtb4S6EKjB4S6EK" ++
    "jB8gB6EKzCtb4SoBof6EKjC4SoBof6EKjC8gBoBof6EKzC0iBiZoBxS6EIjCiZoBxS6EIjBohC6EIzB0iBiZ6EIjBiZ6EIjBttD6" ++
    "EIzBtb4S6EIjB4S6EIjB8gB6EIzCtb4SoBof6EIjC4SoBof6EIjC8gBoBof6EIjBohCoBxSzBtb4SoBxSjBr-Btb4SjB4SoBxSEr" ++
    "-BjB8gBoBxSjBtb4Sr-BT0iB8gBD7hND6EDxuKDuvBD2gFDojMDpmKDg2IDquIDjnID+hNDtpLD1uKjB2qB6EKyB9gC68BV7mJFk" ++
    "xLFx8LSV+1DTvwC+1DDq+JDinDkBAnBfD7tCEwmKDl8JT8sDojDDh7LDq8GiB00EnBtkDiBVrTtkDD2qByB3C9gC68BxYhB8nK6I" ++
    "4zID5zIT-wCl0CD2qBDq9BRytJwtID0wDCihKiBm8G7C1nFC56CCvhNC4tDToBt8JC6iKDgkByB4tDA8sDojDC-tCC6-JCpaSxvH" ++
    "3gFD0wDD9mJDlxLDy8LSosMjtBDr5BD8ZD3vBTpbjtBEr5BE8ZE3vBSTpaSgE-tCCxvGCzpIC7tCCinDStsDr5BD8ZD3vBDuvBSv" ++
    "wC56CiBtsDpb8ZD66CTpbuvBTn0BjtBE8ZEgkBEpbCgqLToBihBDshNToBxSC2qBCq9BC5aCvsICtjNC0tDToBihBExSkBihBUxS" ++
    "kBxSUihBDrhNUoBihBToByyKUr8GxhNkBihBUomKCvmKS0tDgkBSs-BjtBD8mJDxtIDymKDhtBDgkBDisID66CTuvBrpKDn0BDp8" ++
    "GD8xCTn0BpbT8xCpbzBtpBAnEpazBupBAnEpaDtpBDupBkBATpaDn2CEhtBC6gJDknKDksIDjsIDhsISs-Bj+LDk+LDl+LCl+JD8" ++
    "ZD3vBTp7C8ZTpb8ZEgkBSs-Bp7CEhtB0BtpBAnEpa0BupBAnEpaEtpBEupBlBATpaEn2CFhtBEi+LChuICm8JCy7GCrtJC7hKwBk" ++
    "tCoRgB-DDstGDvGT7kDuoBEyaTrzDuoBEyaDhoID4yLDu7BD6+MEyaDutITvpCuoBTz0BuoBD8vDDmjBD0pCEyaDyyLDw4LTrkDw" ++
    "MT01BwMDwoKDjnFDwoMT12BwMTtqBwMTmjBwMD44KDkhKT1tDkyET0+JwMTroMwMTypCwMDmyEDyqBDtwKTomDwMDj6LDgxED5qD" ++
    "TnvDwMU1hJluLT8kDwMDnwDDmzIDpoBD08LDlgCDrtIjBvpCz0B3JTtewMDphIT5vBwMT-nI5vBD2lDD0nDDg7CTkuCwMDpuKTt7" ++
    "BwMTu7BwMD4+HDyhDDmjKTg7C9wBT5vB9wBDyuLDvwHT12B3JTrkD3JT7kD3JDnjKD-sIDojKDstIT2lD3JjBmjB3J1XjBtqB3J1" ++
    "XD8+MT0pC3JjBzpCxyL3JD7+MDttIDl-GDinFTnkJ12BTrzD3JTomD3JT0nD3JD+8JD7xEDx3ITu7B3JTt7B3JTszCt7BDsvID6x" ++
    "ET5vB3JDk-GTnvD3JD3yLTkuC3JDvgHT5qD3JTr6MyqBDn9LDtoKDl9LDm9LDuoKDo9LDvoKD3vHD8pCTszC8pCT8kD3JTi4LhhH" ++
    "Ez0BTnwDxpCjBm4LifnyEDgoID7-GT39MmbE1XD1tDTyqB1XTyawMTqtIwME9wBE3JTypC3JD6mBDyaD+8LDv3LDx3BjBp8C+-Gm" ++
    "uCUpoBwyBU98LwyBUr3LwyBUshImuCjB01B3J1XUrlD9pCF0wCDjxGkBrlD9pCmbG1XF0wCD48LD9yEDnhID3wGjBgvEjnD7pCE+" ++
    "yEE7pCE6hJEzhJEh2CE4vHUjnDh2CjBp-CznDiRkBipCznDiRU1wCiRkBipC1wCiRUg9LiRE38LUiwDiRVo8CiRUo8CiRU6mDiRj" ++
    "BhjI+vDv4CjBzpC+vDv4CTglHt3LE2gDE6wCjBp-CtoMiRUpoKiRkB6mDiwDiRjB7vH-BxpCFvxGzB2-Gifte5zDDohIDqhIzBte" ++
    "wM+vG5+HU4zB8BFyhDU6qJiRU4zB2MkBzuB5wG2MU4zB-LFmTVlImbG1XkBv+I1nB6wCG2gDzB8lHzuB1nBszDzBtezuB1nBvyLE" ++
    "stJT9oFkkNEgsIErrLzBteUtwBhwDU1-G5xETtwBwxDT5wCwxDEhwDkB6mBpoBiYkB3gDlgCiYkB8wC3oBiYkBtxDokDiYzBtwB6" ++
    "mBpoBiYkB3gDlgCiYkB8wC3oBiYkBtxDokDiYTvsH5wCEtwBjB4wG6mBmkJFghJEyaEpwDTroLpwDFjxCFvxDFkwDEwzEFjxCFvx" ++
    "DFkwDTkxG4sHThxGmZDo-BTizE8BE5zDE8CE2ME-LEmTElIjBmjB3J9-CjBtqB3J9-CjBmjB3JmbjBtqB3JmbTyqBmbjB01B3Jmb" ++
    "wBoRgBnEmdSTmdSSmdiBwLSmdS9QmdS6FmdiBK9kBFiBI9kBFS9kB+BSmQ3qDS0C5kFC3qDCiuFS7vK+lHD-lHDgmHC7zCDQS7sC" ++
    "VCmkFCjhFC4BSh9J4ZSvgM4ZS74L4ZS8nH4ZSymH4ZSipL4ZSkpL10CS+nH10CS2CvdUh7B3mBFshBSrDvdSwEvdUh7B3mBFshBS" ++
    "kiBrqFDsqFiBnRvf0NSTlgBDseSsepBDzBS2hDpBDzBSlgBpBDzBiBmIyDlgBEseSvuF0gCSnzB0gCSh7B3mBDshBSzrK3mBDshB" ++
    "SvnJ0NSoiC0NS0B0NSmI0NS1J0NSpgB0NSogC0NSy+B0NyBP1BpyD0NS3D1SSwB1SiB9B3D1SiB7B1ScEZyB4C1SpBcFZUKcFZUI" ++
    "cFZUzBcFZkBpBIcGZiBgK1ScEZyB18L1SzBcFZS0G1SS5rM1SS1SZSz6B1SiB4qF1ScEZCoFSoiCqMS0BqMSmIqMS1JqMSpgBqMS" ++
    "ogCqMSy+BqMyBP1BpyDqMSmHoXTgsLoXDoxDDpxDDqxDSlmHoxDDpxDDqxDiBmH60EWD3mHD4mHD5mHD6mHD7mHS3XmrCSwHmrCS" ++
    "3XzgBSwHzgBS3XysDSwHysDS3XmmDSwHmmDSmHlHD1tLDo3LD0tLDk-IDl-ID2tED12ISqzEpBDzBSmH2yGD5xKDl0CDhqLDnnBT" ++
    "T2cToG2cC2xKCjwLCtDCrkKCgiJC5nHCqoGC8uGiBj2CqM+OU8G+OCg8LCthCS0EthCSthC+ODpBS4FivLDlvLDmvLDnvLDovLDp" ++
    "vLDqvLDrvLDsvLDjvLDkvLC4zHCntJiBwHbsuLSgoB+OiBmHzBrdTpBrdDyzHTlqLwlKSylDVTpBViB0BylDVSkvHpBDzBSAmmHC" ++
    "ktGDlhBCggJCp4BC8sCS8qDcDZCsgDDZS9qDcDZS0oHcDZiBp4B3sB0NTr2B0NS8sC0NS8qD0NSsgD0NS9qD0NiCl3L7iKhvCunD" ++
    "3sBGr2BW3sB9wCzBvhIhvCunD3sBGr2BH9wCHqxGHrxGCtoGiBtwHrDvdTwEvdS7B4DCqrMCnmKCxqFC0qDCtqFC-wDC5mKDj0CS" ++
    "0qDj0CS-wDnwKSjjKowLiB7qIrDvdjBwHbtZTSqMThvKVToiCqMT0BqMzBmIqMoXzBGpBzB1JqMoXzBGpBTseFC-qLC8sIwBoK1r" ++
    "MkZyuDD6uDD9xLD9uDD+uDDryLDkvDDlvDDsyLDzxLDzuDD0uDD1uDD2uDD0xLD1xLD3uDD4uDD5uDD2xLD3xLD4xLD7uDD8uDD-" ++
    "uDDgvDDhvDDivDDjvDhBsiIkZyuDD6uDD9uDD+uDDkvDDlvDDzuDD0uDD1uDD2uDD3uDD4uDD5uDD7uDD8uDD5xLD6xLD7xLD8xL" ++
    "D+xLD-xLDgyLDhyLDiyLDjyLDkyLDlyLDmyLDnyLDoyLDpyLDqyLD-uDDgvDDhvDDivDDjvDwBmHoKoRuxDDjwDD4lDgBoKoRp8C" ++
    "gBigJjVoDCPCOCXCdChBCqBCyBCrBC3BC2DCnSC3QC-ZCrYCvTCoVC0ZClWChZgBwfnHqQwB7wCnHu0HqQSj2BqQSu+G2pBDj2BC" ++
    "qQgBu3LnHpFS5F9BC3kJCg9ESm6CCCqnGC6zEC-6BSqhF4OiB-uGvD8xGC-xGC2+MCs2BCxiKC4oDCxdS3e+RChiCCo0CCpuEC0v" ++
    "KCjwKCv+GC72BCknGC4-GCk8GCnnFC6uGS-IkwKCs-JCizICyqFCkrICp1BC7uLClpKCwoHCiwKiBk8CvDolJChpDiBuvHY2-CC3" ++
    "-GCxuLCswHC8-GCtlDC9xKCinHiBuoMvD52MCinGCvfCw0BCskMCpxGS3HiMC2wHSp1BsFC3-IC6tECx-GCj7GC+zDCyoLC94CCy" ++
    "wCC6vCCsxGC7hHC0iLCuuLCwzHC4yBC0qFC6kHC-uEC0uFiB6EtH7oMC-wGCnwIC7nHgChoGxyK+lByCPEOEXEdEhBEqBEyBErBE" ++
    "3BiBhgCyCPEOEXEdEhBEqBEyBErBE3BwBvPuvDVPDODXDdDhBgBuvDVPChBwBtf-IEMD4DDrDDjDDRDwED2CD9CDUDiED5CDtBDp" ++
    "CD-BDNDwDDkFDmBDoBD6CDLD7CD6DD3DDlDDtDSCMD4DDrDDjDDRDwED2CD9CDUDiED5CDtBDpCD-BDNDwDDkFDmBDoBD6CDLD7C" ++
    "D6DD3DDlDDtDhBxTEMD4DDrDDjDDRDwED2CD9CDUDiED5CDtBDpCD-BDNDwDDkFDmBDoBD6CDLD7CD6DD3DDlDDtDSCMD4DDrDDj" ++
    "DDRDwED2CDUDiED5CDtBDpCD-BDNDwDDkFDmBDoBD6CDLD7CD6DD3DDlDDtDxB-IxTEME4DErDEjDEREwEE2CE9CEUEiEE5CEtBE" ++
    "pCE-BENEwDEkFEmBEoBE6CELE7CE6DE3DElDEtDTCME4DErDEjDEREwEE2CE9CEUEiEE5CEtBEpCE-BENEwDEkFEmBEoBE6CELE7" ++
    "CE6DE3DElDEtDhB3KEMDrDDjDD2CDiED5CD-BDNDwDDkFDoBD6CDLD7CD6DD3DDlDDtDSCMD4DDrDDjDDwED9CDUDiED5CDtBDpC" ++
    "D-BDwDDkFDmBDoBD6CDLD7CD6DD3DDlDDtDxB-I3KEME4DErDEjDEREwEE2CE9CEUEiEE5CEtBEpCE-BENEwDEkFEmBEoBE6CELE" ++
    "7CE6DE3DElDEtDTCME4DErDEjDEREwEE2CE9CEUEiEE5CEtBEpCE-BENEwDEkFEmBEoBE6CELE7CE6DE3DElDEtDhBy0CEMD4DDj" ++
    "DDRDwED2CDiED5CDtBDpCD-BDNDwDDkFDoBD6CDLD7CD6DD3DDlDSCMD4DDrDDjDDRDwED2CD9CDUDiED5CDtBDpCD-BDNDwDDkF" ++
    "DmBDoBD6CDLD7CD6DD3DDlDDtDhBsTEMD4DDjDDRDwED2CDUDiED5CDtBDpCDNDoBD6CDLD7CD6DD3DDlDSCMD4DDrDDjDDRDwED" ++
    "2CD9CDUDiED5CDtBDpCD-BDNDwDDkFDmBDoBD6CDLD7CD6DD3DDlDDtDxB-Iy0CEME4DErDEjDEREwEE2CE9CEUEiEE5CEtBEpCE" ++
    "-BENEwDEkFEmBEoBE6CELE7CE6DE3DElDEtDTCME4DErDEjDEREwEE2CE9CEUEiEE5CEtBEpCE-BENEwDEkFEmBEoBE6CELE7CE6" ++
    "DE3DElDEtDhBlLEMD4DDrDDjDDRDwED2CD9CDUDiED5CDtBDpCD-BDNDwDDkFDmBDoBD6CDLD7CD6DD3DDlDDtDSCMD4DDrDDjDD" ++
    "RDwED2CD9CDUDiED5CDtBDpCD-BDNDwDDkFDmBDoBD6CDLD7CD6DD3DDlDDtDiB-IEME4DErDEjDEREwEE2CE9CEUEiEE5CEtBEp" ++
    "CE-BENEwDEkFEmBEoBE6CELE7CE6DE3DElDEtDTCME4DErDEjDEREwEE2CE9CEUEiEE5CEtBEpCE-BENEwDEkFEmBEoBE6CELE7C" ++
    "E6DE3DElDEtDiBxTEME4DErDEjDEREwEE2CE9CEUEiEE5CEtBEpCE-BENEwDEkFEmBEoBE6CELE7CE6DE3DElDEtDTCME4DErDEj" ++
    "DEREwEE2CE9CEUEiEE5CEtBEpCE-BENEwDEkFEmBEoBE6CELE7CE6DE3DElDEtDyB-IxTEMF4DFrDFjDFRFwEF2CF9CFUFiEF5CF" ++
    "tBFpCF-BFNFwDFkFFmBFoBF6CFLF7CF6DF3DFlDFtDUCMF4DFrDFjDFRFwEF2CF9CFUFiEF5CFtBFpCF-BFNFwDFkFFmBFoBF6CF" ++
    "LF7CF6DF3DFlDFtDhB4gDEMD4DDrDDjDDRDwED2CD9CDUDiED5CDtBDpCD-BDNDwDDkFDmBDoBD6CDLD7CD6DD3DDlDDtDSCMD4D"

/-- Packed names, a part. -/
def names11 : String :=
  "DrDDjDDRDwED2CD9CDUDiED5CDtBDpCD-BDNDwDDkFDmBDoBD6CDLD7CD6DD3DDlDDtDxBxTCpQUEiEhB-IEhIDyMDrLDlMD8JD5" ++
    "RD9LDtKD0IDsNDtQDqHDsID+PDxND1GD4JTtKgBDkKD2NDxJDrKDyKDjODsHCzfSChIDyMDrLDlMD8JD5RD9LDtKD0IDsNDtQDqH" ++
    "DsID+PDxND1GD4JTSkKDkKD2NDxJDrKDyKDjODsHSrZ5dS8JgBStKgBSsNgBSrKgBS4JgBS1GgBhBxTEhIDyMDrLDlMD8JD5RD9L" ++
    "DtKD0IDsNDtQDqHDsID+PDxND1GD4JTtKgBDkKD2NDxJDrKDyKDjODsHCzfSChIDyMDrLDlMD8JD5RD9LDtKD0IDsNDtQDqHDsID" ++
    "+PDxND1GD4JTSkKDkKD2NDxJDrKDyKDjODsHSrZ5dS8JgBStKgBSsNgBSrKgBS4JgBS1GgBxB-IxTEhIEyMErLElME8JE5RE9LEt" ++
    "KE0IEsNEtQEqHEsIE+PExNE1GE4JUtKgBEkKE2NExJErKEyKEjOEsHDzfTChIEyMErLElME8JE5RE9LEtKE0IEsNEtQEqHEsIE+P" ++
    "ExNE1GE4JUSkKEkKE2NExJErKEyKEjOEsHTrZ5dT8JgBTtKgBTsNgBTrKgBT4JgBT1GgBxBlL-IEhIEyMErLElME8JE5RE9LEtKE" ++
    "0IEsNEtQEqHEsIE+PExNE1GE4JUtKgBEkKE2NExJErKEyKEjOEsHDzfTChIEyMErLElME8JE5RE9LEtKE0IEsNEtQEqHEsIE+PEx" ++
    "NE1GE4JUSkKEkKE2NExJErKEyKEjOEsHTrZ5dT8JgBTtKgBTsNgBTrKgBT4JgBT1GgBjBxTEhIFyMFrLFlMF8JF5RF9LFtKF0IFs" ++
    "NFtQFqHFsIF+PFxNF1GF4JVtKgBFkKF2NFxJFrKFyKFjOFsHEzfUChIFyMFrLFlMF8JF5RF9LFtKF0IFsNFtQFqHFsIF+PFxNF1G" ++
    "F4JVSkKFkKF2NFxJFrKFyKFjOFsHUrZ5dU8JgBUtKgBUsNgBUrKgBU4JgBU1GgBhB-IE7dSC7dSyCoDDPDODXDdDhBDqBDyBDrBD" ++
    "3BhBsTyCoDDPDODXDdDhBDqBDyBDrBD3BhBlLyCoDDPDODXDdDhBDqBDyBDrBD3BiB-IyCoDEPEOEXEdEhBEqBEyBErBE3BhB4gD" ++
    "yCoDDPDODXDdDhBDqBDyBDrBD3BgBnoLhJoCR9NoCR-aoCR2iBoCR4MoCRtSoChBhJoC2IhB9NoC2IhChJxDuXoC2IiBoCiK0qBD" ++
    "1dDzOE-ChB9NoCy3ChBhJoClBhB9NoClBxBhJoClB2IUiKt3BEzOjBpBlBzOjBzOlBpBTlB0MVoC2IVlB2IF1dFzOE8QxB9NoClB" ++
    "8QhChJlB2IiCoCyBoC2IiClBTlBxDxB9NoClBxDxChJoClB7KxD2IkB2IxD7KUxD2I0BzOzRxDjKjCpBlBzOxDjKH0MjCzOlBpBx" ++
    "DjKjClBpBzRxDoNUxD1dFvFF4eFzOiCxD7NoClB7KiCoClB0MxDjKH0MH2IiClBxD4eoCpBiCoCxD4elBpBjClB0MzOxDjKkB8Qx" ++
    "DjKkB0MxDoNlB1dxDoNiClBxD1doCpBiCoCxD1dlBpBiClBxDvFoCpBGzOyCoCxD4mB4OlBpBlBsFlBpBkBvFlBpBzBlBxD0MzOV" ++
    "4mB4OF4mByClBxD4mB4OoCpBH8QVoCpBiCoCxD4elBzOhB0pBd0KE2IEzOE0MFptDxBypBd0K0MhChJd0K0M2IxB4Md0K0MxB0pB" ++
    "hB0KzRyBhbhB0KzRiChB0KzRd2IyChbhB0KzRd2IyBhB0KzR2IiChbhB0KzR2IiChB0KzRxDoNxB-ahB0KzRFuDhC4MhB0KzRuDx" ++
    "B2iBhB0KzRhC0pBhB0KzRzOWxDjKW8GxDB0pBiB7NvkB0kHChbSxDjKiBhbxDjKSxD2IDoNyBptDoCxDjKDpFUxDjKG2IDqFBypB" ++
    "SxDjKS8GxDSxDoNR0ekvCB0eR-auDB-aiBuDxDjKSxDjKiBuD8GxDS8GxDiBuDxDoNSxDoNRzpBuDBzpBB9NB2iBSxDjKS8GxDSx" ++
    "DoNR4MuDTxDoNB4MCCiBuDxDjKSxDjKiBuD8GxDS8GxDyBxDjKixDoCjB7NlBzCBtSxBhJoClBzCxB9NoClBzCxB4MoClBzCxBtS" ++
    "oClBzCR4MqFhChJoClBzC2IF0MhC4MoClBzC0MhBhJqFzBU6xK7KFrTUp+JvFDpByBxDuXqFpBhB9NqFpBhB2iBqFpBhBtSqFpBx" ++
    "BhJqFiK0qBD2IT77LxDDxDhB4MqFxDxBhJqFoCxDxB4MqFoCxDhDtSqFoCxDoCxD4OGxDhBhJqFoChB9NqFoChB4MqFoChBtSqFo" ++
    "CxBhJoClBqFxB9NoClBqFxB4MoClBqFCzCxBtSoClBqFhChJoClBnGqFhC9NoClBnGqFhBhJzCzBhD4MzCzBoCxDelBhDtSzCzBl" ++
    "BxDoCnGhBhJzCpBTiK0qBDqFhB9NzCqFhB2iBzCqFhBtSzCqFhBhJzClBE0MUiKt3BDoCDxDhB0ezCxDxBhJoCzCqFxB9NoCzCqF" ++
    "hCzpBoCzCqF6EhC0eoCzCqF4OFsFFuXxB-aoCzCqFxB4MoCzCqFhCtSoCzCqF4OEqFhBhJlBzBR4MlBhBhJlBpBhB9NlBpBxBhJl" ++
    "BiK0qBjBpBxDjKhB0elBxDxBhJlBxDqFDqFTzCqFxB9NlBzCqFhCzpBlBzCqF6ExB-alBzCqFxB4MlBzCqFhCtSlBzCqF4OFsFEq" ++
    "FhC9NlBzCqF2IhCypBlBzCqF0MGjKxC0elBzCqF0M4OGsFF0MhB4MoCzOxBhJoCxDjKxB4MoCxDjKxChJoCxDjKxDrGG0MG2IVoC" ++
    "2IV0sC2IVoCy3CkBoNoC7KG2IEeEkvCkBkNxD6MxCypBoCxDkNxD6MxChJoCxDkNxDuXE9BhB-aoCxDEuDxB4MoCxDuDEvEDxDEC" ++
    "xBtSoCxD4OEsFDxDRhJxDDhbTjKrGE0ME2IDoNjB7NoClBUlBzCUzCqFjBuXO0KjBiCO0KjBuXX0KUd0KzBiCdiKt3BBhJChbR67" ++
    "LnECnRC7NRnwHnECnRC7NR-uLnECnRC7NR+xBnECnRC7NR-pDnECnRC7NRouD7-BC7NhBrtDvEnESCnESvEnRSCnRCjuBhBk0CvE" ++
    "nESCnESvEnRSCnRCjuBhBrtDk0CiNxB0mJpBzBvEECDjuBSzBjuByBpBzBiNvEFCyBjKYjKjgBhB0SqYxdhBzSqYxdxB0SnE7KCE" ++
    "hDEvEE5WTjT2UST7KTjT2UDiNUjT2UCnGiBoG7K+YTjT2UDiNUjT2USnnBCDhDDvESrICDhDDvED6pDSkSCDhDDvES0JCDhDDvES" ++
    "qaCDhDDvESxlDCDhDDvEhBu8LklBnEDTDiNSjlBnEDTDiNCmuBiBphB1uBnEETEoGhBzmJpqCCDhDDvED5WSkxDCDhDDvED5WiB7" ++
    "NpqCCEhDEvEE5WTkxDCEhDEvEE5WxBzSnE7KCEhDEvEE5WTjT2UST7KTjT2UDiNUjT2UCnGiBoG7K+YTjT2UTiN+YUjT2UCnnBSr" ++
    "ICDhDDvECkSS0JCDhDDvESqaCDhDDvESxlDCDhDDvEhBt8LjlBnEDTDiNSklBnEDTDiNCmuBxB0SkNmICEhDEvEE5WT42CCEhDEv" ++
    "EE5WjB94L9BCFhDS6eCDhDDvESvNCDhDDvETCTyB5LkNTCFhDFvEUoGCFhDFvEiBkNzc7KiBrTnGCEhDRklBnECTC+KR0SmuByBk" ++
    "NzIsYgUyB6ezIsYgUyBvNzIsYgUyB5LzIsYgUhCklBnEzIsYgUyBTzIsYgUyBiNzIsYgUxB0SkNzIwaiB6ezIwaiBvNzIwaiB5Lz" ++
    "IwaxBklBnEzIwaiBTzIwaiBiNzIwahC0S5LrGy7BCFhDFvEhCzSkNzI9VCFvEiC6ezI9VCTVvETVCoGVvEoGiCvNzI9VCnEVvEnE" ++
    "VCTVvETyB5LzI9VCFvExBjlBnEzI9ViBTzI9ViBiNzI9VhCzSkNzI3UCFvEiC6ezI3UCTVvETlBoGCoGWvEoGiCvNzI3UCnEVvEn" ++
    "EVCTVvETyB5LzI3UCFvExBjlBnEzI3UiBTzI3UiBiNzI3UhBzSkNCDhDDvED5WDsuFS6eCSvNCS5L0uBDCDvERjlBnECTCiNhBzS" ++
    "muBqZhC0SphB9BCnEUhDnEUCTUhDThDzSphB9BzIgUCnEWhDnEWvEnEWCTWhDTWvEThC0SjT9BsYnEFTxCzSjT9BzIgUnEGTxB0S" ++
    "qY6QnEETxCzSqY6QzIgUnEGThBv8GrECDvECllHCxsDCigCC8oDCsoLDiNiB1hHo+J0gCC-vHB5MCzxKS0S7KDg6LSzS7KS0SkNS" ++
    "zSkNS+Y9BxC6B-wC9sB4foNvvBlBpBvDzBIvvBhBxzC7KpBDvLDzBxBp7GxzCvLzBTzBvLTpBvLTvLpBR0nHvLCxdC9cR+LuDCns" ++
    "LC3HhBpWmgFnEDnRhB+L0BuDSlmBuDS0B3HS53M+YRpWg4MRoiHpBCzBCn0CR00B7KDTDiNRyzC7KDTDiNR00BrTRyzCrTR00Bpu" ++
    "CR9tC5oKCvLC-tDhBigC9tC+DDlBD-CBoyCR4fvLCxdCy0DC63MhB6wBqsC4OSqwLsFiBpgFC7pDiBpwLC7pDR7sChiIC6hHhBiM" ++
    "3HvLDoNDxdC3+BD9cDuDC20CD9cDuDSuD9BDoND9cDj7BE9cEh1DD8bE9cEh1DCwqBDoND9cCigCDoND-tDhBrb1nKxvBxBl4B3C" ++
    "iCsDiBsDiC3CRiMzdSy0DnEDTxB2c3tD4OklHSo0IrbiB1Q7NrbjBixD6MiMiB6MiM8oDiB1mJ8uEunFiBpF3tD4OT6MiMB72LC+" ++
    "YS6E2cE+YDrbE+YShgFrbR0Sp5CRzSp5CB9hDB+aB5hHhBtuB5iB1rLD8mKxBt2MtuB5iB+gDxBjnHtuB5iB+gDxBtuBvvBxIs2M" ++
    "hB37L7K8uLSrTnnBR27LtgMxCsDtsCvvBxI5iBllIR10IruFCozICpzICqzICrzICszICtzICuzIBqYR41I1LR31I1LRo4Bx0HCm" ++
    "mBCwvGS5M9hDC17LS20IixGB-ER5FoEB9SBqIB0GRrQvgDCwgDCxgDCygDCzgDR6pDvgDCwgDCxgDCygDCzgDC1lJC2lJC3lJCul" ++
    "JCvlJCwlJCxlJCylJCzlJC0lJgD3FCB40BqJA78LjBgE3K2ChCBCE0D2CxBCBgE5CxCBCEtBAoTxCCBi4BA2GezB0DlDAoTTgEoS" ++
    "zD0DmBA1DiOG2GezC6CAeG2GexCB2GqTA2GexCCBmNATvBXGoLzB0D6CAoLxCB0ErJoEAoLyBu-BrDAoLyBCE0D5ChCCBtBA4ajC" ++
    "ioBqJAmJezCtBAoTGmJezBoSAmJejC0DmBAmJezCmBA4aGmJejCqvBqJAmJezBqWAmJejCioBqJA2GezCUAfG2GezBNA2GejCqvB" ++
    "qJA2GezBrDA2GejBoBAoLwBmH91CBpxBDgyBD7hCDz1BDi0BD5iCDjjCDhjCD+eTiB+eDUDg0BD82BDn4BD8jBD55BD86BDg8BDp" ++
    "9BD2+BDuhCD1hCDk1BD91BDn+BD3cD1hBDmEDjUDswBD0iCDyHTCpJDuIjB8eCpJTiQpJjB8eiQpJD5agCy3J0oK43CBlCE+IEw1" ++
    "JEwCE2BEmCE9PEgyJEuEEkCEvCEjGEjsJE21JE5BE0CEzEEv6BEyFE71JExgME6GEgCErMEnCEn0JE8BE40DEl0JEloBEm0JEkDE" ++
    "ugDE7sBE8CEsMEMEpDEUELENEiGEREzGE6DDo7LDs7LDr7LDu7LDt7LDq7LDp7LjBFnH6OFs4LFo4BFwxEF0iIUviCviCToOjrBT" ++
    "yCoDEPEOEXEdEhBEqBEyBErBE3BTxjBt3JTvFuEgB57LB8BCmDCwCC0CC5BC8CClCCmCClECvCCyECnCCtECsEC2BCgCCkCCUSwh" ++
    "BUC-iBSwhB-iBCLCRSwhBRCpiBSwhBpiBCNCnISwhBnICMhBFxRyDgBv2MBpDCMCmDCuEC0CC8CCnCCtFCkCCmCC8BCwCCgFC6GC" ++
    "vCCmECsECjGCtECyFC5BCNCjECgCClCC1EC2BCRCUClECLCx1IC+ICghCCwkDC4qEC7RCt2BC6EC+FCsoCCzECujMC+9MRyDlyDC" ++
    "4-LCu3BCysIRyCoDCPCOCXCdChBCqBCyBCrBC3BRzvJFgB2oBoOr1HCx1HCv1HCs1HCu1HCt1HCw1HSw2Ct3CCq1HCp1HCo1HSw2" ++
    "C2rBDmhDDqoDDpoDDooDDitCDhtCD7qBDt7CD6qBD12CD02CDz2CD+0CD90CDktBD4nDgCphJgrIoOy9CgMTz9C5BT09CnMTj5Ik" ++
    "3BTh6I-LTu5IrjBTy4IpKT18I8tIT19C6LT29CtET39CiUTg7IlwBT46ImKT06IomBTv4I9KTk9Ii5MTx7Im0DT-4Ir5MTz4Ip5M" ++
    "Tt7Iq5MT49CxrBT59ChMT69CznJT94I9WTg6IybT87IhhDT-8IonJT79CmPT89CmDT99CzMT47IndTj6IlPTp6IvsCTs7IhST+9C" ++
    "UT-9CMTg+CLTl8IzGTm6IRTn8IiGT17INTr7IkWTl7IsFTp7IsFTl9IiIT08I+FTk+CmLTl+CvCTm+CjMTk8IgcT26IyLTq7ItlB" ++
    "Tx5IsKTm9I+nLTq+CuNTr+CkCTs+C1KT25IhrBTr5IyPT44IrfT77IpMjBw6I1DyPTh+C2MTi+C0CTj+CvOT75I3dT28IsxCT38I" ++
    "mMTn+C3NTo+CwCTp+CuKT95IwgBT54I1HTq6I0gBTn5IYTt+CyYTu+CsETv+ClbT-7IgfTz6IvSTi8I05CTh5IyTjBx8I1DyTTw+" ++
    "CoJTx+CnCTy+CyHTv6IghBTy5IjPTv7IuwBT76IuITz+CuTT0+C6GT1+CtWTw5I3aTt5IqSTn7Ih1BT65IsSTn9IsoHTn6I3zCT2" ++
    "+Cp6BT3+C0qJT4+CkGT36I-5BTr8I0zJTy8IsJT6+C2BT88IsQT5+C3pBTi6I7GT7+C6iBTu7I+JT15Iw0HTi7I15HT34Ix3CTk7" ++
    "I62CT55Il4CT24Im3CTj9Ih2BTw4I37HT85IuiDT8+ChkBT05Il6BT16IsiDT07Ih6BT+7Ik6BT66Ij6BTh8IluJTh7ItuJjB45I" ++
    "1Dh6BjBs6I1Dk6BjB58I1Dj6BT97IsLTx6I8CTq8IyOTg9IwiBTo8I4wHTp8I0wHT68IqiDT74I0iDTz8IxvJTm5I1GTl6I8BT04" ++
    "IuRTz5IiXT14IlGTo6I2kBTk5IyNTz7I44BTg5I3jBT86I84BTx4IrrBT+8IrrBTq5IqrBTu8I74BTw8I64BT98I0gJjBj8I1Dqr" ++
    "BjBr6I1D74BjBw7I1D64BTm7Im7CT+5IsjBTs5Io7CT9+Cl7CTu6Ik7CTy6In7CTg8I1qBT+6In1CT64Is1BT27It1BT-5Im1CTt" ++
    "6InpBTp5Ip1CTo5Io1CTt8IgCT96I85BTj7I1fT-6I7rBTh9I75BT56I6rBTl5I7hDTi5I95BT67I8iDTi9Is6BT37IikBTo7Ihj" ++
    "DT48IvXT78IyFT57I7cTv8InaT35IiPTy7I4zDTv5IxVTm8I33JT84Iu3JTs8Ii4JTk6Ix3JT+4I93JSyCPDODXDdDhBDqBDyBDr" ++
    "BD3BiBmH5E62LEhgCEk2BEhaU2DhaU1BhaExbwBluEEB8wBDuvCD33BDqgDDmDDisDDlGDonBDgCDRD6GDUDNDgGDn1DDuHDkGD4" ++
    "IDnCDLDs5CDyKD2BD28BD8CDzEDuKD3fDyFD1EDnpBDxwBD1qBDmEhBCB8wBDuvCD33BDqgDDmDDisDDlGDonBDgCDRD6GDUDNDg" ++
    "GDn1DDuHDkGD4IDnCDLDs5CDyKD2BD28BD8CDzEDuKD3fDyFD1EDnpBDxwBD1qBDmER8wBjrBRuCjrBRxiBVBzHR-K6IhBqsH-K6" ++
    "IBqKR45BVRyCoDCPCOCXCdChBCqBCyBCrBC3BhBiB9JVSnJVwB74CqsD5EPDODXDdDhBDqBDyBDrBD3BD2DD+GD2LDnNDjIDlOD9" ++
    "HDrPDrHTP1BTO1BTX1BTd1BThB1BTqB1BTyB1BTrB1BT3B1BTPjCTOjCTXjCTdjCThBjCTqBjCTyBjCTrBjCT3BjCT2DjCT+GjCT" ++
    "2LjCTnNjCTjIjCTlOjCT9HjCTrPjCTrHjCD43BD+xIS43BVS5E6nID7nITpnDPEOEXEdEhBEqBEyBErBE3BC-7BiB3MPmIE0BTX3" ++
    "PS9bViB5E+KPEOU2DjCiB+K43BVwBt+JqsD5EPDODXDdDhBDqBDyBDrBD3BD2DD+GD2LDnNDjIDlOD9HDrPDrHTP1BTO1BTX1BTd" ++
    "1BThB1BTqB1BTyB1BTrB1BT3B1BTPjCTOjCTXjCTdjCThBjCTqBjCTyBjCTrBjCT3BjCT2DjCT+GjCT2LjCTnNjCTjIjCTlOjCT9" ++
    "HjCTrPjCTrHjCCr-IiB+K5EOEXEdEhBEqBEyBErBE3BE2DUd1BUqB1BUOjCU2DjCiB3MP0BEx+BgBuMtfqCCkMCzDCmQCuHCgQCk" ++
    "DCwJChCC4ICxHCuBCoHC6JCgICiLCkLChKC1IC+MCtMCiTCwFCycC1MCkUC8NSpQkMDoHDiLDhKSiBkMDzDDjJDkDDhCD4IDxHDu" ++
    "BDoHD6JDgIDiLDkLDhKD+MDtMDiTDwFD1MD8NSsvDzDDkDDhCDxHDoHD6JDgIDkLDhKD+MDwFD1MD8NTpQoHEhKSu-BkMDzDDjJD" ++
    "kDDwJDhCD4IDuBDoHD6JDgIDiLDkLDhKD+MDtMDiTDwFD1MDkUD8NTpQkMEiLSr2IqCDkMDzDDmQDjJDuHDgQDkDDwJDhCDxHDuB" ++
    "DoHD6JDgIDiLDkLDhKD1ID+MDtMDiTDwFDycD1MDkUD8NSsTkMDzDDmQDuHDgQDkDDwJDhCDxHDuBDoHD6JDgIDiLDkLDhKD1ID+" ++
    "MDtMDiTDwFDycD1MDkUD8NyCuGuBAkDAnvBjBkDAmQwBl+IzgC7EhUSxGhUSzFhUShGhUSvRjYStYjYScjYiBPb+ViBOb+ViBXb+" ++
    "ViBdb+ViBhBb+ViBqBb+ViByBb+ViBrBb+ViB3Bb+ViBPb6ViBOb6ViBXb6ViBdb6ViBhBb6ViBqBb6ViByBb6ViBrBb6ViB3Bb6" ++
    "ViBPb6QiBOb6QiBXb6QiBdb6QiBhBb6QiBqBb6QiByBb6QiBrBb6QiB3Bb6QCgmKC59JCvxBC+oFChsLCvwLCk1ECh4MCoqBC+Rw" ++
    "B7yGzgCsC+RC35HC45HC55HC65HC75HC85HC95HC+5HC-5HCg6HCh6HCi6HCj6HCk6HCl6HCm6HCn6HCo6HCp6HCq6HCr6HCs6HC" ++
    "t6HCu6HCv6HCw6HCx6HCy6HCz6HC06HC16HC26HC36HC46HC56HC66HC76HC86HC96HC+6HC-6HCg7HCh7HCi7HCj7HCk7HCl7HC" ++
    "m7HCn7HSnB+RC9oMC+oMC-oMCgpMChpMCipMCjpMCkpMClpMCmpMCnpMCopMCppMCqpMCrpMCspMCtpMCupMCvpMCwpMCxpMCypM" ++
    "CzpMC0pMC1pMC2pMC3pMC4pMC5pMC6pMC7pMC8pMC9pMC+pMC-pMCgqMChqMCiqMCjqMCkqMClqMCmqMCnqMCoqMCpqMCqqMCrqM" ++
    "CsqMCtqMgB8mDzhB+RiBxmBbzQiBObzQiBXbzQiBdbzQiBhBbzQiBqBbzQiByBbzQiBrBbzQiB3BbzQiB2DbzQiBlqBbzQiBtJbz" ++
    "QiB7ObzQiBtNbzQiBxmBb+NiBOb+NiBXb+NiBdb+NiBhBb+NiBqBb+NiByBb+NiBrBb+NiB3Bb+NiB2Db+NiBlqBb+NiBtJb+NiB" ++
    "7Ob+NiBtNb+NSvRoqBiBxmBboQiBOboQiBXboQiBdboQiBhBboQiBqBboQiByBboQiBrBboQiB3BboQiB2DboQiBlqBboQiBtJbo" ++
    "QiB7OboQiBtNboQSZoqBiBxmBbkQiBObkQiBXbkQiBdbkQiBhBbkQiBqBbkQiByBbkQiBrBbkQiB3BbkQiB2DbkQiBlqBbkQiBtJ" ++
    "bkQiB7ObkQiBtNbkQScoqBCunHCq9LC19LC49LC59LC69LC79LC89LC99LC+9LCr9LCs9LCt9LCu9LCv9LCw9LCx9LCy9LCz9LC0" ++
    "9LC29LC39LwByCoD5FoEC-ERP-ERO-ERX-ERd-ERhB-ERqB-ERyB-ERrB-ER3B-EgC+wCvFlLyCoDhC3OvFlLyCoDwBvFoDA+ORj" ++
    "NHhCzaFAk7BtagCzsB3FEBME4DErDEjDEREwEE2CE9CEUEiEE5CEtBEpCE-BENEwDEkFEmBEoBE6CELE7CE6DE3DElDEtDgD4N5K" ++
    "3sC3FEBoBwCvFxT3FEBrDFmBBytCBs5MQznGgBgC7H3FEBME4DErDEjDEREwEE2CE9CEUEiEE5CEtBEpCE-BENEwDEkFEmBEoBE6" ++
    "CELE7CE6DE3DElDEtDB8pBB7jBBs5KB4uBBrnKBj0DwC3OvF3FEBMF4DFrDFjDFRFwEF2CF9CFUFiEF5CFtBFpCF-BFNFwDFkFFm" ++
    "BFoBF6CFLF7CF6DF3DFlDFtDgBiKw-CFR1gJFR6mJFQvFxtCxBrDAk7BtaRj2B8oBwC3O7H3FEBMF4DFrDFjDFRFwEF2CF9CFUFi" ++
    "EF5CFtBFpCF-BFNFwDFkFFmBFoBF6CFLF7CF6DF3DFlDFtDgD8Q3O7H3FEBwDgB3O7Hn2BC8BCvCC3VCj0DQ7BnyGQ7HiqFBvnGB" ++
    "j1BB6+HB2fB9MBssBB9sDxBpBA9JVBpsMRXjDR-bnlBRO5CRd5CRrB5ChBhBrRPhByBrRPhBxhCrRORlOwDxBP1B+GwDxB3FCBjD" ++
    "B-zHBg0HB51HBw2IBvnLByjMB3rMgB24BsiCgBgCpvKxYgBBME4DErDEjDEREwEE2CE9CEUEiEE5CEtBEpCE-BENEwDEkFEmBEoB" ++
    "E6CELE7CE6DE3DElDEtDgB7B2et5HgB7HzT0sICvChB4hB2hCv-HDr-HDj-HRzTpLhB4hB2hCy4CDp-HDkgIDq-HD9+HD2-HD9-H" ++
    "D0-HDg-HDu-HD++HD1-HD-+HDjgID+-HDlgIDo-HDm-HD7-HDw-HDy-HD7+HDx4CDngIDt-HD8+HDk-HDx-HDmgIDz4CDhgIDigI" ++
    "Dl-HD6-HD4-HD3-HD--HDh-HDn-HDogIwC4N5K3sC4hB2hC5-HFx4CFy4CFs-HF8-HFz4CFggIFi-HFz-HgBvFgqBquEC3tEwBkV" ++
    "gBnHtWD1KD1mLD+PDgnLDokFArpGApnHQ3H9lBgBgsBA-tLgBluDiCxmJAluDgBruCwKi8GgBxwLiC-sCAluKgBsdwKgsBQ4R5LA" ++
    "7rMQrkJkmBgBqQ+1CyhHC3wEC+zEgB+1CAvhJgB2fgKgBwBi0D0dgKgBwBsWmIgKgBwBi0D81CgKgBgB5FgKgBwB7zD81CgKgBwB" ++
    "63BmIgKgBwB7zD0dgKgBQ0dgKwB2fgKA6BgCsWmIgKA6BgC63BmIgKA6BwB5FgKA6BgB+SA6BQnvHmFQnmLmFAowDQZ4xCQc+SiB" ++
    "ACwdSvrCwdUA7bgBwdA7bC4+BCkrBC07LAonHgBhUqsC6BQ7iB9dAi1LAviFA8nFA55KQ0hHvVQ5uGvVQvkBvVAkkFQ7iB7lDAw-" ++
    "LQ6nFpsCA6yKA61HAwwLApsCgBgebt+IC-kBA70HgBdtL1qFQh-ItLQ+kHtLwBtLn0CsFhUAioJAl7LA50EAkwHA4-CA72MA01LA" ++
    "nzIAz8EAnlKQvR1pCQtY1pCAoiKAliKA5nFA5uLAhzHgBwsDbvlKgBtrB6EqnBQinKiOQ-kBnoGB-RQtnG-kBgBhpGG-kBQmuL5x" ++
    "BAnrLA5sCQ00CooHgBuyKtuDmnDAntGAz8JAgxLQnoHzrDgC1UmyBA5-B5vGgByQvY5uCQnlLvYQvY5uCAk7GA2uCQ0oFvBAykFA"

/-- Packed names, a part. -/
def names12 : String :=
  "-1IAkpGQw5H-sBAxmLQ5+E0JgB-sBbhpBAunGgBjpBGqjBgBy2LnmB72CwBv3KrnBG9hBQowByeQguFyeQyxD1xCQsrCt5BgBtuC" ++
    "srCpnJQldrnBgCjpBGqjBA2lKwBrnBA4mK1nGA2mKAztBQ74MznKQ5-EmyBAvjIQvyBvVQ4zCvyBArmHQqmHorLAtxBQx7B3mKQ6" ++
    "mG-RQy1LvVQ8Q8mHQmlKswCQjbqxCQjlF6uLQhUooFgBgKirM4mFQz9Bt4KQgwHunBwCiJA1Q6EtHKgB1sCbknHQk5B5jBQ3vKzt" ++
    "BwBoRnjBAwjIQvvLjgDQv8C4pLQhWmsIwBnrC-pCoRmkBhB2zBoRmkBQ+zCioHQnuE25LQilFzWQ0lHnwBQ2pD+tFwBumH1kBG1U" ++
    "AjgDQ2mJpyBA5pFAq0HQ0zE5-JQ4GgbQ8pFjgCA15LQlqFvhBQ8iK+pCQyzDh1CQ8zB03CQ9pLw4BA0-EQh1C5zBA9gFgBtiB8mD" ++
    "+kFQoRqMgBnRoRmkBA54KA7wHQoRnjBA-9LAorMQoRk5KwBs9BgmLAs4KwB-vDvoDG-RwBvsDGvsDysCgBk9EGz5HQ4nFrSAnqLA" ++
    "r0KA9wLQ9rL5jBAp9LQzWuoDQ2wEr0CQi0Kr0CAoxLQn0Du0IAwvHQuoDtmJB6XwB6uCxxBG-RA8rMgC9zC53C-uBG-RgCvY53C-" ++
    "uBG4oKgC8-B-vDu-JG-RgB4+B6kF9YAvkFgBm+EA9lBQxhB7yBQ8iB-sCAruCgByvG8iBxhBQnqFxhBA3vGBljIQ1hDlhKA3tLQ8" ++
    "iBxhBRAxrHQ76BxhBgBjbl8B76BgBvzCl8B76BAp7HAwxBgBj1Eh3Lw4BAh4CQq4Bh4CQrnG5tDAz9BQvvG5tDA2kHQujIlyIQjb" ++
    "ryBQvzCryBQc3lDQZ3lDgB-zDcrSRZrSAr9BQZr9BAlwIwBj8EvoDGtnLgBrdGHA5wEwB7yC6IxmH6gMDyyDDzyDD0yDD1yDAttB" ++
    "AzbAvsBQ4R9hFA7hBAtvBAwzIAtoDAjSAjYAroGAo0DAkqLA0uBAzWAstBArvHA+9BA6jBA4yKAhoFA9dA6sBArsCAr0BAy8JQ1u" ++
    "B5KA+hFA3xEAx5HQswItrCA1UQyxD1UAqgFA5lBQ1zHtyBQldtyBgBpoHldtyBApnBAziKAtsIA0mKQr7GotCQh8EotCA5yGQzb6" ++
    "BQ7hB6BQtvB6BQtoD6BQjS6BQjY6BQ-rLo0DQzW6BQ6jB6BQ9d6BQ6sB6BQl1B6BQjzH6BQt4M6BQorC6BQpgK6BQ6sB4fQulD6n" ++
    "KAroFA+LApWAgeA4fAiMA2cgCcpB4E2XoCxBzB4E2XoCxBK4E2XoCxBI4E2XoCgBvmHyIFgB-zDyIFgBssByIFgBtwDpBFRzBFgB" ++
    "mqFxWFgBuDxWFA-uCQpiCgbAniHAotJApzLA7jIA0xCAirIAy-EQpiC0yBAnpKAlzHAhnKQ7+IjcQt0EjcQl2HjcQpiCvqDBwgFA" ++
    "vnHgBziFsFuuBgB0iFsFuuBA-gFA7uHAhMAoaA2zCgChMGoa3exWwBO9W3exWhBu4M3exWQ8sB38JwBoaAoiFoyCgBvhFA3oMwB6" ++
    "OAogF+agChMAzwH1Gg-ICmyDQqkDhMBoaAldQ7yBz4MA5nKQjb68JBsvHAw1BQldjxEQjiHgpCQgpCimJAuhIAz+BgBib6vG6OA3" ++
    "wHAltGAm1IQxqJh8BQ6B2-IA4yHQ88E1kBA2yLAhlKQwqBVQq4BBAzCQpsHq-BAwqBA1sCgBioGAiJAk3MQr+EiJQtdiJQO+NQqr" ++
    "LiJQwwHiJgBiJAHQ4XiJQtYiJQqmBiJQw8BiJgBiJAztBQipD+NQiJswCwCiHjlLAMW6MgBvoBtChiFQgxBgBAugFQ0+BgBQnuFg" ++
    "BgB4rLlvBgBA4xCQyGgBgBglKb2kBQhnHq-EQlxCgBQoctxBQqgCtxBQctiBgB1BtmKgBQ0gDgnBQ+hB4hHgBkBzaFQhzBzhBwB4" ++
    "8EArmBFSzaFSuzCFSgtBFgB0gDA+3MgDxnBAiDihCGrmBFA05KQ-lD6yBAwhFAwkJQ-oBjiBQzkDjoBAn8GQre6agBuDre6agBhX" ++
    "AoLR1zCpBAnyBQ12LnyBQzhBoCwBxnBAiDihCS1CihCQvBxnBAwqFAx8BQ7Sx8BA9gKQ7KgqDQ3LgqDQwsCh1LA8yIA+zJhBA7uG" ++
    "-yBQ3HqdQuDqdQtYqdQ4XqdQ5fqdAvgFQ9jBi8EAp5KAohJQhTvtBAw-JQ30Bw4BQyqDrpCgB3oKhuE02IQwnFhhJQv+JnxDQzhI" ++
    "nxDAr-JQ98GgBQ2hImWgCmWA1CHJgC3Hj-CAl9CrSTiKrSgCuDj-CAiKrSTl9CrSA9mKQ+sB8HAmiDQzrB47BiCAjBHwKKQ5qMnl" ++
    "JgBzrB47B28JgB8GzrBmkKgBrpCAlnBApyBRA+mHQyzDpyBAg3LAyoDA6qMQ+zCkoKQ6mKpuLQtnKn+EgBsgMjBsOgD7QjBGxBuD" ++
    "9BsO3BAvFPjLxC1CGiDuD9BsOgDjN1CGiDuD9BsOgB-C9sCgBgB+D9sCgBwB-+BAtnBfA-+BxBAPnO5LiBXnOkiCAgrCQvoB+lKg" ++
    "BoMh-CyegB2Kh-CyewBmrBAkiI8fwB3HmrBA4WA4WAmrBQuDmrBAodhBAtnBfAwsCQk4BgBQyoDudgC+RAxBHJgCwHAxBHJgE6EA" ++
    "9JVAKIHJgC7qLAjBHJgC4GAiDHJgC8GPuXlWgBQs6C2DwCoiIgBnH3FEh4BUCh4BD92JD7-BT3Fh4BAwTQvoBz7LAx0DAxpBgBzj" ++
    "DG4xBAr5HAtlKA3jJA-2LQ2oG-RwCqB6HmFAlBWwBjbgBnHx+EQ4vBy-GgBZ7BudgBc7BudgBvEvR9BR4X9BR5fiHR4XiHgBC5fi" ++
    "HR4XiHgB4QvR4CgBmSvR4CwB4QCvR4CwBmSCvR4CgC3CIyRc9BgCsDIyRc9BgBvFnGi8BgCnGi8BA42CQBi8BwC+WKolBAX+BhCI" ++
    "olBAX+BwBgBnHq-IpnFgBc3FnGgBkB3FnGQumFnGQpRgBgBvxCbz7BA8mIAqmJAwyLwBshJA3BphFgB5xBbk9HwB5nB6BP2SSO2S" ++
    "SX2SSd2SShB2SSqB2SSyB2SSrB2SS3B2SS2D2SSnS2SS3Q2SCj9JCwgMC+4LC-nHCzmHClpLCyiLC9+GC3wJCm3LCr-GCngMQI-+" ++
    "ByBAPnO5LjBXnOkiCAjiFhBAnOkiCQ4xKodAqdAxkFQ++I5nBwBZz+BG9uCQ8GqlKA73CgChMsFxiFpX6zIgB2pLvDmsLQ5vCkuD" ++
    "A0rLBj3MAslIQhMmtGwBKyIhTvtBwBhTvtBAhXwBIyIhTvtBgBcjxDhTgBZjxDhTgChT6E4GbqlJgBkqFzrB47BgB+RbmWQytDmW" ++
    "gBmWAkrBQ-0BmWwB8fiCytDmWQj1I+gKQZx8BgB3CK1sBSy8E8fSw0C8fC0-JCooGgBKz0DyIwB0DssByIFgCiKyIA0KotDwCgEi" ++
    "KyIA0KotDhBtwDpBFSzBFRwzDyIhCyIAlBqYoYgEiKyIAw7B7NlBGzC0KwCczB4EKyIoCgCmXcK4EoCiBI4EoCxBZK4EoCiBI4Eo" ++
    "CgCZK4E2XoCxBI4E2XoCgCmXcpB4EoCiBzB4EoCxBZpB4EoCiBzB4EoCgCZpB4E2XoCxBzB4E2XoCBiJQzwC6yBgBnjBGzbgBXxt" ++
    "J3mGAtnDQmmKrkFgCZ6U5K-oBjiBgCc6U5K-oBjiBwByQ5K-oBjiBQzvDmlFQi4MnjBgBPudzbgBOudzbgBXudzbAh8LgBxF-lD6" ++
    "yBQ6UjiBAnlBQtnDo2BQ30Bo2BgBzkDjoBo2BgBj0BArVTG57BC57BgBz0CA57BC-5LSiI3DQZ6aA6aQuD6agBzhBoChyGRre0JQ" ++
    "reikFQ0aqMChXC6fAqMBhXB6fQ0aj0BBhXB-kDAj0BAhXA-kDA42MgB1uBqM6fRnyB6fQzwCr0DAxkJAhgJAl7BwC7QIGKolBsOQ" ++
    "tnB3DwBs2Bq0CrsDgBwBtwCq0CrsDgBA2mGQxF4WQ0yKmiDwBhXAvFrVQp-BxnBQ2dqjBArbwBurL5MsFuuBgBX-fJCQCKCIgBKo" ++
    "c7VgBIoc7VgBOoc-xBgBXoc-xBgBKqgC7VgBIqgC7VgBKgxB7VgBIgxB7VQq5B7VgBkrBq5B7VBq5BwBua0JAuaR3K3DxB0JA3K3" ++
    "DhB-I3K3DhC0JA-I3K3DgBtCkSVgCua0JA-IkSQ04M0jBQwmJvoHQj7L+7LgBjuLbm0IgBuuBb2jIA4mJQ21B6BiBAmO+LgC6BAg" ++
    "gCb72BgCmO6BAuDiMlBGmO+LW3yBlvBWuwD+LD+yHD-3CQt0D6BgCmO6BAmO+LwB6B14KlvGhpBQ9oD6BgCmO6BAj3C+LDkuDQiq" ++
    "L6BQvL6BQgiH6BQ-jM6BwB6BA3yBlvBQ2iK6BQ9mG6BQ8mG6BQq3B6BwB6B-4LMwqBgCq3B6BAmO+LT3H+LwB6BAuvL2ckBGt0Dp" ++
    "WVuwD+LQixC6BQ24M6BQmxE6BQm8B6BQizB6BQgjK6BgC6BAp2Ibh9LwBixCtU9oD6BgClpB6BAuDiMQoxE6BQrlH6BQk0D6BQ1p" ++
    "L6BQp6L6BQuwH6BgBz2IizB6BwB6BAuDiMQl8H6BgD6BAuDiMG3yBlvBhBn5KsFqlHQm0E6BQmnH6BQ0+B6BQlxC6BgB6BnmBiMh" ++
    "BA8gJ24BwC21BjS6BAmO+LwCjS6BAggCb72BwCmOjS6BAuDiMUj3C+LgCjS6BA-4M3+BwCq3BjS6BA3H+LgBm8BjS6BgBizBjS6B" ++
    "gBk0DjS6BgB1+BlpB6BRmO6BQ0kM6BwB6BA3pD+LiB8G0vHy1CSssBy1CgB6O8gF+uGQ45K6jBQs0H6jBQtrL6jBgCuzH6OzoDPy" ++
    "IwC6OzoD0sCxWsFsmFBlpBhBAm8B6BSqnHxWwBhGzF4EtLwBxGzF4EtLwBhG7E4EtLwBxG7E4EtLgC0DhGzF4EtLxBxGzF4EtLxB" ++
    "hG7E4EtLxBxG7E4EtLgChGzF4EwXtLgCxGzF4EwXtLgChG7E4EwXtLgCxG7E4EwXtLwCkBhGzF4EwXtLhCxGzF4EwXtLhChG7E4E" ++
    "wXtLhCxG7E4EwXtLwBhGzF4E5XwBxGzF4E5XwBhG7E4E5XwBxG7E4E5XgCkBhGzF4E5XxBxGzF4E5XxBhG7E4E5XxBxG7E4E5XwB" ++
    "u5HloD7B4FkBsFZ7BwB2qLloD7B4FkBsFZ7BQxBglBQiDglBQjBglBQ1CglBwB3KkI-Q4FgCkB3KkI-Q4FwBkIuD-Q4FgCkBkIuD" ++
    "-Q4FR0X4FgBvgB0X4FwDlLkBT0D-E8IV4FzB-E8IV4FyC-CT-E8IV4FgBkB+iB4FgBlL+iB4FwBkBlL+iB4FgByJkB6KSwL6KQyn" ++
    "BvhBgBwLynBvhBAglBA00HQ2tDg9CQrtB6XQn2HmxDiBAjQ4fAmxDA8hJQtCkuKAiuLAm8LB6XAjyBQrkBjyBAk9LQjyBoEAvkJA" ++
    "1wEQwTgzCQ8sB6XgBrkB8sB6XA1vDQrkB1vDAoqCQrkBoqCQkvK2oMQnvGkhCQzzEu2IAi8LAgmJQ9YrtBQ1-BrtBQ9YjkFQxuEn" ++
    "8LAh+BA+yKAvrLgBsC2lBtCgBnB2lBtCQ7yBFwB8sBllFipDtCwB3LrS6El8BAtxCgB8Gu0BFQ1sDgBgB8G1sDgBwCy8B88CsFoj" ++
    "I4bgBwBmMjF88CgBgB-mK4RgBgB3zJ4RgBAr-EQ8Gs-EA1rCQ9Y1rCA0lDQ8GpiKQmoFwIQthJgBQv4MgBAmwKQldgBAi7LQ4Rzq" ++
    "FA3mLA+qCA-qCQzhKhWAmpGQn8EjqFQKo9CwB4CAkVzdQhoKFgBvFib9+BQghFgBQ8uHgBgB9nGG67CQ0+B4tEQwrDo8EQ2+EodA" ++
    "t+EgB4bb34MQv8JFQwrDj9LAxvLAx-JQp2Hk3LAm8HAp-GQ3lK3pLAnwBQzCsiFgBxpBGx0DAg+BQrsBkiBAvmJQrtBlxDQ8gDss" ++
    "CgB4Qk5BraBraRCraQCraQ8zJraQraywCBtzEAyqDgBrkBwTgzCQ7wGg9CQvhKh+BA1qDQ8gD1qDA2kFAzpLQ-0Bx4KAqpLQi1E8" ++
    "wKQvkKkhCQ2pDusDwBhwEgBnH0rKD6wBDwTDqQD4RDtyETsyEnvKEovKEvrMEwrMD0zDDmrMDnrMDz-BTgkKz-BTZz-BT6-CulBE" ++
    "lwLEmwLD6pFDlVD-wJDyrMDzrMT0pDlVE83KDspBDqoLTz2B2bE79JjB7uCbz2BjBg9Bbz2BTyd2bT+iI2bjBulBbydjB7uCbydF" ++
    "xnGTydspCzBlVbydspCjCulBblVbydD6oMTi6L2bT4yI2bThd2bjBulBbhdjBlVbhdjCulBblVbhdjB0zDbhdjBg9BbhdF8xEDg9" ++
    "BDrvKDsvKDtvKDnwEDowEDj-ID13KDvzED9uKD+uKDg1ET+-E2bD61LD71LTwrK40IDygFDzgFD0gFDxwEDrsBDg-BDk6LDu2CDh" ++
    "0DDlnKDskFDhgMT9kFpmJjB-4KbplIDmtCD4vBT+tL4vBD61ID3sDD6kMTzW6xCDgqCT-sBgqCD8xBTmnK8xBDywEjB6tD2wL6tD" ++
    "F3uLDnwLDvnKD6xGD4xGD5xGDkpKDspKDuoGDvoGDwoGDxoGDyoGD9oCjB+qCbx-IFpoMDowKDi4CDgsBDxtGDo5BT0BxxCE3kDg" ++
    "CZoMjqBI4CxB4QjqBI4CxB2KjqBI4CxBmSjqBI4ChB1+BC9BwBhD-Ic9BgB-Ic9BgBkBc9BwByJkBc9BwBnekBc9BwCc9BxaZC9B" ++
    "Q7S+-BgBZ0lB7BhB1+BC7BgBtCc7BgBhDc7BgB-Ic7BgBkBc7BwByJkBc7BwBnekBc7BgDc7BxaZyJC7BUhD7BQ7B+-BgBZ0lBiH" ++
    "hByJCiHhBhDCiHgDciHxaZyJCiHUhDiHQiH+-BgBZ0lBlRhByJClRhBhDClRwCclRxaZClRgBsvBoKnGgBtCoKnGgBhDoKnGgB-I" ++
    "oKnGwByJ-IoKnGhBkBoKnGwBnekBoKnGQsvB5TQtC5TQhD5TQ-I5TQkB5TgByJkB5TgBnekB5TwBtChB1NmGwBhDhB1NmGwB-IhB" ++
    "1NmGwBkBhB1NmGgCyJkBhB1NmGgCnekBhB1NmGwBtCqB1NmGwBhDqB1NmGwB-IqB1NmGwBkBqB1NmGgCyJkBqB1NmGgCnekBqB1N" ++
    "mGwBtCrB1NmGwBhDrB1NmGwB-IrB1NmGwBkBrB1NmGgCyJkBrB1NmGgCtCX6HZmFgChDX6HZmFwBX6HZmFgChDX6HjXmFgCtCd6H" ++
    "ZmFgChDd6HZmFwBd6HZmFgChDd6HjXmFwCwLtCd6HjXmFgCtChB6HZmFgCkBhB6HZmFgChDqB6HZmFgCkBqB6HZmFwBqB6HjXmFg" ++
    "ChDrB6HZmFgCkBrB6HZmFwCyJkBrB6HZmFgCkBrB6HjXmFgCtC3Q6HZmFgCkB3Q6HZmFTjXmFQvF4CgB3OvF4CQvF7BgB3OvF7Bg" ++
    "BvE5f9BRqmB9BRtY9BRw8B9BR9xB9BRvR7BR4X7BR5f7BRqmB7BRtY7BRw8B7BR9xB7BgBkB4HFwCxBHAC4CrEwCiDHAC4CrEwCj" ++
    "BHAC4CrEwC1CHAC4CrEwCxBHAhD4CrEwCiDHAhD4CrEwCjBHAhD4CrEwC1CHAhD4CrEwCxBHAvE4CrEwCiDHAvE4CrEwCjBHAvE4" ++
    "CrEwC1CHAvE4CrEwCxBHACzKrEwCiDHACzKrEwCjBHACzKrEwC1CHACzKrEgCxBHAzKrEgCiDHAzKrEgCjBHAzKrEgC1CHAzKrEw" ++
    "CkBxBHAzKrEhCiDHAzKrEhCjBHAzKrEhC1CHAzKrExCxBHAvEzKrExCiDHAvEzKrExCjBHAvEzKrExC1CHAvEzKrEwCxBpEHA0fz" ++
    "LwCiDpEHA0fzLwCjBpEHA0fzLwC1CpEHA0fzLwCxBpEHAhDzLwCiDpEHAhDzLwCjBpEHAhDzLwC1CpEHAhDzLwCxBpEHA-IzLwCi" ++
    "DpEHA-IzLwCjBpEHA-IzLwC1CpEHA-IzLwCxBpEHAkBzLwCiDpEHAkBzLwCjBpEHAkBzLwC1CpEHAkBzLgDxBpEHAyJkBzLgDiDp" ++
    "EHAyJkBzLgDjBpEHAyJkBzLgD1CpEHAyJkBzLgBxB9oBHgBiD9oBHgBjB9oBHgB1C9oBHgBxB7HHgBiD7HHgBjB7HHgB1C7HHgBx" ++
    "B9XHgBiD9XHgBjB9XHgB1C9XHwBxBkB9XHwBiDkB9XHwBjBkB9XHwB1CkB9XHgBxBkBHgBiDkBHgBjBkBHgB1CkBHgBxBlLHgBiD" ++
    "lLHgBjBlLHgB1ClLHwBhGzFlLHhB7ElLHwBxG7ElLHhBzFlLHwBKIlLHwBpBzBlLHgCp0DxBtC+CHxBiDtC+CHxBjBtC+CHxB1Ct" ++
    "C+CHhChGzFtC+CHyB7EtC+CHhCxG7EtC+CHyBzFtC+CHhBxB+CHhBiD+CHhBjB+CHhB1C+CHxBhGzF+CHiB7E+CHxBxG7E+CHiBz" ++
    "F+CHxBxBhD+CHxBiDhD+CHxBjBhD+CHxB1ChD+CHhChGzFhD+CHyB7EhD+CHhCxG7EhD+CHyBzFhD+CHxBxBkB+CHxBiDkB+CHxB" ++
    "jBkB+CHxB1CkB+CHhChGzFkB+CHyB7EkB+CHhCxG7EkB+CHyBzFkB+CHhCxByJkB+CHhCiDyJkB+CHhCjByJkB+CHhC1CyJkB+CH" ++
    "xChGzFyJkB+CHiC7EyJkB+CHxCxG7EyJkB+CHiCzFyJkB+CHgBxB4CrEgBiD4CrEgBjB4CrEgB1C4CrEwCxBcH8c4CrEwCiDcH8c" ++
    "4CrEwCjBcH8c4CrEwC1CcH8c4CrEgCxBHA+WuFgCiDHA+WuFgCjBHA+WuFgC1CHA+WuFgCkBHzLmmBPUOsXUP0BF2RwBxB6gFcHg" ++
    "CjBoI89BcHgCxB4G89BcHgCjB4G89BcHwBxB-3BcHwBjBn9BcHwBxBn9BcHwBjB-3BcHgCxBqxByRcHgCjBqxByRcHgCxBm1ByRc" ++
    "HgCjBm1ByRcHgCcHzLmmBPUOsXwCH4EiDzchGzFiCjBzcmzBxGzFwCvFnGu0CAd+BUO+BCu0CwCK0B9BAd+BUX+BUO+BEWC9BgBm" ++
    "7G1zCeS+WeiBeAWyB+WeAWQklK0KQciJQ9xBiJQllKyIQojN6BQ8lJ6BgB6BAowDQutJ6BQt4L6BgB6BAp0HQwyK6BQk4C6BwBFb" ++
    "tH-3CgBoyB5IyIwBiK+RbyIQirB70BQ5tB70BAozHgDyIAoCGlB0K8QgCUq4B0+MyIFwB6BAjoGgbQ2qF6BQhrJ6BgC3pD6EtH3U" ++
    "uyIQs7G6BQy3I6BQ6BvkBQmqL6BgC6BAPmiHiKgC21B6BAmF+LzCPvEGPCpWwC6BAqYgzB3HrbwCriL6BA7-BgzBiMgEmO6BAmO+" ++
    "LGyIgzBiMgC6BAuDiMgsMgCjmL6BA+hH5MQqnDoaAshFgB9-JpBxvBA+hLA4nKgBhMsFkgMQ7gDvyBA-mLgB6O1yGnlFAxlIAylH" ++
    "QrlJ4iKA94MQ4RxmKAmzHQjyG24BQ83MtiBgBkiBAv7GQtuCivHQy-LyeAh-BQrpBg6BAsxKgBsW4b5jBgB-b4b5jBgB2R4b5jBQ" ++
    "+gFlvHgBu-I+pCqkMQgpGq-BwBqwI-uBG-RAyqLQ-0BjoBAsoGAp1EA5oGAg8EAmnDAklFQp8E5sCQtY43KwB-kLq7BbhpBQwvLi" ++
    "0CAtyCgByebqkJAniKAvrIAogKA27GQ6nH2uCQr1L0JA4oFgB5xBAh-BgB9hBA4uLAhuFAzhFAqmDA2nKgBnzBbtrBAk4KQ1kFhp" ++
    "BQ6yItYA3+IQgKmyBAm8EwDmO6BAmO+LGX+NQ88M6BwBmO6BA02LgD6BAx7B8HGx7BgbiCnkM+LGzViMQx+J6BQloH6BA4wJQ1xG" ++
    "6BwB6B3e+RggChBA5lK+LAxqDQjwIvuCAtvHQo2HysCQsejcAmoGQl1I6BAl5KA5-LQpkM6BAnyCAx7GAxxBAmlLAz+JQx0C6BA2" ++
    "iFAyzBA5vHAu1IAxwKAzrDAosLQ6uH6BQ6hN6BAv0HA04KAozLA6uCAxnIAv1IAmiKAq2HAmhKA6tKA21IArmJA2jJA5qCAmxLAy" ++
    "+IAzyGA+pLAs+JA49JAupLA9mHA2+JAqrCA--EA09BQ6wH9dQ9nKzkFwB7yC1uFvR+aS7J+aCv8ESc+aAqnBAiOAipBA0vBA4wLA" ++
    "6wLQt9BvqMwBgeAt0HpvEQumJniCQ-+IniCQ5gJphBBiOQxnFl3MA8oGQlV9kLQyrC0JAyrHAm9JA9kHAq2MA1iFQ6-I1xCQvYkz" ++
    "BQ7Vx2LAi9LQ7tL6OQlsI6OQ1uG6OgB6BA-lJAyoCAuyBQqkDyoCQq+E6OgB6OAr0HhBsFnuL3yKBuqFhBsForB9sBA-9IA7kHAn" ++
    "oMAyhJAs-GAusHAwjNAnhFQ5fiJQz-EunBA+4KAmvHAvuCAxqLgBvRzuHmWApmHgBrkIvpKtZQs3Lt-LQpjKhLgBwyGT10HAxuFA" ++
    "xtEQwThiHAw7LA8xBAh+IAo9CQy2IrnBgB8rLbrgCgB-Rby8MQt9BymDQ42LorCA1hFAj9EgBzyKbxsBgBvBb3sDA7rLA-uKQmrJ" ++
    "7wEgBvLpItNC7OC6SCgSCtJC3SwCcpItJ8Ei1B1FwCZpItJ8Ei1B1FwCvLpItJ8Ei1B1FwCcpItN8ErH1FyB7O8ErH1FyB6S8ErH" ++
    "1FyBgS8ErH1FyBtJ8ErH1FyB3S8ErH1FwCZpItN8ErH1FyB7O8ErH1FyB6S8ErH1FyBgS8ErH1FyBtJ8ErH1FyB3S8ErH1FwCvLp" ++
    "ItN8ErH1FyB7O8ErH1FyB6S8ErH1FyBgS8ErH1FyBtJ8ErH1FyB3S8ErH1FwDcpItJ8EP1BngC1FwDZpItJ8EP1BngC1FwDvLpIt" ++
    "J8EP1BngC1FwBcpI0DtND7OD6SDgSDtJD3SwBZpI0DtND7OD6SDgSDtJD3SwBvLpI0DtND7OD6SDgSDtJD3SwDcpItJ8EO1B+vB1" ++
    "FwDZpItJ8EO1B+vB1FwDvLpItJ8EO1B+vB1FwDcpItN8EO1B9H1FyC7O8EO1B9H1FyC6S8EO1B9H1FyCgS8EO1B9H1FyCtJ8EO1B" ++
    "9H1FyC3S8EO1B9H1FwDZpItN8EO1B9H1FyC7O8EO1B9H1FyC6S8EO1B9H1FyCgS8EO1B9H1FyCtJ8EO1B9H1FyC3S8EO1B9H1FwD" ++
    "vLpItN8EO1B9H1FyC7O8EO1B9H1FyC6S8EO1B9H1FyCgS8EO1B9H1FyCtJ8EO1B9H1FyC3S8EO1B9H1FwDcpItJ8EX1BvT1FwDZp" ++
    "ItJ8EX1BvT1FwDvLpItJ8EX1BvT1FgBcpIkegBZpIkegBvLpIkewCcpIke8ErH1FwCZpIke8ErH1FwCvLpIke8ErH1FgBcpI86CC" ++
    "96CC76CgBZpI86CC96CC76CgBl6MvRs1CCl-CCr0BCzWC0hBCptCC6sDRZs1CCl-CCr0BCzWC0hBCptCC6sDQx8EkmLQi9JqxLAx" ++
    "hFAm+BQrwDvqDgBt7GbosCQjuE18EAquLAt5MA0oGAv+MAsrIAghKAxsCQg+Iw2MAjlKQwtJqxCQ3xK0lKA6tCA0uKAnxBQmyG67" ++
    "CA38EQk5B4pBA5tEQ1DkiBAluFQqtCx9BAo5KArwIAeAtgDAr0DAimKQ1iLptJAnsIA7hFQzbr8LAy7LAi3CAxlKA0pDQtgD-RQw" ++
    "4CzhBQ-CgrCAizHA+0BA14MAtrCA-tFQgnK1lKAriCA7oBAorBA0nGQ0ajiDgBjiDA5+GQ-wEiJAh3IQ5lDk4CQqnDhMB6OgB6OA" ++
    "-uCArgFQod7lDAskDAi0CAv1LAsnHAz2LQjnK58CAp+EAo5CQmhJ6BQ93K6BwD6BAuD+LGyIiCiMSriKpWSrGiMgBpHkE6BQ7rCl" ++
    "4BA-xBgDyIAoCqYGxD8QQjByIQxByIgBvkBzByIRpByIgCoC4EwKtHhrMQiJxWQhF4iLB2jLB5iLBlkLBojLB3jLB6iLBtkLBvjL"

/-- Packed names, a part. -/
def names13 : String :=
  "B-jLBhjLBmkLBpjLB4jLB7iLBxkLBzjLBikLBljLBqkLB8jLB+iLBukLBwjLBgkLBijLBnkLBqjLB5jLB8iLBzkLB1jLBkkLBnjL" ++
    "BskLBujLB+jLBgjLBwkLByjLBkjLBpkLBsjLB7jLB9iLBykLB0jLBjkLBmjLBrkLBtjLB9jLB-iLBvkLBxjLBhkLBjjLBokLBrjL" ++
    "B6jLwE3CKhFrG3ClBKY3CpFJI0CsDlBKY3CpFJI1BKY3CpFhEIhFrGsDlBKYsDpFJI0C3ClBKYsDpFJI1BKYsDpF1ClBKYsDlBIl" ++
    "CpFY3ClBIlCKY3ClBIlCpFYsDlBIlCKYsDlBI1BpFYsDIhEKhFrGsDpFYsDlBIlCKYsDlBIlCpFY3ClBIlCKY3ClBI1BpFY3CI1C" ++
    "lBKY3ClBIwEsDIhFrG3ClBKY3CpFJI0CsDlBKY3CpFJI1BKY3CpFhEKhFrGsDlBKYsDpFJI0C3ClBKYsDpFJI1BKYsDpF1ClBKYs" ++
    "DlBIlCpFY3ClBIlCKY3ClBIlCpFYsDlBIlCKYsDlBI1BpFYsDIhEIhFrGsDpFYsDlBIlCKYsDlBIlCpFY3ClBIlCKY3ClBI1BpFY" ++
    "3CI1ClBKY3ClBIxDGIG3C3LX3PhFgEKG3CGI3LX3PhFgEsDGKG3C3LX3PhFgEKGsDGI3LX3PhFxB3LPmIhFgCsD3LPmIhFgCI3LP" ++
    "mIhFgC3C3LPmIhFwBnBP1JisCDjsCDksCDlsCDmsCDnsCwBsCP1JisCDjsCDksCDlsCDmsCDnsCwCKG3CP1JhFyBsDP1JhFwCIGs" ++
    "DP1JhFyB3CP1JhFwCsDG3CP1JhFwBsCP1JngFwBsDPmIhFhBXqPhFhBhBqPhFhBX3PhFhByBqPhFwBIPmIhFhBXqPhFhBhBqPhFh" ++
    "BX3PhFhByBqPhFwBK0BhD6PwBI0BhD6PwBsD0BhD6PwB3C0BhD6PgB7UhD6PgEsD0BhFG3C0B7UhD6PiD7UhD6PG3C0BhFgEK0B7" ++
    "UhD6PGI0BhFgBynBvhBrQwB7UynBvhBrQgBkBsCrQwCsDKY3CIrQhCIY3CKrQhCG3C3L0BhFwCKGI3L0BhFgCsDK3LhD6PxBI3Lh" ++
    "D6PgC3CI3LhD6PxBK3LhD6PgE0JzxCtCrGsDpFYlBKIIkClBKY3CpF1BIY3CpF0DsDpFYlBKY3CpF4BIY3CpF0DlBKY3CpFYlBIn" ++
    "CsDpFYlBIkFsDpFYlBKGlBIY3CpFoDIGlBKY3CpF5CY3CpFYlBKoDKY3CpFYlBIkFlBKYsDpFYlBIY3CpF1EIYsDpFYlBKY3CpFE" ++
    "iHzBsCAnBfQuzE0kBgB7UkSVwBK0Bs9BhMwBI0Bs9BhMwC7U1CHA1QxBgExBHGsDG3CP1JhFgEjBHGsDG3CP1JhFgD1CHGIP1JhF" ++
    "gDiDHGIP1JhFgBK0B6agBI0B6agB6rMoKnGwBIuD7HWgB3OrGnGiClBIY3CpFCiHwCckB5TAkVzdwCK2RcI4EoCwClB2RcI4EoCw" ++
    "CI2RcI4EoCwB3O7HnJVQ-uB8oBiBAlzEiKS7yIKDISA0xCgBc4QhuCgB85KyCoDCPCOCXCdChBCqBCyBCrBC3BQkyIwlBQwlB1LR" ++
    "9JVR8IVR5EFRzaFRykBFB0XB5VRK0GRI0GBmGRwBFB-EB9pBR5FoEB6KRyCoDCPCOCXCdChBCqBCyBCrBC3BBqIB9SRiFFR4HFRl" ++
    "FFRnJVR6hBwKxB3FEBME4DErDEjDEREwEE2CE9CEUEiEE5CEtBEpCE-BENEwDEkFEmBEoBE6CELE7CE6DE3DElDEtDhBK7B4BRwL" ++
    "6KhBI7B4BR5DlHR-CkERxElHxB3FCBME4DErDEjDEREwEE2CE9CEUEiEE5CEtBEpCE-BENEwDEkFEmBEoBE6CELE7CE6DE3DElDE" ++
    "tDhBK7J4BRnBkEhBI7J4BBxCQsnBwlBQgmBr8KB28KBh9KBt9KB49KBj+KBu+KB5+KBk-KBs-KBt-KBu-KBv-KBx-KBy-KBz-KB0" ++
    "-KB1-KB2-KB3-KB4-KB5-KB6-KB8-KB9-KB+-KB--KBggLBhgLBigLBjgLBkgLBlgLBngLBogLBpgLBqgLBrgLBsgLBtgLBugLBv" ++
    "gLBwgLBygLBzgLB0gLB1gLB2gLB3gLB4gLB5gLB6gLB7gLB9gLB+gLB-gLBghLBhhLBihLBjhLBkhLBlhLBmhLBohLBphLBqhLBr" ++
    "hLBshLBthLBuhLBvhLBwhLBxhLBzhLB0hLB1hLB2hLB3hLB4hLB5hLB6hLB7hLB8hLB-5KBg6KBh6KBi6KBj6KBk6KBl6KBm6KBn" ++
    "6KBo6KBq6KBr6KBs6KBt6KBu6KBv6KBw6KBx6KBy6KBz6KB16KB26KB36KB46KB56KB66KB76KB86KB96KB+6KBg7KBh7KBi7KBj" ++
    "7KBk7KBl7KBm7KBn7KBo7KBp7KBr7KBs7KBt7KBu7KBv7KBw7KBx7KBy7KBz7KB07KB27KB37KB47KB57KB67KB77KB87KB97KB+" ++
    "7KB-7KBh8KBi8KBj8KBk8KBl8KBm8KBn8KBo8KBp8KBq8KBs8KBt8KBu8KBv8KBw8KBx8KBy8KBz8KB08KB18KB38KB48KB58KB6" ++
    "8KB78KB88KB98KB+8KB-8KBg9KBi9KBj9KBk9KBl9KBm9KBn9KBo9KBp9KBq9KBr9KBu9KBv9KBw9KBx9KBy9KBz9KB09KB19KB2" ++
    "9KB39KB59KB69KB79KB89KB99KB+9KB-9KBg+KBh+KBi+KBk+KBl+KBm+KBn+KBo+KBp+KBq+KBr+KBs+KBt+KBv+KBw+KBx+KBy" ++
    "+KBz+KB0+KB1+KB2+KB3+KB4+KB6+KB7+KB8+KB9+KB++KB-+KBg-KBh-KBi-KBj-KBl-KBm-KBn-KBo-KBp-KBq-KBr-K"

/-- All packed names. -/
def names : List String :=
  [names0, names1, names2, names3, names4, names5, names6, names7, names8, names9, names10, names11, names12,
    names13]

/-- Packed runs of the characters that have these names: the distance to each next boundary. -/
def namedRuns : String :=
  "gB-ChB4WCGEHBBBUBtMBmBCyBCDB3BIbEGLuIB8BClDO7BCxBCPBcCBBLFfBCGsHBICCCWBHBBDECJCCCEIBECBFCZCDBGECCWBH" ++
    "BCBCBCCBBFECCDDBHEBBHRKDBJBDBWBHBCBFCKBDBDCBPECMHHBDBICCCWBHBCBFCJCCCDHDECBFCSKCBGDDBEDCBBBCDCDDDMEF" ++
    "DDBECBGBOVFNBDBXBQCJBDBEHCBDCBCECKHWBDBXBKBFCJBDBEHCGCBECKBCNNBDBzBBDBGEQCaBDBSDYBJBBCHDBEGBBBIGKCDM" ++
    "6BEdlBCBBBFBYBBBXCFBBBGCKCEgBoCBkBEnBBkBBPBNlBmGBBFBC5LBECHBBBECpBBEChBBECHBBBECPB5BBECjCCgBDaG2CCGC" ++
    "9UD5CHWJYJUMNBDBCM+CCKGKGaG5CHrBFmCKfBMEMEBDqBCFLsBEaGLD+BChCBdCLGKGOCfxBtCDvBB0DI8BDPD8BHrBCLIrBF2Q" ++
    "CGCmBCGCIBBBBBBBfC1BBPBOCGBTCDBJBlDBMCbBNDhBPhBPsEE3UZLV04BCgBB9KFtBBBFBC4BHCOYJHBHBHBHBHBHBHBHB+DiB" ++
    "aB5CM2GaMEgCB2CCnDFrBB+CB0CMvBBgPguGgCgwUtkBD3BJ8KU4FIrGFCBBBFY7BDKG4BImCIMG0DLeDuCBLEhBB3BJOCKCnDYc" ++
    "KGCGCGJHBHB8BE+DCK29KXExBk4IHMFFaBFBBBCBCB9DQ9NC2BHBgBqBGzBBTBEEFBnECBB+FDGCGCGCDDHBHKFCMBaBTBCBPCOi" ++
    "B7DFDEtBD4CBNDBvBuBiEdDxBPcEkBJeFrBFeBlBEOqB+ECKGkBEkBEoBI0BLMBPBHBCBLBPBHBCjC3JJWKIYGBqBBJlCGCBBsBB" ++
    "CDBCXBoCIJwBTBCFhBDbFBgC4BEUCyBBCFIBDBdCDEKHJHgCgBnBEMJ2BDdCbFaHEMHwCpC3BzBNzBHuBIKmJfBqBBDCCuCoBIqB" ++
    "WamBcUXJuCEkBJkCKBCZHKG1BBSInBJgDBULSBsBhCHBBBEBPBLG7BFKGEBICCCWBHBCBFBKCCCDCBGBFHCHDFrE8CBFeoCIKmF2" ++
    "BCmBiBlCLKGNT6BGK2BbCPEX5F8BkDzCMICBCIBCBeBCCMJKmCICuBCLboCIzCNpCnIJBtBBOKdDgBCWBOpCHBCBsBDBBCBJIKGG" ++
    "BCBlBBCBGHK2JZ3FBPyBN7cmDvDBFLkGsyCjDNvhBBJn+DnS5tI5RHfBKExCBKGeCGKmCKKBHBVFTwV7ClDrCE5BHRgCFLCugGgY" ++
    "wnJEBHBCBjJtBDRE40CrDFNDJHKCI8yEuBCXJ0D8B2HKnBCiGVmC6EUM3CJZnE1CBnCBCCBCCCEBMBBBHBhCBECIBHBcBEBFBBDH" ++
    "B0KCkJC+VPFBPwiBfhHHBRCHBCBF1GtBDOCKECgKfR6BFBgnBHBEBCBPBlGCQpBsCEKECxYkCsC9BiGEBbBCBBCBBKBEBBBBGBEB" ++
    "BBBBBDBCBBCBBBBBBBBBBCBBCEBHBEBEBBBKBRFDBFBR0BCuIsBEkDMPCPBPBlBKuF4BdNsBEJHCOG6E4eFQDND0DM5CHMEBPME4" ++
    "BIKGoBIeCCuC0KMOCFDFDHJdDLFGKKGIIHJzEB3BlBKnghYBegDgEwH"

/-- Packed other names of characters. -/
def otherNames : String :=
  "Az6BA72JgBnXbh3CA1qLgBnXbrVAzvLgBwHbrVAphHgBwHb2vBAsgHAhzCA--GAymBA7tEAiwEA0+EA4qCA2hFQuO-SQsC-SAw7H" ++
    "AqXQkEpeQ2fkEgBwHbkEA8zIAlyJApgHQkE-SQnB-SAq0MQDpeA8zCQrtC+kBAloGQrlB4OQ-8CPAsKQrlBsFQ-8CoDAmLgB8vCk" ++
    "4B1oBAnxCgB4dhWPAytGgB4dhWOAztGgB4dhWXA0tGgB4dhWdA1tGQ3OymBAzqJQovD14CAuyLwBwHb2vBhFAmhHAsnBAoPgBwHb" ++
    "hDArgHAy-BAhwLA1oBA+gHgBibtIdQretIAqoHgBibtIXQ31BtIAywHgBibtIOQ98BtIA2zKgBibtIPQ+lBtIA4gBAgtDAzzBAgi" ++
    "BQt-JuOA6fgB+Dw8J0nKA+3CgB6sC+iKo3CAhhFgB8G6sCo3CArrJAoCA6hIQniDkEA-hDwBnXb6qDidA9GwBwHb6qDidA8gHgBu" ++
    "O-S6TgBsC-S6TAy7HwBuO-SA25CwBsC-SA25CAx7HgBkE-S6TgBnB-S6TAr0MgBrZkEoNCzBA4lKgBrZkE-7ECpBA9lKgBwLkEpe" ++
    "BoCAkOgBnErlBOAwoLArsLgBnErlBXAxoLAssLgB4dhWv-BA2tGgBu8B5hCPB+kMAzoKgBu8B5hCOB-kMA1nDgB6To8LhuLAtvLQ" ++
    "snBuOA1lFQ+-ChiCAx5BwBnXbr2CidSynDidAhtDwBwHbr2CidSynDidAtgHgBnXbv-BA9sDwBnEmwHuOw2BA3kLgBnEuOw2BAj5" ++
    "KgBhWqiLw2BA3oGQv-BgwDA+uBgBz9J6yLwuCAj+JQ7nK+-CAgnDgB2pC-nKwuCAiyEA2rJAp+BwB3FEB-FhBCB-FA8mFAswEgCv" ++
    "lBgvBqIyuBKgB-5CBsbwB-7CBsSp0CDolHC5JCpMgDwgCV8rCj+BsLuQj9BgB5U62Bq9MCs9MC4sLCp9MA4oHA5oHA6oHAqoJA7o" ++
    "HAjkNAikNAr2DA72IAiyKA52IAgyKAjiKA82IAjyKA-yJA+kJAj4MA62IAhyKAroHAkiKgBn3Mu-Gn1BwB0jJ6E4gBgBRyGgBgDx" ++
    "BpEHATnBfgDjBpEHATnBfwBoJoO8UVwB3rBBmfuJAqsMA5vMA9xMAoyMAzyMA+yMApzMA0zMA-zMArsMA2sMAhtMAstMA3tMAiuM" ++
    "AtuMwDitBDnHnBIc6W4BgB-iF69JVAtgFAhkNwBivCFlsB3GjCiClsBsUiCsUwBz-CEB9CD9MhBCB9CD9MgBn3CB38GgDktCoRgB" ++
    "tezuB1nBszDA4uMAjvMAuvMA6vMAlwMAwwMA7wMAmxMAxxMA5xMA6xMA7xMA8xMA+xMA-xMAgyMAhyMAiyMAjyMAkyMAlyMAmyMA" ++
    "nyMApyMAqyMAryMAsyMAtyMAuyMAvyMAwyMAxyMAyyMA0yMA1yMA2yMA3yMA4yMA5yMA6yMA7yMA8yMA9yMA-yMAgzMAhzMAizMA" ++
    "jzMAkzMAlzMAmzMAnzMAozMAqzMArzMAszMAtzMAuzMAvzMAwzMAxzMAyzMAzzMA1zMA2zMA3zMA4zMA5zMA6zMA7zMA8zMA9zMA" ++
    "+zMAg0MAh0MAi0MAj0MAk0MAl0MAm0MAn0MAo0MAp0MAssMAtsMAusMAvsMAwsMAxsMAysMAzsMA0sMA1sMA3sMA4sMA5sMA6sMA" ++
    "7sMA8sMA9sMA+sMA-sMAgtMAitMAjtMAktMAltMAmtMAntMAotMAptMAqtMArtMAttMAutMAvtMAwtMAxtMAytMAztMA0tMA1tMA" ++
    "2tMA4tMA5tMA6tMA7tMA8tMA9tMA+tMA-tMAguMAhuMAjuMAkuMAluMAmuMAnuMAouMApuMAquMAruMAsuMAuuMAvuMAwuMAxuMA" ++
    "yuMAzuMA0uMA1uMA2uMA3uMA5uMA6uMA7uMA8uMA9uMA+uMA-uMAgvMAhvMAivMAkvMAlvMAmvMAnvMAovMApvMAqvMArvMAsvMA" ++
    "tvMAvvMAwvMAxvMAyvMAzvMA0vMA1vMA2vMA3vMA4vMA7vMA8vMA9vMA+vMA-vMAgwMAhwMAiwMAjwMAkwMAmwMAnwMAowMApwMA" ++
    "qwMArwMAswMAtwMAuwMAvwMAxwMAywMAzwMA0wMA1wMA2wMA3wMA4wMA5wMA6wMA8wMA9wMA+wMA-wMAgxMAhxMAixMAjxMAkxMA" ++
    "lxMAnxMAoxMApxMAqxMArxMAsxMAtxMAuxMAvxMAwxMAyxMAzxMA0xMA1xMA2xMA3xMA4xM"

/-- Packed distances of the characters with these other names, each from the one before. -/
def otherGaps : String :=
  "AABABABABABABABABABAAABAAAAABAABABABAABAABABABABABABABABABABABABABAABAABAABAAB-CABABABABABABABABABAA" ++
    "BAABAABAABAABAABAABAABABAABAABABABABAABAABABABABABABABABABN1HBsNtWtH1uB-NCECrJ8QBBB8wBBBBB8-BBBBBbBB" ++
    "BBBwBBGBBBvFwZBx5BC5kd5yCy8UBBBBBBBBBBBBBBBJnHAA1+IBh8SBfBqsQkmI7hsYBBBBBBBBBBBBBBBBBBBBBBBBBBBBBBBB" ++
    "BBBBBBBBBBBBBBBBBBBBBBBBBBBBBBBBBBBBBBBBBBBBBBBBBBBBBBBBBBBBBBBBBBBBBBBBBBBBBBBBBBBBBBBBBBBBBBBBBBBB" ++
    "BBBBBBBBBBBBBBBBBBBBBBBBBBBBBBBBBBBBBBBBBBBBBBBBBBBBBBBBBBBBBBBBBBBBBBBBBBBBBBBBBBBBBBBBBBBBBBBBBBBB" ++
    "BBBBBBB"

/-- Packed runs of the characters that are named by a kind and their number. -/
def numbered : List (String × String) :=
  [("CJK UNIFIED IDEOGRAPH-", "ggNguGgCgwUgg4Cg3pBgB5hEH+GCi0FOxpH-gFr6E"),
    ("CJK COMPATIBILITY IDEOGRAPH-", "go+BuLCqDmp-D+Q"),
    ("KHITAN SMALL SCRIPT CHARACTER-", "g4iD2O"),
    ("NUSHU CHARACTER-", "wrsDsM")]

end PhaseScript.CharacterName.Data
