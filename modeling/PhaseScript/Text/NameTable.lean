/-
The names of characters (Unicode version 14), packed as the other tables of characters are. For each name the number of
words that it shares with the one before it, and sixteen times the number of its other words but one; then those words,
by their places among all words. The first half.
-/
set_option autoImplicit false

namespace PhaseScript.CharacterName.Data

/-- Packed names, a part. -/
def names0 : String :=
  "A1LQ9JVQ8IVQ5EFQzaFQykBFA0XA5VQK0GQI0GAmGQwBFA-EA9pBQ5FoEA6KQyCoDBPBOBXBdBhBBqBByBBrBB3BAqIA9SQiFFQ4" ++
    "HFQlFFQnJVQ6hBwKwB3FEBMD4DDrDDjDDRDwED2CD9CDUDiED5CDtBDpCD-BDNDwDDkFDmBDoBD6CDLD7CD6DD3DDlDDtDgBK7B4" ++
    "BQwL6KgBI7B4BQ5DlHQ-CkEQxElHwB3FCBMD4DDrDDjDDRDwED2CD9CDUDiED5CDtBDpCD-BDNDwDDkFDmBDoBD6CDLD7CD6DD3D" ++
    "DlDDtDgBK7J4BQnBkEgBI7J4BAxCQt6B1LgB0E9JVQ1tCFQgtBFQ+hBFQrmBFQtdvBQ4KFAhEQ4uCFgB6zC0kDxYgCoMT0F8IVQj" ++
    "FFQyQuSQqvKFA2EQgoBFQkmKFQ1ROBXQgDlHQ1jJFQxmDFQlBWAgJQ1RPgBz-I0kDxYgC2KT0F8IVwB+hC3MPmID0BSX3PgB0EnJ" ++
    "VwC3FEBMAxEFgDF5DFxCFhEVzCJDnIjBrDAgJjBRAxEFgDF5DFhEjBUAxEFgDF5DFhEDnYjB-BAxCjBNAxEFgDF5DFxCFhEQ0TFw" ++
    "C3FEBNAfjBLAxEFgDF5DFhEjBlDAgDDgaxBCBlgBoBjBMAxEFgDF5DFxCFhEVzCJDnIjBrDAgJjBRAxEFgDF5DFhEjBUAxEFgDF5" ++
    "DFhEDnYjB-BAxCjBNAxEFgDF5DFxCFhEQhYFwC3FCBNAfjBLAxEFgDF5DFhEjBlDAgDDgajBlDAhEhCEBMA2EhCCBMA2EhCEBMAo" ++
    "FhCCBMAoFhCEBMA1PhCCBMA1PhCEBrDAgDhCCBrDAgDhCEBrDA5DhCCBrDA5DxCEBrDAWJxCCBrDAWJhCEBrDAqGhCCBrDAqGhCE" ++
    "BjDAqGhCCBjDAqGhCEBjDAfhCCBjDAfhCEBRA2EhCCBRA2EhCEBRAoFhCCBRAoFxCEBRAWJxCCBRAWJhCEBRA1PhCCBRA1PhCEBR" ++
    "AqGhCCBRAqGhCEB2CA5DhCCB2CA5DhCEB2CAoFhCCB2CAoFxCEB2CAWJxCCB2CAWJhCEB2CAgJhCCB2CAgJhCEB9CA5DhCCB9CA5" ++
    "DhCEB9CAfhCCB9CAfhCEBUAxChCCBUAxChCEBUA2EhCCBUA2EhCEBUAoFhCCBUAoFhCEBUA1PhCCBUA1PxCEBUAWJxBCBpQUhBEk" ++
    "I44ChBCkI44ChCEBiEA5DhCCBiEA5DhCEB5CAgJhCCB5CAgJDptIhCEBtBAgDhCCBtBAgDhCEBtBAgJhCCBtBAgJhCEBtBAqGhCC" ++
    "BtBAqGxCEBtBAlBWxCCBtBAlBWhCEBtBAfhCCBtBAfhCEB-BAgDhCCB-BAgDhCEB-BAgJhCCB-BAgJhCEB-BAqGhCCB-BAqGkBun" ++
    "KiS5VhBEBoShBCBoShCEBNA2EhCCBNA2EhCEBNAoFhCCBNAoFxCEBNATgDxCCBNATgDhBEkIjHhBCkIjHhCEBmBAgDhCCBmBAgDh" ++
    "CEBmBAgJhCCBmBAgJhCEBmBAqGhCCBmBAqGhCEBoBAgDhCCBoBAgDhCEBoBA5DhCCBoBA5DhCEBoBAgJhCCBoBAgJhCEBoBAqGhC" ++
    "CBoBAqGhCEB6CAgJhCCB6CAgJhCEB6CAqGhCCB6CAqGhCEB6CAfhCCB6CAfhCEBLAxChCCBLAxChCEBLA2EhCCBLA2EhCEBLAoFh" ++
    "CCBLAoFxCEBLAzCJxCCBLAzCJxCEBLATgDxCCBLATgDhCEBLA1PhCCBLA1PhCEB6DA5DhCCB6DA5DhCEBlDA5DhCCBlDA5DhCEBl" ++
    "DAhEjBtDAgDhCCBtDAgDxCEBtDAWJxCCBtDAWJhCEBtDAqGhCCBtDAqGT1DoBjB4DAfhCEB4DAeF1vBhCCB4DA1vBxBEByDqBxBC" ++
    "ByDqBxBEBuDNjBrDAehCCBrDAexBEB5wBjDjBjDAeF1vBhCCBjDA1vBT0DlMxBEBgERDmVTuDRjBwEAehCCBwEAehCEB2CAeDrLh" ++
    "BCB8pBhBEB0IjBUAfjB5CAehCCB5CAejBtBAvBjBhyIAfxBEB0DpCzB-BAKehDCB-BA1DIiOxCEBNAlBxCF8HhCCBNA8HhBEBpkB" ++
    "hBCBpkBhCEBwDAehCCBwDAeRBu1DxBEByDOxBCByDOhBEBmNxBBgEmNvNxCCB6CAmJehCEB6CAehCCB6CAexCEB6CA2GejBLA8Hh" ++
    "CCBLA8HhBEBxJjB7CAejBlDAehCCBlDAehCEBtDAfhCCBtDAfhBEBqWEgExBCBqWgEUAuFxBBOAfxBEByDhBxBCByDhBxCB0ErJo" ++
    "EAfCpwBS0zBqTSh8CqTSkpCqTS2GqThCEBkYAqGjDjDACBtDAqGhCCBkYAqGhBEB+8CjCtBACBiEhBCB+8ChBEB7iDjC-BACBiEh" ++
    "BCB7iDhCEBMAqGhCCBMAqGhCEBUAqGhCCBUAqGhCEBNAqGhCCBNAqGhCEBLAqGhCCBLAqGhDEBLAhEG2EhDCBLAhEG2EhDEBLAhE" ++
    "GgDhDCBLAhEGgDhDEBLAhEGqGhDCBLAhEGqGhDEBLAhEGxEhDCBLAhEGxET0DRhDEBMAhEG2EhDCBMAhEG2ExDEBMAWJG2ExDCBM" ++
    "AWJG2EhCEBnIA2EhCCBnIA2EhCEB2CAfhCCB2CAfhCEB2CAqGhCCB2CAqGhCEB5CAqGhCCB5CAqGhCEBNA1PhCCBNA1PhDEBNA1P" ++
    "G2EhDCBNA1PG2EhCEBqWAqGhCCBqWAqGjBiEAqGhBEBkYjCjDACBtDhBCBkYhCEB2CAgDhCCB2CAgDhBEBm4CDpwBjB-BAxEhCCB" ++
    "-BAxExDEBMAzCJGgDxDCBMAzCJGgDhCEBnIAgDhCCBnIAgDhDEBNAfGgDhDCBNAfGgDxCEBMATxExCCBMATxExCEBMA0EoFxCCBM" ++
    "A0EoFxCEBRATxExCCBRATxExCEBRA0EoFxCCBRA0EoFxCEBUATxExCCBUATxExCEBUA0EoFxCCBUA0EoFxCEBNATxExCCBNATxEx" ++
    "CEBNA0EoFxCCBNA0EoFxCEBmBATxExCCBmBATxExCEBmBA0EoFxCCBmBA0EoFxCEBLATxExCCBLATxExCEBLA0EoFxCCBLA0EoFx" ++
    "CEBoBA-EQxCCBoBA-EQxCEB6CA-EQxCCB6CA-EQhBEBt1DhBCBt1DhCEB9CAqGhCCB9CAqGhDEB-BA1DIiOhCCBjDAoLhBEBmZhB" ++
    "CBmZhCEBtDAehCCBtDAexCEBMAWJxCCBMAWJhCEBRAgJhCCBRAgJhDEBNAhEG2EhDCBNAhEG2EhDEBNAxCG2EhDCBNAxCG2ExCEB" ++
    "NAWJxCCBNAWJxDEBNAWJG2ExDCBNAWJG2EhCEBlDA2EhCCBlDA2EjBtBAoLjB-BAoLjB6CAoLTpQiET-vCqJTorKqJhCEBMAfjBr" ++
    "DAfhCCBrDAfhCEBtBAvBzB6CArGfxCCBoBAvgBuFzBtDAvgBuFxBEBrJoExBCBrJoEhCEB4DAfTLvBT0D7CjBRAfhCCBRAfhCEBi" ++
    "EAfhCCBiEAfhDEBCkFAeuFxCCBkFAeuFhCEBmBAfhCCBmBAfhCEBlDAfhCCBlDAfT0DMDhIT0DhIjB4DAeTuDNjBrDAoLjBjDAuF" ++
    "FeTgERDmVUAeTuDRjBgEuDRWAezB3HgEuDRzBpQiEAfjB2CAeT3K2CxBBCE2ChBCBrLT0oD8HT0D9CjB9CAejB3iBAejBUAfD0Ix" ++
    "BBCEUxCCBtBAlBxCFoTV2GeDi4BT0DpClBA1DiOjBpCAezB-BAKeV2GexBBCE-BxBCBpUNxBBCEjHxBCB3HsHDrKT0DmBlBA1DiO" ++
    "GezBmBA1DiOFuFF4azBgEmBA4axBBCEmBU0EmBhCCBoBAeDmNzCpQiEAfGejBqtDgEmNjBmNAoLT0D6CzB6CA2GeTLvBDxJjB7CA" ++
    "eT0D7CE6DElDxBBCElDxCCBtDA2GeFoLDqWUAoLhBBrJoEiBkmDyVmoHiB0ErJoESu-BrDS1xBqTiBCE4DhCCB3HuDRxCBCE2CAe" ++
    "E9ChCCBiEAiWT0D5CxBBCEtBhCCBkFAehCBrJoEAfiCgErJoEAfxBCBkYqJTioBqJzBkYqJAoLTmhCqJTqvBqJzB3vDqJAoLT40B" ++
    "qJTm9CqJTx9CqJhBB1xB8lDSt-E8lDxCCB0D9CA4aXGuFwB6IBC9CUAeDiEDmBT0DmBVAejBE0EmBD6DDlDC5SST5SS0D-EC5VSg" ++
    "E-EiBI0BzCiBK0BzCSrJoEiBgErJoESKrESIrESpBrESzBrES5DlHAqGwB6IBnBkEC2ESgDlHSxElHiB-CnBkED2ETxElHTgDlHS" ++
    "3LqIiB0B3LqIyB7XI0BzCjBK0BzCSpB-HSzB-HSwBFSwNFAoFQWJQzCJA1PQCxCgBTgDlHwB6IBywKeSnGlHSCrLDtBDoBD3DjBg" ++
    "ErJoEiB4oByDvBiB+DyDvBiBwbyDvBiB-CyDvBiB5oByDvByByX1zByDVyBlT1zByDVC3zDChkMST5ViB-CzBrETpBrETKrETIrE" ++
    "DzCiBlBxElHjBTxElHUgDlHS-CxCSiKqIiB3X+DyDiBwH+DyDiB3X-CyDiBwH-CyDCqrDSuDqrDiB-CKHgBmHxElHRgDlHR5DlHB" ++
    "xCB2EBnZBoFRWJBhEReJRzCJhBTgDlHBqGhBnBkEJxBTnBkEJSxElHBvIR0EoFhB0D-EJR-EJhBgE-EJhB-EJIhBxElHQhBgDlHQ" ++
    "hBK-HQhBI-HQhBK0FJB8HxBK0BzCQhBpB-HQhBzB-HQhBwBFQhBwNFQhB4-JeQhB2GeQRWQRhEQRzCQR-EQBgJB1PhBnBkEQRsdQ" ++
    "xB0ET5pCQRqGQhB5DlHQRoFQhB0EoFQRxCQR2EQR-CkEhBT-CkERxCjLhB6FfjLhB1DfjLhB6F6KjLhB1D6KjLxBI0BzCQhB0Esd" ++
    "QR7BQRz5KQR3DJRnBxCRTnZhBxEyDVhBgDyDVRoKvGCx3BSnQ-MCvHRsdJhB4HFQxBTnBkEQhBK0FQhBjFxCJR93CJxBqOrCYJxB" ++
    "KIHQhBiDHQRlwHkbhBIrEJxBK0BzCJB7zCR3DQhBKrEQhBIrEQzBGpBrEQiB0BzCJhBWJIRmGQhBTzCQRqaJhBToFQCoFC2EDQCx" ++
    "CS0EoFiBjBHQxB3FCBMEREUENELErDEjDE9CEpCEmBE6CE7CE3DwBoKEBq3ChBCBq3CxBEBvMggBxBCBvMggBRjVFhB3CjVFxBEB" ++
    "klD7dxBCBklD7dBvHhCCgE-UkKgByBpH-UkKgBiCgEpH-UkKgBRnJVhBEBtmBB-MRnQ-MhCEBhIA-MR1X8vDhCEB8JA-MjB9LA-M" ++
    "jB0IA-MjBxNA-MjBxJA-MjBsHA-MhDCB0IAnQG-MhBEBhIDyMDrLDlMD8JD5RD9LDtKD0IDsNDtQDqHDsID+PDxND1GD4JDkKD2N" ++
    "DxJDrKDyKDjODsHjB0IAnQjBxJAnQhCCBhIA-MjB8JA-MjB9LA-MjB0IA-MjCxJAnQG-MDhIDyMDrLDlMD8JD5RD9LDtKD0IDsND" ++
    "tQDqHDsID+PDxND1GD4JTSkKDkKD2NDxJDrKDyKDjODsHjB0IAnQjBxJAnQjBxNA-MjBxJA-MjBsHA-MhBEifgBRyMgBRtKgBxBx" ++
    "JAegBzBgDGegBzBhEGegBRrKgBR1GgBRifgBhBBvMpfxBCBvMpfRBo-BhBCBo-BRB7dhBCB7dRBpfhBCBpfRBggBhBCBggBwBnKE" ++
    "B1ZhBCB1ZhBEB5zChBCB5zChBEBnfhBCBnfhBEB5ehBCB5ehBEBvehBCBvehBEBichBCBichBEBuwChBCBuwCgBoKsNgBR4JgBhB" ++
    "-UkKgBRBtmBhBEtKgBhB-U8JgBxBgE-U8JgBhBEB8ThBCB8TxBE-UkKgBSBhgBhBCBhgBxB4JAfgBhCEgE-UkKgByBpH-UkKgBiC" ++
    "gEpH-UkKgBwClQEB-NAxEDx2BDkoBDy1BT0hC-NDlYTjtCUDoJDvSDlrBDjZD1xDD46CjBUAxET6FLD-xCDMDlPDiPDqNDpLD-ND" ++
    "kPD7LDUT6FUD5BDqLDlND+FDNDlGDtPDtTD1HDLDyUD2BD2QDxKDmED99BT6UFDjUTyQFDRDyHDnChBCBMDlPDiPDqNDpLD-NDkP" ++
    "D7LDUT6FUD5BDqLDlND+FDNDlGDtPDtTD1HDLDyUD2BD2QDxKDmED99BT6UFDjUTyQFDRDyHDnCjB-NAxEDx2BDkoBDy1BT0hC-N" ++
    "DlYTjtCUDoJDvSDlrBDjZD1xDD46CjBUAxET6FLD-xChBEBsHhBCBsHhBEBxXhBCBxXxBEB0ORxBCB0ORxBEBqFpJxBCBqFpJhCE" ++
    "B0OqFpJhCCB0OqFpJxBEBiQpJxBCBiQpJhCEB0OiQpJhCCB0OiQpJhBEB3qBhBCB3qBhBEBjOhBCBjOhBEB5ahBCB5ahBEB-ehBC" ++
    "B-ehDEB-eATxElHhDCB-eATxElHhBEB2gBhBCB2gBxBEB7SsHxBCB7SsHhCEBsHAwvBhCCBsHAwvBhBEBusBhBCBusBhBEBpfhBC" ++
    "BpfRhaFgBmHlQwvBC3-JS9DhnDS-DhnDCumKiB1BhaFSxbFgDlQEB6FUAuFxCCB6FUAuFxBEB+qDFxBCB+qDFhCEBtPAsVhCCBtP" ++
    "AsVhCEBqNA3hChCCBqNA3hChCEBqNAfhCCBqNAfxCEBqNAlBexCCBqNAlBehCEBkPAhHhCCBkPAhHhCEB7LAhHhCCB7LAhHhCEB5" ++
    "BAhHhCCB5BAhHxCEB5BAnBfxCCB5BAnBfhCEB5BAfhCCB5BAfxBEB9qC5BxBCB9qC5BhCEB+FAhHhCCB+FAhHxBEkI+FqNxBCkI+" ++
    "FqNxCEBlGAlBexCCBlGAlBexBEBzX2BxBCBzX2BhCEBtTAhHhCCBtTAhHhCEB1HAhHhCCB1HAhHxBEB7KLxBCB7KLxCEB7KLAfxC" ++
    "CB7KLAfhCEB2BAhHhCCB2BAhHxBEkI1H2QxBCkI1H2QhCEBxKAhHhCCBxKAhHxCEBxKAnBfxCCBxKAnBfhBEBouBhBCBouBxBEBz" ++
    "XxKxBCBzXxKxCEBzXxKAhHxCCBzXxKAhHRBilDhCEBkPAoFhCCBkPAoFhCEB5BAehCCB5BAehCEBqLAuFhCCBqLAuFhCEB+FAehC" ++
    "CB+FAehCEB+FAuFhCCB+FAuFxBEBw6CxKxBCBw6CxKhCEBlNAuFhCCBlNAuFDilDhCEBMAoFhCCBMAoFhCEBMAhEhCCBMAhExBEk" ++
    "IM-NxBCkIM-NhCEB-NAoFhCCB-NAoFhBEBmVhBCBmVhCEBmVAhEhCCBmVAhEhCEBkPAhEhCCBkPAhEhCEB7LAhEhCCB7LAhExBEB" ++
    "zXlYxBCBzXlYhCEBUA2EhCCBUA2EhCEBUAhEhCCBUAhEhCEBNAhEhCCBNAhExBEBpUNxBCBpUNxCEBpUNAhExCCBpUNAhEhCEBRA" ++
    "hEhCCBRAhEhCEBLA2EhCCBLA2EhCEBLAhEhCCBLAhExCEBLATgDxCCBLATgDhCEBxKAhEhCCBxKAhEhCEBqNAhHhCCBqNAhHhCEB" ++
    "jUAhEhCCBjUAhEhDEBqNAfGehDCBqNAfGehCEB2BAehCCB2BAehCEB2BAfhCCB2BAfxBEB2OpLxBCB2OpLxBEB2OkoBxBCB2OkoB" ++
    "xBEB2Ok2DxBCB2Ok2DxBEB2OhyCxBCB2OhyCxBEB2OlrBxBCB2OlrBxBEB2OjZxBCB2OjZxBEB2OssDxBCB2OssDxBEB2O5wDxBC" ++
    "B2O5wDxBEBgE7LxBCBgE7LhCEBqLAehCCBqLAehBEB3YhBCB3YhBEBkXhBCBkXhBEBpmBhBCBpmBhBEBrMhBCBrMhBEBmKhBCBmK" ++
    "xBEB+oC5BxBCB+oC5BxCEBqLAlBexCCBqLAlBexCEB+FAlBexCCB+FAlBehCEBlGAhHhCCBlGAhHhCEBouBAhHhCCBouBAhHxCEB" ++
    "+FAKexCCB+FAKehBEBmyChBCBmyChBEBgwChBCBgwChCEBqLAhHhCCBqLAhHwBqhBEBoxBD0xBDx1BD0CDheDjGDzUD-QDYDkPDu" ++
    "2BD98CDuiCDuEDljBD+JDsED51CD+tCD9WDoJDisBDmEDxVDyED7fDr5CDgCD4qDD9hCD4wDD1IDlSD7iCD+7BDl3BDokBDiLhC6" ++
    "IBK0BzCB5VR9yCVR9JVB-ERnJVRhNVxBCB0DoxBDoxBD0xBDx1BD0CDheDjGDzUD-QDYDkPDu2BD98CDuiCDuEDljBD+JDsED51C" ++
    "D+tCD9WDoJDisBDmEDxVDyED7fDr5CDgCD4qDD9hCD4wDD1IDlSD7iCD+7BDl3BDokBDiLiBkIhe7iCyBBoJAfR5FoEBuSwB5tBq" ++
    "hBw0BFwBirBqhBw0BFgBqhBxxCFgBk3ClHohHC29BCglLSyhN9nDDlrHCn6LCswKC0hNCthKCt9MC13LCv1CD8nJCw1CSnqKolDS" ++
    "9vDnsHCgiKSx0EzyHC0nJCj+ICwhJD6oICqtGCiqKS9vDrqKiBn9M0xBx+MC98JCkhIChvGCmjNhBV1-I9BRrR5lLS0zH29BD0sB" ++
    "DltBCz3CCr+LC29BC0sBCltBC63CjBzzHnH5gBCsrKiBgLvD04BC2hJRwGi-IRrRqtBRwGrhKhBrR9IWSwuBWhBwG5sD0hKhBVsD" ++
    "WS3CWhBwGkG0yHhBrRltB9nDRBqCCpdCwOC+nBC7GC5gBC5QCp3CCxcC1VSS4IC4IC-qBSS8MC8MSSkGCkGC8OC9RSSlGClGSSnh" ++
    "CCnhCC38BCwRC9IC--BR1V4CxBkIo1DT5gBT5gB1VTT1VRwGv1CCw1CgBuM5EFRFi4KRs0C7YRFoqDCg4KhB5EVJgBnUkzBilBRk" ++
    "pBilBQuM2oDwBnU07BrgDFiB2DjCFQ3uEFQuM-ER9vCtIhBqmK8hCFRF6kJiBrqDkhB32MSkhBh0ESguKkhBiBxoDrwEsxECs1Lh" ++
    "BC+DwJzCkIqCAxHAhCDgQCpSCwUCjRB9SRBVxBwHbrVVxBoGWwGVRnJVhBBj6ChCCzHyBqCA8WJUzHJyBuHAzHJyBqCAzHQyBhCA" ++
    "zHJCqCCkMStM14BCtMCiTCzDCkDCwFCmQCycC1ICgQC6JC+MCkLC1MCwJCkUCgIC8NiClfAO+BJkBX+BQiC2ahCA0E7ClBO+BJlB" ++
    "X+BJBnvBRBiLChKC4ICxHCuBCoHCjJCuHSqC3EChCBoeB-hBBjjBBpSBwUBjRBkgBBqcR++CJRzHJCQRpcqCR0EwUhBVoHppBBgk" ++
    "NhCuCFC7CJzB0EC7CJTWQRgEwUxBpSAO+BhBzVzHQgBnUyCoDCPCOCXCdChBCqBCyBCrBC3BgBuMykBFRxzBtIRhatIhBhB6HmFh" ++
    "BBpQkMDhKS1RqCSqCiiCzBAzVzHJGQS+DzHEqCEuHyBLAzHJiB+DzHhCCqhCC9xDCrrCiBtMAzC0BX+BJ1CC7fC7vDCurCyBkDAz" ++
    "HJ0BO+BnBJC9jDC9xCiCkDAX+BJCovBC5vDCjwCiBmQAzCUWQmBGCwJCvvCCiwCC5xCyCmQAX+BJ1CkBd+BJC9pDyB1IAC7CEzCU" ++
    "WQkBC7CQkCWQGWJkBO+BJCq5CiC1IAd+BJiD6JAWQGWJkBX+BQ3BGX+BJiCkLAO+BQkBX+BJiCwJAX+BJiCgIAX+BJSpQiLiCiLA" ++
    "WymJQFQCtzDiCiLAX+BQC1lDyBhKAWJkBX+BJClfSvgB4IiB4IAzCUWJC9MiC4IAX+BQCueTAzCCziDiCueAO+BQCs2CiCueAX+B" ++
    "JyBxHAC7CUWJkBX+BJGQyBoHAWQDppBCypDiBoHAzCkBX+BJSjJoxCyBovBAWJyBjJAhCJDrpBkBAzHJiBtM14BrpBiBuHAzCSoj" ++
    "BjHCjHCLCyHSojByHiCuHAO+BJCiPS2ahCiBhCAuFUC7CyBuHAWJCRiChCAX+BQDknBkBAzHJR5FoERBnIhEC+DkIkLAxHAqC3E0" ++
    "ChKAxHAqC3EjBuBiBDTxHqCDzDTX+BD6JhBwHbsqChCnXb-pDqLs2HxBC+DkVoDjBzkM5oDoDzBpQ5MbwFjBuBaDS-C6JS+D8WCu" ++
    "HChCS+DhCDoHhB4bbu3KxB0apF-CoET+DoExCkV+DoEAimHpFhBC-CuBhCBmQA0E7CyB1IA0E7CwBoYnUyCoDDPDODXDdDhBDqBD" ++
    "yBDrBD3BwCuMB+MAWQyB1MAWQyB8NAWQhBFtoL0XT+mK9WhCBjJA0E7CwBvlBwHbwkBhB0-B5FoEhBgvB5FoER0-BqIRgvBqIRsC" ++
    "qIhBqIyuBKDIxB0-BqIyuBKxBgvBqIyuBIBpnGRxzHj8JC4hJCj0ERhNVRB8oCS1R8oCC6NCqrHDj1CCwvCiBpQwvCo9BC7GCuHC" ++
    "gQCuPCqVDj1CCq-MD7GC1OCgyICwrBCkGC-qDSS-qDCRClGSgElGC5PClqKCo9BC9ICgPS+lDzrCD4tHDjwGRyoKJCQCpHRzjNJC" ++
    "QCpHR2uKJCQhBpHsjNsCDpxER9zHJCQR+zHpHR9gHJCQB50KR6zCWB9rKBk0KxBOnB+BJEQhBX+BJDQhB0PkEJDQBkhDB-8EhBB7" ++
    "+BiiNDx6CDqSwDuMBkMAX+Bo7HQ0CWQGX+BJkCX+B4EiDQ5BGO+BJ0CO+BQGWJ0B0EC7CQUC7CiCkDAO+BJkCX+B4EiDQiEmQAO+" ++
    "B6cQGCwJ0B0EC7CQiB1IAfiC6JAd+BJiCgIAO+BJkCX+B4E1CJ0BO+B6cJiCiLAO+BQkCX+B4EiDQyBlfAWJkBX+BJmB4EiDQyBu" ++
    "BAWJFQiCoHAO+BQUCwJF7CiBxHAvByC1IAO+B6cJUzHJyC6JAO+B6cJiDkDACuMBwJQoBGO+BiE6JACuMBwJGO+BiE1IACuMBwJG" ++
    "O+BiDkDACuMBwJJiDqCAoYnUyCOJXXJyD2ahCAoYnUyCOJYXJYdQiDuHAoYnUyCOJXXJyDhCknBAoYnUyCOJYXJiDkDAoYnUyCdQ" ++
    "iD6JAoYnUyCdJU0E7CiC4IAO+BJgB53LBwWCplLC5zJC7kBC-mBC+zIC+mIClwEChoMC+gJCrkHCgwGCylBCgwICjrHCpvHC65KC" ++
    "utGC2hNCj2LC-gBC9hKC4jICsnFC7xDCs3CCu6CC43LC91DCulLCm3KCxsGCYCmTCuvEC3tHCgqKCn2MBytEB0qEB2+HB0+GBmjM" ++
    "Bp9JBw+GBliHBn8JB-7JBqcRByfgBjyJyCoDCPCOCXCdChBCqBCyBCrBC3BRBMCzGCUCRCLCiGCNC4sGC-BCmDC8BCwCCsECyEC0" ++
    "CCgCCsMCvCCs1BC6GC5BCkCSmCu0DClCCzECmCC2BCtECnCSzEu0DSmlIsEDyEDgCxBmH6F+DyDT-CyDTxRyDiB1D2zByDT+DyDT" ++
    "-CyDTxRyDS45BViBTWJhB+DyD5VhB-CyD5VhBgBiGsvGC6rHB-ER9JVBywIBotGR+yGFRw1LFgBtqDB5vEC6rCCrrHCgtGC32BC-" ++
    "mBCvmBC22BC2wDCvwBC55CCkwICwrBCkGCvoLCsFCuTCo+LCvrKCo9BC7TC70LRVsFCxhICs8JCgLxB6IBlzCvwBhBVlzCvwBxBu" ++
    "CF1DRDRT5kDpDT1DpDDpDT5kDMT1DMDMxB6IB6FMxBuCF6FMT1DLDLhB6IBUxBuCF1DUDUDNDqcRViiDRwGiiDC5uECixECn9ECw" ++
    "0EChmLRhNVhBwGlhJ-nDCpjNC-nDCohNC9-LCgzES5sD0-ICzxEgB1+IB-yHC3VC0mBC-cC6RChlMCuqCC22BCz0EC0vEC1mBC4V" ++
    "CmUCiIChQCsFCupCCq0ECohBCjxBCpGCwKCh8GCknICgIR2uEVR2rMVRxiBVBwGwBvlBBk-ClEDsEDzED8FDsGDlkBDtGDgCDuJD" ++
    "sbD9GwCuMBqCAjdpSlB4GIpSkBIlBfkBKlBfUjdjRlBoIIjRlB7SWJlBI7SWlBK7SWlB7SWQUWJkDjd4GIpSGWJ0CIlBfGWJkDjd" ++
    "oIIjRGWJ1C4GIpSGKzC0CIlBfGKzCkDjdoIIjRGKzCVIzHVKzHxBnvBAy+JzHEuHjBO+BQhBBsvBhChB8qC7SWhBiK7SWxCBoHA0"

/-- Packed names, a part. -/
def names1 : String :=
  "EC7CyCkDA0EC7CQyBwJAWQkBX+BQyClfAO+B6cQRnBuFhBgtBVJhBskKVJxBC+D8P3vEiB-C8PkjIEmhIE+1LR8Wm2MhB1RqC6lJ" ++
    "RnoB8WxB0B8WiC8WxCBkMAC7CQUzHJiCzDAO+BJiCwJAO+BJyDiLAWQGX+BJyBhKAWQyBxHATvBiCuBAX+BJyDhCAO+BQGzHJYWJ" ++
    "iB1IAvNyBuHAW8cS1pDhCS-CqCiCmQAX+BQiCkLAX+BQyBueA0EfS7KuHiCgQA0E7CJiCgIAX+BQyB4IAWQyDhKAWQG8G+BJiCkM" ++
    "ACuBJiC7fACuBJiCtMACtMJiC1IACoHJiEhCAO+BQGCoHJS5wBiLDhKDoHyB7fAC7CyBtMAC7CyBqhCAC7CyBovBAC7CyBlfAC7C" ++
    "iC8NAX+BJyC5wBhKAX+BJiCzDAX+BJGQiDxHACuMBwJJChwHhBC2ahCiB+D2ahCzChCknBAO+BQT8PpqDDkUxBvE7SWJEQRqcQhB" ++
    "vE9BQiC7SW6M9BQhBC-CuHiB+D8PxyEDkLDgIDhKjBoHAjRyB-CoHAjRiB+D8Pr0EE2zEE8wEE03KE-qKEz2MTs0C7YTFoqDxB3x" ++
    "GwHbsqChB0DwUQR7JpSCwUCjRCoeC-hBCjjBxByDPWJiBO+BJSvNJiBPWQiBO+BQSvNQRuDoeC-hBCjjBhBC+DuHhBpSAzCTWJxB" ++
    "jRAWQhBKrEJhBIrEJhBKrEQhBIrEQxBTIrEJVAWhCIrEJAWhBwUAWxBVmXoHppBwB3zBF0EvICvIC7FC2HhBB6FMCMCpDCUC8DCL" ++
    "CqESnFmBDtBSpPRS6FRCRC7DSpPNS6FNCNCjEC5BC1EC8CC-FClECuECyECsEC0HCzEC8FC5GC9FCgHCsGCwCCgFC0CCgGCmCClk" ++
    "BC8BCtFCmDCtGClCCnCCgCCsMCkCCuJCsbCyFCmEC9GCvCC2BhBuCFjHDykDRFqKCtOhBuCFpDDUD8DDLDqETnFmBEkHTpPRT6FR" ++
    "DRD7DTpPNT6FNDNDjERF-GxBuCFt8BRDmxBBpRhBt-BFgwBDmhBRxElHRgDlHhCuCFpP1DRDnLD6hCRBrMCy6CCv1BCjGCkwCCkX" ++
    "C6GCwwBSnFkHD5HxBuCFnFtBE5HB3IRT3IRyCoDCPCOCXCdChBCqBCyBCrBC3BRhNFxBF+D++BWhBBpPMCjHCykDCmxBCnLC6hCS" ++
    "w-I9FC8LSkBnCCweChjBSrJoEC-nBCvaQ4+EhxBRFvIC7FC2HRBMCpDCUC8DCLCqESnFmBDtBCRC7DCNCjEC5BC1EC8CC-FClECu" ++
    "ECyECsEC0HCzEC8FC5GC9FCgHCsGCwCCgFC0CCgGCmCC8BCtFCmDCtGClCCnCCgCCkCCmEC9GCvCC2BRFqKCtOhBuCFpDDUD8DDL" ++
    "DqETnFmBEkHDRD7DDNDjERF-GhBB1pIwChBjEzPVRBsMCkXCwwBSnFkHD5HxBuCFnFtBE5HRyCoDCPCOCXCdChBCqBCyBCrBC3Bh" ++
    "CBgCAlBrGU3CrGR9bVCFhB+hBwjDPDODXDdjCPzzIxgBtHxwCSxwCoVBj5CRurHVhBBhmB7FRhNFRmlBVwBlxHF-tE3rCC3rCC2H" ++
    "RBMCpDCUC8DCLCqECzGC7DCiGCjEC5BC1EC8CC-FClECuECyECsEC0HCzEC8FC5GC9FCgHCsGCwCCgFC0CCgGCmCC8BCtFCmDCtG" ++
    "ClCCnCCgCCkCCuJCyFCmECvCC2BRFqKhBuCFpDDUD8DDLDqEDzGD7DDiGDjERF-GCnjMRBy6CCv1BCjGCsMC6GRyCoDCPCOCXCdC" ++
    "hBCqBCyBCrBC3BBo6LBguEB9iIB3kMRien9JRFt8MRhNFgB8wHFvIC7FC2HRBMCpDCUC8DCLCqESnFmBDtBhBuCpPRRBRC7DhBuC" ++
    "pPNRBNCjEC5BC1EC8CC-FClECuECyECsEC0HCzEC8FC5GC9FCgHCsGCwCCgFC0CCgGCmCC8BCtFCmDCtGClCCnCCgCCkCCuJCyFC" ++
    "mEC9GCvCC2BRFqKCtOhBuCFpDDUD8DDLDqETnFmBEkHTpPRDRD7DTpPNDNDjERF-GBpRhBBnFkHD5HxBuCFnFtBE5HRyCoDCPCOC" ++
    "XCdChBCqBCyBCrBC3BRhNFR9bFRB8LRFqcCkgBC++CiB34LqKJiB9BqKJiBvyDqKJgB99JFvIC7FC2HRBMCpDCUC8DCLCqESnFmB" ++
    "DtBCRC7DCNCjEC5BC1EC8CC-FClECuECyECsEC0HCzEC8FC5GC9FCgHCsGCwCCgFC0CCgGCmCC8BCtFCmDCtGClCCnCCgCCkCCuJ" ++
    "CyFCmEC9GCvCC2BRFqKCtOhBuCFpDDUD8DDLDqETnFmBEkHDRD7DDNDjERF-GCnZhB7DzPVhBjEzPVRBsMCkXCwwBSnFkHD5HxBu" ++
    "CFnFtBE5HRyCoDCPCOCXCdChBCqBCyBCrBC3BBj5CRBtEhB3MPmID0BSX3PSPpgBD1JSXxuBgBucF7FC2HRBMCpDCUC8DCLCqECR" ++
    "CzGC7DCNCiGCjEC5BClECuECsECzEC8FCsGCwCCmCClkBC8BClCCnCCgCCsMCkCCuJCsbCyFCmEC9GCvCC2BhBuCFpDDUD8DDLDq" ++
    "EDRDzGD7DDNDiGDjERF-GBpRhBjEzPVRyCoDCPCOCXCdChBCqBCyBCrBC3BR5E2DSP1BDjCR+vCFRo5BFRk1DFR2uGFRhzBFhBhQ" ++
    "JFR9bFR5EFgCj3LFmHvIJCvIC7FC2HiBmH7FJRBMCpDCUC8DCLCqESnFmBDtBCRCzGC7DCNCiGCjEC5BC1EC8CC-FClECuECyECs" ++
    "EC0HCzEC8FC5GC9FCgHCsGCwCCgFC0CCgGCmCC8BCtFCmDCtGClCCnCCgCCsMCkCCuJCsbCyFCmEC9GCvCC2BRFqKCtOhBuCFpDD" ++
    "UD8DDLDqETnFmBEkHDRDzGD7DDNDiGDjERF-GRzPVhB7DzPVRB+IC+QCnzKSvhDknDSnFkHD5HxBuCFnFtBE5HRyCoDCPCOCXCdC" ++
    "hBCqBCyBCrBC3BRFlcxD3MyCoDnH1b6bbdzCPnH1b6bbdzCOnH1b6bbdzCXnH1b6bbdzCPnHme6bbdzCOnHme6bbdzCXnHme6bbd" ++
    "RFigMwB-5CF++BvICvIC7FC2HClcRBMCpDCUC8DCLCqESnFmBDtBCRCzGC7DCNCiGCjEC5BC1EC8CC-FClECuECyECsEC0HCzEC8" ++
    "FC5GC9FCgHCsGCwCCgFC0CCgGCmCC8BCtFCmDCtGClCCnCCgCCsMCkCCuJCyFCmEC9GCvCC2BRFqKCtOhBuCFpDDUD8DDLDqETnF" ++
    "mBEkHDRDzGD7DDNDiGDjERF-GRzPVhB7DzPVhBBvhDknDC6GSnFkHD5HxBuCFnFtBE5HRyCoDCPCOCXCdChBCqBCyBCrBC3BRFhf" ++
    "C3gBgCk-CFmH7FJCvIC7FC2HhBBhmB7FCMCpDCUC8DCLCqESnFmBDtBCRCzGC7DCNCiGCjEC5BC1EC8CC-FClECuECyECsEC0HCz" ++
    "EC8FC5GC9FCgHCsGCwCCgFC0CCgGCmCClkBC8BCtFCmDCtGClCCnCCgCCsMCkCCuJCsbCyFCmEC9GCvCC2BChyDxBFnBvB-GS3hB" ++
    "-GCtOhBuCFpDDUD8DDLDqETnFmBEkHDRDzGD7DDNDiGDjERF-GhBBW8vKRFolDhBBiuCpCDlDDy1IhBjEzPVhB3MPvkDDv0CSX0y" ++
    "CSPnyDDkgCSXoyDSP50BhBBvM8DSnFkHD5HxBuCFnFtBE5HRyCoDCPCOCXCdChBCqBCyBCrBC3BR5E2DSP1BDjChB3MPmID0BSX3" ++
    "PSPpgBD1JSXxuBR9vCVhBBiuCkkBD-BDkHDtBD5HD5CgBhsDFvIC9xECtrMRBu1EC9qEC0uECsuECsjIC8gICulMCrlMCgjIC-iI" ++
    "ClhICjhICkiHC4+GCxvEC1+JCt9JCl1ESlUl6CSgVl6CSlUq1BSgVq1BSznIthDSguBq1BSlUvtCSgVvtCSlU42BSgV42BSrvDth" ++
    "DTp4KtqJSguB42BSlU8xDSgV8xDSlUvzBSgVvzBSw5B3hDSguBvzBSlU2vDSgV2vDSlUuzBSgVuzBSszB3hDSguBuzBSlUvlDSgV" ++
    "vlDSlUyxBSgVyxBCjgJS0wEyxBC98MCzuKSszBl8CCzoMSrvDy9BSw5By9BSszBy9BC8zHSw5Bl8CCplHRF4vEhBuCF4wBTm3B0o" ++
    "CT6d0oCTm3Bi5CT6di5CTm3B9kDT6d9kDD-0CDv3BT6dv3BT1sIjvGjBv3BwW4wBV6d4wBFr1BDr1BhBq1IyCoDDPDODXDdDhBDq" ++
    "BDyBDrBD3BxBuCF6d-0CEr1BRwGjuIwB73LuOpKifSobv6CDlqIDqqIDgqIDmuKS0buvJS-VlnFDpoFDmnFSsKsKS-V1oFSuIg+M" ++
    "SmM+mFSY2hKShPxgBD3qJDpkKS8G-5BSmMivGSY21LShPh5LD63LDrwDS8GsIShSt8ESyN7sBS3TokKSsS6GS3T0jKSsS3zCS3T-" ++
    "3KSuLlCSuIziCS5J-zKCxLSpM48CC1KS9Kp2MSsK23KD00KDx-BS+J5iBSpM-oFSN7RS+JxzJC2-JSv9BMSmRkzHSv9BpDDmUDUD" ++
    "8DDnLDsjMDLDqEChkKhB+hBgBs8EhBuOv9BRDnIDNT7Dp+IEo+IC-xICs+ICr+ISmRieDhPDz8LDqnFC-3LC0wJCw8MCtnHRyCoD" ++
    "CPCOCXCdChBCqBCyBCrBC3BRuOlxEC-pIgB-7CBpKSobugBDtcSpZ-FC0bClSSpZyESsKtcSpZ0HCgXSpZzED8FD5GD9FDgHDsGC" ++
    "mMCYShPugBDtcSpZgGC8GChSCyNS3TugBSsStcS3TtcSsSugBSpZtGCuLCuISpM48CDi9CC9KSn4KmED9GSsKugBS+JugBSpZuJC" ++
    "NS+JtcBmYhBuCFMTmRjfDpDDmUDUD8DDlDDgjCDLDqEhBFpZ-GxBuCFmR-6ChBgiLFpMDgXhBuCFRDkWDND8RD7DRpKkChByDmRi" ++
    "eDhPD3NDqlFRtnBVBuwJRyCoDCPCOCXCdChBCqBCyBCrBC3BR+J8GCuLhBB9pIgRDgXgBwgCoOpRxCV51B0VuQg+LM1B22DxpDlr" ++
    "ClCmB51B+TlCiCiB0VuQy-ClCiC5hB0VuQjrDlCyCuU0VuQnmD9OlCiC0VuQ+T9OlCS64K9OiB5hF0VuQyB8rCj+B0VuQSyiI+Ti" ++
    "BhoB+T6hFC9OSosB9OS+T9OiBosB+T9OyB1xK2nFksL9OiBjpDk2C9OyCuUmjC8S5I1DoPS51B+TxB81IF9mF8ST9zI8SxCjqCF5" ++
    "kLhsHz2D8ST02D8BTt5Kv+LxBFutBh0Bq1CE-1CE41BT25Bq1CE-1CjBh0ButB25BRyCoDCPCOCXCdChBCqBCyBCrBC3BS0BPDOD" ++
    "XDdDhBDqBDyBDrBD3BDoDhBV3hF8SyBoiDltCvQl2DyCuUmjC8SkyBpgDoPyBoiDltC4kL8SSxKuQS+I12DiB5wH8S32CE22CiB7" ++
    "R2pI32CE22ChBFg1D2xDSn-C2xDRB5BC1EC8CC-FClECuECyECsECzEC8FC5GC9FCgHCsGCwCCgFC0CCgGCmCC8BCtFCmDCtGClC" ++
    "C+IC7PC+QCmiBCtEC8LCjGC+cCnCCgCCkCCmEC9GCvCC2BCMCtjBSg0CgCCs3BCsMhBuCFpDDUD8DDLDqETnFmBEkHEtBE5HDRDz" ++
    "GDNDiGhCF-xKjMlE5JSxpDlrCxBuCFgEUE8DhCFvQl2Dyf0CSjqL3yIRV61BC--JhBF0yI8SSlT8SiBm8C+IoPSsrBoPiBxwHoPk" ++
    "pDT7gJkpDiB0EsrBoPhCrgBFm8C+IoPTsrBoPjB0EsrBoPSB5BD1ED8CD-FDlEDuEDyEDsEDzED8FD5GD9FDgHDsGDwCDgFD0CDg" ++
    "GDmCD8BDtFDmDDtGDlCD+ID7PD+QDmiBDtED8LDjGD+cDnCDgCDkCDmED9GDvCD2BDMDtjBTg0CtEEnCEgChBnMxL1EkBkyBpgDo" ++
    "PxB3kFFkBprCTtCprCT0kFw2LT74Ky2DhBgBq7GzMS3oDwpDSv-JisHyB3oDwpDjpDk2CSnmD8BS2TzMUosB2wBU41B2wBUkyB2w" ++
    "BhCFutB25ButBh0BE41BxCV4hFj+BsLuQj9BiC-kJ0VsLuQj9BSosB+TiDiB4sCzpD0VuQy-ClCiD5hB4sCzpD0VuQjrDlCgB5tB" ++
    "kvBFgBirBkvBFgC5tBkvBFA+BgCirBkvBFA+BgCwgCV5yIx-C8SiBl8Lx-C8SgB3rBB5BC1EC8CC-FClECuECyECsEC0HCzECqzJ" ++
    "C8FC5GC9FCgHCsGCwCCgFC0CCgGCmCC8BCtFCmDCtGClCCnCCgCCkCCtECvCC2BCuJCMS7TMCUC8DCLCqECRSybRCNCjExBuCFxl" ++
    "BpDDpDDUD8DDLDqEDRD7DTyb8DENTRJRF7FSWQC2HC-GC5zExB-KFnDnCEgCEtEE2BhBBzevCRyCoDCPCOCXCdChBCqBCyBCrBC3" ++
    "BhBFqF4KC4KRgB51ICzuFC4uECwsHRBmEC9GSnFmBDkHDtBD5HxBuCFnFmBEkHEtBE5HhBByblED0HDvaDthBhC-KFybnDmCFlCF" ++
    "kCxBB79B3WmEhCuCF79B3WoWhCyDV79B3W2zHV-L3ThCBmwB9f3WgFF3kBxCuCFmwB9f3WoWGnLhCFmwB9f3W1lBFtVFtXF1cFuV" ++
    "hCBpyC9f3WsGF+iCFruHhCuCFksH3WUTk6CjHELEzGhBB7T5BD1ED8CDuEDjGDzED0CDmCDtFD6GDmDDgFD2BhC-KF7TnDtExBuC" ++
    "F7TpDERFJUSlDhBF7TtVDtXDuVDyvBT+nGtVEtXU0-GyDxBBhqDp7B6GxBFhqDp7BuVhB7TyCoDDPDODXDdDhBDqBDyBDrBD3BhB" ++
    "Fmf1lBDtXxBuCF7wBME7DhBgB7TPD9JwByiBEBiIDjnBD9aDmoBD+FDjwBDvmBDmvBDsFDjfDgrBDhMD+jBD6EDysBDzwBD+fDhg" ++
    "BDvcDlaD4sBDuqBDopBD4kBD9ID0nBDoPDgjBD4nBDwnBDqwBDmqBDwpBD7GD4iBDmKD1eD5pBDhhBDgdRBiICjnBC9aCmoBC+FC" ++
    "jwBCvmBCmvBCsFCjfCgrBChMC+jBC6ECysBCzwBC+fChgBCvcClaC4sBCuqBCopBC4kBC9IC0nBCoPCgjBC4nBCwnBCqwBCmqBCw" ++
    "pBC7GC4iBCmKC1eC5pBCuTChhBC4yCS0D9aCgIRwkBtIwB6IByiB+jBgByiBBgdS6UFSy7CFgB5UluC2YC6uBCgZCiaC9uBCwZC8" ++
    "YCuZC7uBC3ZC8uBC0WCgWC5uBC8XC1YC+ZCsZCuYC4iDCj-BCo6BCqwJCwwDCppDCvtDC0tBCh6CCi5BC+2BCtmDC2kKC87BC5sB" ++
    "CvmDC77BC6kKC8kKC5kKC67BCrmDCwmDCumDCg3BCi6CCu+BCmsDCw+BCnsDClsDCv+BC6oLC7oLC1oLCt+BCjsDC3oLCosDC5oL" ++
    "CksDCwoFCyoFCzmFC1mFCr7BC24CC3gICvgICygIC0gICwgICi-BCsgICrgIC2gICxgIC4iCCzpFCvoFCxoFCymFC0mFCjoFCioF" ++
    "CuoFCxmFClmDC-2BCutDC3iCC4rICn6BC+rBC-rBCywDCrWR15CrWCMCnICnCCpmBCpiBCRC2iCCjPCNCtECgiCCjHCuICLCliCC" ++
    "mKC6LCyHCoWCoJCUC72DC82DC67MC60DCmgHCngHClgHCk9MCl9MCs5JCr5JCy5JCt5JCv5JCr1DCs1DCu+MCt+MCq1DCshMCthM" ++
    "CuhMCxhMCwhMCi-MCl-MCk-MCx1DCw1DCn-MCv1DCvhHCthHC59MCz9HC79HC49HC69HC29HC09HC4pCC1yEC3yEC2yECusLC62D" ++
    "C77MCm9MCw5JCx5JR62B2YC6uBCr3BCgZC+rBC-rBCiaCwZC1tBC2tBC3tBC4tBCl9BCk9BC0tBC8YCuZC5sBC3ZC8uBC0WCgWC8" ++
    "XC1YC+ZCsZCuYC2rIC3rIC4iDCo6BCn6BC5iDCswJCwwDCywDCopDCppDCm9BCpxKCvtDChxKCixKCrpDCjxKCmpDCnxKCqpDCnp" ++
    "DCtpDCngDC-jJCi5BCj5BChkJCogDC6jJC8jJC+2BC3kKCumDCsmDCg3BCu+BCw+BCnsDCv+BCr7BC24CC1gICi-BCugIC4iCCm1" ++
    "DCl1DClmDC-2BCg2HCi2HC-1HCh2HC3iCC0rIC1rICxrICzrICyrICj-BgB2oBoO2BCsQCsJCwWC3pBC7GC+JCq5HCkCC1KCuNCv" ++
    "jBChrBCyPCpMCt4BCyWCn1HCl1HCs3CCk1HCj1HCm1HCt3CClCCqHCkJCv4BC94BC5ICuLC1rBC+yLCkzLCizLC-yLChzLCgzLCj" ++
    "zLClzLCgCCxLCkOC7kBC8kBCzNC5JCiqDCvCCjMCmLC-tBCgcCyLCsKC3-BCmECxQCmgBClrDCnuBC+HC8TCo+BCrMC6kBC5kBC1" ++
    "8BCqqKCmtBCntBCkrKChsKCqoDCisKCpoDCooDCtqKC1qKCyqKCuqKCxqKCwqKCzqKC2qKC6qKC3qKC5qKC4qKCmDCzMCmPC-mBC" ++
    "ndClPChSCgtCCyFC7cCvXCpzDCnaCiPCxVCz0MCwCCuKC3NCrcCwgBC1HCYCvhCCuECjzBC3nBClyBC0tCC8VClSCozBC9PC16MC" ++
    "+PC75MC-5MC+gBC20DCu6MC56MC96MC66MC86MC76MCmCCsIClICyfC+5BC7IC8GCmsBCzEC56BCvQC7jDC8jDC36BCgXCp4JSrJ" ++
    "MDLDUDpDDzGDRDNDtEC5BCnMCgMCpqBCk3BC-LCpKCssIC03BC7qBC5qBCt7CC6qBC13BCivICgvIC9uIC-uIC+uIChvICjvICnv" ++
    "ICkvICmvIClvICtECiUC6LCjmBClwBCmKC9KCr4MSkmDMDLDUDpDDzGDRDNCjGCnTC2VC91DCumBC7LCmTC-jNC8LCljCCijCChi" ++
    "NC0wBCkPCkjCC4iNCnCCyHCoJC-gBCghBCjPCuICw+MC0CCvOC2MCtvCC3dCpLCmMCs8GC9FCpwCCowCChwCC7tGClwCCwzBCzuG" ++
    "CsEClbCyYCm5CCgfCvSCyTC35CC8CCyOCsLCuiBCwiBC4UCgRCqvHCy2CC12CCtxHC02CCz2CCweC21CCz1CC5sHC9sHCu1BC01C" ++
    "CxtHCgFCsgCC0cCylBCzlBCtHChPCugCCyEC2nBCyKC5tCCznBCxKC-VCopFCtFCnkKCrKCjmDC7jKC37BC3TCqkKC+IC7vBC3cC" ++
    "n+LC0xDC2QC6vBCz+LC+gMCmhMCihMC-gMChhMCghMCkhMClhMC6GCtWCuTC6oBC3aCqSCsSC70CC8BCuRC1GCwsBCiXClGCyNC3" ++
    "kBCg1KC05BC+oHxCmHxiBGuCzPViBuCzPVSxiBVR4KVBy4MR5FoEB-EB9SBqIRwnKqIRnJVRwkBtIRyCPCOCXCdChBCqBCyBCrBC" ++
    "3BR5E2DC+GC2LCnNCjIClOC9HCrPCrHC1BS2DjChBoOiuB1rBC2rBCmhDCz5BSiuBgtCCitCChtCC5iFSiuB70CC+0CC90CC8oHS" ++
    "iuB3kBCktBC4nDC08BhB9gCVj+MDzvGDupDT6FupDD9wGD+oIDsoFD81HD0vGDtuIgBguCBMCRCUCNCLC7CC8CC5BC4UCsLCgRCy" ++
    "OCx2CC2BC7GCsJC+JCsQC8pBCkCCyPCuNCpMC1KCp9CClCC5ICkJCuLCqHCmCCg2BC35BC7IClIC8GCsIC16BCioDCjoDCkoDC48" ++
    "BC58BCnoDCvCCoBCyLCmLCsKCjMC2-BC0CCwCCpLC1HC2MC3NCmMCvOC7xCCloBC2gCC3gCC5gCC6gCC7gCC9wDC+IC2QC3cC6vB" ++
    "C7vBC5xDCtECmKC6LC9KCiUC10DCnCCjPCoJCuICyHC21DC7jBhBCBjPDoJDuIDyHD21DD7jBgBqyB6-BuSCRCroCCUC8DCNCiGS" ++
    "kTiGSpTzGDUCMCpDCmKSqDmKC6LSqD6LCq0DSqDq0DC9KSqD9KComBSqDomBShVomBCtESqDtECjmBSqDjmBShVjmBC7DSkT6DSr" ++
    "JoESSgDDxEjBoI0BzCjB4G0BzCjBI0BzCDzCTTgDkB6FnBw-BTlBWjB6FsCfDwBTzB-HC+FCsFC6ECiIClGCm-JC1GCzkBCyNC2k" ++
    "BSkT2kBSpT3pBDsJC8BCwsBC08BSqD08BCktBSqDktBC5nDSqD5nDC9fSqD9fC6nDSqD6nDC3kBSqD3kBCz8BSqDz8BSkTz8BCwD" ++
    "SqDwDSpT9CC1HC80LC3NC65LCYC0gBSkT0gBSpT3dD2MCwCCrcC6lBSqD6lBCtyDSqDtyDCuyDSqDuyDCOSqDOCxyDSqDxyDCvhC" ++
    "SqDvhCCwhCSqDwhCShVwhCC6CC3lBCgyDCshCC8FC-LC-mICgMC+qICpKCrjBSkTrjBC5BCpqBC6qBSqD6qBC7qBSqD7qBCu7CSq" ++
    "Du7CCv7CSqDv7CCw7CSqDw7CC03BSqD03BC5qBSqD5qBShV5qBC5CCz3BShrLl3BD9qIDxsID+5CC8VC-jFC3nBC3pFClSC+yBSk" ++
    "T+yBCuEClyBClvCSqDlvCCqzBSqDqzBCmvCSqDmvCCnvCSqDnvCCovCSqDovCCozBSqDozBCpzBSqDpzBShVpzBCrDSlX9ZC5ICw" ++
    "9ICkJCkkJCuLCp5BSkTp5BClCCv4BCz5BSqDz5BC2rBSqD2rBCnhDSqDnhDCohDSqDohDCphDSqDphDC1rBSqD1rBCy5BSqDy5BS" ++
    "hVy5BCpCSqDpCCqjJSlqCpCSlXpCC7ICsqJClIC6iDC8GCu6BSkTu6BCmCCyfC1jDSqD1jDCmsBSqDmsBC26BSqD26BShV26BC-B" ++
    "SpT9MC5vJCyPC-vICuNCx0ICpMCrfSkTrfCkCCvjBCr9CSqDr9CCs9CSqDs9CCt9CSqDt9CCu9CSqDu9CCv9CSqDv9CCt4BSqDt4" ++
    "BCq9CSqDq9CCtBSqDtBSnDtBCyLCn3KCmLCslBCsKCtlBSkTtlBCvCC-tBCsuDSqDsuDCuuDSqDuuDCvuDSqDvuDCwuDSqDwuDCx" ++
    "uDSqDxuDC3-BSqD3-BC4-BSqD4-BShV4-BCoBSlqCoBCquDS3xBoBSmmJppLShVvpLDn1KDlsLDyvLDwpLDr5KC+HCmgBCquBC8T" ++
    "Ck+BCmEClrDCngBSqDngBC3rDSqD3rDC4rDSqD4rDC5rDSqD5rDC6rDSqD6rDCo+BSqDo+BC2rDSqD2rDChcCjPC97MCoJC-9MCu" ++
    "ICuwBSkTuwBCnCC-gBC31DSqD31DC41DSqD41DC51DSqD51DC61DSqD61DC71DSqD71DC+iCSqD+iCC-iCSqD-iCShV-iCClDSp-" ++
    "ElDSqDlDSlXoJCzNSroDzNSqDyPC4tKCkOC8tBC5JC5pDSqDpMCgCC7kBSqDkCCjqDSqDjqDCmBSqDmBSnDmBCqSCskHCuTChmHC" ++
    "sSCh1BC6GC6oBC80CSqD80CCwECtHS15BtHC0cS15B0cCmgCS15BmgCChPCpgCCgFCylBCvgCSqDvgCC9ZC+xDC-xDC8vBC5GC3+" ++
    "LC2gMC3gMC4gMC0gMS-2J7GDsJDw3CD+JD6iBD2BDwWD9CSg3J9CCt2HChqKC5kBC+nDCntBCgoDCrMC18BCkFC6wDC7wDC8wDC4" ++
    "gCSqDzNDkOD5JDgCC3tJC9rBC7uJC0bCqvJClEC8rBC9MChzJSlX+HDmgBD8TDmESv0DtHD0cDhPDgFD9ZCx8CCh0ICy8CCi0IC3" ++
    "YCw8CCj4BS33LtHD0cDmgCDhPDpgCDgFDylBD9ZSwvE4DS3xBRDUDNDMDmKD6LD9KDtED7IDlID8GDmCD-LDgMDpKD5BSlX7GDsJ" ++
    "D+JD2BSpTquHD71CDqND9tHDmuHD-FDxLD5JDzND8kBDkODgCDiUD9KDmKDlwBD6LDtEDt8HDs8HDl2BDq8HDr8HDo8HDsgCDhPD"

/-- Packed names, a part. -/
def names2 : String :=
  "tHDzlBD0cDgFDj-LDshCD3lBD2+LDgyDD8FDuRDyNDlGDiXD1GD8BDwDDyODgRD4UDwiBDsLD8CDkqIDobDn3BD5pIDvqBD1ED9r" ++
    "ID8rID5rID6rID7rIDs3BDxqBDsID8GD7ID+5BDlIDmCDqHDuLD5ID94BDkJDlCDyHDuIDjPDghBDoJDnCDlbSlXlbSpTyTDvSDg" ++
    "fDyYSlXyYSpTsEDw5CDv5CDvkIDwkIDt5CDhjBD1KDpMDyPDhrBDuNDkCDuyGDtyGDnxCDpyGDsyGDloBDj0IDy8CD-zIDg0IDx8" ++
    "CD3YD06LD8wDD6wDDy6LD7wDD4gCD7gCD6gCD3gCDx6LD5gCD2gCDnTDmTD7LDumBD2VDjGDtDTiBtDDjyCDiyCDlYD+xCDgyCD+" ++
    "QDjMDsKDyLDgcDmLDvCDxQD8TD+HDnuBDmgBDmEDhcD7vBD6vBD2QD0xDD3cD+ID2nBD-VDxKDznBDyKDyEDh-LDg-LD9+LD++LD" ++
    "-+LD8+LSyKFS5FoEC8nDC5tJCkzJClzJCmzJCnzJCizJCjzJSv0Dl5LDm5LDn5LDo5LDp5LDugCDvgCTS9ZS3xB6DgB58J1LVRBz" ++
    "+ECg3ICslHCs3KC6wJCkjMC-sGCm6LCmuFCrmFCqnJC6vHCguJCzuLCj0KCsvECxkDC5cCr+GC4iICq+GCvDC0jMC6gICs+GCwiK" ++
    "R7oBVhBgE7oBVwCq0KBwlHzlHqSwEC7CiB9kM5cLCu1DClDC6DiBi5Lj5LgaCnYS2xEMS1kDNSwmBMC4oCSl2INStmLNCNCjHC6E" ++
    "yBjuKwoDvvKmBCkoICvmFSjoI5CC2CCoSiBlsH1xH2CC2JiBl5MpwB6DS2yH9CSyyH9CSj2I9CSqmL9CyBgrJw3J-qJ-BSsmL-BC" ++
    "g7GyBijI9emjIUCRS+jIiECzsHSi2InISomLMSqjIogHiBijK5iKwDSkwEqgHSjrLoBiBmoLm2IoBSumLoBCrDCtDyBu6L1gC9gM" ++
    "6CSvmL6CCjDyB8+E6+EkgF4DSpmL4DCh7GCy9JiB8+GzURiB6+IhMpCSk2IpCSrmLpCyBwyIuwI91ItBC-6GCgiICt2BiB3sGzsG" ++
    "jDiBn+JnhHNCgeC6iICopGCqkFCmmFC5tLCn2ICwmLC3+HCkFC3DRnEwGRnRwGRnGwGRjzEgBRlgMgBR1+EgBRB5CChcCiGiBkoH" ++
    "plF1kDE9eEzUEwmBE4oCgBk1LBMCUCLC5BC8CClECwCC0CCmCC8BCmDClCCnCCgCCkCCtECvCC2BhBuCFUDLRF-GCllDhBBvMgCg" ++
    "BrzHBMCUCLC5BC8CClECwCC0CCmCC8BCmDClCCnCCgCCkCCtECvCC2BhBuCFUDLRFllDgB-jKnEwGRTwGgBgiFBMCUCLC5BC8CCl" ++
    "ECwCC0CCmCC8BCmDClCCnCCgCCkCCtECvCC2BhBuCFUDLgBl1LBMCUCLC5BC8CClECwCC0CCmCC8BCmDClCCnCCkCCtECvChBuCF" ++
    "UDLgB06CB5BC1ECpKCobC0bCuECyEClSC-VCgXC0CC5GCmMC8vBCpzJCwCCgFCYChPC8GCmDCtFCyNC3TCuLCuIC5JCpMCxVCmEC" ++
    "l-BCvCC2BCkCCrMhBwYuCmqKD18BD5kBD+nDD6kBD2rKD58BD-rKDkqDDm1KDu4BD43IDmtBD8nDjBgoDyhCPFODoqKhBuCiiIoh" ++
    "BDpDSFpDDUD8DDlDDgjCDLDqED1gBDjHDnCD-NDRDnID7DDiGDjERFzwJC8uKC2-MCloJC68LC58ECvyKCg7LCrnICovESh4Km4K" ++
    "CsrMCjuFCm9EC0pIC98EiBukFzkByuISq8C0gBC++ESikKhhDC3sIhB+hBgB9wKRFm1EC30ERyCoDCPCOCXCdChBCqBCyBCrBC3B" ++
    "xBgBq8C10E4qLEv5BEzkBEzxBEiyBEo8BEr8BEs8BEp8BEq8BQ1gDrUBmYB-ER5FoEBqIRd+BhB8gCyQuSxB7rDoO7gF7YRzjB-E" ++
    "S5FoEB8wJxBj1BgmB39BPEOEXRuCtIxBj1BgmB39BdRyCoDCPCOCXCdChBCqBCyBCrBC3BRBMCRCUCNCLCjHCnLCzGCmCC7RCmDC" ++
    "8BCrMC8CClCCkCCvCCmECwCC0CCyECsECnCCgCCtEC6GC5BC1EC+ICjGCwWC0jNC3YCijCCyKyB8gC1DuCFDRDUDNDLDjHDnLD7R" ++
    "DmDD8BDrMD8CDlCDwCD0CDyEDsED+IDnCDtED5BDuiBDwWDmkIDmwJD+QS7rDRDUD32BDnLDLD7RD5BD8CD2BD8BDmEDwCD0CDsE" ++
    "D6GDuiBDwWD+IDjGD7kBDyED8LSzjBUD5BDgCD6GD8LyByEAO+ByBsa8a7FPU2HPEjtGE4yDU0E4yDE6qCUX6qCEMEUE5BElEEuE" ++
    "E8FE5GE9FEsGEwCE0CE8BEtFE9GE8LEjGE6RyB8gCsa8awCF8LyBzjBsa8a-FFlEFuEF0HF8FFgHFwCFgGF9GFqvCF8LFjGyBsa8" ++
    "a0BLFnCyBzjBsa8atGiBsa8a2sGyBzjBsa8a3YgBqyB6-Bn7BC8RCtoCCkmBConKC-hKCypKCn2LCj3BC4uICr-CCk0JClrJCyyI" ++
    "ClrLCzqDCxrDCrlLCwnLC5+MCi1DC2oDC2jDSqkB2jDC3jDSqkB3jDC4jDSqkB4jDC5jDSqkB5jDC70KC80KC90KC+0KC-0KCiqD" ++
    "SqkBwDD6CD5CDrDDpCD-BDoBDhcSpyC6DSmwB6DiBSCzCTiKWSroD60KSqDrfDvjBCk5LCugCC7+LC5+LCrhCC16LCz6LSlXngBD" ++
    "k+BD6iBSpTuxHTwwCwiBDuiBDy2CSlX+lISpT35CiBqrCwwCtBEmBiBpT0zBoBgB30IlsMBRB5BC1EC8CC-FClECuECyECsEC0HC" ++
    "90DCwCCgFC0CCgGCmCC8BCtFCmDCtGClCCnCCgCCkCCtECmEC9GCvCC2BCyxHCghChBuCFMDUDLDzGD7DDiGDjEDRDNhBrgBBnCD" ++
    "gCDtEhBCB5BDlED7FDwCDmCD8BDlCDgCDkCRFtnJC9oICl3KCrfR9JVRnJVRyCoDCPCOCXCdChBCqBCyBCrBC3BwBrXyPB5BD9PD" ++
    "lED+IDvCDnCDwCDgFDkCD8BDtFDlCD6GDyFD2BDrMD1ED7PDmCDMDUDzGDzUDLDiGDNDnLDRDnqCD7DDtVDtXD1cDuVDyvBwC2fr" ++
    "Xn9CB+DrMU-CrMU+D5BF9PFlEU-C5BF9PFlEU+D+IFvCFnCU-C+IFvCFnCU+DwCFgFFmCU-CwCFgFFmCU+D8BFtFFlCU-C8BFtFF" ++
    "lCU+D6GFyFFkCU-C6GFyFFkCU+D2BF0CFmDU-C2BF0CFmDU+Ds7CF30DU-Cs7CF30DU+Dx-BU-Cx-BzBuCFuCymLFpDF8DFLFqEF" ++
    "RFnIFNFnkBFnLF8RFtoCFozDFn7BFjkDFwjMF32BjBBS7CF9MF-BFpCF5CFjDF4DTyD1jBE2jBTyCoDEPEOEXEdEhBEqBEyBErBE" ++
    "3BjBrvByCPTF07CEtwIgB06CgB4hKSv5BwPSzkBwPSzxBwPSiyBwPSo8BwPSr8BwPSs8BwPSp8BwPSq8BwPStzBwPS0vCwPS1vCw" ++
    "PSyvCwPSzvCwPS2vCwPCggMSv5B4PSzkB4PSzxB4PSiyB4PSo8B4PSr8B4PSs8B4PSp8B4PSq8B4PStzB4PS0vC4PS1vC4PSyvC4" ++
    "PSzvC4PS2vC4PgB-hFB5BC8CClECwiDC8BCmDClCC-gDCwCC0CCmCCv6BCuECsECzECv3JCnCCgCCkCCyFCvCCMC2BhBuCFUDLDR" ++
    "DNDnIB8-JhBwHb4KgCrXrvBB+D5BE1EE13BT-C5BE13BE1EDlET+DuEEyET-CuEEvCEyEDzEDuuKT+D88BD0CT-C88BD1oDT+DwC" ++
    "EgFT-CwCEgFDmCDmDT+D8BEtFE6GT-C8BE6GEtFDlCT-CnCT+DnCDgCDh0KDkCDn9CDtET+DmEE9GEvCE2BDuJDMT-C2BDUD8DDL" ++
    "DqEDzGDiGD07CTzevCyB-KFnDgCFkCkBkCz1L9qByBFmRrqB9qByB-KFSlEU-C8BkC+D88BvD-C8BElCEmDEvCSFz3KiBuCFMUmR" ++
    "w9BEpDUxlBpDEUE8DEnLE6hCELEqEENUnkBQEn7BEREnIEiGE7DUrvB7DUnkBJiBFmRrqBD1lBDtVToqItXE1cEuVTgCvyHTmRu9" ++
    "BTpqI4nIiBmHjWWiB25HyCoDEPEOEXEdEhBEqBEyBErBE3BiBrvByCoDEPEOEXEdEhBEqBEyBErBE3BSF33MD43MD24KD-oIDs7H" ++
    "D3yGjBgE8E1oDTmRx8MDgnIDhnIDu4KDv4KDpzHDgkFwBmHnoB5DlHB0wGB7eR1CHRoGWRu5MQhB9gBkEQhBuDVQxBTuDVQxBtCv" ++
    "nBfQxB7tDvnBfQRv7BJhBTv7BJRv7BQCjLhC3FCB6DQkB0D6DQxBK0GJKxBI0GJIxBK0GQKxBI0GQIhB7BkhFJhB5EFJxB0ET5pC" ++
    "JhBwBFJxBTwBFJEQhBoGgDlHhC3FCBrN2CFmBF6CwBw8EF8yD7wKDpPCnmFCnuDC7-ERByvEDgTC9gIDgTC8jMDgTSgCytBEgTSk" ++
    "Cr8CEgTCi-GCrvEC88JDgTC5BD5YC8CD2vHClECuEDowICsED9jICzESwCsyIT1T5YiB0C1TuwEE5YSmCnuKCwCDk2LC0CD19ICm" ++
    "CC8BD0nICmDD8oIClCCnCCgCCkCCtESvCp3KDq4KCvCC2BRF-vKhBuCFgTD8yDExqDDiuDEihITgCytBFgTTkCr8CFgTDtvDEytB" ++
    "EgTUytBgTD6lDEgTRzmBzmBhBB4IyZSiqIyZSjhMyZSyUyZSiPyZSxwByZSp0EyZSvMz5CRyCoDCPCOCXCdChBCqBCyBCrBC3BBn" ++
    "lDBjlDBs0DRhlFlgKCooLCjhKBhgKhBoRgBrxCDrvGD6xCDrzBEnuDDtxGD0sGD7vGD+sGTrzBmsHTmH82LE5-GEo6CEn6CE52Bk" ++
    "Bo6CA52BkBn6CA52BE3+EEyvHjBtxKuD-dF9nBU3HjyDFp1LjB+yIuDrgKF9oKU3HylKF-lKUuD97BRnlD+7CRjlD+7CgBjuDF5g" ++
    "KCvgKCygKRBMCUCLCnICNCRCoWC5BCrMC8CClECuECsECjGCzECwCC0CCmCC8BC6GCyFCmDClCCnCCgCCkCCtECvCC9PC2BhB-KF" ++
    "jgKD3gKD6gKhBuCFsgKD7gKDmgKDzgKDigKDqgKRFggKC-GxB-KFqhKlCEtERB1ECwxLRyCoDCPCOCXCdChBCqBCyBCrBC3BBtOR" ++
    "BqwKCu8CCtGSS5CDpCgBl9EBMS9TMC2BS9T2BSz4B2BCmDSh3BmDC8BS9T8BCmCSz4BmCCtES9TtEShlDtEC8CS9T8CCsEC0CCgC" ++
    "S9TgCClCS9TlCS-sDwCSmjDwCCvCS9TvCSz4BvCCnCS9TnCClECkCS9TkCCzECuEC1fC3jBCUCLRFm7LhBuCFRThlDRDzGDUTh3B" ++
    "UDNTh3BNDLkBnH9TvChB-KF9MD9CBmlDB0gKxBgB2xBmC3hJDilKDvlIDmlDgByzIB5BC-rIC1EC8CChvHClECuECyECsECzECwC" ++
    "CgFC0CCmCC8BC7sBCtFC6GC2mHCmDClgFClCCugDC+IC7PC+QCnCCgCCkCC2BC23CCyFCvCCmECtECMhBrgBBnCDgChBuCFpDDUD" ++
    "NDiGDLDqEDRhB-KF5CDpCDtBD-BDwDDmBD6CD43JDrqBRFouKCqKRwGqvDiB46Bq5LqvDC3tCS3xD3tCC3xDRyCoDCPCOCXCdChB" ++
    "CqBCyBCrBC3BRB8FC5GC9FwBpkDkoFyCoDDPDODXDdDhBDqBDyBDrBD3BSBkCDwKD0mBD7RD4VDvjBD2qED1qED3qED8qEDuND9e" ++
    "Dp2BD2iIDhqBD1KD-vBDgNDizDDozDDyPDzoBDx+GD+FD0oBDpMDr+JDh8JD4kDDokBSqHk-LSkrHiyDSlnJiyDCyvKCvjKCivES" ++
    "wGihDTTihDgClQCBkViPTo2IpLT0fNTlmBtTTxlB1HT64L1HjBxlB6UFExXTikM2gBgCyiBgnJEBiIEjnBE9aEmoBE+FEjwBEvmB" ++
    "EmvBEsFEjfEgrBEhME+jBE6EEysBEzwBE+fEhgBEvcElaE4sBEuqBEopBE4kBE9IE0nBEoPEgjBE4nBEwnBEqwBEmqBEwpBE7GE4" ++
    "iBEmKE1eE5pBEuTEhhBE4yCU0D9aEgIEgdU6UFUy7CFwBjuDwG2xB-wLDwgKDmpKDntCTu8ChuBT5BhuBT0ChuBTmDhuBgBhmByD" ++
    "9nICklLCxnKRFxwJiByiClgDpVhCyDyiC+uEwYpVTwYpVjBi3BwYpVSpPQiCyiCi3BwYpVi5KSTpVSoGpVSi3BmhBSWQiBO+BQiB" ++
    "X+BQyByxKj6CwYpViBs0EwYpVhBF2HpVDgwBiBgE2HgwBS2HmhBiBgE2HmhByB2HgwBAuFjBmhBAuFS7FqpCDr8EDmoMUAuFCs6L" ++
    "iBh1H1D7FS1D7FiB4zK1D7FiB7FljMrnJC6pCS8E6pChByDpPJRFhfC3gBCu0EhByDzCJiBTzCJxBFT7FqpCgC3FBCEMEnIxBCB0" ++
    "DnIhCBCEpU4DErDEjDEnYERhCCB0DuDREUxBBCEiEE5CkBtBAfEpCUgE-BENUuDNxBCBmXNUuDNkBNAfT0DjHxBBCEmZhCCB4G0B" ++
    "NjBoI0BNxBBCEwDUgEmBU0DmBE6CELxBCBmXLU1wGLU0DpCxBBCE7CE6DEtDEqWiByVpyI2rLCgIgCoKBCErLEtQE1GE4JEjOgCl" ++
    "QBCEqLwB6IBEMDnID4DTpU4DDjDDRTgERD2CD9CDUDiED5CDtBDpCD-BTgE-BDNDmZDwDDmBD6CDLD6DSCMT0DMDhIT0DnID4DDj" ++
    "DDRDmVTuDRjB0DuDRD2CT0DUD5CDpCDoSDNTuDNjB4G0BNjBoI0BNDwDD6CDLTmXLT0DpCD7CDgIDyMToKrLDlMToKrKDyKgC3Fp" ++
    "cCBUEmBELE7CgCoKpcCByMErLE4JErKEyKwB3FCBnLzB4DAlBxCzBjDAlBxCzBwEAlBxCzBpCAlBxCzB-BAlBxCzBwDAlBxCzBmB" ++
    "AlBxC1B4aGlBxCzBoBAlBxCzB6CAlBxCzBtDAlBxCT0D2CwB6IBlQ+FgC3FCBrN2CjB9ZAgvLiCEBUAfyBB0IAfjBwDAfiCEBLAf" ++
    "yBBxJAfzB4DAmJezBjDAmJezBwEAmJezB2CAmJezB5CAmJezBtBAmJezBpCAmJezB-BAmJezBwDAmJezBmBAmJezBoBAmJezBmNA" ++
    "mJezB7CAmJezB3DAmJezBtDAmJezBMA2GezBhIA2GejCjDAeGuFzBRA2GejCuDRA2GezCgEuDRA2GezBmVA2GezBUA2GejCuDNA2" ++
    "GezBmNA2GezBLA2GezBqWA2GegC6IBC0DhIDrDUAoLDnYjBgEuDRDwEzBpQiEAfT3K2CT0D9CjBUAfD0ITEUVAfjBiEAiWzBtBA2" ++
    "GeVmJeTEtBjBpCAejC0DpCA1DiOzB-BAKeV2GeTE-BTpUNDrKjBoBAeDmNzB6CAmJeTLvBDxJTELjB7CAeT0D7CDtDkBA2GeFoLD" ++
    "qWDtKwBmHpHxElHSgDlHR0uBQR1-BVBy9IBqwHB09IB+tEBpwHB9tEhC3FCBmBQBthFBz9IhBT5DJR1PJRqaQR9eQR5cJR4gBJhD" ++
    "3FCB+oBuDMJEnIE5mBEkdUrDgJUrNjDEnYE2CyBBCE2CiBCB5CEtByBBCEtBFpCiBCB-ByBBCE-BFmByBCBmBllBEoBU1DoBEtDE" ++
    "hIE4DEyMEmVEwEkCtBATlBxCkCNAtCvnBfEwDEmNkCLAtCvnBfE6DkBMAhEkBNAhEkBLAhEhBpB-HJhBkfJIDKhBWJKxBlmB0Esd" ++
    "QhBWQKRkvGVxBT0EoFQxBqOrCYQhBKrEJxCIrEGzBrEQgD3FEBMAzCQxCCBMAzCQxCEB4DAWJxCCB4DAWJxCEB4DAWQxCCB4DAWQ" ++
    "xCEB4DAkEQxCCB4DAkEQhDEBrDAgJGgDhDCBrDAgJGgDxCEBjDAWJxCCBjDAWJxCEBjDAWQxCCBjDAWQxCEBjDAkEQxCCBjDAkEQ" ++
    "hCEBjDAgJhCCBjDAgJxCEBjDA5DQxCCBjDA5DQhDEBRA2EGxEhDCBRA2EGxEhDEBRA2EGgDhDCBRA2EGgDxCEBRA5DQxCCBRA5DQ" ++
    "xCEBRAxCQxCCBRAxCQhDEBRAgJGoFhDCBRAgJGoFxCEBwEAWJxCCBwEAWJhCEB2CA2EhCCB2CA2ExCEB9CAWJxCCB9CAWJxCEB9C" ++
    "AWQxCCB9CAWQhCEB9CAhEhCCB9CAhEhCEB9CAgJhCCB9CAgJxCEB9CAoFQxCCB9CAoFQxCEBUAxCQxCCBUAxCQhDEBUAhEGgDhDC" ++
    "BUAhEGgDhCEB5CAgDhCCB5CAgDxCEB5CAWQxCCB5CAWQxCEB5CAkEQxCCB5CAkEQxCEBtBAWQxCCBtBAWQxDEBtBAWQG2ExDCBtB" ++
    "AWQG2ExCEBtBAkEQxCCBtBAkEQxCEBtBA5DQxCCBtBA5DQhCEBpCAgDhCCBpCAgDxCEBpCAWJxCCBpCAWJxCEBpCAWQxCCBpCAWQ" ++
    "xCEB-BAWJxCCB-BAWJxCEB-BAWQxCCB-BAWQxCEB-BAkEQxCCB-BAkEQxCEB-BA5DQxCCB-BA5DQhDEBNAxCGgDhDCBNAxCGgDhD" ++
    "EBNAxCGhEhDCBNAxCGhEhDEBNA2EGxEhDCBNA2EGxEhDEBNA2EGgDhDCBNA2EGgDhCEBwDAgDhCCBwDAgDxCEBwDAWJxCCBwDAWJ" ++
    "xCEBmBAWJxCCBmBAWJxCEBmBAWQxCCBmBAWQxDEBmBAWQG2ExDCBmBAWQG2ExCEBmBAkEQxCCBmBAkEQxCEBoBAWJxCCBoBAWJxC" ++
    "EBoBAWQxCCBoBAWQxDEBoBAgDGWJxDCBoBAgDGWJxDEBoBAqGGWJxDCBoBAqGGWJhEEBoBAWQGWJhECBoBAWQGWJxCEB6CAWJxCC" ++
    "B6CAWJxCEB6CAWQxCCB6CAWQxCEB6CAkEQxCCB6CAkEQxCEB6CA5DQxCCB6CA5DQxCEBLAhEQxCCBLAhEQxCEBLAxCQxCCBLAxCQ" ++
    "xCEBLA5DQxCCBLA5DQhDEBLAxCGgDhDCBLAxCGgDhDEBLA2EGhEhDCBLA2EGhEhCEB7CAxChCCB7CAxCxCEB7CAWQxCCB7CAWQhC" ++
    "EB6DAxEhCCB6DAxEhCEB6DAgDhCCB6DAgDhCEB6DAhEhCCB6DAhExCEB6DAWJxCCB6DAWJxCEB6DAWQxCCB6DAWQxCEB3DAWJxCC" ++
    "B3DAWJhCEB3DAhEhCCB3DAhExCEBlDAWJxCCBlDAWJhCEBtDA5DhCCBtDA5DxCEBtDAWQxCCBtDAWQxCEBtDAkEQxCCBtDAkEQzB" ++
    "9CAkEQjB6CAhEzB6DAzCJzBlDAzCJjCMAI0BzCjC1DoBAWJWrGfW+DfxBEBlgBoBhBCBlMxCEBMAWQxCCBMAWQxCEBMAeJxCCBMA" ++
    "eJhDEBMA5DGgDhDCBMA5DGgDhDEBMA5DGxEhDCBMA5DGxExDEBMA5DGeJxDCBMA5DGeJhDEBMA5DGxChDCBMA5DGxCxDEBMA5DGW" ++
    "QxDCBMA5DGWQhDEBMAoFGgDhDCBMAoFGgDhDEBMAoFGxEhDCBMAoFGxExDEBMAoFGeJxDCBMAoFGeJhDEBMAoFGxChDCBMAoFGxC" ++
    "xDEBMAoFGWQxDCBMAoFGWQxCEBRAWQxCCBRAWQxCEBRAeJxCCBRAeJhCEBRAxChCCBRAxChDEBRA5DGgDhDCBRA5DGgDhDEBRA5D" ++
    "GxEhDCBRA5DGxExDEBRA5DGeJxDCBRA5DGeJhDEBRA5DGxChDCBRA5DGxCxDEBRA5DGWQxDCBRA5DGWQxCEBUAeJxCCBUAeJxCEB" ++
    "UAWQxCCBUAWQxCEBNAWQxCCBNAWQxCEBNAeJxCCBNAeJhDEBNA5DGgDhDCBNA5DGgDhDEBNA5DGxEhDCBNA5DGxExDEBNA5DGeJx" ++
    "DCBNA5DGeJhDEBNA5DGxChDCBNA5DGxCxDEBNA5DGWQxDCBNA5DGWQhDEBNA8HGgDhDCBNA8HGgDhDEBNA8HGxEhDCBNA8HGxExD" ++
    "EBNA8HGeJxDCBNA8HGeJhDEBNA8HGxChDCBNA8HGxCxDEBNA8HGWQxDCBNA8HGWQxCEBLAWQxCCBLAWQxCEBLAeJxCCBLAeJhDEB" ++
    "LA8HGgDhDCBLA8HGgDhDEBLA8HGxEhDCBLA8HGxExDEBLA8HGeJxDCBLA8HGeJhDEBLA8HGxChDCBLA8HGxCxDEBLA8HGWQxDCBL" ++
    "A8HGWQhCEBlDAxEhCCBlDAxExCEBlDAWQxCCBlDAWQxCEBlDAeJxCCBlDAeJhCEBlDAxChCCBlDAxCxBEBvrB5HxBCBvrB5HxBEB" ++
    "vrB7CxBCBvrB7ChCEBlDAvNhCCBlDAvNwCoKCBhIA-DF9DlB-DG+ElB9DG+ElB-DG9ElB9DG9ElB-DGvGlB9DGvGhCEBhIA-DF9D" ++
    "lB-DG+ElB9DG+ElB-DG9ElB9DG9ElB-DGvGlB9DGvGhCCB8JA-DF9DlB-DG+ElB9DG+ElB-DG9ElB9DG9EhCEB8JA-DF9DlB-DG+" ++
    "ElB9DG+ElB-DG9ElB9DG9EhCCB9LA-DF9DlB-DG+ElB9DG+ElB-DG9ElB9DG9ElB-DGvGlB9DGvGhCEB9LA-DF9DlB-DG+ElB9DG" ++
    "+ElB-DG9ElB9DG9ElB-DGvGlB9DGvGhCCB0IA-DF9DlB-DG+ElB9DG+ElB-DG9ElB9DG9ElB-DGvGlB9DGvGhCEB0IA-DF9DlB-D" ++
    "G+ElB9DG+ElB-DG9ElB9DG9ElB-DGvGlB9DGvGhCCBxNA-DF9DlB-DG+ElB9DG+ElB-DG9ElB9DG9EhCEBxNA-DF9DlB-DG+ElB9" ++
    "DG+ElB-DG9ElB9DG9EhCCBxJA-DF9DlB-DG+ElB9DG+ElB-DG9ElB9DG9ElB-DGvGlB9DGvGhCEBxJA9DWG+EH9EHvGhCCBsHA-D" ++
    "F9DlB-DG+ElB9DG+ElB-DG9ElB9DG9ElB-DGvGlB9DGvGhCEBsHA-DF9DlB-DG+ElB9DG+ElB-DG9ElB9DG9ElB-DGvGlB9DGvGh" ++
    "CCBhIA+EF9EjB8JA+EF9EjB9LA+EF9EjB0IA+EF9EjBxNA+EF9EjBxJA+EF9EjBsHA+EF9EjChIA-DGvHlB9DGvHlC-DG+EGvHlC" ++
    "9DG+EGvHlC-DG9EGvHlC9DG9EGvHlC-DGvGGvHlC9DGvGGvHhDEBhIA-DGvJlB9DGvJlC-DG+EGvJlC9DG+EGvJlC-DG9EGvJlC9" ++
    "DG9EGvJlC-DGvGGvJlC9DGvGGvJhDCB9LA-DGvHlB9DGvHlC-DG+EGvHlC9DG+EGvHlC-DG9EGvHlC9DG9EGvHlC-DGvGGvHlC9D" ++
    "GvGGvHhDEB9LA-DGvJlB9DGvJlC-DG+EGvJlC9DG+EGvJlC-DG9EGvJlC9DG9EGvJlC-DGvGGvJlC9DGvGGvJhDCBsHA-DGvHlB9" ++
    "DGvHlC-DG+EGvHlC9DG+EGvHlC-DG9EGvHlC9DG9EGvHlC-DGvGGvHlC9DGvGGvHhDEBsHA-DGvJlB9DGvJlC-DG+EGvJlC9DG+E" ++
    "GvJlC-DG9EGvJlC9DG9EGvJlC-DGvGGvJlC9DGvGGvJhCCBhIA7gBF2ElB+EGvHFvHlB9EGvHFvGWGvHhCEBhIA7gBF2EF+EF9EF" ++
    "vJBx3BBvJB-DBvGhBnQGvGhDCB9LA+EGvHFvHlB9EGvHFvGWGvHhCEB8JA+EF9EjB9LA+EF9EFvJhB-DG+ED9EDvGhCCB0IA7gBF" ++
    "2ElBnQG+EH9EFvGlBnQGvGhCEB0IA7gBF2EF+EF9EhB9DG+ED9EDvGhCCBxJA7gBF2ElBnQG+EH9EjB4JA-DF9DjBxJAvGlBnQGv" ++
    "GhCEBxJA7gBF2EF+EF9EjB4JA9DhBnQG+ED9EB+EhDCBsHA+EGvHFvHlB9EGvHFvGWGvHhCEBxNA+EF9EjBsHA+EF9EFvJB9EB9D"

/-- Packed names, a part. -/
def names3 : String :=
  "Q+FwQQlNwQQ+F1LQlN1LQ84L1LQ9nH1LQjpL1LQ8oB1LQwG1LQsvB1LQ+a1LgBoDmmB1LC2zJCkbQwjBVQ7tBVAuSQ1zJuSQ8oBy" ++
    "GQ+FyGQlNyGQsCvBgBTnBkER-CkEwBKnE8IVwBInE8IVwBnEj9C8IVhBv3C8IVwBKT8IVwBIT8IVwBTj9C8IVhBv3C8IVA2dQT2d" ++
    "AjQQ3LjQgBPW83BgBOW83BQsCmYQr4CrRQkEtIQwkBtIQwjB6yCQ7tB6yCgBk8BgxC3nHQwjB6kDQ7tB6kDgB0ft6B1LgB07BrgD" ++
    "FhB2DjCFA5SQT5SQoG5SQgE5SRT5SRoG5SAuUgCnEoM0F8IVxB2K0F8IVQmvKVgBT9JVA+iBAnZA-yDQuOzgBgBuUv2BrRAl0EQu" ++
    "SjQQ3M+OgCK7B4BAotBgCI7B4BAotBgBTnJVgBnJ9JVgB9JnJVgB1wDF-QgBgExmDFgBZxBjQRjBjQQ-CmGQgE9SQyyBpBwBOk0E" ++
    "mwE6cgB6hBwNFQtxLyGQ0E-yDgBtiBwGVgBXWwGQ4T5SgBdWwGgBhBWwGgBOWwGgBdWVQpHnGAsxDgBnBd+BgBhDtf1LQ8PkbQn1" ++
    "B2pCQ1iIsBBtIBwBQwjBiqBQ7tBiqBgBsW7tDiqBgBk8BgxCiqBgB84CmvDruDgBwoCmvDruDwB84CuMDorDwBwoCuMDorDgB1hD" ++
    "yCnrDgByzJyCnrDQ1RoDxB3FCBUBdBhBBqBByBBrBB3BRwBFBwNR4HFRK0GRI0GxB3FCB-BQpcoDBPBOBXBdBhBBqBByBBrBB3BR" ++
    "wBFBwNR4HFRK0GRI0GgC3FpcCBMERENE3DEmVE9CE5CEtBEpCE-BEwDEoBE6CQxhHFQqIFQ1oGFgB00CjoHFQ68CFQskJFQyqJFQ" ++
    "kjKFQ9bFQqiCFgB2fylLFQrxCFQuzCFQ26CFQu-LFQk0BFgB0sH1iKFQhmDFQ1wHFQh1EFQv7HFQomFFgBs1I87LFQxrLFQn3LFg" ++
    "B7hI9bFgB7-L68CFgB7zJVFQ0+IFQg0KFQoyIFQggFFQ7sDFwBmHKrFJhBIrFJxB1DnBkEjLxB6FnBkEjLhBjNHJhB7QHJhBKHJh" ++
    "BIHJRzCjLhB7QzCjLhBjNzCjLhBX+BJhBd+BJR+yC9BC7BCiHS9BtaxBKIHJR+yCnlBCs6CiBkzD4E4ChBwL6KjLxBTnBfjLR0xE" ++
    "gBRoGlkMhBlmBsdJhBxBHjLxB1DT6KjLhCjBrFA+C1ChCxBrFA+C1ChBKHQhBIHQRmGJQvoCbwBiuEYtHkwLgBsTErDQgoBtmFgB" ++
    "pFkEgBQ-kFbQlkF+jMQwhH1uCAq5KQgoB3kHgB3KC2CRE9CgBuhBE9CgBsTE9CQzlK1uCiBiCO1GgB3KEUgBuhBEUgB3KEtBRCtB" ++
    "wBtB4DvBgBgBsTE-BQ+2JFgBnOjvK4uCgB3KEwDgBsTEwDCkFgB3KEmBgBuhBEmBgBsTEmBQynKq1LAhpDQsiLVQhTFgBj8LVFA8" ++
    "oMgBsTEtDQ3kDFQqsBFgB0EqsBFgBuhBEtDgC0DoKCB0IQ7oIFQnxEFgB3KE4DgBuhBErDQjhHgBgB3KCRRERCwEgB0DEwEgB3KE" ++
    "pCRCNQqCgBQpdgBQwOgBQ+nBgBQib9+BgB8EEkFQ1kHFgBsTC1GCrLRErLC1GRxfhvBwB0DlLE2CDtBwBgElLEtBwB0DlLElDwBs" ++
    "TxTEjDSCjDDRDUDiEQmoKkEQ0D0XQ07BFA1vEgB0DCwEwBgBnHtqD9+BwB+hC3MPziLD5wJDkgCD2RSOsXSP50BSO60BSX60BSd6" ++
    "0BSPx+BShBpsDSP1JSXqPShBqPSyBqPgB3MwjDPgBhlBjVPCOCXCdChBCqBCyBCrBC3BC2DCnSC3QCjISP1BShB1BSPjCwBChlBj" ++
    "VPDODXDdDhBDqBDyBDrBD3BD2DDnSD3QDjITP1BThB1BTPjCwChlBjVPjCrDjDShBjCS2DjCiBgEP1BgC3FCBgErDgChlBjVqBry" ++
    "IDiBjIt+GDDjCiBP1BjCwB+hC3MoDsXgB0DyCOCXQxBHQiDHQjBHQ1CHgBKIHgBpBzBHgBhGzFHR7EHgBxG7EHRzFHwBxBHAfwBj" ++
    "BHAfgBxB5LHgBjB5LHwBxBO1pBHwBiDO1pBHwBjBO1pBHwB1CO1pBHwBxBHAuFwBjBHAuFwBxBHxIvBwBiDHxIvBwBjBHxIvBwB1" ++
    "CHxIvBgCpBzBHAmnBwBxBHAewBjBHAewBxBHAvNwBjBHAvNwBKI5LHiBHAfgB1CqaHgCiDHA1QxBEjBgC1CHA1QxBEjBgCjBHArI" ++
    "1CgC1CHArIxBwBjN4GolBHwB7Q4GolBHwChGzFHY1DvBgExBHYvBiCjBHYvBwBjNuD9BHwB7QuD9BHgCxBrFA+CiDE1CgCiDrFA+" ++
    "CjBExBgCjBrFA+CiDE1CgC1CrFA+CjBExBgCjBHiCxBHwCiDHxBb1CHgCxBHiCjBHRoZsOgBiDoZsOgBjBoZsOgB1CoZsOgCxBrF" ++
    "iCjBrFgCjBrFiCxBrFgCxBTHAfwCKITHAfgCjBTHAfgBxBTHgBiDTHgBjBTHgB1CTHwBKITHwBpBzBTHwBhGzFTHhB7ETHwBxG7E" ++
    "THhBzFTHgBxBoGHgBjBoGHgBxB3uBHgBjB3uBHgCiDHATfgC1CHATfgBxB9QHgBiD9QHgBjB9QHgB1C9QHwBxBHYvBwBjBHYvBgB" ++
    "xBcHgBiDcHgBjBcHgB1CcHgCiDcHxIvBT6EzlDlBAsCvBWnBvBSTHU6EzlDgCjBcHxIgUgChGzFHYrIgCxG7EHYrIwBpBzBcHgCI" ++
    "HAC9BwC1CHxBbiDHgBXjBsOgCxBHAnBfgCjBHAnBfwCKIHAnBfwCxBHATnBfwCjBHATnBfgDKIHATnBfgBxB+6BHgBjB+6BHwBKI" ++
    "+6BHQnHlhBAyuFQrZ5dQj4L9hHhBxUjF8hHQ0a6TA5hIAzfQ0UbwBjFiI0UbgBC0UbgB+XhQurBgCxUjF8yBhQurBwBC+XhQurBg" ++
    "BwHbloKQxftRB3uCBhvBQwNFQ0kJFQWwBQhY+OQ6TwNQmGuGQzCuGQjQuGQ7BilBQkzBilBQkpBilBQnoKYA7eQI0FA0FQ4jB0FQ" ++
    "mtD0FAiyGgBxUjF9zBQqZYgBjFqZYQkRGBvDAgOApOA7MQT7MQoG7MQ9yB7MQouD7MQ+rM7MQ7Q7MR9yB7MgBjN9yB7MAk4LAs+E" ++
    "AvuKAxnDQWwNA3hHQysHxnDA93CQxCuGQgExCgB0E73BoBQuoL5LQ84MtRQjFxCQwNxCgBkqCrCYwBjFkqCrCYgBnhBrCYhCtUjF" ++
    "xoCrCYwC-jBnhB2TxoCrCYgBqOrCYwBjFqOrCYgCqOrCvDrCYQoGxCgBlhBrCYQsPYgBt1CsPYQ+wG7NgBpyEtH50IgBt1CrCYgD" ++
    "nhBrCYvDtH2WbwC2WbvDnhBrCYQqI4HQ4HqIwBzCsFrCYRrCYQ7nGYAkhHQygHYQmF4HgBlMrCYwBrCYiSgvGQ4jBiSgBurKrCYg" ++
    "BjFrCYQ-pBYgBjF-pBYgB9uLsPYwBiFvDrCYwBlFvDrCYwBiFiCrCYwBlFiCrCYgCiFtUjFrCYgClFtUjFrCYQs5BiFBlFA7NgBj" ++
    "FsPYBiFBlFgC-jBiF2TrCYxBlF2TrCYwBiFvDsPYwBlFvDsPYgC-jBiF2TsPYxBlF2TsPYgBiFvDlFgBlFvDiFwB-jBiF2TlFhBl" ++
    "F2TiFAsRA0RwBsRvDrCYwB0RvDrCYwBsRvDsPYwB0RvDsPYgBxUjFnnDC+tDQlKbQ8KbwBjFMlKbS8KbgClKbvDrCYgC8KbvDrCY" ++
    "gD-jBMlKb2TrCYiC8Kb2TrCYwClKbAjFrCYwC8KbAjFrCYAxnJB0TBpOgB7B2WbRtkBbhC2WbvDrCYhCtkBbvDrCYBunBB9hBQvF" ++
    "wBBwNBsBRhY+ORWuGRzCuGRmGuGB4HByGQ7HwBBwNBsBRWuGQI-HQK-HQzB-HQpB-HAi0EAplJAlhCAznHgCoGnBvBIkawCTnBvB" ++
    "TIkagBxUjFqoKQjFlhCgBxUjFynHgD+hDTnBvBTIkagBsRuXwtBgB0RuXwtBgBiV6ZbwB+XhQiV6ZwCiV6ZbvDrCYgD+XhQiV6Zv" ++
    "DrCYQtkBbQ2WbAu5BgB90HgnG8-IAtiIAx6MA1qJA2TwBI0FArOB4CgBxfkRGCvDBgOBpOQiHuGQWuGQmFuGQhYsBA6xBgCKiV20" ++
    "BplBtRgCIiV20BplBtRgBKplBtRgBIplBtRgBgExC4HgB7JkRvDCGQTlKB8KBgOBpOA5mDwBrCGqZYgBiFAWgBlFAWgByJs5BiFC" ++
    "lFgCiFrCYvDlFgClFrCYvDiFwBrCYvDiFDlFDsRD0RgCxUjFnnDvDrCiB+tDvDrCgDjF7B2WbvDrCYiCtkBbvDrCYgD7B2WbvDjF" ++
    "rCYxCtkBbvDjFrCYgCiFtUjFsPYgClFtUjFsPYgCsRtUjFsPYgC0RtUjFsPYwBjFiV6ZbwCxUjF8yBhQiV6ZgDjFiV6ZbvDrCYwD" ++
    "xUjF8yBhQiV6ZvDrCQnBmYgBlgDsCmYwBpBIrGmYwBzBIrGmYwC0UbA1DsCfjDnBvBwKwHbsCfgFC0UbAnBvBwKwHbsCfgC0UbAW" ++
    "JDqRgCC0UbAqRwB0UbAvKjBOsCw-BgC+XA1DsCfiDnBvBwKwHbsCfwEC+XAnBvBwKwHbsCfgB+XAqRwBC+XAqRwBtDkZgnBnhJQ2" ++
    "wGFQvoBHA8iBQpBrEQzBrEAjoKAhjKQzVkEQK9VQI9VQK3UQI3UgBoII6nBRK6nBgB4GI6nBRK6nBgBgEjFFQ7BlRArOA19BA25K" ++
    "QhTivKQ9sBxYQgrM7BwB4bbuiIFgB0DjFFA+zDA6pBgB4GKrIRIrIgBoIKrIRIrIgB4G0B7MgBoI0B7MA20CA3+BwCpBrE7NOsCl" ++
    "nBQ39J4WwBozCYtHIgC3DsFM8b0JAnjBgBoM0F4BgB2K0F4BwBozCYtHKQwrCzCAspGQlhBnzEAtyLQhxDs0KQmxG89JQ-mG41LA" ++
    "7pLA-nGAgoGwBwpC50CgB19HTpsLwQTwQrCE9zBEiHEzYE9BT9BqgBEzYT+OvBTtavBTwQ+OEtaEiFElFTxBiwBTjBiwBjBwQxBH" ++
    "UjBHT9BtajBzB-HvKTlMqgBjBwQzBuUElMjBzB-HzYTiDiwBjBwQiDHjBpB-HqRTgiBqgBjBwQpBuUEgiBjBpB-HzYT1CiwBjBwQ" ++
    "1CHTmoDvKTlMvKTiHvKTzYvKT9BvKjBpBjczYTmoDwQT9BmFTwQqIjBpB-HhETgiBhETmFhETzYhET9BhEjBzBjcqgBjBKjcqgBT" ++
    "xChETlFhET-EvBTgiBxCDljNTqgBxCT9SvKjBwQjFrCEnJjBzBuUxCjBpBuUxCD0ID4JDsHThIvKT8JvKT0IvKTsHvKDhIgBjFkS" ++
    "VwCI0FA1CqaHgB2mLuD0JQodgBgCnBkEAlBWQv2BgBgBnnG+yDgBgB0xG+yDgBQ9yCgBQ5yBgBwCc7BApFnBkEQjzCgBgB+wB4Wg" ++
    "BQ30HgBgCvFsCvBAnjDR4CzBgCtd9BA9zJHQmkMgBQhmJgBQm9HgBgBv9J5xHgBRwvIgBQxhKgBQyhKgBgC8zBlzBgBDOQ0qLgBw" ++
    "BwpC50CgBwQwBxzBtI4WgBQ3nKhXQniDhXgBsnDnlBgBgBpqFnlBgBwBK0GsDeCpYS3CewBI0GsDeCpYS3CegCK7B4BsDrIDpYT3" ++
    "CrIgCI7B4BsDrIDpYT3CrIgCK7J4BsDeTlBtZT3CegB7J4BpYgCI7J4BsDeTlBtZT3CeQ7MpYgBsCkEpYwDsDKvD3CI7J4B4KhDI" ++
    "vD3CK7J4B4KQhvB4GBoIgB4G7B4BgBoI7B4BzBiC4G7B4BgBptBgBoIwBKnB0JkEwBInB0JkEgBsC94K+0IC-0ICg1ICh1IgDtvG" ++
    "gBtCnBG4GIVoIIUA9BjCzBGsCA9BjCpBGsCA9BjBnBA4CjCzBGsCA4CjCpBGsCA4CjBnBG5LjCzBGsCA5LjCpBGsCA5LjBzBGsCj" ++
    "BpBGsCzBnBG4GKVoIKQ7BipBQ+kBgBQg-GgBgBnBkEpYQ7hJoFhB1DiC6FhB6FiC1DxB1DiCOm+BxBOm+BiC1DDijBBuxDBjwDB4" ++
    "lDQqQo2CA1oHQ4G0GQoI0GgB4G7J4BgBoI7J4BwB4G4N5K4BwBoI4N5K4BQcs8LwBwrCzCA9BA0uLA-mHQwmBlzBQn-GgOgBxzB-" ++
    "hHgBwBZ2KT4ChBoMT4ChB4QT4ChBmST4CxC2KT4CAnBvBxCoMT4CAnBvBxC2K4CATnBvBQ7vE5nBAwuLQh6L5nBwB6pBAlnHj4Kw" ++
    "BZhDoM4CS2K4CS4Q4CSmS4CgBTnBvBwBZ7BnHoEhB9BnH98BQn8BgBR-8JgBR6EgBR0pLgBgBp8JpWgBgBgBnHz6BiBnXbh3CErV" ++
    "iBwHbrVE2vBChzCCymBCodC4qCSsC-SSkEpeSnB-SSDpeSrtC+kBSrlB4ODsFiB8vCk4B1oBiB4dhWPEOEXEdS3OymBSovD14CyB" ++
    "wHb2vBhFCsnBiBwHbhDCy-BC1oBSretIS31BtIS98BtIS+lBtIC1LCzzBQgsCgBQuD0JgBgBnHliDiBzzBDOiBy-BDOQu8JeB6tC" ++
    "BjpBR0EjpBRoT8hFRrdzgBhB7xBwxBw4ChB4wEbkSByGhBlpGvoC5ERTtagBvFyCPCOCXCdChBCqBCyBCrBC3BR5E2DCnSC3QC-Z" ++
    "CrYCvTCoVC0ZClWChZC+GgBzsByCPCOCXCdChBCqBCyBCrBC3BR5E2DCnSC3QC-ZCrYCvTCoVC0ZClWChZC+GwByCP5FoEhBO5Fo" ++
    "EhBX5FoEhBd5FoEhBhB5FoEhBqB5FoEhByB5FoEhBrB5FoEhB3B5FoEwB5E2D5FoEhBnS5FoEhB3Q5FoEhB-Z5FoEhBrY5FoEhBv" ++
    "T5FoEhBoV5FoEhB0Z5FoEhBlW5FoEhBhZ5FoEhB+G5FoEgCzsB3FCBME4DErDEjDEREwEE2CE9CEUEiEE5CEtBEpCE-BENEwDEkF" ++
    "EmBEoBE6CELE7CE6DE3DElDEtDgCvF3FEBME4DErDEjDEREwEE2CE9CEUEiEE5CEtBEpCE-BENEwDEkFEmBEoBE6CELE7CE6DE3D" ++
    "ElDEtDiBCBME4DErDEjDEREwEE2CE9CEUEiEE5CEtBEpCE-BENEwDEkFEmBEoBE6CELE7CE6DE3DElDEtDRyCoDwB3OvF5EnSD3Q" ++
    "D-ZDrYDvTDoVD0ZDlWDhZD+GwBTvFyCPDODXDdDhBDqBDyBDrBD3BS5E2DwB3OvFyCoDwB0JzxCtCsCSkBsCStCnBSkBnByBtCoG" ++
    "yGsCyBkBoGyGsCyBtCoGyGnByBkBoGyGnByBtC4TyGsCyBkB4TyGsCyBtC4TyGnByBkB4TyGnByBtCzBGIiCzBtCGIkBzBkBGItC" ++
    "yBkBzBGIyBtCzBGKiCzBtCGKkBzBkBGKtCyBkBzBGKyBtCpBGIiCpBtCGIkBzBkBGItCyBkBpBGIyBtCpBGKiCpBtCGKkBzBkBGK" ++
    "tCyBkBpBGKyBtCnBGIiCnBtCGIkByCpBkBGIzBtCyCzBkBGIpBtCiCnBkBGItCyCzBtCGIpBkByCpBtCGIzBkByBkBnBGIyBtCnB" ++
    "GKiCnBtCGKkByCpBkBGKzBtCyCzBkBGKpBtCiCnBkBGKtCyCzBtCGKpBkByCpBtCGKzBkByBkBnBGKyBtCzBGsCyCKkBGIzBtCyC" ++
    "IkBGKzBtCiCzBtCGsCkBzBkBGsCtCyCItCGKzBkByCKtCGIzBkByBkBzBGsCyBtCpBGsCyCKkBGIpBtCyCIkBGKpBtCiCpBtCGsC" ++
    "kBzBkBGsCtCyCItCGKpBkByCKtCGIpBkByBkBpBGsCyBtCnBGsCyCKkBGInBtCyCIkBGKnBtCiCnBtCGsCkByCpBkBGzBsCtCyCz" ++
    "BkBGpBsCtCiCnBkBGsCtCiDKpBkBGIzBtCiDIpBkBGKzBtCiDKzBkBGIpBtCiDIzBkBGKpBtCyCzBtCGpBsCkByCpBtCGzBsCkBy" ++
    "CItCGKnBkByCKtCGInBkByBkBnBGsCyBtCTyGsCyBkBTyGsCyBtCTyGnByBkBTyGnBSTsCDnBiCzBnEGITzBTGInEyBTzBGIiCzB" ++
    "nEGKTzBTGKnEyBTzBGKiCpBnEGITzBTGInEyBTpBGIiCpBnEGKTzBTGKnEyBTpBGKiCnBnEGITzBTGInEyBTnBGIiCnBnEGKTzBT" ++
    "GKnEyBTnBGKiCzBnEGsCTzBTGsCnEyBTzBGsCiCpBnEGsCTzBTGsCnEyBTpBGsCiCnBnEGsCTzBTGsCnEyBTnBGsCiCtCrOzBGIG" ++
    "KkBpBGKGIzCrGsDIY3CK1BKY3CIEnGDKDpBDIDzBSkBKDpBDIDzBiCtCKGkBIzBpBGkBzBiCkBKGtCIzBpBGtCzBgBsD0BhFwB3C" ++
    "P1JhFSmIhFhBXqPhFR0BhFhBhBqPhFhBX3PhFhByBqPhFQ5FhFwBKyBqPhFhBX3PhFhBhBqPhFR0BhFhBXqPhFhBPmIhFS1JhFgB" ++
    "I0BhFQtC6PQhD6PQ5vC6PwBsDP1JhFwBIP1JhFgB2P3CKCIRsDKzCG3CKG3CIFIkCsDIG3CKIICIjBG3CKmBG3CIQZ7BQc7BiBAk" ++
    "VzdyBxaZC7BwB7BAsCrQSnBrQiBh+J+uCrQyCsDKY3CIrQjCIY3CKrQiBrG+uCrQgBZC7BgBcC7BQZ8bQc8bgBZnB8bgBcnB8bQZ" ++
    "plDQcplDgBZ4Q4CgBc4Q4CwBZ4QC4CwBc4QC4CgBZ2K4CgBc2K4CwBZ2KC4CwBc2KC4CgBZ2K0kBgBc2K0kBgBZmS4CgBcmS4CwB" ++
    "ZmSC4CwBcmSC4CgBZoM4CgBcoM4CwBZoMC4CwBcoMC4CgBZoM0kBgBcoM0kBQZiHQciHyBxaZCiHAtmHAlRQc9BQpH9BwB9BAnBr" ++
    "QAliFQZ9BgC9BAK0BZiBI0BZiB3C0BZiBsD0BZjBI2PZyClhBtUsDK2PZwBK0BZ9BwBI0BZ9BQ7UjQRc9BgCsD0B7Uc9BgC3C0B7" ++
    "Uc9BgCsDK2P3hBrOxBI2P3hBrOgC3CI2P3hBrOxBK2P3hBrOgBsD0B9BgB3C0B9BwBZ3CI4CSK4ChBsDK4CSI4CQcjQgC7BAK0BZ" ++
    "iBI0BZiCsDKrG0BZiC3CIrG0BZwCc7BAnB8-EkExB4Q4CAWwC4Q4CAK0BZjBI0BZQvE9BwCc7BAsDK2PjB3CK2PUI2PjBsDI2PhC" ++
    "9BAsDK2PjB3CK2PUI2PjBsDI2PgBsDK4CRI4CgB3CK4CgBchD7BgBZhD7BwBchDC7BwBZhDC7BgB3CI4CwBZ+SA-fAwdA9lBA6+B" ++
    "AtuFQZmFQcmFAkrBAg5LA+SQ-pCljDQ2zBljDAhnGA-6BQZhTQchTQua0JSAkSD3DA5TwB9lBA7bu7GQ7iByrCgBcsuBtZgBZsuB" ++
    "tZAhlLgCgE8E90BiJjQwBZK4EoChBI4EoCwBcK4EoChBpB4EoChBI4EoChBzB4EoCgBz+BG9uCQulFFQ7tKFQ3-EFAmtCAxxEQg+" ++
    "JnGQyK4JgBnGbt2IC-jIgBmFG0dQ2agBQkuE+kLgBxpBG-nLQz7BgBQyXlTgB58LnH2pBC47CCwTCtgCChUC4RC9YCqQgBnwBbmw" ++
    "GgBclpB6BRmO6BgBZmO6BwBc+SA-fgBsWmIgKgB63BmIgKA6-CQqeFAqQQ6YFA6lIAw4KAlzDAhiDA-mDA-yEAi2LArsHAwkFAvz" ++
    "IArrMAn0IAm5KAq3KA7kFAuyEAslKgBcpItNC7OC6SCgSCtJC3SgBZpItNC7OC6SCgSCtJC3SRitDpXgBciJpXRiHpXgBZ1yBpXg" ++
    "BcitDpXgBZiJpXRiHpXgBc1yBpXQ7iBisLQmIqMQ1JqMgBnrC1JmkBRpgBmkBgBkhDseFR2hDFRlgBFgBzFvlBnGgB7EvlBnGgBg" ++
    "zD+8BgBgC+8BgBnH5gM5bT7gM5bTyyD5bTzyD5bT0yD5bT1yD5bT8gM5bTtsH7-IwBZgzD+8BgBgBlvKxsBgBgBohKxsBgBgB9iK" ++
    "xsBFQniCgBQ5zBukHBvkHBwkHBxkHBykHBzkHgCc9BAWITO+BwCZ9BAcWIjBOc+BgBwfnHlTCyXwB7wCnHm2ClTS0zIyXDlTSm2C" ++
    "yXQcrSQZrSgBxpBGpmDAmpCQ8QsxLgB4ZbzuEA84KA9oCAtiBAr1CgB4Zb80HQy0EgBAgnHgB3bcmFwBX38CsnGIDKQ12MFgB+D9" ++
    "rMFgBnoBqeFR6YFgCwiIqeG6YFwB6YGqeFhBAfFjCG6YGqeFgCnB6YAfFgCsC6YAfFgBhDc9BRZ9BhBCc9BQs-IgBQkyGgBgBukM" ++
    "slDgBAkuFQxoH7kMAztJA5mFA7-JA0lIAwqMAtoFgBZgKz0IA0kLA-hLAyrKAtiLQwqL-RAh9EQ7H4WgBcyxChMCtNgBZyxChMCt" ++
    "NgB6+BnmB4+BgB+SvrCwdA7bQZ6+BwBtgCwdG7bwB0DcsuBtZhBZsuBtZwBciHsF7BQwI97CQzxG6XA09JApmDQ6X5pLwB4pBAcn" ++
    "GgBvFwI97CA-mFQ8Gu0BgC+Kk9JKkmB2lBgCZwyDKkmB2lBgCcwyDKkmB2lBwBZK87C7-CwBcK87C7-CgB2xCxsDFwBkBcmS4CgB" ++
    "K3Hu0BQ7H5TwD1arGsFc9BsFZ7BQZkhCgBlwKKigHCjgHwBo0EgBnHlzDwDkB9BAfGO+BJA2sBgBuxKg5C2sBgB-yIg5C2sBQ0E2" ++
    "sBwBZnG6Eg+BQ+lL8mLAnuCAryBQr2HhpLgBr1CnmB57HRAnzHwB0jBgBnHw0IA9YgB9lB6Eo2CAw0CgBrSsF73CA1lHAt3KgB7B" ++
    "dzdArpLQvYusDgB6OA-RAjgCgBjbwxBgBgBi3CrwHgBQtoH7oKwB9hB6EZ7BgDcrSAsClBZhvLgBZt9BjgBgBsD-rCjgBQZjgBgB" ++
    "3C-rCjgBQcjgBhBkBkSVgBhTo4BFQzvD2xCAraAmWQiK70BByIQwzDyIQz0DyIgB3CI1sBA1sBgBsDI1sBQc3iDQZ3iDQkSVgBkB" ++
    "kSVQ0T3DgBkB0T3DQua3DgBkBua3DgB3boKnGgBkBoKnGgBuDpFnGwBkBuDpFnGQ3FnGwByRc3FnGgB3b3FnGQx+InGgBmFbttGg" ++
    "BdwcmGRuxBmGwBkBduxBmGgBd3qFmGwBZd6HmFwBcd6HmFAprLwBt-B3bcmFgBvFcmFwBuDpFZmFwBZpFcmFgB3bZmFwBkB3bZmF" ++
    "QjXmFgByRcmFQkBmGgBuDpFmGgBrB1NmGhB6HZmFSjXmFwBqB6HZmFgCrB6H6oDZmFwCkBrB6H6oDZmFwB3Q6HZmFgBoV6HmGQwc" ++
    "mGwBuDpFwcmGgBkBwcmGwCqBimDZGcgpBQZgpBQcgpBgCrBimD3bZgpBwCvFuDpFrB6HmFwBkBwcjXmGA5+BgBxgC28L5+BgBkBh" ++
    "uC5+BAjtDQkBjtDQuxBmGwBrBwcwnDmGgCkBrBwcwnDmGQnGVgByRc9BwB3O7HnGVgC3CI3xCc7BgCsDI3xCc7BgC3CIyRc7BgCs" ++
    "DIyRc7BwBZnJV4FwBcnJV4FhB9JV4FgCZiHwNc3DwBkB9JVgBgBtCnBvBgBhDnBvBgBkBnBvBxCnE0D-E8IV4FyB-E8IV4FxCT0D" ++
    "-E8IV4FyB-E8IV4FxC-CnE-E8IV4FiCT-E8IV4FgCrToXwkBF4FwBkB9JV4FxBiJ9JV4FRZiJgC8EkBZiJjQQ90BiJwB8E90BiJj" ++
    "QwBhDK0G4FhBI0G4FxB+oBK0G4FiBI0G4FxBoM0F4B4FxB2K0F4B4FwCkBoM0F8IV4FhC2K0F8IV4FxBoM0F4B4FxB2K0F4B4FwC" ++
    "tCK4N5K4B4FhCI4N5K4B4FgChDK7J4B4FxBI7J4B4FgC+wC3OvFyCPEOEXEdEhBEqBEyBErBE3BT5E2DxBvFlLyCPEOEXEdEhBEq" ++
    "BEyBErBE3BT5E2DhC3OvFlLyCPFOFXFdFhBFqBFyBFrBF3BU5E2DwBkBp0DjBHRwBFRwNFRhYFhBxG7EHRjBHhBhG7EHwBo7GrRj"

/-- Packed names, a part. -/
def names4 : String :=
  "BHwBkB9yKjBHgBpEjBHwBkBpEjBHwB9QpEjBHgCkB9QpEjBHgBZjBHwBswD-gCjBrEhB5gFjBrEgBZjBrEgDkBZrT1CGjBHzBiDG" ++
    "jBHwBqtDZjBHgCkB4mGZjBHwBn9BcjBHwB-3BcjBHgCqxByRcjBHgCm1ByRcjBHwCkB3C6tBcjBHhCsD6tBcjBHwC+W3C6tBcjBH" ++
    "Q7JvNwC+WsD6tBcjBHgCvFkBcjBHgBx3MjBHwB9rCxG7EHRjBHhBhG7EHgCkB9rCxG7EHSjBHiBhG7EHgB22LjBHwBkB32LjBHgB" ++
    "l0DjBHwBkBl0DjBHgBx9JjBHgBT7JvNgBXnxG0FwCc4CxaCc4CA17BQuDlKB8KwBKlqDgnBhoBwBIlqDgnBhoBwBvDAW6MwBwL6K" ++
    "onDlKgB8KonD6KgCnBvBAsCfgBtfxRrGQ1DhYgBtf1arGgB7HkRGCvDgCciHA7XWgBGAWwB0UbskBiDgC3CIrIAWgCsDKrIAWgBK" ++
    "i7BnqBgBIi7BnqBgB5Fi7BnqBgBvEpB-HRzB-HgCKGITkaD-HBu5BgB1DI-HRK-HgCpB-HA9BJgClR+zBiSsCm0KgBc5mGiHjBAx" ++
    "BsVUjBsVxB7BAxBsVTjBsVgCtfKc7B4BxBIc7B4BhBK0F4BhBI0F4BxBKT0F4BxBIT0F4BhCKc4N5K4BhCIc4N5K4BhBK+oB0GhB" ++
    "I+oB0GgBiD4THgB1C4THwBjNi1C9BHwB7Qi1C9BHgCIHAvFwBgB1DxBHRjBHhBKIHhBxBTHhBjBTHxBKITHxBxBHxIvBxBjBHxIv" ++
    "BhCxBTHxIvBhCjBTHxIvBS3uBHgBmhFtlDgsCCgzGCg3GChzGCg5GCh1GCh3GCizGCg6GCh2GCh4GCi0GCh5GCi1GCi3GCjzGCw6" ++
    "GCx2GCx4GCy0GCx5GCy1GCy3GCzzGCh6GCi2GCi4GCj0GCi5GCj1GCj3GCkzGC46GC52GC54GC60GC55GC61GC63GC7zGCp6GCq2" ++
    "GCq4GCr0GCq5GCr1GCr3GCszGCx6GCy2GCy4GCz0GCy5GCz1GCz3GC0zGCi6GCj2GCj4GCk0GCj5GCk1GCk3GClzGC86GC92GC94" ++
    "GC+0GC95GC+1GC+3GC-zGCt6GCu2GCu4GCv0GCu5GCv1GCv3GCwzGC16GC22GC24GC30GC25GC31GC33GC4zGCm6GCn2GCn4GCo0" ++
    "GCn5GCo1GCo3GCpzGC56GC62GC64GC70GC65GC71GC73GC8zGCq6GCr2GCr4GCs0GCr5GCs1GCs3GCtzGCy6GCz2GCz4GC00GCz5" ++
    "GC01GC03GC1zGCj6GCk2GCk4GCl0GCk5GCl1GCl3GCmzGC+6GC-2GC-4GCg1GC-5GCg2GCg4GCh0GCv6GCw2GCw4GCx0GCw5GCx1" ++
    "GCx3GCyzGC36GC42GC44GC50GC45GC51GC53GC6zGCo6GCp2GCp4GCq0GCp5GCq1GCq3GCrzGC76GC82GC84GC90GC85GC91GC93" ++
    "GC+zGCs6GCt2GCt4GCu0GCt5GCu1GCu3GCvzGC06GC12GC14GC20GC15GC21GC23GC3zGCl6GCm2GCm4GCn0GCm5GCn1GCn3GCoz" ++
    "GC96GC+2GC+4GC-0GC+5GC-1GC-3GCg0GCu6GCv2GCv4GCw0GCv5GCw1GCw3GCxzGC26GC32GC34GC40GC35GC41GC43GC5zGCn6" ++
    "GCo2GCo4GCp0GCo5GCp1GCp3GCqzGC66GC72GC74GC80GC75GC81GC83GC9zGCr6GCs2GCs4GCt0GCs5GCt1GCt3GCuzGCz6GC02" ++
    "GC04GC10GC05GC11GC13GC2zGCk6GCl2GCl4GCm0GCl5GCm1GCm3GCnzGwCjB-THAnBfkBTnBfwCxBTHAnBfwCjBTHAnBfgDKITH" ++
    "AnBfgCjB-THxIvBgCxBTHxIvBgCjBTHxIvBgC1CHAsCfgCiDHAsCfRoGHgB1CoGHwBxBTyGHwBjBTyGHwBxBoGyGHwBjBoGyGHxB" ++
    "-ToGyGHxBHApHoXwBiDHYvBwB1CHYvBgDjBHAuFAnBflBTnBfxB-THAuFlBAnBfmBTnBfQxB8mBQjB8mBgBxBT8mBgBjBT8mBgCx" ++
    "BHYZiHgCjBHYZiHgDxBHxIvBYZiHgDjBHxIvBYZiHwChGzFGxG7EHhC7EGxGzFHxBzFHAexB7EHAegCxG7EHAexBzFHAegDhGzFH" ++
    "GhG7EHxC7EHGxG7EHgDxG7EHGxGzFHxCzFHGhGzFHgCxRrGwI1arGgC1arGwIxRrGgDxG7EHwIhG7EHgDhG7EHwIxG7EHwC1arGw" ++
    "IhG7EHwCxRrGwIxG7EHgDhG7EHwIhGzFHxCzFHwIhG7EHgC5LH4EhxCIwCH4EjBzcmzBiDF1CyB1CzcmzBxBFjBwBwxKrO7QHwBh" ++
    "zIrOjNHwB4GrOjNHwBoIrOjNHwC4GrO7QHAwNyBjNHAwBgC3CI59B7QHxBK59BjNHwBjN3H9BHwB7Q3H9BHwCjBHJ6FxBHwCxBHJ" ++
    "6FjBHwC6FjBHJxBHgCjBHAwBQgCxBHAwBQwBjBH0Q3DwCKIH0QC9BwCiD-THxIC9BgDK+CpBI+CzBrFiCzBI+CpBrFgDpB+CIzB+" ++
    "CKrFiCKzB+CIrFgDK+CpBI+CpBrFgDpB+CIzB+CIrFgDK+CzBI+CzBrFgDpB+CKzB+CKrFgDxBrFA+CpBYvBgDjBrFA+CpBYvBgD" ++
    "iDrFA+CIYvBgD1CrFA+CIYvBgDxBrFA+CzBYvBgDjBrFA+CzBYvBgDiDrFA+CKYvBgD1CrFA+CKYvBgDxBrFA+CpBxIvBgDjBrFA" ++
    "+CpBxIvBgDiDrFA+CIxIvBgD1CrFA+CIxIvBgDxBrFA+CzBxIvBgDjBrFA+CzBxIvBgDiDrFA+CKxIvBgD1CrFA+CKxIvBgFxBrF" ++
    "A+CpBJxBrFA+CzBgFiDrFA+CKqUiDrFA+CIgFjBrFA+CpBJjBrFA+CzBgF1CrFA+CKqU1CrFA+CIgFxBrFA+CpBJjBrFA+CpBkDz" ++
    "BJjBrFA+CzBgFjBrFA+CpBJxBrFA+CpBkDzBJxBrFA+CzBwDxBrFA+CpBJ1DyG0BzBQ1DyGwDjBrFA+CpBJ1DyG0BzBQ1DyGgFiD" ++
    "rFA+CKqU1CrFA+CIgF1CrFA+CKqUiDrFA+CIwCITHAkV5MgC4HFJjBHgCxCuGJjBHgCxBHJxCuGgCjBHJxCuGjBqOrCYwBiFJxBH" ++
    "wBxBH0QiFwBlFJjBHwBlKJjBHwBxBH0QlKwB8KJxBHgBK1UuFgBI1UuFgBpB1UuFgBzB1UuFwBoGnBvBhoBgBtDkZ+rLSyhCqIwB" ++
    "Kc7J4BwBIc7J4BgBKc0GgBIc0GgCtDkZK2W4BiBI2W4BiBK4rC4BiBI4rC4BgCK7B4BAvKgCI7B4BAvKwDK7B4BAsVsF4GrIwDI7" ++
    "B4BAsVsFoIrIwDK7B4BAsVsFoIrIwDI7B4BAsVsF4GrIgCK0F4BAWgCI0F4BAWwBKrOiF4BwBIrOlF4BgCTKrOlF4BxBIrOiF4Bg" ++
    "CKZ4N5K4BgCIZ4N5K4BQpHriBgBnBqakEwB4jB0FskBKgCI0F4LA7BgC4jBI0FAWwB0FAoB6MQgD0FwBmtD0FskBKDpBQ0D0FQgE" ++
    "0FgB0FAvKwBgE0FAvKwB0P0FskBpBDzBwF4jB0FAuDphB6-GsFH4EpBGILKpBzBGILKpBIGpBpBKGpBpBIGzBpBKGzBgBgE0a6Tw" ++
    "B0a6TAqRjBC9BJjBIHJjBKHJwB9BAsCvBgBvFnBvBBqZRwL6KB17BwF9B+zBiSsCvBG4G0B+zBiSnBvBhBA5wL3DwBvF4xEhYFwB" ++
    "pBH0Q9BgBvFcjQBjQBiFBlFgD9BAC9BYtHIyCOsCw-BYtHIwB7HxRrG+OhB1arG+OBmGRC9BB7BgBOijB2uBwB4CAWJCvKgBoBsF" ++
    "4CgC4CAkuBwKoIgCI4CJK4CgCK4CqUnBvBgCnBvBqUI4CgC6xBAK0BZiBI0BZQZ6xBgCsBAK0BZiBI0BZQc6pBQZ6pBgBK9gBriB" ++
    "gBI9gBriBwBKT9gBriBwBIT9gBriBQ3hI7egBzgBiC7egC7e+hDAnBvBQi7Gu5BwB7BAonGw+JQ4hIhQQknLtRgC4HFG0LqZlBAx" ++
    "CJgC-pBYG0LqZQjvH9tLAl4LwCmS4CAK0BZjBI0BZgCZiHAzBHBlRgCc9BAzBHgCZ9BAzBHgB2gHc7BRZ7BRciHRZiHRc9BRZ9BA" ++
    "n0KgBwL6KuGgB6KAqRgCwL6KAsCfQiQ6KRwL6KQTwBQoGwBwBoMrT0F4BwB2KrT0F4BA0lBA1kJwBxfvFWuGSwBuGSsBuGxBpOuG" ++
    "AWEwBhB7BgOuGSpOuGwBOkRGuGSvDuGgBxfsBuGgB4lJOtgBgBhvBA7MgB4T7MuGgBnmHw7B7MwB7MATfhBn1EA+OQ7pFn1BQjN+" ++
    "4CgDkE+4CA5oDy7BkxB1kBzB59By7BkxB1kByBjF1hItH1kBgC7MkxBMrRuGgBrrK7MuGwC7MAxBHAeSsBFCgOCpOCqRCvKAnqBw" ++
    "BvEK4CuGwBtDkZg5K5yBDolKDioKwCwBFAC9BJjB5DlHJTxCJTWQTxCQTpcOTZ4CgCwNFA-EJTWQT1a+BTxR+BwCwBFsFK0B9BjB" ++
    "I0B9BwB1oMvDnGtRgC0TFAWJDvKgCplBtRAoI3HQ0sDtRwC0TFsFK0B9BjBI0B9BwCvF0TFA5DlHgC0TFsFT9BgBvFhYFwBwBFsF" ++
    "4CwBwNFsF4CwB0TFsF4CQ-4CtRgBxxK-4CtRwBtDkZzvK5yBgBzwEvD3uCgBgOAWwBpOAwNFCqRgBgOAqRSkRGwBpOAkRvDRJgOg" ++
    "BgOJpOgCpOJvBJgOgCgOJvBJpOwCpOqUGijBApOwCgOqUGijBAgOwB3HpOAkuBhBgOAkuBgBT7BgOCpOgD3HpOAkuBG0sDtRgCkR" ++
    "GAWJxBvDAWJgBTkRGCvDwBOxiIkRGDvDgB8pLvEvDCGgCkRvDm7BkRGxBGAlBoXxBvDAlBoXxBGAsCyGxBvDAsCyGxBGATqRDvKT" ++
    "TvKwBCnaAvKgCkRvDATqREvKwBtDkZ6yGtpCS68BtpCgC4HFAWQwB-pBAWJgDoGsCvBATnBfkBoGnBfgCxCuGAWJTxR+BgBmcwNm" ++
    "cwB+mGAWJgB4HAmGwCqOrCYA5DlHgCnhBrCvDrCYgC4HFJwBFgCwBFJ4HFgC4HFJxCuGgBTqIrCwBO0uC4H+rDwBX0uC4H+rDwE4" ++
    "HFAO+BJGO+BQgCsPAd+BJwBiFA9B6MwBlFA9B6MgCiFAnJVJgClFAnJVJgCiFvD0LrCYgClFvD0LrCYwDiFvD0LrCYAW6MwDlFvD" ++
    "0LrCYAW6MwDiFvD0LrCYAWJwDlFvD0LrCYAWJgEiFvD0LrCYAWJIgElFvD0LrCYAWJKgBiFvD7mBgBlFvD7mBwCiFGogBjFrCYwC" ++
    "lFGogBjFrCYwBiFGjF7mBwBlFGjF7mBwCiFJ+drCJlFwClFJ+drCJiFgCiFJmcvDrCgClFJmcvDrCgCiFJmcJlFgClFJmcJiFwCi" ++
    "FJlFJ+drCwClFJiFJ+drCgEiFJ0LrCJlFJ0LrCgElFJ0LrCJiFJ0LrCgC0LrCYvDiFElF0BiFAW6M0BlFAW6MgC+drCYvDiFElFh" ++
    "C0LrCYvDiFFlFgBmcvDiFClFhCJiFJ4HFyBlFJ4HFgBTkiDiFClFiBiFAvKgBlFm7BiFRqUiFwBiF3HiSkNwBlF3HiSkNgDiF3Hi" ++
    "SkNJ0LrCgDlF3HiSkNJ0LrCQzsDxgBQg8CxgBgCzsDxgBvDrCYgCg8CxgBvDrCYgC4HFAmiFJgCsRJogB4HFgC0RJogB4HFwCsRJ" ++
    "ogBjFrCYwC0RJogBjFrCYwBsRJ4HFwB0RJ4HFgCsRJjFrCYgC0RJjFrCYgCsRJqOrCYgC0RJqOrCYwCsRJjFqOrCYwC0RJjFqOrC" ++
    "YQTsRB0RgBlKAWgB8KAWgClKAwBFQgC8KAwBFQgClKA0TFQgC8KA0TFQwDlKbvDrCYAWJwD8KbvDrCYAWJgClKbJ4HFgC8KbJ4HF" ++
    "gClKbJxCuGgC8KbJxCuGwClKbJqOrCYwC8KbJqOrCYwClKbJjFrCYwC8KbJjFrCYgC7BKuD0JuGxBIuD0JuGQ3HlKB8KxBlKvDrC" ++
    "YxB8KvDrCYgBlKJ8KgB8KJlKgBlKJlKgB8KJ8KRqUlKyCGijBiSyGAlKwB0UbskB1CwB5mDAwgB4GQq8LgOA1nHA4zJgB6FK-HRz" ++
    "B-HRpB-HgB17BAoBgCnBvBoGIkagCTnBvBKkagCnBvBTKkawCTnBvBTKkawD1DyGxIKurBbTnBgC6FzB-HAqRxBpB-HAvKzBJ6Fz" ++
    "B-HgBTzB-HRpB-HhBfjFFgCgETfjFFgDxUjF9zBAgEqtJ+OgCnBkEA9BJEQgCzB-HA9BQwBqZAsCfSxCuGgCoGnBvB2rCwtBjBAs" ++
    "CfRqIuGRkiDiFClFwC+d0LiFvDrCYyBlFvDrCYwBoG6K2rCwtBgCvEoGnBvBuGgBT6KuGgBcnBvBwBxfcnBvBwBhG7EcHhBzFcHw" ++
    "BxG7EcHhBzFcHwBKIcHgBxBZHgBiDZHgB1CZHwBhG7EZHhBzFZHwBxG7EZHhBzFZHwBKIZHwBpBzBZHgCjBHA1Q1CEiDgCxBHA1Q" ++
    "1CEiDgC7BA4G0BZiBoI0BZiCsDIrG0BZiC3CKrG0BZgCiHAK0BZiBI0BZiB4G0BZiBoI0BZQpH7BgBZvE7BgBcvE7BwBZyJC7BwB" ++
    "cyJC7BQZxkBQcxkBB+1BQZ+1BgBsCZ+1BgBZvE9BRhDiHgBchDiHgBZhDlRgBchDlRgBZCiHClRgBcClRgBZsCwoBgBcsCwoBgBZ" ++
    "nBwoBgBcnBwoBgCKHAC9BgBXxBsOgCKHAvFwBwB1DxB3uBHwCxB-THAnBfkBTnBfTxIvBiBoGyGHxBHApHoXzBuFAnBflBTnBfxB" ++
    "-THAuFlBAnBfmBTnBfhBH0Q3DgC5LH4EhxCKgC4HFJxBHwCwLxCuGJxBHgDxBHJwLqOrCYwBjBH0QlFD8KgBxB4THgBjB4THwCwL" ++
    "xCuGJjBHgDjBHJwLqOrCYgCxCuGJxBHwCxBHJqOrCYjBwLxCuGwCjBHJwLxCuGwB1CpEqaHwB6F0LhGHhBrxBxGHgBchDmFgBZCm" ++
    "FgBcCmFgBZ2KxkBgBc2KxkBgBkBvE9BxBj7BAj7B6MxB9BA9B6MB9BRvF5TwC0LhGHA4e5MwCrxBxGHA4euFwC0LhGHAsCuFwCrx" ++
    "BxGHAsCuFgD2IH4E1CzchG7EwD6F2IH4E1CzchG7EgBxBpEHgBiDpEHgBjBpEHgB1CpEHwBKIpEHwBpBzBpEHwBhGzFpEHhB7EpE" ++
    "HwBxG7EpEHhBzFpEHwBxBpE9QHwBiDpE9QHwBjBpE9QHwB1CpE9QHgC7QpEuD9BHgCjNpEuD9BHgCxBpEHYvBgCiDpEHYvBgCjBp" ++
    "EHYvBgC1CpEHYvBwChGzFpEHYvBhC7EpEHYvBwCxG7EpEHYvBhCzFpEHYvBgDxBpEHATsCfgDiDpEHATsCfgDjBpEHATsCfgD1Cp" ++
    "EHATsCfgBsCqX4WgBnBqX4WgDxBpEHiCjBpEHwDiDpEHxBb1CpEHgDjBpEHiCxBpEHwD1CpEHxBbiDpEHwBxBpEoZsOwBiDpEoZs" ++
    "OwBjBpEoZsOwB1CpEoZsOgCxBZvFcHgCiDZvFcHgCjBZvFcHgC1CZvFcHgCjNpEI7lBHiBoI7lBHiBK7lBHiB4G7lBHQ+kBKBIQl" ++
    "iDKBIgCdrIsOpuCjNgBjBZHgCgBnHyhCMo-GgCswD-gCxBzKrExBvxKiDzKrExB-gCjBzKrExBgzI1CzKrEwBZxBzKrEhBiDzKrE" ++
    "hBjBzKrEhB1CzKrEgD1CpEHA1D1QxBGjBgDiDpEHA1D1QxBGjBgDxBpEHA1D1QiDgDjBpEHA1D1QiDgDxBpEHA1D1Q1CgDjBpEHA" ++
    "1D1Q1CwCZrT1CGxBHUjBHyBiDGxBHUjBHyBxBGiDHyBjBGiDHyBxBG1CHyBjBG1CHwBztBHzBKDISpBKDISKpBSIpBSKzBSIzBwD" ++
    "iDcHxIvBAsCvBwCpBrEsFM8b0JgBm7Bc2uBiBGZ2uBRZ2uBgCua0JAtC3DQvF3DR-I3DgBZ7B7XRiH7XgB0DZxkBgBsCZkkDQZkk" ++
    "DxBhD4Q4C7XiBmS4C7XiBoM4C7XiB2K4C7XgBhiDDOwB4G0BZ9BwBoI0BZ9BgCtCd6HZ8nBwC8EtCd6HZ8nBwBcd6H8nBgC8Ecd6" ++
    "H8nBgB7B9sBxYQjkMFQ31BVgB-mDDOCXCdChBAp8LAooKAn0EAj9HAlkKAvtJgBcgK9hLwBZiH6EnGwBlhCtCgKxzEA9oGAxyHA9" ++
    "hNAvtIAlyEAmuEAt0MA7mKwBK0BZmFwBI0BZmFgCmFAK0BZiBI0BZwCxB-THA4C9mBwCiD-THA4C9mBwCjB-THA4C9mBwC1C-THA" ++
    "4C9mBgB1gHDPCOA35KwB10KjqCgBkrMDh0JD1rKD2-EDjiLDw8LgC4HFA7eQQrkMgBQniLgBQnoBgBQuhKgBgBgEI0FgB20H8hKg" ++
    "BwB91CEBpxBDgyBD7hCDz1BDi0BD5iCDjjCDqoBDhjCD+eTiB+eDUDg0BD82BDn4BD8jBD55BD86BDg8BDp9BD2+BDuhCD1hCDk1" ++
    "BD91BD2kDDlGDn+BD3cD1hBDmEDjUDswBD0iCTntD2BDyHTCpJVAuFDuIjB8eCpJTiQpJjB8eiQpJD5aD-eD0rDTxxDMTi8C8jBT" ++
    "ttC1hBhBCBpxBDgyBD7hCDz1BDi0BD5iCDjjCDqoBDhjCD+eTiB+eDUDg0BD82BDn4BD8jBD55BD86BDg8BDp9BD2+BDuhCD1hCD" ++
    "k1BD91BD2kDDlGDn+BD3cD1hBDmEDjUDswBD0iCTntD2BDyHTCpJVAuFDuIjB8eCpJTiQpJjB8eiQpJD5aD-eD0rDTxxDMTi8C8j" ++
    "BTttC1hBgD3FEBtBATvBxCCBtBATvBxCEBtBAlBxCjBwDAfjBmBAuFhCCBMAfzB6CArGfhCEB9CAhHhCCB9CAhHhCEB5CAhHhCCB" ++
    "5CAhHhCEBtDAhHhCCBtDAhHhBEBhIjBpCAeT0DMEhIxCCB7CAIehCEB6DAehCCB6DAejB7CAoLxBEB0B9CxBCB0B9CTn1LrKjBRA" ++
    "njDzB0DmBAuFjCNA-CzC6MhCBCE0DRxBpcCBiEwB6IBE7CgD3FEBoBAvgBuFzBtDAvgBuFwBnKEB-oChBCB-oChBEBxzDhBCBxzD" ++
    "hBEBrLhBCBrLhBEBxvChBCBxvChBEBtoBhBCBtoBhBEB+sDhBCB+sDhBEBywBhBCBywBhBEB+2ChBCB+2ChBEBqwDhBCBqwDhBEB" ++
    "u4ChBCBu4ChBEBsqBhBCBsqBhBEBj8ChBCBj8ChBEBkJhBCBkJhBEBlIhBCBlIhBEB3qBhBCB3qBhBEBNhBCBNhBEB1GhBCB1GhB" ++
    "EB5JhBCB5JhBEBs+BhBCBs+BhBEB2NhBCB2NhBEB1gBhBCB1gBhBEBuThBCBuThBEBvqBhBCBvqBhBEBjOhBCBjOhBEBtsBhBCBt" ++
    "sBxBEBgYqCxBCBgYqChCEBxFnKgIhCCBxFnKgIxBEBjWtoBxBCBjWtoBxBEBgYsqBxBCBgYsqBxBEBgYlIxBCBgYlIxBEBjWlIxB" ++
    "CBjWlIhCEBxFnKtsBhCCBxFnKtsBhBEBggBhBCBggBxBEB8Q1ZxBCB8Q1ZhCEBxFnK1ZhCCBxFnK1ZhCEBxFnKmNhCCBxFnKmNxB" ++
    "EB7oCnfxBCB7oCnfxBEBgY5exBCBgY5ehCEBxFnK5ehCCBxFnK5ehCEBxFnK2BhCCBxFnK2BxBEBx7C2BxBCBx7C2BhCEBxFnKl3" ++
    "ChCCBxFnKl3ChCEBxFnKgbhCCBxFnKgbhCEBxFnKvehCCBxFnKvehCEBxFnKmxChCCBxFnKmxChCEBxFnKichCCBxFnKichCEBxF" ++
    "-WichCCBxF-WichCEBxF-W9rBhCCBxF-W9rBhCEBxF-WvQhCCBxF-WvQhCEBxF-WjiChCCBxF-WjiCRgBifSkJ5JS1G5JCkuLS2N" ++
    "5JSvqB5JSics+BxBEBjW1ZxBCBjW1ZxBEBjWvexBCBjWvehBmHlIJS3rL-zEDs8CxBEBusCnfxBCBusCnfxBxF-W5FoEjB8zBnJV" ++
    "jB9hInJVT8hC8dhB3MP0BR5FoERomJ8dwByiBCBiIDjnBD9aDmoBD+FDjwBDvmBDmvBDsFDjfDgrBDhMD+jBD6EDysBDzwBD+fDh" ++
    "gBDvcDlaD4sBDuqBDopBD4kBD9ID0nBDoPDgjBD4nBDwnBDqwBDmqBDwpBD7GD4iBDmKD1eD5pBDhhBDgdgB55LBnCC-7MCg8MCp" ++
    "8MCq8MiBxrCuoCxiCCxiCCi8MCl8MCj8MCk8MC19MCn8MCziCS4cziCCu8MCrwBiBxrCuoCrwBS4crwBCs8MC-gBC70DS4c70DC-" ++
    "0DS4c-0DCoJC1iCSjvE1iCS4c1iCCv8MC80DC90DS4cr8MDlTC+0DCyHCg1DCz8MCwiCS4cwiCSv1EwiCC08MC28MC18MCxXC38M" ++
    "Ch8MC48MC68MC78MCi1DCj1DSl2Lj1DC-8MCjPCuIxB6IBmwIVRtIVR-KkbgB2oBoO11ICmlJCsyKCvqLCimLCsgFC-6LC9tFCwz" ++
    "JC83JSrJnkBCvjNCyyGCouGCklICy4LCzoFCjkKClmKCwtHC0tHCztHCytHC9GCm-BCk-BCtsLC8sLCwtDCl-BCxlFClmFCjmFCy" ++
    "lFC0lFCzlFCkmFC1wBCx2DCu2DCqkNCukNCt2DCw2DC2lFCimFCgmFC3lFC4lFCsyBChmFCksKCusKCosKClsKCnsKCmsKCpsKC2" ++
    "3BCuvICrvICovIC8qBCqvICtvIC40DCq7MCi7MC-6MCg7MC50DCj7MCwxHC4xHC2xHCxxHC0xHCzxHC3xHwBmHlQBlPDiPDqNDpL" ++
    "DkPD7LD5BDqLDlND+FDNDlGDtPDtTD1HD2BD2QDxKDmED99BD5aD7gHDMD-ND-zBTn5B2gBDxXDyHT0OMTqFpJTiQpJjB0OiQpJw" ++
    "BI0FsgB7YiBpHsgB7YgBKsgB4BgBIsgB4BwBKpHsgB4BwBIpHsgB4BgBiKh5C7YhBpHh5C7YgBpHhhC7YgBKhhC4BgBIhhC4BQiK" ++
    "7BwBKiKukD4BwBIiKukD4BQz+G3nGAs7BQt0Cs7BgBgEt0Cs7BAl9HQpHi8JQ1CnpCQiDnpCgBpH2K0FgBT0PuSQ0E+iBQvkB7xB" ++
    "gBuSAhEwBxCAzCJwBK-CqlD4BwBI-CqlD4BwBxCAWJDQgCKnBvBAotBgCInBvBAotBwB4GK0B4BhBI0B4BwBoIK0B4BhBI0B4BwB" ++
    "KmXL4BwBImXL4BgBKT0GgBIT0GwCO+BiCPWwGwCPWiCO+BwGwB7HdWwGgBhBWVgBgEnJVQnBxCQzCrRwB8PtIlBWQ0D-EQiKWB-E" ++
    "Q0D9SwB2dAKq2CSIq2CQ0D2dwB4G0B4KFQugMyGQ44LyGgBouL5FoEgBnBqB+BgB9gBnBkEA4kFQTuSQgE-EwBT32I8IVwByGAK3" ++
    "hCgBT1-BVgB0E-CkfjBAkfJQ-CkfSAWgBT2tL-EQpH6KQoG2dQ0-C-EQhhKVgB8oKq-GVgB2nG8hC8dgCnG5hKAI8uCTK8uCwB1w" ++
    "DFE-QgB0-C9JVRnJVgCK7B4BAfgCI7B4BAfwCK7B4BATfwCI7B4BATfwB4G0BK0GSI0GwBoI0BK0GSI0GQ0PuSgB4hBptB9kBCxy" ++
    "BS-bPDODXC6OC0JC8-BSqjBPDOCkxCC09BSCPDOS57CPDODXDdC0uBCrgCS2sDPDOSiJPDOCyIC78BC2oFC+SCgKCrwCC7gDCgqF" ++
    "S4RPDOCwTSulDPDOyBvuB0BvVzxDC7hBC9dCn5CiB4xBbzyBCpWSg-BPDOCvxBCr+BSnPr+BSg6BPDODXDdC8-CC+9BCstBCwzCC" ++
    "xFS+xBPDOCtrBC6gDSl2CPDODXCtvBC0yBSzFPDOSnPgcSvuB8HC8HSnPocD5KCipBSnPstCSvuBkwBSkwBPDOCquCSnPspBS1DP"

/-- Packed names, a part. -/
def names5 : String :=
  "DOSnP1DDk1CS9gDPDOC7bC4XiBnPyvD93BDtLDhUD+0BSroBPDODXSnProBC5MSnPzWCqnBCw1BSnP1UDpnBDlVSvuBmiCDqmBSn" ++
    "Pl1BSkqBmeSnPmeSkqB0vBSnP0vBSkqBjYSnPjYC5lBSkqB5lBSnP5lBgBynIptBPCkECWC+OC-bCeCOCz8CChMCjzICjzCCrBSz" ++
    "B0JC-yBCvYC8-BSuD0JCqjBCn8BC64MCh-BiBIuD0JS91Hs0BC2DCkxCC09BCxyBCu8BC7uECiMCs0BCqQCh5KCgRD-pLCzhHCiQ" ++
    "CoaCuyBC2yKC0hICCC57CC5nGCjsLC9YC+xKCsiCCl9JCmyDCl0BS6FrgCSpHxyBS1D+uLSOxWCmmLCrdC2sDCyhFCn-BCiJC7yH" ++
    "CtxCCyIC7xBC78BC3KCwxGCnxBC7BCjFC+SCzqDCgKCvVCpwICoECrwCCi3MSmMjFCwuFC60CCsuCC2tDC4RCwTCoqFC4zCST3Di" ++
    "B0BvVzxDCwsDChlHC7hBC9dC+nKCn5CC4-CCzgCCtuDCt0IC5hCC9zCiB4xBbzyBCgoLSpHjgCCcCspLChLCpWCktDCHCq-BCg-B" ++
    "ClxDCiwHCvlFC6tLCvxBC-kBCr+BCo5CCg6BC+9BC7oBCxFCGC8lKCgeC+xBCtrBCykJC7qDCszEC6gDC2cC19JCssCCvuLCouFC" ++
    "l2CCtvBCqiICosCSkwBs0BC0yBCzFCgcC8HCocCloMCo+EC6sBC5qCC5KCvRCp0KCipBCtsCCstCCigFCnmJCkwBCquCCowBC7xG" ++
    "ClrMCspBC1DCk1CC9gDCxpLiB6FsvDpnBC7bC4XC+4MC6BC93BSyvD93BC9yICnOCtLChUC+0BCroBC5MChoHCzWCqnBCxlBC+aC" ++
    "9lHSo3KowBCutCCw1BC1UCpnBClVCyzBCmiCC40HCqmBCtkJCZCz-GCl1BC-8LCkiBCttBC4fCmeC0vBCjYC5lBCm0CwCvP1vGuO" ++
    "KYIjBJYQjCKYlBGIjCJYlBGQT5FpuDjBpuDxIJFQFKVsDKGIV3CKDk7BB1LB-ER5FoEQ+xGVwBjb+hIztDgBgBvP8UVR5hBVR5Eo" ++
    "DgBK0F4BgBI0F4BwBKT0F4BwBIT0F4BgBKrI4BgBIrI4BwBKcrI4BwBIcrI4BwBKZ6W4BwBIZ6W4BQ+sBVQ2sHVwBK4N5K4BwBI4" ++
    "N5K4BwBKc6W4BwBIc6W4BgCKc4N5K4BgCIc4N5K4BwBKc7B4BwBIc7B4BQ5LyGgCgET5S8IVwBT5S8IVgC-CT5S8IVgB+sBV6BgB" ++
    "82CjVPCOCXCdChBCqBCyBCrBC3BwBvPv8CyDVhBxRyDVhB1zByDVhBggHyDVgC5UnEWyDVxBTWyDVQzVyGwBnBvnI9kBVzBAyVnO" ++
    "VjBVsD0BzCAyVnOVsD0BjBV3C0BgBvF+sBVwCvPpvBkEpetIgBgB82CjV2DC+GC2LwBnBvP8UVQ4-IVgBw7BwwEVgBvPgmBxYhB0" ++
    "BrQ1LwB2eBCMCMSCUCUSCLCLSCRCRSCNCNC5BC8CCgMCsLCnMCyOC-LC4UCpKCgRCvCCjGCmLC2VCjMCnTCyLC7LCsKCmTCwCC0C" ++
    "C3NC2MSCuKCuKCvOC1HCpLCYCmMCmCClICsIC7IC8GC2BCmDC8BCsJCmPC1GCsQCzMCuRC7GClPClGC+JChSCyNClCCkJCqHC5IC" ++
    "uLSCnCCnCSCyHCyHSCuICuICgCCkOCxLCzNC5JSCtECtEC6LCmKC9KC-BC7cSC5BD-LgCmHkjByVnOViB49BnOVwBkjByVnOVhB4" ++
    "9BnOVgB2e8UVhByV8UVRqJz+MgBkjBTuSwBzTBCMCMSCUCUSCLCLSCRCRSCNCNC5BC8CCgMCsLCnMCyOC-LC4UCpKCgRCvCCjGCm" ++
    "LC2VCjMCnTCyLC7LCsKCmTCwCC0CC3NC2MSCuKCuKCvOC1HCpLCYCmMCmCClICsIC7IC8GC2BCmDC8BCsJCmPC1GCsQCzMCuRC7G" ++
    "ClPClGC+JChSCyNClCCkJCqHC5ICuLSCnCCnCSCyHCyHSCuICuICgCCkOCxLCzNC5JSCtECtEC6LCmKC9KC-BC7cSC5BD-LCyFCv" ++
    "XCiPCxVRlBWwBkjBvnDnOVgBzT8UVhByV8UVRqJi7CgBzsCB4DCwDCpCCwECjDC6CC-BCtBC2CC5CC9CCiECkFC3DCgiNC4tCChc" ++
    "CmBCtDCrDCoBCMCNCRCzUC7DCkWCjECmZCiIC+FC7RCoSCtPCUCLC-iBC7CC9MCovHCp2ByBNAWJCkkBgB5UB2YC6uBCr3BCgZC+" ++
    "rBC-rBCiaC9uBCwZC1tBC2tBC3tBC4tBCl9BCk9BC0tBC8YCuZC7uBC5sBC3ZC8uBC0WCgWC5uBC8XC1YC+ZCsZCuYCMCnICnCCp" ++
    "mBCpiBCRC2iCCjPCNCtECgiCCjHCuICLCliCCmKC6LCyHCoWCoJCUBrWRBj-BCo6BCn6BC5iDCopDCm9BCrpDCqpDCtpDCi5BCj5" ++
    "BCogDC+2BCtmDC87BCvmDC77BC67BCwmDCg3BCi6CCu+BCmsDCw+BCv+BCt+BCr7BCi-BC4iCCm1DCl1DC-2BCutDC3iCCr1DCs1" ++
    "DCq1DCx1DCw1DCv1DC4pCC4yEwBvPppCk1IVSwLVSPVSOVSXVSdVS4GVSlBVSoIVSsWVS-bVS2RVSkpBVS2pBVSqQVShMVgBzsCB" ++
    "zMC2VCyYCyOCzGCt0BCiGCxkDChqBCyxECliICizDC1WCkuJCtvEC80ECmUCpRCwkDCmiIhBSBwDD6CD5CD9CRB1tHCj4BCs2DhB" ++
    "SB2CRBsxHCz3BCjHC6RgB4hBf6CCu3MCi6MC6iFCquDCr9HCn9HC7pBCq9HCmzLCo9HCs9HCu7HCp9HCt9HC-BC9CCoBCwDCgtDC" ++
    "jDCs4CCr3CC9yLCuxLC+uBC2kLCiiKC4pKC36LCnzLCnxLCi9HCu9HCtjKCkFwBzTBCnMDmLDjMDYDsID2BDsJDsQD7GD+JDqHDg" ++
    "CDkODxLDzND5JgBzsB5U2YCgZCiaCwZC8YCuZC3ZC0WCgWC8XC1YC+ZCsZCuYS2YMSgZMSiaMSwZMS8YMSuZMS3ZMS0WMSgWMS8X" ++
    "MS1YMS+ZMSsZMSuYMSgWLhBw3BuO78JTNsQRgqBPCOCXCdChBCqBCyBCrBC3BC2DCgKCwTC4RCriCC--CCqQC+SCp-BCg3CC4sDC" ++
    "9jBCltDC-zCCyuCCz7CC+vKCoyBC8tDCmuDCkzCCgpDCjpCC2lHC0NC7qDC4oDgBvFgqBnJCjrICz9BCi7ChC5E2D6EZ7ByB+G6E" ++
    "Z7ByB2L6EZ7ByBnN6EZ7ByBjI6EZ7ByBlO6EZ7ByB9H6EZ7ByBrP6EZ7BQslDFwBvF5E+GPDODXDdDhBDqBDyBDrBD3BC2LDPDOD" ++
    "XDdDhBR5U2YCgZCiaCwZC8YCuZC3ZC0WCgWC8XC1YC+ZCsZCuYS2YMSgZMSiaMSwZMS8YMSuZMS3ZMS0WMSgWMS8XMS1YMS+ZMSs" ++
    "ZMSuYMhBw3BuOknFDwlIhB5U0WLgBw3BztDgBgBvFgqBPCOCXCdChBCqBCyBCrBC3BC2DCgKCwTC4RCriCC--CCqQC+SCp-BCg3C" ++
    "C4sDC9jBCltDC-zCCyuCCz7CC15KC6YCqeCtwLC2hHCsnDC20ECnjIC0NCynGC6nGC+DCpFC-CCKCIC9gJC1vKC8tDCmuDCkzCCg" ++
    "pDCjpCCgsBhB5E2LqBDyBDrBD3BCnNDPDODXDdDhBDqBDyBDrBD3BCjIgCvPpvBgBnH1jIEtlHEm-IEqyEEr-CEzlIEylIE70EEo" ++
    "iLEx8JEg0JE4uGQ7Br3CB0gHBx0BgB70Il0IFgBvFzTMCUCLCRCNC5BCgMCnMC-LCpKCvCCmLCjMCyLCsKCwCC3NCuKC1HCYCmCC" ++
    "lICsIC7IC8GC2BCsJCsQC7GC+JClCCkJCqHC5ICuLCnCCyHCuICgCCkOCxLCzNC5JCtEC6LCmKC9KwB7BnzC9jBwvKBgyEB1zEB1" ++
    "xEB6qEBjiIBziIBwkMBlhHB2+GBo9JBr9JBonIB5nIB8nIB0rHBvrHB1uHB3uHBvvIB9uHBmrIBnrIBorIBprIBjxHBkxHBvuIBs" ++
    "uIB4oIB9sIB4sIBr3KBo4KB9oLBkiLBliLBysGB4vGB-yGBn7LB4qJB-zJB6yHBp-JBq-JB+7EBtkKB-kKB+kKB6-EB47HB67HBy" ++
    "iFBj8HBz0HBhmDB0iKB+0HB3iKBviKBv+EBsmKB1gFBh2BBzmKB05HBy5HBn+IBq+IBk+IBv-IB9+IBokJB4kJB5kJB-4BBihJB-" ++
    "gJB87MB+7MBp-MB8xKB7xKBx0KB30KB4vKB5vKB82MwCvPpvBgBnHi4CoDFPFOFXFdFhBFqBFyBFrBF3BF2DFnSF3QF-ZFrYFvTF" ++
    "oVF0ZFlWFhZF+GFryDFxhCFsyDFqyDQ7Bt7HB0CBjEBvBB4kDBhiKBvyGC7HC8hBB-iBhBnzC9jBy0HDzyLDo1LDjhJB4nGR8B6w" ++
    "EBmCRqHMBlCB5BBsoIB34BB5rHBpkFBtoIBsjKB2tJRqHwEC2CBoiJBt6CBs4CBrqIBrjJBsuHBr5LRqHtBB9kJBoyGB+rIBnnHB" ++
    "9yJRqHpCByrBB2yBBzqBRyrB7HR2yB7HRpC7HRzqB7HRyrB8hBR2yB8hBRpC8hBRzqB8hBhBpCiCoBE7HB8BBsjBB-gDB+vHBwoD" ++
    "SiCoBE7HBroKBh1JRqHoBB-mJBwpKB16BRqH7CB7jBB2uIR7jB-4BBxpKBq3JRqH6DBx5BBz3BRx5B-4BR5CqsBRpCqsBBmUBihF" ++
    "BxtCBytChBrDiCt6CBlSB-vCBvxHB2BB7pBBsFBxqBRzqBEBytIBz1IB01IB71IBt3IR34BCBpkJB7lJBujKBgnDBqnKBsnKBqsL" ++
    "B2-BB92MhB7CiCpChBMiCpCwCvPpvBgBnH+vCPFOFXFdFhBFqBFyBFrBF3BF2DFnSF3QF-ZFrYFvTFoVF0ZFlWFhZF+GFryDFxhC" ++
    "FsyDFqyDF+vBFrgMFqgMFogMFpgMF2LFv4LQ7B7agCg1HnHtHpoG2pBTgvKqQyBgxGwKtHy+ES1+MrnHChiCC7mGStHmzES3exvB" ++
    "SCvvDCv8LCz7BC8tLCxlHSzelnDCslJChgHCo0CyBsiC6EtH3uGCoyECjnGS7rC0QCj2CS5rLhyEC+kBCniISzevvDSiMzdSzern" ++
    "DiBtH1tE4RTvqFwTC-hIC-7GCpwKSzen8BCgoKyB6vCbtHtCStH2zCC-6BCq8JCmvGCtwCCs2BCrhFiBuuFY2-CSp1BxvBSppKkz" ++
    "DC29JStHo3MCuwKStHutCTpzEtgCjBm6CruL9YC8vGiBtHt-Im+IC0tEStHx2MTxsHhUTrlI47CC2xGC60IS94Ch+LSCrnDS6uE4" ++
    "yBSw+E4yBgBoJoO22BCk5CCUC7iICqgIC4gIC-NCpgICwKCrqCCMCupCCykMCjzDCxkMCusBCvsBCNC96BC3oBCRCiUC6rCCjgFC" ++
    "mPC4-ECw-ECx-ECu-ECv-ECxxBCo9ECmDC68ECriFCpiFCqiFC4gFC0JChSCxgFC9+EClPC7+ECtUC4iFCzMCtiFCwiFCsUC+iFC" ++
    "gjFCiSC7iFC9iFC8iFC4mDCulKC1GCzmDC9kKCqmDCykKC1hKC+hKC8BC5OChpKC-oKCgpKC-sBCnnKCyNCk8BCy8BCupKCuRC3n" ++
    "DCopKCjpKC7nDC3pKCzpKC0pKC2pKC1pKC29EC39EChrCC19ECz9EC09ECx9ECy9ECs9ECt9ECvaCr9EC99EC79EC89EC59EC69E" ++
    "CirCC49ECw9ECthBCv9ECkrCCh+ECjrCC+9ECg+EC-9ECk+ECl+ECi+ECj+ECwrJCxrJCsrJCvrJCurJC4hDCtrJCprJCqrJCnrJ" ++
    "CorJC0rJC1rJCyrJCzrJC7rJC8rJC3rJC4rJC6rJC5rJChsJCisJC9rJC+rJCgsJC-rJC53HC63HC03HC43HC33HC13HC23HCx3H" ++
    "Cy3HCv3HCw3HCh4HC-3HCg4HC83HC93HC33CC73HCl4HCm4HC+3HCi4HCk4HCj4HCr4HCn4HCo4HCq4HCp4HCl5BC7kJCkJC2kJC" ++
    "jkJC4jJC5jJC5-IC--IClCC0jBC5nJC6nJC2nJC4nJCsmJC3mJCuLC5gDC-hJC5ICjoJCnoJCqHC7nJCgoJC9nJCtoJCuoJCqhDC" ++
    "soJCwmHC0mHCuTComHCmlHC30BC6GCilHCx0CCsSCxnHC2oHC3oHCtWCyoHCzoHC60CCgpHChpHC9oHC-oHCurMC0rMCvXCprMCz" ++
    "zDCjrMC9qMC+qMCvoMCyoMCyFCooMCjsMCmsMCxVCisMC1qMCvzDCw0MCx0MC7cCu0MCv0MC6zDC50MC60MC-hCC20MC40MC30MC" ++
    "9xGClyGC2MCuxGC8wGC5zBC6wGC7vCCwtGC0CCtzBC57GC47GCWCn7GCmMC9yGC9vGCpLCuvGCj8GCl8GCvOC67GCg8GC97GC2wD" ++
    "Cw6LC3NC1QC45LCzgBC35LC0vDCm2LCwCC31LCkyDC3-LC1-LC2-LCgxDC-7LCYC4GC23LC1HCp3LC--LCjgMCuKClyDC+-LC4lB" ++
    "CmuGCnuGCowCCluGCkuGCiuGCjuGC5tGC6tGC9FC4tGCuuGCsuGCtuGCquGCruGCwzBCpuGC9tGClwCC8tGCxuGCyuGCpwCCvuGC" ++
    "wuGCqwCC0sJC1sJC85BCysJCxsJCwsJCnsJCosJC1fC65BC5sJC6sJC95BC4sJCtsJC6rBCpsJC-sJCgtJC7rBC8sJC+sJC9sJC5" ++
    "4HC64HCz4HC44HC24HC34HC04HC14HCt4HCv4HCg2BCs4HCg5HC-4HC84HC94HC74HCy4HCw4HCx4HCh5HC+wJCgxJClIC7wJCtw" ++
    "JCnwJCowJCjrJCmCC7qJCj3JCh3JCi3JCjFCj0JC8GC6zJC1tJC7ICttJCzjDCp3JCsICk3JCm3JCl3JC62HC72HC-1BC52HC42H" ++
    "C22HC32HCw2HCy2HC23CCv2HCi3HCg3HCh3HC+2HC82HC92HC12HCz2HC02HCm3HCn3HC-2HCj3HCl3HCk3HCs3HCt3HCo3HCp3H" ++
    "Cr3HCq3HCp1ICt1ICuNCl4BCr0ICs0IC08CCq0ICqyICxyICkCC53BCl3ICm3ICj3ICk3ICx2IC42ICpMCs2IC7zICyPCxzICr3I" ++
    "Cs3IC1KCn3ICp3ICo3IC23IC33ICu4BC03IC13ICw9CC-uHCgvHCsLC4uHCxuHCyuHCvuHCwuHC2rHC4rHC8CCviBCgxHChxHC+w" ++
    "HC-wHCi2CC9vHCgRC1vHC1sHC3sHC4UCu1CCpxHCqxHCyOCixHCoxHCvpBC36CCwrICgMC26CC8qIC4qIC6qIC+nICqoIC5BCg6C" ++
    "CouICluICy3BC+sICitICpKC6sICnbCwpIC-LCgpIC4qBC0uICnMCpuICwuIChOCktHCltHCz1CCjtHChtHCitHC7sHC8sHCweC6" ++
    "sHCptHCqtHC31CCotHCmtHCntHC01CC11CC-sHCgtHCu1BC+sHCutHCvtHC21CCrtHCttHCstHC9iJC8iJCriJCsiJCpiJCqiJCk" ++
    "jJCijJCjjJC-iJCgjJCuQC+iJC7iJC5iJC6iJCojJCpjJChjJCljJCnjJCmjJCn4CC78HC18HC68HC48HC58HC28HC38HCw8HCx8" ++
    "HCu8HCv8HCg9HCh9HCp4CC-8HC98HC+8HC88HCo4CC08HCy8HCz8HC6uJC4uJC5uJC+tJC-tJClEC8tJC1vJC2vJC0vJCsvJCtvJ" ++
    "C0bC1iDCjuJCpiDChuJC03CCk2HC4iBCgbC6zHC2BCtzHCh8HCi8HC-7HCg8HC7iBCr7HC+JC+3CC-0HC7GC50HC62MCh0DCtEC8" ++
    "zDCn5MC00DCm5MC54MC9KCx4MCt3MCmKCq3MCqjNCrjNC2VCnjNCjjNChjNCijNC1hNC3hNCjGCwhNC7jNC5jNC6jNCn2DCyjNCm" ++
    "TCxjNC-hNC7LC8hNC9jNC+jNCnTCp2DC8jNCq2DCokNCpkNCs2DClkNCnkNCmkNC9pFChqFC3nBCouCCypFC2pFCwpFCxpFCjSCw" ++
    "lFCuECunBC7oGC6oGCjvCC8nGCkoGClSCwnGC7mFC8VC2mFCnzBCnpGCjzBC9hBCjpGC+oGCsvCCzpGCpvCCrvCCypGCwpGC1kNC" ++
    "2kNCu2DC0kNCv2DCzkNCxkNCykNCskNCtkNC1wBCrkNC4kNCw2DC3kNCwkNCt2DCvkNC+kNCx2DC7kNC9kNC8kNCklNCllNC-kNC" ++
    "hlNCjlNCilNC24JC34JCx4JC14JC04JCy4JCz4JCs4JCt4JC66BCq4JC94JC84JC54JC44JCw4JCu4JCh5JC64JCikDCg5JC-4JC" ++
    "m5JCn5JCi5JCj5JCl5JCk5JCgpLCqBCmLC8oLCloLCioLCkoLCw9BC34KCvCCwqDC0wLCywLCzwLC8+BCkrLCsKC8qLC2iLCyLCm" ++
    "iLChxLCjxLCjMC1wLC+wLCivBC7yLC8yLCvxLC0yLC5yLC1yLCltLCmtLCk-BCktLCjtLChtLCitLC6sLC7sLC9GC5sLCotLCptL" ++
    "Cl-BCntLC+sLCwtDC9sLCrtLCstLCm-BCqtLCxtLCytLCttLCutLCwtLCvtLCkiNCliNC8LCjiNCyiNCwiNCxiNCuiNCviNCkjCC" ++
    "tiNCoiNCpiNCkPCniNC2iNC3iNCljCCziNC1iNC0iNC9iNC+iNC5iNC6iNC8iNC7iNC8tCCtnFCyEConFCipFCjpFCgpFChpFC6o" ++
    "FC7oFC-VC3oFC9nFC+nFCxKC3nFCnpFC2nBCkpFCmpFClpFCupFCvpFCqpFCrpFCtpFCspFCgzKCsMCqzKCpzKClzKCmzKC+pDCk" ++
    "zKCizKCjzKC8pDChzKCuzKCvzKCozKCrzKCtzKCszKC0zKC1zKCwzKCxzKCzzKCyzKCq0JCr0JCv6BCp0JCz0JCx0JCy0JCv0JCw" ++
    "0JCs0JCt0JC50JC60JC00JC20JC40JC30JC-0JCg1JC70JC80JC+0JC90JCprDCqlLCmECilLCpnLCnnLConLC0mLC4mLC8TCvrD" ++
    "CrrDC6lLC+HCxlLCsnLCunLCxQCqnLCrnLC1rDC2nLC3nLCp+BCznLC1nLC0nLCttBCyuKCgCC78BCv0KCt0KCu0KC8yKC-yKC5J" ++
    "C5yKCvwKCzNC6vKC20KC40KCxLCw0KCz0KCy0KCk1KCl1KCkqDCh1KCj1KCi1KCtkICukICyYCskICpkICqkICnkICokIC3lIC4l" ++
    "IC1lIC2lICzYCqlICyTColIC9lIC-lIClbC5lIC8lIC7lICkmIClmICgmIChmICjmICimIChrKCirKC5kBCgrKC9qKC+qKC7qKC8" ++
    "qKC4rKC5rKC48BC3rKChoDCnrKCntBClrKC+rKCgsKC6kBC6rKC8rKC7rKCtsKCvsKCjsKCqsKCssKCrsKC1kIC2kICt5CC0kICy" ++
    "kICzkICu5CCxkIC8kIC6kIC7kIC4kIC5kICv5CC3kICx5CCglICw5CC9kIC-kIC+kICilICjlICy5CChlICuxJCvxJCjkBCtxJCr" ++
    "xJCsxJCoxJCqxJC0xJCzxJCxxJCyxJCgjDCwxJC5xJCs6BC1xJC4xJC3xJC+xJC-xJC6xJC7xJC9xJC8xJCgkDC63JCvQC-jDC13" ++
    "JC23JCz3JC03JCl4JCj4JCk4JC-3JCg4JCgXChkDCn4JCo4JC56BCm4JCs6MCt6MC+PCq6MCo6MCp6MCm6MCn6MC36MC26MCy6MC" ++
    "z6MC20DCv6MCp7MCr7MC+6MCm7MCo7MCn7MC6iCCi+MCoJCh+MC89MC99MCp1DC79MCx-MCy-MCv-MC01DCtmBC4+MCuICy+MCvw" ++
    "BC3-MCyHCz-MC1-MC0-MC9-MC+-MCgjCC6-MC8-MC7-MRptBhoDCuNC36CC-jDCrvCCk-BC11CCu1CCkJCn4CCw9CCkrCC5gDCuI" ++
    "Cy8BCp4CC0vDC8CCp2DCsvCCqwCCsUC31CChkDCuKC96BCx5CCn2DC7nDC33CC6iCC6zDCp+BCvzDCjGCyTCikDCy5CCi2CCu5CC" ++
    "9KCvOC1rDC08CCpvCCjvCCouCCo4CCprDCq2DCvrDCxKCv2DC4hDC-LgB78CBmDC8BCtFC0CCwCCgFC8CC5BC1ECsECuECyEC+QC" ++
    "+IC7PClCCmCCkCCvCC8LCjGClEC2BC9PCyWC6GCtECmECnCC-FCMCnICRCoWCUCNCLCnLCzhCCjHiByD05B3NTmCyNT05BqvCEhS" ++
    "EmCEgkIRwG-ES5FoEgBioMoOzGC3+GC3pBClwBCm3MCiXCk-ECndCrrBCl7CCwiJCm1CC3aCnaCwgBCzlBCnwGCqwGChrBC8kBC3" ++
    "dC75BCgcCnuBCumBC0wBC0tCCgfCikBCghBCk3BCsiDCwiBC94BC+5BC8jDCUCsFCsJCx3CC6LC93MC1GCl-ECmPC44BCm7CCziJ" ++
    "Cn1CCuTCvXC3NC0cCvwGCrwGCuNCkOC2MC85BCmLCmgBC2VCijCC3nBCyYCjkBCoJCgMCuiDCsLCkJClICvQCMCiIC6tJC2BC62C" ++
    "CtECu2MC8BCtGCmDC3jBCsjBCktIChgDCs1BC6GCyFCwCCgFCgGCowGCkCCgCC0CC1fCvCCmECjGC8LCuECsEC8iDCnCC5BCjfCh" ++
    "kBC8CClCCmCCzECiGCs9JC6iBComBCw4MC2kBCm-ECvsCC74BCn7CC3iJCp1CCh1BC4zDC0gBCpgCCxwGCtwGCrfC5pDCsxCC7hD" ++
    "CtlBCk+BCm2DCsiNC+yBC05CChjDCuwBCrjBCk6BCzvHCp5BCu6BC+3JCLClaCsQCl4CCiUCk5MCuRCn-ECzMC84BCo7CC4iJCt1" ++
    "BCtWC7cCuKCsgCCzwGCuwGC1KCxLCvOC7rBCjMCxQCnTCljCCjzBClbCs6BCyHCnMCl6BCyOCqHCsIC56BCNC6EC0iDC+JCh2BC9" ++
    "KCqiCCyNC0rCChSC64BC1qBC1iJCo1CCgsHCsSCxVCYChPC3wCCswGCpMC5JCmMC95BCsKC8TCmTCkjCClSCyTCgjDCuICpKCj6B" ++
    "CgRCuLC8GCgXCRC+FCqiDC7GCm3CCmKCp3MClGConBClPCqrBCk7CCmtICviJCnpBC8rHCqSCiPC1HCtHChiBCpwGCyPCzNCpLC6" ++
    "rBCyLC+HC7LCkPC8VCvSCjZCjPC-LCh6BCi6BC4UCssHC5IC7IC36BC9MCjrBB-ER5FoERnJVhBoO6hD6GD5BDtlBRgBvlHC3oIC" ++
    "l6LC6iDC28EC6oBCrcCrzBC8yGCkuICv7LCxyGCnlIRyCoDCPCOCXCdChBCqBCyBCrBC3BhBoO6hDlCDmMwBlQEBg2DhBCBg2DhB" ++
    "EBqoBhBCBqoBxBEBgElYxBCBgElYhBEB0IhBCB0IhBEB-zBhBCB-zBxBEBn5B2gBxBCBn5B2gBxBEB+sCsHxBCB+sCsHxBEBvLsm" ++
    "BxBCBvLsmBxCEBjUA+RsmBxCCBjUA+RsmBxBEB0OxXxBCB0OxXxBEBgEyHxBCBgEyHxBEB0OMxBCB0OMhCEB3HqFpJhCCB3HqFpJ" ++
    "xBEBhsCpJxBCBhsCpJxCEB0O3HqFpJxCCB0O3HqFpJhBEBhhBhBCBhhBxBEBgE2QxBCBgE2QxBEByQpLxBCByQpLxBEByQqLxBCB" ++
    "yQqLxBEByQlNxBCByQlNxBEB0rBNxBCB0rBNxBEB5rCNxBCB5rCNhCEBT0rBNhCCBT0rBNhBBwnJNgBmHlQ80MiB2DxbFiB1BxbF" ++
    "iBjCxbFQypLmGgCmHlQB0hC-NDUDoJDLT6UFDjUTyQFDsHCkfCwlDQlQkfBwlDhBEBo0BhBCBo0BhBEBkyChBCBkyChBEBh2DhBC" ++
    "Bh2DhBEBsyBhBCBsyBhBEBlyChBCBlyCxCEB1HAlBexCCB1HAlBehBEB6lBhBCB6lBhBEB6xDhBCB6xDhBEB4xDhBCB4xDhBEB4v"

/-- Packed names, a part. -/
def names6 : String :=
  "DhBCB4vDhBEBl2BhBCBl2BhBEBngBhBCBngBxBEBTNxBCBTNxBEB8QNxBCB8QNgC6IBlQ6UFTyQFwBmHlQByUT0ORgB7qCBMC5BC" ++
    "LCnMCzGC8kBC9-BCNCvQCUCkCC8BC8tBClpDCn8CC+4BCrcC5rBCr6BCpCCjvBCqHCquBCmLCsrDC69BC8qBCnbCujDCsICijDC8" ++
    "iCCxQC9iCCnCCw6BCr6CC27BCikBCy6BC2nDCtiCCiXC3aCxLC1KCkJClICi9BC+fCljBCyiDChkBClEC8TCv8BCtWCg1BCtECmC" ++
    "CuNC1GCnrBCpKCu-CCxtBC9WClCC3NCgMCuLCufCxcCsjBC2DCtjDCuqDCtkHChtICwsIhBmHV7sIDv-LB9iDR5FoEBqIB-EB9SR" ++
    "nJVwC6IBjuCyDyX97BUlT97BUyXmrDUlTmrDUyX6kBUlT6kBUyXxLUlTxLyB4oBpHyDvByB+DpHyDvByBwbpHyDvByB-CpHyDvBy" ++
    "B5oBpHyDvBiC4oBpH+UyDvBiC+DpH+UyDvBiCwbpH+UyDvBiC-CpH+UyDvBiC5oBpH+UyDvByB4oB+UyDvByB+D+UyDvByBwb+Uy" ++
    "DvByB-C+UyDvByB5oB+UyDvBiBWnBvBD+OTsCvByB3CIrI0FiBiKpBHTzBHT9JVjB0E9JVyB-C0E9JVyBt-BG+DyDU-CyDgC3FEB" ++
    "soBqCxBCBsoBqCxBEBsoBgIxBCBsoBgIhBEB3iBhBCB3iBhBEB2yDhBCB2yDhBEBrxDhBCBrxDhBEB7nBhBCB7nBhCEB7nBA-EhC" ++
    "CB7nBA-ExBBCEwEEoBhBEBpDhBCBpDhBEB5mBhBCB5mBhBEBjEhBCBjEhBEBkdhBCBkdxCEBkdAsCvBxCCBkdAsCvBhBEB8RhBCB" ++
    "8RxCEBgErDAWxCCBgErDAWhCEB5CAfhCCB5CAfxCEB5CArGfxCCB5CArGfxDEB5CAfGrGfxDCB5CAfGrGfxBEBtdtBxBCBtdtBxC" ++
    "EBtBA+DfxCCBtBA+DfhDEBNA1DfjLhDCBNA1DfjLhCEBNAvNhCCBNAvNhBEBiGhBCBiGhDEBwDAf0QhHhDCBwDAf0QhHhCEBwDAs" ++
    "iBhCCBwDAsiBxCEBwDAstDuFxCCBwDAstDuFhDEBkFAf0QhHhDCBkFAf0QhHxCEBkFArGfxCCBkFArGfxBEBmBllBxBCBmBllBxB" ++
    "EB+tBllBxBCB+tBllBxCEB7CArGfxCCB7CArGfhBEB-hChBCB-hCxBEB1zDtDxBCB1zDtDhCEBgaAfhCCBgaAfhDEBgaAf0QhHhD" ++
    "CBgaAf0QhHhBEBuzDhBCBuzDhBEB-QhBCB-QhBEB9ehBCB9ehBEBxuChBCBxuCgB6IB4gBwB3FCB17GD7WDynJD82JD+tBxBBCE+" ++
    "tBhBCB9vBD8lBxBEBrNjDxBCBrNjDxBEBrNwExBCBrNwExBEBrN2CjB0DrN2ChCCB0DrN2CxBEB0DtBxBCB0DtBxBEBrNmBxBCBr" ++
    "NmBxBEBrNoBxBCBrNoBxBEBrN6CxBCBrN6CgC6IB-C5DlHCqIiB6F4HFwB3FEBsqDhBCBsqDxBEB0D9CxDCBtBA2GeGoThBBzoLW" ++
    "hCEB-BAhHhCCB-BAhHhCEBrDAvBhCCBrDAvBVmJezB9CAmJehCEB4DAsiBhCCB4DAsiBhCEBwEAfhCCBwEAfxBEB6gBnIxBCB6gB" ++
    "nIxBEB6gBjHxBCB6gBjHxBEB6gBnLxBCB6gBnLxCEB2CA0PfxCCB2CA0PfxCEB5CA0PfxCCB5CA0PfxCEB-BA0PfxCCB-BA0PfxC" ++
    "EBmBA0PfxCCBmBA0PfxCEBoBA0PfxCCBoBA0PfhCEB9CAejBgEuDRT3K2CjBtBAoTjBCEUxBBCEkFxBEB0D5CE6CjBiEAiWDyKDy" ++
    "MhBCByMhBEBsHhBCBsHhCEBLAfhCCBLAfxBEBrJMxBCBrJMxBEBrJUxBCBrJUxBEBrJLxBCBrJLhCEBxFh8BNhCCBxFh8BNxBEBo" ++
    "pC6DxBCBopC6DxCEBrDAmJejBoBAezBtDAmJejCjDA6FfjLhDCBjDA6FfjLhDEBoBA6FfjLhDCBoBA6FfjLhCEB3HrN2ChCCB3Hr" ++
    "N2CTTgaEpwBhCEBlB2qDoBhCCBlB2qDoBxBEB9rDoBxBCB9rDoBwB6IBErDDwEDkFwC3FEBgE0B9ChCCBgE0B9CxBmzCBmXUwC6I" ++
    "BE9CAfiBCkIjHwC3FBCE0DpCxBmzCBgEwEEwDT0EpCTUp4BTvMpCwByxLwqJBMDUSFo8GSBLDRDNSF92CSBpKDobDgRD71CSF7FS" ++
    "BlSD-VDyTDkkIDshCD8vBDwzBDnwCDYDhPDmMD3wCD8GDyND3TDhSD0rCDuLD5JDpMD+pDDsKD+JiBuCFMEUELEREiGSrmK1jBD2" ++
    "jBDo-CDp-IiBF+K92CgChG74C3MPmIE0BTX3PTPpgBE1JTXxuBSmIVS-7BVS9bVSqrKVgBxjKB5BC1EC8CClECuECyECsECzECwC" ++
    "CgFC0CCmCC8BCtFCmDClCC+IC7PC+QCtEC8LCjGSCMCnCCgCCkCCmECvCC2BCMCUCLCRCNCrMC9PC6GCweCzGhBrgBBtEDnCRB8F" ++
    "C5GC9FCsGS+KnCS4rMmESyV2BSg0E6GhBrgBBgChB3wLBgCRBvIhBnE5MVhBT5MVRV9OST9OgBz4KF7FC2HRBMCpDCUC8DCLCqES" ++
    "nFmBDkHDtBD5HCRCzGC7DCNCiGCjEC5BC1EC8CC-FClECuECyECsEC0HCzEC8FC5GC9FCgHCsGCwCCgFC0CCgGCmCC8BCtFCmDCt" ++
    "GClCCnCCgCCkCCyFCmEC9GCvCC2BCuJhB-KFwyHhBuCFpDDUD8DDLDqETnFmBEkHEtBE5HDRDzGD7DDNDiGDjERF-GCvIB3IRT3I" ++
    "RyCoDCPCOCXCdChBCqBCyBCrBC3BwBmH3zByCoDDPDODXDdDhBDqBDyBDrBD3BSBMDLD5BDmCD8BDgCDvXSFtOwB3zBF++BvISvI" ++
    "-GiBTvI-GSvIODXDtOCqpKRviBrWBuUB71BRFlcRyjIpRRB8RhBuCF8RwBk6CuNyCoDDPDODXDdDhBDqBDyBDrBD3BSB5BD1ED8C" ++
    "DlEDvCDmEDjGDzEDwCDj4CDmCD8BDtFDlCD0CDmDDgCDnCDkCDtEDgFD2BDyFDuEDMDjHDUDiGSuCnLDRDLDzGDNSyD9mDDtkFE9" ++
    "mDSFqzBDxnLgBxvKB5BC8CClECwCC0CCmCC8BCmDClCCuECsECzECvCCgCCkCCnCCtEC2BC3jBChkBC1fC73JCMhBuCFUDLDRD7D" ++
    "DNDjEDoWDp0BhB-KF9MD-BDmBD9CB-GR4KVgB5UluC85LCxwDCzwDCvwDC1tBCspDCm9BCoxKC2tBC3tBCmxKCmpDC4tBC+wKCnp" ++
    "DCngDCikJCj5BC7kKC0kKCsmDCzsLCzgICtgICvsLC1sLC8jKCj2HC3sLgB3jIF4gKCztCCzyIC73MRBMSUooICUC8DCLS8B3mFS" ++
    "lElzIEtuKCRC7DCNC5BDyZD1TC8CD1TClECuED1TCsESzE1TSsE5YCzEC8FD5YC9FD5YSmC1TCwCD1TC0CD5YCmCC8BD1TCmDD1T" ++
    "ClCCnCCgCDhvECkCCtESvC1TD5YCvCC2BhBFztCi3LhBuCF81LDk7LDj5MEkhJDiuDEqhJDtvDTyxG+nJD6lDhB-KFhpIDyiKDnt" ++
    "CBugKRK-oDRI-oDRo7BhxEC29IC-2ICs0DCtgKCi1ICi3ICzmBDzmBC3mDhB0Do7B3mDBxgKRyCoDCPCOCXCdChBCqBCyBCrBC3B" ++
    "hBo7Br6Lz-LCjjIwB3rBB7T-FDyED0HDsGDtGhBF7Tx9BxB6IB7T7oDxBBrX+qBzEE6GE8CE-FEsEE0HE9FEgHEsGxBrX+qByCoD" ++
    "EPEOEXEdEhBEqBEyBErBE3BxBBrX+qBuJE0CEgGEmDEtGgBhnFBMCUCLCRC7DCNC5BC1EC8CC-FCyvJClECyEC-nFCsEC0HC8vJC" ++
    "3fC7vJCwCCgFC0CCgGC62JCmCC9FC8BCpnKCtFCmDCtGCnnJClCCvaCnCCgCCkCCyFC9GCvCC2BhBuCFpDDUD8DDkWDLDjHDND7D" ++
    "DjEDnLhB-KFnCDgCDkCDtEhBBS5CD2CD9MxB-KFS9MhBBS4tCD6CD-BDwDDlDDmBDtBD4uBxB-KFSpCE9CRyCoDCPCOCXCdChBCq" ++
    "BCyBCrBC3BRwG1uBC3IST3ISoG3IwB3rBBmf8CDuEDyEDsED0HDzED8FD5GD9FDgHDgGDmCDvCD2BDyWD6GxB6IBmf7oDhBBmf9P" ++
    "DjGDgChBxjBmfjkDDjrKDu3HhBgB7wB9JDPDOhBB7wBgCxBF8gK3WyDiBrX+qBtVEuVxBBngBp7ByEEmEgCrXzzDB-CpKT+DpKT-" ++
    "CobT+DobT-Cz6CT+Dz6CT-CgRT+DgRT-C0bT+D0bT-ClST+DlST-C-VT+D-VT-CsKT+DsKT-CgXT+DgXT-CmMT+DmMT-CYT+DYT-" ++
    "ChPT+DhPT-C8GT+D8GT-ChST+DhST-CyNT+DyNT-C3TT+D3TT-CsST+DsST-CuLT+DuLT-CuIT+DuIT-C5JT+D5JT-CpMT+DpMT-" ++
    "CxVT+DxVT-C+JT+D+JT-CNT+DNSmRrqBSuCpDDUDnLDLDRDNSmR7pISuC+pBDqjMD1gBDnqCD8RDiIDmUiByDmRieEvjDEhPE5qL" ++
    "SgB-6CDvjDDu9BT+Js5HTu3Bu3BwB3-Cs-CBRDNDyEDzED8FD5GD9FDgHDsGDmED9GiBuCF8DEqEEroCEjEE7qECynFSkvEmqICh" ++
    "xBiBoOh9BViB8Ph9BViBuCF2HC-GgB2oBoO6+LC-xDCrhCC4+LC+xDC8vBChuGCguGCmwCC-tGC+tGCnwCCjyCCgyCCw8GC+xCCl" ++
    "YCiyCC5lFC-lFC9lFC6lFC8lFC7lFC+lFCvaCjrCChrCCq9ECu9ECthBCirCgC3FCBpUhITMrwKT+rCRTpURjBRAsiBTs8CwEzB3" ++
    "K2CAiWjCtBA0E73BoBlBTlBxCVlBzCjBpCAiWjB-BAiWjBoSAiWT+rCNVAfzBuDNAfT0EjHzB0DjHAfWsCfUNw9JWAfTtuLmBhDB" ++
    "CEmBAIiOhCCBmBnmB72CTTmBjBmBAiWzBTmBAiWT3KmBVAzCT8qCmNjCLA6FIiOkCvBA6FIiODhwBT0DhwBzBLAKeDyK0BA-CIzC" ++
    "WKgrDjC3DA-CIzClB1DKiO4BG-CIzCYAgrDjClDA6FIiOgC6IoFA0EoFhBBC3iBjCtBA0E73BoBVlBxCzBLAKegC3FCBx3KxXT0O" ++
    "RTuDjHDjzDT0EhIgCoKBCEsHwD3FCBkYqJA2GejCmhCqJA2GejC0DmBAlBxCgC6IBC0D6DSK-HSI-HwBguCCBMDRDUDNDLD7CD8C" ++
    "D5BD4UDsLDgRDyODx2CD2BD7GDsJD+JDsQD8pBDkCDyPDuNDpMD1KDp9CDlCD5IDkJDuLDqHDmCDg2BD35BD7IDlID8GDsID16BD" ++
    "ioDDjoDDkoDD48BD58BDnoDDvCDoBDyLDmLDsKDjMD2-BD0CDwCDpLD1HD2MD3NDmMDvOD7xCDloBD2gCD3gCD5gCD6gCD7gCD9w" ++
    "DD+ID2QD3cD6vBD7vBD5xDDtEDmKD6LD9KDiUD10DDnCwB3-Cs-CB+6CDu9BD9qBDl5BD8BDmCDloFDygCDjqID2iDD14LDr2MDl" ++
    "TD77HDlaDUDzjKDv0EDvvHDikIDhuKDmDDgjBDlxGDpuHDywGDi-ET+6C4YT9qB4YTl5B4YT8B4YTmC4YTygC4YT2iD4YTU4YiBu" ++
    "CFg9JEyhIE9wEEj9MEgrLEgkME0nFE06BCznFS7Wl5CSryEl5CSyCoDDPDODXDdDhBDqBDyBDrBD3BgB5U15Cz5JCu5JCq+MCr+M" ++
    "Cs+MCyhMCvhMCj-MCm-MCqhHCshHCrhHCuhHC89HC99HC-9HC+9HC59HCg+HCh+HC39HCzyEC0yER62BrwJCpwJC9uBC2sLCxwDC" ++
    "zwDC95LCvwDC75LC+5LCspDC-wKCxsLCgxKClxKCkxKCrxKCqxKCh6CC9jJCgkJCwsLC+jJC7jJC87BC4kKC1kKC7uBC77BC67BC" ++
    "rmDClsDC2oLCysLC0sLC4oLCt+BCjsDCosDCksDC2gKC1gKCr9MCo9MC0pFC1pFC5uBC9jKC+jKwB3FCkI8zCDuTD1mHD6lHD7lH" ++
    "jB1DoB6CD+uBgCqhBCkI9WisBEheEu2BT9hCisBT9WuiCgCk3CB1VAz3ChBrRtlIsoMhCkIo1D1V1V0sBhBB+wB9RSlmBqCD+nBD" ++
    "7GD4ID-qBTS8MDwRD--BiB+wBwBFyB9IA9IWUwuBW0BgLG9IWWwuBWiBqCA0sBEltBE04BiBpdAgLiBwOAgLiB+nBAgLiB7GA04B" ++
    "iB5gBAgLiB5QAgLiBxcAgLiB1VAgLyBS4IAgLiB4IAgLiB-qBAgLiB8MAgLiBkGAgLiB8OAgLyBSlGAgLiBlGAgLiBnhCAgLiB38" ++
    "BAgLiBwRAgLiB9IAgLiB--BAgLiB5gBA63CiBpdAqtBiB4IAqtBiBlGAqtBhBkIqC-qBwCuMBqCiiCaDUSDiBrrCaDTSDTiBDTnD" ++
    "DiB7faDTSDTiBDTnDDiBurCaDTSDTiBDTnDDiB9xDaDTSDTiBDTnDDiB7vDaDTSDTiBDTnDDiBqhCaDTSDTiBDTnDDiBtzDaDTSD" ++
    "TiBDTnDDiB1lDaDTSDTiBDTnDDiB9xCaDTSDTiBDTnDDiB9jDaDTSDTiBDTnDDiBovBaDTSDTiBDTnDDiB5vDaDTSDTiBDTnDDiB" ++
    "iwCaDTSDiBvvCaDTSDiB5xCaDTSDiBjwCaDTSDiBq5CaDTSDiB9pDaDTSDiBlfaDTSDTiBDTnDDiBueaDTSDTiBDTnDDiBs2CaDT" ++
    "SDTiBDTnDDiBziDaDTSDTiBDTnDDyBoHppBaDUSDiBypDaDTSDTiBDTnDDyCjJAhCJaDWSDjBrpBaDUSDUiBDUnDDjBoxCaDUSDU" ++
    "iBDUnDDyBhCknBaDUSDkCAzHJaDXSDhBgBWJDQiBO+BJEQiBX+BJEQkB4E1CJGQiBd+BJEQyBTnBvBQyBO+B6cJFQCzCiBCwJJEQ" ++
    "SiiCJxBB9MaDTSDTiBDTnDDiBLaDTSDiBjHaDTSDiByHaDTSDyCLAzHJaDiBiPaDTSDyBojBjHaDUSDjByHaDUSDiBRaDTSDTiBD" ++
    "TnDDiD7yDroIojBqC3EiBDXnDDhEkIhCAzHJAqCaDYSDnBnIaDYSDnBuHaDYSDnBLaDYSDnBjHaDYSDnByHaDYSDnBRaDYSDYiBD" ++
    "iF7yDojBhCAzHJAqC3EaDbSDbiBDhCB2ahCaDUSDUiBDUnDDhEkIhCAzHJAzDaDnBkDaDnBuBaD3BqC3EaDnBhCaDiCkMAzDaDkB" ++
    "kDaDkBwFaDkBuBaD0BqC3EaDkBhCaDiCtMAzDaDkBkDaDkBwFaDkBuBaD0BqC3EaDkBhCaDiCiTAzDaDkBuBaD0BqC3EaDkBhCaD" ++
    "iCzDAkDaDkBuBaDiCkDAzDaDkBuBaDiCwFAzDaDkBkDaDkBuBaDiC6JAzDaDkBkDaDkBwFaDkBuBaDiCkLAkDaDkBuBaDiC1MAzD" ++
    "aDkBkDaDkBwFaDkBuBaDiCwJAkDaDkBuBaDiCkUAuBaDiCgIAzDaDkBuBaDiC8NAzDaDkBuBaDiCiLAzDaDkBkDaDkBwFaDkBuBa" ++
    "D0BqC3EaDkBhCaDiChKAkDaDkBuBaD0BqC3EaDkBhCaDiC4IAqCaDkBzDaDkBkDaDkBwFaDkBxHaDkBuBaD0BqC3EaDkBhCaDiCx" ++
    "HAzDaDkBkDaDkBwFaDkBuBaD0BqC3EaDkBhCaDiCuBAzDaDkBkDaDkBwFaDkBuBaD0BqC3EaDkBhCaDiCoHAzDaDkBkDaDkBwFaD" ++
    "kBuBaD0BqC3EaDkBhCaDiCjJAzDaDkBuBaD0BqC3EaDkBhCaDiChCAzDaDkBkDaDkBwFaDkBuBaD0BqC3EaDkBhCaDyCycA1RqCa" ++
    "DyC1IA1RqCaDiDqC3EA1RqCaDiCkgBA-hBaDkBjjBaDkBpSaDkBwUaDkBjRaD0B1RqCaDyDhCAzHJA1ISDnBgQSDnBuBSDnBoHSD" ++
    "3BqC3ESDnBhCSDiCkMA1ISDkBgQSDkBuBSDkBoHSD0BqC3ESDkBhCSDiCtMA1ISDkBgQSDkBuBSDkBoHSD0BqC3ESDkBhCSDiCiT" ++
    "A1ISDkBgQSDkBuBSDkBoHSD0BqC3ESDkBhCSDyCiLAqC3ESDkBhCSDyChKAqC3ESDkBhCSDiC4IAqCSDkBxHSDkBuBSD0BqC3ESD" ++
    "kBhCSDiCxHAuBSD0BqC3ESDkBhCSDiCuBAqCSDkBuBSDiCoHA1ISDkBgQSDkBuBSDkBoHSD0BqC3ESDkBhCSDiDqC3EA1RqCSDiC" ++
    "hCA1ISDkBgQSDkBuBSDkBoHSD0BqC3ESDkBhCSD0CzHJAzDiBDnBkDiBDnBwFiBDnBuBiBDnBjJiBDiCkMAzDiBDkBkDiBDkBwFi" ++
    "BDkBuBiBDkBjJiBDiCtMAzDiBDkBkDiBDkBwFiBDkBuBiBDkBjJiBDiCiTAuBiBDiCzDAkDiBDkBuBiBDiCkDAzDiBDkBuBiBDiC" ++
    "wFAzDiBDkBuBiBDiC6JAzDiBDkBkDiBDkBwFiBDkBuBiBDiCkLAkDiBDkBwFiBDkBuBiBDiC1MAzDiBDkBkDiBDkBwFiBDkBuBiB" ++
    "DiCwJAkDiBDiCkUAuBiBDiCgIAzDiBDkBuBiBDiC8NAzDiBDkBuBiBDiCiLAzDiBDkBkDiBDkBwFiBDkBuBiBDiChKAkDiBDkBuB" ++
    "iBDiC4IAzDiBDkBkDiBDkBwFiBDkBxHiBDkBuBiBDiCxHAzDiBDkBkDiBDkBwFiBDkBuBiBDkBjJiBDiCuBAzDiBDkBkDiBDkBwF" ++
    "iBDkBuBiBDiCoHAzDiBDkBkDiBDkBwFiBDkBuBiBDkBjJiBDiCjJAzDiBDkBuBiBD0B1RqCiBDiChCAzDiBDkBkDiBDkBwFiBDkB" ++
    "uBiBDkBjJiBD0CzHJAuBnDDnBjJnDDiCkMAuBnDDkBjJnDDiCtMAuBnDDkBjJnDDiCiTAuBnDDkBjJnDDiC6JAuBnDDkBjJnDDiC" ++
    "+MAuBnDDkBjJnDDiC4IAxHnDDkBuBnDDiCxHAuBnDDiCoHAuBnDDkBjJnDDiChCAuBnDDkBjJnDDiCkgBApSnDDkBwUnDDkBjRnD" ++
    "DyCwJAqC3EaDkBhCaDyCgIAqC3EaDkBhCaDyC8NAqC3EaDkBhCaDyC6JAqC3EaDkBhCaDyC+MAqC3EaDkBhCaDyCkDAqC3EaDkBh" ++
    "CaDyCzDAqC3EaDkBhCaDyCwFAqC3EaDkBhCaDyCkLAqC3EaDkBhCaDyC1MAqC3EaDkBhCaDiC+MAzDaDkBkDaDkBwFaDkBuBaDkB" ++
    "1IaDiC6JA1IaDiCkLA1IaDiC1MA1IaDyCwJAqC3ESDkBhCSDyCgIAqC3ESDkBhCSDyC8NAqC3ESDkBhCSDyC6JAqC3ESDkBhCSDy" ++
    "C+MAqC3ESDkBhCSDyCkDAqC3ESDkBhCSDyCzDAqC3ESDkBhCSDyCwFAqC3ESDkBhCSDyCkLAqC3ESDkBhCSDyC1MAqC3ESDkBhCS" ++
    "DiC+MAzDSDkBkDSDkBwFSDkBuBSDkB1ISDiC6JA1ISDiCkLA1ISDiC1MA1ISDiC+MAzDiBDkBkDiBDkBwFiBDkBuBiBDiC6JAjJi" ++
    "BDiC+MAjJiBDiCwJAuBiBDiC6JAzDnDDkBkDnDDkBwFnDDiC+MAzDnDDkBkDnDDkBwFnDDiCwJAuBnDDiCkUAuBnDDiCqCAoeSDV" ++
    "aDgB-9JK0GRI0GwBuMkI+tKhpCiBxoDpwEqxEErxEEtxEEuxEEvxEiB63K2mBi2MS2mB+mBS9vE+mBS+vE+mBiB2mB3zE22MStrK" ++
    "+oLyB73K2mBl2Mj2MS8vE+mBSg1Lk2MS-tKhpCiDtMAzDAuBiBDkCkDAzDSDXiBDmBuBiBDkCwFAuBiBDkCuBAzDiBDmBkDiBDmB" ++
    "wFiBDiDzDAuBAkDSDXiBDiDkDAuBAhCSD2BqC3ESDiD6JAkDAzDiBDkCzDAkDiBD2BqC3ESDkCuBAkDSDXiBDmBzDiBDmBuBSDXi" ++
    "BDiDkLAkDAkDSDXiBDkCuBAuBSDiD+MAkDAuBSDXiBDkCzDAhCSDkCuBAwFSDXiBDmBuBSDXiBDyD1MAkDAqC3ESDkCwFAuBSDXi" ++
    "BDiDwJAuBAkDSDXiBDmBuBiBDmBhCSDiDgIAzDAuBSDkCuBAuBSDXiBD2BqC3ESDiD8NAuBAuBSDmBhCSD2BqC3ESDiDiLAwFAuB" ++
    "SDXiBDiDhKAuBAkDSDmBuBSDiDxHAkDAuBSDmBhCSD2BqC3ESDkCzDAzDiBDXSDkCwFAuBSDXiBDkCuBAkDSDXiBDiDuBAkDAzDi" ++
    "BDmBuBiBDmBhCSDkCzDAkDiBDmBuBiBDkCwFAzDiBDmBuBiBDkCzDAwFiBDiDjJAuBAzDiBDmBuBiBDiDoHAkDAuBiBD2BqC3ESD" ++
    "kCzDAuBSDXiBD2BqC3ESDkCuBAhCSD2BqC3ESDiDhCAuBAuBSDXiBDiDkMAwFAhCSDiDtMAzDAhCSD2BqC3ESDkCwFAhCSD2BqC3" ++
    "ESDkCuBAhCSD2BqC3ESDiDzDAuBAhCSD0CkDAqC3ESD0CuBAqC3ESDyD6JAwFAqC3ESDiDkLAkDAhCSDiD+MAkDAhCSDiD1MAkDA" ++
    "hCSDiDxHAzDAhCSDkCuBAhCSDiDhCAkDAhCSDkCzDAhCSDkCuBAhCSDiDuBAuBAhCSDiDhKAuBAhCSDiDoHAkDAhCSDiDhKAuBAk" ++
    "DiBDiDxHAkDAuBiBDiDgIAuBAhCSDiD4IAuBAhCSDiDoHAzDAkDiBDiDuBAwFAhCSDiDxHAzDAuBiBDiD4IAuBAuBSDiDxHAzDAu" ++
    "BSDiDoHAzDAkDSDiDzDAkDAhCSDiDkDAzDAhCSDiDuBAzDAhCSDiDiLAuBAhCSDiDkMAkDAhCSDiD4IAuBAuBiBDiDgIAzDAuBiB" ++
    "DiDkLAuBAuBiBDiD6JAwFAhCSDiDoHAzDAhCSDS33K-vEyDqqDnzDhQh7CoEFaDyDkqKnzDhQh7CoEFaDiBqwEaDiBzvEaDiB5lJ" ++
    "aDiB53KaDiBsuKaDiBkhBaDiB9zDaDiBqqDaDiBrqDkhB9zDC0jIQ6wKFgCuMkI9-EwyEvyEiBiwLtE60LiBx1EtEzjIQgmB95KB" ++
    "s9KBw-KB7-KBmgLBxgLB8gLBnhLByhLB+5KBp6KB06KB-6KBq7KB17KBg8KgCitBDnHnB-EUvP-EV5FoEEqIE9SU9JVUnJV0BKc6" ++
    "W4B0BIc6WohFUsCmYwBmHkIK0BSI0BxBTxCK0BTI0BhB2EK0BSI0BRzuC2ExBkIK0BQiBI0BQxBxCK0BQiBI0BQxB2EK0BQiBI0B" ++
    "QhBzuC2EQxBlQwvBK0BTI0BgDitBDnHnBOW83BUlNyGU+FyGU-CkEkBzV-CkEUK0GUI0GkBK7J4BkBI7J4B0BK4N5K4B0BI4N5K4" ++
    "B0BKZ6W4B0BIZ6W4B0BKT0F4B0BIT0F4BkBK0F4BkBI0F4BkBKrI4BkBIrI4B0BKcrI4B0BIcrI4BQhrDWgBchrDWgDitBDnHnBK" ++
    "7B4BkBI7B4BQ9QnZQ2tCnZQzVnZgBTzVnZgB9Q-CkEgB2tC-CkEgBzV-CkEQC-ERvP-ER5FoEB9SBqIRnJVR9JVRlNyGRK0GRI0G" ++
    "hBK7J4BhBI7J4BxBK4N5K4BxBI4N5K4BR5EFB0XBmGRwBFB9pBRiFFRlFFR4HFRwL6KRzaFRykBFR6hBwKwBuMoeaDxBnvBAoeJh" ++
    "B-hBaDRuFgoHhBjjBaDhBpSaDSnDDhBwUaDSnDDhBjRaDSnDDhBkgBaDSnDDhBqcaDSnDDxBBzHaDyCqCA8WJaDWSD0BzHJaDWSD" ++
    "yCuHAzHJaDWSDyCqCAzHQaDWSDyChCAzHJaDWSDWiBDWnDDiBqCaDTSDiBkMaDTSDTiBDTnDDyBtM14BaDUSDTaDTSDTiBDTnDDi"

end PhaseScript.CharacterName.Data
