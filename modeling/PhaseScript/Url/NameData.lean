/-
The Unicode character data that the names of hosts are read by (version 17 for the characters that may stand in them),
packed as the other tables of characters are.
-/
set_option autoImplicit false

namespace PhaseScript.Url.Data

/-- Packed table: the points that a name does not keep, with what stands for each. -/
def mapped : String :=
  "gFB-HICvIgmBCBxEDACC9IqlBDB-HBB-HBCnJ6kBBBuwBDCvJ+mBBBvIBB1ECD1Iw4PvIBD3Iu4P1IBD1Is4PzICBgCBBgCBBgCB" ++
    "BgCBBgCBBgCBBgCBBgCBBgCBBgCBBgCBBgCBBgCBBgCBBgCBBgCBBgCBBgCBBgCBBgCBBgCBBgCBBgCCBgCBBgCBBgCBBgCBBgCB" ++
    "BgCBBgCiBBCCBCCBCCBCCBCCBCCBCCBCCBCCBCCBCCBCCBCCBCCBCCBCCBCCBCCBCCBCCBCCBCCBCCBCCCtMudCCxMvMBCzMxMBB" ++
    "CCBCDBCCBCCBCCClNvIBCnNxIBBCCBCCBCCBCCCmX1NBBCCBCCBCCBCCBCCBCCBCCBCCBCCBCCBCCBCCBCCBCCBCCBCCBCCBCCBC" ++
    "CBCCBCCBCCBCCBxHBBCCBCCBCCB3QCBkNBBCCBCCB8MBBCCB6MBB6MBBCDB+EBB0MBB2MBBCCB6MBB+MCBmNBBiNBBCEBmNBBqNC" ++
    "BsNBBCCBCCBCCB0NBBCCB0NDBCCB0NBBCCByNBByNBBCCBCCB2NBBCEBCIC-VrEBChWtEBCjWvEBC1V5VBC3V7VBC5V9VBC3V-VB" ++
    "C5VhWBC7VjWBBCCBCCBCCBCCBCCBCCBCCBCDBCCBCCBCCBCCBCCBCCBCCBCCBCDC5YtXBC7YvXBC9YxXBBCCBhGBBvDBBCCBCCBC" ++
    "CBCCBCCBCCBCCBCCBCCBCCBCCBCCBCCBCCBCCBCCBCCBCCBCCBCCBjICBCCBCCBCCBCCBCCBCCBCCBCCBCIB2iVBBCCBlKBBwiVD" ++
    "BCCBlMBBqEBBuEBBCCBCCBCCBCCBCiDBvkBBB1EBBvkBBBhkBBB1DBBzDBBpDBB-jBBB9jBgBCvrB8CBCxrB8CBCzrBgDBC1rB6E" ++
    "BC3rBuCBC5rB8CDB5HBBpnBBB9mBBB1mBBB9E8CB-DBB-DCB-CBC3DlEBBoHKAhBBCCBCCB1LCBCECz1B+DEBl0BBBoHFCn2BlIB" ++
    "Dp2B5HnIBBsCBB-sBBBqCBBqCBBqCCBgECB+DBB+DCBgCBBgCBBgCBBgCBBgCBBgCBBgCBBgCBBgCBBgCBBgCBBgCBBgCBBgCBBg" ++
    "CBBgCBBgCCBgCBBgCBBgCBBgCBBgCBBgCBBgCBBgCBBgCkBBQBB7BBBxBBBZBBLBBRBBdBBrBCBCCBCCBCCBCCBCCBCCBCCBCCBC" ++
    "CBCCBCCBCCBrDBB-CBB9CCB3DBB-DCBCCBrDBBCDBjIBBjIBBjIBBgFBBgFBBgFBBgFBBgFBBgFBBgFBBgFBBgFBBgFBBgFBBgFB" ++
    "BgFBBgFBBgFBBgFBBgCBBgCBBgCBBgCBBgCBBgCBBgCBBgCBBgCBBgCBBgCBBgCBBgCBBgCBBgCBBgCBBgCBBgCBBgCBBgCBBgCB" ++
    "BgCBBgCBBgCBBgCBBgCBBgCBBgCBBgCBBgCBBgCBBgCxBBCCBCCBCCBCCBCCBCCBCCBCCBCCBCCBCCBCCBCCBCCBCCBCCBCKBCCB" ++
    "CCBCCBCCBCCBCCBCCBCCBCCBCCBCCBCCBCCBCCBCCBCCBCCBCCBCCBCCBCCBCCBCCBCCBCCBCCBCCBeBBCCBCCBCCBCCBCCBCCBC" ++
    "DBCCBCCBCCBCCBCCBCCBCCBCCBCCBCCBCCBCCBCCBCCBCCBCCBCCBCCBCCBCCBCCBCCBCCBCCBCCBCCBCCBCCBCCBCCBCCBCCBCC" ++
    "BCCBCCBCCBCCBCCBCCBCCBCCBCCBCCBCCBCCBCCBCCBCDBgDBBgDBBgDBBgDBBgDBBgDBBgDBBgDBBgDBBgDBBgDBBgDBBgDBBgD" ++
    "BBgDBBgDBBgDBBgDBBgDBBgDBBgDBBgDBBgDBBgDBBgDBBgDBBgDBBgDBBgDBBgDBBgDBBgDBBgDBBgDBBgDBBgDBBgDBBgDxBCj" ++
    "CJuHC7EBBC7CDBCgFFBC7CHgXClE3BBClE5BBClE7BBC9D9BBC1D-BBC1DhCBClDjCBC-ClC9DC1D-BBC1DhCCC-ClC0CCBSDCEM" ++
    "jBClE5BBClE7BBC9D9BDClDjC+HC1D-BBC1DhC2WC0BBgEC0BBpBChDlEBCjD3DvBBB3BCBoHKCB0GFCBqGFCBgGFCB2FNCxC4EK" ++
    "CDBCCHBBC4DUBD2DLSBC2DQBD0DPOICfBSCBoCKCB0BFCBqBFCBgBFCBWNCxCHnHBgmOBBgmOBBgmOBBgmOBBgmOBBgmOBBgmOBB" ++
    "gmOBBgmOBBgmOBBgmOBBgmOBBgmOBBgmOBBgmOBBgmOBBgmOBBgmOBBgmOBBgmOBBgmOBBgmOBBgmOBBgmOBBgmOBBgmOBBgmOBB" ++
    "gmOBBgmOBBgmOBBgmOBBgmOBBgmOBBgmOBBgmOBBgmOBBgmOBBgmOCBgmOGBgmOvBB-BjDABA4UBPBBPBBPBBPBBPBBP3dABA2CA" ++
    "BABABABAxjBB7kMBB5kMBBnkMBBjkMBBjkMBBlkMBB3jMBBniMBBm8kCBBCHB-7FBB-7FBB-7FBB-7FBB-7FBB-7FBB-7FBB-7FB" ++
    "B-7FBB-7FBB-7FBB-7FBB-7FBB-7FBB-7FBB-7FBB-7FBB-7FBB-7FBB-7FBB-7FBB-7FBB-7FBB-7FBB-7FBB-7FBB-7FBB-7FB" ++
    "B-7FBB-7FBB-7FBB-7FBB-7FBB-7FBB-7FBB-7FBB-7FBB-7FBB-7FBB-7FBB-7FBB-7FBB-7FDB-7FBB-7FBB-7FtDB1sOBBtkO" ++
    "BB3sOCB3sOBB3sOBBp1NBB3sOBB3sOBB3sOBB3sOBB3sOBB3sOBB3sOBB3sOCB5sOBBzxNBB7sOBB5sOBB3sOBB3sOBB1sOBBjuO" ++
    "BBnvNBBnvNBBnEBBpuOBBnuOBBnuOBBhvNBB-uNBB-uNBBruOCBnuOBBluOBBrgOBBluOBB9vNBB7DBB7DBBruOBBluOBBluOBB3" ++
    "DBB1uNBBpuOBBtDBB16MBB16MBB16MBBz5MBBz5MBBxvOBBhvOBB9uOBB9uOBBn7MBBn7MBBt6MBBl6MBBl6MOB1zMjBBx0NBBxz" ++
    "OBBv0NBB7qOBBl0NBBzzOBBj0NBBh0NBB7zNBB3zNBB3zNBB3zNBB3CBB1wNBB3zNBBpCBB3wNBB1zNBB5zNBB3zNBB3zNBB3zNB" ++
    "B3zNBBzzNBBhzNBBhzNBBzgOBB5yNBB5yNBB3JBB7yNBB7yNBBh0OBB3yNBB3yNBB3yNBBtgNhCBCCBCCBCCBCCBCCBCCBCCBCCB" ++
    "CCBCCBCCBCCBCCBCCBCCBCCBCCBCCBCCBCCBCCBCCBCCBCCBCCBCCBCCBCCBCCBCCBCCBCCBCCBCCBCCBCCBCCBCCBCCBCCBCCBC" ++
    "CBCCBCCBCCBCCBCCBCCBCCBCCBCCBCCBCCBCCBCCBCCBCCBCCBCCBCCBCCBCCBCCBCCBCCBCCBCCBCCBCCBCCBCCBCCBCCBCCBCG" ++
    "CxjP39NBBzDDB97OCBCCBCCBCCBCCBCCBCCBCCBCCBCCBCCBCCBCCBCCBCCBCCBCCBCCBCCBCCBCCBCCBCCBCCBCCBCCBCCBCCBC" ++
    "CBCCBCCBCCBCCBCCBCCBCCBCCBCCBCCBCCBCCBCCBCCBCCBCCBCCBCCBCCBCKBPBBPBBPBBPBBPBBPBBPBBPJBPBBPBBPBBPBBPB" ++
    "BPLBPBBPBBPBBPBBPBBPBBPBBPJBPBBPBBPBBPBBPBBPBBPBBPJBPBBPBBPBBPBBPBBPMBPCBPCBPCBPJBPBBPBBPBBPBBPBBPBB" ++
    "PBBPCBp8NCBr8NCBt8NCBv8NCB56NCB76NCB96NDC-Ht8NBC-Hv8NBC-Hx8NBC-Hz8NBC-H18NBC-H38NBC-H58NBC-H78NBCvI9" ++
    "8NBCvI-8NBCvIh9NBCvIj9NBCvIl9NBCvIn9NBCvIp9NBCvIr9NBC-Gt9NBC-Gv9NBC-Gx9NBC-Gz9NBC-G19NBC-G39NBC-G59N" ++
    "BC-G79NBCvH99NBCvH-9NBCvHh+NBCvHj+NBCvHl+NBCvHn+NBCvHp+NBCvHr+NBC-Dt+NBC-Dv+NBC-Dx+NBC-Dz+NBC-D1+NBC" ++
    "-D3+NBC-D5+NBC-D7+NBCvE9+NBCvE-+NBCvEh-NBCvEj-NBCvEl-NBCvEn-NBCvEp-NBCvEr-NDCjEx-NBCjgOz-NBCvgO1-NDC" ++
    "B7-NBBPBBPBBzEBB9gOBC1gOlgOBC55PzqOBBpgOBC95P3qOBC-5P7nOBDh6PxrO9nOBC7ExgOBC3gOzgOBCrhO1gODCB7gOBBrF" ++
    "BB3hOBBrFBB5hOBCphOlhOBD56PzrO5sOBD76P1rO5sOBD96P3rO5oOEBlkOFBPBBPBBnGBB3iOCD57PxsO5tOBD77PzsO5tOBD9" ++
    "7P1sO5pOEBljOFBPBBPBB-GBB7hOBBNBD58PpuO5uOBD78PruO5uOBB94PDCrHxjOBCziOzjOBCriO1jODCB7jOBB-HBB5iOBB7H" ++
    "BB5iOBCljOlkOBC59P3vOBC79PzuOCB-9PBBh+PBBj+PBBl+PBBn+PBBp+PBBr+PBBt+PBBv+PBBx+PBBz+PBAGBBGCt-PnuOYB9" ++
    "gQECBBBDDDDCCBBBDDDDFC1hQ1hQCC7hQxzOJCvgQvgQBCxgQtiQBCviQzgQOEpCpCpCpCIB9jQBABABABABAGABABABABABABB-" ++
    "jQBBvgQDB-jQBB-jQBB-jQBB-jQBB-jQBB-jQBB9kQBBuZBB9jQBBplQBBplQBBhhQBB-kQBB-kQBB-kQBB-kQBB-kQBB-kQBB-k" ++
    "QBB-kQBB-kQBB-kQBB9lQBBuYBB9kQBBpmQBBpmQCB9iQBB3iQBBliQBB1hQBB1jPBB5iQBB1iQBB1iQBB1iQBB1iQBBziQBBviQ" ++
    "BBviQMCrjQpjQ4CD9pQhtQ5pQBD-pQjtQ7oQBB9pQBCllQ-pQCDjqQrtQrpQBDlqQttQhpQBB3qPCCxlQlqQBBlqQBBlqQBBnqQB" ++
    "BpqQBBrqQBBv+PBBtqQBBvqQBBrqQBBtqQCBtqQBCvqQtqQDBxqQBBxqQBBxqQBBzqQBB1qQDC5qQlrQBD5qQ3rQprQBC7qQprQC" ++
    "BzqQCB51OCB7qQCB9rQBBrkQBBzsQBBzsQCBzsQBB1sQBB1sQBB4BBBrsQBBpsQBBp2NBBp2NBBp2NBBp2NBB-sQCDptQztQlsQB" ++
    "B33OBBz4OBB14OBB93OBBiNFBhuQBBjuQBBjuQBB9tQBB9tQHD9xQ3QxxQBD-xQ5QvxQBEhyQ7QhyQjyQBDjyQ9Q-xQBDjyQ-Qhy" ++
    "QBDnyQhR-xQBDnyQjRhyQBDnyQlRjyQBDnyQnRlyQBDvyQpRlyQBDpyQrRnyQBDzyQtRlyQBDxyQvRnyQBDvyQxRpyQBDtyQzRry" ++
    "QBC7yQ1RBBtvQBCvvQvvQBDxvQxvQxvQBCzvQ5uQBB7uQBC9uQ3vQBD-uQ5vQ5vQBEhvQ7vQ7vQ7vQBC9vQ-uQBBhvQBCjvQhwQB" ++
    "DlvQjwQjwQBB-vQBBzwQBBzwQBBjwQBBtwQBCvwQvwQBDxwQxwQxwQBCzwQ5vQBB7vQBC9vQ3wQBD-vQ5wQ5wQBEhwQ7wQ7wQ7wQ" ++
    "BC9wQ-vQBBhwQBCjwQhxQBDlwQjxQjxQBB-wQBBzxQBBzxQBBjxQEBCGDx1QpUr1QjFCBBBDDDDCCBBBDDDD5HB+tGBB+tG2JB9i" ++
    "SBB9iSBB9iSBB9iSBB9iSBB9iSBB9iSBB9iSBB9iSBCvjSxjSBCxjSxjSBCzjSxjSBC1jSxjSBC3jSxjSBC5jSxjSBC7jSxjSBC9" ++
    "jSxjSBC-jSxjSBChkSxjSBChkSlkSBD3kSlkS1kSBD5kSlkS3kSBD7kSlkS5kSBD9kSlkS7kSBD-kSlkS9kSBDhlSlkS-kSBDjlS" ++
    "lkShlSBDllSlkSjlSBDnlSlkSllSBEplS3kS5kSnlSBErlS5kS5kSplSBEtlS7kS5kSrlSBEvlS9kS5kStlSBExlS-kS5kSvlSBE" ++
    "zlShlS5kSxlSBE1lSjlS5kSzlSBE3lSllS5kS1lSBE5lSnlS5kS3lSBE7lSplS5kS5lSBE9lSplStlS7lSVDnnS1jSlnSBDpnS1j" ++
    "SnnSBDrnS1jSpnSBDtnS1jSrnSBDvnS1jStnSBDxnS1jSvnSBDznS1jSxnSBD1nS1jSznSBD3nS1jS1nSBD5nS1jS3nSBD7nS1jS" ++
    "5nSBD9nS1jS7nSBD-nS1jS9nSBDhoS1jS-nSBDjoS1jShoSBDloS1jSjoSBDnoS1jSloSBDpoS1jSnoSBDroS1jSpoSBDtoS1jSr" ++
    "oSBDvoS1jStoSBDxoS1jSvoSBDzoS1jSxoSBD1oS1jSzoSBD3oS1jS1oSBD5oS1jS3oSBBplSBBplSBBplSBBplSBBplSBBplSBB" ++
    "plSBBplSBBplSBBplSBBplSBBplSBBplSBBplSBBplSBBplSBBplSBBplSBBplSBBplSBBplSBBplSBBplSBBplSBBplSBBplSBB" ++
    "9mSBB9mSBB9mSBB9mSBB9mSBB9mSBB9mSBB9mSBB9mSBB9mSBB9mSBB9mSBB9mSBB9mSBB9mSBB9mSBB9mSBB9mSBB9mSBB9mSBB" ++
    "9mSBB9mSBB9mSBB9mSBB9mSBB9mSBBzrSipBEh+Dh+Dh+Dh+DoDDzjVzjVtjVBCvjVvjVBDxjVxjVxjVmDCCn6TkJBgDBBgDBBgD" ++
    "BBgDBBgDBBgDBBgDBBgDBBgDBBgDBBgDBBgDBBgDBBgDBBgDBBgDBBgDBBgDBBgDBBgDBBgDBBgDBBgDBBgDBBgDBBgDBBgDBBgD" ++
    "BBgDBBgDBBgDBBgDBBgDBBgDBBgDBBgDBBgDBBgDBBgDBBgDBBgDBBgDBBgDBBgDBBgDBBgDBBgDBBgDxBBCCBt-UBBruHBBt+UD" ++
    "BCCBCCBCCB3hVBB5-UBB9hVBB7hVCBCDBCHBjhWBBtgWBB9jVBB9jVBBCCBCCBCCBCCBCCBCCBCCBCCBCCBCCBCCBCCBCCBCCBCC" ++
    "BCCBCCBCCBCCBCCBCCBCCBCCBCCBCCBCCBCCBCCBCCBCCBCCBCCBCCBCCBCCBCCBCCBCCBCCBCCBCCBCCBCCBCCBCCBCCBCCBCCB" ++
    "CCBCJBCCBCFBC9DBbwJB8ye0CB4q4BNBgwPBBuyPBBozPBB4zPBBq1PBBg4PBBs4PBBy5PBBk7PBBsjRBB2lRBBgmRBBsnRBByoR" ++
    "BB6pRBBitRBBquRBB+uRBBy4RBBs+RBBigSBBqgSBBkiSBB0iSBBokSBBglSBBwmSBB2pSBB4qSBBssSBBy7TBBggUBB28UBBi+U" ++
    "BBw+UBBk-UBBmgVBB8kVBB0iWBBylWBBgtWBBsuWBBwvWBB6wWBBk0WBBo0WBB6qXBBsrXBBisXBB6sXBBg0XBBu0XBB20XBB+7X" ++
    "BBw8XBBo9XBB29XBBuhYBBuiYBBwjYBBuoYBB2sZBBwvZBB4wZBB++aBBm-aBBqkbBBolbBBgmbBBonbBB0pbBB8pbBBw6bBB+7b" ++
    "BB89bBBq9dBBsheBB4ieBBqmeBB4neBBooeBB0oeBB6reBBiseBBgueBBsxgBBBothBBB+thBBBmuhBBBsuhBBB6uhBBB8vhBBB+" ++
    "vhBBB+0hBBBsiiBBB0iiBBB43iBBBq4iBBBs7iBBB47iBBBo8iBBB28iBBBqijBBB2ijBBB8wjBBBoxjBBBo0jBBBo1jBBBk4jBB" ++
    "B8mkBBBonkBBBookBBB08kBBBuklBBB4klBBBiwlBBBu1lBBBo4lBBB6vmBBBi4mBBB87nBBBw9nBBBghoBBBkkoBBBqooBBB+oo" ++
    "BBBopoBBBoroBBB+voBBBwwoBBBimpBBBumpBBB+mpBBBunpBBBsopBBBoppBBBuppBBBqupBBBwupBBB6upBBBisrBBB8trBBBk" ++
    "rsBBB6rsBBBmtsBBB6+sBBBy-sBBB+jtBBB4mtBBBkquBBBgruBBB8ruBBBguuBBBowuBBB08uBBBq9uBBBuhvBBB8wvBBB4yvBB" ++
    "B4-vBBBghwBBBohwBBB+uwBBBs6wBBBkixBBBuixBBB2ixBBBg9yBBBw9yBBBmnzBBB4wzBBB8wzBBB4zzBBBo6zBBBg7zBBBm7z" ++
    "BBBy7zBBB0h0BBB2j0BBBgk0BBB6k0BBBmv0BBBqy0BBBwy0BBB890BBBg+0BBBk-0BBB6u1BBB4x1BBBky1BBBu21BBBg31BBBk" ++
    "31BBB231BBBw51BBBky2BBBir3BBB0r3BBB+t3BBBov3BBB2v3BBBow3BBBuw3BBB8y3BBBiz3BBBi03BBBq03BBBi13BBB223BB" ++
    "By33BBBg43BBB073BBBw83BBB283BrBB-9XCBn9X0BBnCCBywRBB2wRBB2wRhDC1nYDBC3nYDDCtBpBgDC3EtDyBBhjQBBhjQBBx" ++
    "4PBBjjQBBx4PBBx4PBBnjQBBnjQBBnjQBBz4PBBz4PBBz4PBBz4PBBz4PBBz4PBBriQBB1jQBB1jQBB1jQBBliQBB3jQBB3jQBB3" ++
    "jQBB3jQBB3jQBB3jQBB3jQBB3jQBB3jQBB3jQBB7+PBB7+PBB7+PBB7+PBB7+PBB7+PBB7+PBB7+PBB7+PBB7+PBB7+PBB7+PBB7" ++
    "+PBB7+PBB7+PBB7+PBB7+PBB7+PBB7+PBB7+PBB7+PBABBhlQBBhlQBB-5PBB-5PBB55PBB35PBBv5PBBp5PBBn5PBBjlQBBj5PB" ++
    "Bh5PBBnlQBBnlQBBllQBBjlQBBjlQBB9kQBB7kQBB5kQBB5kQBB5kQBB5kQBB5kQBB1kQBBvkQBB9jQBBxjQBBpjQBBh5PBBh5PB" ++
    "B5iQBB5iQBB5iQBBlgQBBlgQBBhgQBBx-PBBx-PBBv-PBB9+PBB5+PEB8mOBByvOBBqnOBBs0SBBonOBBspOBBmnOBBy5hBBB+rO" ++
    "BB8nOBBqmOBB44TBBk5SBB2xOhDDv9Y-vQt9YBDx9Y9vQv9YBDz9Y9vQx9YBD19Y7vQz9YBD39Y7vQ19YBD59Y7vQ39YBD79Y5vQ" ++
    "59YBD99Y3vQ79YBD-9Y3vQ99YBDh+Y1vQ-9YBDj+Y1vQh+YBDl+Y1vQj+YBDn+Y1vQl+YBDp+Y1vQn+YBDr+Yk-8Bp+YBDt+Yyo-" ++
    "Br+YBDv+YotgCt+YBDx+Y22iCv+YBDz+Ys7jCx+YBD1+YiglCz+YBD3+YwpnC1+YBD5+Y+ypC3+YBD7+Y03qC5+YBD9+YihtC7+Y" ++
    "BD-+Y4luC9+YBDh-YuqvC-+YBDj-YkvwCh-YBDl-Y6zxCj-YBDn-YgurCl-YBEp-YugqCu+qCn-YBEr-YsgqCsqyCp-YCDv-Yg+N" ++
    "t-YBDx-Y2mOv-YBDz-Yu+Nx-YBD1-YwrSz-YBD3-YgnO1-YBD5-Yw0P3-YBD7-Y69N5-YBD9-Yo0P7-YBD--YqjO9-YBDhgZwxQ-" ++
    "-YBDjgZ8tahgZBDlgZgkfjgZBDngZwgdlgZBDpgZ2vangZBDrgZm6vBpgZBDtgZgvSrgZBDvgZq7ZtgZBDxgZy-avgZBDzgZutax" ++
    "gZBD1gZ2wjBzgZBD3gZy9Q1gZBD5gZokgB3gZBD7gZ2mtB5gZBD9gZsyjB7gZBD-gZ4nQ9gZBDhhZ0qO-gZBDjhZkkRhhZBDlhZ2" ++
    "yUjhZBDnhZuqiBlhZBDphZosOnhZBDrhZyotBphZBDthZqxQrhZBDvhZ6yjBthZBDxhZgtOvhZBDzhZw6nBxhZBD1hZg7nBzhZBB" ++
    "2wRBBujWBBi0ZBBw0kBJD-9Y39Y1+YBC9hZ-hZBC-hZ-hZBChiZ-hZBCjiZ-hZBCliZ-hZBCniZ-hZBCpiZ-hZBCriZ-hZBCtiZ-" ++
    "hZBCtiZziZBCviZziZBCxiZziZBCziZziZBC1iZziZBC3iZziZBB-1QBB91QBB91QBB71QBB71QBB71QBB51QBB31QBB31QBB11Q" ++
    "BB11QBB11QBB11QBB11QBBk58BBByi-BBBongCBB2wiCBBs1jCBBi6kCBBwjnCBB+spCBB0xqCBBi7sCBB4-tCBBukvCBBkpwCBB" ++
    "6txCBC47sCom9BBC+nrC2tqCBBkjqCCBg4NBB2gOBBu4NBBwlSBBghOBBwuPBB63NBBouPBBq9NBBwrQBB8naBBg+eBBw6cBB2pa" ++
    "BBm0vBBBgpSBBq1ZBBy5aBBunaBB2qjBBBy3QBBo+fBB2gtBBBssjBBB4hQBB+zjBBB6phBBBwtTBB68uBBB6oPBBktQBBykdBBq" ++
    "2yBBBgnOBBuvPBBgscBBs2NBBw4NBBq2NBB+zVBB20QBBkpQBB6uUBB2rUBBujiBBBolOBByhtBBBqqQBB4mTBC7nZ1nZBC9nZ1n" ++
    "ZBC-nZ1nZBChoZ1nZBChoZpoZBCjoZpoZBCloZpoZBCnoZpoZBCpoZpoZBCroZpoZBCtoZpoZBCvoZpoZBCxoZpoZBCzoZpoZBCz" ++
    "oZ9oZBC9oZwkaBC9oZukaBC9oZskaBC9oZqkaBC9oZokaBC9oZmkaBC9oZkkaBC9oZikaBC9oZgkaBDvpZxpZ+jaBDxpZxpZ8jaB" ++
    "DzpZxpZ6jaBCnmZpmZBDvmZ1lZrmZBCxmZvlZBDlmZ1lZ1mZBB7iBBB5iBBB3iBBB1iBBBziBBBziBBBxiBBBviBBBtiBBBriBBB" ++
    "piBBBniBBBliBBBjiBBBhiBBB-hBBB9hBBB5hBBB3hBBB1hBBBzhBBBzhBBBzhBBBzhBBBzhBBBzhBBBvhBBBrhBBBnhBBBjhBBB" ++
    "-gBBB-gBBB-gBBB-gBBB-gBBB9gBBB7gBBB5gBBB5gBBB5gBBB5gBBB5gBBB5gBBB3gBBB3gBBB3gBBB3gBBCq+N64QBE7lB9iBn" ++
    "gBvjBBE9lBrhB3iB-lBBE-lB9gBviB-lBBDhmBtgBvhBBE-lBxjBhhBnlBBDhmBjhBnkBBD-lB5lBlhBBF9lB7kBvlB1gB7jBBE-" ++
    "lB3gB5lB3gBBD9lBrhB-kBBD-lB7gBziBBD-lBtmBhiBBEhmBliBxkBnkBBEjmB-hBliBhhBBDjmBhiB1hBBDlmB3hBhjBBCjmBn" ++
    "mBBDlmBrkBphBBEpmB5iBviBrhBBEpmBviBllBthBBCtmBtiBBFvmBviBpmB3iBpjBBGxmBxiBpjBzhB7kB1iBBFzmBziBviBnlB" ++
    "9kBBDvmB9iBvjBBFxmB-iBxjBhlBriBBF1mB9iB7lBrnB5iBBE3mB7iB9hB7kBBD1mB-hBlmBBDzmBjjBllBBD1mBjiBhkBBEzmB" ++
    "1nB-mBnjBBF1mB5iB9lBniB-jBBEzmBtjB7iBhnBBDtmB9iBhmBBDvmB-iB1lBBDnmBviB1mBBC7lB7mBBC5lB1jBBC9lBnjBBC7" ++
    "lBzlBBD1lBrmBhmBBD1lBroBrmBBFzlB9iB-mBvjBlmBBD1lB-iBvmBBE5lBhjBhkBjkBBFzlB3oBpnBrmBlkBBD1lB-nBnkBBC3" ++
    "lB5nBBC7lBrkBBF5lBhpBxkB9mBxmBBE7lB-oBtjB1mBBF7lBhnB5nB5oBxkBBD-lB3kBjkBBF7lBtoBtnBzjB1kBBC5lBznBBD7" ++
    "lB5mBrmBBDhmB7kBpnBBD-lBtkBhoBBDhmB9jBloBBDlmB-jB5nBBE-lBxpBzkBpnBBDjmBllBrnBBCnmB3kBBDlmB5kBtnBBDrm" ++
    "BpkBrlBBDtmBrkB9kBBEpmB9pBnpBrlBBDrmB-pBxlBBDtmBjoBrnBBDvmB1lBtpBBFxmBnlB-oB-lBnlBBExmBxpB1lBplBBCzm" ++
    "B9lBBF1mB-lBznB7kB9lBBCzmB9pBBE1mB-pBnoBxlBBE3mBhlBpoBjmBBDzmBjlBpoBBD1mBllBnmBBDzmB7qB5lBBEtmB7oBxo" ++
    "BrmBBCvmBxmBBDvmB9nBtlBBExmBvlB7nBxmBBCxmBpnBBFzmBlmB7oBnqBlmBBDvmBnpB9oBBCvyZi2eBCvyZg2eBCvyZ+1eBCv" ++
    "yZ81eBCvyZ61eBCvyZ41eBCvyZ21eBCvyZ01eBCvyZy1eBCvyZw1eBDhzZjzZu1eBDjzZjzZs1eBDlzZjzZq1eBDnzZjzZo1eBDp" ++
    "zZjzZm1eBDrzZjzZk1eBDtzZjzZi1eBDvzZjzZg1eBDxzZjzZ+0eBDzzZjzZ80eBDzzZ3zZ60eBD1zZ3zZ40eBD3zZ3zZ20eBD5z" ++
    "Z3zZ00eBD7zZ3zZy0eBDxwZhwZ-wZBC7wZhxZBCjxZ7vZBDjxZlxZjwZBCrwZ9vZBCrwZlxZBClxZzwZBDnxZ1wZr0ZBDpxZ3wZr" ++
    "0ZBChxZpwZBCwvVqpXBCirZgxQBC06Ss+bBCgpZ6zcBE2qag5V25N+7iBBC-wZ9xZBClxZ-xZBCr8XhyZBCrxZjyZBCxxZlyZBCz" ++
    "xZlyZBCxxZnyZBC-xZpyZBDpyZtyZ3xZBE7xZryZvyZ5xZBCzxZnyZBC5xZpyZBC-8XryZBCh9XryZBChyZtyZBCnyZvyZBCvyZr" ++
    "xZBDryZxyZtxZBDpyZzyZvxZBD3yZ1yZxxZBD-xZ3yZzxZBCx9XxyZBCxyZzyZBClzZ1yZBC5yZ3yZBClzZ3yZBC3yZ5yZBC99X7" ++
    "yZBC9yZ9yZBCzzZ-yZBClzZhzZBDjzZjzZ52ZBD5zZlzZ72ZBCnzZ92ZBDtzZpzZ-2ZBDrzZrzZ-2ZBDh0ZtzZh3ZBCvzZj3ZBD1" ++
    "zZxzZl3ZBDzzZj5InzZBE1zZl5IpzZr3ZBCxzZv0ZBD9zZzzZx0ZBD7zZ1zZz0ZBDp0Z3zZ10ZBD1zZ30Zx0ZBF3zZ50Zz0Zx5I1" ++
    "zZBG5zZ70Z10Zz5I3zZ53ZBC-zZ5zZBCl0Z7zZBCr-X9zZBCr0Z-zZBCn0Z7zZBCt0Z9zZBCz-X-zZBCz0Zh0ZBC50Zj0ZBC30Zl" ++
    "0ZBCz0Zl0ZBC50Zn0ZBC--Xp0ZBC-0Zr0ZBCl1Zt0ZBCj1Zv0ZBCp1Zt-XBCn1Zv-XCCh2Zj1ZBCh2Zh2ZBCj2Zh2ZBEl2Zh7I11" ++
    "Z91ZCCn2Zr2ZBCj2Z-0ZBCj2Zx2ZBCl2Z11ZBCl2Z71ZBCj2Zj2ZBCl2Zh2ZBCn2Z11ZBCn2Zl2ZBCp2Zl2ZBDr2Zl2Z12ZBCt2Z" ++
    "11ZBCt2Zj3ZBDv2Z32Zx2ZBDx2Zt2Zz2ZBCt2Z92ZCDx2Zx2Z32ZBCz2Zv2ZBCv2Zx2ZBCx2Zr2ZBCr2Z13ZBDv2Zx8Ih3ZBD73Z" ++
    "z8Ij3ZBC96ZqgZBC96ZogZBC96ZmgZBC96ZkgZBC96ZigZBC96ZggZBC96Z+-YBC96Z8-YBC96Z6-YBDv7Zx7Z4-YBDx7Zx7Z2-Y" ++
    "BDz7Zx7Z0-YBD17Zx7Zy-YBD37Zx7Zw-YBD57Zx7Zu-YBD77Zx7Zs-YBD97Zx7Zq-YBD-7Zx7Zo-YBDh8Zx7Zm-YBDh8Zl8Zk-YB" ++
    "Dj8Zl8Zi-YBDl8Zl8Zg-YBDn8Zl8Z++YBDp8Zl8Z8+YBDr8Zl8Z6+YBDt8Zl8Z4+YBDv8Zl8Z2+YBDx8Zl8Z0+YBDz8Zl8Zy+YBD" ++
    "z8Z58Zw+YBD18Z58Zu+YBDv5Z75Zl5ZhycBCCBCCBCCBCCBCCBCCBCCBCCBCCBCCBCCBCCBCCBCCBCCBCCBCCBCCBCCBCCBCCBCC" ++
    "BCUBCCBCCBCCBCCBCCBCCBCCBCCBCCBCCBCCBCCBCCBCCBjlxCBBhlxClEBCCBCCBCCBCCBCCBCCBCEBCCBCCBCCBCCBCCBCCBCC" ++
    "BCCBCCBCCBCCBCCBCCBCCBCCBCCBCCBCCBCCBCCBCCBCCBCCBCCBCCBCCBCCBCCBCCBCCBCCBBJBCCBCCBnglCBBCCBCCBCCBCCB" ++
    "CFBCCBvyyCDBCCBCEBCCBCCBCCBCCBCCBCCBCCBCCBCCBCCBn0yCBB90yCBB10yCBBh0yCBBn0yCCBjxyCBBzyyCBBpxyCBBg6BB" ++
    "BCCBCCBCCBCCBCCBCCBCCBCCB-CBBl0yCBBvjlCBBCCBCCBt2yCBBCCBCCBCCBCCBCCBCCBCCBCCBhkzCVB73zCBB94zCBB54zCB" ++
    "Bl4zCBBCDBhtzCBBrqzCjbBpjCBBrCBBlv0CBBZKB3t0CHB-8rCBB-8rCBB-8rCBB-8rCBB-8rCBB-8rCBB-8rCBB-8rCBB-8rCB" ++
    "B-8rCBB-8rCBB-8rCBB-8rCBB-8rCBB-8rCBB-8rCBB-8rCBB-8rCBB-8rCBB-8rCBB-8rCBB-8rCBB-8rCBB-8rCBB-8rCBB-8r" ++
    "CBB-8rCBB-8rCBB-8rCBB-8rCBB-8rCBB-8rCBB-8rCBB-8rCBB-8rCBB-8rCBB-8rCBB-8rCBB-8rCBB-8rCBB-8rCBB-8rCBB-" ++
    "8rCBB-8rCBB-8rCBB-8rCBB-8rCBB-8rCBB-8rCBB-8rCBB-8rCBB-8rCBB-8rCBB-8rCBB-8rCBB-8rCBB-8rCBB-8rCBB-8rCB" ++
    "B-8rCBB-8rCBB-8rCBB-8rCBB-8rCBB-8rCBB-8rCBB-8rCBB-8rCBB-8rCBB-8rCBB-8rCBB-8rCBB-8rCBB-8rCBB-8rCBB-8r" ++
    "CBB-8rCBB-8rCBB-8rCBB-8rChqTBvr2BBB5gpCBBvj1BBB1j2BBBljlCBBlt1CBBhyyCBB12sBBB32sBBBv7vCBBxzzBBBn4xCB" ++
    "Bn8vCBBtxrCBBpqhCBBz48BBBht5BBBt14BBBzh4BBBno0BBBjxnCBBz-lCBB5jkCBBxziCBB1t6BBB96zBBBxyvBBBxp1CBBt6y" ++
    "CBBxhnCBBlwjCBBjv5BBBjwtBBBh9tCBBtzkCBBr15BBB-73BBB3lrCBB707BBBvw4BBB7ltCBBjhpCBB-7lCBB9ijCBB7l0BBBt" ++
    "60CBBt3zCBBhlzCBB3mqCBB7lnCBBjyjCBB3khCBBlz8BBB9y5BBBzt5BBBv01BBBrgxBBBz8uBBB-ztBBB9qgCBB57-BBB559BB" ++
    "Bp36BBB1jzBBBhstBBB1m3BBBlmwCBB9jtCBBnu+BBBts8BBBnujCBB5ngCBBro2BBBjlxBBBjnwCBBxuuCBBxznCBBl3lCBB9jl" ++
    "CBB-h+BBBxx9BBBrwxBBB-nzCBBvs8BBBv3zCBBx4zCBBzz-BBBx59BBBt26BBBnuxBBBz92BBB3orCBBz1nCBB9l3BBBpy1CBBv" ++
    "3uCBB70sCBBz9iCBBj-hCBB3kzCBBxmgCBBr60CBB57sCBBz11CBB3pmCBBh-pCBBvk+BBBv6yCBB7wwCBB3mhCBBpy6BBBps3BB" ++
    "Br7mCBBh80BBBzumCBBpnrCBB9o7BBBp9qCBBhhiCBBxs1CBB9g0CBB-6zCBBxvoCBBnp+BBB5w7BBB1q3BBB96zBBBzozCBB7zy" ++
    "CBB7gwCBBrptCBB77pCBBr4kCBB1lgCBBx9xBBB5xvBBBhvtBBB1rtBBB9uzCBBpspCBBphnCBB1i1BBBzxtCBB9-rCBB-4rCBBt" ++
    "vqCBB9mlCBBzkkCBB1wiCBB18-BBBj69BBBvy8BBBjn1BBB1q6BBBt30BBBhlzBBBp4zCBBzvzCBBhuyCBBttkCBB7t4BBBtv3BB" ++
    "BxttCBB76sCBBxirCBBt-mCBBv2+BBBjjjCBBns1CBB-qxCBBl8uCBBh-tCBB-4sCBB1-iCBBp0iCBBph9BBBz28BBB53zBBB3rx" ++
    "BBB1mxBBB35wBBBzi1CBBvggCBBlg0BBB-vxBBBvtsCBBnz1CBBhu0CBB78uCBB73uCBBpiqCBB57nCBBj-jCBB93hCBBrs6BBBt" ++
    "00BBBtjtBBB5zpCBBv5xBBB7zzCBB5kpCBBr9oCBBxomCBB9ylCBBl8iCBBnniCBBl2gCBB9r+BBBj3wBBBnm0CBBn6rCBB11xBB" ++
    "Bx60CBB3ruCBB3+lCBB5q1BBB5ktCBBppsCBBl8oCBBnljCBBr1xBBBn7zCBB98yCBBz3uCBB58pCBBlppCBBzzoCBB7vmCBB79i" ++
    "CBBlgiCBB5m9BBBvx4BBBtw4BBB5h0BBBvwxBBB3qzCBBjzlCBB-8yCBB7hkCBBt1iCBBr-5BBB70xBBB15uBBBn1tBBB5lpCBBz" ++
    "imCBB7g8BBB3y-BBBvt-BBBt2+BBBzzjCBBj2kCBBnq3BBB5z1CBBvs7BBBp8zCBBx-zCBB11tCBB9yrCBB5y+BBB9nvCBBtumCB" ++
    "Bj1pCBB3s1BBB374BBB37xBBB9n4BBBvztCBB3s0CBB5kyCDBr7wCCB75pCDBtj0CBB3ujCBB50hCBB3tgCBB1rgCBBprgCBB3og" ++
    "CBBrsxBBB91+BBBhm9BCB7g6BCBzy3BDB5+0BBBxy0BEB1zwBBB9ywBBBnwwBBBxnuBBB-00BBBv3xBBBjo1CBBz00CBBpu0CBBz" ++
    "2zCBB-0zCBBnuzCBBxpyCBBhjyCBB-8xCBBx-wCBBj5wCBBt9uCBB78uCBBx6sCBBrtsCBBhrsCBB7ksCBBjvqCBB-lqCBBj7pCB" ++
    "B97oCBB7smCBB3imCBBpylCBBztkCBB7hkCBBvijCBBz7gCBB7wgCBBnwgCBBrwgCBB9vgCBBzvgCBBnvgCBBpsgCBBpsgCBBnhg" ++
    "CBBn9-BBBrp-BBBlm+BBB9k+BBBvh+BBBvu9BBBrl9BBB9m8BBBn+7BBBp+7BBBvg7BBB-04BBB1s4BBBh23BBBzy3BBBh52BBB5" ++
    "12BBB-q1BBB9i1BBBp4xBBBzmxBBB9ixBBBr-sCBBkokFBBpl8BDBzk2CBB3r0CBBzw0CBBlv1CBB9y0CBBpv0CBB96zCBB53zCB" ++
    "B1tyCBBnyyCBBhuyCBBxpyCBBjixCBBz8wCBBzzwCBB1ywCBB7hwCBBx1vCBB-6tCBBz6tCBB1xtCBBvttCBB76sCBBxzsCBB-3s" ++
    "CBB1vsCBBzysCBBxpsCBBvlsCBBxsrCBBjnrCBB5jrCBBzzqCBB5hqCBB13pCBBv3pCBB7zpCBB3xnCBB3tnCBBr1mCBB57lCBB7" ++
    "8lCBBv3lCBB5nlCBB7ykCBBrvhCBBxmkCBB-+jCBBr3jCBB-ijCBB35iCBBv2iCBBtoiCBBroiCBB39hCBB38hCBBn7hCBB91hCB" ++
    "Bz2hCBB99gCBB1--BBB5u-BBBlj-BBBn1+BBB3r+BBBl39BBB5q9BBBh27BBBps7BBB3z5BBBp34BBBhz4BBBjy4BBBz-3BBBj83" ++
    "BBB-+3BBB173BBB973BBBh93BBBr43BBBrz3BBBx72BBBz41BBBhl1BBB1y0BBB9k0BBBzkyBBBn+xBBBj3xBBB7uxBBB1sxBBB-" ++
    "rxBBBhpxBBB17vBBBjztBBB232EBBo32EBBow8EBBpz-CBB1r9CBB1p9CBBo3rFBB0-wFBB4-hGBBp5tBBB10tBnBCzp9Dzp9DBC" ++
    "1p9Dvp9DBC3p9Drp9DBD5p9D5p9Dzp9DBD7p9D7p9Dvp9DBCjp9Dhp9DBClp9Djp9DNC956D556DBC-56D966DBCh66Dz66DBCv5" ++
    "6D-56DBCl66Dz66DGCn06Dx26DCC5y6Dv26DBB7z6DBBh16DBB906DBB906DBBx06DBBx06DBBx06DBB9z6DBB7z6DBB7v9DBCh0" ++
    "6Dx26DBCj06Dx26DBDl06D-26D126DBDn06Dh36D126DBC716Dt36DBC916Dt36DBC-16Dn36DBC-16Dp36DBC-16Dr36DBC-16D" ++
    "t36DBC-16Dv36DBC-16Dx36DBC-16Dz36DCC-16D336DBC-16D536DBC-16D736DBC-16D936DBC-16D-36DCC-16Dj46DCC-16D" ++
    "n46DBC-16Dp46DCC-16Dt46DBC-16Dv46DCC-16Dz46DBC-16D146DBC-16D346DBC-16D546DBC-16D746DBCr36Dj56DBC136D" ++
    "546DBCj36D746DBCz26D946DBC936Dl36DBB9t6DBB-t6DBBtt6DBBvt6DBBxt6DBBzt6DBBvt6DBBxt6DBBzt6DBB1t6DBBzt6D" ++
    "BB1t6DBB3t6DBB5t6DBBnu6DBBpu6DBBru6DBBtu6DBBlu6DBBnu6DBBpu6DBBru6DBB5u6DBB7u6DBB9u6DBB-u6DBBrs6DBBts" ++
    "6DBBvs6DBBxs6DBBvs6DBBxs6DBBzs6DBB1s6DBB7u6DBB9u6DBB-u6DBBhv6DBBlv6DBBnv6DBBpv6DBBrv6DBBnv6DBBpv6DBB" ++
    "rv6DBBtv6DBBtv6DBBvv6DBBxv6DBBzv6DBBpv6DBBrv6DBBvv6DBBxv6DBBvv6DBBxv6DBB-v6DBBhw6DBBjv6DBBlv6DBB1v6D" ++
    "BB3v6DBBpu6DBBru6DBBtu6DBBvu6DBBlu6DBBnu6DBBpu6DBBru6DBBlu6DBBnu6DBBpu6DBBru6DBBxu6DBBzu6DBB1u6DBB3u" ++
    "6DBBnu6DBBpu6DBBpu6DBBru6DBBtu6DBBvu6DBBnu6DBBpu6DBBpu6DBBru6DBBtu6DBBvu6DBB3u6DBB5u6DBB7u6DBB9u6DBB" ++
    "3t6DBB5t6DBB5t6DBB7t6DiBBry6DBBty6DBBvy6DBBxy6DBB-w6DBBhx6DBBlx6DBBnx6DBBlx6DBBnx6DBCrx6Dx26DBBlx6DB" ++
    "Bnx6DBB1x6DBB3x6DBBxx6DBBzx6DBBnx6DBBpx6DBBrx6DBBtx6DBB956DBB-56DBCn86Dl86DBCp86Dn86DBCr86Dtx6DBCt86" ++
    "Dvx6DBCv86Dr66DBCx86Dt66DBCz86Dxy6DBC186Dzy6DBC386D3y6DBC586D5y6DBC786D3y6DBC986D5y6DBC-86Dry6DBCh96" ++
    "Dty6DBCj96Dvy6DBCl96D-66DBCn96Dh76DBCp96Dj76DBB-y6DBBhz6DBBjz6DBBlz6DBCz96Dn96DBC196Dn96DBC396D576DB" ++
    "C596Dz76DBC796Dz76DBC596Dx96DBC796Dx96DBC996Dx96DBC-96Dl86DBCh+6D-76DBCj+6D-76DBCh+6D996DBCj+6D996DB" ++
    "Cl+6D996DBCn+6Dx86DBCp+6Dr86DBCr+6Dr86DBCr+6Dp+6DBCt+6D586DBCv+6Dz86DBCx+6Dz86DBCx+6Dv+6DBCz+6Dh96DB" ++
    "Cz+6D1+6DBC1+6Dl96DBC1+6D5+6DBC3+6D5+6DBC5+6Dr96DBCx+6D-+6DBCz+6D-+6DBC1+6D-+6DBC3+6Dz96DBC1+6Dl-6DB" ++
    "C3+6D396DBC3+6Dr-6DBC5+6Dr-6DBC7+6Dr-6DBC9+6D-96DBC9+6Dx-6DBC-+6Dj+6DBC-+6Dl+6DBC-+6D5-6DBCh-6Dp+6DB" ++
    "Ch-6D9-6DBCj-6Dt+6DBC3+6Dhg7DBC5+6Dhg7DBC7+6Dhg7DBC9+6D1+6DBC-+6Dv+6DBCh-6Dv+6DBCh-6Drg7DBCj-6D9+6DB" ++
    "Cl-6D3+6DBCn-6D3+6DBCn-6D-g7DBCp-6D3g7DBCr-6D3g7DBCt-6D3g7DBCv-6Dt-6DBCx-6Dt-6DBCz-6Dn-6DBC1-6Dn-6DB" ++
    "C1-6Dlh7DBC3-6Dlh7DBC5-6Dlh7DBC7-6D5-6DBC9-6Dz-6DBC--6Dz-6DBC--6Dxh7DBChg7Dxh7DBCjg7Dxh7DBClg7Dlg7DB" ++
    "Cng7D--6DBCpg7D--6DBCpg7D9h7DBCrg7D9h7DBCtg7D9h7DBCvg7Dxg7DBCxg7Drg7DBCzg7Drg7DBCzg7Dpi7DBC1g7D5g7DB" ++
    "C3g7Dzg7DBC5g7Dzg7DBC1g7Dxi7DBC3g7Dxi7DBC5g7Dxi7DBC7g7Dlh7DBC9g7D-g7DBC-g7D-g7DBC1i7D1+6DBC1i7D3+6DB" ++
    "Cnh7D5+6DBD7j+Djh7D5g7DBD9j+Djh7D7g7DBD-j+Djh7D9g7DBDhk+Djh7D-g7DBDjk+Djh7Dhh7DBDlk+Djh7Dl-6DBC7j7Dl" ++
    "j7DBC9j7Dlj7DBC-j7Dhi7DBChk7Dhi7DBCjk7D9h7DBClk7D9h7DBCjk7Dxj7DBClk7Dxj7DBCnk7Dti7DBCpk7Dti7DBCrk7Dp" ++
    "i7DBCtk7Dpi7DBCrk7D9j7DBCtk7D9j7DBCvk7D5i7DBCxk7D5i7DBCzk7D1i7DBC1k7D1i7DBC1k7Dpk7DBC3k7Dpk7DBC5k7Dl" ++
    "j7DBC7k7Dlj7DBC9k7Dhj7DBC-k7Dhj7DBC1j7Dlj7DBC3j7Dlj7DBC3j7Dpj7DBC5j7Dpj7DBC5j7Dxl7DBC7j7D5j7DBC9j7D5" ++
    "j7DBC-j7Dzj7DBChk7Dzj7DBChk7D-j7DBCjk7D5j7DBClk7D5j7DBClk7Dhm7DBCnk7Dnk7DBCnk7Dxl7DBCpk7Dxl7DBCrk7Dt" ++
    "k7DBCtk7Dtk7DBCvk7Dpk7DBCxk7Dpk7DBCtk7D-h7DBCtk7D-l7DBCvk7D-l7DBCxk7D7k7DBCzk7D7k7DBC1k7D3k7DBC3k7D3" ++
    "k7DBChn7D1m7DBCjn7D1m7DBCln7D1m7DBCnn7Dpl7DBCpn7Dnl7DBCnn7D-m7DBCpn7D-m7DBCrn7D-m7DBCtn7Dzl7DBCvn7Dx" ++
    "l7DBCtn7Dpn7DBCvn7Dpn7DBCxn7Dpn7DBCzn7D9l7DBC1n7D7l7DBC1n7Dhm7DBC1n7Dzn7DBC3n7Dlm7DBC3n7D5n7DBC5n7Dp" ++
    "m7DBC5n7D9n7DBC7n7Dtm7DBCzn7Dho7DBC1n7Dho7DBC3n7Dho7DBC5n7D1m7DBC3n7Dno7DBC5n7Dno7DBC7n7D7m7DBC7n7Dv" ++
    "o7DBC9n7Dvo7DBC-n7Dvo7DBCho7Djn7DBCho7D1o7DBCho7Dnn7DBCho7D7o7DBCjo7Drn7DBCjo7D-o7DBClo7Dvn7DBC5n7Dj" ++
    "p7DBC7n7Djp7DBC9n7Djp7DBC-n7D3n7DBC-n7Dpp7DBCho7D7n7DBCho7Dvp7DBCjo7Dvp7DBClo7Dvp7DBCno7Dlo7DBCpo7Dl" ++
    "o7DBCpo7D5p7DBCro7D5p7DBCto7D5p7DBCvo7Dto7DBCxo7Dro7DBCxo7Djq7DBCzo7Djq7DBC1o7Djq7DBC3o7D3o7DBC3o7Dr" ++
    "q7DBC5o7Drq7DBC7o7Drq7DBC9o7D-o7DBC-o7D9o7DBC-o7D1q7DBChp7Dlp7DBCjp7Dxm7DBC-o7D7q7DBChp7D7q7DBCjp7D7" ++
    "q7DBClp7Dvp7DBCnp7Dtp7DBCxr7Dzp7DBCzr7Dxp7DBCxr7D3p7DBCzr7D1p7DBCxr7D7p7DBCzr7D5p7DBCzr7D-p7DBC1r7D9" ++
    "p7DBCnr7Djq7DBCpr7Dhq7DBCpr7Dnq7DBCrr7Dlq7DBCvq7Dtq7DBCxq7Dtq7DBCxq7Dvq7DBCvq7Dxq7DBCxq7Dvq7DBCrq7D1" ++
    "q7DBCtq7Dzq7DBDjr7Dnq7Dhq7DBDlr7Dnq7Djq7DBDnr7Dnq7Dlq7DBC7r7D3q7DBC9r7D3q7DBC7r7D7q7DBC9r7D7q7DBC9r7" ++
    "D-q7DBC-r7D-q7DBCvs7Djr7DBCxs7Djr7DBCxs7Dnr7DBCzs7Dnr7DBCjt7Drr7DBClt7Drr7DBCpt7Dvr7DBCrt7Dvr7DBCpt7" ++
    "Dzr7DBCrt7Dzr7DBC-s7D3r7DBCht7D3r7DBCht7D7r7DBCjt7D7r7DBCpt7D5t7DBCrt7D5t7DBCtt7D5t7DBCvt7Dts7DBCxt7" ++
    "D3t7DBC1t7D5t7DBCzt7D7t7DBCzt7D9t7DBCzt7Dvs7DBC1t7Dvs7DBCzt7Dzs7DBC1t7Dzs7DBC1t7D3s7DBC3t7D3s7DBCnu7" ++
    "D7s7DBCpu7D7s7DBCpu7D-s7DBCru7D-s7DBC7u7Djt7DBC9u7Djt7DBChv7Dnt7DBCjv7Dnt7DBChv7Drt7DBCjv7Drt7DBC3u7" ++
    "Dvt7DBC5u7Dvt7DBC5u7Dzt7DBC7u7Dzt7DBChv7Dxv7DBCjv7Dxv7DBClv7Dxv7DBCnv7Dlu7DBCpv7Dvv7DBCtv7Dxv7DBCrv7" ++
    "Dzv7DBCrv7D1v7DBCxv7Dhw7DBCzv7Dhw7DBC1v7Dhw7DBC3v7D1u7DBC7v7Dzu7DBC7v7D1u7DBC3v7D7u7DBChw7Dvw7DBCjw7" ++
    "Dvw7DBClw7Dvw7DBClw7D1w7DBCnw7D1w7DBCpw7D1w7DBClw7Dpv7DBClw7Drv7DBCpx7Dhv7DBCrx7Djv7DTDry7Dny7D1w7DB" ++
    "Dty7Dny7Dpy7DBDvy7Dpy7Dry7DBDxy7Dry7D7w7DBDzy7Dry7D9w7DBD1y7D-w7Dxy7DBD3y7Dhx7Dxy7DBD5y7Djx7Dxy7DBD3" ++
    "y7Dlx7D1y7DBD5y7Dnx7D3y7DBD5y7Dpx7D-w7DBD7y7Drx7Djx7DBDxy7D9y7D-y7DBDzy7Dhz7D-y7DBD1y7Djz7Dpx7DBD3y7" ++
    "Dzx7Djz7DBD5y7D1x7Dlz7DBD7y7D3x7Dpz7DBD9y7D5x7D5x7DBD-y7D7x7D7x7DBD9y7Dtz7Dtz7DBD-y7Dvz7Dvz7DBDhz7Dh" ++
    "y7Dhy7DBDlz7Dzz7Djy7DBDnz7D1z7Dly7DBDpz7D5z7D9x7DBDrz7Dpy7D3z7DBDtz7Dry7D5z7DBDvz7Dty7Dty7DBDxz7Dvy7" ++
    "Dvy7DBDvz7Dh07Dpy7DBDxz7Dh07Dzy7DBDzz7Dj07D1y7DBDzz7D3y7Dn07DBD1z7D5y7Dp07DBD3z7D7y7D7y7DBD5z7D9y7Dz" ++
    "y7DBD3z7Dx07D-y7DBD5z7Dhz7Dhz7DBD7z7Djz7Djz7DBD9z7Dlz7D9y7DBD9z7Dnz7Dnz7DBD-z7Dpz7D-y7DBDh07Drz7Djz7" ++
    "DBD1z7D707Dtz7DBD3z7D907Dvz7DBD3z7Dxz7Dh17DBD5z7Dzz7Dzz7DBD3z7Dl17D1z7DBD5z7Dn17Dtz7DBD7z7Dp17Dxz7DB" ++
    "D9z7Dt17Dt17DBD-z7Dv17Dv17DBDh07Dt17D-z7DBDj07Dv17Dh07DBDl07Dj07Dz17DBDn07Dl07D117DBDn07D317D517DBDp" ++
    "07D517Dp07DBDr07D717Dh07DBDt07D-17D917DBDv07Dh27Dv07DBDx07D-17Dj27DBDz07Dh27Dz07DDD507Dr27Dn27DBD307" ++
    "D707Dt27DBD507D907D907DBD907Dv27D-07DBD-07Dx27D507DBDh17D127Dj17DBDj17D327Dl17DBDl17D527D-07DBDn17Dp" ++
    "17D-07DBDp17Dr17Dj17DBDj17Dt17Dt17DBDl17Dv17Dv17DBDr37D-27Dn17DBDp37Dl37Dp17DBDr37Dn37Dt17DBDt37Dl37" ++
    "Dt17DBDv37Dn37Dx17DBDx37D717Dx17DBDz37D917D117DBDx37D-17D117DBDz37Dx37D517DBD137Dj27D717DBDp37Dz37D9" ++
    "17DBDn37D337D917DBDr37D537D-17DBDp37D737Dh27DBDv27D-37Dj27DBDx27Dv27Dl27DBDn27Dh47Dn27DBDp27Dl47Dp27" ++
    "DBDr27D127Dr27DBD327D327Dt27DBD-27D527Dv27DBD527Dr47Dx27DBDj37D927Dt47DBDh37Dv47D-27DBD537Dh37D327DB" ++
    "Dn37Dj37D527DBDj37D347D147DBDn37D147D927DBDr37D747Dp37DBDv37Dr37Dr37DBDv37D-47Dt37DBDt37Dh57D-47DBDj" ++
    "57Dh57Dn37DBDj57Dl57Dp37DBD137Dn57Dr37DBD-37D337Dt37DBDz57Dp57Dv37DBD-37D737D737DBD147Dv57D937DBD-47" ++
    "D-37D-37DBDl57Dv57D337DBDh47D157D537DpBD177D367D7x7DBD967D567D9x7DBE187D767D767D167DBE387D-67D187Dj8" ++
    "7DBE967Dt87D967Dp87DBE-77Dh77D377D-67DBEp87Dl87D767Dj77DBE777Dl77D567D-67DBE-67Dp87Dn77Dl77DBDn87Dp7" ++
    "7D-67DBSp87Dr77Dh77Dz9+Dl97Dr77Dr77Dl77Dz9+Dh87Dr77D-67Dl77Dz9+Dj77Dt87Dr77Dp77DBI987Dt77D19+D987Dt7" ++
    "7Dn97Dt77Dn77DBE187D-y7Dp97Dv77DEABABABABABABABABABABABABABABABABBn++DBB-gnDCBx9+DBBx9+DBBn-+DBBt9+D" ++
    "BBhgnDBBhgnDZB5hvDBB9hvDBBn9+DBBp9+DBB5g-DBB5g-DBB37+DBB17+DBBpinDBBpinDBB1inDBB1inDBBljnDBBljnDBBtj" ++
    "nDBBtjnDBBpjnDBBpjnDBBpjnDBBpjnDDB3++DBB1++DBCxi-Dn09DBCzi-Dp09DBC1i-Dr09DBC3i-Dt09DBB7++DBB9++DBB-+" ++
    "+DBBni-DBB-knDDBxh-DBB1h-DBBth-DBBrj-DBBnkvDBBhj-DBBhj-DBB-9+DBB99+DBBxknDBBxknDBB3j-DBBzj-DBBtj-DBB" ++
    "tj-DBBrj-DBBvi-DBBti-DBBxi-DCB3g-DBBpk-DBBpk-DBB1i-DFC-k-Dpi8DBChj8Dri8DBCjl-Dri8DCCnl-Dti8DCCrl-Dvi" ++
    "8DBCtj8Dxi8DBCvl-Dxi8DBCxj8Dzi8DBCzl-Dzi8DBC1j8D1i8DBC3l-D1i8DBC5j8D3i8DBC7l-D3i8DBC9j8D5i8DBB9l8DBB" ++
    "9l8DBB-l8DBB-l8DBBhm8DBBhm8DBBjm8DBBjm8DBBlm8DBBlm8DBBnm8DBBpm8DBBrm8DBBrm8DBBtm8DBBtm8DBBvm8DBBxm8D" ++
    "BBzm8DBBzm8DBB1m8DBB1m8DBB3m8DBB5m8DBB7m8DBB7m8DBB9m8DBB-m8DBBhn8DBBhn8DBBjn8DBBln8DBBnn8DBBnn8DBBpn" ++
    "8DBBrn8DBBtn8DBBtn8DBBvn8DBBxn8DBBzn8DBBzn8DBB1n8DBB1n8DBB3n8DBB3n8DBB5n8DBB5n8DBB7n8DBB7n8DBB9n8DBB" ++
    "-n8DBBho8DBBho8DBBjo8DBBlo8DBBno8DBBno8DBBpo8DBBro8DBBto8DBBto8DBBvo8DBBxo8DBBzo8DBBzo8DBB1o8DBB3o8D" ++
    "BB5o8DBB5o8DBB7o8DBB9o8DBB-o8DBB-o8DBBhp8DBBjp8DBBlp8DBBlp8DBBnp8DBBpp8DBBrp8DBB-o8DBBhp8DBBjp8DBBlp" ++
    "8DBBlp8DBBnp8DBBpp8DBBrp8DBBrp8DBBtp8DBBvp8DBBxp8DBBxp8DBBzp8DBB1p8DBB3p8DBB3p8DBB5p8DBB7p8DBB9p8DBB" ++
    "9p8DBB-p8DBBhq8DBBjq8DBBjq8DBBlq8DBBnq8DBBpq8DBBpq8DBBrq8DBBrq8DBBtq8DBBtq8DBBvq8DBBxq8DBBzq8DBChr8D" ++
    "lt8DBCjr8Dnt8DBClr8Dnt8DBCnr8Dpt8DBCpr8Dnt8DBCrr8Dpt8DBCtr8Dnt8DBCvr8Dpt8DDACB-t-DBB-t-DBB-t-DBB-t-D" ++
    "BB-t-DBB-t-DBB-t-DBB-t-DBB-t-DBB-t-DBB-t-DBB-t-DBB-t-DBB-t-DBB-t-DBB-t-DBB-t-DBB-t-DBB-t-DBB-t-DBB-t" ++
    "-DBB-t-DBB-t-DBB-t-DBB-t-DBB-t-DBB-t-DBB-t-DBB-t-DBB-t-DBB-t-DBB-t-DBB-r-DBB-r-DBB-r-DBB-r-DBB-r-DBB" ++
    "-r-DBB-r-DBB-r-DBB-r-DBB-r-DBB-r-DBB-r-DBB-r-DBB-r-DBB-r-DBB-r-DBB-r-DBB-r-DBB-r-DBB-r-DBB-r-DBB-r-D" ++
    "BB-r-DBB-r-DBB-r-DBB-r-DBB-t-DBB-t-DBB-t-DBB-t-DBB-t-DBB-t-DBB-t-DBB-t-DBB-t-DBB-t-DBB-t-DBB-t-DBB-t" ++
    "-DBB-t-DBB-t-DBB-t-DBB-t-DBB-t-DBB-t-DBB-t-DBB-t-DBB-t-DBB-t-DBB-t-DBB-t-DBB-t-DBB-t-DBB-t-DBB-t-DBB" ++
    "-t-DBB-t-DBB-t-DBB-t-DBB-t-DBB-t-DBB-t-DBBz9qDBBz9qDBBlz-DBBr1nDBBr1nDBBl2nDBBzmnDBBnnnDBBrsnDBBpsnD" ++
    "BBnsnDBBlsnDBBjsnDBBxonDBBvonDBBtonDBB3qnDBBnnnDBB9snDBB7snDBB5snDBB3snDBB1snDBB1snDBBzsnDBBxsnDBBvs" ++
    "nDBBtsnDBBrsnDBBpsnDBBnsnDBBlsnDBBjsnDBBhsnDBB-rnDBB7rnDBB5rnDBB3rnDBB1rnDBB1rnDBB1rnDBB1rnDBB1rnDBB" ++
    "1rnDBBxrnDBBtrnDBBprnDBBlrnDBBhrnDBBhrnDBBhrnDBBhrnDBBhrnDBB-qnDBB9qnDBB7qnDBB7qnDBB7qnDBB7qnDBB7qnD" ++
    "BB7qnDBB5qnDBBzqnDBBpwnDBBpwnDBABBhq3DBBhq3DBBx-2DBBjq3DBBx-2DBBx-2DBBnq3DBBnq3DBBnq3DBBz-2DBBz-2DBB" ++
    "z-2DBBz-2DBBz-2DBBz-2DBBrp3DBB1q3DBB1q3DBB1q3DBBlp3DBB3q3DBB3q3DBB3q3DBB3q3DBB3q3DBB3q3DBB3q3DBB3q3D" ++
    "BB3q3DBB3q3DEBhm3DBBhm3DBBhm3DBBhm3DBBhm3DBBhm3DDBlm3DBBlm3DBBlm3DBBlm3DBBlm3DBBlm3DDBpm3DBBpm3DBBpm" ++
    "3DBBpm3DBBpm3DBBpm3DDBtm3DBBtm3DBBtm3DEB7z-DBB7z-DBBrz-DBCl8-D9t+DBB7z-DBB-z-DBB5zvDCBrutDBBxlvDBBxl" ++
    "vDBBxlvDBBxlvDBB5ktDBBlitDygBBwCBBwCBBwCBBwCBBwCBBwCBBwCBBwCBBwCBBwCBBwCBBwCBBwCBBwCBBwCBBwCBBwCBBwC" ++
    "BBwCBBwCBBwCBBwCBBwCBBwCBBwCBBwCBBwCBBwCBBwCBBwCBBwCBBwCBBwCBBwCBBwCBBwCBBwCBBwCBBwCBBwCpEBwCBBwCBBw" ++
    "CBBwCBBwCBBwCBBwCBBwCBBwCBBwCBBwCBBwCBBwCBBwCBBwCBBwCBBwCBBwCBBwCBBwCBBwCBBwCBBwCBBwCBBwCBBwCBBwCBBw" ++
    "CBBwCBBwCBBwCBBwCBBwCBBwCBBwCBBwC9EBuCBBuCBBuCBBuCBBuCBBuCBBuCBBuCBBuCBBuCBBuCCBuCBBuCBBuCBBuCBBuCBB" ++
    "uCBBuCBBuCBBuCBBuCBBuCBBuCBBuCBBuCBBuCCBuCBBuCBBuCBBuCBBuCBBuCBBuCCBuCBBuCsPBhriEBBhriEBB5pjEBB1uiEB" ++
    "BjziECBnuiEBBjiuBBBnuiEBBruiEBBpziEBBpziEBB3-0DBBrziEBBhziEBBtuiEBB5yiEBB-yiEBBlziEBBxviEBB7mjEBBzvi" ++
    "EBB-yiEBBnxiEBB9uiEBB9uiEBB9yiEBBw2rDBB9gwBBB-yiEBBs2rDBBjxiEBBq2rDBBzqjEBB5yiEBB5yiEBBnzjEBB3yiEBBi" ++
    "2rDBB1yiEBB1yiEBBzyiEBBlwiEBBrwiEBBrkuBBBtwiEBBtyiEBB9ztDCBlyiEBBjxiEBBjxiEBB5xiEBBr-iEBBr-iEBBr-iEB" ++
    "Bi1rDBBo2rDmmBBgEBBgEBBgEBBgEBBgEBBgEBBgEBBgEBBgEBBgEBBgEBBgEBBgEBBgEBBgEBBgEBBgEBBgEBBgEBBgEBBgEBBg" ++
    "EBBgEBBgEBBgEBBgEBBgEBBgEBBgEBBgEBBgEBBgEBBgEBBgEBBgEBBgEBBgEBBgEBBgEBBgEBBgEBBgEBBgEBBgEBBgEBBgEBBg" ++
    "EBBgEBBgEBBgEBBgE+EBgCBBgCBBgCBBgCBBgCBBgCBBgCBBgCBBgCBBgCBBgCBBgCBBgCBBgCBBgCBBgCBBgCBBgCBBgCBBgCBB" ++
    "gCBBgC75CBgCBBgCBBgCBBgCBBgCBBgCBBgCBBgCBBgCBBgCBBgCBBgCBBgCBBgCBBgCBBgCBBgCBBgCBBgCBBgCBBgCBBgCBBgC" ++
    "BBgCBBgCBBgCBBgCBBgCBBgCBBgCBBgCBBgChsVBgCBBgCBBgCBBgCBBgCBBgCBBgCBBgCBBgCBBgCBBgCBBgCBBgCBBgCBBgCBB" ++
    "gCBBgCBBgCBBgCBBgCBBgCBBgCBBgCBBgCBBgCBBgCBBgCBBgCBBgCBBgCBBgCBBgChCB2BBB2BBB2BBB2BBB2BBB2BBB2BBB2BB" ++
    "B2BBB2BBB2BBB2BBB2BBB2BBB2BBB2BBB2BBB2BBB2BBB2BBB2BBB2BBB2BBB2BBB2BovTABABABAzhEBpnmHBBpnmHBBpnmHBBp" ++
    "nmHBBpnmHBBpnmHBBpnmHBBpnmHBBpnmHBBpnmHBBpnmHBBpnmHBBpnmHBBpnmHBBpnmHBBpnmHBBpnmHBBpnmHBBpnmHBBpnmHB" ++
    "BpnmHBBpnmHBBpnmHBBpnmHBBpnmHBBpnmHBB-rmHBB-rmHBB-rmHBB-rmHBB-rmHBB-rmHBB-rmHBB-rmHBB-rmHBB-rmHljBCN" ++
    "OBCNMBDPKcBDRIcBDTGcBDVEcBDXCcPABABABABABABABAhCCDrFBCDtFBDHvF9EBDHxF-EBDLzF-EBDL1FhFgSB95pHBB95pHBB" ++
    "95pHBB95pHBB95pHBB95pHBB95pHBB95pHBB95pHBB95pHBB95pHBB95pHBB95pHBB95pHBB95pHBB95pHBB95pHBB95pHBB95pH" ++
    "BB95pHBB95pHBB95pHBB95pHBB95pHBB95pHBB95pHBBx7pHBBx7pHBBx7pHBBx7pHBBx7pHBBx7pHBBx7pHBBx7pHBBx7pHBBx7" ++
    "pHBBx7pHBBx7pHBBx7pHBBx7pHBBx7pHBBx7pHBBx7pHBBx7pHBBx7pHBBx7pHBBx7pHBBx7pHBBx7pHBBx7pHBBx7pHBBx7pHBB" ++
    "l9pHBBl9pHBBl9pHBBl9pHBBl9pHBBl9pHBBl9pHBBl9pHBBl9pHBBl9pHBBl9pHBBl9pHBBl9pHBBl9pHBBl9pHBBl9pHBBl9pH" ++
    "BBl9pHBBl9pHBBl9pHBBl9pHBBl9pHBBl9pHBBl9pHBBl9pHBBl9pHBB5+pHBB5+pHBB5+pHBB5+pHBB5+pHBB5+pHBB5+pHCB5+" ++
    "pHBB5+pHBB5+pHBB5+pHBB5+pHBB5+pHBB5+pHBB5+pHBB5+pHBB5+pHBB5+pHBB5+pHBB5+pHBB5+pHBB5+pHBB5+pHBB5+pHBB" ++
    "5+pHBBtgqHBBtgqHBBtgqHBBtgqHBBtgqHBBtgqHBBtgqHBBtgqHBBtgqHBBtgqHBBtgqHBBtgqHBBtgqHBBtgqHBBtgqHBBtgqH" ++
    "BBtgqHBBtgqHBBtgqHBBtgqHBBtgqHBBtgqHBBtgqHBBtgqHBBtgqHBBtgqHBBhiqHBBhiqHBBhiqHBBhiqHBBhiqHBBhiqHBBhi" ++
    "qHBBhiqHBBhiqHBBhiqHBBhiqHBBhiqHBBhiqHBBhiqHBBhiqHBBhiqHBBhiqHBBhiqHBBhiqHBBhiqHBBhiqHBBhiqHBBhiqHBB" ++
    "hiqHBBhiqHBBhiqHBB1jqHCB1jqHBB1jqHDB1jqHDB1jqHBB1jqHDB1jqHBB1jqHBB1jqHBB1jqHCB1jqHBB1jqHBB1jqHBB1jqH" ++
    "BB1jqHBB1jqHBB1jqHBB1jqHBBplqHBBplqHBBplqHBBplqHCBplqHCBplqHBBplqHBBplqHBBplqHBBplqHBBplqHBBplqHCBpl" ++
    "qHBBplqHBBplqHBBplqHBBplqHBBplqHBBplqHBBplqHBBplqHBBplqHBBplqHBB9mqHBB9mqHBB9mqHBB9mqHBB9mqHBB9mqHBB" ++
    "9mqHBB9mqHBB9mqHBB9mqHBB9mqHBB9mqHBB9mqHBB9mqHBB9mqHBB9mqHBB9mqHBB9mqHBB9mqHBB9mqHBB9mqHBB9mqHBB9mqH" ++
    "BB9mqHBB9mqHBB9mqHBBxoqHBBxoqHBBxoqHBBxoqHBBxoqHBBxoqHBBxoqHBBxoqHBBxoqHBBxoqHBBxoqHBBxoqHBBxoqHBBxo" ++
    "qHBBxoqHBBxoqHBBxoqHBBxoqHBBxoqHBBxoqHBBxoqHBBxoqHBBxoqHBBxoqHBBxoqHBBxoqHBBlqqHBBlqqHCBlqqHBBlqqHBB" ++
    "lqqHBBlqqHDBlqqHBBlqqHBBlqqHBBlqqHBBlqqHBBlqqHBBlqqHBBlqqHCBlqqHBBlqqHBBlqqHBBlqqHBBlqqHBBlqqHBBlqqH" ++
    "CB5rqHBB5rqHBB5rqHBB5rqHBB5rqHBB5rqHBB5rqHBB5rqHBB5rqHBB5rqHBB5rqHBB5rqHBB5rqHBB5rqHBB5rqHBB5rqHBB5r" ++
    "qHBB5rqHBB5rqHBB5rqHBB5rqHBB5rqHBB5rqHBB5rqHBB5rqHBB5rqHBBttqHBBttqHCBttqHBBttqHBBttqHBBttqHCBttqHBB" ++
    "ttqHBBttqHBBttqHBBttqHCBttqHEBttqHBBttqHBBttqHBBttqHBBttqHBBttqHBBttqHCBhvqHBBhvqHBBhvqHBBhvqHBBhvqH" ++
    "BBhvqHBBhvqHBBhvqHBBhvqHBBhvqHBBhvqHBBhvqHBBhvqHBBhvqHBBhvqHBBhvqHBBhvqHBBhvqHBBhvqHBBhvqHBBhvqHBBhv" ++
    "qHBBhvqHBBhvqHBBhvqHBBhvqHBB1wqHBB1wqHBB1wqHBB1wqHBB1wqHBB1wqHBB1wqHBB1wqHBB1wqHBB1wqHBB1wqHBB1wqHBB" ++
    "1wqHBB1wqHBB1wqHBB1wqHBB1wqHBB1wqHBB1wqHBB1wqHBB1wqHBB1wqHBB1wqHBB1wqHBB1wqHBB1wqHBBpyqHBBpyqHBBpyqH" ++
    "BBpyqHBBpyqHBBpyqHBBpyqHBBpyqHBBpyqHBBpyqHBBpyqHBBpyqHBBpyqHBBpyqHBBpyqHBBpyqHBBpyqHBBpyqHBBpyqHBBpy" ++
    "qHBBpyqHBBpyqHBBpyqHBBpyqHBBpyqHBBpyqHBB9zqHBB9zqHBB9zqHBB9zqHBB9zqHBB9zqHBB9zqHBB9zqHBB9zqHBB9zqHBB" ++
    "9zqHBB9zqHBB9zqHBB9zqHBB9zqHBB9zqHBB9zqHBB9zqHBB9zqHBB9zqHBB9zqHBB9zqHBB9zqHBB9zqHBB9zqHBB9zqHBBx1qH" ++
    "BBx1qHBBx1qHBBx1qHBBx1qHBBx1qHBBx1qHBBx1qHBBx1qHBBx1qHBBx1qHBBx1qHBBx1qHBBx1qHBBx1qHBBx1qHBBx1qHBBx1" ++
    "qHBBx1qHBBx1qHBBx1qHBBx1qHBBx1qHBBx1qHBBx1qHBBx1qHBBl3qHBBl3qHBBl3qHBBl3qHBBl3qHBBl3qHBBl3qHBBl3qHBB" ++
    "l3qHBBl3qHBBl3qHBBl3qHBBl3qHBBl3qHBBl3qHBBl3qHBBl3qHBBl3qHBBl3qHBBl3qHBBl3qHBBl3qHBBl3qHBBl3qHBBl3qH" ++
    "BBl3qHBB54qHBB54qHBB54qHBB54qHBB54qHBB54qHBB54qHBB54qHBB54qHBB54qHBB54qHBB54qHBB54qHBB54qHBB54qHBB54" ++
    "qHBB54qHBB54qHBB54qHBB54qHBB54qHBB54qHBB54qHBB54qHBB54qHBB54qHBBt6qHBBt6qHBBt6qHBBt6qHBBt6qHBBt6qHBB" ++
    "t6qHBBt6qHBBt6qHBBt6qHBBt6qHBBt6qHBBt6qHBBt6qHBBt6qHBBt6qHBBt6qHBBt6qHBBt6qHBBt6qHBBt6qHBBt6qHBBt6qH" ++
    "BBt6qHBBt6qHBBt6qHBBh8qHBBh8qHBBh8qHBBh8qHBBh8qHBBh8qHBBh8qHBBh8qHBBh8qHBBh8qHBBh8qHBBh8qHBBh8qHBBh8" ++
    "qHBBh8qHBBh8qHBBh8qHBBh8qHBBh8qHBBh8qHBBh8qHBBh8qHBBh8qHBBh8qHBBh8qHBBh8qHBB19qHBB19qHBB19qHBB19qHBB" ++
    "19qHBB19qHBB19qHBB19qHBB19qHBB19qHBB19qHBB19qHBB19qHBB19qHBB19qHBB19qHBB19qHBB19qHBB19qHBB19qHBB19qH" ++
    "BB19qHBB19qHBB19qHBB19qHBB19qHBBp-qHBBp-qHBBp-qHBBp-qHBBp-qHBBp-qHBBp-qHBBp-qHBBp-qHBBp-qHBBp-qHBBp-" ++
    "qHBBp-qHBBp-qHBBp-qHBBp-qHBBp-qHBBp-qHBBp-qHBBp-qHBBp-qHBBp-qHBBp-qHBBp-qHBBp-qHBBp-qHBB9grHBB9grHBB" ++
    "9grHBB9grHBB9grHBB9grHBB9grHBB9grHBB9grHBB9grHBB9grHBB9grHBB9grHBB9grHBB9grHBB9grHBB9grHBB9grHBB9grH" ++
    "BB9grHBB9grHBB9grHBB9grHBB9grHBB9grHBB9grHBBxirHBBxirHBBxirHBBxirHBBxirHBBxirHBBxirHBBxirHBBxirHBBxi" ++
    "rHBBxirHBBxirHBBxirHBBxirHBBxirHBBxirHBBxirHBBxirHBBxirHBBxirHBBxirHBBxirHBBxirHBBxirHBBxirHBBxirHBB" ++
    "l3qHBB7mqHDBtvpHBBtvpHBBtvpHBBtvpHBBtvpHBBtvpHBBtvpHBBtvpHBBtvpHBBtvpHBBtvpHBBtvpHBBtvpHBBtvpHBBtvpH" ++
    "BBtvpHBBtvpHBBhwpHBBtvpHBBtvpHBBtvpHBBtvpHBBtvpHBBtvpHBBtvpHBBzr6GBBhxpHBBhxpHBBhxpHBBhxpHBBhxpHBBhx" ++
    "pHBBhxpHBBhxpHBBhxpHBBhxpHBBhxpHBBhxpHBBhxpHBBhxpHBBhxpHBBhxpHBBhxpHBB-wpHBBhxpHBBhxpHBBhxpHBBhxpHBB" ++
    "hxpHBBhxpHBBhxpHBBxt6GBBtypHBBpypHBBnypHBBxxpHBB9xpHBBhypHBBhzpHBBhzpHBBhzpHBBhzpHBBhzpHBBhzpHBBhzpH" ++
    "BBhzpHBBhzpHBBhzpHBBhzpHBBhzpHBBhzpHBBhzpHBBhzpHBBhzpHBBhzpHBB1zpHBBhzpHBBhzpHBBhzpHBBhzpHBBhzpHBBhz" ++
    "pHBBhzpHBBnv6GBB10pHBB10pHBB10pHBB10pHBB10pHBB10pHBB10pHBB10pHBB10pHBB10pHBB10pHBB10pHBB10pHBB10pHBB" ++
    "10pHBB10pHBB10pHBBz0pHBB10pHBB10pHBB10pHBB10pHBB10pHBB10pHBB10pHBBlx6GBBh2pHBB91pHBB71pHBBl1pHBBx1pH" ++
    "BB11pHBB12pHBB12pHBB12pHBB12pHBB12pHBB12pHBB12pHBB12pHBB12pHBB12pHBB12pHBB12pHBB12pHBB12pHBB12pHBB12" ++
    "pHBB12pHBBp3pHBB12pHBB12pHBB12pHBB12pHBB12pHBB12pHBB12pHBB7y6GBBp4pHBBp4pHBBp4pHBBp4pHBBp4pHBBp4pHBB" ++
    "p4pHBBp4pHBBp4pHBBp4pHBBp4pHBBp4pHBBp4pHBBp4pHBBp4pHBBp4pHBBp4pHBBn4pHBBp4pHBBp4pHBBp4pHBBp4pHBBp4pH" ++
    "BBp4pHBBp4pHBB506GBB15pHBBx5pHBBv5pHBB54pHBBl5pHBBp5pHBBp6pHBBp6pHBBp6pHBBp6pHBBp6pHBBp6pHBBp6pHBBp6" ++
    "pHBBp6pHBBp6pHBBp6pHBBp6pHBBp6pHBBp6pHBBp6pHBBp6pHBBp6pHBB96pHBBp6pHBBp6pHBBp6pHBBp6pHBBp6pHBBp6pHBB" ++
    "p6pHBBv26GBB97pHBB97pHBB97pHBB97pHBB97pHBB97pHBB97pHBB97pHBB97pHBB97pHBB97pHBB97pHBB97pHBB97pHBB97pH" ++
    "BB97pHBB97pHBB77pHBB97pHBB97pHBB97pHBB97pHBB97pHBB97pHBB97pHBBt46GBBp9pHBBl9pHBBj9pHBBt8pHBB58pHBB98" ++
    "pHBB99pHBB99pHBB99pHBB99pHBB99pHBB99pHBB99pHBB99pHBB99pHBB99pHBB99pHBB99pHBB99pHBB99pHBB99pHBB99pHBB" ++
    "99pHBBx+pHBB99pHBB99pHBB99pHBB99pHBB99pHBB99pHBB99pHBBj66GBBx-pHBBx-pHBBx-pHBBx-pHBBx-pHBBx-pHBBx-pH" ++
    "BBx-pHBBx-pHBBx-pHBBx-pHBBx-pHBBx-pHBBx-pHBBx-pHBBx-pHBBx-pHBBv-pHBBx-pHBBx-pHBBx-pHBBx-pHBBx-pHBBx-" ++
    "pHBBx-pHBBh86GBB9gqHBB5gqHBB3gqHBBhgqHBBtgqHBBxgqHBB5+pHBB7+pHDB75rHBB75rHBB75rHBB75rHBB75rHBB75rHBB" ++
    "75rHBB75rHBB75rHBB75rHBBv6rHBBv6rHBBv6rHBBv6rHBBv6rHBBv6rHBBv6rHBBv6rHBBv6rHBBv6rHBBj7rHBBj7rHBBj7rH" ++
    "BBj7rHBBj7rHBBj7rHBBj7rHBBj7rHBBj7rHBBj7rHBB37rHBB37rHBB37rHBB37rHBB37rHBB37rHBB37rHBB37rHBB37rHBB37" ++
    "rHBBr8rHBBr8rHBBr8rHBBr8rHBBr8rHBBr8rHBBr8rHBBr8rHBBr8rHBBr8rHxhCB--tHBB--tHBB--tHBB--tHBB--tHBB--tH" ++
    "BB--tHBB--tHBB--tHBB9-tHBB9-tHBB9-tHBB7-tHBB7-tHBB7-tHBB7-tHBB7-tHBB7-tHBB7-tHBB7-tHBB7-tHBB7-tHBB7-" ++
    "tHBB3-tHBB1-tHBB1-tHBBh88EBBj3tHBBr-tHBBp-tHBBp2tHBB-5tHBBh4tHBBhiuHBBhiuHBBhiuHBBhiuHBBhiuHBBhiuHBB" ++
    "hiuHBBhiuHBBhiuHBB-huHBB-huHBB7huHBB7huHBB5huHBB3huHBB3huHBB3huHBB3huHBB3huHBB3huHBB1huHBB1huHBBr9tH" ++
    "BBjhuHBBnhuHBB1guHBB-7tHBB1h9EBB37tHzkCBkCBBkCBBkCBBkCBBkCBBkCBBkCBBkCBBkCBBkCBBkCBBkCBBkCBBkCBBkCBB" ++
    "kCBBkCBBkCBBkCBBkCBBkCBBkCBBkCBBkCBBkCBBkCBBkCBBkCBBkCBBkCBBkCBBkCBBkCBBkC-mBBx9zHBBx9zHBBr9zHBBn9zH" ++
    "CB57zHBBn9zHBBz9zHBBh9zHBB97zHBBt8zHBBt8zHBBt8zHBBt8zHBB19zHBBr9zHBB98zHBB39zHBB-8zHBBj+zHBB-9zHBB1+" ++
    "zHBB1+zHBBx+zHBBv+zHBBl+zHBBj+zHBBh+zHBB76zHBBl2zHBB53zHBB-6zHCBx-zHBBr-zHCB59zHDBz-zHCB99zHBBt+zHBB" ++
    "t+zHBBt+zHBBt+zHBB1-zHBBr-zHBB9+zHBB3-zHBB-+zHCB--zHBB1g0HBB1g0HBBxg0HCBlg0HCBhg0HHBrh0HFBzh0HCB9-zH" ++
    "CBtg0HCBtg0HBB1h0HBBrh0HCB3h0HBB-g0HCB-h0HDBxi0HCBli0HCBhi0HCBl6zHCB-+zHCBxj0HBBrj0HCB5h0HDBzj0HBBhj" ++
    "0HBB9h0HBBti0HCBti0HBBti0HBB1j0HBBrj0HBB9i0HBB3j0HBB-i0HCB-j0HBB1k0HBB1k0HBBxk0HCBlk0HBBjk0HBBhk0HBB" ++
    "7g0HCB59zHCBxl0HBBxl0HBBrl0HBBnl0HBB5j0HBB5j0HBBnl0HBBzl0HBBhl0HBB9j0HCBtk0HBBtk0HBBtk0HBB1l0HBBrl0H" ++
    "BB9k0HBB3l0HBB-k0HBBjm0HBB-l0HBB1m0HBB1m0HBBxm0HBBvm0HBBlm0HBBjm0HBBhm0HGBxn0HBBrn0HBBnn0HCB5l0HBBnn" ++
    "0HBBzn0HBBhn0HBB9l0HCBtm0HBBtm0HBBtm0HBB1n0HBBrn0HBB9m0HBB3n0HBB-m0HBBjo0HBB-n0HBB1o0HBB1o0HBBxo0HBB" ++
    "vo0HBBlo0HBBjo0HBBho0HmSCht4Hpt4HBCht4Hrt4HBCht4Htt4HBCht4Hvt4HBCht4Hxt4HBCht4Hzt4HBCht4H1t4HBCht4H3" ++
    "t4HBCht4H5t4HBCht4H7t4HGDvu4H9q4Htu4HBDxu4H9q4Hvu4HBDzu4H9q4Hxu4HBD1u4H9q4Hzu4HBD3u4H9q4H1u4HBD5u4H9" ++
    "q4H3u4HBD7u4H9q4H5u4HBD9u4H9q4H7u4HBD-u4H9q4H9u4HBDhv4H9q4H-u4HBDjv4H9q4Hhv4HBDlv4H9q4Hjv4HBDnv4H9q4" ++
    "Hlv4HBDpv4H9q4Hnv4HBDrv4H9q4Hpv4HBDtv4H9q4Hrv4HBDvv4H9q4Htv4HBDxv4H9q4Hvv4HBDzv4H9q4Hxv4HBD1v4H9q4Hz" ++
    "v4HBD3v4H9q4H1v4HBD5v4H9q4H3v4HBD7v4H9q4H5v4HBD9v4H9q4H7v4HBD-v4H9q4H9v4HBDhw4H9q4H-v4HBDrxgHtr4Hpxg" ++
    "HBBvs4HBBzr4HBCzs4Hxs4HBCtr4Hnr4HCB9s4HBB9s4HBB9s4HBB9s4HBB9s4HBB9s4HBB9s4HBB9s4HBB9s4HBB9s4HBB9s4HB" ++
    "B9s4HBB9s4HBB9s4HBB9s4HBB9s4HBB9s4HBB9s4HBB9s4HBB9s4HBB9s4HBB9s4HBB9s4HBB9s4HBB9s4HBB9s4HBCju4Hnt4HB" ++
    "C7t4Hpt4HBCxt4Hvu4HBCzt4Hzt4HBD7t4H7t4Hvt4HBCvt4H3u4HbC5v4Htw4HBC7v4Htw4HBC9v4Hzv4HkBC3y4Hry4HwDCp4g" ++
    "Hp7gHBC70gH70gHBB50gHOBp8nGBBzrrGBBrkvGBB30gHBBv4xGBB1vsGBBlj0FBB7usGBBn3xGBBx-lGBBxvgGBBjomGBB98vGB" ++
    "BhppGBBhpwGBB9mmGBBlgwGBB9t6FBBlw+FBBz3yFBBnzsGBB3+uGBBjxhGBBj5nGBBltnGBBxiyGBBhiyGBBh+wFBBrkqGBB--x" ++
    "GBB1jvGBBvynGBB-ryFBB79nGBBhr8FBBx77FBB3ivGBBp7hGBB5ylGBB9ylGBBpw+FBBt8vGBBnouGBB7uwFFD3ihHnxlG1ihHB" ++
    "D5ihHvjyG3ihHBD7ihHr7xG5ihHBD9ihHzrrG7ihHBD-ihH14gG9ihHBDhjhHj-nG-ihHBDjjhH929FhjhHBDljhHz2vGjjhHBDn" ++
    "jhHhvmGljhHIBxrpGBBjmvG-sCB-79HBB-79HBB-79HBB-79HBB-79HBB-79HBB-79HBB-79HBB-79HBB-79Hng-BBl80KBBx80K" ++
    "BBh80KBBhu7DBBnq0KBBtl0KBB1k0KBBpg0KBB74zKBB-2zKBBlyzKBB3zzKBB72hLBBl94DBBhszKBB1rzKBB3qzKBBzpzKBBrv" ++
    "5DBBz1hLBB5qzKBBvozKBB1s5DBB-nzKBBnnzKBB500KBB7mzKBBrmzKBB5jzBBBvizKBB1hzKBB-zhLBBp+yKBB19yKBB-6yKBB" ++
    "36yKBB9whLBB71yKBB51yKBBl0yKBB7yyKBBnyyKBBnyyKBBnxyKBBluyKBB3tyKBBntyKBB3ryKBBlryKBBjryKBBlryKBBnryK" ++
    "BBvg3DBBp8jKBB3myKBBvlyKBBpt2DBB7kyKBBxkyKBBpjyKBB75xKBBpgyKBBr-xKBBt9xKBB75xKBB10xKBBjzxKBB-uxKBBhu" ++
    "xKBBhsxKBBjsxKBB7qxKBB5pxKBBrpxKBBvoxKBBpzwKBBrkxKBBrzwKBB5-wKBB19wKBBxkzKBBl2vKBBnowKBB9lwKBBtkwKBB" ++
    "zswKBBniwKBBriwKBB36vKBBp3xDBBv2vKBBn2vKBBr1vKBBl0vKBB3zvKBB5vvKBBv7wDBBt3wDBBrnvKBBvkvKBB5jvKBB5ovK" ++
    "BB--uKBBx3gLBB32gLBBh2uKBB3yuKBB5yuKBBnqvDBBzquKBBrpuKBBvouKBB5nuKBBx1uDBBlnuKBB5muKBBhysKBBlluKBBpv" ++
    "gLBBthuKBBzguKBBx7tKBB5+tKBBtptDBBxztKBBtptDBB-wtKBBnxtKBBnwtKBB-ptKBB-ptKBBnlgLBBtotKBB5ltKBBxktKBB" ++
    "7htKBBrigLBBrwrDBB7ggLBB19sKBBx9sKBBt9sKBBn8sKBB5vqBBBj5sKBB-1qDBBh2qDBBjp7JBBj3sKBBl3sKBB98-KBB99iD" ++
    "BB7rrCBBtzsKBB9ysKBBv7-KBBjwsKBB-ssKBBtssKBBrqsKBB9hsKBBt2-KBBr4-KBB9gsKBB-8oDBB79rKBB71rKBB11rKBBz1" ++
    "rKBB51rKBB-yrKBB5xrKBBzvrKBBxwrKBB9vrKBBhtrKBB7rrKBB1rrKBBjqrKBBvprKBBtlrKBBngrKBBj+qKBBt2qKBB36mDBB" ++
    "33qKBB77qKBBl1qKBBxzqKBBxtqKBB5smDBB5pqKBB1vqKBBvxqKBBnp-KBBzlqKBBrkqKBBviqKBB9kqKBB1l-KBBx3pKBB51pK" ++
    "BB-rkDBBvupKBBn9oKBBnopKBBp7+KBB7jpKBBv8+KBB5++KBB-zzKBB7zzKBBn9oKBBxjpKBBxi8JBB7v6KBBh8oKBB77oKBBx7" ++
    "oKBB53oKBBx4oKBBzxiDBBp5+KBBpuoKBB11oKBB9ooKBB5loKBBrniDBBrloKBBrsoKBBj9nKBBz0+KBBr6nKBBr0nKBB-vnKBB" ++
    "lknKBBxkhDBBjhnKBBrt+KBB78mKBBxkgDBB55mKBBnq+KBBh4mKBBp1mKBB1zmKBB1zmKBBzm-CBB5+tDBB9-+CBB3qmKBB9j+C" ++
    "BB5jmKBB-imKBBtpmKBBx+lKBBj8lKBBz4lKBBh8lKBBz5lKBB34lKBB-3lKBBv+9CBBl9lKBBxtlKBB1plKBBt99KBB-jlKBBpk" ++
    "lKBB3j9CBBpxlKBBh6kKBBj78CBBl48CBB30kKBBztkKBBrvkKBBzvkKBB-39KBB5skKBB1pkKBBjqkKBB5mkKBBr-5DBBt9jKBB" ++
    "zr7CBBj4jKBBn36CBBvvjKBB3ujKBBjtjKBB1x5CBBnqjKBB-ojKBBh-4CBBlx4CBB76iKBB75iKBB7n9KBBr4iKBBnn9KBBpn9K" ++
    "BBtuiKBBltiKBB9riKBB3qiKBBvmiKBBvh9KBB-giKBB9v2CBBv-hKBBpq2CBBv8hKBBz5rDBBzyhKBBz50CBBn40CBBxv0CBBj0" ++
    "8KBBtz8KBB3khKBB7k0CBB-k0CBBzi0CBBhh0CBBtihKBBtihKBBvihKBB7-gKBB-w8KBB97gKBBpw8KBBrr8KBB-yyCBB-vgKBB" ++
    "lsgKBBnogKBB7m8KBB3yxCBB5--JBBzrxCBB-oxCBBt8-JBB32-JBBxi8KBBxx-JBB-w-JBB3w-JBB-9vCBBrrvCBBtrvCBBhn-J" ++
    "BB717KBBr7uCBB35+JBBz5+JBB5z7KBBpuuCBBnp+JBBts7KBB-n+JBBro+JBBzm+JBBp+sCBBxg+JBB3m7KBBt69JBB529JBB1y" ++
    "9JBB5j7KBBz0rCBB3yrCBB1h7KBB3prCBB3-8JBBxjrCBBl+8JBB938JBBp38JBBhqqCBBxlqCBB5x8JBBr9pCBB9w8JBBhijDBB" ++
    "366KBB-s8JBB-n8JBBx36KBBtk8JBBhtvKBB-9oCBBl9oCBBr-iDBB7+iDBBz47JBBv47JBB9+0JBBly6KBB7v7JBBpw7JBBnv7J" ++
    "BB9tzKBBju7JBBhu7JBBvt7JBB-q7JBB1lnCBBlr7JBB3n7JBBtj7JBB7+6JBBxn7JBB-96JBBt76JBBv06JBB5k7JBBt96JBBr9" ++
    "6JBBt86JBB72mCBBzjmCBBhtmCBB3n6KBBtr6JBBrr6JBBnp6JBBh+iCBBvk6JBBholCBBhl6KBB7k6KBB9-kCBB9tkCBBtk6KBB" ++
    "l25JBBv15JBB705JBB505JBB7w5JBB-y5JBB1q5JBBvt5JBBjk5JBBnp5JBBjl5JBBvj5JBBv+5KBB994JBB-74JBBx85KBBl24J" ++
    "BBh24JBB71hCBB9u4JBBxu4JBBl55KBB9s4JBB9wiLBB5xgCBBrmgCBB9w5KBBtw5KBB9y3JBBlu3JBBtk3JBB532JBB1y+BBBxy" ++
    "2JBBnx2JBB1r2JBB-l2JBBxq9BBBp94DBB9g2JBB9h2JBB3+1JBB9v4DBBzw1JBBtq1JBB7g6BBBn-5BBB700JBBjv0JBBlt0JBB" ++
    "tr5BBB1s0JBB96zJBBhxzJBBhxzJBB72zJBBj-yJBBt9yJBBl-2BBBlmyJBBzl4KBBxjyJBBzn2BBB3g4KBB-yxJBBjkuKBBjtxJ" ++
    "BBhr0BBB59zBBBz43KBBl43KBBzhxJBBh-yBBBz03KBBt2yBBBl-wJBBn-wJBBt9wJBB1kyBBB-xwJBB-s3KBB1twJBB7lwJBBnk" ++
    "wJBBxgwJBBzj3KBBxtvBBBvvvJBB18uJBB9wuJBB9z2KBBhy2KBBvquJBBj0sBBBxx2KBB5wsBBBpgsBBBl4rBBBz1tJBB-r2KBB" ++
    "7xtJBBzxtJBBnxtJBB1wtJBBpwtJBBhutJBB5hqBj3hWABABABABABABABABABABABABABABABABABABABABABABABABABABABAB" ++
    "ABABABABABABABABABABABABABABABABABABABABABABABABABABABABABABABABABABABABABABABABABABABABABABABABABAB" ++
    "ABABABABABABABABABABABABABABABABABABABABABABABABABABABABABABABABABABABABABABABABABABABABABABABABABAB" ++
    "ABABABABABABABABABABABABABABABABABABABABABABABABABABABABABABABABABABABABABABABABABABABABABABABABABAB" ++
    "ABABABABABABABABABABABABABABABABABABABABABABABABABABABABABABABABABABABABABABABABABABABABABABABABABAB" ++
    "ABABABABABABABABABABABA"

/-- Packed table: the points that a name may hold. -/
def validRuns : String :=
  "AhCalBhBHBBBCBBBCECDBDBXBHhBBBBBBBBBBBBBBBBBBBBBBBBBBBBBBBBBBBBBBBBBBBBBBBBBBBDBBCBBBBBBDBBBBBBBCBBB" ++
    "BBBBBBBBBBBBBBBBBBBBBBBBBBBBBBBBBBBBBBBBBBCBBBBBBBCBBBCBDCEBCBDDCBCBBBBBCBBCBBCBDBBBCDBHKBBBBBBBBBBB" ++
    "BBBCBBBBBBBBBBBBBBBBBCEBDBBBBBBBBBBBBBBBBBBBBBBBBBBBBBBBBBBBBBBBBBBBBBBBBBBBBBBBBBBHCBCCBBEBBBBBBBBh" ++
    "DJfGCF7CCBDJBgBBBBBBBBBDDSBbjBIBBBBBBBBBBBBBBBBBBBBBBBBBDBCBBBCCzBwBBBBBBBBBBBBBBBBBBBBBBBBBBBBBBBBB" ++
    "BJBBBBBBBBBBBBBBBBBBBBBBBBBBBBBBBBBBBBBBBBBBBBBBBBBBBBBBCBBBBBBBBBBBBCBBBBBBBBBBBBBBBBBBBBBBBBBBBBBB" ++
    "BBBBBBBBBBBBBBBBBBBBBBBBBBBBBBBBBBBBBBBBBBBBBBBBBBBBBBBBBBBBBBBBBBpBuBBDCDB3BIbEGRWB4CEkDBwBC7BClDO7" ++
    "BCxBCPBcCBBLFgBHrCB1DIkBBICCCWBHBBDECJCCCEIBIECZCDBGECCWBHBBCBCCCBBFECCDDBKBJRKDBJBDBWBHBCBFCKBDBDCB" ++
    "PECMHHBDBICCCWBHBCBFCJCCCDHDHFCSKCBGDDBEDCBBBCDCDDDMEFDDBECBGBOVFNBDBXBQCJBDBEHCBDBCCECKHWBDBXBKBFCJ" ++
    "BDBEHCFDBECKBDMNBDBzBBDBGEQCaBDBSDYBJBBCHDBEGBBBIGKCDMyBBHEdlBCBBBFBYBBBMBKCFBBBHBKECgBMB2BBEBEBEBEB" ++
    "EBMBDECBBFHBRBEBEBEBEBEBMBDBPBNlBgFwBsBBiDCoHBECHBBBECpBBEChBBECHBBBECPB5BBECjCCgBDaG2CKgUBcD5CHWJYJ" ++
    "UMNBDBCM0BCoBCKGKGLFKG5CHrBFmCKfBMEMEBDqBCFLsBEaGLD+BChCBdCLGKGOCuBCMUtCBmFI8BDPDzBKB1BIIrBFsBDBLBSB" ++
    "cNBiBlBgCBBBBBBBBBBBBBBBBBBBBBBBBBBBBBBBBBBBBBBBBBBBBBBBBBBBBBBBBBBBBBBBBBBBBBBBBBBBBBBBBBBBBBBBBBBB" ++
    "BBBBBBBBBBBBBBBBBBBBBBBBBBBBBBBBBBBBBBBBBBBBBBBBBBBBBBBBBBFCCBBBBBBBBBBBBBBBBBBBBBBBBBBBBBBBBBBBBBBB" ++
    "BBBBBBBBBBBBBBBBBBBBBBBBBBBBBBBBBBBBBBBBBBBBBBBBBBBBBBBBBBJIGKIIIIGKIIIIBBBBBBBBBBBBBzBCEBPBJDDCIDBE" ++
    "OBVCCBBFBMDBIDCBCEBBBIDNBHhCIBZOhBTBDBLBCCFCDBBBBBBBEBLBGEFGwBDBFBCE8ECBC4HC-HWLgFhpBBnDDlDB3ECqEwBw" ++
    "BBBDCBBBBBBEBBCBGFBBBBBBBBBBBBBBBBBBBBBBBBBBBBBBBBBBBBBBBBBBBBBBBBBBBBBBBBBBBBBBBBBBBBBBBBBBBBBBBBBB" ++
    "BBBBBBBBBBBBBBBBIBBBEBBFtBBBFBC4BIBOYJHBHBHBHBHBHBHBHB+DiBaBEBzCuIBBzBBBDFB2CCCCCB-CGrBgDCOmCKQoCIvB" ++
    "BgMtkcD3BJ8KVBBBBBBBBBBBBBBBBBBBBBBBBBBBBBBBBBBBBBBBBBBBBTBBBBBBBBBBBBBBBBBBBBBBBBBBBBC6CIiBBBBBBBBB" ++
    "BBBBBDBBBBBBBBBBBBBBBBBBBBBBBBBBBBBBBBBBBBBBBBBBBBBBBBBBBBBBBBBBBBBBBIBBBBCBBBBBBBBEBBBCBBBDBBBBBBBB" ++
    "BBBBBBBBBBBBFBFBBBBBBBBBBBBBBBEBBBCBBBBBBBBBBBBBBBaCCzBDKG4BImCIMG0DLeDuCBLEhBB3BJOCKCnDYcKGCGCGJHBH" ++
    "BsBEJBC0CuBCKGk9KMXExBywICBBBCKBBBBCCD0HBzEhBrLSgCC2BItBDgBQVCsBBsMMBaBTBCBPCOiB7DFDEtBD4CBNDBvBuBiE" ++
    "dDxBPcEkBJeFrBFeBlBEOyC2DCKuBkBEoBI0BLBnBLBPBHBCD0BM3JJWKIYB-DGCBBsBBCDBCXBoCIJwBTBCFhBDbFbmB4BEUCyB" ++
    "BCFIBDBdCDEKHJHgCgBnBEMJ2BDdCbFaHEMHwCpC3DzBHuBIKGQZdICwGfBqBBDCCQGIJhBuBIqBWamBcUXJuCEkBJ+BBFNZHKG1" ++
    "BBSInBJgDBULSBvB+BHBBBEBPBLG7BFKGEBICCCWBHBCBFBKCCCDCBGBFHCHDFLKBBCBBmBBKBBCBBEBKBCICd8CBFeoCIKmF2BC" ++
    "mBiBlCLKGNT6BGKGUcbCPEX5F8BkEzBMICBCIBCBeBCCMJKmCICuBCLboCIzCNpCHK2CI4CiBOKGJBtBBOKdDgBCWBOpCHBCBsBD" ++
    "BBCBJIKGGBCBlBBCBGHKGsBEK2HZHRBpBDd1CBPyBN7cmDvDBFLkGsyCjDNwhBQWK78DFnS51G6Bm2B5RHfBKExCBKGeCGKmCKKB" ++
    "HBVFTwN6BmH7BgBZsBrCE5BHRgCFLHJ2mHpBgBhDzD9vIEBHBCBjJPBdDCBOEIsMkoCrDFNDJHKCEg7D2GkBDD0NGXPRPuBCXJ0D" ++
    "8B2HKnBC1BHOIgCGqBVmC6DUMUM3CJZnkBsUPFBPwiBfGG1GHBRCHBCBFkDBwDtBDOCKECgKfR6BFBwOqB2GrBEBgGfBWICgHHBE" ++
    "BCBPBlGCQrCqBEKECxYkCsC9ByNCuIsBEkDMPCPBPBlBVFfBgBaDjBBd4BagDG6E5eDRDND6GGMEBPME4BIKGoBIeCMECOJnB4KI" ++
    "OCNDLD5BBBEQCMEKHzEB8CKBlgBg3pBgB+oECu0FCxpHPuTitEr6EFqpI"

/-- Packed table: the points of names that are marks on the character before. -/
def markRuns : String :=
  "gYgCCBDJBgBzIHnItBBBBCBCBBoCLwBVQBlDHCGCCBEjBBeb7CL6BJJBYEBJBDBFrBD8BIqBYBhB2BDBSBHKCdD4BBBHCCCDJBKC" ++
    "aBCD4BBBFECCDDBeCDBLD4BBBIBDBDUCWGBD4BBBHCCCDHDKCeB7BFDDBEJBoBF3BBBHBDBEHCLCdD4BBBHBDBEHCLCPBME3BCBH" ++
    "BDBEJBKCdDmCBEGBBBISC9BBCHMIiDBCJLHpCCbBBBBBECxBCBBFHBDBCFGBEBEBEBEBEBMBDJBkDUXEEDBDCHDENMBBKE-VDydE" ++
    "cDdCeCiCeJBnFCiBB2DMEM7GF5BKBdCBwBfxBFvBRmBJMDeN4BOwBU4EDBVEBGBCDmGgCwWhB+-CDtEBgDgBqRGpDC0udEBKgBCw" ++
    "CCwIBDBEBXFEBzCCyBSaSNBmBIZNsBEvBOkBBjCOMBICtBDyBBBDCCFCBBpBFFCsHIBCw5TBhYQteBiHB1EFm0BDBCFEoBDEBlFC" ++
    "9REjMCwCDmCLxBE6DD1BPpBBCCKEtBLHB9BDkBOQCsBBMDwBOIEBC8CMGBCB9EMVE3BCBHCCCDJBKCCHDFgGSXBxCUrHHCJbCyCR" ++
    "qDNlDPgIP1HGBCCEBBBCtEHCHDBcKoBHBEIBJLuBQ1MIBIyCWBO6DGDBBCBHBBiCFBCBF7KEJCBBwBHDF9nFBGP60NF7BH4gBBB3" ++
    "BHExCBLCrlTChzEuBCX+QFDGIICHeE0ED79B3BEyBIBOBWFBPwqBHBRCHBCBFkDBgFH3LB9BE8PEgfHtDH"

/-- Packed table: the directions of the points of names, by their number; those written from the left are not listed. -/
def directions : String :=
  "AJJAFLAOJAFLACIADHAFIABFABGABFACGAKEABGAGIaGIaEIABJhBBIAEHACIBBIBCIBBIBCHECIDBIDBIXBIfBIhOCIHOICGIGC" ++
    "IFJIBRIAgCKCBKDJKBgBKFBIgEBIsEHKgIBICCIABHBtBKABBABKABBACKABBACKABBABKIbBEGBRCIABCACHABCABGABCACIALK" ++
    "ABCBuBCAVKAKDABHACDADCABKAECE9CCAHKBBIAGKACCACKABIAEKACCAKEAUCCBCABKAeCAbKC5CCALKABCOrBBAJKACBAEIABB" ++
    "CBKAYBAEKABBAJKABBADKABBAFKCPBBZBADKCBBBLCFfCABBHBBAIKAqBCAYKBgBK3BBKBBKEIKEBKDHKKCKdBK6BBKEEKIBKUCK" ++
    "OCHHBHCBKCCK5BBKECKECKCDKDBKeCKDBKLCK5BBKEFKBCKEBKUCKNBHIGKBBK6BBKCBKBEKIBKHCKLCKeBK9BBKMBKlBGIABHAB" ++
    "IFBKDBK3BBKBDKFDKBEKHCKLCKUHICBK6BBKPCKUCKcCK5BCKEEKIBKUCKdBKoCBKHDKBBK6CBKCHKEBHHIKiDBKCJKLHKpCCKbB" ++
    "KBBKBBKAEIzBCKBBKFFKBBKBDKBCKFGKBEKBEKBEKBEKBEKBMKBDKJBKmDEKBGKBCKCCKZCKEDKQEKNBKCCKGBKPBK-VDKwBKImD" ++
    "BI6UCI1DDKdCKeCKeCKjCHKIBKCLKHBHBBKSKIGLI6DCKiBBK2DDKECKJBKGDKEBIDCI4EiBIXCKCBK6BBKBHKBBKBBKCIKGKKCB" ++
    "KwBfKxBEKwBBKBFKBBKFBKoBJKMCKgBEKCCKBDK4BBKBCKDBKBDK6BIKCCK4EDKBNKBHKEBKGBKDCKmGgCKsQCJCBIBFIBMIDBII" ++
    "DHCBICEIBBIBFIABGACIDNIBHIhCIHBYHPhBKTBIDBILBICCIFCIDBIBBIBBIBBIEBHLBIGEIFEI8BCIEiEIABFABHAYICBIC4HI" ++
    "CLIlCaIBxEIZLIgFhOIBzKIgIsIIBnDIDlDIB3EICgBIBpDIlHGIEDKHHI-DBKgDgBKA+CIiBaIBEIBzCIuIBIBCIDZIJEKCBIGB" ++
    "IFDI5CCKFBI6CBIkGkBI8+GgCIw0V3BImKDI-CEKABIAKKACIeCKwCCKOiBImDBI5DBKDBKEBKZCKBEIABKLCH6BEIsCCKaSKNBK" ++
    "mBIKZLKuBDKwBBKCEKCCKnBBKjCGKCCKCCKMBKIBKvBBKzBBKBDKCCKFCKBBKqBCKIBKzDCI5DBKCBKEBKw5TBKzERCAQBrLSIgC" ++
    "CB2BHBABItBDIgBQKVCIsBBCtUBI+BtCIDNIDBI8CBKiHBKAbE6DFKlkBGBCBBBsBBBCBDBBCXBBoCBIJBwBTBBCBFhBBDBIAaBF" ++
    "bBmB4BBEUBCvBBADKBCKFEKAEBBDBBdBCDKEBKAJBHJBHgCBgBlBBACKEMBJ2BBDHIAWBCbBFaBHEBMHBwCpCB3DzBBHGBAkBCAE" ++
    "KIKDGQBZdBICBwGfDBqBBBCKABBCCBQGBIJBhBDBADKAoBBIWCALKAJCWSBAEKAEBmBcBUXBKBK2BPKLUIKBKCCKKDKxBEKCCKHB" ++
    "K9BDKkBFKBIK+BBKMCK0BJKKEKCBK-CDKCBKBCKGBKCBK9EBKDIKVCK5BCKDBKlBHKDFKjGIKCDKBBKXBK0CGKBBKECKBCKuHEKG" ++
    "CKBCKbCK1CIKCBKBCKfNI+BBKBBKCGKBBKlDDKCEKBFKjIJKBCKgICKBBKEBKwEEKCCKEBKgBGKCCKoBGKCEKIBKJGKCDKuBNKBC" ++
    "K2MHKBGK0CWKCHKBCKBCK6DGKDBKBCKBHKBBKoCCKDBKBBK7KCKLCK0BFKFBKBBKyEIIAEHARIuiFBKGPK60NFK7BHK4gBBK-BEK" ++
    "vCBIBBK4lTCKhzEuBKCXKgRDKRIKCHKeEK7BCIViCIADKABI6F3CIp1B3BKEyBKIBKOBKWFKBPKwqBHKBRKCHKBCKBFKkDBKgFHK" ++
    "3LBK9BEKPBHsPEKwYlGBCJBAHKrCiBBAHKABBEKBECBxYkCCsC9BCyNCIuIsBIEkDIMPICPIBPIBlBIVFIfBI9BDI9BBIyFGI6E4" ++
    "eIERIDNID3DIE-CIGMIEBIPMIE4BIIKIGoBIIeICCIuC0KIMOICNIDJIHuBIBHIIOIEJIHJIHzEIB3BI"

/-- Packed table: how the letters of connected scripts join. -/
def joinings : String :=
  "tFBEySwDEzIHEnItBEBBEBCEBCEBBEoCLEBBEDBCBEDABCABDABCABDAFCAEDANCBHCABDACCAVEOCCABEADDBDDAQCASDAmBCAB" ++
    "DACCAJDABCABDABCABDACCACDBBDAHECGECCEBEEACDKDCCBCPBEABDABEADCAFDAECABDAJCABDABCABDABCABDACCABDAbECBD" ++
    "ALCADDAPCACDAECABDABCACDADCACDAGCmBLEZhBCAJEJBEYEEBJEBDEBFESBDAFCACDABCABDAKCABDABCADDADEEBCBECBBDAB" ++
    "CACDFTDDBCCFCABDJIEAKCADDBBDACCACDAGCABDAPCBYEBgBE3BBEBBEEIEEBEDHEKCEdBE6BBEEEEIBEUCEaBECCE5BBEECEEC" ++
    "ECDEDBEeCEDBELCE5BBEEFEBCEEBEUCEWGEBBE6BBECBEBEEIBEHCELCEeBE9BBEMBEyBBEDBE3BBEBDEFDEBEEHCELCEdBE6BBE" ++
    "CBEGBEFCEUCEcCE5BCEEEEIBEUCEdBEoCBEHDEBBE6CBECHEMIEiDBECJELHEpCCEbBEBBEBBE3BOEBFEBCEFLEBkBEJBEmDEEBG" ++
    "EBCECCEZCEEDEQEENBECCEGBEPBE-VDEydDEdCEeCEeCEgCCEBHEIBECLEJBEpBBCDDEBBEQ5CCMCEAiBCABEABC1DDEECEJBEGD" ++
    "E7GCECBE6BBEBHEBBEBBECIEGKECBEwBfExBEEwBBEBFEBBEFBEoBJEMCEgBEECCEBDE4BBEBCEDBEBDE6BIECCE4EDEBNEBHEEB" ++
    "EGBEDCEmGgCErQBECCEaFExBFEFGEgDhBE+-CDEtEBEgDgBEqREErDCE0udEEBKEgBCEwCCEwIBEDBEEBEZCEFBETyBCABBxCCEa" ++
    "SENBEmBIEZLEuBDEwBBECEECCEnBBEjCGECCECCEMBEIBEvBBEzBBEBDECCEFCEBBEqBCEIBEuHBECBEEBEw5TBEhXQEQQEvGBE5" ++
    "HDEhQBEiHBE1EFEm0BDEBCEFEEoBDEEBEgEFCABDBBDBCDCBBAFDAECABBAFCABDADCABDCBDACEEECABDwEBCABDABCADDADCAB" ++
    "DACCABDABCACDABCABDXEDACCxKBBAhBCABDABCAEEjMCEwCDEwBDCABDARCBLEADCABDbECACDAMCAEEqBBCBCCADDBBCACDACC" ++
    "ABDACCBBCACDABCEBDABCABB1BBE2BPEpBBECCEKDExBEECCEHBE9BDEkBFEBIE+BBEMCE0BJEKEECBE-CDECBEBCEGBECBE9EBE" ++
    "DIEVCE5BCEDBElBHEDFEjGIECDEBBEXBE0CGEBBEECEBCEuHEEGCEBCEbCE1CIECBEBCEqDBEBBECGEBBElDDECEEBFEjIJEBCEg" ++
    "ICEBBEEBEwEEECCEEBEgBKEoBGECEEIBEJGECDEuBNEBCE2MHEBGEBBEyCWECHEBCEBCE6DGEDBEBCEBHEBBEoCCEDBEBBE7KCEL" ++
    "CE0BFEFBEBBEtnFREGPE60NFE7BHE4gBBE-BEExCBE4lTCEBEE8yEuBECXEgRDEJQECHEeEE0EDE79B3BEEyBEIBEOBEWFEBPEwq" ++
    "BHEBRECHEBCEBFEkDBEgFHE3LBE9BEE8PEEgfHEpBkCCAIE11lYBEegDEgEwHE"

end PhaseScript.Url.Data
