import TwoStack.Unicode.Category

/-!
# Properties of characters

A property is a set of code points.  Most of each is derived from the general category; the tables
hold what the category does not say.  They are those of version 17 of the Unicode Standard.
-/

namespace TwoStack.Unicode

/-- Alphabetic characters that are neither letters nor letter numbers. -/
def moreAlphabetic : Bounds := .ofText "
345 346 363 370 5b0 5be 5bf 5c0 5c1 5c3 5c4 5c6 5c7 5c8 610 61b 64b 658 659 660 670 671 6d6 6dd
6e1 6e5 6e7 6e9 6ed 6ee 711 712 730 740 7a6 7b1 816 818 81b 824 825 828 829 82d 897 898 8d4 8e0
8e3 8ea 8f0 904 93a 93c 93e 94d 94e 950 955 958 962 964 981 984 9be 9c5 9c7 9c9 9cb 9cd 9d7 9d8
9e2 9e4 a01 a04 a3e a43 a47 a49 a4b a4d a51 a52 a70 a72 a75 a76 a81 a84 abe ac6 ac7 aca acb acd
ae2 ae4 afa afd b01 b04 b3e b45 b47 b49 b4b b4d b56 b58 b62 b64 b82 b83 bbe bc3 bc6 bc9 bca bcd
bd7 bd8 c00 c05 c3e c45 c46 c49 c4a c4d c55 c57 c62 c64 c81 c84 cbe cc5 cc6 cc9 cca ccd cd5 cd7
ce2 ce4 cf3 cf4 d00 d04 d3e d45 d46 d49 d4a d4d d57 d58 d62 d64 d81 d84 dcf dd5 dd6 dd7 dd8 de0
df2 df4 e31 e32 e34 e3b e4d e4e eb1 eb2 eb4 eba ebb ebd ecd ece f71 f84 f8d f98 f99 fbd 102b
1037 1038 1039 103b 103f 1056 105a 105e 1061 1062 1065 1067 106e 1071 1075 1082 108e 108f 1090
109a 109e 1712 1714 1732 1734 1752 1754 1772 1774 17b6 17c9 1885 1887 18a9 18aa 1920 192c 1930
1939 1a17 1a1c 1a55 1a5f 1a61 1a75 1abf 1ac1 1acc 1acf 1b00 1b05 1b35 1b44 1b80 1b83 1ba1 1baa
1bac 1bae 1be7 1bf2 1c24 1c37 1dd3 1df5 24b6 24ea 2de0 2e00 a674 a67c a69e a6a0 a802 a803 a80b
a80c a823 a828 a880 a882 a8b4 a8c4 a8c5 a8c6 a8ff a900 a926 a92b a947 a953 a980 a984 a9b4 a9c0
a9e5 a9e6 aa29 aa37 aa43 aa44 aa4c aa4e aa7b aa7e aab0 aab1 aab2 aab5 aab7 aab9 aabe aabf aaeb
aaf0 aaf5 aaf6 abe3 abeb fb1e fb1f 10376 1037b 10a01 10a04 10a05 10a07 10a0c 10a10 10d24 10d28
10d69 10d6a 10eab 10ead 10efa 10efd 11000 11003 11038 11046 11073 11075 11080 11083 110b0 110b9
110c2 110c3 11100 11103 11127 11133 11145 11147 11180 11183 111b3 111c0 111ce 111d0 1122c 11235
11237 11238 1123e 1123f 11241 11242 112df 112e9 11300 11304 1133e 11345 11347 11349 1134b 1134d
11357 11358 11362 11364 113b8 113c1 113c2 113c3 113c5 113c6 113c7 113cb 113cc 113ce 11435 11442
11443 11446 114b0 114c2 115af 115b6 115b8 115bf 115dc 115de 11630 1163f 11640 11641 116ab 116b6
1171d 1172b 1182c 11839 11930 11936 11937 11939 1193b 1193d 11940 11941 11942 11943 119d1 119d8
119da 119e0 119e4 119e5 11a01 11a0b 11a35 11a3a 11a3b 11a3f 11a51 11a5c 11a8a 11a98 11b60 11b68
11c2f 11c37 11c38 11c3f 11c92 11ca8 11ca9 11cb7 11d31 11d37 11d3a 11d3b 11d3c 11d3e 11d3f 11d42
11d43 11d44 11d47 11d48 11d8a 11d8f 11d90 11d92 11d93 11d97 11ef3 11ef7 11f00 11f02 11f03 11f04
11f34 11f3b 11f3e 11f41 1611e 1612f 16f4f 16f50 16f51 16f88 16f8f 16f93 16ff0 16ff2 1bc9e 1bc9f
1e000 1e007 1e008 1e019 1e01b 1e022 1e023 1e025 1e026 1e02b 1e08f 1e090 1e6e3 1e6e4 1e6e6 1e6e7
1e6ee 1e6f0 1e6f5 1e6f6 1e947 1e948 1f130 1f14a 1f150 1f16a 1f170 1f18a"

/-- Characters that extend the one before them and are neither nonspacing nor enclosing marks. -/
def moreGraphemeExtend : Bounds := .ofText "
9be 9bf 9d7 9d8 b3e b3f b57 b58 bbe bbf bd7 bd8 cc0 cc1 cc2 cc3 cc7 cc9 cca ccc cd5 cd7 d3e d3f
d57 d58 dcf dd0 ddf de0 1715 1716 1734 1735 1b35 1b36 1b3b 1b3c 1b3d 1b3e 1b43 1b45 1baa 1bab
1bf2 1bf4 200c 200d 302e 3030 a953 a954 a9c0 a9c1 ff9e ffa0 111c0 111c1 11235 11236 1133e 1133f
1134d 1134e 11357 11358 113b8 113b9 113c2 113c3 113c5 113c6 113c7 113ca 113cf 113d0 114b0 114b1
114bd 114be 115af 115b0 116b6 116b7 11930 11931 1193d 1193e 11f41 11f42 16ff0 16ff2 1d165 1d167
1d16d 1d173 e0020 e0080"

namespace Property

/-- Whether a code point is a letter of some kind, or used like one. -/
def isAlphabetic (n : Nat) : Bool :=
  [Category.lu, .ll, .lt, .lm, .lo, .nl].contains (Category.of n) || moreAlphabetic.contains n

/-- Whether a code point is a number of any kind. -/
def isNumeric (n : Nat) : Bool := [Category.nd, .nl, .no].contains (Category.of n)

/-- Whether a code point is a mark, which goes with the character before it. -/
def isMark (n : Nat) : Bool := [Category.mn, .mc, .me].contains (Category.of n)

/-- Whether a code point extends the character before it. -/
def isGraphemeExtend (n : Nat) : Bool :=
  [Category.mn, .me].contains (Category.of n) || moreGraphemeExtend.contains n

/-- Whether a code point is a filler of the Korean script, a letter that leaves no mark. -/
def isFiller (n : Nat) : Bool := [0x115F, 0x1160, 0x3164, 0xFFA0].contains n

end Property

end TwoStack.Unicode
